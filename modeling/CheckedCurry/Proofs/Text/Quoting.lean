import CheckedCurry.Number.Literal
import CheckedCurry.Text.Quoted

/-!
# Reading quoted texts

Between double quotes every character can be read from the front, be it escaped or not, and the
closing quote is not the start of one.  So a quoted text ends by itself: whatever follows it, both
the text and what follows are told apart from others.

- `Text.unquote?`: the character that stands first between quotes, and what follows it.
- `Text.unquote?_quoteChar`: a written character is read back.
- `Text.quote_cancel`: quoted texts are told apart.
-/

namespace CheckedCurry.Text

/-! ## Characters -/

/-- The characters that are escaped by a letter or a mark of their own. -/
def escapes : List (Char × Char) :=
  [('"', '"'), ('\\', '\\'), ('n', '\n'), ('r', '\r'), ('t', '\t'), ('f', '\x0c'), ('b', '\x08')]

/-- The character that stands first between quotes, and what follows it. -/
def unquote? : List Char → Option (Char × List Char)
  | '\\' :: 'u' :: a :: b :: c :: d :: rest =>
    some (Char.ofNat (Digits.value 16 [a, b, c, d]), rest)
  | '\\' :: mark :: rest => (escapes.lookup mark).map (·, rest)
  | c :: rest => if c = '"' ∨ c = '\\' then none else some (c, rest)
  | [] => none

/-- A character that needs no escape stands for itself. -/
theorem unquote?_cons {c : Char} (hquote : c ≠ '"') (hslash : c ≠ '\\') (rest : List Char) :
    unquote? (c :: rest) = some (c, rest) := by
  unfold unquote?
  split <;> simp_all

/-- Controls are escaped by four digits, which say what they are. -/
theorem value_hex_control : ∀ n < 0x20,
    (hex 4 n).toList = ['0', '0', Nat.digitChar (n / 16), Nat.digitChar (n % 16)] ∧
      Digits.value 16 ['0', '0', Nat.digitChar (n / 16), Nat.digitChar (n % 16)] = n := by
  decide

/-- A written character is read back, whatever follows it. -/
theorem unquote?_quoteChar (c : Char) (rest : List Char) :
    unquote? ((quoteChar c).toList ++ rest) = some (c, rest) := by
  by_cases hshort : c ∈ escapes.map (·.2)
  · simp only [escapes, List.map_cons, List.map_nil, List.mem_cons, List.not_mem_nil,
      or_false] at hshort
    rcases hshort with rfl | rfl | rfl | rfl | rfl | rfl | rfl <;> rfl
  · simp only [escapes, List.map_cons, List.map_nil, List.mem_cons, List.not_mem_nil,
      or_false, not_or] at hshort
    obtain ⟨hquote, hslash, hline, hreturn, htab, hfeed, hback⟩ := hshort
    unfold quoteChar
    rw [if_neg hquote, if_neg hslash, if_neg hline, if_neg hreturn, if_neg htab, if_neg hfeed,
      if_neg hback]
    split
    · next hcontrol =>
      obtain ⟨hdigits, hvalue⟩ := value_hex_control c.toNat hcontrol
      rw [String.toList_append, hdigits]
      show some (Char.ofNat (Digits.value 16 _), rest) = _
      rw [hvalue, Char.ofNat_toNat]
    · rw [String.toList_singleton]
      exact unquote?_cons hquote hslash rest

/-! ## Texts -/

/-- The characters between the quotes. -/
def quoteChars (cs : List Char) : List Char := cs.flatMap fun c => (quoteChar c).toList

theorem quoteChars_cons (c : Char) (cs : List Char) :
    quoteChars (c :: cs) = (quoteChar c).toList ++ quoteChars cs := List.flatMap_cons

theorem toList_quote (s : String) : (quote s).toList = '"' :: (quoteChars s.toList ++ ['"']) := by
  rw [quote, String.toList_append, String.toList_append, String.toList_join, List.flatMap_map]
  rfl

/-- What stands between quotes is read up to the closing one. -/
theorem quoteChars_cancel {cs ds rest rest' : List Char}
    (h : quoteChars cs ++ '"' :: rest = quoteChars ds ++ '"' :: rest') : cs = ds ∧ rest = rest' := by
  -- no character starts with the closing quote
  have hclosed (rest : List Char) : unquote? ('"' :: rest) = none := rfl
  induction cs generalizing ds with
  | nil =>
    cases ds with
    | nil => exact ⟨rfl, (List.cons.inj h).2⟩
    | cons d ds =>
      rw [quoteChars_cons, List.append_assoc] at h
      have hread := congrArg unquote? h
      rw [unquote?_quoteChar] at hread
      exact absurd ((hclosed rest).symm.trans hread) (by simp)
  | cons c cs ih =>
    rw [quoteChars_cons, List.append_assoc] at h
    cases ds with
    | nil =>
      have hread := congrArg unquote? h
      rw [unquote?_quoteChar] at hread
      exact absurd (hread.trans (hclosed rest')) (by simp)
    | cons d ds =>
      rw [quoteChars_cons, List.append_assoc] at h
      have hread := congrArg unquote? h
      rw [unquote?_quoteChar, unquote?_quoteChar] at hread
      obtain ⟨rfl, hmore⟩ := Prod.mk.inj (Option.some.inj hread)
      obtain ⟨rfl, hrest⟩ := ih hmore
      exact ⟨rfl, hrest⟩

/-- **Quoted texts are told apart**, and so is what follows them. -/
theorem quote_cancel {s t : String} {rest rest' : List Char}
    (h : (quote s).toList ++ rest = (quote t).toList ++ rest') : s = t ∧ rest = rest' := by
  rw [toList_quote, toList_quote, List.cons_append, List.cons_append, List.append_assoc,
    List.append_assoc] at h
  obtain ⟨htexts, hrest⟩ := quoteChars_cancel (List.cons.inj h).2
  exact ⟨String.toList_inj.mp htexts, hrest⟩

end CheckedCurry.Text
