import CheckedCurry.Number.Radix
import CheckedCurry.Proofs.Number.Digits

/-!
# Integers written in a radix

A text is tested for being nothing but a number without its sign and its mark, and then read as a
literal with them.  Literals have forms that the test does not let through, such as blanks around a
number, underscores and digits of other scripts.  On the texts it does let through the two agree.

- `Radix.Writes`: a text is a sign, a mark and digits, and writes an integer.
- `Radix.isPlain_iff`: the test lets exactly those texts through that write an integer.
- `Radix.readLiteral?_of_writes`: such a text is a literal of that integer.
- `Radix.write`, `Radix.writes_write`: the text of an integer in a radix, in either case, writes it.
-/

namespace CheckedCurry.Radix

open Digits (Spells isIn)

variable {radix r : Nat} {n k : Int} {s : String} {c x : Char} {cs sign mark digits : List Char}
  {negative : Bool}

/-! ## The grammar -/

/-- What may stand for the sign of an integer, and whether it is a minus. -/
def signs : List (List Char × Bool) := [([], false), (['+'], false), (['-'], true)]

/-- What may stand between the sign and the digits.  Only radix sixteen has marks. -/
def marks (radix : Nat) : List (List Char) :=
  if radix = 16 then [[], ['0', 'x'], ['0', 'X']] else [[]]

/-- A text writes an integer in a radix: a sign, a mark and digits, and nothing else. -/
def Writes (radix : Nat) (s : String) (n : Int) : Prop :=
  ∃ sign negative mark digits m, (sign, negative) ∈ signs ∧ mark ∈ marks radix ∧
    s.toList = sign ++ (mark ++ digits) ∧ Spells radix digits m ∧ n = signed negative m

theorem nil_mem_marks : [] ∈ marks radix := by
  unfold marks
  split <;> simp

/-- A mark is empty or that of radix sixteen. -/
theorem mark_cases (h : mark ∈ marks radix) :
    mark = [] ∨ radix = 16 ∧ ∃ x, mark = ['0', x] ∧ (x = 'x' ∨ x = 'X') := by
  unfold marks at h
  split at h
  · next hsixteen =>
    simp only [List.mem_cons, List.not_mem_nil, or_false] at h
    rcases h with rfl | rfl | rfl
    · exact .inl rfl
    · exact .inr ⟨hsixteen, 'x', rfl, .inl rfl⟩
    · exact .inr ⟨hsixteen, 'X', rfl, .inr rfl⟩
  · exact .inl (List.mem_singleton.mp h)

/-! ## Characters of numbers -/

/-- A digit is an ASCII character: each range of digits ends there. -/
theorem toNat_lt_of_isIn (h : isIn radix c = true) : c.toNat < 128 := by
  have hbelow (last : Char) (hlast : last.toNat < 128) (hc : c.val ≤ last.val) : c.toNat < 128 :=
    Nat.lt_of_le_of_lt (UInt32.le_iff_toNat_le.mp hc) hlast
  obtain ⟨d, hd, -⟩ := Digits.isIn_iff.mp h
  unfold Digits.valueOf? at hd
  split at hd
  · next hdigit =>
    have hlast : c.val ≤ '9'.val := of_decide_eq_true (Bool.and_eq_true_iff.mp hdigit).2
    exact hbelow '9' (by decide) hlast
  · split at hd
    · next hupper =>
      have hlast : c.val ≤ 'Z'.val := (of_decide_eq_true hupper).2
      exact hbelow 'Z' (by decide) hlast
    · split at hd
      · next hlower =>
        have hlast : c.val ≤ 'z'.val := of_decide_eq_true (Bool.and_eq_true_iff.mp hlower).2
        exact hbelow 'z' (by decide) hlast
      · cases hd

/-- A character is read as it stands: it is no blank and no digit of another script. -/
def IsClear (c : Char) : Prop := Text.isMargin c = false ∧ Text.asciiDigit c = c

instance (c : Char) : Decidable (IsClear c) := inferInstanceAs (Decidable (_ ∧ _))

/-- A digit is read as it stands, and is neither a sign nor an underscore. -/
theorem clear_of_isIn (h : isIn radix c = true) :
    IsClear c ∧ c ≠ '+' ∧ c ≠ '-' ∧ c ≠ '_' := by
  obtain ⟨d, hd, -⟩ := Digits.isIn_iff.mp h
  have hall : ∀ k < 128, (Digits.valueOf? (Char.ofNat k)).isSome → IsClear (Char.ofNat k) ∧
      Char.ofNat k ≠ '+' ∧ Char.ofNat k ≠ '-' ∧ Char.ofNat k ≠ '_' := by
    decide +kernel
  have hc := hall c.toNat (toNat_lt_of_isIn h)
  rw [Char.ofNat_toNat] at hc
  exact hc (by rw [hd, Option.isSome_some])

/-- A text of characters that are read as they stand is its own numeral. -/
theorem numeral_eq (h : ∀ c ∈ s.toList, IsClear c) : Text.numeral s = s := by
  have hkeep (cs : List Char) (hcs : ∀ c ∈ cs, IsClear c) : cs.dropWhile Text.isMargin = cs := by
    cases cs with
    | nil => rfl
    | cons c cs => exact List.dropWhile_cons_of_neg (by simp [(hcs c List.mem_cons_self).1])
  unfold Text.numeral
  dsimp only
  rw [hkeep _ h, hkeep _ fun c hc => h c (List.mem_reverse.mp hc), List.reverse_reverse,
    List.map_congr_left (g := id) fun c hc => (h c hc).2, List.map_id, String.ofList_toList]

/-- The letter of a radix is no digit of it. -/
theorem not_isIn_of_ofLetter? (h : ofLetter? x = some r) : isIn r x = false := by
  unfold ofLetter? at h
  split at h
  · next hx =>
    obtain rfl := Option.some.inj h
    rcases (by simpa using hx : x = 'x' ∨ x = 'X') with rfl | rfl <;> decide
  · split at h
    · next hx =>
      obtain rfl := Option.some.inj h
      rcases (by simpa using hx : x = 'o' ∨ x = 'O') with rfl | rfl <;> decide
    · split at h
      · next hx =>
        obtain rfl := Option.some.inj h
        rcases (by simpa using hx : x = 'b' ∨ x = 'B') with rfl | rfl <;> decide
      · cases h

/-! ## The sign and the mark -/

section Parts

variable (hsign : (sign, negative) ∈ signs) (hmark : mark ∈ marks radix)
  (hdigits : ∀ c ∈ digits, isIn radix c = true)

include hsign in
/-- A sign is taken off a text that does not start with another. -/
theorem splitSign_append (h : ∀ c ∈ cs.head?, c ≠ '+' ∧ c ≠ '-') :
    splitSign (sign ++ cs) = (negative, cs) := by
  simp only [signs, List.mem_cons, Prod.mk.injEq, List.not_mem_nil, or_false] at hsign
  rcases hsign with ⟨rfl, rfl⟩ | ⟨rfl, rfl⟩ | ⟨rfl, rfl⟩
  · rw [List.nil_append]
    unfold splitSign
    split
    · exact absurd rfl (h '-' rfl).2
    · exact absurd rfl (h '+' rfl).1
    · rfl
  · rfl
  · rfl

include hmark hdigits in
/-- Neither a mark nor a digit is a sign. -/
theorem ne_sign_of_head (hc : c ∈ (mark ++ digits).head?) : c ≠ '+' ∧ c ≠ '-' := by
  rcases mark_cases hmark with rfl | ⟨-, x, rfl, -⟩
  · have hmem : c ∈ digits := List.mem_of_head? hc
    exact ⟨(clear_of_isIn (hdigits c hmem)).2.1, (clear_of_isIn (hdigits c hmem)).2.2.1⟩
  · obtain rfl : '0' = c := Option.some.inj hc
    decide

include hdigits in
theorem dropMark_digits : dropMark radix digits = digits := by
  unfold dropMark
  split
  · next x cs =>
    split
    · next hx =>
      -- the letter would have to be a digit of radix sixteen
      simp only [Bool.and_eq_true, decide_eq_true_eq, Bool.or_eq_true] at hx
      obtain ⟨rfl, hx⟩ := hx
      have hin : isIn 16 x = true := hdigits x (by simp)
      rcases hx with rfl | rfl <;> exact absurd hin (by decide)
    · rfl
  · rfl

include hmark hdigits in
/-- A mark is taken off digits. -/
theorem dropMark_append : dropMark radix (mark ++ digits) = digits := by
  rcases mark_cases hmark with rfl | ⟨rfl, x, rfl, rfl | rfl⟩
  · exact dropMark_digits hdigits
  · rfl
  · rfl

include hdigits in
theorem dropUnderscore_digits : dropUnderscore digits = digits := by
  unfold dropUnderscore
  split
  · exact absurd rfl (clear_of_isIn (hdigits '_' List.mem_cons_self)).2.2.2
  · rfl

include hmark hdigits in
/-- A literal says the radix that is asked for, or none. -/
theorem split_append (htwo : 2 ≤ radix) : split radix (mark ++ digits) = (radix, digits) := by
  rcases mark_cases hmark with rfl | ⟨rfl, x, rfl, hx⟩
  · rw [List.nil_append]
    unfold split
    rw [if_neg (by omega : ¬ radix = 0)]
    dsimp only
    split
    · next x cs =>
      split
      · next r hr =>
        rw [if_neg]
        -- digits behind a zero are digits, not the letter of their radix
        rintro hasked
        obtain rfl : radix = r := by simpa [show radix ≠ 0 by omega] using hasked
        exact absurd (hdigits x (by simp)) (by simp [not_isIn_of_ofLetter? hr])
      · rfl
    · rfl
  · have hletter : ofLetter? x = some 16 := by rcases hx with rfl | rfl <;> rfl
    show split 16 ('0' :: x :: digits) = (16, digits)
    unfold split
    simp only [hletter, dropUnderscore_digits hdigits, decide_true, Bool.or_true, if_true]

include hdigits in
/-- One or more digits are digits with underscores between them. -/
theorem areDigits_digits (hne : digits ≠ []) : areDigits radix digits = true := by
  have hund (c : Char) (hc : c ∈ digits) : (c != '_') = true :=
    bne_iff_ne.mpr (clear_of_isIn (hdigits c hc)).2.2.2
  have hhead : digits.head? ≠ some '_' := fun h =>
    absurd (hund '_' (List.mem_of_head? h)) (by decide)
  have hlast : digits.getLast? ≠ some '_' := fun h =>
    absurd (hund '_' (List.mem_of_getLast? h)) (by decide)
  have hends : (!digits.isEmpty && digits.head? != some '_' && digits.getLast? != some '_') =
      true := by
    simp [hne, hhead, hlast]
  have hpairs (p : Char × Char) (hp : p ∈ digits.zip (digits.drop 1)) :
      (p.1 != '_' || p.2 != '_') = true := by
    rw [hund p.1 (List.of_mem_zip hp).1, Bool.true_or]
  have hall (c : Char) (hc : c ∈ digits) : (c == '_' || isIn radix c) = true := by
    rw [hdigits c hc, Bool.or_true]
  unfold areDigits
  rw [hends, List.all_eq_true.mpr hall, Bool.and_true, Bool.true_and]
  exact List.all_eq_true.mpr hpairs

end Parts

/-! ## Reading -/

/-- The characters of a written integer are read as they stand. -/
theorem clear_of_writes (h : Writes radix s n) : ∀ c ∈ s.toList, IsClear c := by
  obtain ⟨sign, negative, mark, digits, m, hsign, hmark, htext, hspells, -⟩ := h
  intro c hc
  rw [htext] at hc
  rcases List.mem_append.mp hc with hc | hc
  · have hall : ∀ p ∈ signs, p.1.all (fun c => decide (IsClear c)) = true := by decide +kernel
    exact of_decide_eq_true (List.all_eq_true.mp (hall _ hsign) c hc)
  rcases List.mem_append.mp hc with hc | hc
  · have hall : ∀ mark ∈ marks 16, mark.all (fun c => decide (IsClear c)) = true := by
      decide +kernel
    rcases mark_cases hmark with rfl | ⟨rfl, -⟩
    · cases hc
    · exact of_decide_eq_true (List.all_eq_true.mp (hall mark hmark) c hc)
  · exact (clear_of_isIn (hspells.isIn hc)).1

/-- **A text that writes an integer is a literal of it.** -/
theorem readLiteral?_of_writes (htwo : 2 ≤ radix) (h : Writes radix s n) :
    readLiteral? radix s = some n := by
  have hnumeral : Text.numeral s = s := numeral_eq (clear_of_writes h)
  obtain ⟨sign, negative, mark, digits, m, hsign, hmark, htext, hspells, rfl⟩ := h
  obtain ⟨hne, hdigits, hvalue⟩ := Digits.spells_iff.mp hspells
  have hplain : digits.filter (· != '_') = digits :=
    List.filter_eq_self.mpr fun c hc => bne_iff_ne.mpr (clear_of_isIn (hdigits c hc)).2.2.2
  unfold readLiteral?
  rw [hnumeral, htext, splitSign_append hsign fun c hc => ne_sign_of_head hmark hdigits hc]
  dsimp only
  rw [split_append hmark hdigits htwo]
  dsimp only
  rw [hplain, hvalue, areDigits_digits hdigits hne, decide_eq_false (by omega : ¬ radix = 0)]
  rfl

/-- A text writes one integer at most. -/
theorem Writes.unique (htwo : 2 ≤ radix) (h : Writes radix s n) (h' : Writes radix s k) : n = k :=
  Option.some.inj ((readLiteral?_of_writes htwo h).symm.trans (readLiteral?_of_writes htwo h'))

theorem exists_sign (cs : List Char) :
    ∃ sign, (sign, (splitSign cs).1) ∈ signs ∧ cs = sign ++ (splitSign cs).2 := by
  unfold splitSign
  split
  · exact ⟨['-'], by simp [signs], rfl⟩
  · exact ⟨['+'], by simp [signs], rfl⟩
  · exact ⟨[], by simp [signs], rfl⟩

theorem exists_mark (radix : Nat) (cs : List Char) :
    ∃ mark ∈ marks radix, cs = mark ++ dropMark radix cs := by
  unfold dropMark
  split
  · next x cs =>
    split
    · next hx =>
      simp only [Bool.and_eq_true, decide_eq_true_eq, Bool.or_eq_true] at hx
      obtain ⟨rfl, rfl | rfl⟩ := hx
      · exact ⟨['0', 'x'], by decide, rfl⟩
      · exact ⟨['0', 'X'], by decide, rfl⟩
    · exact ⟨[], nil_mem_marks, rfl⟩
  · exact ⟨[], nil_mem_marks, rfl⟩

/-- **The test lets exactly those texts through that write an integer.** -/
theorem isPlain_iff : isPlain radix s = true ↔ ∃ n, Writes radix s n := by
  constructor
  · intro h
    obtain ⟨sign, hsign, htext⟩ := exists_sign s.toList
    obtain ⟨mark, hmark, hrest⟩ := exists_mark radix (splitSign s.toList).2
    simp only [isPlain, Bool.and_eq_true, Bool.not_eq_true', List.isEmpty_eq_false_iff,
      List.all_eq_true] at h
    exact ⟨_, sign, _, mark, _, _, hsign, hmark, by rw [← hrest, ← htext],
      Digits.spells_iff.mpr ⟨h.1, h.2, rfl⟩, rfl⟩
  · rintro ⟨-, sign, negative, mark, digits, m, hsign, hmark, htext, hspells, -⟩
    obtain ⟨hne, hdigits, -⟩ := Digits.spells_iff.mp hspells
    unfold isPlain
    rw [htext, splitSign_append hsign fun c hc => ne_sign_of_head hmark hdigits hc]
    dsimp only
    rw [dropMark_append hmark hdigits]
    simpa [hne] using hdigits

/-! ## Writing -/

/-- The text of an integer in a radix, with capitals or small letters. -/
def write (capitals : Bool) (radix : Nat) (n : Int) : String :=
  String.ofList ((if n < 0 then ['-'] else []) ++ Digits.write capitals radix n.natAbs)

/-- **The text of an integer writes it**, in either case. -/
theorem writes_write (capitals : Bool) (htwo : 2 ≤ radix) (hmax : radix ≤ 36) (n : Int) :
    Writes radix (write capitals radix n) n := by
  have hspells := Digits.spells_write capitals htwo hmax n.natAbs
  unfold write
  by_cases hneg : n < 0
  · refine ⟨['-'], true, [], _, _, by decide, nil_mem_marks, ?_, hspells, ?_⟩
    · rw [if_pos hneg, String.toList_ofList, List.nil_append]
    · rw [signed, if_pos rfl]
      omega
  · refine ⟨[], false, [], _, _, by decide, nil_mem_marks, ?_, hspells, ?_⟩
    · rw [if_neg hneg, String.toList_ofList]
      rfl
    · rw [signed, if_neg Bool.false_ne_true]
      omega

end CheckedCurry.Radix
