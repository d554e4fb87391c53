import CheckedCurry.Number.Literal
import Mathlib.Data.Nat.Digits.Defs

/-!
# Numbers in digits

What a run of digits says in a radix, told apart from how it is read: each character stands for a
value below the radix, and the number is the sum of these values, each times the power of the radix
at its place.

- `Digits.Spells`: a run of digits spells a number.
- `Digits.spells_iff`: exactly the runs that pass the test for digits spell a number, which is the
  one that is read.
- `Digits.write`, `Digits.spells_write`: the digits of a number, in either case, spell it.
- `Digits.spells_repr`: so does the decimal text of a number.
- `Digits.isNumeral_of_mem_toString`, `Digits.toString_int_injective`: the texts of integers.
-/

namespace CheckedCurry.Digits

variable {radix n d : Nat} {c : Char} {cs : List Char}

/-! ## Spelling -/

/-- One or more digits spell a number: they stand for values below the radix, the last of which
counts for itself. -/
def Spells (radix : Nat) (cs : List Char) (n : Nat) : Prop :=
  cs ≠ [] ∧ ∃ ds : List Nat,
    cs.map valueOf? = ds.map some ∧ (∀ d ∈ ds, d < radix) ∧ Nat.ofDigits radix ds.reverse = n

theorem isIn_iff : isIn radix c = true ↔ ∃ d, valueOf? c = some d ∧ d < radix := by
  unfold isIn
  cases valueOf? c <;> simp

/-- Reading goes through the values of the digits. -/
theorem foldl_values {ds : List Nat} (h : cs.map valueOf? = ds.map some) (a : Nat) :
    cs.foldl (fun n c => n * radix + (valueOf? c).getD 0) a =
      ds.foldl (fun n d => d + radix * n) a := by
  induction cs generalizing ds a with
  | nil =>
    obtain rfl := List.map_eq_nil_iff.mp h.symm
    rfl
  | cons c cs ih =>
    obtain ⟨d, ds, rfl, hd, hds⟩ := List.map_eq_cons_iff.mp h.symm
    show cs.foldl _ (a * radix + (valueOf? c).getD 0) = ds.foldl _ (d + radix * a)
    rw [← hd, Option.getD_some, Nat.add_comm, Nat.mul_comm]
    exact ih hds.symm _

/-- Reading digits from the front is adding up their values from the back. -/
theorem value_eq {ds : List Nat} (h : cs.map valueOf? = ds.map some) :
    value radix cs = Nat.ofDigits radix ds.reverse := by
  rw [Nat.ofDigits_eq_foldr, List.foldr_reverse]
  exact foldl_values h 0

/-- Characters that are digits of a radix have their values. -/
theorem exists_values (h : ∀ c ∈ cs, isIn radix c = true) :
    ∃ ds : List Nat, cs.map valueOf? = ds.map some ∧ ∀ d ∈ ds, d < radix := by
  induction cs with
  | nil => exact ⟨[], rfl, by simp⟩
  | cons c cs ih =>
    obtain ⟨d, hd, hlt⟩ := isIn_iff.mp (h c List.mem_cons_self)
    obtain ⟨ds, hds, hall⟩ := ih fun c hc => h c (List.mem_cons_of_mem _ hc)
    refine ⟨d :: ds, ?_, List.forall_mem_cons.mpr ⟨hlt, hall⟩⟩
    rw [List.map_cons, hd, hds, List.map_cons]

/-- **What is read is what is spelled**: one or more characters, each a digit of the radix. -/
theorem spells_iff :
    Spells radix cs n ↔ cs ≠ [] ∧ (∀ c ∈ cs, isIn radix c = true) ∧ value radix cs = n := by
  constructor
  · rintro ⟨hne, ds, hds, hall, rfl⟩
    refine ⟨hne, fun c hc => ?_, value_eq hds⟩
    have hmem : valueOf? c ∈ ds.map some := hds ▸ List.mem_map_of_mem hc
    obtain ⟨d, hd, heq⟩ := List.mem_map.mp hmem
    exact isIn_iff.mpr ⟨d, heq.symm, hall d hd⟩
  · rintro ⟨hne, hall, rfl⟩
    obtain ⟨ds, hds, hlt⟩ := exists_values hall
    exact ⟨hne, ds, hds, hlt, (value_eq hds).symm⟩

theorem Spells.isIn (h : Spells radix cs n) (hc : c ∈ cs) : isIn radix c = true :=
  (spells_iff.mp h).2.1 c hc

/-- One more digit behind a number: the number counts for the radix each. -/
theorem Spells.concat (h : Spells radix cs n) (hc : valueOf? c = some d) (hd : d < radix) :
    Spells radix (cs ++ [c]) (n * radix + d) := by
  obtain ⟨-, hall, hvalue⟩ := spells_iff.mp h
  refine spells_iff.mpr ⟨by simp, ?_, ?_⟩
  · intro x hx
    rcases List.mem_append.mp hx with hx | hx
    · exact hall x hx
    · rw [List.mem_singleton.mp hx]
      exact isIn_iff.mpr ⟨d, hc, hd⟩
  · rw [value, List.foldl_append, List.foldl_cons, List.foldl_nil, hc, Option.getD_some]
    rw [value] at hvalue
    rw [hvalue]

/-- A single digit spells its value. -/
theorem spells_singleton (hc : valueOf? c = some d) (hd : d < radix) : Spells radix [c] d :=
  ⟨by simp, [d], by rw [List.map_singleton, hc, List.map_singleton], by simpa using hd, by simp⟩

/-! ## Writing -/

/-- The digit of a value below thirty-six, as a capital or a small letter from ten on. -/
def digit (capitals : Bool) (d : Nat) : Char :=
  if d < 10 then Char.ofNat ('0'.toNat + d)
  else Char.ofNat ((if capitals then 'A' else 'a').toNat + (d - 10))

/-- The digits of a number in a radix. -/
def write (capitals : Bool) (radix n : Nat) : List Char :=
  if n = 0 then ['0'] else (Nat.digits radix n).reverse.map (digit capitals)

theorem valueOf?_digit (capitals : Bool) (hd : d < 36) : valueOf? (digit capitals d) = some d := by
  revert d
  cases capitals <;> decide

/-- **The digits of a number spell it**, in either case. -/
theorem spells_write (capitals : Bool) (htwo : 2 ≤ radix) (hmax : radix ≤ 36) (n : Nat) :
    Spells radix (write capitals radix n) n := by
  unfold write
  split
  · next hzero =>
    rw [hzero]
    exact spells_singleton (by decide) (by omega)
  · next hpos =>
    have hlt : ∀ d ∈ (Nat.digits radix n).reverse, d < radix := fun d hd =>
      Nat.digits_lt_base htwo (List.mem_reverse.mp hd)
    refine ⟨?_, (Nat.digits radix n).reverse, ?_, hlt, ?_⟩
    · simpa [Nat.digits_ne_nil_iff_ne_zero] using hpos
    · rw [List.map_map]
      refine List.map_congr_left fun d hd => valueOf?_digit capitals ?_
      exact Nat.lt_of_lt_of_le (hlt d hd) hmax
    · rw [List.reverse_reverse, Nat.ofDigits_digits]

theorem valueOf?_digitChar (hd : d < 10) : valueOf? (Nat.digitChar d) = some d := by
  revert d
  decide

/-- The decimal text of a number spells it. -/
theorem spells_repr (n : Nat) : Spells 10 n.repr.toList n := by
  rw [Nat.repr, String.toList_ofList]
  induction n using Nat.strong_induction_on with
  | _ n ih =>
    by_cases hlt : n < 10
    · rw [Nat.toDigits_of_lt_base hlt]
      exact spells_singleton (valueOf?_digitChar hlt) hlt
    · rw [Nat.toDigits_of_base_le (by decide) (by omega)]
      have hmod : n % 10 < 10 := Nat.mod_lt n (by decide)
      have hspells := (ih (n / 10) (by omega)).concat (valueOf?_digitChar hmod) hmod
      rwa [Nat.div_add_mod'] at hspells

/-! ## Integers -/

/-- A character of the text of an integer: a digit or the sign. -/
def isNumeral (c : Char) : Bool := c == '-' || c.isDigit

/-- Digits spell one number. -/
theorem Spells.unique {m : Nat} (hm : Spells radix cs m) (hn : Spells radix cs n) : m = n :=
  (spells_iff.mp hm).2.2.symm.trans (spells_iff.mp hn).2.2

/-- A text of digits has no sign. -/
theorem repr_ne_negative (m : Nat) (s : String) : m.repr ≠ "-" ++ s := by
  intro h
  have hsign : isIn 10 '-' = true := by
    refine (spells_repr m).isIn ?_
    rw [h, String.toList_append]
    exact List.mem_append_left _ (by decide)
  exact absurd hsign (by decide)

theorem repr_injective : Function.Injective Nat.repr := fun m n h =>
  (spells_repr m).unique (h ▸ spells_repr n)

theorem isNumeral_of_mem_toString {n : Int} (hc : c ∈ (toString n).toList) :
    isNumeral c = true := by
  have hdigit {m : Nat} (hc : c ∈ m.repr.toList) : isNumeral c = true := by
    rw [Nat.toList_repr] at hc
    rw [isNumeral, Nat.isDigit_of_mem_toDigits (by decide) (by decide) hc, Bool.or_true]
  rw [Int.toString_eq_repr, Int.repr_eq_if] at hc
  split at hc
  · exact hdigit hc
  · rw [String.toList_append] at hc
    rcases List.mem_append.mp hc with hc | hc
    · obtain rfl : c = '-' := by simpa using hc
      rfl
    · exact hdigit hc

theorem toList_toString_ne_nil (n : Int) : (toString n).toList ≠ [] := by
  rw [Int.toString_eq_repr, Int.repr_eq_if]
  split
  · exact (spells_repr _).1
  · simp

/-- Integers with one text are equal. -/
theorem toString_int_injective : Function.Injective (toString : Int → String) := by
  intro m n h
  rw [Int.toString_eq_repr, Int.toString_eq_repr, Int.repr_eq_if, Int.repr_eq_if] at h
  split at h <;> split at h
  · have hsize := repr_injective h
    omega
  · exact absurd h (repr_ne_negative _ _)
  · exact absurd h.symm (repr_ne_negative _ _)
  · have htexts := congrArg String.toList h
    rw [String.toList_append, String.toList_append] at htexts
    have hsize := repr_injective (String.toList_inj.mp (List.append_cancel_left htexts))
    omega

end CheckedCurry.Digits
