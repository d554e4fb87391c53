import CheckedCurry.Proofs.Number.Overflow
import CheckedCurry.Proofs.Ty.BuiltIn
import CheckedCurry.Proofs.Ty.Fitting

/-!
# What the numeric types say

Integers, quotients and binary64 numbers stand at points of one line, and the numeric types are about
these points alone: a number without a fractional part is an integer whatever its sort, and a quotient
that rounds to zero is not zero.  Only quotients that are too large for a binary64 number are tested
for nothing but being a number.

- `Number.IsTooLarge`, `Number.isTractable_iff`: which numbers these are.
- `Number.tells_isValid`, `Number.tells_isFinite`, `Number.tells_isInteger`: what the tests of numbers
  tell.
- `Ty.numeric_types_exact`: the members of the numeric types.
-/

namespace CheckedCurry

namespace Number

variable {n : Number}

/-- A quotient has no nearest binary64 number. -/
def IsTooLarge (n : Number) : Prop := ∃ q, n = ratio q ∧ Binary64.overflowBound ≤ |q|

/-- The numbers that can be turned into binary64 numbers where a test asks for it. -/
theorem isTractable_iff : n.isTractable = true ↔ ¬ n.IsTooLarge := by
  cases n with
  | ratio q => simp [isTractable, IsTooLarge, Binary64.isFinite_ofRat_iff]
  | _ => simp [isTractable, IsTooLarge]

/-! ## Points of the line -/

theorem exact_float (x : Binary64) : (float x).exact = .ofBinary64 x := rfl

/-- A finite binary64 number is at a point of the line. -/
theorem exists_point_iff (x : Binary64) :
    (∃ q, (float x).exact = .finite q) ↔ x.isFinite = true := by
  rw [exact_float, Extended.ofBinary64, Binary64.isFinite_iff_toRat?_isSome]
  cases x.toRat? <;> simp

/-- Only what is not a number is nowhere. -/
theorem exact_ne_nowhere_iff : n.exact ≠ .nowhere ↔ n.isNaN = false := by
  cases n with
  | float x =>
    rw [exact_float, Extended.ofBinary64]
    cases x.toRat? <;> simp [isNaN]
  | _ => simp [isNaN]

/-- A point without a fractional part is an integer. -/
theorem den_eq_one_iff {q : Rat} : (q.den == 1) = true ↔ ∃ k : Int, q = k := by
  rw [beq_iff_eq]
  constructor
  · intro h
    exact ⟨q.num, (Rat.coe_int_num_of_den_eq_one h).symm⟩
  · rintro ⟨k, rfl⟩
    exact Rat.den_intCast k

/-! ## Properties -/

/-- A quotient is turned into a binary64 number first. -/
theorem isValid_ratio (q : Rat) :
    (ratio q).isValid = do return (← (ratio q).toFloat?).isSome := rfl

theorem isFinite_ratio (q : Rat) :
    (ratio q).isFinite = do return (← (ratio q).toFloat?).any Binary64.isFinite := rfl

theorem tells_isValid (h : ¬ n.IsTooLarge) : Tells n.isValid (n.exact ≠ .nowhere) := by
  rw [exact_ne_nowhere_iff]
  rw [← isTractable_iff] at h
  cases n with
  | ratio q =>
    refine ⟨true, ?_, by simp [isNaN]⟩
    rw [isValid_ratio, toFloat?_ratio h]
    rfl
  | _ => exact tells_ok (by simp [isNaN])

theorem tells_isFinite (h : ¬ n.IsTooLarge) : Tells n.isFinite (∃ q, n.exact = .finite q) := by
  rw [← isTractable_iff] at h
  cases n with
  | int k => exact tells_ok (by simp)
  | float x => exact tells_ok (exists_point_iff x).symm
  | nan mark => exact tells_ok (by simp)
  | ratio q =>
    refine ⟨true, ?_, by simp⟩
    have hfinite : (Binary64.ofRat false q).isFinite = true := h
    rw [isFinite_ratio, toFloat?_ratio h]
    exact congrArg Except.ok hfinite

theorem tells_isInteger (h : ¬ n.IsTooLarge) :
    Tells n.isInteger (∃ k : Int, n.exact = .finite k) := by
  obtain ⟨b, hb, hfinite⟩ := tells_isFinite h
  unfold isInteger
  rw [hb]
  cases hexact : n.exact with
  | finite q =>
    obtain rfl : b = true := hfinite.mpr ⟨q, hexact⟩
    exact tells_ok (by simpa using den_eq_one_iff)
  | infinite s | nowhere =>
    obtain rfl : b = false := by
      rw [← Bool.not_eq_true, hfinite, hexact]
      simp
    exact tells_ok (by simp)

/-- What is nonzero is at another point than zero. -/
theorem tells_nonZero (h : ¬ n.IsTooLarge) :
    Tells (do return (← n.isFinite) && !n.isZero) (∃ q, n.exact = .finite q ∧ q ≠ 0) := by
  refine ((tells_isFinite h).and (c := !n.isZero) Iff.rfl).congr ?_
  unfold isZero
  cases hexact : n.exact <;> simp [Extended.eq]

/-- What is a natural number is at one of their points. -/
theorem tells_isNatural [Host] (h : ¬ n.IsTooLarge) :
    Tells (do return (← n.isInteger) && n.isNonNegative) (∃ k : Nat, n.exact = .finite k) := by
  refine ((tells_isInteger h).and (c := n.isNonNegative) Iff.rfl).congr ?_
  constructor
  · rintro ⟨⟨k, hk⟩, hle⟩
    have hnonneg : (0 : Rat) ≤ k := by
      unfold isNonNegative at hle
      rw [hk] at hle
      simp only [Extended.le, Extended.lt, Extended.eq, Bool.or_eq_true, decide_eq_true_eq,
        beq_iff_eq] at hle
      exact le_iff_lt_or_eq.mpr hle
    obtain ⟨m, rfl⟩ := Int.eq_ofNat_of_zero_le (Int.cast_nonneg_iff.mp hnonneg)
    exact ⟨m, hk⟩
  · rintro ⟨k, hk⟩
    refine ⟨⟨k, hk⟩, ?_⟩
    unfold isNonNegative
    rw [hk]
    simp only [Extended.le, Extended.lt, Extended.eq, Bool.or_eq_true, decide_eq_true_eq,
      beq_iff_eq]
    exact le_iff_lt_or_eq.mp (Nat.cast_nonneg k)

/-- A quotient that is too large is turned into a binary64 number for every property. -/
theorem fails_of_isTooLarge (h : n.IsTooLarge) : n.isValid = .error .quotientTooLarge ∧
    n.isFinite = .error .quotientTooLarge ∧ n.isInteger = .error .quotientTooLarge := by
  obtain ⟨q, rfl, -⟩ := id h
  have htractable : (ratio q).isTractable = false := by
    rw [← Bool.not_eq_true, isTractable_iff]
    exact not_not_intro h
  have hfinite : (ratio q).isFinite = .error .quotientTooLarge := by
    rw [isFinite_ratio, toFloat?_quotient htractable]
    rfl
  refine ⟨?_, hfinite, ?_⟩
  · rw [isValid_ratio, toFloat?_quotient htractable]
    rfl
  · unfold isInteger
    rw [hfinite]
    rfl

end Number

namespace Test

variable {v : Value} {n : Number} {property : Number → Except NumberFault Bool} {P : Prop}

theorem onNumber_of_number (hv : v.numberOfKind? = some n) :
    onNumber property v = Attempt.ofNumber (property n) := by
  unfold onNumber
  rw [hv]

theorem exists_number_of_onNumber (h : onNumber property v = .ok true) :
    ∃ n, v.numberOfKind? = some n := by
  cases hv : v.numberOfKind? with
  | some n => exact ⟨n, rfl⟩
  | none =>
    unfold onNumber at h
    rw [hv] at h
    cases h

end Test

namespace Ty

variable {t u : Ty} {v : Value} {n : Number}

/-- The types that ask for a property of a number. -/
def numericProperties : List Ty :=
  [validNumber, finiteNumber, nonZeroFiniteNumber, integer, nonNegativeInteger]

/-- The types of numbers. -/
def numeric : List Ty := ofKind .number :: numericProperties

/-- A type answers for a value, and takes it exactly if the property holds. -/
def TakesIff [Host] (t : Ty) (v : Value) (P : Prop) : Prop := Tells (t.isMember v) P

/-- A value is taken by the types of numbers as the point that it is at asks. -/
structure TakenAt [Host] (v : Value) (x : Extended) : Prop where
  valid : validNumber.TakesIff v (x ≠ .nowhere)
  finite : finiteNumber.TakesIff v (∃ q, x = .finite q)
  nonZero : nonZeroFiniteNumber.TakesIff v (∃ q, x = .finite q ∧ q ≠ 0)
  integer : integer.TakesIff v (∃ k : Int, x = .finite k)
  natural : nonNegativeInteger.TakesIff v (∃ k : Nat, x = .finite k)

variable [Host]

/-- Membership in a type without parameters is its test. -/
theorem isMember_named (name : String) (test : Test) (v : Value) :
    (named name test).isMember v = test.holds v := by
  unfold isMember named misfit?
  rw [Ty.test]
  cases test.holds v with
  | error f => rfl
  | ok b => cases b <;> rfl

/-- The types that ask for a property of a number ask it of the number that a value is. -/
theorem isMember_property (hv : v.numberOfKind? = some n) :
    validNumber.isMember v = Attempt.ofNumber n.isValid ∧
    finiteNumber.isMember v = Attempt.ofNumber n.isFinite ∧
    nonZeroFiniteNumber.isMember v =
      Attempt.ofNumber (do return (← n.isFinite) && !n.isZero) ∧
    integer.isMember v = Attempt.ofNumber n.isInteger ∧
    nonNegativeInteger.isMember v =
      Attempt.ofNumber (do return (← n.isInteger) && n.isNonNegative) := by
  simp only [validNumber, finiteNumber, nonZeroFiniteNumber, integer, nonNegativeInteger,
    isMember_named, Test.holds, Test.onNumber_of_number hv, and_self]

theorem takesIff_of_eq {x : Except NumberFault Bool} {P : Prop}
    (h : t.isMember v = Attempt.ofNumber x) (hx : Tells x P) : t.TakesIff v P := by
  unfold TakesIff
  rw [h]
  exact hx.ofNumber

/-- A number that is no quotient of too large a size is taken as its point asks. -/
theorem takenAt_of_number (hv : v.numberOfKind? = some n) (h : ¬ n.IsTooLarge) :
    TakenAt v n.exact := by
  obtain ⟨hvalid, hfinite, hnonZero, hinteger, hnatural⟩ := isMember_property hv
  exact {
    valid := takesIff_of_eq hvalid (Number.tells_isValid h)
    finite := takesIff_of_eq hfinite (Number.tells_isFinite h)
    nonZero := takesIff_of_eq hnonZero (Number.tells_nonZero h)
    integer := takesIff_of_eq hinteger (Number.tells_isInteger h)
    natural := takesIff_of_eq hnatural (Number.tells_isNatural h) }

/-- No property of a quotient that is too large is told. -/
theorem isMember_of_isTooLarge (hv : v.numberOfKind? = some n) (h : n.IsTooLarge) :
    ∀ t ∈ numericProperties, t.isMember v = .error (.basic (.number .quotientTooLarge)) := by
  obtain ⟨hvalid, hfinite, hnonZero, hinteger, hnatural⟩ := isMember_property hv
  obtain ⟨hvalid', hfinite', hinteger'⟩ := Number.fails_of_isTooLarge h
  rw [hvalid'] at hvalid
  rw [hfinite'] at hfinite hnonZero
  rw [hinteger'] at hinteger hnatural
  intro t ht
  simp only [numericProperties, List.mem_cons, List.not_mem_nil, or_false] at ht
  rcases ht with rfl | rfl | rfl | rfl | rfl
  · exact hvalid
  · exact hfinite
  · exact hnonZero
  · exact hinteger
  · exact hnatural

/-- A value of a type that asks for a property is a number, and not too large a quotient. -/
theorem exists_number_of_isMember (ht : t ∈ numericProperties) (h : t.isMember v = .ok true) :
    ∃ n, v.numberOfKind? = some n ∧ TakenAt v n.exact := by
  have hnumber : ∃ n, v.numberOfKind? = some n := by
    simp only [numericProperties, List.mem_cons, List.not_mem_nil, or_false] at ht
    rcases ht with rfl | rfl | rfl | rfl | rfl <;>
      exact Test.exists_number_of_onNumber ((isMember_named _ _ v).symm.trans h)
  obtain ⟨n, hv⟩ := hnumber
  have hlarge : ¬ n.IsTooLarge := by
    intro hlarge
    cases h.symm.trans (isMember_of_isTooLarge hv hlarge t ht)
  exact ⟨n, hv, takenAt_of_number hv hlarge⟩

theorem isMember_number (hv : v.numberOfKind? = some n) : (ofKind .number).isMember v = .ok true := by
  rw [ofKind, isMember_named]
  unfold Value.numberOfKind? at hv
  split at hv
  · rename_i hkind
    exact congrArg Except.ok (decide_eq_true hkind)
  · cases hv

/-- No truth value is a number. -/
theorem isMember_bool (ht : t ∈ numeric) (b : Bool) : t.isMember (.bool b) = .ok false := by
  simp only [numeric, numericProperties, List.mem_cons, List.not_mem_nil, or_false] at ht
  rcases ht with rfl | rfl | rfl | rfl | rfl | rfl <;> exact isMember_named _ _ _

/-- A value that is a member of one type is a member of another one too. -/
def WithinAt (v : Value) (t u : Ty) : Prop := t.isMember v = .ok true → u.isMember v = .ok true

/-- A type of numbers lies within another one if its property of the point implies the other one. -/
theorem within_of_implies {P Q : Extended → Prop} (ht : t ∈ numericProperties)
    (hP : ∀ v x, TakenAt v x → t.TakesIff v (P x)) (hQ : ∀ v x, TakenAt v x → u.TakesIff v (Q x))
    (himplies : ∀ x, P x → Q x) (v : Value) : WithinAt v t u := by
  intro h
  obtain ⟨n, -, htaken⟩ := exists_number_of_isMember ht h
  exact (hQ v _ htaken).eq_ok_iff.mpr (himplies _ ((hP v _ htaken).eq_ok_iff.mp h))

/-- **The numeric types say what a number is**, integer, quotient or binary64 number alike.  They ask
nothing but at which point it is, except that a quotient beyond the bound of binary64 numbers, which
is a number, fails in each of the others. -/
theorem numeric_types_exact (v : Value) :
    (∀ n, v.numberOfKind? = some n →
      (ofKind .number).isMember v = .ok true ∧
      (¬ n.IsTooLarge → TakenAt v n.exact) ∧
      (n.IsTooLarge → ∀ t ∈ numericProperties,
        t.isMember v = .error (.basic (.number .quotientTooLarge)))) ∧
    (∀ b, v = .bool b → ∀ t ∈ numeric, t.isMember v = .ok false) ∧
    WithinAt v nonNegativeInteger integer ∧ WithinAt v integer finiteNumber ∧
    WithinAt v nonZeroFiniteNumber finiteNumber ∧ WithinAt v finiteNumber validNumber ∧
    WithinAt v validNumber (ofKind .number) := by
  refine ⟨fun n hv => ⟨isMember_number hv, takenAt_of_number hv, isMember_of_isTooLarge hv⟩,
    ?_, ?_, ?_, ?_, ?_, ?_⟩
  · rintro b rfl t ht
    exact isMember_bool ht b
  · refine within_of_implies (by simp [numericProperties]) (fun _ _ h => h.natural)
      (fun _ _ h => h.integer) ?_ v
    rintro _ ⟨k, rfl⟩
    exact ⟨k, rfl⟩
  · refine within_of_implies (by simp [numericProperties]) (fun _ _ h => h.integer)
      (fun _ _ h => h.finite) ?_ v
    rintro _ ⟨k, rfl⟩
    exact ⟨k, rfl⟩
  · refine within_of_implies (by simp [numericProperties]) (fun _ _ h => h.nonZero)
      (fun _ _ h => h.finite) ?_ v
    rintro _ ⟨q, rfl, -⟩
    exact ⟨q, rfl⟩
  · refine within_of_implies (by simp [numericProperties]) (fun _ _ h => h.finite)
      (fun _ _ h => h.valid) ?_ v
    rintro _ ⟨q, rfl⟩
    nofun
  · intro h
    obtain ⟨n, hv, -⟩ := exists_number_of_isMember (by simp [numericProperties]) h
    exact isMember_number hv

omit [Host] in
/-- A quotient that rounds to zero, and one that is too large. -/
theorem numeric_types_exact_at_both_ends : letI : Host := .bare
    let tiny : Number := .ratio (mkRat 1 (Nat.pow 10 400))
    let huge : Number := .ratio (mkRat (Int.pow 10 400) 3)
    ¬ tiny.IsTooLarge ∧ nonZeroFiniteNumber.isMember (.number tiny) = .ok true ∧
    integer.isMember (.number tiny) = .ok false ∧ huge.IsTooLarge ∧
    (ofKind .number).isMember (.number huge) = .ok true ∧
    finiteNumber.isMember (.number huge) = .error (.basic (.number .quotientTooLarge)) := by
  let _ : Host := .bare
  intro tiny huge
  have htiny : ¬ tiny.IsTooLarge := Number.isTractable_iff.mp (by decide +kernel)
  have hhuge : huge.IsTooLarge := by
    rw [← not_not (a := huge.IsTooLarge), ← Number.isTractable_iff]
    decide +kernel
  obtain ⟨-, htaken, -⟩ := (numeric_types_exact (.number tiny)).1 tiny rfl
  obtain ⟨hnumber, -, hfails⟩ := (numeric_types_exact (.number huge)).1 huge rfl
  have hpoint : tiny.exact = .finite (mkRat 1 (Nat.pow 10 400)) := rfl
  refine ⟨htiny, ?_, ?_, hhuge, hnumber, hfails hhuge _ (by simp [numericProperties])⟩
  · exact (htaken htiny).nonZero.eq_ok_iff.mpr ⟨_, hpoint, by decide +kernel⟩
  · obtain ⟨b, hb, hinteger⟩ := (htaken htiny).integer
    have hfalse : b = false := by
      rw [← Bool.not_eq_true, hinteger, hpoint]
      rintro ⟨k, hk⟩
      have hden := congrArg Rat.den (Extended.finite.inj hk)
      revert hden
      rw [Rat.den_intCast]
      decide +kernel
    rw [hb, hfalse]

end Ty

end CheckedCurry
