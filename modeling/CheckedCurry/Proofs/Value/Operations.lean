import CheckedCurry.Capability.Meaning
import CheckedCurry.Proofs.Value.Faults

/-!
# Faults of operations

Equality, sums and the joining of arrays and maps end in basic faults only.  So a fault that says a
value lacks a capability comes from the choice of an operation, and from nothing that the operation
does once it is chosen.

- `isBasic_equals`, `isBasic_plus`: equality, by induction on values, and sums.
- `isBasic_joinArrays`, `isBasic_joinMaps`, `isBasic_bothNaN`: what is done with values that are not
  optional.
- `isBasic_asBoolean`, `isBasic_emptyLike`: operations on values that support them.
-/

namespace CheckedCurry.Value

open Attempt
open Capability (Operation)

/-! ## Keys and equality -/

mutual

theorem isBasic_key : ∀ v : Value, v.key.IsBasic
  | tuple items => by
    rw [key]
    exact isBasic_keyTuple items
  | just v | left v | right v => by
    rw [key]
    exact (isBasic_key v).map _
  | bound f receiver => by
    rw [key]
    exact (isBasic_key f).bind fun _ => (isBasic_key receiver).map _
  | decimal d => by
    rw [key]
    split
    · exact isBasic_fail _
    · exact isBasic_ok _
  | moment m => by
    rw [key]
    split <;> exact isBasic_ok _
  | object shape _ none | object _ _ (some (.number n)) | object _ _ (some (.text s)) => by
    rw [key]
    exact isBasic_ok _
  | object _ _ (some (.list _)) => by
    rw [key]
    exact isBasic_fail _
  | type mark t => by
    cases mark with
    | some mark =>
      rw [key]
      exact isBasic_ok _
    | none => cases t <;> rw [key] <;> first | exact isBasic_ok _ | nofun
  | list _ | map _ | deque _ => by
    rw [key]
    exact isBasic_fail _
  | null | undefined | placeholder | bool _ | number _ | text _ | bytes _ | duration _ | pattern _
  | range _ | identifier _ | nothing | error .. | cls _ | constructor _ | helper _ | standard _
  | constant .. | failing .. | collecting .. | curried .. => by
    rw [key]
    exact isBasic_ok _

theorem isBasic_keyTuple : ∀ vs : List Value, (keyTuple vs).IsBasic
  | [] => by
    rw [keyTuple]
    exact isBasic_ok _
  | v :: vs => by
    rw [keyTuple]
    exact (isBasic_key v).bind fun _ => (isBasic_keyTuple vs).map _

end

theorem isBasic_leafEquals (v w : Value) : (leafEquals v w).IsBasic := by
  unfold leafEquals
  split
  · exact isBasic_fail _
  · exact isBasic_ok _

theorem isBasic_require (operand : String) (attrs : List (String × Value)) (name : String) :
    (require operand attrs name).IsBasic := by
  unfold require
  split
  · exact isBasic_ok _
  · exact isBasic_fail _

theorem isBasic_flagEq (shape : Shape) (attrs : List (String × Value)) (name : String)
    (flag : Bool) : (flagEq shape attrs name flag).IsBasic :=
  (isBasic_require shape.className attrs name).map _

mutual

/-- Equality ends in basic faults only. -/
theorem isBasic_equals : ∀ v w : Value, (equals v w).IsBasic
  | nothing, w => by
    unfold equals
    split
    · exact isBasic_ok _
    · exact isBasic_ite (isBasic_flagEq _ _ _ _) (isBasic_ok _)
    · exact isBasic_ok _
  | just v, w => by
    unfold equals
    split
    · exact isBasic_equals v _
    · refine isBasic_ite ((isBasic_flagEq _ _ _ _).bind fun present => ?_) (isBasic_ok _)
      exact isBasic_ite ((isBasic_require _ _ _).bind fun u => isBasic_equals v u) (isBasic_ok _)
    · exact isBasic_ok _
  | left v, w | right v, w => by
    unfold equals
    split
    · exact isBasic_equals v _
    · refine isBasic_ite ((isBasic_flagEq _ _ _ _).bind fun side => ?_) (isBasic_ok _)
      exact isBasic_ite ((isBasic_require _ _ _).bind fun u => isBasic_equals v u) (isBasic_ok _)
    · exact isBasic_ok _
  | list vs, w => by
    unfold equals
    split
    · exact isBasic_ite (isBasic_equalElements vs _) (isBasic_ok _)
    · exact isBasic_ok _
  | deque vs, w => by
    unfold equals
    split
    · exact isBasic_ite (isBasic_equalElements vs _) (isBasic_ok _)
    · exact isBasic_ok _
  | tuple vs, w => by
    unfold equals
    split
    · exact isBasic_equalElements vs _
    · exact isBasic_ok _
    · exact isBasic_ok _
  | identifier i, w => by
    unfold equals
    split <;> exact isBasic_ok _
  | map vs, w => by
    unfold equals
    split
    · exact isBasic_ite (isBasic_equalEntries vs _) (isBasic_ok _)
    · exact isBasic_ok _
  | object shape attrs base, w => by
    unfold equals
    split
    · exact isBasic_ite (isBasic_flagEq _ _ _ _) (isBasic_ok _)
    iterate 3
      refine isBasic_ite ((isBasic_flagEq _ _ _ _).bind fun flag => ?_) (isBasic_ok _)
      exact isBasic_ite (isBasic_equalAttribute shape "value" attrs _) (isBasic_ok _)
    split
    · exact isBasic_ite (isBasic_equalElements _ _) (isBasic_ok _)
    · exact isBasic_leafEquals _ _
  | null, w | undefined, w | placeholder, w | bool _, w | number _, w | text _, w | decimal _, w
  | bytes _, w | moment _, w | duration _, w | pattern _, w | range _, w | error .., w | cls _, w
  | type .., w | constructor _, w | helper _, w | standard _, w | constant .., w | failing .., w
  | collecting .., w | bound .., w | curried .., w => by
    unfold equals
    exact isBasic_leafEquals _ w

theorem isBasic_equalElements : ∀ vs ws : List Value, (equalElements vs ws).IsBasic
  | [], [] => by
    unfold equalElements
    exact isBasic_ok _
  | v :: vs, w :: ws => by
    unfold equalElements
    refine (isBasic_ite (isBasic_ok _) (isBasic_equals v w)).bind fun same => ?_
    exact isBasic_ite (isBasic_equalElements vs ws) (isBasic_ok _)
  | [], _ :: _ | _ :: _, [] => by
    unfold equalElements
    exact isBasic_ok _

theorem isBasic_equalEntries : ∀ vs ws : List (Value × Value), (equalEntries vs ws).IsBasic
  | [], _ => by
    unfold equalEntries
    exact isBasic_ok _
  | (k, v) :: rest, ws => by
    unfold equalEntries
    refine (isBasic_key k).bind fun found => ?_
    split
    · exact isBasic_ok _
    · refine (isBasic_ite (isBasic_ok _) (isBasic_equals v _)).bind fun same => ?_
      exact isBasic_ite (isBasic_equalEntries rest ws) (isBasic_ok _)

theorem isBasic_equalAttribute (shape : Shape) (name : String) :
    ∀ (attrs : List (String × Value)) (w : Value), (equalAttribute shape name attrs w).IsBasic
  | [], _ => by
    unfold equalAttribute
    exact isBasic_fail _
  | (n, v) :: rest, w => by
    unfold equalAttribute
    exact isBasic_ite (isBasic_equals v w) (isBasic_equalAttribute shape name rest w)

end

/-! ## Sums -/

theorem isBasic_ofDecimal {α : Type} (x : Except DecimalFault α) : (ofDecimal x).IsBasic := by
  cases x with
  | error e => exact isBasic_fail _
  | ok a => exact isBasic_ok a

theorem isBasic_ofTime {α : Type} (make : α → Value) (x : Option α) : (ofTime make x).IsBasic := by
  cases x with
  | none => exact isBasic_fail _
  | some a => exact isBasic_ok _

theorem isBasic_numeric (symbol : String) (onNumbers : Number → Number → Except NumberFault Number)
    (onDecimals : Decimal → Decimal → Except DecimalFault Decimal) (v w : Value) :
    (numeric symbol onNumbers onDecimals v w).IsBasic := by
  unfold numeric
  split
  · exact (isBasic_ofNumber _).map _
  · split
    · exact (isBasic_ofDecimal _).map _
    · exact isBasic_fail _

/-- Sums end in basic faults only. -/
theorem isBasic_plus (mark : Nat) (v w : Value) : (plus mark v w).IsBasic := by
  unfold plus
  split
  case h_5 => exact isBasic_fail _
  case h_6 => exact isBasic_ofTime _ _
  case h_7 | h_8 => exact isBasic_ite (isBasic_ofTime _ _) (isBasic_fail _)
  case h_9 =>
    split
    · exact isBasic_ok _
    · exact isBasic_numeric _ _ _ _ _
  all_goals exact isBasic_ok _

/-! ## Joining and comparing what is not optional -/

theorem isBasic_entries (v : Value) : v.entries.IsBasic := by
  unfold entries
  split
  · exact isBasic_ok _
  · exact isBasic_fail _

theorem isBasic_joinArrays [Host] (mark : Nat) (v w : Value) : (joinArrays mark v w).IsBasic := by
  unfold joinArrays
  split
  · split
    · exact isBasic_fail _
    · exact isBasic_plus mark v w
  · exact (isBasic_spread v).bind fun _ => (isBasic_spread w).map _

theorem isBasic_joinMaps (v w : Value) : (joinMaps v w).IsBasic :=
  (isBasic_entries v).bind fun _ => (isBasic_entries w).map _

theorem isBasic_isNaN (v : Value) : v.isNaN.IsBasic := by
  unfold isNaN
  split
  · exact (isBasic_ofNumber _).map _
  · exact isBasic_ok _

theorem isBasic_bothNaN (v w : Value) : (bothNaN v w).IsBasic := by
  unfold bothNaN
  refine isBasic_ite ((isBasic_isNaN v).bind fun here => ?_) (isBasic_ok _)
  exact isBasic_ite (isBasic_isNaN w) (isBasic_ok _)

/-- What reports a lack does not answer. -/
theorem lacks_ne_ok [Host] {r : Value} (v : Value) (o : Operation) :
    (v.lacks o : Attempt Value) ≠ .ok r := by
  intro h
  obtain ⟨shown, -, hthrow⟩ := bind_eq_ok.mp h
  cases hthrow

/-! ## Truth and emptiness -/

/-- The truth of a value that has one is found without a fault about capabilities. -/
theorem isBasic_asBoolean [Host] {v : Value} (h : v.supports .toBoolean = true) :
    v.asBoolean.IsBasic := by
  unfold asBoolean
  split
  · exact isBasic_ok _
  split
  · exact (isBasic_length v).map _
  split
  · exact isBasic_readAttribute v _
  split
  · exact isBasic_readAttribute v _
  · -- the four conditions are the four unifiers that are supported
    rename_i hboolean harray hmaybe heither
    simp [supports, Operation.supported, hboolean, harray, hmaybe, heither] at h

theorem isBasic_front (v : Value) : v.front.IsBasic := by
  unfold front
  split <;> first | exact isBasic_ok _ | exact isBasic_fail _

/-- The empty value like one that has one is found without a fault about capabilities. -/
theorem isBasic_emptyLike [Host] {v : Value} (h : v.supports .empty = true) : v.emptyLike.IsBasic := by
  unfold emptyLike
  split
  · exact isBasic_ok _
  split
  · exact isBasic_front v
  split
  · exact isBasic_ok _
  split
  · exact isBasic_ok _
  split
  · exact isBasic_ok _
  · rename_i hboolean harray hstring hmaybe hobject
    simp [supports, Operation.supported, hboolean, harray, hstring, hmaybe, hobject] at h

end CheckedCurry.Value
