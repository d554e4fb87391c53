import CheckedCurry.Proofs.Value.Attempt
import CheckedCurry.Ty.Names

/-!
# Faults of looking at values

Showing a value, iterating over it, testing it and naming its types may fail, but only for basic
causes: none of these computations ends in a fault that a call or a check makes.

- `isBasic_display`: showing a value, by induction on values.
- `isBasic_misfit?`, `isBasic_bindings`: looking for misfits and bindings, by induction on types.
- `isBasic_names`: naming the types of a value.
-/

namespace CheckedCurry

variable [Host]

open Attempt

omit [Host] in
/-- What a program answers fails for basic causes only. -/
theorem Attempt.isBasic_ofHost {α : Type} (x : Except Cause α) : IsBasic (ofHost x) := by
  cases x with
  | ok a => exact isBasic_ok a
  | error cause => exact isBasic_fail cause

namespace Value

/-! ## Texts -/

omit [Host] in
theorem isBasic_integerText (n : Int) : (integerText n).IsBasic := isBasic_ofNumber _

theorem isBasic_rangeDisplay (p : Progression) : (rangeDisplay p).IsBasic :=
  (isBasic_mapM isBasic_integerText _).bind fun _ => isBasic_ite (isBasic_fail _) (isBasic_ok _)

omit [Host] in
theorem isBasic_patternDisplay (source : Text.Expression) : (patternDisplay source).IsBasic := by
  cases source with
  | text s => exact isBasic_ok _
  | bytes bs => exact isBasic_fail _

mutual

theorem isBasic_display : ∀ v : Value, v.display.IsBasic
  | .number n => by
    rw [display]
    exact isBasic_ofNumber _
  | .range p => by
    rw [display]
    exact isBasic_rangeDisplay p
  | .identifier i => by
    rw [display]
    exact (isBasic_integerText i.version).map _
  | .pattern source => by
    rw [display]
    exact isBasic_patternDisplay source
  | .list items | .tuple items | .deque items => by
    rw [display]
    exact (isBasic_displayAll items).map _
  | .map entries => by
    rw [display]
    exact (isBasic_displayEntries entries).map _
  | .just v | .left v | .right v => by
    rw [display]
    exact (isBasic_display v).map _
  | .object _ _ none => by
    rw [display]
    exact isBasic_ok _
  | .object _ _ (some (.number _)) => by
    rw [display]
    exact isBasic_ite (isBasic_ofNumber _) (isBasic_ok _)
  | .object _ _ (some (.text _)) => by
    rw [display]
    exact isBasic_ok _
  | .object _ _ (some (.list items)) => by
    rw [display]
    exact isBasic_ite ((isBasic_displayAll items).map _) (isBasic_ok _)
  | .bound f _ => by
    rw [display]
    exact isBasic_display f
  | .curried _ _ _ _ slots => by
    rw [display]
    exact (isBasic_literalAll slots).map _
  | .error _ f => by
    rw [display]
    exact isBasic_literalFault f
  | .text _ | .cls _ | .helper _ | .standard _
  | .constant .. | .failing .. | .collecting .. | .null | .undefined | .placeholder | .bool _
  | .decimal _ | .bytes _ | .moment _ | .duration _ | .nothing | .type .. | .constructor _ => by
    rw [display]
    exact isBasic_ok _

theorem isBasic_displayAll : ∀ vs : List Value, (displayAll vs).IsBasic
  | [] => by
    rw [displayAll]
    exact isBasic_ok _
  | v :: vs => by
    rw [displayAll]
    exact (isBasic_display v).bind fun _ => (isBasic_displayAll vs).map _

theorem isBasic_displayEntries : ∀ es : List (Value × Value), (displayEntries es).IsBasic
  | [] => by
    rw [displayEntries]
    exact isBasic_ok _
  | (k, v) :: es => by
    have hrest (key : String) : IsBasic (do
        let value ← display v
        return (key ++ ": " ++ value) :: (← displayEntries es)) :=
      (isBasic_display v).bind fun _ => (isBasic_displayEntries es).map _
    rw [displayEntries]
    split
    · exact (isBasic_ok _).bind hrest
    · exact (isBasic_display k).bind hrest

theorem isBasic_literal : ∀ v : Value, v.literal.IsBasic
  | .number _ | .range _ => by
    rw [literal]
    exact isBasic_ofNumber _
  | .identifier i => by
    rw [literal]
    exact (isBasic_integerText i.version).map _
  | .list items | .tuple items | .deque items => by
    rw [literal]
    exact (isBasic_literalAll items).map _
  | .map entries => by
    rw [literal]
    exact (isBasic_literalEntries entries).map _
  | .just v | .left v | .right v => by
    rw [literal]
    exact (isBasic_display v).map _
  | .bound f v => by
    rw [literal]
    exact (isBasic_display f).bind fun _ => (isBasic_literal v).map _
  | .curried _ _ _ _ slots => by
    rw [literal]
    exact (isBasic_literalAll slots).map _
  | .error _ f => by
    rw [literal]
    exact isBasic_literalFault f
  | .helper _ => by
    unfold literal
    exact isBasic_ok _
  | .text _ | .pattern _ | .object .. | .cls _ | .standard _
  | .constant .. | .failing .. | .collecting .. | .null | .undefined | .placeholder | .bool _
  | .decimal _ | .bytes _ | .moment _ | .duration _ | .nothing | .type .. | .constructor _ => by
    rw [literal]
    exact isBasic_ok _

theorem isBasic_literalAll : ∀ vs : List Value, (literalAll vs).IsBasic
  | [] => by
    rw [literalAll]
    exact isBasic_ok _
  | v :: vs => by
    rw [literalAll]
    exact (isBasic_literal v).bind fun _ => (isBasic_literalAll vs).map _

theorem isBasic_literalEntries : ∀ es : List (Value × Value), (literalEntries es).IsBasic
  | [] => by
    rw [literalEntries]
    exact isBasic_ok _
  | (k, v) :: es => by
    rw [literalEntries]
    exact (isBasic_literal k).bind fun _ =>
      (isBasic_literal v).bind fun _ => (isBasic_literalEntries es).map _

theorem isBasic_literalFault : ∀ f : Fault Value, (literalFault f).IsBasic
  | .made _ arguments => by
    rw [literalFault]
    exact (isBasic_literalAll arguments).map _
  | .invalidValue .. | .typeVariable .. | .typeClass .. | .arity .. | .accessibility ..
  | .capability .. | .misuse _ => by
    rw [literalFault]
    exact isBasic_ok _
  | .basic cause => by
    unfold literalFault
    split <;> first | exact isBasic_ok _ | (rename_i h; cases h)

end

/-! ## Parts -/

theorem isBasic_readAttribute (v : Value) (name : String) : (v.readAttribute name).IsBasic := by
  unfold readAttribute
  split
  · exact isBasic_ok _
  · exact isBasic_fail _

omit [Host] in
theorem isBasic_elements (v : Value) : v.elements.IsBasic := by
  unfold elements
  split <;> try exact isBasic_ok _
  split
  · exact isBasic_ok _
  · exact isBasic_fail _

theorem isBasic_checkCount (count : Nat) : (checkCount count).IsBasic := by
  unfold checkCount
  exact isBasic_ite (isBasic_fail _) (isBasic_ite (isBasic_fail _) (isBasic_ok _))

theorem isBasic_spread (v : Value) : v.spread.IsBasic := by
  unfold spread
  split
  · exact (isBasic_checkCount _).bind fun _ => isBasic_elements v
  · exact isBasic_elements v

omit [Host] in
theorem isBasic_length (v : Value) : v.length.IsBasic := by
  unfold length
  split <;> try exact isBasic_ok _
  split
  · exact isBasic_ite (isBasic_fail _) (isBasic_ok _)
  · exact isBasic_fail _

end Value

/-! ## Tests and the values inside -/

theorem Test.isBasic_holds (t : Test) (v : Value) : (t.holds v).IsBasic := by
  cases t with
  | valid | finite | nonZero | integer | natural =>
    simp only [Test.holds, Test.onNumber]
    split
    · exact isBasic_ofNumber _
    · exact isBasic_ok _
  | stringMap =>
    simp only [Test.holds]
    split <;> exact isBasic_ok _
  | kind _ | declares _ => exact isBasic_ok _
  | custom n => exact isBasic_ofHost _

theorem Extract.isBasic_source (e : Extract) (v : Value) : (e.source v).IsBasic := by
  cases e with
  | items => exact isBasic_ok _
  | custom n => exact isBasic_ofHost _
  | entries =>
    simp only [Extract.source]
    split
    · exact isBasic_ok _
    · exact isBasic_fail _
  | present | rightValue =>
    refine (Value.isBasic_readAttribute v _).bind fun w => ?_
    split
    · exact (Value.isBasic_readAttribute v _).map _
    · exact isBasic_ok _
  | leftValue =>
    refine (Value.isBasic_readAttribute v _).bind fun w => ?_
    split
    · exact isBasic_ok _
    · exact (Value.isBasic_readAttribute v _).map _

namespace Ty

theorem isBasic_test (t : Ty) (v : Value) : (t.test v).IsBasic := by
  cases t with
  | nullary n => exact n.test.isBasic_holds v
  | applied c _ => exact c.test.isBasic_holds v
  | any _ | accessible _ | representative _ | var _ => exact isBasic_ok _

theorem isBasic_sources (t : Ty) (v : Value) : (t.sources v).IsBasic := by
  cases t with
  | applied c _ => exact isBasic_mapM (fun e => e.isBasic_source v) c.extracts
  | any _ | accessible _ | representative _ | var _ | nullary _ => exact isBasic_ok _

/-! ## Misfits and bindings -/

omit [Host] in
theorem isBasic_firstAnswer {α : Type} {f : Value → Attempt (Option α)}
    (hf : ∀ v, (f v).IsBasic) (vs : List Value) : (firstAnswer f vs).IsBasic := by
  induction vs with
  | nil => exact isBasic_ok _
  | cons v vs ih =>
    refine (hf v).bind fun answer => ?_
    cases answer with
    | none => exact ih
    | some a => exact isBasic_ok _

omit [Host] in
theorem isBasic_allAnswers {α : Type} {f : Value → Attempt (List α)}
    (hf : ∀ v, (f v).IsBasic) (vs : List Value) : (allAnswers f vs).IsBasic := by
  induction vs with
  | nil => exact isBasic_ok _
  | cons v vs ih => exact (hf v).bind fun here => ih.map _

mutual

/-- Looking for a misfit fails for basic causes only. -/
theorem isBasic_misfit? : ∀ (t : Ty) (v : Value), (t.misfit? v).IsBasic
  | applied c params, v => by
    unfold misfit?
    refine (c.test.isBasic_holds v).bind fun passed => ?_
    cases passed with
    | false => exact isBasic_ok _
    | true => exact (isBasic_sources _ v).bind fun sources => isBasic_misfitInside? 0 params sources
  | any _, v | accessible _, v | representative _, v | var _, v | nullary _, v => by
    unfold misfit?
    refine (isBasic_test _ v).bind fun passed => ?_
    cases passed <;> exact isBasic_ok _

theorem isBasic_misfitInside? (index : Nat) :
    ∀ (params : List Ty) (sources : List Value), (misfitInside? index params sources).IsBasic
  | p :: params, source :: sources => by
    unfold misfitInside?
    refine (Value.isBasic_elements source).bind fun items => ?_
    refine (isBasic_firstAnswer (isBasic_misfit? p) items).bind fun answer => ?_
    cases answer with
    | none => exact isBasic_misfitInside? (index + 1) params sources
    | some m => exact isBasic_ok _
  | [], _ => by
    unfold misfitInside?
    exact isBasic_ok _
  | _ :: _, [] => by
    unfold misfitInside?
    exact isBasic_ok _

end

mutual

/-- Looking for bindings fails for basic causes only. -/
theorem isBasic_bindings : ∀ (t : Ty) (v : Value), (t.bindings v).IsBasic
  | applied c params, v => by
    unfold bindings
    exact (isBasic_sources _ v).bind fun sources => isBasic_bindingsInside 0 params sources
  | any _, _ | accessible _, _ | representative _, _ | var _, _ | nullary _, _ => by
    unfold bindings
    exact isBasic_ok _

theorem isBasic_bindingsInside (index : Nat) :
    ∀ (params : List Ty) (sources : List Value), (bindingsInside index params sources).IsBasic
  | p :: params, source :: sources => by
    unfold bindingsInside
    refine (Value.isBasic_elements source).bind fun items => ?_
    refine (isBasic_allAnswers (isBasic_bindings p) items).bind fun here => ?_
    exact (isBasic_bindingsInside (index + 1) params sources).map _
  | [], _ => by
    unfold bindingsInside
    exact isBasic_ok _
  | _ :: _, [] => by
    unfold bindingsInside
    exact isBasic_ok _

end

/-! ## Names -/

omit [Host] in
theorem isBasic_narrow {namesOf : Value → Attempt (List String)}
    (h : ∀ v, (namesOf v).IsBasic) (first : Value) (vs : List Value) (common : List String) :
    (narrow namesOf first vs common).IsBasic := by
  induction vs generalizing common with
  | nil => exact isBasic_ok _
  | cons v vs ih =>
    unfold narrow
    split
    · exact isBasic_ok _
    · split
      · exact isBasic_ok _
      · exact (h v).bind fun others => ih _

omit [Host] in
theorem isBasic_commonNames {namesOf : Value → Attempt (List String)}
    (h : ∀ v, (namesOf v).IsBasic) (vs : List Value) : (commonNames namesOf vs).IsBasic := by
  cases vs with
  | nil => exact isBasic_ok _
  | cons v vs =>
    refine (h v).bind fun names => ?_
    exact (isBasic_narrow h v vs names).map _

theorem isBasic_namesBy {namesOf : Value → Attempt (List String)}
    (h : ∀ v, (namesOf v).IsBasic) (v : Value) (t : Ty) : (namesBy namesOf v t).IsBasic := by
  have hplain (t : Ty) : IsBasic (do return if ← t.isMember v then [t.text] else []) :=
    ((isBasic_misfit? t v).map _).map _
  cases t with
  | applied c params =>
    refine (c.test.isBasic_holds v).bind fun passed => ?_
    cases passed with
    | false => exact isBasic_ok _
    | true =>
      refine (isBasic_sources _ v).bind fun sources => ?_
      refine IsBasic.map (isBasic_mapM (fun source => ?_) sources) _
      exact (Value.isBasic_spread source).bind fun items => isBasic_commonNames h items
  | any _ | accessible _ | representative _ | var _ | nullary _ => exact hplain _

theorem isBasic_namesWithin (environment : List Ty) (depth : Nat) (v : Value) :
    (namesWithin environment depth v).IsBasic := by
  induction depth generalizing v with
  | zero => exact isBasic_fail _
  | succ depth ih => exact (isBasic_mapM (isBasic_namesBy ih v) environment).map _

/-- Naming the types of a value fails for basic causes only. -/
theorem isBasic_names (environment : List Ty) (v : Value) : (names environment v).IsBasic :=
  isBasic_namesWithin environment (v.depth + Host.stack) v

end Ty

end CheckedCurry
