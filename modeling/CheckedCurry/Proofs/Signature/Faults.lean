import CheckedCurry.Curried.Check
import CheckedCurry.Proofs.Value.Faults

/-!
# Faults of checks

A check ends in a fault about values or in a basic one.  It never ends in a fault about a number of
arguments, whatever it is given.

- `Fault.IsOfCheck`: the faults that checks end in.
- `Checked.EndsInCheck`: all faults of a check are of that kind; closed under sequencing.
- `endsInCheck_checkMember`, `endsInCheck_checkRequired`, `endsInCheck_checkUnified`: the steps.
- `endsInCheck_checkArgument`, `endsInCheck_checkResult`: whole checks.
-/

namespace CheckedCurry

/-- The faults that a check can end in: those about values, and basic ones. -/
def Fault.IsOfCheck : Fault Value → Prop
  | .invalidValue .. | .typeVariable .. | .accessibility .. | .typeClass .. | .basic _ => True
  | .arity .. | .capability .. | .misuse _ | .made .. => False

theorem Fault.not_isOfCheck_arity (name : String) (required received : Nat) :
    ¬ Fault.IsOfCheck (.arity name required received) := fun h => h

namespace Checked

/-- All faults of a check are faults that checks can end in. -/
def EndsInCheck {α : Type} (x : Checked α) : Prop := ∀ p, x = .error p → p.fault.IsOfCheck

variable {α β : Type}

theorem endsInCheck_ok (a : α) : EndsInCheck (.ok a : Checked α) := fun _ h => nomatch h

theorem endsInCheck_ofAttempt {x : Attempt α} (hx : x.IsBasic) : EndsInCheck (ofAttempt x) := by
  intro p hp
  cases x with
  | ok a => cases hp
  | error f =>
    obtain ⟨cause, rfl⟩ := hx f rfl
    cases hp
    trivial

/-- A rejection ends in the fault that is put together, or in a basic one on the way to it. -/
theorem endsInCheck_reject {x : Attempt (Fault Value)} (hx : x.IsBasic)
    (hf : ∀ f, x = .ok f → f.IsOfCheck) (note : String) :
    EndsInCheck (reject note x : Checked α) := by
  intro p hp
  cases x with
  | ok f =>
    cases hp
    exact hf f rfl
  | error f =>
    obtain ⟨cause, rfl⟩ := hx f rfl
    cases hp
    trivial

theorem EndsInCheck.bind {x : Checked α} {k : α → Checked β} (hx : x.EndsInCheck)
    (hk : ∀ a, (k a).EndsInCheck) : EndsInCheck (x >>= k) := by
  intro p hp
  cases x with
  | error p =>
    cases hp
    exact hx p rfl
  | ok a => exact hk a p hp

end Checked

open Attempt Checked

variable [Host]

namespace Signature

variable (s : Signature) (environment : List Ty)

/-! ## Faults that are put together -/

theorem isBasic_describe (v : Value) : (describe environment v).IsBasic :=
  (Value.isBasic_display v).bind fun _ => (Ty.isBasic_names environment v).map _

theorem isBasic_misfitFault (index : Nat) (v : Value) (m : Ty.Misfit) :
    (s.misfitFault environment index v m).IsBasic := by
  unfold misfitFault
  split
  · exact isBasic_ok _
  · exact (isBasic_describe environment m.value).map _

theorem isOfCheck_misfitFault {index : Nat} {v : Value} {m : Ty.Misfit} {f : Fault Value}
    (h : s.misfitFault environment index v m = .ok f) : f.IsOfCheck := by
  unfold misfitFault at h
  split at h
  · cases h
    trivial
  · obtain ⟨entry, -, hf⟩ := bind_eq_ok.mp h
    cases hf
    trivial

theorem isBasic_lackFault (b : Ty.Binding) (c : Capability) :
    (s.lackFault environment b c).IsBasic :=
  (isBasic_describe environment b.value).map _

theorem isOfCheck_lackFault {b : Ty.Binding} {c : Capability} {f : Fault Value}
    (h : s.lackFault environment b c = .ok f) : f.IsOfCheck := by
  obtain ⟨entry, -, hf⟩ := bind_eq_ok.mp h
  cases hf
  trivial

theorem isBasic_clashFault (group : List Ty.Binding) :
    (s.clashFault environment group).IsBasic := by
  refine IsBasic.bind (isBasic_mapM (fun path => ?_) _) fun entries => isBasic_ok _
  exact isBasic_mapM (fun (b : Ty.Binding) => isBasic_describe environment b.value) _

theorem isOfCheck_clashFault {group : List Ty.Binding} {f : Fault Value}
    (h : s.clashFault environment group = .ok f) : f.IsOfCheck := by
  obtain ⟨entries, -, hf⟩ := bind_eq_ok.mp h
  cases hf
  trivial

/-! ## Checks -/

theorem endsInCheck_checkMember (index : Nat) (t : Ty) (v : Value) :
    (s.checkMember environment index t v).EndsInCheck := by
  refine (endsInCheck_ofAttempt (Ty.isBasic_misfit? t v)).bind fun answer => ?_
  cases answer with
  | none => exact endsInCheck_ok _
  | some m =>
    refine (endsInCheck_ofAttempt (Value.isBasic_display v)).bind fun shown => ?_
    exact endsInCheck_reject (isBasic_misfitFault s environment index v m)
      (fun _ => isOfCheck_misfitFault s environment) _

theorem endsInCheck_checkRequired (bs : List Ty.Binding) :
    (s.checkRequired environment bs).EndsInCheck := by
  unfold checkRequired
  split
  · exact endsInCheck_ok _
  · refine (endsInCheck_ofAttempt (Value.isBasic_display _)).bind fun shown => ?_
    exact endsInCheck_reject (isBasic_lackFault s environment _ _)
      (fun _ => isOfCheck_lackFault s environment) _

theorem endsInCheck_checkUnified (old new : List Ty.Binding) :
    (s.checkUnified environment old new).EndsInCheck := by
  unfold checkUnified
  split
  · exact endsInCheck_ok _
  · exact endsInCheck_reject (isBasic_clashFault s environment _)
      (fun _ => isOfCheck_clashFault s environment) _

theorem isBasic_bindingsAt (index : Nat) (t : Ty) (v : Value) :
    (bindingsAt index t v).IsBasic :=
  (Ty.isBasic_bindings t v).map _

theorem isBasic_slotBindings (except index : Nat) (t? : Option Ty) (v : Value) :
    (slotBindings except index t? v).IsBasic := by
  unfold slotBindings
  split
  · exact isBasic_ok _
  · split
    · exact isBasic_bindingsAt index _ v
    · exact isBasic_fail _

theorem isBasic_filledBindings (except : Nat) (slots : List Value) (i : Nat) (ts : List Ty) :
    (filledBindings except i ts slots).IsBasic := by
  induction slots generalizing i ts with
  | nil => exact isBasic_ok _
  | cons v slots ih =>
    exact (isBasic_slotBindings except i ts.head? v).bind fun here => (ih (i + 1) ts.tail).map _

theorem endsInCheck_checkAt (slots : List Value) (index : Nat) (t : Ty) (v : Value) :
    (s.checkAt environment slots index t v).EndsInCheck := by
  refine (endsInCheck_checkMember s environment index t v).bind fun _ => ?_
  refine (endsInCheck_ofAttempt (isBasic_bindingsAt index t v)).bind fun new => ?_
  refine (endsInCheck_checkRequired s environment new).bind fun _ => ?_
  split
  · exact endsInCheck_ok _
  · refine (endsInCheck_ofAttempt (isBasic_filledBindings index slots 0 s.types)).bind fun old => ?_
    exact endsInCheck_checkUnified s environment old new

/-- No check of an argument ends in a fault about the number of arguments. -/
theorem endsInCheck_checkArgument (slots : List Value) (index : Nat) (v : Value) :
    (s.checkArgument environment slots index v).EndsInCheck := by
  unfold checkArgument
  split
  · exact endsInCheck_checkAt s environment slots index _ v
  · exact endsInCheck_ofAttempt (isBasic_fail _)

theorem endsInCheck_checkResult (arguments : List Value) (v : Value) :
    (s.checkResult environment arguments v).EndsInCheck :=
  endsInCheck_checkAt s environment arguments s.arity s.returns v

end Signature

end CheckedCurry
