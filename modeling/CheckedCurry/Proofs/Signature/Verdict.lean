import CheckedCurry.Proofs.Value.Attempt
import CheckedCurry.Curried.Check

/-!
# Checks as a verdict and a report

A check first finds out whether a value is rejected, and why; only then does it describe the values
that it reports.  The verdict is reached without the environment, and the environment is asked for
nothing but the names in the report.

- `Checked.Alike`: two checks pass together, or stop with related problems.
- `Signature.Rejection`: why a value is rejected, with the values that are shown.
- `Signature.rejection?`: the verdict; no environment is among its arguments.
- `Signature.report`: what a check ends in once the verdict is known.
- `checkAt_eq`: a check is its verdict, followed by the report of a rejection.
- `checkArgument_eq`, `checkResult_eq`: the same for the check of an argument and of a result.
-/

namespace CheckedCurry

/-! ## Two checks side by side -/

namespace Checked

/-- Two checks pass together, with one answer, or stop with related problems. -/
inductive Alike {α : Type} (P : Problem → Problem → Prop) : Checked α → Checked α → Prop
  | ok (a : α) : Alike P (.ok a) (.ok a)
  | error {p q : Problem} (h : P p q) : Alike P (.error p) (.error q)

theorem Alike.bind {α β : Type} {P : Problem → Problem → Prop} {x y : Checked α}
    {k l : α → Checked β} (hxy : Alike P x y) (hkl : ∀ a, x = .ok a → Alike P (k a) (l a)) :
    Alike P (x >>= k) (y >>= l) := by
  cases hxy with
  | ok a => exact hkl a rfl
  | error h => exact .error h

theorem alike_ofAttempt {α : Type} {P : Problem → Problem → Prop} (hP : ∀ p, P p p)
    (x : Attempt α) : Alike P (ofAttempt x) (ofAttempt x) := by
  cases x with
  | ok a => exact .ok a
  | error f => exact .error (hP _)

end Checked

variable [Host]

namespace Signature

/-! ## Verdicts -/

/-- Why a value is rejected. -/
inductive Rejection where
  /-- A part of the value is no member. -/
  | misfit (m : Ty.Misfit)
  /-- A bound value lacks a capability. -/
  | lack (b : Ty.Binding) (c : Capability)
  /-- The values of a variable do not agree. -/
  | clash (a : TypeVar) (group : List Ty.Binding)

/-- The values whose types a report names. -/
def Rejection.described : Rejection → List Value
  | .misfit m => [m.value]
  | .lack b _ => [b.value]
  | .clash _ group => group.map (·.value)

/-- The verdict on a member at an index, given what it binds. -/
def rejectionOfBound? (s : Signature) (slots : List Value) (index : Nat) (new : List Ty.Binding) :
    Attempt (Option Rejection) :=
  match s.firstLack? new with
  | some (b, c) => .ok (some (.lack b c))
  | none =>
    if new.isEmpty then .ok none
    else do
      let old ← filledBindings index 0 s.types slots
      return (firstClash? old new).map fun (a, group) => .clash a group

/-- The verdict on the value at an index. -/
def rejection? (s : Signature) (slots : List Value) (index : Nat) (t : Ty) (v : Value) :
    Attempt (Option Rejection) := do
  match ← t.misfit? v with
  | some m => return some (.misfit m)
  | none => s.rejectionOfBound? slots index (← bindingsAt index t v)

/-! ## Reports -/

/-- The end of a check that rejects the value at an index. -/
def report (s : Signature) (environment : List Ty) (index : Nat) (v : Value) :
    Rejection → Checked Unit
  | .misfit m => do
    let shown ← Checked.ofAttempt v.display
    Checked.reject (s.misfitNote index shown) (s.misfitFault environment index v m)
  | .lack b c => do
    let shown ← Checked.ofAttempt b.value.display
    Checked.reject (s.lackNote c shown) (s.lackFault environment b c)
  | .clash a group => Checked.reject (s.clashNote a) (s.clashFault environment group)

/-- The end of a check, given its verdict. -/
def conclude (s : Signature) (environment : List Ty) (index : Nat) (v : Value) :
    Option Rejection → Checked Unit
  | none => .ok ()
  | some r => s.report environment index v r

/-! ## A check is its verdict and its report -/

section CheckAt

variable {s : Signature} {environment : List Ty} {slots : List Value} {index : Nat} {t : Ty}
  {v : Value}

/-- A report ends a check, whatever would come after it. -/
theorem report_bind (r : Rejection) (k : Unit → Checked Unit) :
    (s.report environment index v r >>= k) = s.report environment index v r := by
  have hreject (note : String) (x : Attempt (Fault Value)) :
      ((Checked.reject note x : Checked Unit) >>= k) = Checked.reject note x := by
    cases x <;> rfl
  cases r with
  | misfit m =>
    simp only [report, bind_assoc, hreject]
  | lack b c =>
    simp only [report, bind_assoc, hreject]
  | clash a group => exact hreject _ _

theorem checkRequired_of_lack {bs : List Ty.Binding} {b : Ty.Binding} {c : Capability}
    (h : s.firstLack? bs = some (b, c)) :
    s.checkRequired environment bs = s.report environment index v (.lack b c) := by
  rw [checkRequired, h]
  rfl

theorem checkRequired_of_none {bs : List Ty.Binding} (h : s.firstLack? bs = none) :
    s.checkRequired environment bs = .ok () := by
  rw [checkRequired, h]
  rfl

theorem checkUnified_eq (old new : List Ty.Binding) :
    s.checkUnified environment old new = s.conclude environment index v
      ((firstClash? old new).map fun (a, group) => .clash a group) := by
  unfold checkUnified
  split <;> (rename_i h; rw [h]; rfl)

/-- The steps of the check of a member after its bindings are known. -/
theorem checkBound_eq (new : List Ty.Binding) :
    (do
      s.checkRequired environment new
      if new.isEmpty then return ()
      let old ← Checked.ofAttempt (filledBindings index 0 s.types slots)
      s.checkUnified environment old new) =
    (Checked.ofAttempt (s.rejectionOfBound? slots index new) >>=
      s.conclude environment index v) := by
  cases hlack : s.firstLack? new with
  | some lack =>
    obtain ⟨b, c⟩ := lack
    have hreport : s.checkRequired environment new = s.report environment index v (.lack b c) :=
      checkRequired_of_lack hlack
    rw [hreport, report_bind, rejectionOfBound?, hlack]
    rfl
  | none =>
    rw [checkRequired_of_none hlack, rejectionOfBound?, hlack]
    by_cases hempty : new.isEmpty
    · rw [if_pos hempty, if_pos hempty]
      rfl
    · rw [if_neg hempty, if_neg hempty]
      cases filledBindings index 0 s.types slots with
      | error f => rfl
      | ok old => exact checkUnified_eq old new

/-- **A check is its verdict, followed by the report of a rejection.**  The verdict does not depend
on the environment. -/
theorem checkAt_eq :
    s.checkAt environment slots index t v =
      (Checked.ofAttempt (s.rejection? slots index t v) >>= s.conclude environment index v) := by
  unfold checkAt rejection? checkMember
  cases t.misfit? v with
  | error f => rfl
  | ok answer =>
    cases answer with
    | some m => exact report_bind (.misfit m) _
    | none =>
      cases bindingsAt index t v with
      | error f => rfl
      | ok new => exact checkBound_eq new

end CheckAt

/-! ## Arguments and results -/

/-- The verdict on the value for a parameter, or on the result, which has the index after the last
parameter. -/
def rejectionAt? (s : Signature) (slots : List Value) (index : Nat) (v : Value) :
    Attempt (Option Rejection) :=
  match s.types[index]? with
  | some t => s.rejection? slots index t v
  | none => beyond

theorem checkArgument_eq (s : Signature) (environment : List Ty) (slots : List Value)
    (index : Nat) (v : Value) :
    s.checkArgument environment slots index v =
      (Checked.ofAttempt (s.rejectionAt? slots index v) >>= s.conclude environment index v) := by
  rw [checkArgument, rejectionAt?]
  cases s.types[index]? with
  | none => rfl
  | some t => exact checkAt_eq

/-- A result is checked like an argument after all parameters. -/
theorem checkResult_eq (s : Signature) (environment : List Ty) (arguments : List Value)
    (v : Value) :
    s.checkResult environment arguments v = s.checkArgument environment arguments s.arity v := by
  rw [checkResult, checkArgument, types_arity]

end Signature

end CheckedCurry
