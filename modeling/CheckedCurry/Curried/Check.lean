import CheckedCurry.Signature.Markers
import CheckedCurry.Ty.Names

/-!
# Checking a value against a signature

A value for a parameter, or a result, is checked in three steps.  It must be a member of its type;
the values that it binds to type variables must support what the signature requires; and all values
bound to one variable, by it and by the arguments so far, must have one unifier.

* `Problem`: a rejection, with the note that is logged before it.
* `Signature.checkMember`, `Signature.checkRequired`, `Signature.checkUnified`: the three steps.
* `Signature.checkArgument`, `Signature.checkResult`: all of them.

The environment names the types of a rejected value in reports and has no other use.
-/

namespace CheckedCurry

/-! ## Problems -/

/-- Why a check stops: a fault, and the note that was made before it arose.  Without a note the
fault is not a rejection but comes from a test that does not take its value. -/
structure Problem where
  note : Option String
  fault : Fault Value

/-- Steps of a check. -/
abbrev Checked := Except Problem

namespace Checked

/-- A computation whose faults are no rejections. -/
def ofAttempt {α : Type} : Attempt α → Checked α
  | .ok a => .ok a
  | .error f => .error ⟨none, f⟩

/-- A rejection: the note is made first, then the fault is put together. -/
def reject {α : Type} (note : String) : Attempt (Fault Value) → Checked α
  | .ok f => .error ⟨some note, f⟩
  | .error f => .error ⟨some note, f⟩

@[simp] theorem ofAttempt_ok {α : Type} (a : α) : ofAttempt (.ok a) = .ok a := rfl

@[simp] theorem ofAttempt_error {α : Type} (f : Fault Value) :
    ofAttempt (.error f : Attempt α) = .error ⟨none, f⟩ := rfl

end Checked

variable [Host]

namespace Signature

/-! ## Reports -/

/-- A value as a report shows it (`Validator._describe`). -/
def describe (environment : List Ty) (v : Value) : Attempt Report.Entry := do
  let shown ← v.display
  return ⟨shown, ← Ty.names environment v⟩

/-- The lines of a report with marked parts. -/
def reportLines (s : Signature) (paths : List Ty.Path) (underlined : List Span) : List String :=
  (s.marked? paths underlined).getD [s.text, "", ""]

/-! ## Membership -/

/-- The fault that reports a misfit of the value at an index. -/
def misfitFault (s : Signature) (environment : List Ty) (index : Nat) (v : Value)
    (m : Ty.Misfit) : Attempt (Fault Value) :=
  match m.type, m.path with
  -- only a parameter that is itself accessible: below another type it is a misfit like all others
  | .accessible _, [] => .ok (.accessibility s.name index)
  | t, path => do
    let lines := s.reportLines [index :: path] []
    let entry ← describe environment m.value
    return .invalidValue (.invalidValue lines (Report.entryLines [[entry]]) t.text t.url?)
      s.name index v

/-- The note about a misfit. -/
def misfitNote (s : Signature) (index : Nat) (shown : String) : String :=
  "rejecting " ++ shown ++ " at position " ++ toString index ++ " of " ++ s.text

/-- The value at an index must be a member of its type (`Validator._check`). -/
def checkMember (s : Signature) (environment : List Ty) (index : Nat) (t : Ty) (v : Value) :
    Checked Unit := do
  match ← Checked.ofAttempt (t.misfit? v) with
  | none => return ()
  | some m =>
    let shown ← Checked.ofAttempt v.display
    Checked.reject (s.misfitNote index shown) (s.misfitFault environment index v m)

/-! ## Requirements -/

/-- The bindings of the value at an index, by paths into the signature (`_bindings_at`). -/
def bindingsAt (index : Nat) (t : Ty) (v : Value) : Attempt (List Ty.Binding) := do
  return (← t.bindings v).map (Ty.Binding.under index)

/-- The fault that reports a bound value without a capability (`Validator._reject_unsupported`). -/
def lackFault (s : Signature) (environment : List Ty) (b : Ty.Binding) (c : Capability) :
    Attempt (Fault Value) := do
  let lines := s.reportLines [b.path] (s.requirementSpan? b.var c).toList
  let entry ← describe environment b.value
  return .typeClass (.typeClass lines (Report.entryLines [[entry]]) s.name b.var.name c.name)
    s.name c.name b.value

/-- The note about a bound value without a capability. -/
def lackNote (s : Signature) (c : Capability) (shown : String) : String :=
  shown ++ " lacks " ++ c.name ++ ", required by " ++ s.text

/-- The first binding whose value lacks a capability, with the first capability it lacks
(`Validator._require`). -/
def firstLack? (s : Signature) (bs : List Ty.Binding) : Option (Ty.Binding × Capability) :=
  bs.findSome? fun b =>
    ((s.required b.var).find? fun c => !c.supports b.value.unifier).map fun c => (b, c)

/-- The values that are bound must support what their variables require (`Validator._require`). -/
def checkRequired (s : Signature) (environment : List Ty) (bs : List Ty.Binding) :
    Checked Unit := do
  match s.firstLack? bs with
  | none => return ()
  | some (b, c) =>
    let shown ← Checked.ofAttempt b.value.display
    Checked.reject (s.lackNote c shown) (s.lackFault environment b c)

/-! ## Unification -/

/-- Whether a path comes before another one, index by index. -/
def pathBefore : Ty.Path → Ty.Path → Bool
  | [], [] => false
  | [], _ :: _ => true
  | _ :: _, [] => false
  | i :: p, j :: q => i < j || (i == j && pathBefore p q)

/-- The different paths of bindings, in order. -/
def pathsOf (bs : List Ty.Binding) : List Ty.Path :=
  ((bs.map (·.path)).eraseDups).mergeSort fun p q => !pathBefore q p

/-- The variables of bindings, each once, in the order in which they are met. -/
def variablesOf (bs : List Ty.Binding) : List TypeVar := (bs.map (·.var)).eraseDups

/-- Whether all values of bindings have one unifier. -/
def agree : List Ty.Binding → Bool
  | [] => true
  | b :: bs => bs.all fun c => c.value.unifier == b.value.unifier

/-- The bindings of one variable. -/
def groupOf (a : TypeVar) (bs : List Ty.Binding) : List Ty.Binding := bs.filter (·.var == a)

/-- The first variable of the new bindings whose values do not agree, with its bindings
(`Validator._unify`). -/
def firstClash? (old new : List Ty.Binding) : Option (TypeVar × List Ty.Binding) :=
  (variablesOf new).findSome? fun a =>
    -- the arguments so far come first, also those in later slots
    let group := groupOf a (old ++ new)
    if agree group then none else some (a, group)

/-- The fault that reports values of one variable that do not agree (`Validator._reject_group`). -/
def clashFault (s : Signature) (environment : List Ty) (group : List Ty.Binding) :
    Attempt (Fault Value) := do
  let paths := pathsOf group
  let entries ← paths.mapM fun path =>
    (group.filter (·.path == path)).mapM fun b => describe environment b.value
  return .typeVariable (.typeVariable (s.reportLines paths []) (Report.entryLines entries))
    s.name (group.map (·.value))

/-- The note about values of one variable that do not agree. -/
def clashNote (s : Signature) (a : TypeVar) : String :=
  "type variable " ++ a.name ++ " of " ++ s.text ++ " is bound to incompatible values"

/-- The values of each variable that is newly bound must agree (`Validator._unify`). -/
def checkUnified (s : Signature) (environment : List Ty) (old new : List Ty.Binding) :
    Checked Unit :=
  match firstClash? old new with
  | none => .ok ()
  | some (a, group) => Checked.reject (s.clashNote a) (s.clashFault environment group)

/-! ## All steps -/

/-- The fault of an index beyond the types of a signature (`Validator._check`). -/
def beyond {α : Type} : Attempt α := Attempt.fail (.outOfRange "tuple index")

/-- The bindings of what a slot holds, if it is filled and is not the one that is left out. -/
def slotBindings (except index : Nat) (t? : Option Ty) (v : Value) : Attempt (List Ty.Binding) :=
  if v.isOpen || index = except then .ok []
  else match t? with
    | some t => bindingsAt index t v
    | none => beyond

/-- The bindings of the arguments that are there, in the order of their slots, without the one at
an index. -/
def filledBindings (except : Nat) : Nat → List Ty → List Value → Attempt (List Ty.Binding)
  | i, ts, v :: vs => do
    let here ← slotBindings except i ts.head? v
    return here ++ (← filledBindings except (i + 1) ts.tail vs)
  | _, _, [] => .ok []

/-- The value at an index of a signature is checked; `slots` holds the arguments so far. -/
def checkAt (s : Signature) (environment : List Ty) (slots : List Value) (index : Nat) (t : Ty)
    (v : Value) : Checked Unit := do
  s.checkMember environment index t v
  let new ← Checked.ofAttempt (bindingsAt index t v)
  s.checkRequired environment new
  -- a value that binds no variable has nothing to agree with
  if new.isEmpty then return ()
  let old ← Checked.ofAttempt (filledBindings index 0 s.types slots)
  s.checkUnified environment old new

/-- An argument is checked (`Validator.check_argument`); the slots that are open take no part in
unification. -/
def checkArgument (s : Signature) (environment : List Ty) (slots : List Value) (index : Nat)
    (v : Value) : Checked Unit :=
  match s.types[index]? with
  | some t => s.checkAt environment slots index t v
  | none => Checked.ofAttempt beyond

/-- A result is checked (`Validator.check_result`). -/
def checkResult (s : Signature) (environment : List Ty) (arguments : List Value) (v : Value) :
    Checked Unit :=
  s.checkAt environment arguments s.arity s.returns v

end Signature

end CheckedCurry
