import CheckedCurry.Ty.Layout
import CheckedCurry.Value.Access

/-!
# Membership

A value is a member of a type if it passes the test of the type and the values inside it, as the
parameters of the type look at them, are members of the parameters.

* `Test.holds`: the tests.
* `Extract.source`: the values inside that a parameter looks at, as a value to iterate over.
* `Ty.misfit?`: the first part of a value that is rejected, with the part of the type that rejects
  it: depth first, parameters in order and elements in order.
* `Ty.bindings`: the values that a value binds to type variables, in the same order.

Tests and extractions may fail on values they are not made for, and so may all of these.
-/

namespace CheckedCurry

variable [Host]

/-! ## Tests -/

namespace Value

/-- The number that a value of kind number is. -/
def numberOfKind? (v : Value) : Option Number :=
  if v.kind = .number then
    match v.core with
    | number n => some n
    | _ => none
  else none

/-- Whether a value is a text, whatever else it is. -/
def isText (v : Value) : Bool :=
  match v.core with
  | text _ => true
  | _ => false

end Value

namespace Number

/-- Whether a number is at a point from zero on. -/
def isNonNegative (n : Number) : Bool := (Extended.finite 0).le n.exact

end Number

namespace Test

/-- A property of numbers, false of all other values. -/
def onNumber (property : Number → Except NumberFault Bool) (v : Value) : Attempt Bool :=
  match v.numberOfKind? with
  | some n => Attempt.ofNumber (property n)
  | none => .ok false

/-- Whether a value passes a test (`_kind_is`, `_is_valid`, `_is_finite`, `_is_integer`,
`_is_str_map`). -/
def holds : Test → Value → Attempt Bool
  | kind k, v => .ok (v.kind = k)
  | valid, v => onNumber Number.isValid v
  | finite, v => onNumber Number.isFinite v
  | nonZero, v => onNumber (fun n => do return (← n.isFinite) && !n.isZero) v
  | integer, v => onNumber Number.isInteger v
  | natural, v => onNumber (fun n => do return (← n.isInteger) && n.isNonNegative) v
  | stringMap, v =>
    match v with
    | .map entries => .ok (entries.all fun e => e.1.isText)
    | _ => .ok false
  | declares identifier, v => .ok (v.identifier? == some identifier)
  | custom n, v => Attempt.ofHost (Host.test n v)

end Test

/-! ## The values inside -/

namespace Extract

/-- The values that a parameter looks at, as a value to iterate over. -/
def source : Extract → Value → Attempt Value
  | items, v => .ok v
  | entries, v =>
    match v with
    | .map es => .ok (.list (es.map (·.2)))
    | v => Attempt.fail (.noAttribute v.className "values")
  | present, v => do
    if (← v.readAttribute "is_just").truth then return .list [← v.readAttribute "value"]
    else return .list []
  | leftValue, v => do
    if (← v.readAttribute "is_right").truth then return .list []
    else return .list [← v.readAttribute "value"]
  | rightValue, v => do
    if (← v.readAttribute "is_right").truth then return .list [← v.readAttribute "value"]
    else return .list []
  | custom n, v => Attempt.ofHost (Host.extract n v)

end Extract

namespace Ty

/-- Whether a value passes the test of a type, its parameters left aside (`Type.test`). -/
def test : Ty → Value → Attempt Bool
  | any _, _ => .ok true
  | accessible _, v => .ok (!v.isNullish)
  | representative _, v => .ok v.isRepresentative
  | var _, _ => .ok true
  | nullary n, v => n.test.holds v
  | applied c _, v => c.test.holds v

/-- The sources of the values inside, one for each parameter (`Type.extract`). -/
def sources : Ty → Value → Attempt (List Value)
  | applied c _, v => c.extracts.mapM fun e => e.source v
  | _, _ => .ok []

/-! ## Misfits -/

/-- A rejected part of a value (`Failure`): the path to the type that rejects it, the part and that
type. -/
structure Misfit where
  path : Path
  value : Value
  type : Ty

/-- The misfit seen from one type further out. -/
def Misfit.under (index : Nat) (m : Misfit) : Misfit := { m with path := index :: m.path }

/-- The first answer that a list of values gives. -/
def firstAnswer {α : Type} (f : Value → Attempt (Option α)) : List Value → Attempt (Option α)
  | [] => .ok none
  | v :: vs => do
    match ← f v with
    | some a => return some a
    | none => firstAnswer f vs

mutual

/-- The first misfit of a value, if it is not a member (`Type.find_failure`). -/
def misfit? : Ty → Value → Attempt (Option Misfit)
  | applied c params, v => do
    if ← c.test.holds v then misfitInside? 0 params (← (applied c params).sources v)
    else return some ⟨[], v, applied c params⟩
  | t, v => do
    if ← t.test v then return none else return some ⟨[], v, t⟩

/-- The first misfit of the values inside, for the parameters from an index on. -/
def misfitInside? (index : Nat) : List Ty → List Value → Attempt (Option Misfit)
  | p :: params, source :: sources => do
    -- all elements for one parameter are looked at before the next parameter
    match ← firstAnswer (misfit? p) (← source.elements) with
    | some m => return some (m.under index)
    | none => misfitInside? (index + 1) params sources
  | _, _ => .ok none

end

/-- Whether a value is a member of a type (`Type.is_member`). -/
def isMember (t : Ty) (v : Value) : Attempt Bool := do return (← t.misfit? v).isNone

/-! ## Bindings -/

/-- A value that is bound to a type variable, with the path to the variable. -/
structure Binding where
  var : TypeVar
  path : Path
  value : Value

/-- The binding seen from one type further out. -/
def Binding.under (index : Nat) (b : Binding) : Binding := { b with path := index :: b.path }

/-- The answers of a list of values, joined. -/
def allAnswers {α : Type} (f : Value → Attempt (List α)) : List Value → Attempt (List α)
  | [] => .ok []
  | v :: vs => do
    let here ← f v
    return here ++ (← allAnswers f vs)

mutual

/-- The values that a value binds to the variables of a type (`Type.bindings`). -/
def bindings : Ty → Value → Attempt (List Binding)
  | var a, v => .ok [⟨a, [], v⟩]
  | applied c params, v => do bindingsInside 0 params (← (applied c params).sources v)
  | _, _ => .ok []

/-- The bindings of the values inside, for the parameters from an index on. -/
def bindingsInside (index : Nat) : List Ty → List Value → Attempt (List Binding)
  | p :: params, source :: sources => do
    let here ← allAnswers (bindings p) (← source.elements)
    return here.map (Binding.under index) ++ (← bindingsInside (index + 1) params sources)
  | _, _ => .ok []

end

/-! ## Small laws -/

@[simp] theorem misfit?_any (name : String) (v : Value) : (any name).misfit? v = .ok none := by
  unfold misfit?; rfl

@[simp] theorem misfit?_var (a : TypeVar) (v : Value) : (var a).misfit? v = .ok none := by
  unfold misfit?; rfl

@[simp] theorem bindings_var (a : TypeVar) (v : Value) :
    (var a).bindings v = .ok [⟨a, [], v⟩] := by
  unfold bindings; rfl

end Ty

end CheckedCurry
