import CheckedCurry.Curried.Check

/-!
# Curried functions

A curried function has one slot for each parameter.  A call puts its arguments into the open slots,
in order; an argument that is a placeholder leaves its slot open.  Slots that are filled keep their
values, so that a partial application can be extended in several ways.

* `Curried`: a signature, what is called when all slots are filled, the environment if arguments
  are checked, and the slots.
* `Curried.supply?`: the slots after a call, before anything is called.
-/

namespace CheckedCurry

/-- A curried function (`CurriedFunction`).  Open slots hold a placeholder. -/
structure Curried where
  signature : Signature
  implementation : Value
  environment : Option (List Ty)
  slots : List Value

namespace Curried

/-- A function none of whose slots is filled (`curry`). -/
def fresh (signature : Signature) (implementation : Value) (environment : Option (List Ty)) :
    Curried where
  signature := signature
  implementation := implementation
  environment := environment
  slots := List.replicate signature.arity .placeholder

/-- The value that a curried function is. -/
def toValue (mark : Nat) (c : Curried) : Value :=
  .curried mark c.signature c.implementation c.environment c.slots

/-- The curried function that a value is. -/
def ofValue? : Value → Option Curried
  | .curried _ signature implementation environment slots =>
    some ⟨signature, implementation, environment, slots⟩
  | _ => none

/-! ## Slots -/

/-- The number of arguments that are still to be supplied (`CurriedFunction.arity`). -/
def arity (c : Curried) : Nat := c.slots.countP Value.isOpen

/-- The number of slots that are filled. -/
def filled (c : Curried) : Nat := c.slots.length - c.arity

/-- Whether arguments are checked (`CurriedFunction.is_checked`). -/
def isChecked (c : Curried) : Bool := c.environment.isSome

/-- The indices of the open slots from an index on. -/
def openFrom (index : Nat) : List Value → List Nat
  | [] => []
  | v :: vs => if v.isOpen then index :: openFrom (index + 1) vs else openFrom (index + 1) vs

/-- The indices of the open slots (`CurriedFunction._unfilled`). -/
def openSlots (c : Curried) : List Nat := openFrom 0 c.slots

/-- Whether a call has arguments beyond the open slots that are not placeholders. -/
def hasSurplus (c : Curried) (arguments : List Value) : Bool :=
  (arguments.drop c.arity).any fun v => !v.isOpen

/-- The fault of a call with too many arguments. -/
def surplusFault (c : Curried) (arguments : List Value) : Fault Value :=
  .arity c.signature.name c.signature.arity (c.filled + arguments.length)

/-- An argument is checked, if arguments are checked at all. -/
def checkArgument [Host] (c : Curried) (slots : List Value) (index : Nat) (v : Value) : Checked Unit :=
  match c.environment with
  | some environment => c.signature.checkArgument environment slots index v
  | none => .ok ()

/-- The slots with one more argument, which is checked first. -/
def put [Host] (c : Curried) (slots : List Value) (index : Nat) (v : Value) : Checked (List Value) :=
  if v.isOpen then .ok slots
  else do
    c.checkArgument slots index v
    return slots.set index v

/-- The slots with arguments at indices, one after the other. -/
def putAll [Host] (c : Curried) : List Value → List (Nat × Value) → Checked (List Value)
  | slots, [] => .ok slots
  | slots, (index, v) :: rest => do putAll c (← c.put slots index v) rest

/-- The slots after a call (`CurriedFunction.__call__`). -/
def supply? [Host] (c : Curried) (arguments : List Value) : Checked (List Value) :=
  if c.hasSurplus arguments then .error ⟨none, c.surplusFault arguments⟩
  else c.putAll c.slots (c.openSlots.zip arguments)

/-- Whether no slot is open. -/
def isSaturated (slots : List Value) : Bool := !slots.any Value.isOpen

/-- A result is checked if arguments are. -/
def checkResult [Host] (c : Curried) (arguments : List Value) (v : Value) : Checked Unit :=
  match c.environment with
  | some environment => c.signature.checkResult environment arguments v
  | none => .ok ()

/-! ## Small laws -/

@[simp] theorem ofValue?_toValue (mark : Nat) (c : Curried) :
    ofValue? (c.toValue mark) = some c := rfl

theorem length_openFrom (index : Nat) (vs : List Value) :
    (openFrom index vs).length = vs.countP Value.isOpen := by
  induction vs generalizing index with
  | nil => rfl
  | cons v vs ih => by_cases h : v.isOpen <;> simp [openFrom, h, ih]

@[simp] theorem length_openSlots (c : Curried) : c.openSlots.length = c.arity :=
  length_openFrom 0 c.slots

@[simp] theorem arity_fresh (s : Signature) (f : Value) (e : Option (List Ty)) :
    (fresh s f e).arity = s.arity := by
  simp [fresh, arity, List.countP_replicate, Value.isOpen]

variable [Host]

theorem put_open {c : Curried} {slots : List Value} {index : Nat} {v : Value}
    (h : v.isOpen = true) : c.put slots index v = .ok slots := by
  simp [put, h]

end Curried

end CheckedCurry
