import CheckedCurry.Capability
import CheckedCurry.Value.Arithmetic

/-!
# What the operations do

An operation is chosen by the unifier of its first operand.

* `Value.asBoolean`: the truth of truth values, arrays, optional values, failures and successes.
* `Value.emptyLike`: the empty value of the same kind.
* `Value.joinWith`: one value followed by another; the contents of optional values are joined.
* `Value.agreesWith`: equality that takes two values that are not numbers to be equal.

An operand that no operation is meant for is reported by `Value.lacks`.
-/

namespace CheckedCurry

variable [Host]

open Capability (Operation)

namespace Value

/-- The fault of a value that does not support an operation (`format_capability_error`). -/
def lacks {α : Type} (v : Value) (o : Operation) : Attempt α := do
  throw (.capability (← v.display) o.name)

/-- Whether an operation supports a value (`Capability.supports`). -/
def supports (v : Value) (o : Operation) : Bool := o.supported.contains v.unifier

/-! ## Truth and emptiness -/

/-- The truth of a value (`_boolean_to_boolean`, `_array_to_boolean`, `_maybe_to_boolean`,
`_either_to_boolean`).  Objects that declare an identifier answer with an attribute, whatever it
holds. -/
def asBoolean (v : Value) : Attempt Value :=
  if v.unifier = Kind.boolean.name then .ok v
  else if v.unifier = Kind.array.name then do return bool (0 < (← v.length))
  else if v.unifier = maybeIdentifier then v.readAttribute "is_just"
  else if v.unifier = eitherIdentifier then v.readAttribute "is_right"
  else v.lacks .toBoolean

/-- The empty value of the kind of a value (`_boolean_empty`, `_array_empty`, `_string_empty`,
`_maybe_empty`, `_object_empty`). -/
def emptyLike (v : Value) : Attempt Value :=
  if v.unifier = Kind.boolean.name then .ok no
  else if v.unifier = Kind.array.name then v.front
  else if v.unifier = Kind.string.name then .ok (text "")
  else if v.unifier = maybeIdentifier then .ok nothing
  else if v.unifier = Kind.object.name then .ok (map [])
  else v.lacks .empty

/-! ## Joining -/

/-- Two arrays joined (`_array_concat`): arrays of one sort are added, others become a list. -/
def joinArrays (mark : Nat) (v w : Value) : Attempt Value :=
  if v.classOf = w.classOf then
    match v.core with
    | range _ => Attempt.fail (.unsupported "+" "range" "range")
    | _ => plus mark v w
  else do
    let front ← v.spread
    return list (front ++ (← w.spread))

/-- Two maps joined (`_object_concat`): entries of the second take the place of entries of the
first. -/
def joinMaps (v w : Value) : Attempt Value := do
  let front ← v.entries
  return mapOf (front ++ (← w.entries))

/-- Two values joined, neither of them optional (`_string_concat`, `_array_concat`,
`_object_concat`). -/
def joinFlat (mark : Nat) (v w : Value) : Attempt Value :=
  if v.unifier = Kind.string.name then plus mark v w
  else if v.unifier = Kind.array.name then joinArrays mark v w
  else if v.unifier = Kind.object.name then joinMaps v w
  else v.lacks .concat

mutual

/-- One value followed by another (`_maybe_concat`).  An absent optional value leaves the other
one. -/
def joinWith (mark : Nat) : Value → Value → Attempt Value
  | nothing, w => .ok w
  | just v, w => do
    if (← w.readAttribute "is_nothing").truth then return just v
    else return just (← joinWith mark v (← w.readAttribute "value"))
  | object shape attrs base, w =>
    if shape.tag.identifier? = some maybeIdentifier then do
      if (← (object shape attrs base).readAttribute "is_nothing").truth then return w
      else if (← w.readAttribute "is_nothing").truth then return object shape attrs base
      else joinAttribute mark shape attrs w
    else joinFlat mark (object shape attrs base) w
  | v, w => joinFlat mark v w

/-- The content of an object joined with the content of a value. -/
def joinAttribute (mark : Nat) (shape : Shape) : List (String × Value) → Value → Attempt Value
  | [], _ => Attempt.fail (.noAttribute shape.className "value")
  | (n, v) :: rest, w =>
    if n = "value" then do return just (← joinWith mark v (← w.readAttribute "value"))
    else joinAttribute mark shape rest w

end

/-! ## Agreement -/

/-- Whether a value is a number that is "not a number" (`_is_nan`). -/
def isNaN (v : Value) : Attempt Bool :=
  match v.number? with
  | some n => do return !(← Attempt.ofNumber n.isValid)
  | none => .ok false

/-- Whether both values are "not a number". -/
def bothNaN (v w : Value) : Attempt Bool :=
  if v.number?.isSome && w.number?.isSome then do
    if ← v.isNaN then w.isNaN else return false
  else .ok false

/-- Equality of two values, of which the first is neither optional nor a failure or a success
(`_equals`). -/
def agreeFlat (v w : Value) : Attempt Value :=
  if v.supports .equals then do
    if ← bothNaN v w then return yes else return bool (← equals v w)
  else v.lacks .equals

mutual

/-- Equality in which a value that is not a number equals another one (`_equals`, `_maybe_equals`,
`_either_equals`). -/
def agreesWith : Value → Value → Attempt Value
  | nothing, w =>
    if w.unifier = maybeIdentifier then w.readAttribute "is_nothing" else .ok no
  | just v, w =>
    if w.unifier = maybeIdentifier then do
      if (← w.readAttribute "is_nothing").truth then return no
      else return bool (← agreesWith v (← w.readAttribute "value")).truth
    else .ok no
  | left v, w =>
    if w.unifier = eitherIdentifier then do
      if ← equals no (← w.readAttribute "is_right") then
        return bool (← agreesWith v (← w.readAttribute "value")).truth
      else return no
    else .ok no
  | right v, w =>
    if w.unifier = eitherIdentifier then do
      if ← equals yes (← w.readAttribute "is_right") then
        return bool (← agreesWith v (← w.readAttribute "value")).truth
      else return no
    else .ok no
  | object shape attrs base, w =>
    if shape.tag.identifier? = some maybeIdentifier then
      if w.unifier = maybeIdentifier then do
        let absent ← (object shape attrs base).readAttribute "is_nothing"
        if absent.truth then w.readAttribute "is_nothing"
        else if (← w.readAttribute "is_nothing").truth then return absent
        else agreeAttribute shape attrs w
      else .ok no
    else if shape.tag.identifier? = some eitherIdentifier then
      if w.unifier = eitherIdentifier then do
        let side ← (object shape attrs base).readAttribute "is_right"
        if ← equals side (← w.readAttribute "is_right") then agreeAttribute shape attrs w
        else return no
      else .ok no
    else agreeFlat (object shape attrs base) w
  | v, w => agreeFlat v w

/-- Equality of the content of an object with the content of a value. -/
def agreeAttribute (shape : Shape) : List (String × Value) → Value → Attempt Value
  | [], _ => Attempt.fail (.noAttribute shape.className "value")
  | (n, v) :: rest, w =>
    if n = "value" then do return bool (← agreesWith v (← w.readAttribute "value")).truth
    else agreeAttribute shape rest w

end

/-! ## Performing an operation -/

/-- An operation on its operands (`Capability.__call__`).  The operation is chosen before the operands
are counted. -/
def perform (mark : Nat) (o : Operation) (v : Value) (rest : List Value) : Attempt Value :=
  if v.supports o then
    match o, rest with
    | .toBoolean, [] => v.asBoolean
    | .empty, [] => v.emptyLike
    | .concat, [w] => v.joinWith mark w
    | .equals, [w] => v.agreesWith w
    | o, _ => Attempt.fail (.argumentCount o.name)
  else v.lacks o

/-! ## Small laws -/

@[simp] theorem joinWith_nothing (mark : Nat) (w : Value) : joinWith mark nothing w = .ok w := by
  unfold joinWith; rfl

@[simp] theorem asBoolean_bool (b : Bool) : (bool b).asBoolean = .ok (bool b) := rfl

end Value

end CheckedCurry
