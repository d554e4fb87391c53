import CheckedCurry.Ty.Membership

/-!
# Representatives of types

A value may stand for a type: a type itself, a type constructor, a class.

* `Class.holds`: whether a value is of a class.
* `Value.admits`: whether a representative admits a value.  A class that declares an identifier is
  compared by the identifier, so that classes of one kind that are made apart agree.
-/

namespace CheckedCurry

variable [Host]

namespace Class

/-- Whether a value is of a class.  The value `true` is an integer here. -/
def holds : Class → Value → Bool
  | object, _ => true
  | int, v =>
    match v.core with
    | .number (.int _) | .bool _ => true
    | _ => false
  | float, v =>
    match v.core with
    | .number (.float _) | .number (.nan _) => true
    | _ => false
  | string, v => v.isText
  | bool, .bool _ => true
  | list, v =>
    match v.core with
    | .list _ => true
    | _ => false
  | tuple, .tuple _ | tuple, .identifier _ => true
  | map, .map _ | mapping, .map _ => true
  | type, .cls _ => true
  | bytes, .bytes _ => true
  | error c, .error _ f => f.errorClass.isSubclass c
  | null, .null => true
  | maybe, v => v.identifier? == some maybeIdentifier && v.classOf == .maybe
  | either, v => v.identifier? == some eitherIdentifier && v.classOf == .either
  | placeholder, .placeholder => true
  | anyNumber, v =>
    match v.core with
    | .number _ | .decimal _ | .bool _ => true
    | _ => false
  | realNumber, v =>
    match v.core with
    | .number _ | .bool _ => true
    | _ => false
  | tagged tag, v => v.classOf == .tagged tag
  | _, _ => false

end Class

namespace Value

/-- Whether a value is a truth value. -/
def isBool : Value → Bool
  | bool _ => true
  | _ => false

/-- The identifier that a representative declares. -/
def declared? (representative : Value) : Option String :=
  match representative.attribute? "__type_identifier__" with
  | some v =>
    match v.core with
    | text s => some s
    | _ => none
  | none => none

/-- Whether a representative admits a value (`is_`).  Truth values are no integers and no numbers. -/
def admits (representative v : Value) : Attempt Bool :=
  match representative with
  | type _ t => t.isMember v
  | constructor c => c.test.holds v
  | r =>
    match r.declared? with
    | some declared => .ok (v.identifier? == some declared)
    | none =>
      match r with
      | cls c => .ok (if v.isBool && c != .bool then c == .object else c.holds v)
      | _ => .ok false

/-! ## Small laws -/

@[simp] theorem admits_type (mark : Option Nat) (t : Ty) (v : Value) :
    (type mark t).admits v = t.isMember v := rfl

@[simp] theorem admits_constructor (c : Constructor) (v : Value) :
    (constructor c).admits v = c.test.holds v := rfl

end Value

end CheckedCurry
