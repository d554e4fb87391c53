import CheckedCurry.Value.Key

/-!
# Equality of values

Numbers are equal by value whatever their sort, containers by their contents, and all else is equal
to itself alone.  An optional value, a failure or a success equals any value that declares the same
identifier and has equal contents, so that an object of another make is compared by its attributes.

* `Value.leafEq`: equality of values without contents.
* `Value.equals`: equality of all values.  It fails only when an object that declares one of the
  two identifiers lacks an attribute, or when a decimal refuses to be compared.
-/

namespace CheckedCurry.Value

/-! ## Values without contents -/

/-- The point on the extended line that a value has as a number, for numbers of all sorts. -/
def point? : Value → Option Extended
  | bool b => some (.finite (if b then 1 else 0))
  | number n => some n.exact
  | decimal (.infinite s) => some (.infinite s)
  | decimal (.finite s c e) => some (.finite (DecimalLiteral.toRat ⟨s, c, e⟩))
  | decimal (.notANumber ..) => some .nowhere
  | _ => none

/-- Equality of values that are not containers.  Values that only equal themselves are compared by
what they are looked up by. -/
def leafEq (v w : Value) : Bool :=
  match v.core.point?, w.core.point? with
  | some x, some y => x.eq y
  | none, none => sameKey v w
  | _, _ => false

/-- Whether a value is a decimal that comparisons refuse. -/
def isSignaling (v : Value) : Bool :=
  match v.core with
  | decimal d => d.isSignaling
  | _ => false

/-- Equality of values that are not containers, which some decimals refuse beside a number. -/
def leafEquals (v w : Value) : Attempt Bool :=
  if (v.isSignaling && w.core.point?.isSome) || (w.isSignaling && v.core.point?.isSome) then
    Attempt.fail (.decimal .invalid)
  else .ok (leafEq v w)

/-- Equality of the parts of an identifier with the elements of a tuple. -/
def identifierEq (i : Identifier) : List Value → Bool
  | [space, name, version] =>
    leafEq (match i.space with
      | some s => text s
      | none => null) space && leafEq (text i.name) name && leafEq (int i.version) version
  | _ => false

/-! ## Objects that declare an identifier -/

/-- The value of an attribute that an object must have. -/
def require (operand : String) (attrs : List (String × Value)) (name : String) : Attempt Value :=
  match attrs.lookup name with
  | some v => .ok v
  | none => Attempt.fail (.noAttribute operand name)

/-- Equality of `flag` with an attribute of an object. -/
def flagEq (shape : Shape) (attrs : List (String × Value)) (name : String) (flag : Bool) :
    Attempt Bool := do
  return leafEq (bool flag) (← require shape.className attrs name)

/-- The entry of a map under a key. -/
def valueAt? (k : Key) (entries : List (Value × Value)) : Option Value :=
  (entries.find? fun e => match e.1.key with
    | .ok l => k == l
    | .error _ => false).map (·.2)

/-! ## All values -/

mutual

/-- Equality of two values. -/
def equals : Value → Value → Attempt Bool
  | nothing, w =>
    match w with
    | nothing => .ok true
    | object shape attrs _ =>
      if shape.tag.identifier? = some maybeIdentifier then flagEq shape attrs "is_just" false
      else .ok false
    | _ => .ok false
  | just v, w =>
    match w with
    | just w => equals v w
    | object shape attrs _ =>
      if shape.tag.identifier? = some maybeIdentifier then do
        if ← flagEq shape attrs "is_just" true then
          equals v (← require shape.className attrs "value")
        else return false
      else .ok false
    | _ => .ok false
  | left v, w =>
    match w with
    | left w => equals v w
    | object shape attrs _ =>
      if shape.tag.identifier? = some eitherIdentifier then do
        if ← flagEq shape attrs "is_right" false then
          equals v (← require shape.className attrs "value")
        else return false
      else .ok false
    | _ => .ok false
  | right v, w =>
    match w with
    | right w => equals v w
    | object shape attrs _ =>
      if shape.tag.identifier? = some eitherIdentifier then do
        if ← flagEq shape attrs "is_right" true then
          equals v (← require shape.className attrs "value")
        else return false
      else .ok false
    | _ => .ok false
  | list vs, w =>
    match w.core with
    | list ws => if vs.length = ws.length then equalElements vs ws else .ok false
    | _ => .ok false
  | tuple vs, w =>
    match w with
    | tuple ws => equalElements vs ws
    | identifier i => .ok (identifierEq i vs)
    | _ => .ok false
  | identifier i, w =>
    match w with
    | tuple ws => .ok (identifierEq i ws)
    | identifier j => .ok (i == j)
    | _ => .ok false
  | deque vs, w =>
    match w with
    | deque ws => if vs.length = ws.length then equalElements vs ws else .ok false
    | _ => .ok false
  | map vs, w =>
    match w with
    | map ws => if vs.length = ws.length then equalEntries vs ws else .ok false
    | _ => .ok false
  | object shape attrs base, w =>
    match w with
    | nothing =>
      if shape.tag.identifier? = some maybeIdentifier then flagEq shape attrs "is_just" false
      else .ok false
    | just w =>
      if shape.tag.identifier? = some maybeIdentifier then do
        if ← flagEq shape attrs "is_just" true then equalAttribute shape "value" attrs w
        else return false
      else .ok false
    | left w =>
      if shape.tag.identifier? = some eitherIdentifier then do
        if ← flagEq shape attrs "is_right" false then equalAttribute shape "value" attrs w
        else return false
      else .ok false
    | right w =>
      if shape.tag.identifier? = some eitherIdentifier then do
        if ← flagEq shape attrs "is_right" true then equalAttribute shape "value" attrs w
        else return false
      else .ok false
    | w =>
      match base, w.core with
      | some (.list vs), list ws =>
        if vs.length = ws.length then equalElements vs ws else .ok false
      | _, _ => leafEquals (object shape attrs base) w
  | v, w => leafEquals v w

/-- Equality of the elements of two sequences.  An element that is looked up by the same key is
equal without a comparison, so that a value that is not a number equals itself here. -/
def equalElements : List Value → List Value → Attempt Bool
  | [], [] => .ok true
  | v :: vs, w :: ws => do
    if ← (if sameKey v w then .ok true else equals v w) then equalElements vs ws
    else return false
  | _, _ => .ok false

/-- Equality of the entries of two maps of one size, in any order. -/
def equalEntries : List (Value × Value) → List (Value × Value) → Attempt Bool
  | [], _ => .ok true
  | (k, v) :: rest, ws => do
    match valueAt? (← k.key) ws with
    | none => return false
    | some w =>
      if ← (if sameKey v w then .ok true else equals v w) then equalEntries rest ws
      else return false

/-- Equality of an attribute of an object with a value. -/
def equalAttribute (shape : Shape) (name : String) :
    List (String × Value) → Value → Attempt Bool
  | [], _ => Attempt.fail (.noAttribute shape.className name)
  | (n, v) :: rest, w => if n = name then equals v w else equalAttribute shape name rest w

end

/-- Whether two values cannot be told apart: they have one class and are one key, or are equal if
they cannot be keys. -/
def identical (v w : Value) : Bool :=
  v.className == w.className &&
  match v.key, w.key with
  | .ok k, .ok l => k == l
  | .error _, .error _ => (equals v w).toOption.getD false
  | _, _ => false

end CheckedCurry.Value
