import CheckedCurry.Value.Basic

/-!
# Attributes that are written once

* `WriteOnce`: the attributes of objects of one class.  Those that the class declares can be
  assigned once and then only read; others are ordinary.  Each object has its own.
-/

namespace CheckedCurry

/-- The attributes that are written once, and what has been assigned, by object and name
(`SetOnce`). -/
structure WriteOnce where
  declared : List String
  assigned : List ((Nat × String) × Value)

namespace WriteOnce

/-- Nothing is assigned. -/
def empty (declared : List String) : WriteOnce := ⟨declared, []⟩

/-- The name of the class of an attribute that is written once. -/
def className : String := "SetOnce"

/-- The name of the ordinary attribute that holds the value of one that is written once. -/
def storage (name : String) : String := "_" ++ className ++ "_" ++ name

/-- The value that an object holds under the name of an ordinary attribute. -/
def stored? (w : WriteOnce) (object : Nat) (name : String) : Option Value :=
  w.assigned.lookup (object, name)

/-- The attributes after an assignment to an ordinary one. -/
def store (w : WriteOnce) (object : Nat) (name : String) (v : Value) : WriteOnce :=
  { w with assigned := ((object, name), v) :: w.assigned }

/-- The value of an attribute of an object (`SetOnce.__get__`). -/
def read (w : WriteOnce) (object : Nat) (name : String) : Attempt Value :=
  if w.declared.contains name then
    match w.stored? object (storage name) with
    | some v => .ok v
    | none => throw (.misuse (.unset name))
  else
    match w.stored? object name with
    | some v => .ok v
    | none => Attempt.fail (.noAttribute "object" name)

/-- The attributes after an assignment, which the first one makes impossible to repeat
(`SetOnce.__set__`). -/
def assign (w : WriteOnce) (object : Nat) (name : String) (v : Value) : Attempt WriteOnce :=
  if w.declared.contains name then
    match w.stored? object (storage name) with
    | some _ => throw (.misuse (.alreadySet name))
    | none => .ok (w.store object (storage name) v)
  else .ok (w.store object name v)

/-- The name of the class of what the class itself has under a name. -/
def classOf (w : WriteOnce) (name : String) : Attempt String :=
  if w.declared.contains name then .ok className else Attempt.fail (.noAttribute "type" name)

end WriteOnce

end CheckedCurry
