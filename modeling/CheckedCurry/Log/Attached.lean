import CheckedCurry.Value.Arithmetic

/-!
# The error that goes with a record

A caller may ask for an error to be logged with a record: for one that is given, alone or in a
tuple, or for the one that is being handled.

* `Log.attached`: the name of the class of that error.
-/

namespace CheckedCurry.Log

/-- The name that is logged where an error is asked for and there is none. -/
def noError : String := "NoneType"

/-- The name of the class of an error, or of no error. -/
def nameOf? : Value → Option String
  | .null => some noError
  | .error _ f => some f.errorClass.qualifiedName
  | _ => none

/-- Whether a value is a bound on the length of a trace, or none. -/
def isLimit (v : Value) : Bool :=
  match v, v.integer? with
  | .null, _ => true
  | _, some n => n.natAbs < Value.countBound
  | _, none => false

/-- The name for a tuple: of an error alone, or of a class, an error and the trace that leads to it,
which no value has.  A bound on the trace may follow, and whether the causes of the error matter. -/
def nameIn? : List Value → Option String
  | [e] => nameOf? e
  | [_, e, .null] => nameOf? e
  | [_, e, .null, limit] | [_, e, .null, limit, _] => if isLimit limit then nameOf? e else none
  | _ => none

/-- The name of the class of the error that goes with a record, given the error that is being handled
(`_log`).  A wish that does not count as true is no wish; a tuple must hold an error. -/
def attached (handled : Option ErrorClass) (wish : Value) : Attempt (Option String) :=
  if !wish.truth then .ok none
  else match wish, wish.tuple? with
    | .error _ f, _ => .ok (some f.errorClass.qualifiedName)
    | _, some items =>
      match nameIn? items with
      | some name => .ok (some name)
      | none => Attempt.fail .formatting
    | _, none => .ok (some ((handled.map (·.qualifiedName)).getD noError))

/-! ## Small laws -/

@[simp] theorem attached_no (handled : Option ErrorClass) :
    attached handled .no = .ok none := rfl

@[simp] theorem attached_yes (c : ErrorClass) :
    attached (some c) .yes = .ok (some c.qualifiedName) := rfl

end CheckedCurry.Log
