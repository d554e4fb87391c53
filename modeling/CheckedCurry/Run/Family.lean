import CheckedCurry.Run.Basic

/-!
# Methods of optional values, failures and successes

* `Family`: the two families.
* `Family.Method`: their methods; `Family.Method.run` answers `none` where the answer is the very
  value that the method belongs to.
-/

namespace CheckedCurry

variable [Host]

/-- The families of values that are immutable and cannot be made through their class. -/
inductive Family where
  | maybe
  | either
  deriving DecidableEq, Repr

namespace Family

/-- The family of a value. -/
def of? : Value → Option Family
  | .nothing | .just _ => some maybe
  | .left _ | .right _ => some either
  | _ => none

/-- The name of a family. -/
def name : Family → String
  | maybe => "Maybe"
  | either => "Either"

/-- The fault of an assignment to an attribute of a value. -/
def assignmentFault (f : Family) : Fault Value := .misuse (.immutable f.name)

/-- The methods. -/
inductive Method where
  /-- The content is replaced by what a function makes of it. -/
  | map
  /-- The content of a failure is replaced. -/
  | mapLeft
  /-- The value is replaced by what a function makes of the content. -/
  | chain
  /-- The content, or a default. -/
  | getOrElse
  deriving DecidableEq, Repr

namespace Method

/-- The name of a method. -/
def name : Method → String
  | map => "map"
  | mapLeft => "map_left"
  | chain => "chain"
  | getOrElse => "get_or_else"

/-- The method with a name. -/
def ofName? (s : String) : Option Method :=
  [map, mapLeft, chain, getOrElse].find? fun m => m.name == s

end Method

/-- Whether the values of a family have a method. -/
def hasMethod : Family → Method → Bool
  | maybe, .mapLeft | either, .getOrElse => false
  | _, _ => true

/-- The answer of a method, `none` where it is the value itself. -/
def Method.run (call : Call) (m : Method) (v : Value) (arguments : List Value) :
    Run (Option Value) :=
  match m, v, arguments with
  | .map, .just w, [f] => do return some (.just (← call f [w]))
  | .map, .right w, [f] => do return some (.right (← call f [w]))
  | .map, .nothing, [_] | .map, .left _, [_] => pure none
  | .mapLeft, .left w, [f] => do return some (.left (← call f [w]))
  | .mapLeft, .right _, [_] => pure none
  | .chain, .just w, [f] | .chain, .right w, [f] => do return some (← call f [w])
  | .chain, .nothing, [_] | .chain, .left _, [_] => pure none
  | .getOrElse, .just w, [_] => pure (some w)
  | .getOrElse, .nothing, [.nothing] => pure none
  | .getOrElse, .nothing, [default] => pure (some default)
  | m, v, _ =>
    if (of? v).any (·.hasMethod m) then Run.fail (.argumentCount m.name)
    else Run.fail (.noAttribute v.className m.name)

/-- The answer to a call of an attribute of a value of the family, `none` where it is the value
itself. -/
def invoke (call : Call) (v : Value) (name : String) (arguments : List Value) :
    Run (Option Value) := do
  match Method.ofName? name with
  | some m => m.run call v arguments
  | none => return some (← call (← Run.ofAttempt (v.readAttribute name)) arguments)

end Family

end CheckedCurry
