import CheckedCurry.Run.Apply
import CheckedCurry.Run.Parameters

/-!
# Libraries of functions

A library holds the standard functions, curried, with or without checks, and an environment by which
rejected values are described.  Libraries that differ can be used side by side.

* `Library`: whether arguments are checked, and the environment.
* `Library.function`: a standard function of a library.
* `Library.create`: what is logged when a library is made.
* `Library.define`: a new curried function.
-/

namespace CheckedCurry

/-- A library of curried functions (`Module`). -/
structure Library where
  isChecked : Bool
  environment : List Ty
  deriving Inhabited

namespace Library

/-- The library with the standard environment. -/
def standard (isChecked : Bool) : Library := ⟨isChecked, Ty.environment⟩

/-- The same library without checks (`Module.unchecked`). -/
def unchecked (l : Library) : Library := { l with isChecked := false }

/-- The environment that functions of the library check with, if they check. -/
def checks? (l : Library) : Option (List Ty) := if l.isChecked then some l.environment else none

/-! ## Standard functions -/

/-- The mark of a standard function; checked and unchecked ones differ. -/
def markOf (l : Library) (s : Standard) : Nat :=
  2 * (Standard.all.idxOf s) + (if l.isChecked then 1 else 0)

/-- A standard function before any call. -/
def curriedOf (l : Library) (s : Standard) : Curried :=
  .fresh s.signature (.standard s) l.checks?

/-- A standard function as a value. -/
def function (l : Library) (s : Standard) : Value := (l.curriedOf s).toValue (l.markOf s)

/-- The names of all functions (`Module.functions`). -/
def names : List String := Standard.all.map Standard.name

/-- The function with a name. -/
def function? (l : Library) (name : String) : Option Value :=
  (Standard.ofName? name).map l.function

/-- The function with a name (`Module.__getattr__`); a name without a function is a mistake. -/
def find (l : Library) (name : String) : Attempt Value :=
  match l.function? name with
  | some f => .ok f
  | none => throw (.misuse (.noFunction name))

/-- How a library is written as a value. -/
def literal (l : Library) : String :=
  "<Module (" ++ (if l.isChecked then "checked" else "unchecked") ++ ", " ++
    toString l.environment.length ++ " types)>"

/-- A library as a value that programs pass on.  Like its functions it has a small mark. -/
def toValue (l : Library) : Value :=
  .object ⟨2 * Standard.all.length + (if l.isChecked then 1 else 0), "Module", .none, l.literal,
    none, false⟩ [] none

/-! ## Making libraries and functions -/

/-- The record of a new curried function. -/
def curryingRecord (l : Library) (s : Signature) : Log.Record :=
  .plain Log.functions .debug ("currying " ++ s.text ++ " (" ++
    (if l.isChecked then "with" else "without") ++ " checking)")

/-- The record of a new library. -/
def createdRecord (l : Library) : Log.Record :=
  .plain Log.libraries .debug ("created module with " ++ toString Standard.all.length ++
    " functions (checking " ++ (if l.isChecked then "on" else "off") ++ ")")

/-- A library is made (`create`): its functions are curried one after the other. -/
def create (l : Library) : Run Unit := do
  Standard.all.forM fun s => Run.log (l.curryingRecord s.signature)
  Run.log l.createdRecord

/-- A new curried function (`Module.define`).  There must be one type for each parameter of the
implementation, as far as their number is known. -/
def define (l : Library) (s : Signature) (implementation : Value) : Run Value :=
  match implementation.parameterCount? with
  | some takes =>
    if takes = s.arity then make else throw (.misuse (.parameterCount s.name takes s.arity))
  | none => make
where
  /-- The function is curried and gets a mark. -/
  make : Run Value := do
    Run.log (l.curryingRecord s)
    Run.marked (Curried.fresh s implementation l.checks?).toValue

/-! ## Attributes -/

/-- The attributes of a library that can be assigned only when it is made. -/
def options : List String := ["check_types", "env"]

/-- The attributes of a library besides its functions. -/
def option? (l : Library) : String → Option Value
  | "check_types" => some (.bool l.isChecked)
  | "env" => some (.tuple (l.environment.map (.type none)))
  | "functions" => some (.map (Standard.all.map fun s => (.text s.name, l.function s)))
  | "unchecked" => some l.unchecked.toValue
  | "define" => some (.passive "Module.define")
  | "__class__" => some (.cls (.other "Module"))
  | _ => none

/-- An attribute of a library. -/
def readAttribute (l : Library) (name : String) : Attempt Value :=
  match l.option? name with
  | some v => .ok v
  | none => l.find name

/-- Why an attribute of a library cannot be assigned. -/
def assignmentFault? (name : String) : Option (Fault Value) :=
  if options.contains name then some (.misuse (.alreadySet name))
  else if name = "functions" then some (.basic (.noSetter name))
  else none

end Library

end CheckedCurry
