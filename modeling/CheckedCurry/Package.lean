import CheckedCurry.Library

/-!
# The package

The functions of the default library, the types and the classes under the names by which programs
get them.

* `Package.export?`, `Package.find`: what a name stands for.
-/

namespace CheckedCurry.Package

/-- The version of the package. -/
def version : String := "0.1.0"

/-- The name of the package. -/
def name : String := "haven"

/-- The types without a constructor that the package exports. -/
def types : List (String × Value) := Ty.standard.map fun (name, t) => (name, .type none t)

/-- The type constructors that the package exports. -/
def constructors : List (String × Value) :=
  [("Array", .constructor .array), ("StrMap", .constructor .stringMap),
   ("MaybeType", .constructor .maybe), ("EitherType", .constructor .either)]

/-- The classes that the package exports. -/
def classes : List (String × Value) :=
  [("Maybe", .cls .maybe), ("Either", .cls .either), ("HavenError", .cls (.error .library)),
   ("ArityError", .cls (.error .arity)), ("InvalidValueError", .cls (.error .invalidValue)),
   ("TypeVariableError", .cls (.error .typeVariable)),
   ("AccessibilityError", .cls (.error .accessibility)),
   ("CapabilityError", .cls (.error .capability)), ("TypeClassError", .cls (.error .typeClass)),
   ("RangeError", .cls (.error .range)), ("ConfigurationError", .cls (.error .configuration)),
   ("CurriedFunction", .cls (.other "CurriedFunction")), ("Module", .cls (.other "Module")),
   ("TypeVariable", .cls (.other "TypeVariable")), ("NullaryType", .cls (.other "NullaryType")),
   ("UnaryType", .cls (.other "UnaryType")), ("BinaryType", .cls (.other "BinaryType")),
   ("TypeIdentifier", .cls (.other "TypeIdentifier"))]

/-- The single values that the package exports. -/
def values (l : Library) : List (String × Value) :=
  [("__", .placeholder), ("undefined", .undefined), ("Nothing", .nothing),
   ("Just", .helper .makeJust), ("Left", .helper .makeLeft), ("Right", .helper .makeRight),
   ("version", .text version), ("__name__", .text name), ("__package__", .text name),
   ("__getattr__", .passive "__getattr__"), ("__dir__", .passive "__dir__"),
   ("check_types", .bool l.isChecked),
   ("env", .tuple (Ty.environment.map (.type none))),
   ("unchecked", l.unchecked.toValue), ("_default", l.toValue),
   ("create", .passive "create"), ("define", .passive "Module.define"),
   ("check_types_from_environment", .passive "check_types_from_environment"),
   ("log_handler_from_environment", .passive "log_handler_from_environment")]

/-- What a name stands for. -/
def export? (l : Library) (name : String) : Option Value :=
  match (values l ++ types ++ constructors ++ classes).lookup name with
  | some v => some v
  | none => l.function? name

/-- What a name stands for (`__getattr__`); other names are mistakes. -/
def find (l : Library) (name : String) : Attempt Value :=
  match export? l name with
  | some v => .ok v
  | none => throw (.misuse (.noExport name))

/-- Whether the package lists a name (`__dir__`). -/
def lists (l : Library) (name : String) : Bool := (export? l name).isSome

end CheckedCurry.Package
