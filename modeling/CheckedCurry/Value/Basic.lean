import CheckedCurry.Catalog.Name
import CheckedCurry.Fault.Basic
import CheckedCurry.Identifier
import CheckedCurry.Moment
import CheckedCurry.Number.Decimal
import CheckedCurry.Parameters
import CheckedCurry.Signature.Basic
import CheckedCurry.Text.Expression

/-!
# Values

The values that programs compute with.  Functions are values too, and they are data: what they do
is said by the interpreter.

* `Value`: the values.
* Marks: values that are equal only to themselves carry a mark, which is given out when the value
  is made.
* `Class`, `Tag`: classes as values, and the identifiers that classes declare.
-/

namespace CheckedCurry

/-! ## Parts of values -/

/-- The integers from `start` on in steps of `step`, up to but not including `stop`. -/
structure Progression where
  start : Int
  stop : Int
  step : Int
  deriving DecidableEq, Repr, Inhabited

namespace Progression

/-- The number of integers. -/
def length (p : Progression) : Nat :=
  if 0 < p.step then ((p.stop - p.start + p.step - 1).fdiv p.step).toNat
  else if p.step < 0 then ((p.start - p.stop - p.step - 1).fdiv (-p.step)).toNat
  else 0

/-- The first integers, at most so many. -/
def front (p : Progression) (count : Nat) : List Int :=
  (List.range (min count p.length)).map fun (i : Nat) => p.start + i * p.step

/-- The integers. -/
def elements (p : Progression) : List Int :=
  (List.range p.length).map fun (i : Nat) => p.start + i * p.step

/-- How a progression is written in an expression; a step of one is left out. -/
def literal (p : Progression) : Except NumberFault String := do
  let bounds := (← Number.integerText p.start) ++ ", " ++ (← Number.integerText p.stop)
  if p.step = 1 then return "range(" ++ bounds ++ ")"
  else return "range(" ++ bounds ++ ", " ++ (← Number.integerText p.step) ++ ")"

theorem front_of_le {p : Progression} {count : Nat} (h : p.length ≤ count) :
    p.front count = p.elements := by
  rw [front, elements, Nat.min_eq_right h]

@[simp] theorem length_elements (p : Progression) : p.elements.length = p.length := by
  simp [elements]

end Progression

/-- What a class declares as the identifier of its values.  Only a text is an identifier. -/
inductive Tag where
  | none
  | text (s : String)
  | int (n : Int)
  | null
  deriving DecidableEq, Repr, Inhabited

namespace Tag

/-- The identifier that a tag is. -/
def identifier? : Tag → Option String
  | text s => some s
  | _ => Option.none

/-- The written tag. -/
def written : Tag → String
  | none => ""
  | text s => s
  | int n => toString n
  | null => "None"

end Tag

/-- A class.  Three of them are abstract: they have the values of other classes. -/
inductive Class where
  | int
  | float
  | string
  | bool
  | list
  | tuple
  | map
  | object
  | type
  | bytes
  | error (c : ErrorClass)
  | null
  | maybe
  | either
  | placeholder
  | anyNumber
  | realNumber
  | mapping
  | tagged (tag : Tag)
  | marker (mark : Nat)
  | other (name : String)
  deriving DecidableEq, Repr, Inhabited

namespace Class

/-- The name of a class. -/
def name : Class → String
  | int => "int"
  | float => "float"
  | string => "str"
  | bool => "bool"
  | list => "list"
  | tuple => "tuple"
  | map => "dict"
  | object => "object"
  | type => "type"
  | bytes => "bytes"
  | error c => c.name
  | null => "NoneType"
  | maybe => "Maybe"
  | either => "Either"
  | placeholder => "Placeholder"
  | anyNumber => "Number"
  | realNumber => "Real"
  | mapping => "Mapping"
  | tagged tag => "Tagged " ++ tag.written
  | marker _ => "Marker"
  | other name => name

/-- The places that classes come from, with the names of the classes, for those that are told apart
by their names alone. -/
def places : List (String × List String) :=
  [("fractions", ["Fraction"]), ("decimal", ["Decimal"]),
   ("datetime", ["date", "time", "datetime", "timedelta", "timezone"]),
   ("re", ["Pattern"]), ("collections", ["deque"]), ("abc", ["ABCMeta"]),
   ("haven.classify", ["TypeIdentifier", "_Undefined"]),
   ("haven.curry", ["CurriedFunction"]), ("haven.module", ["Module"]),
   ("haven.signature", ["Signature"]),
   ("haven.types", ["AnyType", "AccessibleType", "TypeRepType", "TypeVariable", "NullaryType",
     "AppliedType", "UnaryType", "BinaryType"])]

/-- The place that the class with a name comes from, if it is not a general one. -/
def placeOf? (name : String) : Option String :=
  (places.find? fun (_, names) => names.contains name).map (·.1)

/-- The place that a class comes from, if it is not a general one. -/
def place? : Class → Option String
  | error c => c.place?
  | maybe => some "haven.adt.maybe"
  | either => some "haven.adt.either"
  | placeholder => some "haven.placeholder"
  | anyNumber | realNumber => some "numbers"
  | mapping => some "collections.abc"
  | other name => placeOf? name
  | _ => Option.none

/-- The name of a class with the place it comes from, if it is not a general one. -/
def qualifiedName (c : Class) : String :=
  match c.place? with
  | some place => place ++ "." ++ c.name
  | Option.none => c.name

/-- How a class is written in an expression. -/
def literal (c : Class) : String := "<class '" ++ c.qualifiedName ++ "'>"

/-- The classes that programs name. -/
def named : List Class :=
  [int, float, string, bool, list, tuple, map, object, type, bytes, error .exception,
   error .value, error .type, null, maybe, either, error .library, placeholder, anyNumber,
   realNumber, mapping]

/-- The class with a name. -/
def ofName? (name : String) : Option Class := named.find? fun c => c.name == name

end Class

/-- What is fixed when an object is made: a mark, the name of its class, what its class declares,
how it is written, its text if that is another one, and whether it can be called. -/
structure Shape where
  mark : Nat
  className : String
  tag : Tag
  printed : String
  shown : Option String
  callable : Bool
  deriving DecidableEq, Repr, Inhabited

/-- What an object of a class of the program may be besides: a number, a text or a list. -/
inductive Base (V : Type) where
  | number (n : Number)
  | text (s : String)
  | list (items : List V)

/-! ## Values -/

/-- The values of programs. -/
inductive Value where
  | null
  /-- The second null value: what was never supplied. -/
  | undefined
  /-- Stands for an argument that is supplied later. -/
  | placeholder
  | bool (b : Bool)
  | number (n : Number)
  | text (s : String)
  | decimal (d : Decimal)
  | bytes (bs : List UInt8)
  | moment (m : Moment)
  | duration (d : Duration)
  | pattern (source : Text.Expression)
  | list (items : List Value)
  | tuple (items : List Value)
  | range (p : Progression)
  /-- A sequence that is extended at both ends; it has elements, but no parts. -/
  | deque (items : List Value)
  /-- The parts of an identifier; it is a tuple of three whose elements have names. -/
  | identifier (i : Identifier)
  | map (entries : List (Value × Value))
  /-- An optional value that is absent. -/
  | nothing
  /-- An optional value that is present. -/
  | just (v : Value)
  /-- A failure. -/
  | left (v : Value)
  /-- A success. -/
  | right (v : Value)
  | error (mark : Nat) (fault : Fault Value)
  /-- An object with attributes; `base` is what it is in addition. -/
  | object (shape : Shape) (attrs : List (String × Value)) (base : Option (Base Value))
  | cls (c : Class)
  /-- A type.  Standard types and type variables need no mark. -/
  | type (mark : Option Nat) (t : Ty)
  | constructor (c : Constructor)
  | helper (h : Helper)
  /-- What a standard function does, without currying and checks. -/
  | standard (s : Standard)
  /-- The function that answers `v`. -/
  | constant (mark : Nat) (v : Value) (parameters : Parameters)
  /-- The function that fails. -/
  | failing (mark : Nat) (errorClass : ErrorClass) (message : String) (parameters : Parameters)
  /-- The function that answers the list of its arguments. -/
  | collecting (mark : Nat) (parameters : Parameters)
  /-- A function with the first argument it is called with. -/
  | bound (function receiver : Value)
  /-- A curried function: its signature, what it does, the types that its rejections are described
  by if it checks its arguments, and its slots, open ones holding a placeholder. -/
  | curried (mark : Nat) (signature : Signature) (implementation : Value)
      (environment : Option (List Ty)) (slots : List Value)

instance : Inhabited Value := ⟨.null⟩

namespace Value

/-- The integer `n`. -/
def int (n : Int) : Value := .number (.int n)

/-- The natural number `n`. -/
def nat (n : Nat) : Value := .number (.int n)

/-- The truth values. -/
@[match_pattern] def yes : Value := .bool true

/-- The truth values. -/
@[match_pattern] def no : Value := .bool false

/-- A function that programs pass on and do not call, shown by a name. -/
def passive (name : String) : Value :=
  .object ⟨0, "function", .none, name, none, true⟩ [("__qualname__", .text name)] none

/-- What an object is besides, as a value. -/
def ofBase : Base Value → Value
  | .number n => number n
  | .text s => text s
  | .list items => list items

/-- The value that an object is in addition to being an object, or the value itself. -/
def core : Value → Value
  | object _ _ (some b) => ofBase b
  | v => v

/-- The elements of an identifier, as a tuple. -/
def identifierItems (i : Identifier) : List Value :=
  [match i.space with
    | some s => .text s
    | none => .null, .text i.name, .int i.version]

end Value

/-- A computation that may end in a fault. -/
abbrev Attempt := Except (Fault Value)

namespace Attempt

/-- The computation that fails with a basic cause. -/
def fail {α : Type} (cause : Cause) : Attempt α := .error (.basic cause)

/-- A computation on numbers. -/
def ofNumber {α : Type} : Except NumberFault α → Attempt α
  | .ok a => .ok a
  | .error e => fail (.number e)

@[simp] theorem ofNumber_ok {α : Type} (a : α) : ofNumber (.ok a) = .ok a := rfl

@[simp] theorem ofNumber_error {α : Type} (e : NumberFault) :
    ofNumber (.error e : Except NumberFault α) = fail (.number e) := rfl

end Attempt

end CheckedCurry
