import CheckedCurry.Kind

/-!
# Types

A type says which values a parameter takes.  It asks a test of the outermost structure of a value
and, if it has parameters, looks at the values inside.

* `Test`, `Extract`: the tests and the ways to the inner values, as data, so that a type is plain
  data too.
* `TypeVar`: two type variables are the same only if their stamps agree, whatever their names.
* `Ty`: the types.
* `Ty.standard`: the types that have a name of their own; `Ty.environment`: those that a rejected
  value is described by.
-/

namespace CheckedCurry

/-! ## Parts of a type -/

/-- A question about the outermost structure of a value. -/
inductive Test where
  /-- The value has the kind. -/
  | kind (k : Kind)
  /-- The value is a number and not "not a number". -/
  | valid
  /-- The value is a finite number. -/
  | finite
  /-- The value is a finite number other than zero. -/
  | nonZero
  /-- The value is a finite number without a fractional part. -/
  | integer
  /-- The value is an integer that is not negative. -/
  | natural
  /-- The value is a map of kind object, and all its keys are strings. -/
  | stringMap
  /-- The value declares the identifier. -/
  | declares (identifier : String)
  /-- A question that the program asks. -/
  | custom (n : Nat)
  deriving DecidableEq, Repr

/-- A way from a value to the values inside it that a parameter of a type is about. -/
inductive Extract where
  /-- The elements that an iteration meets. -/
  | items
  /-- The values of a map. -/
  | entries
  /-- The value of an optional value that is present. -/
  | present
  /-- The value of a failure. -/
  | leftValue
  /-- The value of a success. -/
  | rightValue
  /-- A way that the program goes. -/
  | custom (n : Nat)
  deriving DecidableEq, Repr

/-- Where a type variable comes from: the standard functions have theirs, and a program may bring
any number of others. -/
inductive Stamp where
  | standard
  | given (n : Int)
  deriving DecidableEq, Repr

/-- A type variable (`TypeVariable`).  The name is only what is written. -/
structure TypeVar where
  name : String
  stamp : Stamp
  deriving DecidableEq, Repr

/-- A type without parameters, given by a test (`NullaryType`); the address points to its
description. -/
structure Nullary where
  name : String
  test : Test
  url : Option String
  deriving DecidableEq, Repr

/-- A type constructor (`UnaryType`, `BinaryType`): a test and one way to inner values for each of its
parameters. -/
structure Constructor where
  name : String
  test : Test
  extracts : List Extract
  url : Option String
  deriving DecidableEq, Repr

namespace Constructor

/-- The name of the class of a constructor of one parameter or of two. -/
def className (c : Constructor) : String :=
  if c.extracts.length = 1 then "UnaryType" else "BinaryType"

/-- How a constructor is written as a value. -/
def literal (c : Constructor) : String := "<" ++ c.className ++ " " ++ c.name ++ ">"

/-- Arrays of values of one type. -/
def array : Constructor := ⟨"Array", .kind .array, [.items], none⟩

/-- Maps from strings to values of one type. -/
def stringMap : Constructor := ⟨"StrMap", .stringMap, [.entries], none⟩

/-- Optional values of one type. -/
def maybe : Constructor := ⟨"Maybe", .declares maybeIdentifier, [.present], none⟩

/-- Failures of one type and successes of another. -/
def either : Constructor :=
  ⟨"Either", .declares eitherIdentifier, [.leftValue, .rightValue], none⟩

/-- The constructors that have a name of their own. -/
def standard : List Constructor := [array, stringMap, maybe, either]

end Constructor

/-! ## Types -/

/-- The types of parameters and results (`Type`). -/
inductive Ty where
  /-- Every value; the name is `Any` or `???`. -/
  | any (name : String)
  /-- Every value but the null ones. -/
  | accessible (name : String)
  /-- Representatives of types: classes, other callable values and types. -/
  | representative (param : Option Ty)
  | var (v : TypeVar)
  | nullary (n : Nullary)
  | applied (c : Constructor) (params : List Ty)
  deriving Repr

instance : Inhabited Ty := ⟨.any "Any"⟩

namespace Ty

/-- A path into a type: the index of a parameter, then a path into that parameter. -/
abbrev Path := List Nat

/-- The parameters through which values are looked at. -/
def params : Ty → List Ty
  | applied _ ps => ps
  | _ => []

/-- The name of a type; a representative type has none. -/
def name? : Ty → Option String
  | any name => some name
  | accessible name => some name
  | representative _ => none
  | var v => some v.name
  | nullary n => some n.name
  | applied c _ => some c.name

/-- The address of the description of a type. -/
def url? : Ty → Option String
  | nullary n => n.url
  | applied c _ => c.url
  | _ => none

/-- The name of the class of a type. -/
def className : Ty → String
  | any _ => "AnyType"
  | accessible _ => "AccessibleType"
  | representative _ => "TypeRepType"
  | var _ => "TypeVariable"
  | nullary _ => "NullaryType"
  | applied .. => "AppliedType"

/-- Whether a type is that of all values but the null ones, whatever its name (`AccessibleType`). -/
def isAccessible : Ty → Bool
  | accessible _ => true
  | _ => false

theorem isAccessible_iff {t : Ty} : t.isAccessible = true ↔ ∃ name, t = accessible name := by
  cases t <;> simp [isAccessible]

/-! ## The standard types -/

/-- A nullary type without a description. -/
def named (name : String) (test : Test) : Ty := .nullary ⟨name, test, none⟩

/-- A nullary type whose members are the values of a kind. -/
def ofKind (k : Kind) : Ty := named k.name (.kind k)

/-- Every value, said by the program (`Any`). -/
def anything : Ty := .any "Any"

/-- Every value, where nothing better is known (`Unknown`). -/
def unknown : Ty := .any "???"

/-- Every value but the null ones, said by the program (`Accessible`). -/
def nonNull : Ty := .accessible "Accessible"

/-- Numbers other than "not a number". -/
def validNumber : Ty := named "ValidNumber" .valid

/-- Finite numbers. -/
def finiteNumber : Ty := named "FiniteNumber" .finite

/-- Finite numbers other than zero. -/
def nonZeroFiniteNumber : Ty := named "NonZeroFiniteNumber" .nonZero

/-- Numbers without a fractional part. -/
def integer : Ty := named "Integer" .integer

/-- Integers that are not negative. -/
def nonNegativeInteger : Ty := named "NonNegativeInteger" .natural

/-- Strings. -/
def string : Ty := ofKind .string

/-- Truth values. -/
def boolean : Ty := ofKind .boolean

/-- Functions. -/
def function : Ty := ofKind .function

/-- Arrays of a type. -/
def array (t : Ty) : Ty := .applied .array [t]

/-- Maps from strings to a type. -/
def stringMap (t : Ty) : Ty := .applied .stringMap [t]

/-- Optional values of a type. -/
def maybe (t : Ty) : Ty := .applied .maybe [t]

/-- Failures and successes of two types. -/
def either (s t : Ty) : Ty := .applied .either [s, t]

/-- The standard types without parameters, by the names a program uses for them. -/
def standard : List (String × Ty) :=
  [("Any", anything), ("Unknown", unknown), ("Accessible", nonNull),
   ("TypeRep", .representative none), ("Null", ofKind .null), ("Undefined", ofKind .undefined),
   ("Boolean", boolean), ("Number", ofKind .number), ("String", string), ("Function", function),
   ("Object", ofKind .object), ("Date", ofKind .date), ("RegExp", ofKind .regExp),
   ("Error", ofKind .error), ("ValidNumber", validNumber), ("FiniteNumber", finiteNumber),
   ("NonZeroFiniteNumber", nonZeroFiniteNumber), ("Integer", integer),
   ("NonNegativeInteger", nonNegativeInteger)]

/-- The types that a rejected value is described by, in the order in which they are listed (`env`). -/
def environment : List Ty :=
  [function, array unknown, boolean, ofKind .date, ofKind .error, ofKind .null, ofKind .number,
   ofKind .object, ofKind .regExp, stringMap unknown, string, ofKind .undefined, finiteNumber,
   nonZeroFiniteNumber, either unknown unknown, integer, maybe unknown, validNumber]

/-! ## Subtypes -/

/-- The subtype at a path. -/
def at? : Ty → Path → Option Ty
  | t, [] => some t
  | t, i :: path =>
    match t.params[i]? with
    | some p => p.at? path
    | none => none

@[simp] theorem at?_nil (t : Ty) : t.at? [] = some t := by unfold at?; rfl

end Ty

end CheckedCurry
