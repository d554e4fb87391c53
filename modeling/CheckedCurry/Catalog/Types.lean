import CheckedCurry.Catalog.Name
import CheckedCurry.Signature.Basic

/-!
# The types of the standard functions

* `Standard.signature`: the signature of each standard function.

The standard functions share their type variables, which differ from all variables of programs.
-/

namespace CheckedCurry.Standard

/-- A type variable of the standard functions. -/
def var (name : String) : TypeVar := ⟨name, .standard⟩

/-- The type variable `a`. -/
def a : TypeVar := var "a"

/-- The type variable `b`. -/
def b : TypeVar := var "b"

/-- The type variable `c`. -/
def c : TypeVar := var "c"

open Ty in
/-- The types of the parameters. -/
def params : Standard → List Ty
  | identity => [.var a]
  | constant => [.var a, .var b]
  | apply => [function, .var a]
  | thrush => [.var a, function]
  | compose => [function, function, .var a]
  | flip => [function, .var a, .var b]
  | add | sub | mult => [finiteNumber, finiteNumber]
  | inc | dec => [finiteNumber]
  | negate => [validNumber]
  | odd | even => [integer]
  | range => [integer, integer]
  | toLower | toUpper | trim | words => [string]
  | keys | values => [stringMap (.var a)]
  | head | last => [array (.var a)]
  | get => [.representative none, string, nonNull]
  | gets => [.representative none, array string, nonNull]
  | and | or | xor | concat | equals => [.var a, .var a]
  | not => [boolean]
  | isNothing | isJust => [Ty.maybe (.var a)]
  | fromMaybe => [.var a, Ty.maybe (.var a)]
  | Standard.maybe => [.var b, function, Ty.maybe (.var a)]
  | toMaybe => [.var a]
  | mapMaybe => [function, array (.var a)]
  | catMaybes => [array (Ty.maybe (.var a))]
  | encase => [function, .var a]
  | isLeft | isRight => [Ty.either (.var a) (.var b)]
  | Standard.either => [function, function, Ty.either (.var a) (.var b)]
  | encaseEither => [function, function, .var a]
  | parseInt => [integer, string]
  | is => [.representative none, anything]
  | type | display => [anything]

open Ty in
/-- The type of the result. -/
def returns : Standard → Ty
  | identity | constant | and | or | xor | concat | fromMaybe => .var a
  | apply | thrush | Standard.maybe => .var b
  | compose | flip | Standard.either => .var c
  | add | sub | mult | inc | dec => finiteNumber
  | negate => validNumber
  | odd | even | not | equals | isNothing | isJust | isLeft | isRight | is => boolean
  | range => array integer
  | toLower | toUpper | trim | display => string
  | words | keys => array string
  | values | catMaybes => array (.var a)
  | head | last | get | gets | toMaybe => Ty.maybe (.var a)
  | mapMaybe => array (.var b)
  | encase => Ty.maybe (.var b)
  | encaseEither => Ty.either (.var (var "l")) (.var (var "r"))
  | parseInt => Ty.maybe integer
  | type => anything

/-- The operations that the values of the type variable `a` must support. -/
def operations : Standard → List Capability.Operation
  | and | or => [.toBoolean]
  | xor => [.toBoolean, .empty]
  | concat => [.concat]
  | equals => [.equals]
  | _ => []

/-- The signature of a standard function (`_defines`). -/
def signature (s : Standard) : Signature :=
  .ofParts s.name s.params s.returns [(a, s.operations.map Capability.ofOperation)]

/-- The number of arguments of a standard function. -/
def arity (s : Standard) : Nat := s.params.length

/-- The standard function with a name. -/
def ofName? (name : String) : Option Standard := all.find? fun s => s.name == name

@[simp] theorem params_signature (s : Standard) : s.signature.params = s.params := rfl

@[simp] theorem returns_signature (s : Standard) : s.signature.returns = s.returns := rfl

end CheckedCurry.Standard
