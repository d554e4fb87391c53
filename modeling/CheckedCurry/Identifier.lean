import CheckedCurry.Text.Parsing

/-!
# Identifiers of types

A class may declare what its values are by an identifier `namespace/Name@version`, where the
namespace and the version are optional.  The namespace may hold slashes: the name is what follows
the last one.

* `Identifier`: the three parts.
* `Identifier.grammar`: the form of identifiers, over a library of parser combinators.
* `Identifier.parseBy`, `Identifier.parse`: the parts of a text; a text of another form is a bare
  name, so that every value has something to report.
* `Identifier.render`: the text of the parts.
-/

namespace CheckedCurry

/-- The parts of an identifier (`TypeIdentifier`); the version of an identifier without one is
zero. -/
structure Identifier where
  space : Option String
  name : String
  version : Int
  deriving DecidableEq, Repr, Inhabited

namespace Identifier

/-- A name alone. -/
def bare (name : String) : Identifier := ⟨none, name, 0⟩

/-! ## Reading -/

/-- Whether a character may stand in a segment. -/
def isInner (c : Char) : Bool := c != '/' && c != '@'

/-- The identifier of segments and a version.  There is at least one segment. -/
def ofSegments (segments : List String) (version : Option Nat) : Identifier :=
  let space := "/".intercalate segments.dropLast
  ⟨if space.isEmpty then none else some space, segments.getLastD "", version.getD 0⟩

section Grammar

variable (P : Parsing)

/-- One or more characters other than slashes and at signs (`_segment`). -/
def segmentBy : P.Parser String := P.desc (P.regex ⟨isInner⟩) "identifier segment"

/-- Decimal digits behind an at sign (`_version`). -/
def versionBy : P.Parser Nat :=
  P.andThen (P.string "@")
    (P.map (fun digits => Digits.value 10 digits.toList) (P.regex ⟨Char.isDigit⟩))

/-- Segments between slashes, then a version if there is one (`_type_identifier_parser`). -/
def grammar : P.Parser Identifier :=
  P.yield (P.sepBy (segmentBy P) (P.string "/") 1) fun segments =>
    P.yield (P.optional (versionBy P)) fun version =>
      P.success (ofSegments segments version)

/-- The parts of any text, as a library of combinators reads it: a text that it does not parse is a
bare name (`parse_type_identifier`). -/
def parseBy (s : String) : Identifier := (P.parse (grammar P) s).getD (bare s)

end Grammar

/-- The parts of any text. -/
def parse (s : String) : Identifier := parseBy .standard s

/-- The text of the parts, without a version that is zero. -/
def render (i : Identifier) : String :=
  (match i.space with
    | some space => space ++ "/"
    | none => "") ++ i.name ++ (if i.version = 0 then "" else "@" ++ toString i.version)

end Identifier

end CheckedCurry
