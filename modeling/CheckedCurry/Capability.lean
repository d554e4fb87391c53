import CheckedCurry.Kind

/-!
# Capabilities

A capability is an operation that is chosen by what kind of value it is given.  What matters to a
signature is its name and the kinds it supports.

* `Capability`: a name, a mark that tells capabilities of one name apart, and what is supported.
* `Capability.Operation`: the operations that every program has.
-/

namespace CheckedCurry

/-- An operation that values may support.  `supported` lists names of kinds and
identifiers. -/
structure Capability where
  name : String
  mark : Nat
  supported : List String
  deriving DecidableEq, Repr, Inhabited

namespace Capability

/-- Whether values with the name of a kind, or the identifier, are supported
(`Capability.supports`). -/
def supports (c : Capability) (key : String) : Bool := c.supported.contains key

/-- How a capability is written as a value. -/
def literal (c : Capability) : String := "<Capability " ++ c.name ++ ">"

/-- The operations that every program has. -/
inductive Operation where
  /-- The truth of a value. -/
  | toBoolean
  /-- The empty value of the same kind. -/
  | empty
  /-- One value followed by another. -/
  | concat
  /-- Whether two values are equal. -/
  | equals
  deriving DecidableEq, Repr

/-- The name of an operation. -/
def Operation.name : Operation → String
  | .toBoolean => "to_boolean"
  | .empty => "empty"
  | .concat => "concat"
  | .equals => "equals"

/-- The kinds and identifiers that an operation supports. -/
def Operation.supported : Operation → List String
  | .toBoolean => [Kind.boolean.name, Kind.array.name, maybeIdentifier, eitherIdentifier]
  | .empty =>
    [Kind.boolean.name, Kind.array.name, Kind.string.name, maybeIdentifier, Kind.object.name]
  | .concat => [Kind.string.name, Kind.array.name, maybeIdentifier, Kind.object.name]
  | .equals =>
    (Kind.all.filter (· != .tagged)).map Kind.name ++ [maybeIdentifier, eitherIdentifier]

/-- Every operation. -/
def Operation.all : List Operation := [.toBoolean, .empty, .concat, .equals]

/-- The capability that an operation is. -/
def ofOperation (o : Operation) : Capability := ⟨o.name, 0, o.supported⟩

@[simp] theorem supports_ofOperation (o : Operation) (key : String) :
    (ofOperation o).supports key = o.supported.contains key := rfl

end Capability

end CheckedCurry
