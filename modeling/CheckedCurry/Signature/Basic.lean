import CheckedCurry.Capability
import CheckedCurry.Ty.Layout

/-!
# Signatures

The name of a function, the types of its parameters and its result, and what the values that a type
variable stands for must support.  A signature is written on one line:

    and_ :: to_boolean a => a -> a -> a

* `Signature`: the parts; `Signature.ofParts` joins requirements for one variable.
* `Signature.text`: the line.
* `Signature.spans`, `Signature.span?`: the columns of each part of a type on that line.  A path
  into a signature starts with the index of a parameter; the result comes after the last one.
* `Signature.requirementSpan?`: the columns of a requirement.
-/

namespace CheckedCurry

/-- The name and the types of a function. -/
structure Signature where
  name : String
  params : List Ty
  returns : Ty
  requires : List (TypeVar × List Capability)
  deriving Repr, Inhabited

namespace Signature

/-! ## Parts -/

/-- Requirements with one more entry: a later entry for a variable takes the place of the earlier
one. -/
def putRequirement (rs : List (TypeVar × List Capability)) (v : TypeVar) (cs : List Capability) :
    List (TypeVar × List Capability) :=
  if rs.any (·.1 == v) then rs.map fun r => if r.1 == v then (v, cs) else r
  else rs ++ [(v, cs)]

/-- A signature from its parts; variables without capabilities are left out. -/
def ofParts (name : String) (params : List Ty) (returns : Ty)
    (requires : List (TypeVar × List Capability)) : Signature where
  name := name
  params := params
  returns := returns
  requires :=
    (requires.foldl (fun rs (v, cs) => putRequirement rs v cs) []).filter (!·.2.isEmpty)

/-- The number of parameters. -/
def arity (s : Signature) : Nat := s.params.length

/-- The types of the parameters, then the type of the result (`Signature.types`). -/
def types (s : Signature) : List Ty := s.params ++ [s.returns]

/-- The capabilities that the values of a variable must support. -/
def required (s : Signature) (v : TypeVar) : List Capability := (s.requires.lookup v).getD []

/-- The requirements one by one. -/
def requirements (s : Signature) : List (TypeVar × Capability) :=
  s.requires.flatMap fun (v, cs) => cs.map fun c => (v, c)

/-- A requirement as it is written. -/
def requirementText (r : TypeVar × Capability) : String := r.2.name ++ " " ++ r.1.name

/-! ## The line -/

/-- What is written before the requirements. -/
def opening (s : Signature) : String :=
  s.name ++ " :: " ++ (if s.requirements.length > 1 then "(" else "")

/-- What is written before the first type. -/
def heading (s : Signature) : String :=
  s.opening ++ ", ".intercalate (s.requirements.map requirementText) ++
    (if s.requirements.length > 1 then ")" else "") ++
    (if s.requirements.isEmpty then "" else " => ") ++
    (if s.params.isEmpty then "() -> " else "")

/-- The types with arrows between them. -/
def arrows (ts : List Ty) : String := " -> ".intercalate (ts.map Ty.text)

/-- The line that a signature is written on (`Signature.render`). -/
def text (s : Signature) : String := s.heading ++ arrows s.types

/-- How a signature is written as a value, given how a text is quoted. -/
def literalWith (quote : String → String) (s : Signature) : String :=
  "Signature(" ++ quote s.text ++ ")"

/-! ## Columns -/

/-- The spans of types written with arrows between them from a column on; the first of them has
the index. -/
def spansFrom (column index : Nat) : List Ty → List (Ty.Path × Span)
  | [] => []
  | t :: ts =>
    (t.spans column).map (fun (path, span) => (index :: path, span)) ++
      spansFrom (column + t.text.length + 4) (index + 1) ts

/-- The spans of all parts of the types of a signature (`Signature._layout`). -/
def spans (s : Signature) : List (Ty.Path × Span) := spansFrom s.heading.length 0 s.types

/-- The columns of the part at a path (`Signature.span`). -/
def span? (s : Signature) (path : Ty.Path) : Option Span := s.spans.lookup path

/-- The spans of requirements written with commas between them from a column on. -/
def requirementSpansFrom (column : Nat) :
    List (TypeVar × Capability) → List ((TypeVar × Capability) × Span)
  | [] => []
  | r :: rs =>
    let width := (requirementText r).length
    (r, ⟨column, column + width⟩) :: requirementSpansFrom (column + width + 2) rs

/-- The spans of the requirements of a signature. -/
def requirementSpans (s : Signature) : List ((TypeVar × Capability) × Span) :=
  requirementSpansFrom s.opening.length s.requirements

/-- The columns of a requirement (`Signature.requirement_span`); of one that is written twice, the
later ones. -/
def requirementSpan? (s : Signature) (v : TypeVar) (c : Capability) : Option Span :=
  s.requirementSpans.reverse.lookup (v, c)

/-! ## Small laws -/

@[simp] theorem length_types (s : Signature) : s.types.length = s.arity + 1 := by
  simp [types, arity]

theorem types_getElem?_of_lt {s : Signature} {i : Nat} (h : i < s.arity) :
    s.types[i]? = s.params[i]? := by
  simp only [arity] at h
  simp [types, List.getElem?_append_left h]

@[simp] theorem types_arity (s : Signature) : s.types[s.arity]? = some s.returns := by
  simp [types, arity]

end Signature

end CheckedCurry
