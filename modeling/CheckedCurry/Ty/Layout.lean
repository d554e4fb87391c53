import CheckedCurry.Ty.Basic

/-!
# Written types

A type is written as its name followed by its parameters, in parentheses where a parameter has
parameters itself.  The layout says where each part of a type stands in that text.

* `Ty.text`: the written type.
* `Ty.spans`: for each path into a type, the columns of the part at that path.
-/

namespace CheckedCurry

/-- A run of columns, from `first` up to but not including `last`. -/
structure Span where
  first : Nat
  last : Nat
  deriving DecidableEq, Repr, Inhabited

namespace Span

/-- The number of columns. -/
def width (s : Span) : Nat := s.last - s.first

/-- The characters of a text that stand in the columns. -/
def slice (s : Span) (text : String) : String :=
  String.ofList ((text.toList.drop s.first).take s.width)

end Span

namespace Ty

/-- Whether a type is put in parentheses as a parameter (`needs_parentheses`). -/
def needsParens : Ty → Bool
  | applied _ ps => !ps.isEmpty
  | representative (some _) => true
  | _ => false

/-- A text in parentheses if they are needed (`_wrap`). -/
def parenthesize (needed : Bool) (text : String) : String :=
  if needed then "(" ++ text ++ ")" else text

mutual

/-- The written type (`to_user_string`). -/
def text : Ty → String
  | any name => name
  | accessible name => name
  | representative none => "TypeRep"
  | representative (some p) => "TypeRep " ++ parenthesize p.needsParens p.text
  | var v => v.name
  | nullary n => n.name
  | applied c ps => c.name ++ textParams ps

/-- The written parameters, each after a space. -/
def textParams : List Ty → String
  | [] => ""
  | p :: ps => " " ++ parenthesize p.needsParens p.text ++ textParams ps

end

mutual

/-- The spans of a type written from a column on, in the order of its paths (`layout`). -/
def spans (column : Nat) : Ty → List (Path × Span)
  | applied c ps =>
    ([], ⟨column, column + (c.name ++ textParams ps).length⟩) ::
      spansParams (column + c.name.length) 0 ps
  | t => [([], ⟨column, column + t.text.length⟩)]

/-- The spans of parameters written from a column on; the first of them has the index. -/
def spansParams (column index : Nat) : List Ty → List (Path × Span)
  | [] => []
  | p :: ps =>
    let start := column + 1 + (if p.needsParens then 1 else 0)
    (spans start p).map (fun (path, span) => (index :: path, span)) ++
      spansParams (column + 1 + (parenthesize p.needsParens p.text).length) (index + 1) ps

end

/-- How a type is written as a value. -/
def literal (t : Ty) : String := "<" ++ t.className ++ " " ++ t.text ++ ">"

/-! ## Small laws -/

@[simp] theorem text_applied (c : Constructor) (ps : List Ty) :
    (applied c ps).text = c.name ++ textParams ps := by simp [text]

@[simp] theorem textParams_nil : textParams [] = "" := by simp [textParams]

@[simp] theorem textParams_cons (p : Ty) (ps : List Ty) :
    textParams (p :: ps) = " " ++ parenthesize p.needsParens p.text ++ textParams ps := by
  simp [textParams]

end Ty

end CheckedCurry
