import CheckedCurry.Signature.Basic

/-!
# Marked signatures

A report shows a signature with carets under some of its parts and a number under each run of
carets:

    add :: FiniteNumber -> FiniteNumber -> FiniteNumber
                           ^^^^^^^^^^^^
                                1

* `Line`, `Line.write`: a line of characters that is written into at any column.
* `Signature.marked?`: the three lines, for the paths to number and the spans that get carets only.
-/

namespace CheckedCurry

/-- A line of characters. -/
abbrev Line := List Char

namespace Line

/-- A line filled with spaces up to a width. -/
def pad (line : Line) (width : Nat) : Line :=
  line ++ List.replicate (width - line.length) ' '

/-- A line with a text written over it from a column on (`_write_at`). -/
def write (line : Line) (column : Nat) (text : Line) : Line :=
  let line := line.pad (column + text.length)
  line.take column ++ text ++ line.drop (column + text.length)

/-- A line with carets under a span. -/
def underline (line : Line) (s : Span) : Line :=
  line.write s.first (List.replicate s.width '^')

/-- The column at which a label is written so that it stands under the middle of a span. -/
def labelColumn (s : Span) : Nat := ((s.first : Int) + ((s.width : Int) - 1).fdiv 2).toNat

/-- A line with a number under the middle of a span. -/
def label (line : Line) (s : Span) (n : Nat) : Line :=
  line.write (labelColumn s) (toString n).toList

/-- A line with labels under spans, numbered from `n` on. -/
def labels (line : Line) (n : Nat) : List Span → Line
  | [] => line
  | s :: ss => labels (line.label s n) (n + 1) ss

/-- Every write makes the line at least as long as what is written. -/
theorem length_write (line : Line) (column : Nat) (text : Line) :
    (line.write column text).length = max line.length (column + text.length) := by
  simp only [write, pad, List.length_append, List.length_take, List.length_drop,
    List.length_replicate]
  omega

end Line

namespace Signature

/-- The signature, the line of carets and the line of numbers (`Signature.render_with_markers`):
carets go under `underlined` and under the parts at `paths`, which are numbered from one in their
order.  There is no such part for a path outside the signature. -/
def marked? (s : Signature) (paths : List Ty.Path) (underlined : List Span) :
    Option (List String) := do
  let spans ← paths.mapM s.span?
  let carets := (underlined ++ spans).foldl Line.underline []
  return [s.text, String.ofList carets, String.ofList (Line.labels [] 1 spans)]

end Signature

end CheckedCurry
