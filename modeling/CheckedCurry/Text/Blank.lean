import CheckedCurry.Text.Ranges

/-!
# Blank characters

The characters that separate words and that are trimmed from the ends of a text: the blanks of
Unicode and the four separators of ASCII.

* `Char.isBlank`: the set.
* `Text.trim`, `Text.words`: a text without blanks at its ends, and the pieces between blanks.
-/

namespace CheckedCurry.Text

/-- The code points of the blank characters. -/
def blanks : CharRanges := [
  (0x9, 0xd), (0x1c, 0x20), (0x85, 0x85), (0xa0, 0xa0), (0x1680, 0x1680), (0x2000, 0x200a),
  (0x2028, 0x2029), (0x202f, 0x202f), (0x205f, 0x205f), (0x3000, 0x3000)
]

/-- Whether a character is blank. -/
def isBlank (c : Char) : Bool := blanks.holds c

/-! ## Cutting at blanks -/

/-- Characters, or bytes, without the blanks at both ends. -/
def trimBy {α : Type} (blank : α → Bool) (cs : List α) : List α :=
  ((cs.dropWhile blank).reverse.dropWhile blank).reverse

/-- The pieces between runs of blanks, none of them empty; `piece` is the piece being read,
reversed. -/
def piecesFrom {α : Type} (blank : α → Bool) (piece : List α) : List α → List (List α)
  | [] => if piece.isEmpty then [] else [piece.reverse]
  | c :: cs =>
    if blank c then
      if piece.isEmpty then piecesFrom blank [] cs
      else piece.reverse :: piecesFrom blank [] cs
    else piecesFrom blank (c :: piece) cs

/-- A text without the blanks at its ends. -/
def trim (s : String) : String := String.ofList (trimBy isBlank s.toList)

/-- The words of a text: its longest pieces without blanks, none of them empty. -/
def words (s : String) : List String := (piecesFrom isBlank [] s.toList).map String.ofList

/-! ## Small laws -/

@[simp] theorem trimBy_nil {α : Type} (blank : α → Bool) : trimBy blank [] = [] := rfl

end CheckedCurry.Text
