import CheckedCurry.Text.Blank

/-!
# Bytes as ASCII texts

Bytes can be worked on like texts.  Only ASCII letters have case, and only ASCII blanks separate
words; all other bytes are left alone.

* `Bytes.lower`, `Bytes.upper`: the case maps.
* `Bytes.trim`, `Bytes.words`: cutting at blanks.
-/

namespace CheckedCurry.Text.Bytes

/-- Whether a byte is an ASCII blank. -/
def isBlank (b : UInt8) : Bool := (9 ≤ b && b ≤ 13) || b = 32

/-- Bytes with small letters in place of capitals. -/
def lower (bs : List UInt8) : List UInt8 :=
  bs.map fun b => if 65 ≤ b && b ≤ 90 then b + 32 else b

/-- Bytes with capitals in place of small letters. -/
def upper (bs : List UInt8) : List UInt8 :=
  bs.map fun b => if 97 ≤ b && b ≤ 122 then b - 32 else b

/-- Bytes without the blanks at both ends. -/
def trim (bs : List UInt8) : List UInt8 := trimBy isBlank bs

/-- The longest pieces without blanks. -/
def words (bs : List UInt8) : List (List UInt8) := piecesFrom isBlank [] bs

/-! ## Small laws -/

@[simp] theorem length_lower (bs : List UInt8) : (lower bs).length = bs.length := by
  simp [lower]

@[simp] theorem length_upper (bs : List UInt8) : (upper bs).length = bs.length := by
  simp [upper]

end CheckedCurry.Text.Bytes
