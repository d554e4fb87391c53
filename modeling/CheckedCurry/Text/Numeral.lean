import CheckedCurry.Text.Blank

/-!
# Numerals of every script

Where a text is read as a number, the decimal digits of every script count, and blanks may stand
around the number.

* `Text.decimal?`, `Text.isDecimal`: the value of a decimal digit, and whether there is one.
* `Text.numeral`: a text without the blanks around it, its digits written in ASCII.
-/

namespace CheckedCurry.Text

/-- The code points of the digits zero.  The digits up to nine follow each of them. -/
def zeros : List Nat := [
  0x30, 0x660, 0x6f0, 0x7c0, 0x966, 0x9e6, 0xa66, 0xae6, 0xb66, 0xbe6, 0xc66, 0xce6, 0xd66, 0xde6,
  0xe50, 0xed0, 0xf20, 0x1040, 0x1090, 0x17e0, 0x1810, 0x1946, 0x19d0, 0x1a80, 0x1a90, 0x1b50,
  0x1bb0, 0x1c40, 0x1c50, 0xa620, 0xa8d0, 0xa900, 0xa9d0, 0xa9f0, 0xaa50, 0xabf0, 0xff10, 0x104a0,
  0x10d30, 0x11066, 0x110f0, 0x11136, 0x111d0, 0x112f0, 0x11450, 0x114d0, 0x11650, 0x116c0,
  0x11730, 0x118e0, 0x11950, 0x11c50, 0x11d50, 0x11da0, 0x16a60, 0x16ac0, 0x16b50, 0x1d7ce,
  0x1d7d8, 0x1d7e2, 0x1d7ec, 0x1d7f6, 0x1e140, 0x1e2f0, 0x1e950, 0x1fbf0
]

/-- The value of a decimal digit. -/
def decimal? (c : Char) : Option Nat :=
  (zeros.find? fun z => z ≤ c.toNat && c.toNat < z + 10).map (c.toNat - ·)

/-- Whether a character is a decimal digit of some script. -/
def isDecimal (c : Char) : Bool := (decimal? c).isSome

/-- A decimal digit as an ASCII digit; other characters stay as they are. -/
def asciiDigit (c : Char) : Char :=
  match decimal? c with
  | some d => Char.ofNat ('0'.toNat + d)
  | none => c

/-- Whether a character may stand around a number: every blank but the separators of ASCII. -/
def isMargin (c : Char) : Bool := isBlank c && !(0x1c ≤ c.toNat && c.toNat ≤ 0x1f)

/-- A text without the blanks around it, its digits written in ASCII. -/
def numeral (s : String) : String :=
  let front := s.toList.dropWhile isMargin
  String.ofList ((front.reverse.dropWhile isMargin).reverse.map asciiDigit)

/-- Bytes as a text to read a number from.  Only ASCII matters there; all else is replaced. -/
def ofBytes (bs : List UInt8) : String :=
  String.ofList (bs.map fun b => if b < 128 then Char.ofNat b.toNat else '\uFFFD')

end CheckedCurry.Text
