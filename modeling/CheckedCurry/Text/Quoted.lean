import CheckedCurry.Text.Printable

/-!
# Quoted texts

Two ways to write a text between quotes.

* `Text.quote`: between double quotes, with escapes for the quote, the backslash and the controls;
  every other character stands for itself.  Messages show texts this way.
* `Text.literal`: between single quotes, or double ones if the text holds a single quote and no
  double one; all characters that are not printable are escaped.  Expressions write texts this way.
* `Text.bytesLiteral`: the same for bytes.
-/

namespace CheckedCurry.Text

/-- A hexadecimal number of at least a given width, in small letters. -/
def hex (width n : Nat) : String :=
  let digits := Nat.toDigits 16 n
  "".pushn '0' (width - digits.length) ++ String.ofList digits

/-! ## Double quotes -/

/-- A character as it is written between double quotes. -/
def quoteChar (c : Char) : String :=
  if c = '"' then "\\\""
  else if c = '\\' then "\\\\"
  else if c = '\n' then "\\n"
  else if c = '\r' then "\\r"
  else if c = '\t' then "\\t"
  else if c = '\x0c' then "\\f"
  else if c = '\x08' then "\\b"
  else if c.toNat < 0x20 then "\\u" ++ hex 4 c.toNat
  else String.singleton c

/-- A text between double quotes (`_show_string`). -/
def quote (s : String) : String :=
  "\"" ++ String.join (s.toList.map quoteChar) ++ "\""

/-! ## Single quotes -/

/-- The quote that a literal is written with: a single one unless only that occurs in the text. -/
def chooseQuote (cs : List Char) : Char :=
  if cs.contains '\'' && !cs.contains '"' then '"' else '\''

/-- The escapes that literals of texts and of bytes share. -/
def sharedEscape? (mark c : Char) : Option String :=
  if c = mark || c = '\\' then some ("\\" ++ String.singleton c)
  else if c = '\n' then some "\\n"
  else if c = '\r' then some "\\r"
  else if c = '\t' then some "\\t"
  else none

/-- A character as it is written in a literal with the quote `mark`. -/
def literalChar (mark c : Char) : String :=
  match sharedEscape? mark c with
  | some s => s
  | none =>
    if isPrintable c then String.singleton c
    else if c.toNat < 0x100 then "\\x" ++ hex 2 c.toNat
    else if c.toNat < 0x10000 then "\\u" ++ hex 4 c.toNat
    else "\\U" ++ hex 8 c.toNat

/-- A text as it is written in an expression. -/
def literal (s : String) : String :=
  let mark := chooseQuote s.toList
  String.singleton mark ++ String.join (s.toList.map (literalChar mark)) ++ String.singleton mark

/-- A byte as it is written in a literal with the quote `mark`. -/
def literalByte (mark : Char) (b : UInt8) : String :=
  let c := Char.ofNat b.toNat
  match sharedEscape? mark c with
  | some s => s
  | none => if 0x20 ≤ b.toNat && b.toNat < 0x7f then String.singleton c else "\\x" ++ hex 2 b.toNat

/-- Bytes as they are written in an expression. -/
def bytesLiteral (bs : List UInt8) : String :=
  let mark := chooseQuote (bs.map fun b => Char.ofNat b.toNat)
  "b" ++ String.singleton mark ++ String.join (bs.map (literalByte mark)) ++ String.singleton mark

end CheckedCurry.Text
