import CheckedCurry.Number.Literal
import CheckedCurry.Text.Numeral

/-!
# Integers in any radix

* `Radix.isPlain`: whether a text is a number of a radix from 2 to 36 and nothing else: an optional
  sign and one or more digits, of either case.  Sixteen may be said before the digits, by `0x`.
* `Radix.readLiteral?`: the integer that a literal writes.  Blanks may stand around it and single
  underscores between its digits.  The radices two, eight and sixteen may be said before the digits,
  and radix zero asks for that.
-/

namespace CheckedCurry.Radix

/-- The digits without the mark of radix sixteen in front of them. -/
def dropMark (radix : Nat) : List Char → List Char
  | '0' :: x :: cs => if radix = 16 && (x = 'x' || x = 'X') then cs else '0' :: x :: cs
  | cs => cs

/-- Whether a text is a number of the radix and nothing else. -/
def isPlain (radix : Nat) (s : String) : Bool :=
  let digits := dropMark radix (splitSign s.toList).2
  !digits.isEmpty && digits.all (Digits.isIn radix)

/-! ## Literals -/

/-- The integer of a sign and digits. -/
def signed (negative : Bool) (n : Nat) : Int := if negative then -(n : Int) else n

/-- The radix that a letter behind a zero stands for. -/
def ofLetter? (x : Char) : Option Nat :=
  if x = 'x' || x = 'X' then some 16
  else if x = 'o' || x = 'O' then some 8
  else if x = 'b' || x = 'B' then some 2
  else none

/-- The digits without one underscore in front, which may follow the letter of a radix. -/
def dropUnderscore : List Char → List Char
  | '_' :: cs => cs
  | cs => cs

/-- The radix of a literal and its digits: if the literal says a radix it must be the one that is
asked for, or none is. -/
def split (radix : Nat) (cs : List Char) : Nat × List Char :=
  let plain := if radix = 0 then 10 else radix
  match cs with
  | '0' :: x :: rest =>
    match ofLetter? x with
    | some r => if radix = 0 || radix = r then (r, dropUnderscore rest) else (plain, cs)
    | none => (plain, cs)
  | _ => (plain, cs)

/-- Digits with single underscores between them. -/
def areDigits (radix : Nat) (cs : List Char) : Bool :=
  !cs.isEmpty && cs.head? != some '_' && cs.getLast? != some '_' &&
    (cs.zip (cs.drop 1)).all (fun (c, d) => c != '_' || d != '_') &&
    cs.all fun c => c == '_' || Digits.isIn radix c

/-- The integer that a literal writes.  Without a radix a number other than zero does not start with
a zero. -/
def readLiteral? (radix : Nat) (s : String) : Option Int :=
  let (negative, cs) := splitSign (Text.numeral s).toList
  let (r, digits) := split radix cs
  let n := Digits.value r (digits.filter (· != '_'))
  if areDigits r digits && !(radix = 0 && r = 10 && digits.head? == some '0' && n != 0) then
    some (signed negative n)
  else none

end CheckedCurry.Radix
