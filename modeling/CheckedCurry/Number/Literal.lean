import CheckedCurry.Number.Shortest

/-!
# Reading numbers

The written forms of integers, decimals and quotients.

* `Digits.value`: the value of a list of digits in a radix.
* `DecimalLiteral.read?`: an optional sign, digits with an optional point, an optional exponent.
* `Binary64.read?`: the number nearest to what a decimal literal says.
* `Rational.read?`: an integer, a quotient of two, or a decimal literal.
-/

namespace CheckedCurry

/-! ## Digits -/

namespace Digits

/-- The value of an ASCII digit or letter, `10` to `35` for letters of either case. -/
def valueOf? (c : Char) : Option Nat :=
  if c.isDigit then some (c.toNat - '0'.toNat)
  else if c.isUpper then some (c.toNat - 'A'.toNat + 10)
  else if c.isLower then some (c.toNat - 'a'.toNat + 10)
  else none

/-- Whether a character is a digit of the radix. -/
def isIn (radix : Nat) (c : Char) : Bool :=
  match valueOf? c with
  | some d => d < radix
  | none => false

/-- The positional value of a list of digits; a character that is no digit counts as zero. -/
def value (radix : Nat) (cs : List Char) : Nat :=
  cs.foldl (fun n c => n * radix + (valueOf? c).getD 0) 0

/-- A run of decimal digits at the front of a text and what follows it.  One underscore may stand
between two digits. -/
def run : List Char → List Char × List Char
  | [] => ([], [])
  | c :: '_' :: d :: cs =>
    if c.isDigit then
      if d.isDigit then
        let (front, rest) := run (d :: cs)
        (c :: front, rest)
      else ([c], '_' :: d :: cs)
    else ([], c :: '_' :: d :: cs)
  | c :: cs =>
    if c.isDigit then
      let (front, rest) := run cs
      (c :: front, rest)
    else ([], c :: cs)

end Digits

/-- The sign at the front of a text, true for a minus, and what follows it. -/
def splitSign : List Char → Bool × List Char
  | '-' :: cs => (true, cs)
  | '+' :: cs => (false, cs)
  | cs => (false, cs)

/-! ## Decimal literals -/

/-- What a decimal literal says: `± coefficient * 10 ^ exponent`. -/
structure DecimalLiteral where
  negative : Bool
  coefficient : Nat
  exponent : Int
  deriving DecidableEq, Repr

namespace DecimalLiteral

/-- The exponent part of a literal; the empty text is the exponent zero. -/
def readExponent? : List Char → Option Int
  | [] => some 0
  | c :: cs =>
    if c = 'e' || c = 'E' then
      let (negative, cs) := splitSign cs
      match Digits.run cs with
      | ([], _) => none
      | (ds, []) =>
        let n : Int := Digits.value 10 ds
        some (if negative then -n else n)
      | _ => none
    else none

/-- The digits after a point, if there is one, and what follows. -/
def splitFraction : List Char → List Char × List Char
  | '.' :: cs => Digits.run cs
  | cs => ([], cs)

/-- An unsigned literal: digits before or after the point, or both. -/
def readUnsigned? (negative : Bool) (cs : List Char) : Option DecimalLiteral :=
  let (whole, rest) := Digits.run cs
  let (fraction, rest) := splitFraction rest
  if whole.isEmpty && fraction.isEmpty then none
  else do
    let e ← readExponent? rest
    return ⟨negative, Digits.value 10 (whole ++ fraction), e - fraction.length⟩

/-- A literal with its sign. -/
def read? (cs : List Char) : Option DecimalLiteral :=
  let (negative, cs) := splitSign cs
  readUnsigned? negative cs

/-- The exact value of a literal. -/
def toRat (d : DecimalLiteral) : Rat :=
  let (n, q) := Decimals.scale d.coefficient 1 d.exponent
  mkRat (if d.negative then -(n : Int) else n) q

end DecimalLiteral

/-! ## Binary64 numbers -/

/-- What a text says that is read as a binary64 number. -/
inductive FloatReading where
  | number (x : Binary64)
  | notANumber
  deriving DecidableEq, Repr

/-- The number nearest to a decimal literal, an infinity, or not a number; the names are read in
either case. -/
def FloatReading.read? (s : String) : Option FloatReading :=
  let (negative, cs) := splitSign s.toList
  let word := String.ofList (cs.map Char.toLower)
  if word = "inf" || word = "infinity" then some (.number (.infinite negative))
  else if word = "nan" then some .notANumber
  else do
    let d ← DecimalLiteral.readUnsigned? negative cs
    let (n, q) := Decimals.scale d.coefficient 1 d.exponent
    return .number (Binary64.ofRatio negative n q)

/-! ## Rational numbers -/

namespace Rational

/-- A rational number written as an integer, as `n/d`, or as a decimal literal. -/
def read? (s : String) : Option Rat :=
  let (negative, cs) := splitSign s.toList
  match Digits.run cs with
  | (n, '/' :: rest) =>
    match Digits.run rest with
    | (d, []) =>
      if n.isEmpty || Digits.value 10 d = 0 then none
      else
        let n : Int := Digits.value 10 n
        some (mkRat (if negative then -n else n) (Digits.value 10 d))
    | _ => none
  | _ => (DecimalLiteral.readUnsigned? negative cs).map DecimalLiteral.toRat

end Rational

end CheckedCurry
