import CheckedCurry.Number.Literal
import CheckedCurry.Text.Numeral

/-!
# Decimal numbers

Decimals that keep the digits they were written with: `1.5` and `1.50` are equal and print apart.

* `Decimal`: a signed coefficient with an exponent, an infinity, or not a number.
* `Decimal.read?`, `Decimal.render`: the written form and back.
* `Decimal.add`, `Decimal.sub`, `Decimal.mul`, `Decimal.half`: arithmetic, rounded to the digits
  that are kept.
-/

namespace CheckedCurry

/-- A decimal number, `± coefficient * 10 ^ exponent` when it is finite.  What is not a number has a
mark, by which it is told apart from others, and may carry a number; a signaling one is refused by
arithmetic. -/
inductive Decimal where
  | finite (negative : Bool) (coefficient : Nat) (exponent : Int)
  | infinite (negative : Bool)
  | notANumber (mark : Nat) (negative signaling : Bool) (payload : Nat)
  deriving DecidableEq, Repr, Inhabited

/-- Why an operation on decimals has no result. -/
inductive DecimalFault where
  /-- The operands do not go together. -/
  | invalid
  /-- The result is larger than every decimal that is kept. -/
  | tooLarge
  deriving DecidableEq, Repr, Inhabited

namespace Decimal

/-! ## Reading and writing -/

/-- What is not a number, given the text in small letters behind its sign and whether it is
signaling: a name and the digits that it carries. -/
def readName? (mark : Nat) (negative signaling : Bool) (cs : List Char) : Option Decimal :=
  match cs with
  | 'n' :: 'a' :: 'n' :: digits =>
    if digits.all Char.isDigit then
      some (.notANumber mark negative signaling (Digits.value 10 digits))
    else none
  | _ => none

/-- The decimal that a text writes.  Blanks around it and underscores in it do not count. -/
def read? (mark : Nat) (s : String) : Option Decimal :=
  let cs := (Text.numeral (Text.trim s)).toList.filter (· != '_')
  let (negative, cs) := splitSign cs
  let small := cs.map Char.toLower
  let word := String.ofList small
  if word = "inf" || word = "infinity" then some (.infinite negative)
  else match small with
    | 's' :: name => readName? mark negative true name
    | 'n' :: _ => readName? mark negative false small
    | _ => (DecimalLiteral.readUnsigned? negative cs).map fun d =>
      .finite d.negative d.coefficient d.exponent

/-- The exact value of a finite decimal. -/
def toRat? : Decimal → Option Rat
  | .finite s c e => some (DecimalLiteral.toRat ⟨s, c, e⟩)
  | _ => none

/-- The sign of a decimal. -/
def isNegative : Decimal → Bool
  | .finite s .. => s
  | .infinite s => s
  | .notANumber _ s _ _ => s

/-- Whether a decimal is refused by arithmetic and by comparisons. -/
def isSignaling : Decimal → Bool
  | .notANumber _ _ signaling _ => signaling
  | _ => false

/-- The digits of a coefficient with a point after `place` of them. -/
def placePoint (digits : List Char) (place : Int) : String :=
  if place ≤ 0 then "0." ++ "".pushn '0' (-place).toNat ++ String.ofList digits
  else if (digits.length : Int) ≤ place then
    String.ofList digits ++ "".pushn '0' (place - digits.length).toNat
  else
    String.ofList (digits.take place.toNat) ++ "." ++ String.ofList (digits.drop place.toNat)

/-- The written form without a sign: with the point when the exponent is not positive and at most
six zeros lead, otherwise with an exponent. -/
def magnitudeText : Decimal → String
  | .infinite _ => "Infinity"
  | .notANumber _ _ signaling payload =>
    (if signaling then "sNaN" else "NaN") ++ (if payload = 0 then "" else toString payload)
  | .finite _ c e =>
    let digits := (toString c).toList
    let point : Int := e + digits.length
    if e ≤ 0 && -6 < point then placePoint digits point
    else
      let k := point - 1
      placePoint digits 1 ++
        (if k = 0 then "" else "E" ++ (if k < 0 then "-" else "+") ++ toString k.natAbs)

/-- The written form. -/
def render (d : Decimal) : String := (if d.isNegative then "-" else "") ++ d.magnitudeText

/-! ## Rounding -/

/-- The number of digits that arithmetic keeps. -/
def precision : Nat := 28

/-- The greatest power of ten that the first digit of a result can have. -/
def greatestPower : Int := 999999

/-- The least exponent of a result. -/
def leastExponent : Int := 1 - greatestPower - precision

/-- A coefficient for an exponent that is given; a half goes to the even neighbour. -/
def rescaled (c : Nat) (e target : Int) : Nat :=
  if target ≤ e then c * Nat.pow 10 (e - target).toNat
  else
    let surplus := (target - e).toNat
    -- what is less than a tenth of a unit needs no division
    if Decimals.digitCount c < surplus then 0 else Binary64.roundHalfEven c (Nat.pow 10 surplus)

/-- A coefficient and an exponent with a number of digits; rounding up may ask for a second
step. -/
def withDigits (count c : Nat) (e : Int) : Nat × Int :=
  let target := e + Decimals.digitCount c - count
  let c' := rescaled c e target
  if Decimals.digitCount c' ≤ count then (c', target) else (c' / 10, target + 1)

/-- The power of ten of the first digit. -/
def power (c : Nat) (e : Int) : Int := e + Decimals.digitCount c - 1

/-- A finite decimal with no more digits than are kept and an exponent that is kept: a half goes to
the even neighbour. -/
def rounded (negative : Bool) (c : Nat) (e : Int) : Except DecimalFault Decimal :=
  if c = 0 then .ok (.finite negative 0 (max leastExponent (min greatestPower e)))
  else if power c e < -greatestPower && e < leastExponent then
    .ok (.finite negative (rescaled c e leastExponent) leastExponent)
  else
    let (c, e) := if precision < Decimals.digitCount c then withDigits precision c e else (c, e)
    if greatestPower < power c e then .error .tooLarge else .ok (.finite negative c e)

/-! ## Arithmetic -/

/-- The decimal with the other sign; what is not a number keeps its own. -/
def flip : Decimal → Decimal
  | .finite s c e => .finite (!s) c e
  | .infinite s => .infinite (!s)
  | d => d

/-- What is not a number as a result, with the digits of its number that are kept. -/
def passed (mark : Nat) (negative signaling : Bool) (payload : Nat) : Except DecimalFault Decimal :=
  if signaling then .error .invalid
  else .ok (.notANumber mark negative false (payload % Nat.pow 10 precision))

/-- The negation, which leaves a zero without a sign. -/
def neg : Decimal → Except DecimalFault Decimal
  | .finite s c e => rounded (!s && c != 0) c e
  | .notANumber mark s signaling payload => passed mark s signaling payload
  | d => .ok d.flip

/-- The result of an operation with an operand that is not a number: the first such operand, if none
is signaling. -/
def nowhere? : Decimal → Decimal → Option (Except DecimalFault Decimal)
  | .notANumber mark s signaling payload, d =>
    some (if d.isSignaling then .error .invalid else passed mark s signaling payload)
  | _, .notANumber mark s signaling payload => some (passed mark s signaling payload)
  | _, _ => none

/-- A number in place of one that is too small beside another one to show in the digits that are
kept. -/
def noticeable (c : Nat) (e : Int) (beside : Nat) (besideExponent : Int) : Nat × Int :=
  let least := besideExponent +
    min (-1) ((Decimals.digitCount beside : Int) - precision - 2)
  if beside ≠ 0 && power c e < least then (min c 1, least) else (c, e)

/-- The sum of finite decimals, to the smaller of the two exponents.  A sum that is zero is negative
only if both terms are. -/
def addFinite (s : Bool) (c : Nat) (e : Int) (t : Bool) (d : Nat) (f : Int) :
    Except DecimalFault Decimal :=
  let (c, e) := if e < f then noticeable c e d f else (c, e)
  let (d, f) := if f < e then noticeable d f c e else (d, f)
  let low := min e f
  let x : Int := rescaled c e low
  let y : Int := rescaled d f low
  let sum := (if s then -x else x) + (if t then -y else y)
  rounded (if sum = 0 then s && t else sum < 0) sum.natAbs low

/-- The sum. -/
def add (x y : Decimal) : Except DecimalFault Decimal :=
  (nowhere? x y).getD (match x, y with
    | .infinite s, .infinite t => if s = t then .ok (.infinite s) else .error .invalid
    | .infinite s, _ | _, .infinite s => .ok (.infinite s)
    | .finite s c e, .finite t d f => addFinite s c e t d f
    | x, _ => .ok x)

/-- The difference. -/
def sub (x y : Decimal) : Except DecimalFault Decimal := add x y.flip

/-- Whether a decimal is a zero. -/
def isZero : Decimal → Bool
  | .finite _ c _ => c == 0
  | _ => false

/-- The product; an infinity times zero has none. -/
def mul (x y : Decimal) : Except DecimalFault Decimal :=
  (nowhere? x y).getD (match x, y with
    | .finite s c e, .finite t d f => rounded (s != t) (c * d) (e + f)
    | x, y =>
      if x.isZero || y.isZero then .error .invalid
      else .ok (.infinite (x.isNegative != y.isNegative)))

/-- The integer part of a coefficient with an exponent divided by `m`, which is at most a hundred;
too long an integer is none. -/
def divided? (m c : Nat) (e : Int) : Option Nat :=
  if c = 0 || power c e < -1 then some 0
  else if precision + 2 < power c e then none
  else
    let (n, d) := Decimals.scale c m e
    if Decimals.digitCount (n / d) ≤ precision then some (n / d) else none

/-- Half of a decimal, without its fractional part. -/
def half : Decimal → Except DecimalFault Decimal
  | .finite s c e =>
    match divided? 2 c e with
    | some q => .ok (.finite s q 0)
    | none => .error .invalid
  | .notANumber mark s signaling payload => passed mark s signaling payload
  | d => .ok d

/-- The remainder of a decimal by `m`, which is at most a hundred, with the sign of the decimal. -/
def remainder (m : Nat) : Decimal → Except DecimalFault Decimal
  | .infinite _ => .error .invalid
  | .notANumber mark s signaling payload => passed mark s signaling payload
  | .finite s c e =>
    match divided? m c e with
    | none => .error .invalid
    | some _ =>
      -- what is smaller than one is its own remainder
      if c = 0 || power c e < -1 then rounded s c (min e 0)
      else
        let (n, d) := Decimals.scale c m e
        rounded s (n % d) (min e 0)

/-- Whether a decimal is an even integer, where that can be told. -/
def isEven? (d : Decimal) : Except DecimalFault Bool := do return (← d.remainder 2).isZero

/-- A decimal that is an integer. -/
def ofInt (n : Int) : Decimal := .finite (n < 0) n.natAbs 0

/-! ## Small laws -/

@[simp] theorem flip_flip (d : Decimal) : d.flip.flip = d := by
  cases d <;> simp [flip]

end Decimal

end CheckedCurry
