import CheckedCurry.Log.Layout.Number

/-!
# Decimals that are laid out

Decimals keep the digits that they were written with, so a layout counts and rounds those digits,
and a field for a decimal is written a little more strictly than one for other numbers.

* `Layout.readForDecimal?`: the layout that a text writes for a decimal.
* `Layout.decimal`: a decimal that is laid out.
-/

namespace CheckedCurry

variable [Host]

namespace Layout

/-! ## Reading -/

/-- Whether the precision at the front of a text is written with a zero too many. -/
def hasLeadingZero : List Char → Bool
  | '.' :: '0' :: c :: _ => Text.isDecimal c
  | _ => false

/-- Whether a precision stands at the front of what follows a width and a separator. -/
def hasPaddedPrecision (cs : List Char) : Bool :=
  hasLeadingZero ((takeNumber cs).2.dropWhile (· == ','))

/-- Whether a decimal can be laid out.  Zeros are asked for at most once, by a flag that goes with
no fill and no alignment.  The capital `N` and a precision with zeros in front are part of a smaller
language, in which all digits are those of ASCII. -/
def isForDecimals (l : Layout) (back : List Char) : Bool :=
  let isSmall := !l.plainZero && !l.alternate && back.all (·.toNat < 0x80)
  let hasSmallParts := l.letter = some 'N' || hasPaddedPrecision back
  back.head? != some '0' && !(l.zero && l.align.isSome) && l.group != some '_' &&
    (isSmall || !hasSmallParts) &&
    l.letter.all fun c =>
      "eEfFgG%".toList.contains c || ((c = 'n' || c = 'N') && l.group.isNone)

/-- The layout that a text writes for a decimal. -/
def readForDecimal? (text : String) : Option Layout := do
  let (l, back) := takeFront text.toList
  let l ← l.takeBack? back
  if l.width < Host.room && l.isForDecimals back then some l else none

/-! ## Digits -/

/-- The letter for the form of a decimal, in small letters: an exponent, places, or the shorter. -/
def form (l : Layout) : Char :=
  match l.letter with
  | some 'e' | some 'E' => 'e'
  | some 'f' | some 'F' | some '%' => 'f'
  | _ => 'g'

/-- The exponent of a decimal in a field: for a percentage it is higher by two. -/
def shifted (l : Layout) (e : Int) : Int := if l.letter = some '%' then e + 2 else e

/-- A coefficient and an exponent, rounded as a layout asks for. -/
def roundedDigits (l : Layout) (c : Nat) (e : Int) : Nat × Int :=
  match l.form, l.precision with
  | 'e', some p => if c = 0 then (c, e) else Decimal.withDigits (p + 1) c e
  | 'f', some p => (Decimal.rescaled c e (-p), -p)
  | 'g', some p =>
    let count := max 1 p
    if count < Decimals.digitCount c then Decimal.withDigits count c e else (c, e)
  | 'f', none => if c = 0 then (c, min e 0) else (c, e)
  | _, _ => (c, e)

/-- Behind how many digits the point stands; `count` is the number of digits. -/
def pointPlace (l : Layout) (c count : Nat) (e : Int) : Int :=
  let first := e + count
  match l.form, l.precision with
  | 'e', some p => if c = 0 then 1 - (p : Int) else 1
  | 'e', none => 1
  | 'f', _ => first
  | _, _ => if e ≤ 0 && -6 < first then first else 1

/-- The exponent of a decimal. -/
def decimalExponent (l : Layout) (k : Int) : String :=
  if k = 0 && l.form != 'e' then ""
  else
    let mark := if l.letter = some 'e' || l.letter = some 'g' || l.letter = some 'n' then "e"
      else "E"
    mark ++ (if k < 0 then "-" else "+") ++ toString k.natAbs

/-- The text of the magnitude of a finite decimal with a point behind `place` of its digits. -/
def decimalNumeral (l : Layout) (digits : List Char) (place k : Int) : Numeral :=
  let zeros (n : Int) := List.replicate n.toNat '0'
  let (whole, places) :=
    if place < 0 then ([], zeros (-place) ++ digits)
    else (digits.take place.toNat ++ zeros (place - digits.length), digits.drop place.toNat)
  ⟨"", if whole.isEmpty then "0" else String.ofList whole,
    Numeral.behindPoint l.alternate (String.ofList places) ++ l.decimalExponent k ++
      (if l.letter = some '%' then "%" else "")⟩

/-! ## Decimals -/

/-- Whether the digits that a layout asks for can be held. -/
def isHeld (l : Layout) (c : Nat) (e : Int) : Bool :=
  let bound : Int := Host.room
  l.form = 'g' || l.precision.all (· < Host.room) &&
    (l.form != 'f' || ((c = 0 || e < bound) && (l.precision.isSome || -bound < e)))

/-- A finite decimal that is laid out. -/
def finiteDecimal (l : Layout) (negative : Bool) (c : Nat) (e : Int) : Attempt String :=
  let e := l.shifted e
  if !l.isHeld c e then Attempt.fail .tooLong
  else
    let (c', e) := l.roundedDigits c e
    let digits := (toString c').toList
    let place := l.pointPlace c' digits.length e
    let k := e + digits.length - place
    .ok (l.place l.zero (negative && !(l.plainZero && c' = 0)) (l.decimalNumeral digits place k))

/-- A decimal that is no finite number, which is filled up with blanks instead of zeros. -/
def specialDecimal (l : Layout) (negative : Bool) (name : String) : String :=
  let l := if l.zero then { l with fill := none, zero := false } else l
  l.fit .right (l.signText negative) (name ++ (if l.letter = some '%' then "%" else ""))

/-- A decimal that is laid out. -/
def decimal (l : Layout) (d : Decimal) : Attempt String :=
  match d with
  | .finite negative c e => l.finiteDecimal negative c e
  | d => .ok (l.specialDecimal d.isNegative d.magnitudeText)

end Layout

end CheckedCurry
