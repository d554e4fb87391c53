import CheckedCurry.Number.Binary64

/-!
# The shortest decimal that reads back

A finite binary64 number is nearest to every rational of an interval around it.  Among the
decimals of that interval the one with the fewest digits is written, and of two such decimals the
nearer one.

* `Decimals`: a coefficient and a power of ten.
* `Binary64.shortest`: the decimal that is written for a positive significand and exponent.
* `FloatStyle`, `Binary64.render`: how the digits are laid out, with the point or with an exponent.
-/

namespace CheckedCurry

/-- The decimal `coefficient * 10 ^ exponent`. -/
structure Decimals where
  coefficient : Nat
  exponent : Int
  deriving DecidableEq, Repr, Inhabited

namespace Decimals

/-- The number of decimal digits of a number, one for zero. -/
def digitCount (n : Nat) : Nat := (Nat.toDigits 10 n).length

/-- The same decimal without zeros at the end of its coefficient; `fuel` bounds their number. -/
def stripZeros : Nat → Decimals → Decimals
  | 0, d => d
  | fuel + 1, d =>
    if d.coefficient % 10 = 0 then stripZeros fuel ⟨d.coefficient / 10, d.exponent + 1⟩ else d

/-- The same decimal with the least coefficient; zero keeps its exponent. -/
def normalize (d : Decimals) : Decimals :=
  if d.coefficient = 0 then d else stripZeros (digitCount d.coefficient) d

/-- The quotient `num / den` multiplied by `10 ^ k`, again as a numerator and a denominator. -/
def scale (num den : Nat) (k : Int) : Nat × Nat :=
  if 0 ≤ k then (num * Nat.pow 10 k.toNat, den) else (num, den * Nat.pow 10 (-k).toNat)

/-- The greatest `k` with `10 ^ k ≤ num / den`, for positive `num` and `den`. -/
def magnitude (num den : Nat) : Int :=
  let k : Int := (digitCount num : Int) - (digitCount den : Int)
  let (n, d) := scale num den (-k)
  if d ≤ n then k else k - 1

end Decimals

namespace Binary64

/-- The open or closed interval of rationals that round to a number, in quarters of its last
place: `lower`, `upper` and whether the ends belong to it. -/
structure Neighbourhood where
  lower : Nat
  upper : Nat
  closed : Bool

/-- The quarters around `4 * m`.  Below a power of two the numbers lie twice as dense. -/
def neighbourhood (m : Nat) (e : Int) : Neighbourhood where
  lower := if m = Nat.pow 2 52 && decide (minExponent < e) then 4 * m - 1 else 4 * m - 2
  upper := 4 * m + 2
  closed := m % 2 = 0

/-- Whether `c * 10 ^ k` lies in the neighbourhood, in quarters scaled by `2 ^ (e - 2)`. -/
def Neighbourhood.holds (b : Neighbourhood) (e : Int) (c : Nat) (k : Int) : Bool :=
  let (n, d) := Decimals.scale c 1 k
  let (n, d) := scale n d (2 - e)
  if b.closed then decide (b.lower * d ≤ n) && decide (n ≤ b.upper * d)
  else decide (b.lower * d < n) && decide (n < b.upper * d)

/-- The two neighbours of `m * 2 ^ e` among the multiples of `10 ^ k`: the one that is in the
neighbourhood, the nearer one if both are, the even one if they are equally near. -/
def onGrid (m : Nat) (e k : Int) : Option Nat :=
  let b := neighbourhood m e
  let (n, d) := fraction m e
  let (n, d) := Decimals.scale n d (-k)
  let low := n / d
  let twice := 2 * (n % d)
  match b.holds e low k, b.holds e (low + 1) k with
  | true, false => some low
  | false, true => some (low + 1)
  | true, true => if twice < d then some low else if d < twice then some (low + 1)
      else some (low + low % 2)
  | false, false => none

/-- The first grid, from coarse to fine, that has a point in the neighbourhood. -/
def firstGrid (m : Nat) (e : Int) : List Int → Decimals
  | [] => ⟨0, 0⟩
  | k :: ks => match onGrid m e k with
    | some c => ⟨c, k⟩
    | none => firstGrid m e ks

/-- The shortest decimal that reads back as `m * 2 ^ e`, for a positive `m`.  Seventeen digits
always suffice. -/
def shortest (m : Nat) (e : Int) : Decimals :=
  let (n, d) := fraction m e
  let k := Decimals.magnitude n d
  (firstGrid m e ((List.range 17).map fun (i : Nat) => k - (i : Int))).normalize

end Binary64

/-! ## Layout -/

/-- How a decimal is laid out: the powers of ten that are written with the point, and the least
number of digits of an exponent. -/
structure FloatStyle where
  leastPositional : Int
  firstScientific : Int
  exponentDigits : Nat
  deriving DecidableEq, Repr

/-- Numbers from `0.0001` to below `10 ^ 16` are written with the point, all others with an exponent
of at least two digits. -/
def FloatStyle.standard : FloatStyle := ⟨-4, 16, 2⟩

/-- A natural number with zeros in front up to a width. -/
def padZeros (width : Nat) (n : Nat) : String :=
  let s := toString n
  "".pushn '0' (width - s.length) ++ s

/-- The exponent with its sign, as in `e+22` and `e-05`. -/
def FloatStyle.exponentText (style : FloatStyle) (k : Int) : String :=
  "e" ++ (if k < 0 then "-" else "+") ++ padZeros style.exponentDigits k.natAbs

/-- A decimal without zeros at the end, written with the point or with an exponent. -/
def FloatStyle.render (style : FloatStyle) (d : Decimals) : String :=
  let digits := toString d.coefficient
  let point : Int := digits.length + d.exponent
  let lead := point - 1
  if style.leastPositional ≤ lead && lead < style.firstScientific then
    if point ≤ 0 then "0." ++ "".pushn '0' (-point).toNat ++ digits
    else if (digits.length : Int) ≤ point then
      digits ++ "".pushn '0' (point - digits.length).toNat ++ ".0"
    else
      String.ofList (digits.toList.take point.toNat) ++ "." ++
        String.ofList (digits.toList.drop point.toNat)
  else
    let tail := digits.toList.drop 1
    String.ofList (digits.toList.take 1) ++
      (if tail.isEmpty then "" else "." ++ String.ofList tail) ++ style.exponentText lead

/-- The text of a number: the shortest decimal that reads back, or `inf`. -/
def Binary64.render (x : Binary64) : String :=
  (if x.isNegative then "-" else "") ++
  match x with
  | .infinite _ => "inf"
  | .finite _ m e => if m = 0 then "0.0" else FloatStyle.standard.render (shortest m e)

end CheckedCurry
