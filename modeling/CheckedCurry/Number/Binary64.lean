/-!
# Binary64 numbers, exactly

A binary64 number that is not an infinity is a sign, a significand below `2 ^ 53` and a power of
two, so it *is* a rational number, and each operation is the exact operation on rationals followed
by one rounding.  No machine arithmetic is involved.

* `Binary64`: the finite numbers and the two infinities.  A result that is not a number is
  reported as `none` by the operation, so no value stands for it here.
* `Binary64.ofRatio`: the nearest number to a quotient, a tie going to the even significand.
* `Binary64.toRat?`: the exact value of a finite number.
-/

namespace CheckedCurry

/-- A binary64 number: `finite s m e` is `± m * 2 ^ e`, written with the least `e ≥ -1074` that
leaves `m < 2 ^ 53`. -/
inductive Binary64 where
  | finite (negative : Bool) (significand : Nat) (exponent : Int)
  | infinite (negative : Bool)
  deriving DecidableEq, Repr, Inhabited

namespace Binary64

/-! ## Rounding -/

/-- The quotient `num / den` rounded to the nearest integer, a half going to the even neighbour. -/
def roundHalfEven (num den : Nat) : Nat :=
  let q := num / den
  let r := num % den
  if 2 * r < den then q
  else if den < 2 * r then q + 1
  else q + q % 2

/-- The quotient `num / den` multiplied by `2 ^ k`, again as a numerator and a denominator. -/
def scale (num den : Nat) (k : Int) : Nat × Nat :=
  if 0 ≤ k then (num * Nat.pow 2 k.toNat, den) else (num, den * Nat.pow 2 (-k).toNat)

/-- The greatest `k` with `2 ^ k ≤ num / den`, for positive `num` and `den`. -/
def magnitude (num den : Nat) : Int :=
  let k : Int := (num.log2 : Int) - (den.log2 : Int)
  let (n, d) := scale num den (-k)
  if d ≤ n then k else k - 1

/-- The least exponent of a finite number. -/
def minExponent : Int := -1074

/-- The greatest exponent of a finite number. -/
def maxExponent : Int := 971

/-- The zero with a given sign. -/
def zero (negative : Bool) : Binary64 := .finite negative 0 minExponent

/-- The binary64 number nearest to `± num / den`; beyond the greatest finite one it is infinite. -/
def ofRatio (negative : Bool) (num den : Nat) : Binary64 :=
  if num = 0 then zero negative
  else
    let e := max (magnitude num den - 52) minExponent
    let (n, d) := scale num den (-e)
    let m := roundHalfEven n d
    let (m, e) := if m = Nat.pow 2 53 then (Nat.pow 2 52, e + 1) else (m, e)
    if maxExponent < e then .infinite negative else .finite negative m e

/-- The number nearest to a rational one; `negative` is the sign that a zero gets. -/
def ofRat (negative : Bool) (q : Rat) : Binary64 :=
  if q.num = 0 then zero negative else ofRatio (q.num < 0) q.num.natAbs q.den

/-- The number nearest to an integer. -/
def ofInt (n : Int) : Binary64 := ofRatio (n < 0) n.natAbs 1

/-! ## Reading a number off -/

/-- The sign bit. -/
def isNegative : Binary64 → Bool
  | .finite s _ _ => s
  | .infinite s => s

/-- Whether the number is not an infinity. -/
def isFinite : Binary64 → Bool
  | .finite .. => true
  | .infinite _ => false

/-- A numerator and a denominator of the magnitude of `m * 2 ^ e`. -/
def fraction (m : Nat) (e : Int) : Nat × Nat := scale m 1 e

/-- The exact value of a finite number. -/
def toRat? : Binary64 → Option Rat
  | .finite s m e =>
    let (n, d) := fraction m e
    some (mkRat (if s then -(n : Int) else n) d)
  | .infinite _ => none

/-! ## Arithmetic

Each operation answers `none` where the result is not a number. -/

/-- The number with the other sign. -/
def neg : Binary64 → Binary64
  | .finite s m e => .finite (!s) m e
  | .infinite s => .infinite (!s)

/-- The rounded sum.  A sum that is exactly zero is positive unless both terms are negative. -/
def add (x y : Binary64) : Option Binary64 :=
  match x, y with
  | .infinite s, .infinite t => if s = t then some (.infinite s) else none
  | .infinite s, _ => some (.infinite s)
  | _, .infinite t => some (.infinite t)
  | x@(.finite ..), y@(.finite ..) => do
    let p ← x.toRat?
    let q ← y.toRat?
    return ofRat (x.isNegative && y.isNegative) (p + q)

/-- The rounded difference. -/
def sub (x y : Binary64) : Option Binary64 := add x y.neg

/-- The rounded product; an infinity times zero is not a number. -/
def mul (x y : Binary64) : Option Binary64 :=
  let s := x.isNegative != y.isNegative
  match x.toRat?, y.toRat? with
  | some p, some q => some (ofRat s (p * q))
  | some p, none => if p = 0 then none else some (.infinite s)
  | none, some q => if q = 0 then none else some (.infinite s)
  | none, none => some (.infinite s)

/-! ## Small laws -/

@[simp] theorem toRat?_infinite (s : Bool) : (infinite s).toRat? = none := rfl

theorem isFinite_iff_toRat?_isSome (x : Binary64) : x.isFinite = x.toRat?.isSome := by
  cases x <;> rfl

@[simp] theorem neg_neg (x : Binary64) : x.neg.neg = x := by
  cases x <;> simp [neg]

end Binary64

end CheckedCurry
