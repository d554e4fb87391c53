import CheckedCurry.Number.Literal

/-!
# Real numbers of three sorts

A number is an integer, an exact quotient or a binary64 number, and the sorts mix: integers and
quotients stay exact, and a binary64 operand turns the result into a binary64 number.

* `Number`: the three sorts, and not a number.  Every value that is not a number carries a mark of
  its own, because containers take such a value to be equal to itself alone.
* `Number.add`, `Number.sub`, `Number.mul`: arithmetic.  Turning an exact number that is too large
  into a binary64 one fails.
* `Number.isValid`, `Number.isFinite`, `Number.isInteger`: the properties that the numeric types
  ask for.
* `Number.exact`: the value on the extended line, by which all sorts are compared.
-/

namespace CheckedCurry

/-- A real number, or a marked value that is not a number. -/
inductive Number where
  | int (n : Int)
  | ratio (q : Rat)
  | float (x : Binary64)
  | nan (mark : Nat)
  deriving DecidableEq, Repr, Inhabited

/-- Why an exact number cannot become another number. -/
inductive NumberFault where
  /-- An integer is too large for a binary64 number. -/
  | integerTooLarge
  /-- A quotient is too large for a binary64 number. -/
  | quotientTooLarge
  /-- An infinity is no integer. -/
  | infinityToInteger
  /-- What is not a number is no integer. -/
  | nanToInteger
  /-- An integer has too many digits to be written. -/
  | tooManyDigits
  deriving DecidableEq, Repr

/-- A point of the extended real line, or nowhere on it. -/
inductive Extended where
  | finite (q : Rat)
  | infinite (negative : Bool)
  | nowhere
  deriving DecidableEq, Repr

namespace Extended

/-- Equality of two points; what is nowhere equals nothing. -/
def eq : Extended → Extended → Bool
  | .finite p, .finite q => p == q
  | .infinite s, .infinite t => s == t
  | _, _ => false

/-- Order of two points; what is nowhere is below and above nothing. -/
def lt : Extended → Extended → Bool
  | .finite p, .finite q => p < q
  | .finite _, .infinite s => !s
  | .infinite s, .finite _ => s
  | .infinite s, .infinite t => s && !t
  | _, _ => false

/-- Below or equal. -/
def le (x y : Extended) : Bool := lt x y || eq x y

/-- The point of a binary64 number. -/
def ofBinary64 (x : Binary64) : Extended :=
  match x.toRat? with
  | some q => .finite q
  | none => .infinite x.isNegative

end Extended

namespace Number

/-- The number that a natural number is. -/
def ofNat (n : Nat) : Number := .int n

/-- The value of a number on the extended line. -/
def exact : Number → Extended
  | .int n => .finite n
  | .ratio q => .finite q
  | .float x => .ofBinary64 x
  | .nan _ => .nowhere

/-- The number that an operation on binary64 numbers gives; `mark` is for a result that is not a
number. -/
def ofFloat? (mark : Nat) : Option Binary64 → Number
  | some x => .float x
  | none => .nan mark

/-- Whether a number is zero. -/
def isZero (x : Number) : Bool := x.exact.eq (.finite 0)

/-- Whether a number is not a number. -/
def isNaN : Number → Bool
  | .nan _ => true
  | _ => false

/-! ## Conversions -/

/-- The nearest binary64 number, `none` for what is not a number. -/
def toFloat? : Number → Except NumberFault (Option Binary64)
  | .int n =>
    let x := Binary64.ofInt n
    if x.isFinite then .ok (some x) else .error .integerTooLarge
  | .ratio q =>
    let x := Binary64.ofRat false q
    if x.isFinite then .ok (some x) else .error .quotientTooLarge
  | .float x => .ok (some x)
  | .nan _ => .ok none

/-- The integer part, toward zero. -/
def truncate : Number → Except NumberFault Int
  | .int n => .ok n
  | .ratio q => .ok (q.num.tdiv q.den)
  | .float x =>
    match x.toRat? with
    | some q => .ok (q.num.tdiv q.den)
    | none => .error .infinityToInteger
  | .nan _ => .error .nanToInteger

/-! ## Arithmetic -/

/-- An operation on two numbers, from the operation on exact numbers and the one on binary64
numbers: two integers give an integer, a quotient makes the result a quotient, and a binary64
operand makes it a binary64 number. -/
def combine (onInts : Int → Int → Int) (onRats : Rat → Rat → Rat)
    (onFloats : Binary64 → Binary64 → Option Binary64) (mark : Nat) :
    Number → Number → Except NumberFault Number
  | .int a, .int b => .ok (.int (onInts a b))
  | .int a, .ratio q => .ok (.ratio (onRats a q))
  | .ratio p, .int b => .ok (.ratio (onRats p b))
  | .ratio p, .ratio q => .ok (.ratio (onRats p q))
  | x, y => do
    let a ← x.toFloat?
    let b ← y.toFloat?
    return ofFloat? mark (do onFloats (← a) (← b))

/-- The sum. -/
def add (mark : Nat) (x y : Number) : Except NumberFault Number :=
  combine (· + ·) (· + ·) Binary64.add mark x y

/-- The difference. -/
def sub (mark : Nat) (x y : Number) : Except NumberFault Number :=
  combine (· - ·) (· - ·) Binary64.sub mark x y

/-- The product. -/
def mul (mark : Nat) (x y : Number) : Except NumberFault Number :=
  combine (· * ·) (· * ·) Binary64.mul mark x y

/-- The number with the other sign. -/
def neg (mark : Nat) : Number → Number
  | .int n => .int (-n)
  | .ratio q => .ratio (-q)
  | .float x => .float x.neg
  | .nan _ => .nan mark

/-- Whether a number is an even integer, of whatever sort. -/
def isEven (x : Number) : Bool :=
  match x.exact with
  | .finite q => q.den == 1 && q.num % 2 == 0
  | _ => false

/-! ## What the numeric types ask for

Integers answer without a conversion.  A quotient is first turned into a binary64 number, which
fails when it is too large. -/

/-- Whether the number is not "not a number". -/
def isValid : Number → Except NumberFault Bool
  | .int _ => .ok true
  | x => do return (← x.toFloat?).isSome

/-- Whether the number is neither infinite nor "not a number". -/
def isFinite : Number → Except NumberFault Bool
  | .int _ => .ok true
  | x => do return (← x.toFloat?).any Binary64.isFinite

/-- Whether the number is finite and has no fractional part. -/
def isInteger (x : Number) : Except NumberFault Bool := do
  if ← x.isFinite then
    match x.exact with
    | .finite q => return q.den == 1
    | _ => return false
  else return false

/-! ## Texts -/

/-- Integers with more decimal digits than this are not written. -/
def digitLimit : Nat := 4300

/-- Whether a number is written with at most so many decimal digits. -/
def hasDigits : Nat → Nat → Bool
  | 0, _ => false
  | limit + 1, n => n < 10 || hasDigits limit (n / 10)

/-- The decimal text of an integer. -/
def integerText (n : Int) : Except NumberFault String :=
  if hasDigits digitLimit n.natAbs then .ok (toString n) else .error .tooManyDigits

/-- The text of a number as it is written in an expression. -/
def literal : Number → Except NumberFault String
  | .int n => integerText n
  | .ratio q => do
    let num ← integerText q.num
    return "Fraction(" ++ num ++ ", " ++ (← integerText q.den) ++ ")"
  | .float x => .ok x.render
  | .nan _ => .ok "nan"

/-- The plain text of a number; a quotient is written `n/d`, or as an integer if `d` is one. -/
def text : Number → Except NumberFault String
  | .ratio q => do
    let num ← integerText q.num
    if q.den = 1 then return num else return num ++ "/" ++ (← integerText q.den)
  | x => x.literal

/-- The text in a message of a number that is written in some way (`_show_number`): infinities and
"not a number" get names. -/
def displayAs (written : Except NumberFault String) (x : Number) : Except NumberFault String := do
  match x with
  | .int _ => written
  | _ =>
    match ← x.toFloat? with
    | none => return "NaN"
    | some (.infinite s) => return (if s then "-Infinity" else "Infinity")
    | some _ => written

/-- The text of a number in a message. -/
def display (x : Number) : Except NumberFault String := x.displayAs x.literal

/-! ## Small laws -/

@[simp] theorem exact_int (n : Int) : (int n).exact = .finite n := rfl

@[simp] theorem exact_ratio (q : Rat) : (ratio q).exact = .finite q := rfl

@[simp] theorem exact_nan (mark : Nat) : (nan mark).exact = .nowhere := rfl

@[simp] theorem isValid_int (n : Int) : (int n).isValid = .ok true := rfl

@[simp] theorem isFinite_int (n : Int) : (int n).isFinite = .ok true := rfl

@[simp] theorem isFinite_nan (mark : Nat) : (nan mark).isFinite = .ok false := rfl

/-- A number has at most so many digits exactly if it is below the power of ten. -/
theorem hasDigits_iff {limit n : Nat} (hlimit : 0 < limit) :
    hasDigits limit n = true ↔ n < Nat.pow 10 limit := by
  show hasDigits limit n = true ↔ n < 10 ^ limit
  induction limit generalizing n with
  | zero => exact absurd hlimit (Nat.lt_irrefl 0)
  | succ limit ih =>
    rw [hasDigits, Bool.or_eq_true, decide_eq_true_iff]
    cases limit with
    | zero => simp [hasDigits]
    | succ limit =>
      rw [ih (Nat.succ_pos _), Nat.div_lt_iff_lt_mul (by decide), ← Nat.pow_succ]
      have hten : 10 ≤ 10 ^ (limit + 1 + 1) := Nat.le_self_pow (by omega) 10
      omega

/-- Exactly the integers of at most `digitLimit` digits are written. -/
theorem integerText_eq_ok_iff {n : Int} {s : String} :
    integerText n = .ok s ↔ n.natAbs < Nat.pow 10 digitLimit ∧ toString n = s := by
  rw [← hasDigits_iff (by decide), integerText]
  split <;> simp_all

end Number

namespace NumberFault

/-- The text of the fault. -/
def message : NumberFault → String
  | .integerTooLarge => "int too large to convert to float"
  | .quotientTooLarge => "integer division result too large for a float"
  | .infinityToInteger => "cannot convert float infinity to integer"
  | .nanToInteger => "cannot convert float NaN to integer"
  | .tooManyDigits => "Exceeds the limit (4300 digits) for integer string conversion; " ++
      "use sys.set_int_max_str_digits() to increase the limit"

end NumberFault

end CheckedCurry
