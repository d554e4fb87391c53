import CheckedCurry.Number.Radix
import CheckedCurry.Value.Access

/-!
# Operators on values

The operators take more than numbers: a sum joins texts and sequences, a product repeats them.
Truth values count as integers.

* `Value.plus`, `Value.minus`, `Value.times`, `Value.negative`: the operators.
* `Value.toInteger`, `Value.toFloat`: a number from a number of another sort or from a text.
* `Value.compare?`, `Value.remainder`: the order of two numbers, and what a division leaves.

Where a result may be "not a number", the first argument is the mark that it gets.
-/

namespace CheckedCurry

namespace Value

/-- The number that a value is for an operator. -/
def number? (v : Value) : Option Number :=
  match v.core with
  | bool b => some (.int (if b then 1 else 0))
  | number n => some n
  | _ => none

/-- The integer that a value is for an operator. -/
def integer? (v : Value) : Option Int :=
  match v.number? with
  | some (.int n) => some n
  | _ => none

/-- The decimal that a value is beside another decimal: itself, or an integer. -/
def decimal? (v : Value) : Option Decimal :=
  match v.core with
  | decimal d => some d
  | v => v.integer?.map Decimal.ofInt

/-! ## Operators -/

/-- The result of an operation on decimals. -/
def ofDecimal {α : Type} : Except DecimalFault α → Attempt α
  | .ok a => .ok a
  | .error e => Attempt.fail (.decimal e)

/-- An operator on numbers and decimals; other operands it does not take. -/
def numeric (symbol : String) (onNumbers : Number → Number → Except NumberFault Number)
    (onDecimals : Decimal → Decimal → Except DecimalFault Decimal) (v w : Value) : Attempt Value :=
  match v.number?, w.number? with
  | some m, some n => do return number (← Attempt.ofNumber (onNumbers m n))
  | _, _ =>
    match v.decimal?, w.decimal? with
    | some d, some e => decimal <$> ofDecimal (onDecimals d e)
    | _, _ => Attempt.fail (.unsupported symbol v.operandName w.operandName)

/-- The elements of a tuple, also of one whose elements have names. -/
def tuple? : Value → Option (List Value)
  | tuple items => some items
  | identifier i => some (identifierItems i)
  | _ => none

/-- A moment or a duration, which must not be too large. -/
def ofTime {α : Type} (make : α → Value) : Option α → Attempt Value
  | some a => .ok (make a)
  | none => Attempt.fail .timeTooLarge

/-- The sum of two numbers or durations, a later moment, or one sequence followed by another of the
same sort. -/
def plus (mark : Nat) (v w : Value) : Attempt Value :=
  match v.core, w.core with
  | text s, text t => .ok (text (s ++ t))
  | list xs, list ys => .ok (list (xs ++ ys))
  | bytes xs, bytes ys => .ok (bytes (xs ++ ys))
  | deque xs, deque ys => .ok (deque (xs ++ ys))
  | deque _, _ => Attempt.fail (.notJoinable "deque" w.operandName)
  | duration d, duration e => ofTime duration (d.add? e)
  | moment m, duration d | duration d, moment m =>
    if m.hasDay then ofTime moment (m.later? d.days d.micros)
    else Attempt.fail (.unsupported "+" v.operandName w.operandName)
  | x, y =>
    match x.tuple?, y.tuple? with
    | some xs, some ys => .ok (tuple (xs ++ ys))
    | _, _ => numeric "+" (Number.add mark) Decimal.add v w

/-- The difference of two numbers or durations, the time between two moments, or an earlier
moment. -/
def minus (mark : Nat) (v w : Value) : Attempt Value :=
  match v.core, w.core with
  | duration d, duration e => ofTime duration (d.sub? e)
  | moment m, duration d =>
    if m.hasDay then ofTime moment (m.later? (-d.days) (-d.micros))
    else Attempt.fail (.unsupported "-" v.operandName w.operandName)
  | moment m, moment n =>
    match m.since? n with
    | some micros => .ok (duration ⟨micros⟩)
    | none => Attempt.fail (.unsupported "-" v.operandName w.operandName)
  | _, _ => numeric "-" (Number.sub mark) Decimal.sub v w

/-- Copies of a list, one after the other. -/
def copies {α : Type} (n : Nat) (xs : List α) : List α :=
  if xs.isEmpty then [] else (List.replicate n xs).flatten

/-- A number of copies can be made of a sequence: the number itself can be counted, and so can the
elements of the copies.  Texts and bytes are told apart from other sequences of too many
elements. -/
def checkCopies [Host] (n : Int) (size : Nat) (isText : Bool) : Attempt Unit :=
  if n < -countBound || countBound ≤ n then Attempt.fail .uncountable
  else if isText then checkCount (size * n.toNat)
  else if Host.room ≤ size * n.toNat then Attempt.fail .tooLong
  else .ok ()

/-- A sequence some number of times; other values cannot be repeated. -/
def repeated? [Host] (n : Int) (v : Value) : Option (Attempt Value) :=
  match v.core with
  | text s => some do
    checkCopies n s.length true
    return text (String.ofList (copies n.toNat s.toList))
  | bytes bs => some do
    checkCopies n bs.length true
    return bytes (copies n.toNat bs)
  | list xs => some do
    checkCopies n xs.length false
    return list (copies n.toNat xs)
  | deque xs => some do
    checkCopies n xs.length false
    return deque (copies n.toNat xs)
  | w => w.tuple?.map fun xs => do
    checkCopies n xs.length false
    return tuple (copies n.toNat xs)

/-- The repetition of one of two values as often as the other says. -/
def repetition? [Host] (v w : Value) : Option (Attempt Value) :=
  match v.integer?, w.integer? with
  | none, some n => repeated? n v
  | some n, none => repeated? n w
  | _, _ => none

/-- A duration as often as a number says, which is no quotient. -/
def lengthened? (n : Option Number) (v : Value) : Option (Attempt Value) :=
  match v.core, n with
  | duration _, some (.ratio _) => none
  | duration _, some (.nan _) => some (Attempt.fail (.number .nanToInteger))
  | duration d, some n =>
    some (match n.exact with
      | .finite q => ofTime duration (d.times? q)
      | _ => Attempt.fail (.number .infinityToInteger))
  | _, _ => none

/-- The product of two numbers, a sequence some number of times, or a duration. -/
def times [Host] (mark : Nat) (v w : Value) : Attempt Value :=
  ((repetition? v w).or ((lengthened? w.number? v).or (lengthened? v.number? w))).getD
    (numeric "*" (Number.mul mark) Decimal.mul v w)

/-- The number with the other sign. -/
def negative (mark : Nat) (v : Value) : Attempt Value :=
  match v.number? with
  | some n => .ok (number (n.neg mark))
  | none =>
    match v.core with
    | decimal d => decimal <$> ofDecimal d.neg
    | duration d => ofTime duration d.neg?
    | _ => Attempt.fail (.unsupported "-" v.operandName "")

/-- Whether a value is a decimal. -/
def isDecimal (v : Value) : Bool :=
  match v.core with
  | decimal _ => true
  | _ => false

/-- Whether a value is not a number, of either sort. -/
def isNowhere (v : Value) : Bool :=
  match v.core with
  | number (.nan _) | decimal (.notANumber ..) => true
  | _ => false

/-- Whether two values cannot be ordered because a decimal is one of them and one of them is not a
number.  Numbers of other sorts can: they come neither before nor after. -/
def areUnordered (v w : Value) : Bool :=
  (v.isDecimal || w.isDecimal) && (v.isNowhere || w.isNowhere)

/-- The order of two numbers, given as a test of their points. -/
def compare? (symbol : String) (test : Extended → Extended → Bool) (v w : Value) :
    Attempt Bool :=
  match v.core.point?, w.core.point? with
  | some x, some y =>
    if areUnordered v w then Attempt.fail (.decimal .invalid)
    else .ok (test x y)
  | _, _ => Attempt.fail (.unordered symbol v.operandName w.operandName)

/-- The remainder of a number by `m`, which is at most a hundred, as a point.  Only the remainder of
a decimal may be negative. -/
def remainder (v : Value) (m : Nat) : Attempt Extended :=
  match v.number?, v.core with
  | some n, _ =>
    match n.exact with
    | .finite q => .ok (.finite (q - m * (q / m).floor))
    | _ => .ok .nowhere
  | none, decimal d => do return ((decimal (← ofDecimal (d.remainder m))).point?).getD .nowhere
  | none, _ => Attempt.fail (.unsupported "%" v.operandName "int")

/-! ## Conversions -/

/-- The integer part of a number, or the integer that a text writes. -/
def toInteger (v : Value) : Attempt Int :=
  match v.number? with
  | some n => Attempt.ofNumber n.truncate
  | none =>
    let read (s : String) (written : String) : Attempt Int :=
      match Radix.readLiteral? 10 s with
      | some n => .ok n
      | none => Attempt.fail (.badLiteral 10 written)
    match v.core with
    | text s => read s (Text.literal s)
    | bytes bs => read (Text.ofBytes bs) (Text.bytesLiteral bs)
    | decimal (.infinite _) => Attempt.fail (.number .infinityToInteger)
    | decimal d =>
      match d.toRat? with
      | some q => .ok (q.num.tdiv q.den)
      | none => Attempt.fail (.number .nanToInteger)
    | _ => Attempt.fail (.notNumber "int()" v.operandName)

/-- The integer that a text writes in a radix that is given too. -/
def toIntegerIn (v radix : Value) : Attempt Int :=
  match radix.integer? with
  | none => Attempt.fail (.notInteger radix.operandName)
  | some r =>
    let read (s : String) (written : String) : Attempt Int :=
      if r = 0 || (2 ≤ r && r ≤ 36) then
        match Radix.readLiteral? r.toNat s with
        | some n => .ok n
        | none => Attempt.fail (.badLiteral r.toNat written)
      else Attempt.fail (.badLiteral r.toNat written)
    match v.core with
    | text s => read s (Text.literal s)
    | bytes bs => read (Text.ofBytes bs) (Text.bytesLiteral bs)
    | _ => Attempt.fail (.notNumber "int()" v.operandName)

/-- The number that a text writes. -/
def readFloat (mark : Nat) (s written : String) : Attempt Value :=
  match FloatReading.read? (Text.numeral s) with
  | some (.number x) => .ok (number (.float x))
  | some .notANumber => .ok (number (.nan mark))
  | none => Attempt.fail (.badFloat written)

/-- The number nearest to a number, or the one that a text writes. -/
def toFloat (mark : Nat) (v : Value) : Attempt Value :=
  match v.number? with
  | some n => do return number (Number.ofFloat? mark (← Attempt.ofNumber n.toFloat?))
  | none =>
    match v.core with
    | text s => readFloat mark s (Text.literal s)
    | bytes bs => readFloat mark (Text.ofBytes bs) (Text.bytesLiteral bs)
    | decimal (.infinite s) => .ok (number (.float (.infinite s)))
    | decimal d =>
      match d.toRat? with
      | some q => .ok (number (.float (Binary64.ofRat d.isNegative q)))
      | none =>
        if d.isSignaling then Attempt.fail (.number .nanToInteger)
        else .ok (number (.nan mark))
    | _ => Attempt.fail (.notNumber "float()" v.operandName)

/-! ## Small laws -/

@[simp] theorem plus_text (mark : Nat) (s t : String) :
    plus mark (text s) (text t) = .ok (text (s ++ t)) := rfl

@[simp] theorem plus_list (mark : Nat) (xs ys : List Value) :
    plus mark (list xs) (list ys) = .ok (list (xs ++ ys)) := rfl

@[simp] theorem plus_int (mark : Nat) (m n : Int) :
    plus mark (int m) (int n) = .ok (int (m + n)) := rfl

end Value

end CheckedCurry
