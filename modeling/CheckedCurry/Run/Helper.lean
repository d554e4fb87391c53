import CheckedCurry.Run.Basic
import CheckedCurry.Text.Letters
import CheckedCurry.Value.Parity

/-!
# What plain functions do

* `Helper.run`: a plain function on its arguments.
* `Value.greatest`: the greatest of several values.
-/

namespace CheckedCurry

variable [Host]

namespace Value

/-- Whether a value without elements comes after another one: numbers by value, texts and bytes by
their parts, moments of one sort in time, durations by their length. -/
def leafExceeds (v w : Value) : Attempt Bool :=
  match v.core, w.core with
  | text s, text t => .ok (t < s)
  | bytes bs, bytes cs => .ok (cs.map UInt8.toNat < bs.map UInt8.toNat)
  | moment m, moment n =>
    match m.exceeds? n with
    | some isLater => .ok isLater
    | none => Attempt.fail (.unordered ">" v.operandName w.operandName)
  | duration d, duration e => .ok (e.micros < d.micros)
  | _, _ => compare? ">" (fun x y => y.lt x) v w

/-- Whether two elements count as one when sequences are compared. -/
def sameElement (v w : Value) : Attempt Bool := if sameKey v w then .ok true else equals v w

/-- Whether the elements of an identifier come after other elements. -/
def leavesExceed : List Value → List Value → Attempt Bool
  | [], _ => .ok false
  | _ :: _, [] => .ok true
  | v :: vs, w :: ws => do
    if ← sameElement v w then leavesExceed vs ws else leafExceeds v w

mutual

/-- Whether a value comes after another one; sequences of one sort are compared at their first
difference. -/
def exceeds : Value → Value → Attempt Bool
  | list vs, w =>
    match w.core with
    | list ws => elementsExceed vs ws
    | _ => leafExceeds (list vs) w
  | object shape attrs (some (.list vs)), w =>
    match w.core with
    | list ws => elementsExceed vs ws
    | _ => leafExceeds (object shape attrs (some (.list vs))) w
  | deque vs, w =>
    match w with
    | deque ws => elementsExceed vs ws
    | _ => leafExceeds (deque vs) w
  | tuple vs, w =>
    match w.tuple? with
    | some ws => elementsExceed vs ws
    | none => leafExceeds (tuple vs) w
  | identifier i, w =>
    match w.tuple? with
    | some ws => leavesExceed (identifierItems i) ws
    | none => leafExceeds (identifier i) w
  | v, w => leafExceeds v w

/-- Whether elements come after other elements: at the first difference, or because there are
more. -/
def elementsExceed : List Value → List Value → Attempt Bool
  | [], _ => .ok false
  | _ :: _, [] => .ok true
  | v :: vs, w :: ws => do
    if ← sameElement v w then elementsExceed vs ws else exceeds v w

end

/-- The greatest of several values, the first one of them if there are equal ones. -/
def greatest (best : Value) : List Value → Attempt Value
  | [] => .ok best
  | v :: vs => do greatest (if ← exceeds v best then v else best) vs

/-- The greatest of the arguments, or of the elements of a single one. -/
def greatestOf : List Value → Attempt Value
  | [] => Attempt.fail (.argumentCount "max")
  | [v] => do
    match ← v.elements with
    | [] => Attempt.fail .noElements
    | w :: ws => greatest w ws
  | v :: vs => greatest v vs

/-- Half of a number, rounded down. -/
def half (mark : Nat) (v : Value) : Attempt Value :=
  match v.number?, v.decimal? with
  | some (.int n), _ => .ok (int (n.fdiv 2))
  | some (.ratio q), _ => .ok (int (q / 2).floor)
  | some n, _ => do return number (← Attempt.ofNumber (n.mul mark (.float (.ofRatio false 1 2))))
  | none, some d => decimal <$> ofDecimal d.half
  | none, none => Attempt.fail (.unsupported "//" v.operandName "int")

/-- The product of the numbers from two up to a number. -/
def factorial (v : Value) : Attempt Value := do
  if ← compare? "<" Extended.lt v (int 0) then throw (.misuse .negativeFactorial)
  match v.integer? with
  | some n => return int ((List.range (n.toNat - 1)).foldl (fun p k => p * (k + 2 : Nat)) 1)
  | none => Attempt.fail (.notInteger v.operandName)

/-- The number of elements, counted also for texts. -/
def size (v : Value) : Attempt Value := do return nat (← v.length)

end Value

namespace Helper

open Run

/-- A plain function on its arguments. -/
def run : Helper → List Value → Run Value
  | identity, [x] => pure x
  | first, [x, _] => pure x
  | second, [_, y] => pure y
  | pair, [x, y] => pure (.list [x, y])
  | tuple, [x, y] => pure (.tuple [x, y])
  | just, [x] | makeJust, [x] => pure (.just x)
  | nothing, [_] => pure .nothing
  | left, [x] | makeLeft, [x] => pure (.left x)
  | right, [x] | makeRight, [x] => pure (.right x)
  | double, [x] => do ofAttempt (Value.times (← mark) x (.int 2))
  | half, [n] => do
    if ← ofAttempt n.isEven then return .just (← ofAttempt (n.half (← mark))) else return .nothing
  | message, [e] => do return .text (← ofAttempt e.plain)
  | kind, [e] => pure (.text e.className)
  | factorial, [n] => ofAttempt n.factorial
  | length, [xs] => ofAttempt xs.size
  | maximum, arguments => ofAttempt (Value.greatestOf arguments)
  | upper, [s] =>
    match s.core with
    | .text s => pure (.text (Text.upper s))
    | _ => fail (.wrongReceiver "upper" s.className)
  | h, _ => fail (.argumentCount h.name)

end Helper

end CheckedCurry
