import CheckedCurry.Capability.Meaning
import CheckedCurry.Catalog.Types
import CheckedCurry.Number.Radix
import CheckedCurry.Run.Basic
import CheckedCurry.Text.Bytes
import CheckedCurry.Text.Letters
import CheckedCurry.Ty.Representative
import CheckedCurry.Value.Parity

/-!
# What the standard functions do

The functions below see their arguments as they come: whether arguments are checked is decided by
the curried function around them.  Functions that call others are given how values are called.

* `Standard.run`: a standard function on its arguments.
-/

namespace CheckedCurry

variable [Host]

namespace Value

/-! ## Logic -/

/-- The second value if the first counts as true, otherwise the first (`_and`). -/
def both (v w : Value) : Attempt Value := do
  return if (← v.asBoolean).truth then w else v

/-- The first value if it counts as true, otherwise the second (`_or`). -/
def oneOf (v w : Value) : Attempt Value := do
  return if (← v.asBoolean).truth then v else w

/-- The value that counts as true, if it is only one, otherwise an empty value (`_xor`). -/
def exclusive (v w : Value) : Attempt Value := do
  let first ← v.asBoolean
  let second ← w.asBoolean
  if ← equals first second then
    if v.supports .empty then v.emptyLike else v.lacks .empty
  else return if first.truth then v else w

/-! ## Reading from values -/

/-- An optional value: present if it has passed a test. -/
def presentIf (passes : Bool) (v : Value) : Value := if passes then just v else nothing

/-- What a value holds under a name, if the representative admits it (`_get`). -/
def get (representative name v : Value) : Attempt Value := do
  let found ← v.property name
  return presentIf (← representative.admits found) found

/-- What is found along names, one after the other (`_gets`); a null value on the way ends the
search. -/
def follow : List Value → Value → Attempt (Option Value)
  | [], v => .ok (some v)
  | name :: names, v =>
    if v.isNullish then .ok none
    else do follow names (← v.property name)

/-- What is found along names, if the representative admits it (`_gets`). -/
def gets (representative names v : Value) : Attempt Value := do
  match ← follow (← names.elements) v with
  | none => return nothing
  | some found => return presentIf (← representative.admits found) found

/-- The element at an index, if there are elements at all (`_head`, `_last`). -/
def itemIfAny (v : Value) (index : Int) : Attempt Value := do
  if 0 < (← v.length) then return just (← v.item index) else return nothing

/-- The contents of those optional values that are present (`_cat_maybes`). -/
def presentContents : List Value → Attempt (List Value)
  | [] => .ok []
  | v :: vs => do
    if (← v.readAttribute "is_just").truth then
      let content ← v.readAttribute "value"
      return content :: (← presentContents vs)
    else presentContents vs

/-! ## Texts and numbers -/

/-- The integers from one number up to another (`_range`). -/
def between (v w : Value) : Attempt Value := do
  let first ← v.toInteger
  let last ← w.toInteger
  let p : Progression := ⟨first, last, 1⟩
  checkCount p.length
  return list (p.elements.map int)

/-- The integer that a text writes in a radix, if it is nothing but a number of that radix
(`_parse_int`). -/
def parseInt (radix v : Value) : Attempt Value := do
  let fromTwo ← compare? "<=" Extended.le (int 2) radix
  let isRadix ← if fromTwo then compare? "<=" Extended.le radix (int 36) else pure false
  if !isRadix then throw (.misuse .radix)
  let r ← radix.toInteger
  match v.core with
  | text s =>
    if Radix.isPlain r.toNat s then return just (int (← v.toIntegerIn (int r)))
    else return nothing
  | _ => Attempt.fail (.notText v.className)

end Value

namespace Standard

open Run

/-! ## Methods -/

/-- The methods that a class has for its values. -/
def methodsOf : Class → List String
  | .string | .bytes => ["lower", "upper", "strip", "split"]
  | .map | .mapping => ["keys", "values"]
  | .maybe => ["get_or_else"]
  | _ => []

/-- A method of a value of no sort that the method is made for: an attribute is called.  A class has
the methods of its values, but they need a value; a pattern splits a text that it is given. -/
def method (call : Call) (v : Value) (name : String) (arguments : List Value) : Run Value :=
  match v with
  | .cls c =>
    if (methodsOf c).contains name then fail (.argumentCount name)
    else fail (.noAttribute v.className name)
  | .pattern _ =>
    if name = "split" then fail (.argumentCount name) else fail (.noAttribute v.className name)
  | v => do call (← ofAttempt (v.readAttribute name)) arguments

/-- A function of texts and bytes. -/
def onText (call : Call) (name : String) (ofText : String → Value) (ofBytes : List UInt8 → Value)
    (v : Value) : Run Value :=
  match v.core with
  | .text s => pure (ofText s)
  | .bytes bs => pure (ofBytes bs)
  | _ => method call v name []

/-- The keys of a map (`_keys`). -/
def keysOf (call : Call) : Value → Run Value
  | .map es => pure (.list (es.map (·.1)))
  | v => do return .list (← ofAttempt (← method call v "keys" []).elements)

/-- The values of a map (`_values`). -/
def valuesOf (call : Call) : Value → Run Value
  | .map es => pure (.list (es.map (·.2)))
  | v => do return .list (← ofAttempt (← method call v "values" []).elements)

/-- The content of an optional value, or a default (`_from_maybe`). -/
def contentOr (call : Call) (default : Value) : Value → Run Value
  | .just v => pure v
  | .nothing => pure default
  | v => method call v "get_or_else" [default]

/-! ## Functions that call others -/

/-- What the record of a caught fault says. -/
def caughtNote (f x : Value) : Attempt String := do
  let function ← f.literal
  return "encase: " ++ function ++ " raised for " ++ (← x.literal)

/-- The answer of a call, or nothing if the call ends in a fault, which is logged if its note can be
written (`_encase`). -/
def encased (call : Call) (f x : Value) : Run Value := do
  match ← Run.attempt (call f [x]) with
  | .ok v => return .just v
  | .error e =>
    match caughtNote f x with
    | .ok note => log ⟨Log.catalog, .debug, note, some e.errorClass.qualifiedName⟩
    | .error _ => pure ()
    return .nothing

/-- The answer of a call as a success, or what `f` makes of its fault as a failure
(`_encase_either`). -/
def encasedEither (call : Call) (f g x : Value) : Run Value := do
  match ← Run.attempt (call g [x]) with
  | .ok v => return .right v
  | .error e =>
    let caught ← marked fun mark => .error mark e
    return .left (← call f [caught])

/-- The contents of the optional values that a function answers for each value (`_map_maybe`). -/
def mapped (call : Call) (f : Value) : List Value → Run (List Value)
  | [] => pure []
  | x :: xs => do
    let m ← call f [x]
    if (← ofAttempt (m.readAttribute "is_just")).truth then
      let content ← ofAttempt (m.readAttribute "value")
      return content :: (← mapped call f xs)
    else mapped call f xs

/-- What a function makes of a content, or a default (`_maybe`). -/
def folded (call : Call) (default f m : Value) : Run Value := do
  if (← ofAttempt (m.readAttribute "is_just")).truth then
    call f [← ofAttempt (m.readAttribute "value")]
  else return default

/-- What one of two functions makes of the content of a failure or a success (`_either`). -/
def chosen (call : Call) (f g e : Value) : Run Value := do
  let isRight ← ofAttempt (e.readAttribute "is_right")
  let content ← ofAttempt (e.readAttribute "value")
  call (if isRight.truth then g else f) [content]

/-! ## All functions -/

/-- A standard function on its arguments. -/
def run (call : Call) : Standard → List Value → Run Value
  | identity, [x] => pure x
  | constant, [x, _] => pure x
  | apply, [f, x] => call f [x]
  | thrush, [x, f] => call f [x]
  | compose, [f, g, x] => do call f [← call g [x]]
  | flip, [f, x, y] => call f [y, x]
  | add, [x, y] => do ofAttempt (Value.plus (← mark) x y)
  | sub, [x, y] => do ofAttempt (Value.minus (← mark) x y)
  | mult, [x, y] => do ofAttempt (Value.times (← mark) x y)
  | inc, [x] => do ofAttempt (Value.plus (← mark) x (.int 1))
  | dec, [x] => do ofAttempt (Value.minus (← mark) x (.int 1))
  | negate, [x] => do ofAttempt (Value.negative (← mark) x)
  | odd, [n] => do return .bool !(← ofAttempt n.isEven)
  | even, [n] => do return .bool (← ofAttempt n.isEven)
  | range, [m, n] => ofAttempt (m.between n)
  | toLower, [s] =>
    onText call "lower" (fun s => .text (Text.lower s)) (fun s => .bytes (Text.Bytes.lower s)) s
  | toUpper, [s] =>
    onText call "upper" (fun s => .text (Text.upper s)) (fun s => .bytes (Text.Bytes.upper s)) s
  | trim, [s] =>
    onText call "strip" (fun s => .text (Text.trim s)) (fun s => .bytes (Text.Bytes.trim s)) s
  | words, [s] =>
    onText call "split" (fun s => .list ((Text.words s).map .text))
      (fun s => .list ((Text.Bytes.words s).map .bytes)) s
  | keys, [m] => keysOf call m
  | values, [m] => valuesOf call m
  | head, [xs] => ofAttempt (xs.itemIfAny 0)
  | last, [xs] => ofAttempt (xs.itemIfAny (-1))
  | get, [t, name, x] => ofAttempt (Value.get t name x)
  | gets, [t, names, x] => ofAttempt (Value.gets t names x)
  | and, [x, y] => ofAttempt (x.both y)
  | or, [x, y] => ofAttempt (x.oneOf y)
  | xor, [x, y] => ofAttempt (x.exclusive y)
  | not, [x] => pure (.bool !x.truth)
  | concat, [x, y] => do ofAttempt (Value.perform (← mark) .concat x [y])
  | equals, [x, y] => do return .bool (← ofAttempt (Value.perform 0 .equals x [y])).truth
  | isNothing, [m] => ofAttempt (m.readAttribute "is_nothing")
  | isJust, [m] => ofAttempt (m.readAttribute "is_just")
  | fromMaybe, [default, m] => contentOr call default m
  | Standard.maybe, [default, f, m] => folded call default f m
  | toMaybe, [x] => pure (Value.presentIf (!x.isNullish) x)
  | mapMaybe, [f, xs] => do return .list (← mapped call f (← ofAttempt xs.elements))
  | catMaybes, [ms] => do
    return .list (← ofAttempt (do Value.presentContents (← ms.elements)))
  | encase, [f, x] => encased call f x
  | isLeft, [e] => ofAttempt (e.readAttribute "is_left")
  | isRight, [e] => ofAttempt (e.readAttribute "is_right")
  | Standard.either, [f, g, e] => chosen call f g e
  | encaseEither, [f, g, x] => encasedEither call f g x
  | parseInt, [radix, s] => ofAttempt (Value.parseInt radix s)
  | is, [t, x] => do return .bool (← ofAttempt (t.admits x))
  | type, [x] => pure (.identifier x.describe)
  | display, [x] => do return .text (← ofAttempt x.display)
  | s, _ => fail (.argumentCount s.name)

/-! ## Small laws -/

@[simp] theorem run_identity (call : Call) (x : Value) : identity.run call [x] = pure x := rfl

@[simp] theorem run_constant (call : Call) (x y : Value) :
    constant.run call [x, y] = pure x := rfl

@[simp] theorem run_apply (call : Call) (f x : Value) : apply.run call [f, x] = call f [x] := rfl

@[simp] theorem run_thrush (call : Call) (f x : Value) :
    thrush.run call [x, f] = call f [x] := rfl

@[simp] theorem run_flip (call : Call) (f x y : Value) :
    flip.run call [f, x, y] = call f [y, x] := rfl

end Standard

end CheckedCurry
