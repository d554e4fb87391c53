import CheckedCurry.Run.Basic
import CheckedCurry.Value.Arithmetic

/-!
# Calls of classes and of types

A class that is called makes a value of the class; a type constructor that is called makes a type.

* `Class.make`: the value that a class makes of arguments.
* `Constructor.make`: the type that a constructor makes of types.
-/

namespace CheckedCurry

variable [Host]

namespace Value

/-- The two elements of a value that is an entry of a map. -/
def asEntry (v : Value) : Attempt (Value × Value) := do
  match ← v.elements with
  | [k, w] =>
    let _ ← k.key
    return (k, w)
  | _ => Attempt.fail .notEntry

/-- A map of the entries of a map, or of the pairs that an iteration meets. -/
def toMap (v : Value) : Attempt Value :=
  match v with
  | map es => .ok (map es)
  | v => do return mapOf (← (← v.elements).mapM asEntry)

/-- The bytes that an iteration meets as integers, or that many zeros. -/
def toBytes (v : Value) : Attempt Value :=
  match v.core, v.integer? with
  | bytes bs, _ => .ok (bytes bs)
  | _, some n =>
    if n < -countBound then Attempt.fail .uncountable
    else if n < 0 then Attempt.fail .negativeCount
    else do
      checkCount n.toNat
      return bytes (List.replicate n.toNat 0)
  | text _, _ => Attempt.fail (.argumentCount "bytes")
  | _, none => do
    let ns ← (← v.elements).mapM fun w =>
      match w.integer? with
      | some n => if 0 ≤ n && n < 256 then .ok (UInt8.ofNat n.toNat) else Attempt.fail .notByte
      | none => Attempt.fail (.notInteger w.operandName)
    return bytes ns

end Value

open Run

namespace Class

/-- The error of a class with its arguments.  Errors of the library have exactly a message. -/
def makeError (c : ErrorClass) (arguments : List Value) : Run Value :=
  if c.isLibrary && arguments.length != 1 then fail (.argumentCount c.name)
  else marked fun mark => .error mark (.made c arguments)

/-- A new object of a class without attributes. -/
def makeObject (c : Class) : Run Value :=
  marked fun mark => .object ⟨mark, c.name, .none, "<" ++ c.name ++ " object>", none, false⟩ [] none

/-- The value that a class makes of arguments. -/
def make : Class → List Value → Run Value
  | int, [] => pure (.int 0)
  | int, [v] => do return .int (← ofAttempt v.toInteger)
  | int, [v, radix] => do return .int (← ofAttempt (v.toIntegerIn radix))
  | float, [] => pure (.number (.float (.zero false)))
  | float, [v] => do ofAttempt (Value.toFloat (← mark) v)
  | string, [] => pure (.text "")
  | string, [v] => do return .text (← ofAttempt v.plain)
  | bool, [] => pure .no
  | bool, [v] => pure (.bool v.truth)
  | list, [] => pure (.list [])
  | list, [v] => do return .list (← ofAttempt v.spread)
  | tuple, [] => pure (.tuple [])
  | tuple, [v] => do return .tuple (← ofAttempt v.spread)
  | map, [] => pure (.map [])
  | map, [v] => ofAttempt v.toMap
  | object, [] => makeObject object
  | type, [v] => pure (.cls v.classOf)
  | bytes, [] => pure (.bytes [])
  | bytes, [v] => ofAttempt v.toBytes
  | error c, arguments => makeError c arguments
  | null, [] => pure .null
  | maybe, _ => throw (.misuse (.notInstantiable "Maybe"))
  | either, _ => throw (.misuse (.notInstantiable "Either"))
  | placeholder, [] => pure .placeholder
  | anyNumber, [] => makeObject anyNumber
  | c, _ => fail (.argumentCount c.name)

end Class

namespace Constructor

/-- The type that a value is. -/
def asType : Value → Attempt Ty
  | .type _ t => .ok t
  | v => Attempt.fail (.noAttribute v.className "layout")

/-- The type that a constructor makes of types, one for each of its parameters. -/
def make (c : Constructor) (arguments : List Value) : Run Value := do
  if arguments.length = c.extracts.length then
    let params ← ofAttempt (arguments.mapM asType)
    marked fun mark => .type (some mark) (.applied c params)
  else fail (.argumentCount c.name)

/-- The type of representatives with a parameter. -/
def makeRepresentative : List Value → Run Value
  | [v] => do
    let param ← ofAttempt (asType v)
    marked fun mark => .type (some mark) (.representative (some param))
  | _ => fail (.argumentCount "TypeRep")

end Constructor

end CheckedCurry
