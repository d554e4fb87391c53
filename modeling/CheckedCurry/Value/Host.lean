import CheckedCurry.Value.Basic

/-!
# What a library runs in

The library runs on a machine and is used by a program.  Neither is known to it: how much memory there
is, what the tests and extractions do that the program makes types of, and which methods the classes
have that are built in.

* `Host`: a machine with a program.
* `Host.bare`: a machine whose program has no types of its own.
* `Attempt.ofHost`: an answer of the program.
* `Value.checkCount`: whether a sequence can be made of a number of elements.
-/

namespace CheckedCurry

/-- The names under which optional values, failures and successes hold what they are.  No built-in
class has a method of such a name. -/
def Value.familyNames : List String :=
  ["is_nothing", "is_just", "is_left", "is_right", "value", "__type_identifier__"]

/-- A machine with a program.  The tests and extractions of the program may fail, but raise no error of
the library. -/
class Host where
  /-- Sequences of so many elements do not fit into memory. -/
  room : Nat
  /-- How many calls may be open besides those for values inside values. -/
  stack : Nat
  /-- What a test answers for a value. -/
  test : Nat → Value → Except Cause Bool
  /-- What an extraction answers for a value. -/
  extract : Nat → Value → Except Cause Value
  /-- The method that a value of a built-in class has under a name. -/
  method? : Value → String → Option Value
  method?_familyName : ∀ v, ∀ name ∈ Value.familyNames, method? v name = none

namespace Host

/-- A machine whose program has no types of its own. -/
@[reducible] def bare : Host where
  room := Nat.pow 2 31
  stack := 1000
  test _ _ := .ok false
  extract _ _ := .ok (.list [])
  method? _ _ := none
  method?_familyName _ _ _ := rfl

end Host

/-- An answer of the program. -/
def Attempt.ofHost {α : Type} : Except Cause α → Attempt α
  | .ok a => .ok a
  | .error cause => fail cause

namespace Value

/-- A number of elements as large as this is not told; only progressions have so many. -/
def countBound : Nat := Nat.pow 2 63

/-- A sequence can be made of so many elements. -/
def checkCount [Host] (count : Nat) : Attempt Unit :=
  if countBound ≤ count then Attempt.fail .uncountable
  else if Host.room ≤ count then Attempt.fail .tooLong
  else .ok ()

end Value

end CheckedCurry
