import CheckedCurry.Run.Helper
import CheckedCurry.Run.Making
import CheckedCurry.Run.Standard

/-!
# Calls

* `Run.step`: what a call of a value does, given how the values inside are called.
* `Run.apply`: calls nested at most `depth` deep.
* `Run.call`: calls of values.
* `Run.readThrough`: what a value of a class is for an object of the class.
-/

namespace CheckedCurry.Run

variable [Host]

/-- The arguments of a function with optional parameters: what is not given is the text `opt`. -/
def collected (ps : Parameters) (arguments : List Value) : List Value :=
  arguments ++ List.replicate (ps.positional.length - arguments.length) (.text "opt")

/-- A call of a value, given how the values inside are called. -/
def step (call : Call) (f : Value) (arguments : List Value) : Run Value :=
  match f with
  | .curried _ signature implementation environment slots =>
    invoke call ⟨signature, implementation, environment, slots⟩ arguments
  | .standard s => s.run call arguments
  | .helper h => h.run arguments
  | .constant _ v ps =>
    if ps.takes arguments.length then pure v else fail (.argumentCount "const")
  | .failing _ c message ps =>
    if ps.takes arguments.length then throw (.made c [.text message])
    else fail (.argumentCount "fail")
  | .collecting _ ps =>
    if ps.takes arguments.length then pure (.list (collected ps arguments))
    else fail (.argumentCount "collect")
  | .bound g receiver => call g (receiver :: arguments)
  | .cls c => c.make arguments
  | .constructor c => c.make arguments
  | .type _ (.representative _) => Constructor.makeRepresentative arguments
  | .object shape _ _ =>
    match shape.callable, arguments with
    | true, [v] => pure v
    | true, _ => fail (.argumentCount shape.className)
    | false, _ => fail (.notCallable shape.className)
  | v => fail (.notCallable v.className)

/-- Calls nested at most `depth` deep. -/
def apply : Nat → Call
  | 0 => fun _ _ => fail .tooDeep
  | depth + 1 => step (apply depth)

/-- The depth to which calls may be nested. -/
def depthLimit : Nat := 5000

/-- A call of a value with arguments. -/
def call : Call := apply depthLimit

/-- A value that a class has as an attribute, read through an object of the class
(`CurriedFunction.__get__`): a function is then a method of the object, and a curried function is
called with the object. -/
def readThrough (object : Value) : Value → Run Value
  | .helper .upper => fail (.wrongReceiver "upper" object.className)
  | .helper h => pure (if h.isMethod then .bound (.helper h) object else .helper h)
  | .constant mark v ps => pure (.bound (.constant mark v ps) object)
  | .failing mark c message ps => pure (.bound (.failing mark c message ps) object)
  | .collecting mark ps => pure (.bound (.collecting mark ps) object)
  | .curried mark s f environment slots => call (.curried mark s f environment slots) [object]
  | f => pure f

/-! ## Small laws -/

@[simp] theorem apply_zero (f : Value) (arguments : List Value) :
    apply 0 f arguments = fail .tooDeep := rfl

@[simp] theorem apply_succ (depth : Nat) (f : Value) (arguments : List Value) :
    apply (depth + 1) f arguments = step (apply depth) f arguments := rfl

end CheckedCurry.Run
