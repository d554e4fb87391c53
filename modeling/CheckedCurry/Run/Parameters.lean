import CheckedCurry.Catalog.Types
import CheckedCurry.Value.Basic

/-!
# How many arguments a value takes

* `Value.parameters?`: the parameters of a value that can be called, if they can be found out.  A
  curried function has those of the function it wraps, and a method those behind the first.
* `Value.parameterCount?`: the number of positional parameters without a default, if it is fixed and
  known.
-/

namespace CheckedCurry

/-- The parameters that are left when the first argument is given.  A function without a place for one
is no method. -/
def Parameter.afterFirst? : List Parameter → Option (List Parameter)
  | [] => none
  | p :: ps =>
    if p.isPositional then some ps
    else if p.isVariadic then some (p :: ps)
    else none

namespace Class

/-- The parameters of a class, if they are known. -/
def parameters? : Class → Option (List Parameter)
  | float | list | tuple => some [⟨.place, true⟩]
  | object | placeholder | anyNumber | realNumber | mapping | marker _ => some []
  | error c => if c.isLibrary then some (Parameters.fixed 1).list else none
  | _ => none

end Class

namespace Value

/-- The parameters of a value that can be called, if they can be found out (`inspect.signature`). -/
def parameters? : Value → Option (List Parameter)
  | curried _ _ implementation _ _ => implementation.parameters?
  | standard s => some (Parameters.fixed s.arity).list
  | helper h => h.arity?.map fun n => (Parameters.fixed n).list
  | constant _ _ ps => some ps.list
  | failing _ _ _ ps => some ps.list
  | collecting _ ps => some ps.list
  | bound f _ => f.parameters?.bind Parameter.afterFirst?
  | cls c => c.parameters?
  | constructor c => some (Parameters.fixed c.extracts.length).list
  | type _ (.representative _) => some (Parameters.fixed 1).list
  | object shape _ _ => if shape.callable then some (Parameters.fixed 1).list else none
  | _ => none

/-- The number of positional parameters without a default, if it can be told (`_arity`). -/
def parameterCount? (v : Value) : Option Nat := v.parameters?.bind Parameter.count?

@[simp] theorem parameterCount?_curried (mark : Nat) (s : Signature) (f : Value)
    (e : Option (List Ty)) (slots : List Value) :
    (curried mark s f e slots).parameterCount? = f.parameterCount? := by
  simp [parameterCount?, parameters?]

end Value

end CheckedCurry
