import CheckedCurry.Curried.Basic
import CheckedCurry.Log.Record

/-!
# Runs

A run computes a value or ends in a fault.  On its way it gives out marks and logs.  What is logged
before a fault stays logged, also when the fault is caught.

* `Machine`: the next mark and the log.
* `Run`: computations on a machine.
* `Run.mark`, `Run.log`, `Run.attempt`: a new mark, a record, and the answer or the fault of a part.
* `Run.invoke`: a call of a curried function, given how its implementation is called.
-/

namespace CheckedCurry

/-! ## Machines -/

/-- What a run changes: the mark that the next value gets, and the log, newest record first. -/
structure Machine where
  nextMark : Nat
  threshold : Option Log.Level
  records : List Log.Record
  deriving Inhabited

namespace Machine

/-- The first mark that a run gives out; smaller ones belong to the standard functions. -/
def firstMark : Nat := 1000

/-- A machine that has done nothing yet. -/
def start (threshold : Option Log.Level) : Machine := ⟨firstMark, threshold, []⟩

/-- The machine after one mark is given out. -/
def advance (m : Machine) : Machine := { m with nextMark := m.nextMark + 1 }

/-- The machine after a record, which is kept if its level passes. -/
def write (m : Machine) (r : Log.Record) : Machine :=
  if r.level.passes m.threshold then { m with records := r :: m.records } else m

/-- The log, oldest record first. -/
def log (m : Machine) : List Log.Record := m.records.reverse

end Machine

/-! ## Runs -/

/-- A computation that may end in a fault and that changes a machine in either case. -/
abbrev Run := ExceptT (Fault Value) (StateM Machine)

/-- How a value is called with arguments. -/
abbrev Call := Value → List Value → Run Value

namespace Run

/-- A mark that no value has yet. -/
def mark : Run Nat := fun m => (.ok m.nextMark, m.advance)

/-- A record is logged. -/
def log (r : Log.Record) : Run Unit := fun m => (.ok (), m.write r)

/-- A computation that changes nothing. -/
def ofAttempt {α : Type} (x : Attempt α) : Run α := fun m => (x, m)

/-- The end in a fault with a basic cause. -/
def fail {α : Type} (cause : Cause) : Run α := ofAttempt (Attempt.fail cause)

/-- The answer of a run, or its fault.  Calls that are nested too deep end the whole run, so that
more depth never changes an answer. -/
def attempt {α : Type} (x : Run α) : Run (Except (Fault Value) α) := fun m =>
  match x m with
  | (.error f, m) => if f.isTooDeep then (.error f, m) else (.ok (.error f), m)
  | (.ok a, m) => (.ok (.ok a), m)

/-- A check; the note of a rejection is logged. -/
def ofChecked {α : Type} : Checked α → Run α
  | .ok a => pure a
  | .error ⟨none, f⟩ => throw f
  | .error ⟨some note, f⟩ => do
    log (.plain Log.checks .debug note)
    throw f

/-- A value that needs a new mark. -/
def marked (make : Nat → Value) : Run Value := do return make (← mark)

/-! ## Calls of curried functions -/

/-- A call of a curried function (`CurriedFunction.__call__`).  As long as a slot is open the answer
is the function with its new slots; otherwise the implementation is called and its result is
checked. -/
def invoke [Host] (call : Call) (c : Curried) (arguments : List Value) : Run Value := do
  let slots ← ofChecked (c.supply? arguments)
  if Curried.isSaturated slots then
    -- the result is checked with all arguments in place
    let result ← call c.implementation slots
    ofChecked (c.checkResult slots result)
    return result
  else marked ({ c with slots := slots } : Curried).toValue

/-! ## Small laws -/

@[simp] theorem ofAttempt_ok {α : Type} (a : α) (m : Machine) :
    ofAttempt (.ok a) m = (.ok a, m) := rfl

@[simp] theorem ofChecked_ok {α : Type} (a : α) (m : Machine) :
    ofChecked (.ok a) m = (.ok a, m) := rfl

@[simp] theorem mark_apply (m : Machine) : mark m = (.ok m.nextMark, m.advance) := rfl

end Run

end CheckedCurry
