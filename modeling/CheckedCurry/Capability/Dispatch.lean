import CheckedCurry.Run.Basic

/-!
# Capabilities of a program

A program may bring capabilities of its own: functions that are chosen by the unifier of their first
argument.

* `Dispatch`: a name, and the function for each unifier.
* `Dispatch.perform`: the function for the first argument is called.
-/

namespace CheckedCurry

variable [Host]

/-- A capability with the function for each kind or identifier. -/
structure Dispatch where
  name : String
  instances : List (String × Value)

namespace Dispatch

/-- A capability that supports nothing. -/
def empty (name : String) : Dispatch := ⟨name, []⟩

/-- The same capability with a function for more kinds or identifiers (`Capability.register`).  A
later function takes the place of an earlier one. -/
def register (d : Dispatch) (keys : List String) (f : Value) : Dispatch :=
  { d with instances := d.instances.filter (fun i => !keys.contains i.1) ++
      keys.eraseDups.map fun key => (key, f) }

/-- The kinds and identifiers that are supported, in order (`Capability.observed_types`). -/
def supported (d : Dispatch) : List String :=
  (d.instances.map (·.1)).mergeSort fun s t => s ≤ t

/-- The capability as signatures require it. -/
def toCapability (d : Dispatch) (mark : Nat) : Capability := ⟨d.name, mark, d.supported⟩

/-- Whether a value is supported (`Capability.supports`). -/
def supports (d : Dispatch) (v : Value) : Bool := (d.instances.lookup v.unifier).isSome

/-- The function for a value is called (`Capability.resolve`). -/
def perform (call : Call) (d : Dispatch) (v : Value) (rest : List Value) : Run Value :=
  match d.instances.lookup v.unifier with
  | some f => call f (v :: rest)
  | none => do throw (.capability (← Run.ofAttempt v.display) d.name)

end Dispatch

end CheckedCurry
