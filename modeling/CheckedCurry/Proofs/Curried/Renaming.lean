import CheckedCurry.Proofs.Run.Lockstep
import CheckedCurry.Proofs.Signature.Renaming

/-!
# Type variables count only by identity

The type variables of a function are replaced by others, one to one.  Every chain of calls then goes
as before: what is written differs, and nothing else.

- `Curried.SameButVariables`: the outcomes of a chain before and after.
- `variables_by_identity`: the law.
-/

namespace CheckedCurry

/-- The machine after a check has made a note, if it has made one. -/
def Machine.noted (m : Machine) : Option String → Machine
  | some note => m.write (.plain Log.checks .debug note)
  | none => m

namespace Curried

open Signature (OneToOne)

theorem ofChecked_eq_noted {α : Type} (note : Option String) (fault : Fault Value) (m : Machine) :
    (Run.ofChecked (.error ⟨note, fault⟩) : Run α) m = (.error fault, m.noted note) := by
  cases note <;> rfl

/-- The outcomes of a chain of calls on two functions of which the second has other variables: the
same; or partial applications with the same slots, on one machine; or errors of one class with the
same fields, where both checks have made a note or neither has. -/
inductive SameButVariables (c d : Curried) :
    Except (Fault Value) Value × Machine → Except (Fault Value) Value × Machine → Prop
  | same (outcome : Except (Fault Value) Value × Machine) : SameButVariables c d outcome outcome
  | applied (slots : List Value) (mark : Nat) (m : Machine) :
    SameButVariables c d (.ok (({ c with slots := slots } : Curried).toValue mark), m)
      (.ok (({ d with slots := slots } : Curried).toValue mark), m)
  | raised {fault fault' : Fault Value} {note note' : Option String}
    (errorClass : fault.errorClass = fault'.errorClass) (fields : fault.fields = fault'.fields)
    (notes : note.isSome = note'.isSome) (m : Machine) :
    SameButVariables c d (.error fault, m.noted note) (.error fault', m.noted note')

theorem sameButVariables_of_parallel {c d : Curried}
    {o o' : Except (Fault Value) Value × Machine}
    (h : Run.Parallel c d Signature.SameError o o') : SameButVariables c d o o' := by
  cases h with
  | same => exact .same _
  | applied slots mark m => exact .applied slots mark m
  | @rejected p q hpq m =>
    obtain ⟨note, fault⟩ := p
    obtain ⟨note', fault'⟩ := q
    obtain ⟨hnotes, hclass, hfields⟩ := hpq
    rw [ofChecked_eq_noted, ofChecked_eq_noted]
    exact .raised hclass hfields hnotes m

/-- **Type variables count only by identity.**  Let the variables of a signature be replaced by
others, one to one; two of the new ones may be written alike.

A chain of calls on a function with the one signature goes as the same chain on the function with
the other one.  After each call both have come to the same answer, or to partial applications with
the same slots, or they have raised at the same call errors of one class with the same fields.
What is written is all that differs: the signature, the message, and the note in the log. -/
theorem variables_by_identity [Host] (s : Signature) (ρ : TypeVar → TypeVar)
    (h : OneToOne ρ s.typeVariables) (f : Value) (environment : Option (List Ty)) (call : Call)
    (mark : Nat) (groups : List (List Value)) (m : Machine) :
    SameButVariables (fresh s f environment) (fresh (s.rename ρ) f environment)
      (Run.calls (Run.step call) ((fresh s f environment).toValue mark) groups m)
      (Run.calls (Run.step call) ((fresh (s.rename ρ) f environment).toValue mark) groups m) := by
  have twins : Twins (fresh s f environment) (fresh (s.rename ρ) f environment) := by
    refine ⟨rfl, ?_, rfl, s.arity_rename⟩
    rw [fresh, fresh, s.arity_rename]
  refine sameButVariables_of_parallel (Run.parallel_calls twins mark ?_)
  intro slots index v _
  cases environment with
  | none => exact .ok ()
  | some environment => exact Signature.checkArgument_rename h slots index

/-- Two variables get one name.  A capability is still required of the second alone, and values of
different kinds may still stand for the two. -/
theorem variables_by_identity_with_one_name : letI : Host := .bare
    let a : TypeVar := ⟨"a", .given 0⟩
    let b : TypeVar := ⟨"b", .given 1⟩
    let ρ : TypeVar → TypeVar := fun v => ⟨"x", v.stamp⟩
    let s : Signature := ⟨"f", [.var a, .var b], .anything, [(b, [.ofOperation .concat])]⟩
    let f := Value.constant 0 .null (.fixed 2)
    let run := fun (s : Signature) (groups : List (List Value)) =>
      Run.calls (Run.step Run.call) ((fresh s f (some Ty.environment)).toValue 0) groups
        (.start none)
    OneToOne ρ s.typeVariables ∧ (s.rename ρ).text = "f :: concat x => x -> x -> Any" ∧
    SameButVariables (fresh s f (some Ty.environment)) (fresh (s.rename ρ) f (some Ty.environment))
      (run s [[.int 1], [.int 2]]) (run (s.rename ρ) [[.int 1], [.int 2]]) ∧
    (run (s.rename ρ) [[.int 1], [.int 2]]).1.mapError (·.fields) =
      .error [("name", .text "f"), ("capability", .text "concat"), ("value", .int 2)] ∧
    (run (s.rename ρ) [[.int 1], [.text "y"]]).1 = .ok .null := by
  let _ : Host := .bare
  intro a b ρ s f run
  have hvariables : OneToOne ρ s.typeVariables := by
    intro v hv w hw hvw
    have hstamp : (ρ v).stamp = (ρ w).stamp := by rw [hvw]
    have hmem {v : TypeVar} (hv : v ∈ s.typeVariables) : v = a ∨ v = b := by
      simpa [s, Signature.typeVariables, Signature.types, Ty.varsOfAll, Ty.vars, Ty.anything] using hv
    rcases hmem hv with rfl | rfl <;> rcases hmem hw with rfl | rfl
    · rfl
    · cases hstamp
    · cases hstamp
    · rfl
  exact ⟨hvariables, rfl, variables_by_identity s ρ hvariables f _ Run.call 0 _ _, rfl, rfl⟩

end Curried

end CheckedCurry
