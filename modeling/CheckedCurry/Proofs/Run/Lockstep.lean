import CheckedCurry.Proofs.Run.Calls
import CheckedCurry.Proofs.Signature.Verdict

/-!
# Two functions in lockstep

Two curried functions that differ only in how they check can be called side by side.  If each check
that one of them comes to ends as the same check of the other does, so does every chain of calls.

- `Curried.ComesTo`: the checks that a chain of calls comes to.
- `Curried.Twins`: functions that differ at most in how they check.
- `Run.Parallel`: the outcomes of two chains; `supply?_parallel` and `complete_parallel` are the two
  halves of one call, `parallel_calls` is a whole chain.
-/

namespace CheckedCurry

open Checked (Alike)

namespace Curried

/-! ## The checks of a chain -/

/-- A chain of calls comes to the check of a value at an index, with the slots that are filled by
then: all its checks before have passed.  The result is checked at the index after the last
parameter. -/
inductive ComesTo [Host] (call : Call) : Curried → Machine → List (List Value) →
    List Value → Nat → Value → Prop
  /-- An argument, after the arguments before it in the same call. -/
  | argument {c : Curried} {m : Machine} {arguments : List Value} {groups : List (List Value)}
    {front back : List (Nat × Value)} {slots : List Value} {index : Nat} {v : Value}
    (fits : c.hasSurplus arguments = false)
    (place : c.openSlots.zip arguments = front ++ (index, v) :: back)
    (passed : c.putAll c.slots front = .ok slots) (closed : v.isOpen = false) :
    ComesTo call c m (arguments :: groups) slots index v
  /-- The result of the implementation. -/
  | result {c : Curried} {m m₁ : Machine} {arguments : List Value} {groups : List (List Value)}
    {slots : List Value} {r : Value} (supplied : c.supply? arguments = .ok slots)
    (full : isSaturated slots = true) (answered : call c.implementation slots m = (.ok r, m₁)) :
    ComesTo call c m (arguments :: groups) slots c.signature.arity r
  /-- A check of a later call. -/
  | later {c : Curried} {m : Machine} {arguments : List Value} {groups : List (List Value)}
    {slots slots' : List Value} {index : Nat} {v : Value}
    (supplied : c.supply? arguments = .ok slots) (left : isSaturated slots = false)
    (rest : ComesTo call { c with slots := slots } m.advance groups slots' index v) :
    ComesTo call c m (arguments :: groups) slots' index v

/-- A chain that is continued comes to the same checks. -/
theorem ComesTo.append [Host] {call : Call} {c : Curried} {m : Machine} {groups : List (List Value)}
    {slots : List Value} {index : Nat} {v : Value} (h : ComesTo call c m groups slots index v)
    (more : List (List Value)) : ComesTo call c m (groups ++ more) slots index v := by
  induction h with
  | argument fits place passed closed => exact .argument fits place passed closed
  | result supplied full answered => exact .result supplied full answered
  | later supplied left _ ih => exact .later supplied left ih

/-! ## Slots side by side -/

/-- A result is checked like an argument after all parameters. -/
theorem checkResult_eq [Host] (c : Curried) (arguments : List Value) (v : Value) :
    c.checkResult arguments v = c.checkArgument arguments c.signature.arity v := by
  unfold checkResult checkArgument
  split
  · exact Signature.checkResult_eq ..
  · rfl

section Slots

variable {P : Problem → Problem → Prop} {c d : Curried}

/-- Arguments are put into slots side by side if each check that comes up ends alike. -/
theorem alike_putAll [Host] {slots : List Value} {pairs : List (Nat × Value)}
    (h : ∀ (front back : List (Nat × Value)) (before : List Value) (index : Nat) (v : Value),
      pairs = front ++ (index, v) :: back → c.putAll slots front = .ok before →
      v.isOpen = false → Alike P (c.checkArgument before index v) (d.checkArgument before index v)) :
    Alike P (c.putAll slots pairs) (d.putAll slots pairs) := by
  induction pairs generalizing slots with
  | nil => exact .ok slots
  | cons pair rest ih =>
    obtain ⟨index, v⟩ := pair
    have hput : Alike P (c.put slots index v) (d.put slots index v) := by
      by_cases hopen : v.isOpen
      · rw [put_open hopen, put_open hopen]
        exact .ok slots
      · rw [put, put, if_neg hopen, if_neg hopen]
        exact (h [] rest slots index v rfl rfl (by simpa using hopen)).bind fun _ _ => .ok _
    refine hput.bind fun after hafter => ih fun front back before i w hrest hbefore hclosed => ?_
    refine h ((index, v) :: front) back before i w (by rw [hrest]; rfl) ?_ hclosed
    exact bind_eq_ok.mpr ⟨after, hafter, hbefore⟩

end Slots

/-! ## Twins -/

/-- Two functions that differ at most in how they check. -/
structure Twins (c d : Curried) : Prop where
  implementation : d.implementation = c.implementation
  slots : d.slots = c.slots
  name : d.signature.name = c.signature.name
  arity : d.signature.arity = c.signature.arity

namespace Twins

variable {c d : Curried} (h : Twins c d)

include h

/-- Twins stay twins while slots are filled. -/
theorem fill (slots : List Value) : Twins { c with slots := slots } { d with slots := slots } :=
  ⟨h.implementation, rfl, h.name, h.arity⟩

theorem openSlots : d.openSlots = c.openSlots := by
  rw [Curried.openSlots, h.slots, Curried.openSlots]

theorem hasSurplus (arguments : List Value) : d.hasSurplus arguments = c.hasSurplus arguments := by
  rw [Curried.hasSurplus, Curried.arity, h.slots, Curried.hasSurplus, Curried.arity]

theorem surplusFault (arguments : List Value) :
    d.surplusFault arguments = c.surplusFault arguments := by
  simp only [Curried.surplusFault, filled, Curried.arity, h.slots, h.name, h.arity]

end Twins

end Curried

namespace Run

open Curried

/-! ## Outcomes side by side -/

/-- The outcomes of two chains of calls: the same; or partial applications with the same slots, on
one machine; or the ends of checks that stop with related problems. -/
inductive Parallel (c d : Curried) (P : Problem → Problem → Prop) :
    Except (Fault Value) Value × Machine → Except (Fault Value) Value × Machine → Prop
  | same (outcome : Except (Fault Value) Value × Machine) : Parallel c d P outcome outcome
  | applied (slots : List Value) (mark : Nat) (m : Machine) :
    Parallel c d P (.ok (({ c with slots := slots } : Curried).toValue mark), m)
      (.ok (({ d with slots := slots } : Curried).toValue mark), m)
  | rejected {p q : Problem} (h : P p q) (m : Machine) :
    Parallel c d P (ofChecked (.error p) m) (ofChecked (.error q) m)

section Parallel

variable {P : Problem → Problem → Prop} {call : Call} {c d : Curried} {m : Machine}
  {groups : List (List Value)} {arguments : List Value}

theorem ofChecked_error_bind {α β : Type} (p : Problem) (k : α → Run β) :
    (ofChecked (.error p) >>= k) = ofChecked (.error p) := by
  obtain ⟨note, f⟩ := p
  cases note <;> rfl

/-- Outcomes of functions whose slots have been filled are outcomes of the functions. -/
theorem Parallel.of_filled {slots : List Value}
    {o o' : Except (Fault Value) Value × Machine}
    (h : Parallel { c with slots := slots } { d with slots := slots } P o o') :
    Parallel c d P o o' := by
  cases h with
  | same => exact .same _
  | applied slots' mark m => exact .applied slots' mark m
  | rejected hpq m => exact .rejected hpq m

variable [Host]

/-- The slots are supplied side by side, or both calls have one surplus. -/
theorem supply?_parallel (twins : Twins c d)
    (h : ∀ slots index v, ComesTo call c m (arguments :: groups) slots index v →
      Alike P (c.checkArgument slots index v) (d.checkArgument slots index v)) :
    (∃ p, c.supply? arguments = .error p ∧ d.supply? arguments = .error p) ∨
      Alike P (c.supply? arguments) (d.supply? arguments) := by
  by_cases hmany : c.hasSurplus arguments
  · refine .inl ⟨_, supply?_of_surplus hmany, ?_⟩
    rw [supply?_of_surplus ((twins.hasSurplus arguments).trans hmany),
      twins.surplusFault arguments]
  · have hfits : c.hasSurplus arguments = false := by simpa using hmany
    rw [supply?, supply?, twins.hasSurplus, if_neg hmany, if_neg hmany, twins.openSlots,
      twins.slots]
    exact .inr (alike_putAll fun front back before index v hplace hpassed hclosed =>
      h before index v (.argument hfits hplace hpassed hclosed))

/-- The last step of a call, side by side. -/
theorem complete_parallel (twins : Twins c d) {slots : List Value}
    (h : ∀ r m₁, call c.implementation slots m = (.ok r, m₁) →
      Alike P (c.checkResult slots r) (d.checkResult slots r)) (k : Value → Run Value) :
    Parallel c d P ((complete call c slots >>= k) m) ((complete call d slots >>= k) m) := by
  rcases hcall : call c.implementation slots m with ⟨answer, m₁⟩
  have hcall' : call d.implementation slots m = (answer, m₁) := by
    rw [twins.implementation, hcall]
  cases answer with
  | error f =>
    rw [bind_of_error (complete_of_error hcall), bind_of_error (complete_of_error hcall')]
    exact .same _
  | ok r =>
    generalize hx : c.checkResult slots r = x
    generalize hy : d.checkResult slots r = y
    have halike : Alike P x y := by
      rw [← hx, ← hy]
      exact h r m₁ hcall
    cases halike with
    | ok =>
      -- both answer the result, so that they go on as one
      rw [bind_of_ok (complete_of_ok hcall hx), bind_of_ok (complete_of_ok hcall' hy)]
      exact .same _
    | error hpq =>
      have hend {e : Curried} {p : Problem} (he : call e.implementation slots m = (.ok r, m₁))
          (hp : e.checkResult slots r = .error p) :
          (complete call e slots >>= k) m = ofChecked (.error p) m₁ := by
        rw [complete, bind_assoc, bind_of_ok he, hp, bind_assoc, ofChecked_error_bind]
      rw [hend hcall hx, hend hcall' hy]
      exact .rejected hpq m₁

/-- **Chains of calls run in lockstep** if each check that the first one comes to ends as the same
check of the second does.  The induction is on the calls: as long as slots stay open, both functions
have the same slots and machines, and once the implementation has answered there is only one run. -/
theorem parallel_calls (twins : Twins c d) (mark : Nat)
    (h : ∀ slots index v, ComesTo call c m groups slots index v →
      Alike P (c.checkArgument slots index v) (d.checkArgument slots index v)) :
    Parallel c d P (calls (step call) (c.toValue mark) groups m)
      (calls (step call) (d.toValue mark) groups m) := by
  induction groups generalizing c d m mark with
  | nil =>
    have hstart : Parallel c d P (.ok (c.toValue mark), m)
        (.ok (({ d with slots := c.slots } : Curried).toValue mark), m) := .applied c.slots mark m
    rw [← twins.slots] at hstart
    exact hstart
  | cons arguments groups ih =>
    rw [calls_cons, calls_cons, step_toValue, step_toValue]
    rcases supply?_parallel twins h with ⟨p, hp, hp'⟩ | halike
    · rw [invoke_error hp, invoke_error hp']
      exact .same _
    generalize hx : c.supply? arguments = x at halike
    generalize hy : d.supply? arguments = y at halike
    cases halike with
    | error hpq =>
      rw [invoke_error hx, invoke_error hy, ofChecked_error_bind, ofChecked_error_bind]
      exact .rejected hpq m
    | ok slots =>
      by_cases hfull : isSaturated slots
      · rw [invoke_saturated hx hfull, invoke_saturated hy hfull]
        refine complete_parallel twins (fun r m₁ hr => ?_) _
        rw [checkResult_eq, checkResult_eq, twins.arity]
        exact h slots _ r (.result hx hfull hr)
      · have hleft : isSaturated slots = false := by simpa using hfull
        rw [bind_of_ok (invoke_partial hx hleft call m), bind_of_ok (invoke_partial hy hleft call m)]
        refine .of_filled (ih (twins.fill slots) m.nextMark fun slots' index v hcomes => ?_)
        exact h slots' index v (.later hx hleft hcomes)

end Parallel

end Run

end CheckedCurry
