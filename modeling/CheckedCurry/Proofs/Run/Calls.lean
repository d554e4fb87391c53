import CheckedCurry.Proofs.Curried.Filling
import CheckedCurry.Run.Apply
import Mathlib.Data.List.Induction
import Mathlib.Logic.Function.Iterate

/-!
# Chains of calls

A function is called, then its answer is called, and so on.  As long as slots stay open the answers
are partial applications of the first function, and all that happens is that slots are filled.

- `Run.calls`: calls one after the other, each on the answer of the one before.
- `Run.complete`: the implementation called with all its arguments, and the check of its result.
- `invoke_error`, `invoke_partial`, `invoke_saturated`: the three ways a call can go.
- `Curried.supplyAll?`: the slots after several calls, each call checked; `calls_of_supplyAll?_ok`
  and `calls_of_supplyAll?_error` tie it to chains of calls that leave slots open.

Statements about `∀ call` say that an implementation has no part in an outcome: `call` is how
values, implementations among them, are called.
-/

namespace CheckedCurry

namespace Run

/-! ## Runs, step by step -/

theorem bind_of_ok {α β : Type} {x : Run α} {m m' : Machine} {a : α} (h : x m = (.ok a, m'))
    (k : α → Run β) : (x >>= k) m = k a m' := by
  show (x m >>= fun r => ExceptT.bindCont k r.1 r.2 : Id _) = _
  rw [h]
  rfl

theorem bind_of_error {α β : Type} {x : Run α} {m m' : Machine} {f : Fault Value}
    (h : x m = (.error f, m')) (k : α → Run β) : (x >>= k) m = (.error f, m') := by
  show (x m >>= fun r => ExceptT.bindCont k r.1 r.2 : Id _) = _
  rw [h]
  rfl

/-- A run that answers has answered in each of its steps. -/
theorem eq_ok_of_bind {α β : Type} {x : Run α} {k : α → Run β} {m m' : Machine} {b : β}
    (h : (x >>= k) m = (.ok b, m')) : ∃ a m₁, x m = (.ok a, m₁) ∧ k a m₁ = (.ok b, m') := by
  rcases hx : x m with ⟨r, m₁⟩
  cases r with
  | error f =>
    rw [bind_of_error hx] at h
    cases h
  | ok a =>
    rw [bind_of_ok hx] at h
    exact ⟨a, m₁, rfl, h⟩

/-- A failed check ends a run in its fault, and all that it leaves behind is a record. -/
theorem ofChecked_error {α : Type} (p : Problem) (m : Machine) :
    ∃ m', (ofChecked (.error p) : Run α) m = (.error p.fault, m') ∧
      m'.nextMark = m.nextMark := by
  obtain ⟨note, f⟩ := p
  cases note with
  | none => exact ⟨m, rfl, rfl⟩
  | some note =>
    refine ⟨m.write (.plain Log.checks .debug note), rfl, ?_⟩
    unfold Machine.write
    split <;> rfl

/-! ## Calls one after the other -/

/-- Calls one after the other, each on the answer of the one before. -/
def calls (call : Call) (f : Value) (groups : List (List Value)) : Run Value := groups.foldlM call f

@[simp] theorem calls_nil (call : Call) (f : Value) : calls call f [] = pure f := rfl

theorem calls_cons (call : Call) (f : Value) (arguments : List Value)
    (groups : List (List Value)) :
    calls call f (arguments :: groups) = (do calls call (← call f arguments) groups) := by
  simp [calls]

theorem calls_singleton (call : Call) (f : Value) (arguments : List Value) :
    calls call f [arguments] = call f arguments := by
  rw [calls_cons]
  exact bind_pure _

theorem calls_append (call : Call) (f : Value) (groups later : List (List Value)) :
    calls call f (groups ++ later) = (do calls call (← calls call f groups) later) := by
  simp [calls]

theorem calls_concat (call : Call) (f : Value) (groups : List (List Value))
    (arguments : List Value) :
    calls call f (groups ++ [arguments]) = (do call (← calls call f groups) arguments) := by
  simp [calls]

/-- A chain of calls that answers has answered at each of its calls. -/
theorem calls_of_isPrefix {call : Call} {f v : Value} {p groups : List (List Value)}
    {m m' : Machine} (hp : p <+: groups) (h : calls call f groups m = (.ok v, m')) :
    ∃ w m₁, calls call f p m = (.ok w, m₁) := by
  obtain ⟨later, rfl⟩ := hp
  rw [calls_append] at h
  obtain ⟨w, m₁, hw, -⟩ := eq_ok_of_bind h
  exact ⟨w, m₁, hw⟩

/-! ## One call of a curried function -/

/-- The implementation called with all its arguments, and the check of its result. -/
def complete [Host] (call : Call) (c : Curried) (arguments : List Value) : Run Value := do
  let result ← call c.implementation arguments
  ofChecked (c.checkResult arguments result)
  return result

section Complete

variable {call : Call} {c : Curried} {arguments : List Value} {m m₁ : Machine}

theorem complete_of_error [Host] {f : Fault Value}
    (h : call c.implementation arguments m = (.error f, m₁)) :
    complete call c arguments m = (.error f, m₁) := bind_of_error h _

/-- A result that passes its check is the answer. -/
theorem complete_of_ok [Host] {r : Value} (h : call c.implementation arguments m = (.ok r, m₁))
    (hcheck : c.checkResult arguments r = .ok ()) :
    complete call c arguments m = (.ok r, m₁) := by
  rw [complete, bind_of_ok h, hcheck]
  rfl

/-- A result that fails its check ends the call in the fault of the check. -/
theorem complete_of_rejected [Host] {r : Value} {p : Problem}
    (h : call c.implementation arguments m = (.ok r, m₁))
    (hcheck : c.checkResult arguments r = .error p) :
    ∃ m₂, complete call c arguments m = (.error p.fault, m₂) := by
  obtain ⟨m₂, hfault, -⟩ := ofChecked_error (α := Unit) p m₁
  exact ⟨m₂, by rw [complete, bind_of_ok h, hcheck, bind_of_error hfault]⟩

/-- A call that comes to an answer has the result of the implementation as its answer. -/
theorem eq_ok_of_complete [Host] {v : Value} (h : complete call c arguments m = (.ok v, m₁)) :
    call c.implementation arguments m = (.ok v, m₁) ∧ c.checkResult arguments v = .ok () := by
  obtain ⟨r, m₂, hcall, -⟩ := eq_ok_of_bind h
  cases hcheck : c.checkResult arguments r with
  | error p =>
    obtain ⟨m₃, hfault⟩ := complete_of_rejected hcall hcheck
    rw [hfault] at h
    cases h
  | ok =>
    rw [complete_of_ok hcall hcheck] at h
    cases h
    exact ⟨hcall, hcheck⟩

end Complete

@[simp] theorem step_toValue [Host] (call : Call) (c : Curried) (mark : Nat) (arguments : List Value) :
    step call (c.toValue mark) arguments = invoke call c arguments := rfl

theorem invoke_error [Host] {c : Curried} {arguments : List Value} {p : Problem}
    (h : c.supply? arguments = .error p) (call : Call) :
    invoke call c arguments = ofChecked (.error p) := by
  obtain ⟨note, f⟩ := p
  cases note <;> (rw [invoke, h]; rfl)

theorem invoke_partial [Host] {c : Curried} {arguments slots : List Value}
    (h : c.supply? arguments = .ok slots) (hopen : Curried.isSaturated slots = false)
    (call : Call) (m : Machine) :
    invoke call c arguments m =
      (.ok (({ c with slots := slots } : Curried).toValue m.nextMark), m.advance) := by
  rw [invoke, h, ofChecked, pure_bind, hopen]
  rfl

theorem invoke_saturated [Host] {c : Curried} {arguments slots : List Value}
    (h : c.supply? arguments = .ok slots) (hfull : Curried.isSaturated slots = true)
    (call : Call) : invoke call c arguments = complete call c slots := by
  rw [invoke, h, ofChecked, pure_bind, hfull]
  rfl

end Run

namespace Curried

/-! ## Slots that stay open -/

/-- A curried function with its slots filled by several calls. -/
def after (c : Curried) (groups : List (List Value)) : Curried :=
  { c with slots := fillAll c.slots groups }

@[simp] theorem after_nil (c : Curried) : c.after [] = c := rfl

@[simp] theorem slots_after (c : Curried) (groups : List (List Value)) :
    (c.after groups).slots = fillAll c.slots groups := rfl

/-- Every one of several calls leaves a slot open. -/
def LeaveOpen (c : Curried) (groups : List (List Value)) : Prop :=
  ∀ p, p <+: groups → p ≠ [] → isSaturated (c.after p).slots = false

theorem leaveOpen_nil (c : Curried) : c.LeaveOpen [] := by
  intro p hp hne
  exact absurd (List.prefix_nil.mp hp) hne

theorem leaveOpen_singleton {c : Curried} {arguments : List Value}
    (h : isSaturated (fill c.slots arguments) = false) : c.LeaveOpen [arguments] := by
  intro p hp hne
  rcases List.prefix_cons_iff.mp hp with rfl | ⟨q, rfl, hq⟩
  · exact absurd rfl hne
  · obtain rfl := List.prefix_nil.mp hq
    exact h

theorem LeaveOpen.of_isPrefix {c : Curried} {p groups : List (List Value)}
    (h : c.LeaveOpen groups) (hp : p <+: groups) : c.LeaveOpen p :=
  fun q hq hne => h q (hq.trans hp) hne

/-- The slots after several calls, each of them checked. -/
def supplyAll? [Host] (c : Curried) (groups : List (List Value)) : Checked (List Value) :=
  groups.foldlM (fun slots arguments => ({ c with slots := slots } : Curried).supply? arguments)
    c.slots

@[simp] theorem supplyAll?_nil [Host] (c : Curried) : c.supplyAll? [] = .ok c.slots := rfl

theorem supplyAll?_concat [Host] (c : Curried) (groups : List (List Value)) (arguments : List Value) :
    c.supplyAll? (groups ++ [arguments]) = (do
      let slots ← c.supplyAll? groups
      ({ c with slots := slots } : Curried).supply? arguments) := by
  simp [supplyAll?]

/-- Whatever is checked, slots that come out of several calls are filled in the one way. -/
theorem eq_after_of_supplyAll? [Host] {c : Curried} {groups : List (List Value)} {slots : List Value}
    (h : c.supplyAll? groups = .ok slots) : slots = (c.after groups).slots := by
  induction groups using List.reverseRecOn generalizing slots with
  | nil => simpa using h.symm
  | append_singleton groups arguments ih =>
    rw [supplyAll?_concat] at h
    obtain ⟨middle, hmiddle, hlast⟩ := bind_eq_ok.mp h
    rw [slots_after, fillAll_concat, ← slots_after, ← ih hmiddle]
    exact (eq_fill_of_supply? hlast).2

/-- One more call goes on from where the calls before it have come. -/
theorem supplyAll?_concat_of_ok [Host] {c : Curried} {groups : List (List Value)} {slots : List Value}
    (h : c.supplyAll? groups = .ok slots) (arguments : List Value) :
    c.supplyAll? (groups ++ [arguments]) = (c.after groups).supply? arguments := by
  rw [supplyAll?_concat, h, eq_after_of_supplyAll? h]
  rfl

theorem supplyAll?_concat_of_error [Host] {c : Curried} {groups : List (List Value)} {p : Problem}
    (h : c.supplyAll? groups = .error p) (arguments : List Value) :
    c.supplyAll? (groups ++ [arguments]) = .error p := by
  rw [supplyAll?_concat, h]
  rfl

end Curried

namespace Run

open Curried

/-! ## Chains that leave slots open -/

variable {c : Curried} {groups : List (List Value)}

variable [Host]

/-- Calls that supply slots and leave some of them open answer a partial application.  The
implementation has no part in it, and each call gives out one mark. -/
theorem calls_of_supplyAll?_ok {slots : List Value} (hopen : c.LeaveOpen groups)
    (h : c.supplyAll? groups = .ok slots) (mark : Nat) (m : Machine) :
    ∃ mark', ∀ call : Call, calls (step call) (c.toValue mark) groups m =
      (.ok ((c.after groups).toValue mark'), Machine.advance^[groups.length] m) := by
  induction groups using List.reverseRecOn generalizing slots with
  | nil => exact ⟨mark, fun _ => rfl⟩
  | append_singleton groups arguments ih =>
    have hleft : isSaturated (c.after (groups ++ [arguments])).slots = false :=
      hopen _ (List.prefix_refl _) (by simp)
    rw [← eq_after_of_supplyAll? h] at hleft
    cases hmiddle : c.supplyAll? groups with
    | error p =>
      rw [supplyAll?_concat_of_error hmiddle] at h
      cases h
    | ok middle =>
      have hlast : (c.after groups).supply? arguments = .ok slots := by
        rw [← supplyAll?_concat_of_ok hmiddle, h]
      obtain ⟨mark₁, hchain⟩ := ih (hopen.of_isPrefix (List.prefix_append ..)) hmiddle
      refine ⟨(Machine.advance^[groups.length] m).nextMark, fun call => ?_⟩
      rw [calls_concat, bind_of_ok (hchain call), step_toValue, invoke_partial hlast hleft,
        List.length_append, List.length_singleton, Function.iterate_succ_apply',
        eq_after_of_supplyAll? h]
      rfl

/-- If one of several calls that leave slots open is refused, the chain ends in that fault.  The
implementation has no part in it. -/
theorem calls_of_supplyAll?_error {p : Problem} (hopen : c.LeaveOpen groups)
    (h : c.supplyAll? groups = .error p) (mark : Nat) (m : Machine) :
    ∃ m', ∀ call : Call,
      calls (step call) (c.toValue mark) groups m = (.error p.fault, m') := by
  induction groups using List.reverseRecOn with
  | nil => cases h
  | append_singleton groups arguments ih =>
    have hopen' : c.LeaveOpen groups := hopen.of_isPrefix (List.prefix_append ..)
    cases hmiddle : c.supplyAll? groups with
    | error q =>
      rw [supplyAll?_concat_of_error hmiddle] at h
      cases h
      obtain ⟨m', hchain⟩ := ih hopen' hmiddle
      exact ⟨m', fun call => by rw [calls_concat, bind_of_error (hchain call)]⟩
    | ok middle =>
      rw [supplyAll?_concat_of_ok hmiddle] at h
      obtain ⟨mark₁, hchain⟩ := calls_of_supplyAll?_ok hopen' hmiddle mark m
      obtain ⟨m', hfault, -⟩ :=
        ofChecked_error (α := Value) p (Machine.advance^[groups.length] m)
      refine ⟨m', fun call => ?_⟩
      rw [calls_concat, bind_of_ok (hchain call), step_toValue, invoke_error h, hfault]

/-- If a chain that leaves slots open answers at all, its calls have supplied the slots. -/
theorem supplyAll?_of_calls {call : Call} {mark : Nat} {m m' : Machine} {v : Value}
    (hopen : c.LeaveOpen groups)
    (h : calls (step call) (c.toValue mark) groups m = (.ok v, m')) :
    c.supplyAll? groups = .ok (c.after groups).slots := by
  cases hall : c.supplyAll? groups with
  | error p =>
    obtain ⟨m₁, hfault⟩ := calls_of_supplyAll?_error hopen hall mark m
    rw [hfault call] at h
    cases h
  | ok slots => rw [eq_after_of_supplyAll? hall]

/-- One more call after a chain that leaves slots open is a call of the partial application. -/
theorem calls_concat_of_supplyAll?_ok {slots : List Value} (hopen : c.LeaveOpen groups)
    (h : c.supplyAll? groups = .ok slots) (mark : Nat) (m : Machine) (call : Call)
    (arguments : List Value) :
    calls (step call) (c.toValue mark) (groups ++ [arguments]) m =
      invoke call (c.after groups) arguments (Machine.advance^[groups.length] m) := by
  obtain ⟨mark', hchain⟩ := calls_of_supplyAll?_ok hopen h mark m
  rw [calls_concat, bind_of_ok (hchain call), step_toValue]

/-- If the last of several calls is refused, or one before it that leaves slots open, the chain ends
in that fault.  The implementation has no part in it. -/
theorem calls_concat_of_supplyAll?_error {arguments : List Value} {p : Problem}
    (hopen : c.LeaveOpen groups) (h : c.supplyAll? (groups ++ [arguments]) = .error p) (mark : Nat)
    (m : Machine) :
    ∃ m', ∀ call : Call,
      calls (step call) (c.toValue mark) (groups ++ [arguments]) m = (.error p.fault, m') := by
  cases hall : c.supplyAll? groups with
  | error q =>
    rw [supplyAll?_concat_of_error hall] at h
    cases h
    obtain ⟨m', hchain⟩ := calls_of_supplyAll?_error hopen hall mark m
    exact ⟨m', fun call => by rw [calls_concat, bind_of_error (hchain call)]⟩
  | ok slots =>
    rw [supplyAll?_concat_of_ok hall] at h
    obtain ⟨m', hfault, -⟩ :=
      ofChecked_error (α := Value) p (Machine.advance^[groups.length] m)
    exact ⟨m', fun call => by
      rw [calls_concat_of_supplyAll?_ok hopen hall, invoke_error h, hfault]⟩

/-- A call that answers has supplied slots. -/
theorem supply?_of_invoke {call : Call} {arguments : List Value} {m m' : Machine} {v : Value}
    (h : invoke call c arguments m = (.ok v, m')) :
    c.supply? arguments = .ok (fill c.slots arguments) := by
  cases hs : c.supply? arguments with
  | error p =>
    obtain ⟨m₁, hfault, -⟩ := ofChecked_error (α := Value) p m
    rw [invoke_error hs, hfault] at h
    cases h
  | ok slots => rw [(eq_fill_of_supply? hs).2]

/-- If only the last call may leave no slot open and the chain answers, all its calls have supplied
slots. -/
theorem supplyAll?_concat_of_calls {call : Call} {arguments : List Value} {mark : Nat}
    {m m' : Machine} {v : Value} (hopen : c.LeaveOpen groups)
    (h : calls (step call) (c.toValue mark) (groups ++ [arguments]) m = (.ok v, m')) :
    c.supplyAll? (groups ++ [arguments]) =
      .ok (c.after (groups ++ [arguments])).slots := by
  obtain ⟨w, m₁, hbegin⟩ := calls_of_isPrefix (List.prefix_append ..) h
  have hall := supplyAll?_of_calls hopen hbegin
  rw [calls_concat_of_supplyAll?_ok hopen hall] at h
  rw [supplyAll?_concat_of_ok hall, supply?_of_invoke h, slots_after, slots_after,
    fillAll_concat]

/-- A chain whose last call, and no other one, leaves no slot open calls the implementation with the
values in the slots. -/
theorem calls_of_saturated {arguments slots : List Value} (hopen : c.LeaveOpen groups)
    (h : c.supplyAll? (groups ++ [arguments]) = .ok slots) (hfull : isSaturated slots = true)
    (mark : Nat) (m : Machine) (call : Call) :
    calls (step call) (c.toValue mark) (groups ++ [arguments]) m =
      complete call c slots (Machine.advance^[groups.length] m) := by
  cases hall : c.supplyAll? groups with
  | error p =>
    rw [supplyAll?_concat_of_error hall] at h
    cases h
  | ok middle =>
    rw [supplyAll?_concat_of_ok hall] at h
    rw [calls_concat_of_supplyAll?_ok hopen hall, invoke_saturated h hfull]
    rfl

/-- A chain whose last call leaves a slot open too answers a partial application. -/
theorem calls_of_left {arguments slots : List Value} (hopen : c.LeaveOpen groups)
    (h : c.supplyAll? (groups ++ [arguments]) = .ok slots) (hleft : isSaturated slots = false)
    (mark : Nat) (m : Machine) (call : Call) :
    calls (step call) (c.toValue mark) (groups ++ [arguments]) m =
      (.ok (({ c with slots := slots } : Curried).toValue
        (Machine.advance^[groups.length] m).nextMark),
        (Machine.advance^[groups.length] m).advance) := by
  cases hall : c.supplyAll? groups with
  | error p =>
    rw [supplyAll?_concat_of_error hall] at h
    cases h
  | ok middle =>
    rw [supplyAll?_concat_of_ok hall] at h
    rw [calls_concat_of_supplyAll?_ok hopen hall, invoke_partial h hleft]
    rfl

end Run

end CheckedCurry
