import CheckedCurry.Proofs.Run.Calls
import CheckedCurry.Proofs.Signature.Faults

/-!
# Checks change no answer

A checked function and the same function without checks go through the same slots.  Where the
checked one answers, the unchecked one gives the same answer; where one has too many arguments, so
has the other.

- `Curried.unchecked`: a function without its checks.
- `Curried.RaisesArity`: a call has too many arguments, whatever the implementation does.
- `Curried.SameButChecks`: the relation between answers that every call preserves.
- `checks_transparent`: the two laws, for calls and for chains of calls.
-/

namespace CheckedCurry.Curried

/-- A function without its checks. -/
def unchecked (c : Curried) : Curried := { c with environment := none }

variable {c : Curried} {arguments slots : List Value}

/-! ## Calls without checks -/

@[simp] theorem hasSurplus_unchecked : c.unchecked.hasSurplus arguments = c.hasSurplus arguments :=
  rfl

@[simp] theorem surplusFault_unchecked :
    c.unchecked.surplusFault arguments = c.surplusFault arguments := rfl

variable [Host]

theorem feed_unchecked (c : Curried) (done slots arguments : List Value) :
    feed c.unchecked.checkArgument done slots arguments = .ok (done ++ fill slots arguments) := by
  cases h : feed c.unchecked.checkArgument done slots arguments with
  | error p =>
    -- no check is made, so none fails
    obtain ⟨before, index, a, hcheck⟩ := exists_check_of_feed h
    cases hcheck
  | ok after => rw [eq_fill_of_feed h]

/-- Slots that a call supplies are supplied without checks too. -/
theorem supply?_unchecked (h : c.supply? arguments = .ok slots) :
    c.unchecked.supply? arguments = .ok slots := by
  obtain ⟨hsurplus, rfl⟩ := eq_fill_of_supply? h
  rw [supply?_eq, hasSurplus_unchecked, hsurplus, if_neg Bool.false_ne_true, feed_unchecked]
  rfl

/-- Without checks, the implementation has the last word. -/
theorem complete_unchecked (call : Call) (c : Curried) (slots : List Value) :
    Run.complete call c.unchecked slots = call c.implementation slots := by
  unfold Run.complete
  exact bind_pure (call c.implementation slots)

/-! ## Faults of calls -/

/-- A check of an argument never ends in a fault about the number of arguments. -/
theorem endsInCheck_checkArgument (c : Curried) (slots : List Value) (index : Nat) (v : Value) :
    (c.checkArgument slots index v).EndsInCheck := by
  unfold checkArgument
  split
  · exact c.signature.endsInCheck_checkArgument _ slots index v
  · exact Checked.endsInCheck_ok _

theorem endsInCheck_checkResult (c : Curried) (arguments : List Value) (v : Value) :
    (c.checkResult arguments v).EndsInCheck := by
  unfold checkResult
  split
  · exact c.signature.endsInCheck_checkResult _ arguments v
  · exact Checked.endsInCheck_ok _

/-- A call that is refused has a surplus, or one of its arguments fails a check. -/
theorem surplus_or_isOfCheck {p : Problem} (h : c.supply? arguments = .error p) :
    (c.hasSurplus arguments = true ∧ p = ⟨none, c.surplusFault arguments⟩) ∨
      p.fault.IsOfCheck := by
  rw [supply?_eq] at h
  by_cases hs : c.hasSurplus arguments
  · rw [if_pos hs] at h
    cases h
    exact .inl ⟨hs, rfl⟩
  · rw [if_neg hs] at h
    obtain ⟨before, index, a, hcheck⟩ := exists_check_of_feed h
    exact .inr (c.endsInCheck_checkArgument before index a p hcheck)

/-- The last step of a call ends in a fault of the implementation or of the check of its result. -/
theorem complete_error {call : Call} {m m' : Machine} {f : Fault Value}
    (h : Run.complete call c slots m = (.error f, m')) :
    call c.implementation slots m = (.error f, m') ∨ f.IsOfCheck := by
  rcases hcall : call c.implementation slots m with ⟨answer, m₁⟩
  cases answer with
  | error g =>
    rw [Run.complete_of_error hcall] at h
    exact .inl h
  | ok result =>
    cases hcheck : c.checkResult slots result with
    | ok =>
      rw [Run.complete_of_ok hcall hcheck] at h
      cases h
    | error p =>
      obtain ⟨m₂, hfault⟩ := Run.complete_of_rejected hcall hcheck
      rw [hfault] at h
      obtain rfl : p.fault = f := Except.error.inj (congrArg Prod.fst h)
      exact .inr (c.endsInCheck_checkResult slots result p hcheck)

/-- A fault of a call that is not one of its checks is a fault of the call without checks. -/
theorem step_unchecked_of_error {call : Call} {mark : Nat} {m m' : Machine} {f : Fault Value}
    (hf : ¬ f.IsOfCheck) (h : Run.step call (c.toValue mark) arguments m = (.error f, m'))
    (mark' : Nat) :
    Run.step call (c.unchecked.toValue mark') arguments m = (.error f, m') := by
  rw [Run.step_toValue] at h ⊢
  cases hs : c.supply? arguments with
  | error p =>
    rcases surplus_or_isOfCheck hs with ⟨hmany, rfl⟩ | hcheck
    · rw [Run.invoke_error hs] at h
      rw [Run.invoke_error (supply?_of_surplus (c := c.unchecked) hmany), surplusFault_unchecked, h]
    · obtain ⟨m₁, hfault, -⟩ := Run.ofChecked_error (α := Value) p m
      rw [Run.invoke_error hs, hfault] at h
      obtain rfl : p.fault = f := Except.error.inj (congrArg Prod.fst h)
      exact absurd hcheck hf
  | ok slots =>
    by_cases hfull : isSaturated slots
    · rw [Run.invoke_saturated hs hfull] at h
      rw [Run.invoke_saturated (supply?_unchecked hs) hfull, complete_unchecked]
      exact (complete_error h).resolve_right hf
    · rw [Run.invoke_partial hs (by simpa using hfull)] at h
      cases h

/-! ## The number of arguments -/

/-- A call with arguments ends in a fault about their number, whatever its implementation does.
The fault is then its own, and it leaves nothing behind. -/
def RaisesArity (c : Curried) (arguments : List Value) (required received : Nat) : Prop :=
  ∀ (mark : Nat) (call : Call) (m : Machine),
    Run.step call (c.toValue mark) arguments m =
      (.error (.arity c.signature.name required received), m)

/-- A call has too many arguments if a value meets no open slot, and that is all that counts. -/
theorem raisesArity_iff {required received : Nat} :
    c.RaisesArity arguments required received ↔
      c.hasSurplus arguments = true ∧ required = c.signature.arity ∧
        received = c.filled + arguments.length := by
  constructor
  · intro h
    -- the fault comes without checks too, and with an implementation that never fails
    have hrun := step_unchecked_of_error (Fault.not_isOfCheck_arity _ _ _)
      (h 0 (fun _ _ => pure Value.null) (.start none)) 0
    rw [Run.step_toValue] at hrun
    by_cases hmany : c.hasSurplus arguments
    · rw [Run.invoke_error (supply?_of_surplus (c := c.unchecked) hmany)] at hrun
      obtain ⟨-, hrequired, hreceived⟩ :=
        Fault.arity.inj (Except.error.inj (congrArg Prod.fst hrun))
      exact ⟨hmany, hrequired.symm, hreceived.symm⟩
    · have hs : c.unchecked.supply? arguments = .ok (fill c.slots arguments) := by
        rw [supply?_eq, hasSurplus_unchecked, if_neg hmany, feed_unchecked]
        rfl
      by_cases hfull : isSaturated (fill c.slots arguments)
      · rw [Run.invoke_saturated hs hfull, complete_unchecked] at hrun
        cases hrun
      · rw [Run.invoke_partial hs (by simpa using hfull)] at hrun
        cases hrun
  · rintro ⟨hmany, rfl, rfl⟩ mark call m
    rw [Run.step_toValue, Run.invoke_error (supply?_of_surplus hmany)]
    rfl

/-- Which slots are open and which arguments are placeholders decides whether there are too many
arguments, and how many. -/
theorem raisesArity_congr {c' : Curried} {arguments' : List Value} {required received : Nat}
    (harity : c'.signature.arity = c.signature.arity)
    (hslots : c'.slots.map Value.isOpen = c.slots.map Value.isOpen)
    (harguments : arguments'.map Value.isOpen = arguments.map Value.isOpen) :
    c'.RaisesArity arguments' required received ↔ c.RaisesArity arguments required received := by
  have hopen : c'.arity = c.arity := by
    have h := congrArg (List.countP id) hslots
    simpa [List.countP_map, arity] using h
  have hlength : c'.slots.length = c.slots.length := by
    simpa using congrArg List.length hslots
  have hcount : arguments'.length = arguments.length := by
    simpa using congrArg List.length harguments
  have hsurplus : c'.hasSurplus arguments' = c.hasSurplus arguments := by
    have h := congrArg (fun bs => (bs.drop c.arity).any not) harguments
    simp only [← List.map_drop, List.any_map] at h
    rw [hasSurplus, hasSurplus, hopen]
    exact h
  rw [raisesArity_iff, raisesArity_iff, hsurplus, harity, filled, filled, hopen, hlength, hcount]

/-! ## Chains of calls -/

/-- Two answers are one value, or partial applications that differ in their checks only: they have
one signature, one implementation and the same slots. -/
def SameButChecks (v w : Value) : Prop :=
  v = w ∨ ∃ (c : Curried) (mark mark' : Nat), v = c.toValue mark ∧ w = c.unchecked.toValue mark'

/-- One call preserves the relation: if the first of two related values answers, the second answers
the same but for checks, and both leave the same machine behind. -/
theorem SameButChecks.step {v w v' : Value} (hvw : SameButChecks v w) {call : Call}
    {m m' : Machine} (h : Run.step call v arguments m = (.ok v', m')) :
    ∃ w', Run.step call w arguments m = (.ok w', m') ∧ SameButChecks v' w' := by
  rcases hvw with rfl | ⟨c, mark, mark', rfl, rfl⟩
  -- one value: both calls are the same call
  · exact ⟨v', h, .inl rfl⟩
  rw [Run.step_toValue] at h
  have hs := Run.supply?_of_invoke h
  have hs' := supply?_unchecked hs
  rw [Run.step_toValue]
  by_cases hfull : isSaturated (fill c.slots arguments)
  · -- the check of the result passes the result on
    rw [Run.invoke_saturated hs hfull] at h
    refine ⟨v', ?_, .inl rfl⟩
    rw [Run.invoke_saturated hs' hfull, complete_unchecked]
    exact (Run.eq_ok_of_complete h).1
  · have hopen : isSaturated (fill c.slots arguments) = false := by simpa using hfull
    -- the marks agree because both runs have given out the same ones
    rw [Run.invoke_partial hs hopen] at h
    cases h
    exact ⟨_, Run.invoke_partial hs' hopen call m, .inr ⟨{ c with slots := _ }, _, _, rfl, rfl⟩⟩

/-- A chain of calls preserves the relation. -/
theorem SameButChecks.calls {v w v' : Value} (hvw : SameButChecks v w) {call : Call}
    {groups : List (List Value)} {m m' : Machine}
    (h : Run.calls (Run.step call) v groups m = (.ok v', m')) :
    ∃ w', Run.calls (Run.step call) w groups m = (.ok w', m') ∧ SameButChecks v' w' := by
  induction groups generalizing v w m with
  | nil =>
    cases h
    exact ⟨w, rfl, hvw⟩
  | cons arguments groups ih =>
    rw [Run.calls_cons] at h
    obtain ⟨v₁, m₁, hfirst, hrest⟩ := Run.eq_ok_of_bind h
    obtain ⟨w₁, hfirst', hrel⟩ := hvw.step hfirst
    obtain ⟨w', hrest', hrel'⟩ := ih hrel hrest
    exact ⟨w', by rw [Run.calls_cons, Run.bind_of_ok hfirst', hrest'], hrel'⟩

/-- **Checks change no answer.**  Let a function be called with checks and without them.

A call has too many arguments in one mode if and only if it has in the other, with the same numbers;
no value is looked at for that, only which slots are open and which arguments are placeholders.
Every fault about a number of arguments that a checked call ends in, be it one of an implementation
that has run, is the fault of the unchecked call.

If a chain of calls answers in checked mode, then after each of its calls both modes have come to
the same machine and to the same value, or to partial applications with one signature, one
implementation and the same slots. -/
theorem checks_transparent (c : Curried) :
    (∀ arguments required received,
      c.RaisesArity arguments required received ↔
        c.unchecked.RaisesArity arguments required received) ∧
    (∀ (c' : Curried) (arguments arguments' : List Value),
      c'.signature.arity = c.signature.arity →
      c'.slots.map Value.isOpen = c.slots.map Value.isOpen →
      arguments'.map Value.isOpen = arguments.map Value.isOpen →
      ∀ required received,
        c'.RaisesArity arguments' required received ↔ c.RaisesArity arguments required received) ∧
    (∀ (call : Call) (mark mark' : Nat) (arguments : List Value) (m m' : Machine)
      (name : String) (required received : Nat),
      Run.step call (c.toValue mark) arguments m = (.error (.arity name required received), m') →
        Run.step call (c.unchecked.toValue mark') arguments m =
          (.error (.arity name required received), m')) ∧
    ∀ (call : Call) (mark mark' : Nat) (groups : List (List Value)) (m m' : Machine) (v : Value),
      Run.calls (Run.step call) (c.toValue mark) groups m = (.ok v, m') →
      ∀ p, p <+: groups → ∃ w w' m₁,
        Run.calls (Run.step call) (c.toValue mark) p m = (.ok w, m₁) ∧
        Run.calls (Run.step call) (c.unchecked.toValue mark') p m = (.ok w', m₁) ∧
        SameButChecks w w' := by
  refine ⟨fun arguments required received => ?_, fun c' arguments arguments' harity hslots hargs
    required received => ?_, fun call mark mark' arguments m m' name required received h => ?_, ?_⟩
  · rw [raisesArity_iff, raisesArity_iff]
    exact Iff.rfl
  · exact raisesArity_congr harity hslots hargs
  · exact step_unchecked_of_error (Fault.not_isOfCheck_arity _ _ _) h mark'
  · intro call mark mark' groups m m' v h p hp
    obtain ⟨w, m₁, hw⟩ := Run.calls_of_isPrefix hp h
    have hstart : SameButChecks (c.toValue mark) (c.unchecked.toValue mark') :=
      .inr ⟨c, mark, mark', rfl, rfl⟩
    obtain ⟨w', hw', hrel⟩ := hstart.calls hw
    exact ⟨w, w', m₁, hw, hw', hrel⟩

omit [Host] in
/-- The first of two slots is filled last, and the answer is a function that the chain goes on to
call. -/
theorem checks_transparent_over_application : letI : Host := .bare
    let c := fresh ⟨"f", [.var ⟨"a", .given 0⟩, .var ⟨"a", .given 0⟩], .anything, []⟩
      (.constant 0 (.collecting 1 (.fixed 1)) (.fixed 2)) (some Ty.environment)
    let c' := fresh ⟨"g", [.string, .string], .string, []⟩ .null none
    let many := [.int 1, .placeholder, .text "x"]
    let groups := [[.placeholder, .int 1], [.int 2], [.text "x"]]
    (c'.RaisesArity [.null, .placeholder, .null] 2 3 ↔ c.RaisesArity many 2 3) ∧
    Run.step Run.call (c.toValue 0) many (.start none) = (.error (.arity "f" 2 3), .start none) ∧
    Run.step Run.call (c.unchecked.toValue 0) many (.start none) =
      (.error (.arity "f" 2 3), .start none) ∧
    Run.calls (Run.step Run.call) (c.toValue 0) groups (.start none) =
      (.ok (.list [.text "x"]), .advance (.start none)) ∧
    ∃ w w' m, Run.calls (Run.step Run.call) (c.toValue 0) groups (.start none) = (.ok w, m) ∧
      Run.calls (Run.step Run.call) (c.unchecked.toValue 0) groups (.start none) = (.ok w', m) ∧
      SameButChecks w w' := by
  let _ : Host := .bare
  intro c c' many groups
  have hmany : Run.step Run.call (c.toValue 0) many (.start none) =
      (.error (.arity "f" 2 3), .start none) := by rfl
  have hchain : Run.calls (Run.step Run.call) (c.toValue 0) groups (.start none) =
      (.ok (.list [.text "x"]), .advance (.start none)) := by rfl
  obtain ⟨-, hcongr, hfault, hanswers⟩ := checks_transparent c
  exact ⟨hcongr c' many [.null, .placeholder, .null] rfl rfl rfl 2 3, hmany,
    hfault _ _ 0 _ _ _ _ _ _ hmany, hchain,
    hanswers _ _ 0 _ _ _ _ hchain groups (List.prefix_refl _)⟩

end CheckedCurry.Curried
