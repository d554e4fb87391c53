import CheckedCurry.Proofs.Curried.Raised
import CheckedCurry.Proofs.Signature.Rejection

/-!
# What an accessibility error is about

Where a signature has the type of accessible values, a null value is reported by its index alone,
and the message calls it an argument.  The index is that of a parameter if an argument is null.  But
a result is checked at the index after the last parameter, and is reported in the same way, so that
the message is then about an argument that does not exist.

- `Curried.Supplied`: the value that a chain of calls supplies for a parameter.
- `Curried.Answers`: what the implementation, called with all its arguments, answers.
- `ComesTo.supplied_or_answers`: a value that is checked is one of these.
- `accessibility_traced`: what the index of an accessibility error says, in every chain of calls.
-/

namespace CheckedCurry

variable [Host]

namespace Signature

variable {s : Signature} {environment : List Ty} {slots : List Value} {index i : Nat} {v : Value}
  {r : Rejection} {name : String}

/-! ## Rejections of null values -/

/-- A value that has a misfit with the type of accessible values is null. -/
theorem isNullish_of_misfit? {m : Ty.Misfit} (h : (Ty.accessible name).misfit? v = .ok (some m)) :
    v.isNullish = true := by
  unfold Ty.misfit? at h
  obtain ⟨passed, htest, h⟩ := bind_eq_ok.mp h
  cases passed with
  | true => cases h
  | false =>
    have hfails : (!v.isNullish) = false := Except.ok.inj htest
    simpa using hfails

/-- An accessibility error reports a null value, where the type at the index is that of accessible
values. -/
theorem accessible_of_rejects (h : s.Rejects slots index v r)
    (hfault : s.rejectionFault environment index v r = .ok (.accessibility name i)) :
    name = s.name ∧ i = index ∧ v.isNullish = true ∧
      ∃ t, s.types[index]? = some t ∧ t.isAccessible = true := by
  cases r with
  | misfit m =>
    cases h with
    | @misfit t _ ht hfails =>
      replace hfault : s.misfitFault environment index v m = .ok (.accessibility name i) := hfault
      unfold misfitFault at hfault
      split at hfault
      · next htype hpath =>
        -- the misfit is at the top, so the type that rejects is the whole type
        obtain rfl := (misfit?_type hfails hpath).symm.trans htype
        obtain ⟨rfl, rfl⟩ := Fault.accessibility.inj (Except.ok.inj hfault)
        exact ⟨rfl, rfl, isNullish_of_misfit? hfails, _, ht, rfl⟩
      · obtain ⟨entry, -, hfault⟩ := bind_eq_ok.mp hfault
        cases hfault
  | lack b c =>
    obtain ⟨entry, -, heq⟩ := eq_of_lackFault hfault
    cases heq
  | clash a group =>
    obtain ⟨entries, -, heq⟩ := eq_of_clashFault hfault
    cases heq

/-- A null value where the type is that of accessible values is reported by its index. -/
theorem checkAt_nullish {t : Ty} (ht : t.isAccessible = true) (hnull : v.isNullish = true) : ∃ p,
    s.checkAt environment slots index t v = .error p ∧ p.fault = .accessibility s.name index := by
  obtain ⟨name, rfl⟩ := Ty.isAccessible_iff.mp ht
  unfold Value.isNullish at hnull
  split at hnull
  · exact ⟨_, rfl, rfl⟩
  · exact ⟨_, rfl, rfl⟩
  · cases hnull

end Signature

namespace Curried

open Run (calls step)

variable {call : Call} {c : Curried} {groups : List (List Value)} {arguments slots : List Value}
  {m : Machine} {index : Nat} {v : Value} {environment : List Ty}

/-! ## Arguments and answers -/

/-- A chain of calls supplies a value for the parameter at an index: one of its calls, after others
that have left slots open, has the value for the open slot at the index. -/
inductive Supplied : Curried → List (List Value) → Nat → Value → Prop
  | now {c : Curried} {arguments : List Value} {groups : List (List Value)} {index : Nat} {v : Value}
    (offered : (index, v) ∈ c.openSlots.zip arguments) (closed : v.isOpen = false) :
    Supplied c (arguments :: groups) index v
  | later {c : Curried} {arguments slots : List Value} {groups : List (List Value)} {index : Nat}
    {v : Value} (supplied : c.supply? arguments = .ok slots) (left : isSaturated slots = false)
    (rest : Supplied { c with slots := slots } groups index v) :
    Supplied c (arguments :: groups) index v

/-- All slots are filled by the calls of a chain, and the implementation, called with them, answers
a value. -/
inductive Answers (call : Call) : Curried → Machine → List (List Value) → Value → Prop
  | now {c : Curried} {m m₁ : Machine} {arguments slots : List Value} {groups : List (List Value)}
    {r : Value} (supplied : c.supply? arguments = .ok slots) (full : isSaturated slots = true)
    (answered : call c.implementation slots m = (.ok r, m₁)) :
    Answers call c m (arguments :: groups) r
  | later {c : Curried} {m : Machine} {arguments slots : List Value} {groups : List (List Value)}
    {r : Value} (supplied : c.supply? arguments = .ok slots) (left : isSaturated slots = false)
    (rest : Answers call { c with slots := slots } m.advance groups r) :
    Answers call c m (arguments :: groups) r

omit [Host] in
/-- An open slot is a slot. -/
theorem lt_of_mem_openSlots (h : index ∈ c.openSlots) : index < c.slots.length := by
  obtain ⟨n, hn⟩ := List.mem_iff_getElem?.mp h
  obtain ⟨i, w, rfl, hw, -⟩ := exists_slot_of_openFrom hn
  rw [Nat.zero_add]
  exact (List.getElem?_eq_some_iff.mp hw).1

/-- A value that is checked is supplied for a parameter, or it is what the implementation answers.
The induction is on the calls that come to the check. -/
theorem ComesTo.supplied_or_answers (h : ComesTo call c m groups slots index v)
    (hlen : c.slots.length = c.signature.arity) :
    (index < c.signature.arity ∧ Supplied c groups index v) ∨
      (index = c.signature.arity ∧ Answers call c m groups v) := by
  induction h with
  | @argument c m arguments groups front back slots index v fits place passed closed =>
    have hmem : (index, v) ∈ c.openSlots.zip arguments := by
      rw [place]
      simp
    exact .inl ⟨hlen ▸ lt_of_mem_openSlots (List.of_mem_zip hmem).1, .now hmem closed⟩
  | result supplied full answered => exact .inr ⟨rfl, .now supplied full answered⟩
  | later supplied left rest ih =>
    obtain ⟨-, rfl⟩ := eq_fill_of_supply? supplied
    rcases ih (by rw [length_fill]; exact hlen) with ⟨hlt, hsupplied⟩ | ⟨hindex, hanswers⟩
    · exact .inl ⟨hlt, .later supplied left hsupplied⟩
    · exact .inr ⟨hindex, .later supplied left hanswers⟩

/-! ## Accessibility errors -/

/-- A null answer, where the result should be accessible, ends the chain in an accessibility error
with the index after the last parameter. -/
theorem Answers.calls_nullish {r : Value} (h : Answers call c m groups r)
    (henv : c.environment = some environment) (hreturns : c.signature.returns.isAccessible = true)
    (hnull : r.isNullish = true) (mark : Nat) :
    ∃ m', calls (step call) (c.toValue mark) groups m =
      (.error (.accessibility c.signature.name c.signature.arity), m') := by
  induction h generalizing mark with
  | @now c m m₁ arguments slots groups r supplied full answered =>
    obtain ⟨p, hcheck, hp⟩ : ∃ p, c.checkResult slots r = .error p ∧
        p.fault = .accessibility c.signature.name c.signature.arity := by
      simp only [checkResult, henv, Signature.checkResult]
      exact Signature.checkAt_nullish hreturns hnull
    obtain ⟨m₂, hfault⟩ := Run.complete_of_rejected answered hcheck
    rw [hp] at hfault
    refine ⟨m₂, ?_⟩
    rw [Run.calls_cons, Run.step_toValue, Run.invoke_saturated supplied full]
    exact Run.bind_of_error hfault _
  | @later c m arguments slots groups r supplied left rest ih =>
    obtain ⟨m', hrest⟩ := ih henv hreturns hnull m.nextMark
    refine ⟨m', ?_⟩
    rw [Run.calls_cons, Run.step_toValue, Run.bind_of_ok (Run.invoke_partial supplied left call m)]
    exact hrest

/-- **What an accessibility error says.**  A chain of calls of a checked function ends in such an
error if the error is raised inside the implementation, or if the function has rejected a null
value.  Then it names the function, and there are two ways to read the index.  Below the number of
parameters, it is that of a parameter whose type is that of accessible values, and a null value has
been supplied for it.  Otherwise it is the number of parameters, and no argument is meant: the type
of the result is that of accessible values, and the implementation has answered a null value.

Whenever the implementation of such a function answers a null value, the second way occurs. -/
theorem accessibility_traced {mark : Nat} (henv : c.environment = some environment)
    (hlen : c.slots.length = c.signature.arity) (hopen : c.LeaveOpen groups) :
    (∀ name index m', calls (step call) (c.toValue mark) (groups ++ [arguments]) m =
        (.error (.accessibility name index), m') →
      RaisesInside call c m (groups ++ [arguments]) (.accessibility name index) ∨
      (name = c.signature.name ∧
        ((index < c.signature.arity ∧
            (∃ t, c.signature.params[index]? = some t ∧ t.isAccessible = true) ∧
            ∃ v, v.isNullish = true ∧ Supplied c (groups ++ [arguments]) index v) ∨
          (index = c.signature.arity ∧ c.signature.returns.isAccessible = true ∧
            ∃ r, r.isNullish = true ∧ Answers call c m (groups ++ [arguments]) r)))) ∧
    ∀ r, c.signature.returns.isAccessible = true → r.isNullish = true →
      Answers call c m (groups ++ [arguments]) r →
      ∃ m', calls (step call) (c.toValue mark) (groups ++ [arguments]) m =
        (.error (.accessibility c.signature.name c.signature.arity), m') := by
  refine ⟨fun name index m' h => ?_, fun r hreturns hnull h =>
    h.calls_nullish henv hreturns hnull mark⟩
  refine (raisesInside_or_rejects henv hopen h (by simp) (by simp)).imp_right ?_
  rintro ⟨slots, i, v, r, hcomes, hrejects, hfault⟩
  obtain ⟨rfl, rfl, hnull, t, htype, haccessible⟩ :=
    Signature.accessible_of_rejects hrejects hfault
  refine ⟨rfl, ?_⟩
  rcases hcomes.supplied_or_answers hlen with ⟨hlt, hsupplied⟩ | ⟨rfl, hanswers⟩
  · rw [Signature.types_getElem?_of_lt hlt] at htype
    exact .inl ⟨hlt, ⟨t, htype, haccessible⟩, v, hnull, hsupplied⟩
  · rw [Signature.types_arity] at htype
    obtain rfl := Option.some.inj htype
    exact .inr ⟨rfl, haccessible, v, hnull, hanswers⟩

omit [Host] in
/-- A function of two parameters, the second of which is filled first with a null value; and a
function of one parameter whose answer is null, so that the message is about a second argument. -/
theorem accessibility_traced_at_both : letI : Host := .bare
    let f := fresh ⟨"f", [.anything, .nonNull], .anything, []⟩ (.constant 0 .yes (.fixed 2))
      (some Ty.environment)
    let g := fresh ⟨"g", [.anything], .nonNull, []⟩ (.constant 0 .null (.fixed 1))
      (some Ty.environment)
    f.slots.length = f.signature.arity ∧ g.slots.length = g.signature.arity ∧
    f.LeaveOpen [] ∧ g.LeaveOpen [] ∧
    (calls (step Run.call) (f.toValue 0) [[.placeholder, .undefined]] (.start none) =
        (.error (.accessibility "f" 1), .start none) ∧
      ∃ v, v.isNullish = true ∧ Supplied f [[.placeholder, .undefined]] 1 v) ∧
    ∃ m', calls (step Run.call) (g.toValue 0) [[.int 1]] (.start none) =
        (.error (.accessibility "g" 1), m') ∧
      Fault.message (.accessibility "g" 1) =
        .ok "The second argument to ‘g’ cannot be None or undefined" := by
  let _ : Host := .bare
  intro f g
  have hargument : calls (step Run.call) (f.toValue 0) ([] ++ [[.placeholder, .undefined]])
      (.start none) = (.error (.accessibility "f" 1), .start none) := by rfl
  have houtside : ¬ RaisesInside Run.call f (.start none) [[.placeholder, .undefined]]
      (.accessibility "f" 1) := not_raisesInside_of_refused rfl
  have hanswer : Answers Run.call g (.start none) ([] ++ [[.int 1]]) .null := .now rfl rfl rfl
  refine ⟨rfl, rfl, leaveOpen_nil f, leaveOpen_nil g, ⟨hargument, ?_⟩, ?_⟩
  · obtain ⟨-, hargs | ⟨hindex, -⟩⟩ :=
      ((accessibility_traced rfl rfl (leaveOpen_nil f)).1 _ _ _ hargument).resolve_left houtside
    · exact hargs.2.2
    · cases hindex
  · obtain ⟨m', hrun⟩ : ∃ m', calls (step Run.call) (g.toValue 0) ([] ++ [[.int 1]]) (.start none) =
        (.error (.accessibility "g" 1), m') :=
      (accessibility_traced rfl rfl (leaveOpen_nil g)).2 .null rfl rfl hanswer
    exact ⟨m', hrun, rfl⟩

end Curried

end CheckedCurry
