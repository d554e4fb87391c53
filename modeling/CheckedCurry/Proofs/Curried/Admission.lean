import CheckedCurry.Proofs.Run.Calls
import CheckedCurry.Proofs.Signature.Coherence

/-!
# When the implementation runs

A checked function checks each argument as it comes, against the arguments it has so far.  Whatever
the order in which values are supplied, and however they are grouped into calls, the outcome is that
of one question about all values at once: is there an assignment that admits them?

- `Curried.Supplies`: calls, one after the other, that supply given values.
- `supply?_eq_ok_iff`: one call, given that what is filled is coherent.
- `calls_of_supplies`: all calls, by induction on how they supply the values.
- `invoked_iff_admitted`: the law, for the arguments and for the result.
-/

namespace CheckedCurry.Curried

/-! ## Supplying values -/

/-- A call offers values to the slots they are meant for. -/
structure Offers (vs slots arguments : List Value) : Prop where
  /-- An argument that meets an open slot is the value for that slot, or a placeholder. -/
  meeting : ∀ (i : Nat) (w : Value), slots[i]? = some w → w.isOpen = true →
    ∀ a, arguments[(slots.take i).countP Value.isOpen]? = some a → a.isOpen = true ∨ vs[i]? = some a
  /-- An argument beyond the open slots is a placeholder. -/
  beyond : ∀ a ∈ arguments.drop (slots.countP Value.isOpen), a.isOpen = true

/-- Calls, each on the answer of the one before, offer values to slots until all slots are filled,
and no longer.  The slots after a call are the ones that the next call finds. -/
inductive Supplies (vs : List Value) : List Value → List (List Value) → Prop
  | last {slots arguments : List Value} (offers : Offers vs slots arguments)
      (full : isSaturated (fill slots arguments) = true) : Supplies vs slots [arguments]
  | more {slots arguments : List Value} {groups : List (List Value)}
      (offers : Offers vs slots arguments) (left : isSaturated (fill slots arguments) = false)
      (rest : Supplies vs (fill slots arguments) groups) : Supplies vs slots (arguments :: groups)

theorem Supplies.length_pos {vs slots : List Value} {groups : List (List Value)}
    (h : Supplies vs slots groups) : 0 < groups.length := by
  cases h <;> simp

/-- What is filled holds the values that are meant for it. -/
def Holds (vs slots : List Value) : Prop :=
  ∀ (i : Nat) (w : Value), slots[i]? = some w → w.isOpen = false → vs[i]? = some w

/-- A call that offers values leaves them where they are meant to be. -/
theorem Offers.holds {vs slots arguments : List Value} (hoffers : Offers vs slots arguments)
    (h : Holds vs slots) : Holds vs (fill slots arguments) := by
  intro i u hu hclosed
  rcases getElem?_of_getElem?_fill hu with hu | ⟨w, hw, hopen, -, harg⟩
  · exact h i u hu hclosed
  · rcases hoffers.meeting i w hw hopen u harg with hopen' | hu
    · rw [hclosed] at hopen'
      cases hopen'
    · exact hu

/-- Slots that are all filled hold all values. -/
theorem Holds.eq_of_isSaturated {vs slots : List Value} (h : Holds vs slots)
    (hlen : slots.length = vs.length) (hfull : isSaturated slots = true) : slots = vs := by
  rw [isSaturated_iff_closed] at hfull
  refine List.ext_getElem hlen fun i hi hi' => ?_
  have hv := h i _ (List.getElem?_eq_getElem hi) (hfull _ (List.getElem_mem hi))
  rw [List.getElem?_eq_getElem hi'] at hv
  exact (Option.some.inj hv).symm

theorem holds_replicate (vs : List Value) (n : Nat) : Holds vs (List.replicate n .placeholder) := by
  intro i w hw hclosed
  obtain rfl := List.eq_of_mem_replicate (List.mem_of_getElem? hw)
  cases hclosed

variable [Host]

/-! ## One call -/

section Checked

variable {c : Curried} {environment : List Ty} {slots arguments : List Value}

/-- What is coherent after a call was coherent before. -/
theorem coherent_of_fill {s : Signature} {front : List Value}
    (h : s.Coherent (front ++ fill slots arguments)) : s.Coherent (front ++ slots) := by
  obtain ⟨σ, hσ⟩ := h
  refine ⟨σ, hσ.of_kept fun i v hv hclosed => ?_⟩
  rcases Nat.lt_or_ge i front.length with hi | hi
  · rw [List.getElem?_append_left hi] at hv ⊢
    exact hv
  · rw [List.getElem?_append_right hi] at hv ⊢
    exact getElem?_fill_closed hv hclosed arguments

/-- An argument for an open slot passes its check if the slots are coherent with it. -/
theorem checkArgument_eq_ok_iff (henv : c.environment = some environment) {i : Nat} {v w : Value}
    (hlen : slots.length = c.signature.arity) (hcoherent : c.signature.Coherent slots)
    (hw : slots[i]? = some w) (hopen : w.isOpen = true) (hclosed : v.isOpen = false) :
    c.checkArgument slots i v = .ok () ↔ c.signature.Coherent (slots.set i v) := by
  have hle : slots.length ≤ c.signature.types.length := Signature.length_le_types hlen
  have hlt : i < c.signature.types.length :=
    Nat.lt_of_lt_of_le (List.getElem?_eq_some_iff.mp hw).1 hle
  have ht : c.signature.types[i]? = some c.signature.types[i] := List.getElem?_eq_getElem hlt
  have hexcept : ∀ u, slots[i]? = some u → u.isOpen = true := by
    intro u hu
    obtain rfl := Option.some.inj (hw.symm.trans hu)
    exact hopen
  simp only [checkArgument, henv, Signature.checkArgument, ht]
  rw [Signature.checkAt_eq_ok_iff hle hexcept hcoherent]
  exact exists_congr fun σ => (Signature.admitsFilled_set ht hw hopen hclosed).symm

/-- The checks of a call pass if the slots are coherent with all its arguments.  The induction is on
the slots that the call has not passed yet; they are coherent whenever a check is made. -/
theorem feed_eq_ok_iff (henv : c.environment = some environment) {done : List Value}
    (hlen : (done ++ slots).length = c.signature.arity)
    (hcoherent : c.signature.Coherent (done ++ slots)) :
    (∃ filled, feed c.checkArgument done slots arguments = .ok filled) ↔
      c.signature.Coherent (done ++ fill slots arguments) := by
  induction slots generalizing done arguments with
  | nil => exact ⟨fun _ => hcoherent, fun _ => ⟨done, rfl⟩⟩
  | cons v slots ih =>
    have hassoc (w : Value) (ws : List Value) : done ++ w :: ws = done ++ [w] ++ ws := by simp
    have hlen' (w : Value) : (done ++ [w] ++ slots).length = c.signature.arity := by
      rw [← hlen]
      simp
    by_cases hopen : v.isOpen
    · cases arguments with
      | nil =>
        rw [fill_no_arguments, feed_no_arguments]
        exact ⟨fun _ => hcoherent, fun _ => ⟨_, rfl⟩⟩
      | cons a rest =>
        rw [fill_cons_open hopen]
        by_cases ha : a.isOpen
        · rw [feed_placeholder hopen ha, meet, if_pos ha, hassoc v (fill slots rest)]
          exact ih (hlen' v) (hassoc v slots ▸ hcoherent)
        · have hclosed : a.isOpen = false := by simpa using ha
          have hset : (done ++ v :: slots).set done.length a = done ++ [a] ++ slots := by simp
          have hcheck := checkArgument_eq_ok_iff henv hlen hcoherent (i := done.length) (by simp)
            hopen hclosed
          rw [hset] at hcheck
          rw [feed_value hopen hclosed, meet, if_neg ha, hassoc a (fill slots rest)]
          -- the check decides whether the slots up to here are coherent
          constructor
          · rintro ⟨filled, h⟩
            obtain ⟨_, hpass, hrest⟩ := bind_eq_ok.mp h
            exact (ih (hlen' a) (hcheck.mp hpass)).mp ⟨filled, hrest⟩
          · intro h
            have hcoherent' := coherent_of_fill h
            obtain ⟨filled, hrest⟩ := (ih (hlen' a) hcoherent').mpr h
            exact ⟨filled, bind_eq_ok.mpr ⟨(), hcheck.mpr hcoherent', hrest⟩⟩
    · have hclosed : v.isOpen = false := by simpa using hopen
      rw [fill_cons_closed hclosed, feed_closed hclosed, hassoc v (fill slots arguments)]
      exact ih (hlen' v) (hassoc v slots ▸ hcoherent)

/-- A call without a surplus supplies slots if and only if they are coherent. -/
theorem supply?_eq_ok_iff (henv : c.environment = some environment)
    (hlen : c.slots.length = c.signature.arity) (hcoherent : c.signature.Coherent c.slots)
    (hnone : c.hasSurplus arguments = false) :
    c.supply? arguments = .ok (fill c.slots arguments) ↔
      c.signature.Coherent (fill c.slots arguments) := by
  have hiff : (∃ filled, feed c.checkArgument [] c.slots arguments = .ok filled) ↔
      c.signature.Coherent (fill c.slots arguments) := feed_eq_ok_iff henv hlen hcoherent
  rw [← hiff, supply?_eq, hnone, if_neg Bool.false_ne_true]
  constructor
  · intro h
    exact ⟨_, h⟩
  · rintro ⟨filled, h⟩
    rw [h, eq_fill_of_feed h, List.nil_append]

/-- What calls supply to coherent slots is coherent, if all its checks pass. -/
theorem coherent_of_supplyAll? {c : Curried} {environment : List Ty} {groups : List (List Value)}
    {slots : List Value} (henv : c.environment = some environment)
    (hlen : c.slots.length = c.signature.arity) (hcoherent : c.signature.Coherent c.slots)
    (h : c.supplyAll? groups = .ok slots) :
    slots.length = c.signature.arity ∧ c.signature.Coherent slots := by
  induction groups using List.reverseRecOn generalizing slots with
  | nil =>
    obtain rfl := Except.ok.inj h
    exact ⟨hlen, hcoherent⟩
  | append_singleton groups arguments ih =>
    -- what the earlier calls have filled is coherent, and the last call keeps that
    rw [supplyAll?_concat] at h
    obtain ⟨middle, hmiddle, hlast⟩ := bind_eq_ok.mp h
    obtain ⟨hlength, hmiddleCoherent⟩ := ih hmiddle
    obtain ⟨hnone, rfl⟩ := eq_fill_of_supply? hlast
    refine ⟨by rw [length_fill, hlength], ?_⟩
    exact (supply?_eq_ok_iff (c := { c with slots := middle }) henv hlength hmiddleCoherent
      hnone).mp hlast

/-- The check of a result passes if some assignment admits it together with all arguments. -/
theorem checkResult_eq_ok_iff (henv : c.environment = some environment) {vs : List Value}
    {r : Value} (hlen : vs.length = c.signature.arity) (hcoherent : c.signature.Coherent vs) :
    c.checkResult vs r = .ok () ↔
      ∃ σ, c.signature.AdmitsFilled σ vs ∧ c.signature.Admits σ c.signature.returns r := by
  have hbeyond : ∀ w, vs[c.signature.arity]? = some w → w.isOpen = true := by
    intro w hw
    rw [Signature.getElem?_arity_eq_none hlen] at hw
    cases hw
  simp only [checkResult, henv, Signature.checkResult]
  exact Signature.checkAt_eq_ok_iff (Signature.length_le_types hlen) hbeyond hcoherent

end Checked

/-! ## Chains of calls -/

open Run (complete calls step)

section Calls

variable {c : Curried} {environment : List Ty} {arguments : List Value}

/-- A call whose arguments are coherent with the slots comes to the implementation or answers a
partial application. -/
theorem invoke_of_coherent (henv : c.environment = some environment)
    (hlen : c.slots.length = c.signature.arity) (hcoherent : c.signature.Coherent c.slots)
    (hnone : c.hasSurplus arguments = false)
    (h : c.signature.Coherent (fill c.slots arguments)) (call : Call) (m : Machine) :
    (isSaturated (fill c.slots arguments) = true →
      Run.invoke call c arguments m = complete call c (fill c.slots arguments) m) ∧
    (isSaturated (fill c.slots arguments) = false →
      Run.invoke call c arguments m =
        (.ok (({ c with slots := fill c.slots arguments } : Curried).toValue m.nextMark),
          m.advance)) := by
  have hs := (supply?_eq_ok_iff henv hlen hcoherent hnone).mpr h
  exact ⟨fun hfull => by rw [Run.invoke_saturated hs hfull],
    fun hopen => Run.invoke_partial hs hopen call m⟩

/-- A call whose arguments are not coherent with the slots raises, whatever the implementation. -/
theorem invoke_of_not_coherent (henv : c.environment = some environment)
    (hlen : c.slots.length = c.signature.arity) (hcoherent : c.signature.Coherent c.slots)
    (hnone : c.hasSurplus arguments = false)
    (h : ¬ c.signature.Coherent (fill c.slots arguments)) (m : Machine) :
    ∃ fault m', ∀ call : Call, Run.invoke call c arguments m = (.error fault, m') := by
  cases hs : c.supply? arguments with
  | ok slots =>
    rw [(eq_fill_of_supply? hs).2] at hs
    exact absurd ((supply?_eq_ok_iff henv hlen hcoherent hnone).mp hs) h
  | error p =>
    obtain ⟨m', hfault, -⟩ := Run.ofChecked_error (α := Value) p m
    exact ⟨p.fault, m', fun call => by rw [Run.invoke_error hs, hfault]⟩

/-- Calls that supply values to coherent slots come to the implementation if all the values are
coherent, and to a fault on the way if they are not.  The induction is on the calls; what is filled
is coherent and holds the values that are meant for it. -/
theorem calls_of_supplies {vs slots : List Value} {groups : List (List Value)}
    (henv : c.environment = some environment) (hlen : vs.length = c.signature.arity)
    (hsupplies : Supplies vs slots groups) (hslots : slots.length = c.signature.arity)
    (hholds : Holds vs slots) (hcoherent : c.signature.Coherent slots) (mark : Nat) (m : Machine) :
    (c.signature.Coherent vs → ∀ call : Call,
      calls (step call) (({ c with slots := slots } : Curried).toValue mark) groups m =
        complete call c vs (Machine.advance^[groups.length - 1] m)) ∧
    (¬ c.signature.Coherent vs → ∃ fault m', ∀ call : Call,
      calls (step call) (({ c with slots := slots } : Curried).toValue mark) groups m =
        (.error fault, m')) := by
  induction hsupplies generalizing mark m with
  | @last slots arguments offers full =>
    let now : Curried := { c with slots := slots }
    have hnone : now.hasSurplus arguments = false := hasSurplus_eq_false_iff.mpr offers.beyond
    -- no slot is open any more, so the slots hold all values
    obtain rfl : fill slots arguments = vs :=
      (offers.holds hholds).eq_of_isSaturated (by rw [length_fill, hslots, hlen]) full
    have hcalls (call : Call) : calls (step call) (now.toValue mark) [arguments] =
        Run.invoke call now arguments := by
      rw [Run.calls_singleton, Run.step_toValue]
    refine ⟨fun hall call => ?_, fun hclash => ?_⟩
    · rw [hcalls]
      exact (invoke_of_coherent (c := now) henv hslots hcoherent hnone hall call m).1 full
    · obtain ⟨fault, m', hraise⟩ :=
        invoke_of_not_coherent (c := now) henv hslots hcoherent hnone hclash m
      exact ⟨fault, m', fun call => by rw [hcalls, hraise]⟩
  | @more slots arguments groups offers left rest ih =>
    let now : Curried := { c with slots := slots }
    have hnone : now.hasSurplus arguments = false := hasSurplus_eq_false_iff.mpr offers.beyond
    have hholds' := offers.holds hholds
    by_cases hnext : c.signature.Coherent (fill slots arguments)
    · -- the answer is a partial application, and the other calls go on with it
      have hcalls (call : Call) : calls (step call) (now.toValue mark) (arguments :: groups) m =
          calls (step call) (({ c with slots := fill slots arguments } : Curried).toValue
            m.nextMark) groups m.advance := by
        have hanswer :=
          (invoke_of_coherent (c := now) henv hslots hcoherent hnone hnext call m).2 left
        rw [Run.calls_cons, Run.step_toValue, Run.bind_of_ok hanswer]
      obtain ⟨hinvoked, hraised⟩ :=
        ih (by rw [length_fill, hslots]) hholds' hnext m.nextMark m.advance
      obtain ⟨k, hk⟩ : ∃ k, groups.length = k + 1 := Nat.exists_eq_add_one.mpr rest.length_pos
      refine ⟨fun hall call => ?_, fun hclash => ?_⟩
      · rw [hcalls, hinvoked hall, List.length_cons, hk, Nat.add_sub_cancel, Nat.add_sub_cancel,
          Function.iterate_succ_apply]
      · obtain ⟨fault, m', hraise⟩ := hraised hclash
        exact ⟨fault, m', fun call => by rw [hcalls, hraise]⟩
    · -- the values of this call are among all values, so these are not coherent either
      refine ⟨fun ⟨σ, hσ⟩ => absurd ⟨σ, hσ.of_kept hholds'⟩ hnext, fun _ => ?_⟩
      obtain ⟨fault, m', hraise⟩ :=
        invoke_of_not_coherent (c := now) henv hslots hcoherent hnone hnext m
      refine ⟨fault, m', fun call => ?_⟩
      rw [Run.calls_cons, Run.step_toValue, Run.bind_of_error (hraise call)]

end Calls

/-- A run that ends in one fault whatever is called does not come to the implementation. -/
theorem not_forall_complete {c : Curried} {vs : List Value} {m m' : Machine} {fault : Fault Value}
    (h : ∀ call : Call, complete call c vs m = (.error fault, m')) : False := by
  -- an implementation that fails too, but leaves another machine behind
  have hother := h fun _ _ _ => (.error fault, m'.advance)
  rw [Run.complete_of_error rfl] at hother
  have hmark : m'.nextMark + 1 = m'.nextMark := congrArg (fun r => r.2.nextMark) hother
  omega

/-- **The law of checked calls.**  Let calls of a checked function, each on the answer of the one
before, supply the values `vs`, in whatever order and however they are grouped.

The implementation is called if and only if some assignment of unifiers to type variables admits all
values at the types of their parameters.  It is then called by the last call, with the values in
the order of the parameters; otherwise one of the calls raises, and the implementation has no part
in it.

When the implementation answers `r`, the last call answers `r` if and only if some assignment admits
all values and also `r` at the type of the result; otherwise it raises. -/
theorem invoked_iff_admitted {s : Signature} {f : Value} {environment : List Ty}
    {vs : List Value} {groups : List (List Value)} (hlen : vs.length = s.arity)
    (hvs : ∀ v ∈ vs, v.isOpen = false)
    (hsupplies : Supplies vs (fresh s f (some environment)).slots groups) (mark : Nat)
    (m : Machine) :
    let c := fresh s f (some environment)
    let run := fun call : Call => calls (step call) (c.toValue mark) groups m
    let ready := Machine.advance^[groups.length - 1] m
    ((∀ call : Call, run call = complete call c vs ready) ↔ ∃ σ, s.AdmitsAll σ vs) ∧
    ((¬ ∃ σ, s.AdmitsAll σ vs) → ∃ fault m', ∀ call : Call, run call = (.error fault, m')) ∧
    ((∃ σ, s.AdmitsAll σ vs) → ∀ (call : Call) (r : Value) (m₁ : Machine),
      call f vs ready = (.ok r, m₁) →
      (run call = (.ok r, m₁) ↔ ∃ σ, s.AdmitsAll σ vs ∧ s.Admits σ s.returns r) ∧
      ((¬ ∃ σ, s.AdmitsAll σ vs ∧ s.Admits σ s.returns r) →
        ∃ fault m', run call = (.error fault, m'))) := by
  intro c run ready
  have hfilled (σ : TypeVar → String) : s.AdmitsFilled σ vs ↔ s.AdmitsAll σ vs :=
    Signature.admitsFilled_iff_admitsAll hlen hvs
  have hall : s.Coherent vs ↔ ∃ σ, s.AdmitsAll σ vs := exists_congr hfilled
  obtain ⟨hinvoked, hraised⟩ := calls_of_supplies (c := c) rfl hlen hsupplies
    List.length_replicate (holds_replicate vs s.arity) (Signature.coherent_placeholders s _) mark m
  rw [← hall]
  refine ⟨⟨fun h => ?_, hinvoked⟩, hraised, fun hcoherent call r m₁ hr => ?_⟩
  · by_contra hclash
    obtain ⟨fault, m', hraise⟩ := hraised hclash
    exact not_forall_complete fun call => (h call).symm.trans (hraise call)
  · have hrun : run call = complete call c vs ready := hinvoked hcoherent call
    have hresult : c.checkResult vs r = .ok () ↔
        ∃ σ, s.AdmitsAll σ vs ∧ s.Admits σ s.returns r := by
      rw [checkResult_eq_ok_iff (c := c) rfl hlen hcoherent]
      exact exists_congr fun σ => and_congr_left' (hfilled σ)
    rw [← hresult, hrun]
    cases hcheck : c.checkResult vs r with
    | ok =>
      exact ⟨⟨fun _ => rfl, fun _ => Run.complete_of_ok hr hcheck⟩, fun h => absurd rfl h⟩
    | error p =>
      obtain ⟨m₂, hfault⟩ := Run.complete_of_rejected hr hcheck
      rw [hfault]
      exact ⟨⟨fun h => (by cases h), fun h => (by cases h)⟩, fun _ => ⟨p.fault, m₂, rfl⟩⟩

omit [Host] in
/-- The second of two slots is filled first.  That the run answers shows that an assignment admits
the values and the result. -/
theorem invoked_iff_admitted_out_of_order : letI : Host := .bare
    let a : TypeVar := ⟨"a", .given 0⟩
    let s : Signature := ⟨"f", [.var a, .array (.var a)], .var a, [(a, [.ofOperation .equals])]⟩
    let f := Value.constant 0 (.int 5) (.fixed 2)
    let vs := [.int 1, .list [.int 2, .int 3]]
    let groups := [[.placeholder, .list [.int 2, .int 3]], [.int 1, .placeholder]]
    vs.length = s.arity ∧ (∀ v ∈ vs, v.isOpen = false) ∧
    Supplies vs (fresh s f (some Ty.environment)).slots groups ∧
    calls (step Run.call) ((fresh s f (some Ty.environment)).toValue 0) groups (.start none) =
      (.ok (.int 5), .advance (.start none)) ∧
    ∃ σ, s.AdmitsAll σ vs ∧ s.Admits σ s.returns (.int 5) := by
  let _ : Host := .bare
  intro a s f vs groups
  have hlen : vs.length = s.arity := rfl
  have hvs : ∀ v ∈ vs, v.isOpen = false := by decide
  have hfirst : Offers vs [.placeholder, .placeholder] [.placeholder, .list [.int 2, .int 3]] := by
    refine ⟨fun i w hw _ u hu => ?_, fun u hu => absurd hu List.not_mem_nil⟩
    rcases i with _ | _ | i
    · cases hu
      exact .inl rfl
    · exact .inr hu
    · cases hw
  have hsecond : Offers vs [.placeholder, .list [.int 2, .int 3]] [.int 1, .placeholder] := by
    refine ⟨fun i w hw hopen u hu => ?_, fun u hu => List.eq_of_mem_singleton hu ▸ rfl⟩
    rcases i with _ | _ | i
    · exact .inr hu
    · cases hw
      cases hopen
    · cases hw
  have hsupplies : Supplies vs (fresh s f (some Ty.environment)).slots groups :=
    .more hfirst rfl (.last hsecond rfl)
  have hrun : calls (step Run.call) ((fresh s f (some Ty.environment)).toValue 0) groups
      (.start none) = (.ok (.int 5), .advance (.start none)) := by rfl
  obtain ⟨-, hraised, hresult⟩ := invoked_iff_admitted hlen hvs hsupplies 0 (.start none)
  have hadmits : ∃ σ, s.AdmitsAll σ vs := by
    by_contra hnone
    obtain ⟨fault, m', hraise⟩ := hraised hnone
    cases hrun.symm.trans (hraise Run.call)
  exact ⟨hlen, hvs, hsupplies, hrun, (hresult hadmits Run.call _ _ rfl).1.mp hrun⟩

end CheckedCurry.Curried
