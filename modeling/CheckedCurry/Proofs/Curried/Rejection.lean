import CheckedCurry.Proofs.Curried.Admission
import CheckedCurry.Proofs.Curried.Grouping
import CheckedCurry.Proofs.Signature.Rejection

/-!
# Which error a call raises

A call of a checked function whose values are not all accepted ends in one error, whatever else is
wrong with the values.  The first slot that cannot be filled decides, and for this slot the order of
the checks.

- `Signature.slotsOf`: the slots of a fresh function that some values have filled.
- `Signature.checkAt_ne_ok`: the check at the first slot that cannot be filled does not pass.
- `supply?_of_rejected`: a call ends as the check at this slot does.
- `rejected_first`: the error that is raised.
-/

namespace CheckedCurry

variable [Host]

namespace Signature

variable {s : Signature} {σ : TypeVar → String} {vs : List Value}

/-- The slots of a function that has none filled before, after values without placeholders. -/
def slotsOf (s : Signature) (vs : List Value) : List Value :=
  vs ++ List.replicate (s.arity - vs.length) .placeholder

/-- Open slots after the filled ones take no part in what is admitted. -/
theorem admitsFilled_slotsOf (hvs : ∀ v ∈ vs, v.isOpen = false) (hlen : vs.length ≤ s.arity) :
    s.AdmitsFilled σ (s.slotsOf vs) ↔ s.AdmitsAll σ vs := by
  have htypes {i : Nat} (hi : i < vs.length) : s.types[i]? = s.params[i]? :=
    types_getElem?_of_lt (Nat.lt_of_lt_of_le hi hlen)
  constructor
  · intro h i t v ht hv
    have hi := (List.getElem?_eq_some_iff.mp hv).1
    exact h i t v ((htypes hi).trans ht) ((List.getElem?_append_left hi).trans hv)
      (hvs v (List.mem_of_getElem? hv))
  · intro h i t v ht hv hclosed
    rw [slotsOf] at hv
    rcases Nat.lt_or_ge i vs.length with hi | hi
    · rw [List.getElem?_append_left hi] at hv
      exact h i t v ((htypes hi).symm.trans ht) hv
    · rw [List.getElem?_append_right hi] at hv
      obtain rfl := List.eq_of_mem_replicate (List.mem_of_getElem? hv)
      cases hclosed

theorem coherent_slotsOf (hvs : ∀ v ∈ vs, v.isOpen = false) (hlen : vs.length ≤ s.arity) :
    s.Coherent (s.slotsOf vs) ↔ ∃ σ, s.AdmitsAll σ vs :=
  exists_congr fun _ => admitsFilled_slotsOf hvs hlen

/-- One more value is admitted together with the others. -/
theorem admitsAll_concat {t : Ty} {v : Value} (h : s.AdmitsAll σ vs)
    (ht : s.params[vs.length]? = some t) (hv : s.Admits σ t v) : s.AdmitsAll σ (vs ++ [v]) := by
  intro i u w hu hw
  rcases Nat.lt_or_ge i vs.length with hi | hi
  · rw [List.getElem?_append_left hi] at hw
    exact h i u w hu hw
  · rw [List.getElem?_append_right hi] at hw
    obtain ⟨hlt, hw⟩ := List.getElem?_eq_some_iff.mp hw
    rw [List.length_singleton] at hlt
    obtain rfl : i = vs.length := by omega
    obtain rfl := Option.some.inj (ht.symm.trans hu)
    simp only [List.getElem_singleton] at hw
    exact hw ▸ hv

/-- A value that is not admitted together with the values before it does not pass its check; a check
that passed would give an assignment for all of them. -/
theorem checkAt_ne_ok {environment : List Ty} {t : Ty} {v : Value}
    (hvs : ∀ v ∈ vs, v.isOpen = false) (ht : s.params[vs.length]? = some t)
    (hadmits : ∃ σ, s.AdmitsAll σ vs) (hfails : ¬ ∃ σ, s.AdmitsAll σ (vs ++ [v])) :
    s.checkAt environment (s.slotsOf vs) vs.length t v ≠ .ok () := by
  intro hpass
  have hlt : vs.length < s.arity := (List.getElem?_eq_some_iff.mp ht).1
  have hopen : ∀ w, (s.slotsOf vs)[vs.length]? = some w → w.isOpen = true := by
    intro w hw
    rw [slotsOf, List.getElem?_append_right (Nat.le_refl _)] at hw
    obtain rfl := List.eq_of_mem_replicate (List.mem_of_getElem? hw)
    rfl
  have hle : (s.slotsOf vs).length ≤ s.types.length := by
    rw [s.length_types, slotsOf, List.length_append, List.length_replicate]
    omega
  have hcoherent := (coherent_slotsOf hvs (Nat.le_of_lt hlt)).mpr hadmits
  obtain ⟨σ, hσ, hv⟩ := (checkAt_eq_ok_iff hle hopen hcoherent).mp hpass
  exact hfails ⟨σ, admitsAll_concat ((admitsFilled_slotsOf hvs (Nat.le_of_lt hlt)).mp hσ) ht hv⟩

/-! ## The bindings of earlier arguments -/

theorem Bound.append {i : Nat} {ts : List Ty} {old : List Ty.Binding} (h : Bound i ts vs old)
    (us : List Ty) : Bound i (ts ++ us) vs old := by
  induction h with
  | none i ts => exact .none i _
  | slot head _ ih => exact .slot head ih

theorem filledBindings_placeholders (except i k : Nat) (ts : List Ty) :
    filledBindings except i ts (List.replicate k .placeholder) = .ok [] := by
  induction k generalizing i ts with
  | zero => rfl
  | succ k ih =>
    rw [List.replicate_succ, filledBindings, ih]
    rfl

/-- A check looks at the bindings of the earlier arguments. -/
theorem filledBindings_of_bound {except i k : Nat} {ts : List Ty} {old : List Ty.Binding}
    (hvs : ∀ v ∈ vs, v.isOpen = false) (hlt : i + vs.length ≤ except) (h : Bound i ts vs old) :
    filledBindings except i ts (vs ++ List.replicate k .placeholder) = .ok old := by
  induction h with
  | none i ts => exact filledBindings_placeholders except i k ts
  | @slot i t ts v vs here rest head _ ih =>
    obtain ⟨hv, hvs⟩ := List.forall_mem_cons.mp hvs
    rw [List.length_cons] at hlt
    have hne : i ≠ except := by omega
    have hslot : slotBindings except i (some t) v = .ok here := by
      rw [slotBindings, if_neg (by simp [hv, hne])]
      exact head
    rw [List.cons_append, filledBindings]
    exact bind_eq_ok.mpr ⟨here, hslot, bind_eq_ok.mpr ⟨rest, ih hvs (by omega), rfl⟩⟩

/-- Members that can be reported on have bindings, and what they bind can be described. -/
theorem exists_bound {environment : List Ty} {i : Nat} {ts : List Ty} {vs : List Value}
    (hlen : vs.length ≤ ts.length)
    (h : ∀ (j : Nat) (t : Ty) (v : Value), ts[j]? = some t → vs[j]? = some v →
      Reportable environment t v ∧ t.misfit? v = .ok none) :
    ∃ old, Bound i ts vs old ∧ ∀ b ∈ old, ∃ entry, describe environment b.value = .ok entry := by
  induction vs generalizing i ts with
  | nil => exact ⟨[], .none i ts, fun b hb => absurd hb List.not_mem_nil⟩
  | cons v vs ih =>
    cases ts with
    | nil => simp at hlen
    | cons t ts =>
      obtain ⟨hreport, hmisfit⟩ := h 0 t v rfl rfl
      obtain ⟨here, hhere, hdescribed⟩ := exists_bindingsAt i hreport hmisfit
      obtain ⟨rest, hrest, hdescribed'⟩ := ih (i := i + 1) (Nat.le_of_succ_le_succ hlen)
        fun j t v ht hv => h (j + 1) t v ht hv
      exact ⟨here ++ rest, .slot hhere hrest, List.forall_mem_append.mpr ⟨hdescribed, hdescribed'⟩⟩

end Signature

namespace Curried

/-! ## The first slot that cannot be filled -/

omit [Host] in
/-- Values fill the first of the slots that are all open. -/
theorem fill_placeholders {vs : List Value} (hvs : ∀ v ∈ vs, v.isOpen = false) {n : Nat}
    (hlen : vs.length ≤ n) : fill (List.replicate n .placeholder) vs =
      vs ++ List.replicate (n - vs.length) .placeholder := by
  induction vs generalizing n with
  | nil => simp
  | cons v vs ih =>
    obtain ⟨hv, hvs⟩ := List.forall_mem_cons.mp hvs
    obtain ⟨k, rfl⟩ : ∃ k, n = k + 1 := Nat.exists_eq_add_one.mpr (Nat.lt_of_lt_of_le (by simp) hlen)
    rw [List.length_cons] at hlen ⊢
    rw [List.replicate_succ, fill_cons_open rfl, ih hvs (by omega), Nat.add_sub_add_right]
    simp [meet, hv]

omit [Host] in
/-- More values than parameters are a surplus, and nothing has been filled before them. -/
theorem surplus_of_arity_lt {s : Signature} {f : Value} {environment : Option (List Ty)}
    {arguments : List Value} (hclosed : ∀ a ∈ arguments, a.isOpen = false)
    (hmany : s.arity < arguments.length) :
    (fresh s f environment).hasSurplus arguments = true ∧
      (fresh s f environment).surplusFault arguments = .arity s.name s.arity arguments.length := by
  constructor
  · rw [← Bool.not_eq_false, hasSurplus_eq_false_iff, arity_fresh]
    intro hplaceholders
    have hmem : arguments[s.arity] ∈ arguments.drop s.arity := by
      rw [List.drop_eq_getElem_cons hmany]
      exact List.mem_cons_self ..
    have hopen := hplaceholders _ hmem
    rw [hclosed _ (List.getElem_mem hmany)] at hopen
    cases hopen
  · have hfilled : (fresh s f environment).filled = 0 := by
      show (List.replicate s.arity Value.placeholder).length - (fresh s f environment).arity = 0
      rw [List.length_replicate, arity_fresh, Nat.sub_self]
    rw [surplusFault, hfilled, Nat.zero_add]
    rfl

omit [Host] in
/-- What holds of no values and not of all of them ceases to hold with one of them. -/
theorem exists_first_failure {P : List Value → Prop} {vs : List Value} (hstart : P [])
    (hend : ¬ P vs) :
    ∃ before v after, vs = before ++ v :: after ∧ P before ∧ ¬ P (before ++ [v]) := by
  induction vs generalizing P with
  | nil => exact absurd hstart hend
  | cons v vs ih =>
    by_cases h : P [v]
    · obtain ⟨before, w, after, rfl, hbefore, hfails⟩ := ih (P := fun ws => P (v :: ws)) h hend
      exact ⟨v :: before, w, after, rfl, hbefore, hfails⟩
    · exact ⟨[], v, vs, rfl, hstart, h⟩

/-- A call passes the checks of the values before the first slot that cannot be filled, and ends as
the check at this slot does. -/
theorem supply?_of_rejected {s : Signature} {f : Value} {environment : List Ty}
    {before after : List Value} {t : Ty} {v : Value} {p : Problem}
    (hclosed : ∀ a ∈ before ++ v :: after, a.isOpen = false)
    (hlen : (before ++ v :: after).length ≤ s.arity) (hcoherent : s.Coherent (s.slotsOf before))
    (ht : s.params[before.length]? = some t)
    (hcheck : s.checkAt environment (s.slotsOf before) before.length t v = .error p) :
    (fresh s f (some environment)).supply? (before ++ v :: after) = .error p := by
  let c := fresh s f (some environment)
  obtain ⟨hbefore, hrest⟩ := List.forall_mem_append.mp hclosed
  obtain ⟨hv, -⟩ := List.forall_mem_cons.mp hrest
  simp only [List.length_append, List.length_cons] at hlen
  have hnone : c.hasSurplus (before ++ v :: after) = false := by
    refine hasSurplus_of_length_le ?_
    rw [arity_fresh, List.length_append, List.length_cons]
    exact hlen
  have hfill : fill c.slots before = s.slotsOf before := fill_placeholders hbefore (by omega)
  -- the values before the slot are coherent, so that all their checks pass
  have hpass : feed c.checkArgument [] c.slots before = .ok (fill c.slots before) := by
    have hends : s.Coherent ([] ++ fill c.slots before) := by rwa [List.nil_append, hfill]
    obtain ⟨filled, hfilled⟩ := (feed_eq_ok_iff (c := c) rfl List.length_replicate
      (coherent_of_fill hends)).mpr hends
    rw [hfilled, eq_fill_of_feed hfilled, List.nil_append]
  have htype : s.types[before.length]? = some t :=
    (Signature.types_getElem?_of_lt (by omega)).trans ht
  have hcheckArgument : c.checkArgument (s.slotsOf before) before.length v = .error p := by
    show s.checkArgument environment _ _ _ = .error p
    rw [Signature.checkArgument, htype]
    exact hcheck
  -- the first slot that is left open is met next
  obtain ⟨k, hk⟩ : ∃ k, s.arity - before.length = k + 1 := Nat.exists_eq_add_one.mpr (by omega)
  rw [Signature.slotsOf, hk, List.replicate_succ] at hcheckArgument hfill
  rw [supply?_eq, hnone, if_neg Bool.false_ne_true,
    feed_append hbefore (fun w hw => absurd hw List.not_mem_nil), hpass, hfill]
  show feed c.checkArgument [] _ (v :: after) = .error p
  rw [feed_skip hbefore, List.nil_append, feed_value rfl hv, hcheckArgument]
  rfl

/-- **Which error a call raises.**  Let a fresh checked function be called with arguments none of
which is a placeholder.

If there are more of them than parameters, the call raises an arity error, whatever they are.

Otherwise let not all values be admitted under one assignment, and let all of them be reportable.
Then there is a first argument that is not admitted together with those before it.  The call raises
the error that this argument is rejected with: for its first misfit; if it is a member, for the
first value it binds that lacks a capability; if there is none, for the first variable it binds
whose values do not have one unifier.  The implementation has no part in it. -/
theorem rejected_first {s : Signature} {f : Value} {environment : List Ty} {arguments : List Value}
    (hclosed : ∀ a ∈ arguments, a.isOpen = false) (mark : Nat) :
    let c := fresh s f (some environment)
    (s.arity < arguments.length → ∀ (call : Call) (m : Machine),
      Run.step call (c.toValue mark) arguments m =
        (.error (.arity s.name s.arity arguments.length), m)) ∧
    (arguments.length ≤ s.arity →
      (∀ (i : Nat) (t : Ty) (v : Value), s.params[i]? = some t → arguments[i]? = some v →
        Signature.Reportable environment t v) →
      (¬ ∃ σ, s.AdmitsAll σ arguments) →
      ∃ (before after : List Value) (v : Value) (t : Ty) (earlier : List Ty.Binding)
        (fault : Fault Value), arguments = before ++ v :: after ∧
        s.params[before.length]? = some t ∧
        (∃ σ, s.AdmitsAll σ before) ∧ (¬ ∃ σ, s.AdmitsAll σ (before ++ [v])) ∧
        Signature.Bound 0 s.params before earlier ∧
        s.RejectedWith earlier before.length t v fault ∧
        ∀ m, ∃ m', ∀ call : Call,
          Run.step call (c.toValue mark) arguments m = (.error fault, m')) := by
  intro c
  constructor
  · intro hmany call m
    obtain ⟨hsurplus, hfault⟩ : c.hasSurplus arguments = true ∧
        c.surplusFault arguments = .arity s.name s.arity arguments.length :=
      surplus_of_arity_lt hclosed hmany
    rw [Run.step_toValue, Run.invoke_error (supply?_of_surplus hsurplus), hfault]
    rfl
  · intro hlen hreport hnone
    obtain ⟨before, v, after, rfl, hadmits, hfails⟩ :=
      exists_first_failure (P := fun vs => ∃ σ, s.AdmitsAll σ vs)
        ⟨fun _ => "", fun i t w _ hw => by simp at hw⟩ hnone
    obtain ⟨hbefore, -⟩ := List.forall_mem_append.mp hclosed
    have hlt : before.length < s.arity := by
      rw [List.length_append, List.length_cons] at hlen
      omega
    obtain ⟨t, ht⟩ : ∃ t, s.params[before.length]? = some t := ⟨_, List.getElem?_eq_getElem hlt⟩
    -- the earlier arguments are members, so that they have bindings
    have hmembers : ∀ (j : Nat) (u : Ty) (w : Value), s.params[j]? = some u →
        before[j]? = some w → Signature.Reportable environment u w ∧ u.misfit? w = .ok none := by
      intro j u w hu hw
      obtain ⟨σ, hσ⟩ := hadmits
      have hw' : (before ++ v :: after)[j]? = some w := by
        rw [List.getElem?_append_left (List.getElem?_eq_some_iff.mp hw).1, hw]
      exact ⟨hreport j u w hu hw', (hσ j u w hu hw).member.bindings.1⟩
    obtain ⟨earlier, hbound, hdescribed⟩ :=
      Signature.exists_bound (i := 0) (Nat.le_of_lt hlt) hmembers
    have hold : Signature.filledBindings before.length 0 s.types (s.slotsOf before) = .ok earlier :=
      Signature.filledBindings_of_bound hbefore (by omega) (hbound.append [s.returns])
    have hreportable := hreport before.length t v ht (by simp)
    obtain ⟨p, hp, hrejected⟩ := Signature.checkAt_rejected hreportable hold hdescribed
      (Signature.checkAt_ne_ok hbefore ht hadmits hfails)
    have hsupply := supply?_of_rejected (f := f) hclosed hlen
      ((Signature.coherent_slotsOf hbefore (Nat.le_of_lt hlt)).mpr hadmits) ht hp
    refine ⟨before, after, v, t, earlier, p.fault, rfl, ht, hadmits, hfails, hbound, hrejected,
      fun m => ?_⟩
    obtain ⟨m', hraise, -⟩ := Run.ofChecked_error (α := Value) p m
    exact ⟨m', fun call => by rw [Run.step_toValue, Run.invoke_error hsupply, hraise]⟩

omit [Host] in
/-- The second argument lacks a capability and does not agree with the first one, and the third one
is not a member; what the second lacks decides.  With one more argument, their number decides. -/
theorem rejected_first_before_misfit : letI : Host := .bare
    let a : TypeVar := ⟨"a", .given 0⟩
    let s : Signature :=
      ⟨"f", [.array (.var a), .var a, .finiteNumber], .anything, [(a, [.ofOperation .concat])]⟩
    let c := fresh s (.constant 0 .null (.fixed 3)) (some Ty.environment)
    let arguments : List Value := [.list [.text "x", .text "y"], .int 1, .null]
    let run := Run.step Run.call (c.toValue 0)
    (∀ v ∈ arguments, v.isOpen = false) ∧
    (∀ (i : Nat) (t : Ty) (v : Value), s.params[i]? = some t → arguments[i]? = some v →
      Signature.Reportable Ty.environment t v) ∧
    (¬ ∃ σ, s.AdmitsAll σ arguments) ∧
    (∃ (before : List Value) (v : Value) (t : Ty) (earlier : List Ty.Binding)
      (fault : Fault Value) (m' : Machine), s.RejectedWith earlier before.length t v fault ∧
      fault.errorClass = .typeClass ∧ run arguments (.start none) = (.error fault, m')) ∧
    run (arguments ++ [.null]) (.start none) = (.error (.arity "f" 3 4), .start none) := by
  let _ : Host := .bare
  intro a s c arguments run
  have hclosed : ∀ v ∈ arguments, v.isOpen = false := by decide
  have hmany : ∀ v ∈ arguments ++ [.null], v.isOpen = false := by decide
  have hdescribed {v : Value} (h : (Signature.describe Ty.environment v).isOk = true) :
      ∃ entry, Signature.describe Ty.environment v = .ok entry := by
    cases hentry : Signature.describe Ty.environment v with
    | ok entry => exact ⟨entry, rfl⟩
    | error f =>
      rw [hentry] at h
      cases h
  have hvar {v : Value} (h : (Signature.describe Ty.environment v).isOk = true) :
      Signature.Reportable Ty.environment (.var a) v :=
    Signature.reportable_of_tested true (fun _ _ h => nomatch h) rfl (hdescribed h)
  have hlist : Signature.Reportable Ty.environment (.array (.var a))
      (.list [.text "x", .text "y"]) := by
    refine Signature.reportable_array (hdescribed (by decide +kernel))
      (List.forall_mem_cons.mpr ⟨?_, ?_⟩)
    · exact hvar (by decide +kernel)
    · exact List.forall_mem_singleton.mpr (hvar (by decide +kernel))
  have hnull : Signature.Reportable Ty.environment .finiteNumber .null :=
    Signature.reportable_of_tested false (fun _ _ h => nomatch h) rfl
      (hdescribed (by decide +kernel))
  have hreport : ∀ (i : Nat) (t : Ty) (v : Value), s.params[i]? = some t →
      arguments[i]? = some v → Signature.Reportable Ty.environment t v := by
    intro i t v ht hv
    rcases i with _ | _ | _ | i
    · exact Option.some.inj ht ▸ Option.some.inj hv ▸ hlist
    · exact Option.some.inj ht ▸ Option.some.inj hv ▸ hvar (by decide +kernel)
    · exact Option.some.inj ht ▸ Option.some.inj hv ▸ hnull
    · simp [s] at ht
  have hnone : ¬ ∃ σ, s.AdmitsAll σ arguments := by
    rintro ⟨σ, hσ⟩
    have hmember := (hσ 2 .finiteNumber .null rfl rfl).member.bindings.1
    have hmisfit : Ty.finiteNumber.misfit? .null = .ok (some ⟨[], .null, .finiteNumber⟩) := rfl
    cases hmisfit.symm.trans hmember
  have hclass : (Run.step Run.call (c.toValue 0) arguments (.start none)).1.mapError
      (·.errorClass) = .error .typeClass := rfl
  obtain ⟨before, after, v, t, earlier, fault, -, -, -, -, -, hrejected, hraise⟩ :=
    (rejected_first hclosed 0).2 (by decide) hreport hnone
  obtain ⟨m', hrun⟩ := hraise (.start none)
  rw [hrun Run.call] at hclass
  exact ⟨hclosed, hreport, hnone, ⟨before, v, t, earlier, fault, m', hrejected,
    Except.error.inj hclass, hrun Run.call⟩, (rejected_first hmany 0).1 (by decide) _ _⟩

end Curried

end CheckedCurry
