import CheckedCurry.Proofs.Curried.Rejection
import CheckedCurry.Proofs.Ty.BuiltIn

/-!
# Rejections are reported

A report shows the rejected value and names its types, and it is put together while the call is
being refused.  For types that are built in and for ordinary values nothing goes wrong on the way:
a call is accepted, or it ends in one of the four errors that report a value.

- `Fault.IsRejection`: those four errors.
- `Signature.reportable_of_isBuiltIn`: ordinary values can be reported on.
- `Signature.isRejection_of_checkAt`: one check; `isRejection_of_feed`, `isRejection_of_supplyAll?`:
  the checks of one call, and of several calls.
- `rejections_reported`: the law for chains of calls.
- `quotient_unreported`: a quotient that is too large is not reported.
-/

namespace CheckedCurry

variable [Host]

/-- The errors that report a value. -/
def Fault.IsRejection (f : Fault Value) : Prop :=
  f.errorClass ∈ [.accessibility, .invalidValue, .typeClass, .typeVariable]

open Attempt

namespace Signature

variable {s : Signature} {environment : List Ty} {t : Ty} {v : Value}

theorem RejectedWith.isRejection {earlier : List Ty.Binding} {index : Nat} {fault : Fault Value}
    (h : RejectedWith s earlier index t v fault) : fault.IsRejection := by
  cases h <;> simp [Fault.IsRejection, Fault.errorClass]

/-! ## Reports -/

/-- An ordinary value can be shown and named. -/
theorem answers_describe (henvironment : ∀ t ∈ environment, t.isBuiltIn = true)
    (hv : v.isOrdinary = true) : (describe environment v).Answers :=
  (Value.answers_display v hv).bind fun _ _ => (Ty.answers_names henvironment hv).map _

/-- Built-in types can report on ordinary values. -/
theorem reportable_of_isBuiltIn (henvironment : ∀ t ∈ environment, t.isBuiltIn = true)
    (ht : t.isBuiltIn = true) (hv : v.isOrdinary = true) : Reportable environment t v where
  answers := Ty.answers_of_isBuiltIn ht hv
  described _ _ _ hreach := answers_describe henvironment (hreach.ordinary ht hv).2

/-- What the filled slots bind can be described, if they hold members that can be reported on. -/
theorem described_of_filledBindings {except i : Nat} {ts : List Ty} {slots : List Value}
    {old : List Ty.Binding} (h : filledBindings except i ts slots = .ok old)
    (hslots : ∀ (j : Nat) (t : Ty) (v : Value), ts[j]? = some t → slots[j]? = some v →
      v.isOpen = false → Reportable environment t v ∧ t.misfit? v = .ok none) :
    ∀ b ∈ old, ∃ entry, describe environment b.value = .ok entry := by
  induction slots generalizing i ts old with
  | nil =>
    obtain rfl := Except.ok.inj h
    exact fun b hb => absurd hb List.not_mem_nil
  | cons v slots ih =>
    obtain ⟨here, hhere, h⟩ := bind_eq_ok.mp h
    obtain ⟨rest, hrest, h⟩ := bind_eq_ok.mp h
    obtain rfl := Except.ok.inj h
    refine List.forall_mem_append.mpr ⟨?_, ih hrest fun j t w ht hw => ?_⟩
    · unfold slotBindings at hhere
      split at hhere
      · obtain rfl := Except.ok.inj hhere
        exact fun b hb => absurd hb List.not_mem_nil
      · rename_i hfilled
        obtain ⟨hclosed, -⟩ : v.isOpen = false ∧ i ≠ except := by simpa using hfilled
        cases ts with
        | nil => cases hhere
        | cons t ts =>
          obtain ⟨hreport, hmisfit⟩ := hslots 0 t v rfl rfl hclosed
          obtain ⟨bs, hbs, hdescribed⟩ := exists_bindingsAt i hreport hmisfit
          obtain rfl := Except.ok.inj (hbs.symm.trans hhere)
          exact hdescribed
    · cases ts with
      | nil => simp at ht
      | cons u ts => exact hslots (j + 1) t w ht hw

/-- A check at an open slot, where coherent and ordinary values are filled, reports an ordinary
value that it does not accept. -/
theorem isRejection_of_checkAt (henvironment : ∀ t ∈ environment, t.isBuiltIn = true)
    (htypes : ∀ t ∈ s.types, t.isBuiltIn = true) {slots : List Value} {index : Nat}
    (hlen : slots.length ≤ s.types.length)
    (hexcept : ∀ w, slots[index]? = some w → w.isOpen = true) (hcoherent : s.Coherent slots)
    (hslots : ∀ w ∈ slots, w.isOpen = false → w.isOrdinary = true) (ht : t.isBuiltIn = true)
    (hv : v.isOrdinary = true) {p : Problem}
    (h : s.checkAt environment slots index t v = .error p) : p.fault.IsRejection := by
  obtain ⟨σ, hσ⟩ := hcoherent
  obtain ⟨old, hold, -⟩ := filledBindings_eq_ok index 0 hlen
    (fun j w hw hj => hexcept w (by rwa [← hj, Nat.zero_add])) (admitsFilled_iff.mp hσ).1
  -- the filled slots hold members, which bind values that can be described
  have hmembers : ∀ (j : Nat) (u : Ty) (w : Value), s.types[j]? = some u → slots[j]? = some w →
      w.isOpen = false → Reportable environment u w ∧ u.misfit? w = .ok none := by
    intro j u w hu hw hclosed
    have hordinary := hslots w (List.mem_of_getElem? hw) hclosed
    exact ⟨reportable_of_isBuiltIn henvironment (htypes u (List.mem_of_getElem? hu)) hordinary,
      (hσ j u w hu hw hclosed).member.bindings.1⟩
  obtain ⟨q, hq, hrejected⟩ := checkAt_rejected (reportable_of_isBuiltIn henvironment ht hv) hold
    (described_of_filledBindings hold hmembers) (by simp [h])
  obtain rfl := Except.error.inj (h.symm.trans hq)
  exact hrejected.isRejection

/-- A quotient that is too large is never reported: unless it passes the test of a built-in type, the
check fails on the way to the report, as showing the quotient does. -/
theorem checkAt_quotient {q : Rat} (hq : (Number.ratio q).isTractable = false) {slots : List Value}
    {index : Nat} (ht : t.isBuiltIn = true) (hfails : t.test (.number (.ratio q)) ≠ .ok true) :
    s.checkAt environment slots index t (.number (.ratio q)) =
      .error ⟨none, .basic (.number .quotientTooLarge)⟩ := by
  have htest : (t.test (.number (.ratio q))).Answers ∨
      t.test (.number (.ratio q)) = .error (.basic (.number .quotientTooLarge)) := by
    cases t with
    | nullary n => exact Test.holds_quotient (Ty.isBuiltIn_nullary.mp ht) hq
    | applied c params =>
      exact Test.holds_quotient (Ty.isBuiltIn_test (Ty.isBuiltIn_applied.mp ht).1) hq
    | any _ | accessible _ | representative _ | var _ => exact .inl (answers_ok _)
  have hmember : s.checkMember environment index t (.number (.ratio q)) =
      .error ⟨none, .basic (.number .quotientTooLarge)⟩ := by
    rw [checkMember, Ty.misfit?_of_test hfails]
    rcases htest with ⟨passed, hpassed⟩ | herror
    · rw [hpassed, Except.map, Value.display_quotient hq]
      rfl
    · rw [herror]
      rfl
  rw [checkAt, hmember]
  rfl

end Signature

namespace Curried

open Run (complete calls step)

variable {c : Curried} {environment : List Ty} {slots arguments : List Value}
  {groups : List (List Value)} {p : Problem}

/-! ## Slots that hold ordinary values -/

/-- The values that fill slots are ordinary. -/
def HoldsOrdinary (slots : List Value) : Prop :=
  ∀ w ∈ slots, w.isOpen = false → w.isOrdinary = true

theorem HoldsOrdinary.set {slots : List Value} (h : HoldsOrdinary slots) (i : Nat) {v : Value}
    (hv : v.isOrdinary = true) : HoldsOrdinary (slots.set i v) := by
  intro w hw hclosed
  rcases List.mem_or_eq_of_mem_set hw with hw | rfl
  · exact h w hw hclosed
  · exact hv

theorem HoldsOrdinary.fill {slots arguments : List Value} (h : HoldsOrdinary slots)
    (harguments : ∀ a ∈ arguments, a.isOrdinary = true) :
    HoldsOrdinary (fill slots arguments) := by
  intro w hw hclosed
  obtain ⟨i, hi⟩ := List.mem_iff_getElem?.mp hw
  rcases getElem?_of_getElem?_fill hi with hi | ⟨-, -, -, -, ha⟩
  · exact h w (List.mem_of_getElem? hi) hclosed
  · exact harguments w (List.mem_of_getElem? ha)

theorem HoldsOrdinary.fillAll (h : HoldsOrdinary slots)
    (hgroups : ∀ a ∈ groups.flatten, a.isOrdinary = true) :
    HoldsOrdinary (fillAll slots groups) := by
  induction groups generalizing slots with
  | nil => exact h
  | cons arguments groups ih =>
    rw [List.flatten_cons, List.forall_mem_append] at hgroups
    exact ih (h.fill hgroups.1) hgroups.2

/-! ## Calls without a surplus -/

/-- No call of a chain has more values than there are open slots. -/
def Within (c : Curried) (groups : List (List Value)) : Prop :=
  ∀ p arguments, p ++ [arguments] <+: groups → (c.after p).hasSurplus arguments = false

omit [Host] in
theorem within_nil (c : Curried) : c.Within [] := by
  intro p arguments hp
  simp at hp

omit [Host] in
theorem within_concat_iff : c.Within (groups ++ [arguments]) ↔
    c.Within groups ∧ (c.after groups).hasSurplus arguments = false := by
  constructor
  · intro h
    exact ⟨fun p a hp => h p a (hp.trans (List.prefix_append ..)),
      h groups arguments (List.prefix_refl _)⟩
  · rintro ⟨hbefore, hlast⟩ p a hp
    rcases List.prefix_concat_iff.mp hp with heq | hp
    · obtain ⟨rfl, ha⟩ := List.append_inj' heq rfl
      obtain rfl := List.singleton_inj.mp ha
      exact hlast
    · exact hbefore p a hp

/-- Calls without a surplus supply slots if and only if what they fill is coherent. -/
theorem supplyAll?_eq_ok_iff (henv : c.environment = some environment)
    (hlen : c.slots.length = c.signature.arity) (hcoherent : c.signature.Coherent c.slots)
    (hwithin : c.Within groups) :
    c.supplyAll? groups = .ok (c.after groups).slots ↔
      c.signature.Coherent (c.after groups).slots := by
  refine ⟨fun h => (coherent_of_supplyAll? henv hlen hcoherent h).2, fun h => ?_⟩
  induction groups using List.reverseRecOn with
  | nil => rfl
  | append_singleton groups arguments ih =>
    obtain ⟨hbefore, hnone⟩ := within_concat_iff.mp hwithin
    rw [slots_after, fillAll_concat, ← slots_after] at h ⊢
    -- what the calls before have filled is coherent too
    have hfilled : c.signature.Coherent ([] ++ fill (c.after groups).slots arguments) := h
    have hmiddle : c.signature.Coherent (c.after groups).slots := coherent_of_fill hfilled
    rw [supplyAll?_concat_of_ok (ih hbefore hmiddle)]
    exact (supply?_eq_ok_iff (c := c.after groups) henv ((length_fillAll _ _).trans hlen)
      hmiddle hnone).mpr h

/-! ## Checks -/

section BuiltIn

variable (henv : c.environment = some environment)
  (henvironment : ∀ t ∈ environment, t.isBuiltIn = true)
  (htypes : ∀ t ∈ c.signature.types, t.isBuiltIn = true)

include henv henvironment htypes

theorem isRejection_of_checkArgument {i : Nat} {v w : Value}
    (hlen : slots.length = c.signature.arity) (hcoherent : c.signature.Coherent slots)
    (hslots : HoldsOrdinary slots) (hw : slots[i]? = some w) (hopen : w.isOpen = true)
    (hv : v.isOrdinary = true) (h : c.checkArgument slots i v = .error p) :
    p.fault.IsRejection := by
  have hle : slots.length ≤ c.signature.types.length := Signature.length_le_types hlen
  have hlt : i < c.signature.types.length :=
    Nat.lt_of_lt_of_le (List.getElem?_eq_some_iff.mp hw).1 hle
  have ht : c.signature.types[i]? = some c.signature.types[i] := List.getElem?_eq_getElem hlt
  simp only [checkArgument, henv, Signature.checkArgument, ht] at h
  refine Signature.isRejection_of_checkAt henvironment htypes hle (fun u hu => ?_) hcoherent hslots
    (htypes _ (List.getElem_mem hlt)) hv h
  obtain rfl := Option.some.inj (hw.symm.trans hu)
  exact hopen

/-- The checks of a call report the first value that is not accepted.  The induction is on the slots
that the call has not passed yet; what is filled is coherent whenever a check is made. -/
theorem isRejection_of_feed {done : List Value}
    (hlen : (done ++ slots).length = c.signature.arity)
    (hcoherent : c.signature.Coherent (done ++ slots)) (hslots : HoldsOrdinary (done ++ slots))
    (harguments : ∀ a ∈ arguments, a.isOrdinary = true)
    (h : feed c.checkArgument done slots arguments = .error p) : p.fault.IsRejection := by
  induction slots generalizing done arguments with
  | nil => cases h
  | cons v slots ih =>
    have hassoc (w : Value) : done ++ w :: slots = done ++ [w] ++ slots := by simp
    have hlen' (w : Value) : (done ++ [w] ++ slots).length = c.signature.arity := by
      rw [← hlen]
      simp
    by_cases hopen : v.isOpen
    · cases arguments with
      | nil =>
        rw [feed_no_arguments] at h
        cases h
      | cons a rest =>
        obtain ⟨ha', hrest⟩ := List.forall_mem_cons.mp harguments
        by_cases ha : a.isOpen
        · rw [feed_placeholder hopen ha] at h
          exact ih (hlen' v) (hassoc v ▸ hcoherent) (hassoc v ▸ hslots) hrest h
        · have hclosed : a.isOpen = false := by simpa using ha
          have hset : (done ++ v :: slots).set done.length a = done ++ [a] ++ slots := by simp
          rw [feed_value hopen hclosed] at h
          cases hcheck : c.checkArgument (done ++ v :: slots) done.length a with
          | error q =>
            rw [hcheck] at h
            obtain rfl := Except.error.inj h
            exact isRejection_of_checkArgument henv henvironment htypes hlen hcoherent hslots
              (by simp) hopen ha' hcheck
          | ok =>
            rw [hcheck] at h
            have hcoherent' := (checkArgument_eq_ok_iff henv hlen hcoherent (i := done.length)
              (by simp) hopen hclosed).mp hcheck
            exact ih (hlen' a) (hset ▸ hcoherent') (hset ▸ hslots.set done.length ha') hrest h
    · rw [feed_closed (by simpa using hopen)] at h
      exact ih (hlen' v) (hassoc v ▸ hcoherent) (hassoc v ▸ hslots) harguments h

theorem isRejection_of_supply? (hlen : c.slots.length = c.signature.arity)
    (hcoherent : c.signature.Coherent c.slots) (hslots : HoldsOrdinary c.slots)
    (hnone : c.hasSurplus arguments = false) (harguments : ∀ a ∈ arguments, a.isOrdinary = true)
    (h : c.supply? arguments = .error p) : p.fault.IsRejection := by
  rw [supply?_eq, hnone, if_neg Bool.false_ne_true] at h
  have hlen' : ([] ++ c.slots).length = c.signature.arity := hlen
  exact isRejection_of_feed henv henvironment htypes hlen' hcoherent hslots harguments h

/-- The checks of several calls report the first value that is not accepted. -/
theorem isRejection_of_supplyAll? (hlen : c.slots.length = c.signature.arity)
    (hcoherent : c.signature.Coherent c.slots) (hslots : HoldsOrdinary c.slots)
    (hwithin : c.Within groups) (hgroups : ∀ a ∈ groups.flatten, a.isOrdinary = true)
    (h : c.supplyAll? groups = .error p) : p.fault.IsRejection := by
  induction groups using List.reverseRecOn with
  | nil => cases h
  | append_singleton groups arguments ih =>
    obtain ⟨hbefore, hnone⟩ := within_concat_iff.mp hwithin
    rw [List.flatten_append, List.forall_mem_append] at hgroups
    obtain ⟨hgroups, harguments⟩ := hgroups
    cases hmiddle : c.supplyAll? groups with
    | error q =>
      rw [supplyAll?_concat_of_error hmiddle] at h
      obtain rfl := Except.error.inj h
      exact ih hbefore hgroups hmiddle
    | ok middle =>
      rw [supplyAll?_concat_of_ok hmiddle] at h
      obtain ⟨hlength, hmiddleCoherent⟩ := coherent_of_supplyAll? henv hlen hcoherent hmiddle
      obtain rfl := eq_after_of_supplyAll? hmiddle
      exact isRejection_of_supply? (c := c.after groups) henv henvironment htypes hlength
        hmiddleCoherent (hslots.fillAll hgroups) hnone (by simpa using harguments) h

/-- A result that is not accepted together with the arguments is reported. -/
theorem isRejection_of_checkResult {vs : List Value} {r : Value}
    (hlen : vs.length = c.signature.arity) (hcoherent : c.signature.Coherent vs)
    (hvs : HoldsOrdinary vs) (hr : r.isOrdinary = true)
    (h : c.checkResult vs r = .error p) : p.fault.IsRejection := by
  have hbeyond : ∀ w, vs[c.signature.arity]? = some w → w.isOpen = true := by
    intro w hw
    rw [Signature.getElem?_arity_eq_none hlen] at hw
    cases hw
  simp only [checkResult, henv, Signature.checkResult] at h
  exact Signature.isRejection_of_checkAt henvironment htypes (Signature.length_le_types hlen)
    hbeyond hcoherent hvs (htypes _ (List.mem_of_getElem? c.signature.types_arity)) hr h

end BuiltIn

/-! ## Chains of calls -/

/-- **Rejections are reported.**  Let all types of a signature and of an environment be built in.
Every ordinary value can be shown, and its types can be named.

Let a chain of calls of a fresh checked function supply no more values than there are open slots,
and let no call but the last one fill the last slot.

If some assignment admits all that is supplied, the chain is accepted: its answer is a partial
application, or what the implementation comes to.  Otherwise, if the values are ordinary, the chain
ends in an accessibility error, an invalid value, a type class error or a type variable error, and
the implementation has no part in it.  An ordinary result of the implementation is the answer, or it
is reported in the same way. -/
theorem rejections_reported {s : Signature} {f : Value} {environment : List Ty}
    {groups : List (List Value)} {arguments : List Value}
    (henvironment : ∀ t ∈ environment, t.isBuiltIn = true)
    (htypes : ∀ t ∈ s.types, t.isBuiltIn = true)
    (hopen : (fresh s f (some environment)).LeaveOpen groups)
    (hwithin : (fresh s f (some environment)).Within (groups ++ [arguments])) (mark : Nat)
    (m : Machine) :
    let c := fresh s f (some environment)
    let slots := (c.after (groups ++ [arguments])).slots
    let run := fun call : Call => calls (step call) (c.toValue mark) (groups ++ [arguments]) m
    let ready := Machine.advance^[groups.length] m
    (∀ v : Value, v.isOrdinary = true → (∃ shown, v.display = .ok shown) ∧
      ∃ names, Ty.names environment v = .ok names) ∧
    (s.Coherent slots → isSaturated slots = false → ∀ call : Call,
      run call = (.ok ((c.after (groups ++ [arguments])).toValue ready.nextMark), ready.advance)) ∧
    (s.Coherent slots → isSaturated slots = true → ∀ call : Call,
      run call = complete call c slots ready) ∧
    (s.Coherent slots → isSaturated slots = true → ∀ (call : Call) (r : Value) (m₁ : Machine),
      call f slots ready = (.ok r, m₁) →
      (∃ σ, s.AdmitsFilled σ slots ∧ s.Admits σ s.returns r) → run call = (.ok r, m₁)) ∧
    ((∀ v ∈ (groups ++ [arguments]).flatten, v.isOrdinary = true) →
      (¬ s.Coherent slots → ∃ fault m', fault.IsRejection ∧
        ∀ call : Call, run call = (.error fault, m')) ∧
      (s.Coherent slots → isSaturated slots = true → ∀ (call : Call) (r : Value) (m₁ : Machine),
        call f slots ready = (.ok r, m₁) → r.isOrdinary = true →
        (¬ ∃ σ, s.AdmitsFilled σ slots ∧ s.Admits σ s.returns r) →
        ∃ fault m₂, fault.IsRejection ∧ run call = (.error fault, m₂))) := by
  intro c slots run ready
  have hstart : s.Coherent c.slots := Signature.coherent_placeholders s _
  have hlen : c.slots.length = s.arity := List.length_replicate
  have hsupplied : c.supplyAll? (groups ++ [arguments]) = .ok slots ↔ s.Coherent slots :=
    supplyAll?_eq_ok_iff rfl hlen hstart hwithin
  have hblank : HoldsOrdinary c.slots := by
    intro w hw hclosed
    obtain rfl := List.eq_of_mem_replicate hw
    cases hclosed
  have hcomplete (hcoherent : s.Coherent slots) (hfull : isSaturated slots = true) (call : Call) :
      run call = complete call c slots ready :=
    Run.calls_of_saturated hopen (hsupplied.mpr hcoherent) hfull mark m call
  have hresult (hcoherent : s.Coherent slots) (r : Value) : c.checkResult slots r = .ok () ↔
      ∃ σ, s.AdmitsFilled σ slots ∧ s.Admits σ s.returns r :=
    checkResult_eq_ok_iff (c := c) rfl ((length_fillAll _ _).trans hlen) hcoherent
  refine ⟨fun v hv => ⟨Value.answers_display v hv, Ty.answers_names henvironment hv⟩,
    fun hcoherent hleft call => ?_, hcomplete, fun hcoherent hfull call r m₁ hr hadmits => ?_,
    fun hordinary => ⟨fun hclash => ?_, fun hcoherent hfull call r m₁ hr hr' hclash => ?_⟩⟩
  · exact Run.calls_of_left hopen (hsupplied.mpr hcoherent) hleft mark m call
  · rw [hcomplete hcoherent hfull]
    exact Run.complete_of_ok hr ((hresult hcoherent r).mpr hadmits)
  · cases hsupply : c.supplyAll? (groups ++ [arguments]) with
    | ok filled =>
      rw [eq_after_of_supplyAll? hsupply] at hsupply
      exact absurd (hsupplied.mp hsupply) hclash
    | error p =>
      obtain ⟨m', hraise⟩ := Run.calls_concat_of_supplyAll?_error hopen hsupply mark m
      exact ⟨p.fault, m', isRejection_of_supplyAll? (c := c) rfl henvironment htypes hlen hstart
        hblank hwithin hordinary hsupply, hraise⟩
  · rw [hcomplete hcoherent hfull]
    cases hcheck : c.checkResult slots r with
    | ok => exact absurd ((hresult hcoherent r).mp hcheck) hclash
    | error p =>
      obtain ⟨m₂, hraise⟩ := Run.complete_of_rejected hr hcheck
      refine ⟨p.fault, m₂, ?_, hraise⟩
      exact isRejection_of_checkResult (c := c) rfl henvironment htypes
        ((length_fillAll _ _).trans hlen) hcoherent (hblank.fillAll hordinary) hr' hcheck

omit [Host] in
/-- A quotient is accepted, and then an array with an optional text where a number should be. -/
theorem rejections_reported_nested : letI : Host := .bare
    let s : Signature := ⟨"f", [.finiteNumber, .array .finiteNumber], .finiteNumber, []⟩
    let c := fresh s (.constant 0 (.int 5) (.fixed 2)) (some Ty.environment)
    let groups : List (List Value) := [[.number (.ratio (mkRat 1 2))]]
    let arguments : List Value := [.list [.int 1, .just (.text "x")]]
    (∀ t ∈ Ty.environment, t.isBuiltIn = true) ∧ (∀ t ∈ s.types, t.isBuiltIn = true) ∧
    c.LeaveOpen groups ∧ c.Within (groups ++ [arguments]) ∧
    (∀ v ∈ (groups ++ [arguments]).flatten, v.isOrdinary = true) ∧
    ¬ s.Coherent (c.after (groups ++ [arguments])).slots ∧
    ∃ fault m', Fault.IsRejection fault ∧ ∀ call : Call,
      calls (step call) (c.toValue 0) (groups ++ [arguments]) (.start none) =
        (.error fault, m') := by
  let _ : Host := .bare
  intro s c groups arguments
  have htypes : ∀ t ∈ s.types, t.isBuiltIn = true := by decide
  have hopen : c.LeaveOpen groups := leaveOpen_singleton rfl
  have hwithin : c.Within (groups ++ [arguments]) :=
    within_concat_iff.mpr ⟨within_concat_iff.mpr ⟨within_nil c, rfl⟩, rfl⟩
  have hordinary : ∀ v ∈ (groups ++ [arguments]).flatten, v.isOrdinary = true := by
    decide +kernel
  have hclash : ¬ s.Coherent (c.after (groups ++ [arguments])).slots := by
    rintro ⟨σ, hσ⟩
    have hmember := (hσ 1 _ _ rfl rfl rfl).member.bindings.1
    have hmisfit : (Ty.array .finiteNumber).misfit? (.list [.int 1, .just (.text "x")]) =
      .ok (some ⟨[0], .just (.text "x"), .finiteNumber⟩) := rfl
    cases hmisfit.symm.trans hmember
  obtain ⟨-, -, -, -, hreported⟩ := rejections_reported (f := .constant 0 (.int 5) (.fixed 2))
    Ty.isBuiltIn_of_mem_environment htypes hopen hwithin 0 (.start none)
  exact ⟨Ty.isBuiltIn_of_mem_environment, htypes, hopen, hwithin, hordinary, hclash,
    (hreported hordinary).1 hclash⟩

/-- **Quotients that are too large are not reported.**  If such a quotient does not pass the test of
the first parameter, whose type is built in, a call with it ends in none of the errors that report a
value, but in the fault of turning the quotient into a binary64 number. -/
theorem quotient_unreported {s : Signature} {f : Value} {environment : List Ty} {t : Ty} {q : Rat}
    (hq : (Number.ratio q).isTractable = false) (ht : s.params[0]? = some t)
    (hbuilt : t.isBuiltIn = true)
    (hfails : t.test (.number (.ratio q)) ≠ .ok true) (mark : Nat) (call : Call) (m : Machine) :
    step call ((fresh s f (some environment)).toValue mark) [.number (.ratio q)] m =
      (.error (.basic (.number .quotientTooLarge)), m) ∧
    ¬ Fault.IsRejection (.basic (.number .quotientTooLarge)) := by
  have hlt : 0 < s.arity := (List.getElem?_eq_some_iff.mp ht).1
  have hsupply : (fresh s f (some environment)).supply? ([] ++ .number (.ratio q) :: []) =
      .error ⟨none, .basic (.number .quotientTooLarge)⟩ :=
    supply?_of_rejected (List.forall_mem_singleton.mpr rfl) hlt
      (Signature.coherent_placeholders s _) ht (Signature.checkAt_quotient hq hbuilt hfails)
  rw [List.nil_append] at hsupply
  refine ⟨?_, by unfold Fault.IsRejection; decide⟩
  rw [Run.step_toValue, Run.invoke_error hsupply]
  rfl

end Curried

end CheckedCurry
