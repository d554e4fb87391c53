import CheckedCurry.Proofs.Curried.Admission
import CheckedCurry.Proofs.Run.Lockstep
import CheckedCurry.Proofs.Signature.Report

/-!
# Where the faults of calls come from

A chain of calls that ends in a fault has too many arguments, or it has come to a check that fails,
or the implementation has raised the fault.  A report is the end of such a check, or it comes from
inside.

- `Curried.RaisesInside`: the implementation raises a fault.
- `arity_or_raisesInside_or_comesTo`: the three ways in which a chain can fail.
- `Curried.Rejects`: a chain comes to a value that it rejects, and ends in the report.
- `raisesInside_or_rejects`: where a report comes from.
- `ComesTo.coherent`: the slots that a value is checked with are coherent, and its own one is open.
-/

namespace CheckedCurry.Curried

variable [Host]

open Run (calls step)

variable {call : Call} {c : Curried} {groups : List (List Value)} {arguments slots : List Value}
  {m m' : Machine} {index : Nat} {v : Value} {fault : Fault Value} {environment : List Ty}

/-- All slots are filled by the calls of a chain, and the implementation, called with them, ends in
a fault. -/
inductive RaisesInside (call : Call) :
    Curried → Machine → List (List Value) → Fault Value → Prop
  | last {c : Curried} {m m₁ : Machine} {arguments slots : List Value} {fault : Fault Value}
    (supplied : c.supply? arguments = .ok slots) (full : isSaturated slots = true)
    (raises : call c.implementation slots m = (.error fault, m₁)) :
    RaisesInside call c m [arguments] fault
  | later {c : Curried} {m : Machine} {arguments slots : List Value}
    {groups : List (List Value)} {fault : Fault Value}
    (supplied : c.supply? arguments = .ok slots) (left : isSaturated slots = false)
    (rest : RaisesInside call { c with slots := slots } m.advance groups fault) :
    RaisesInside call c m (arguments :: groups) fault

/-- For a single call nothing but the slots that it supplies is called. -/
theorem raisesInside_singleton_iff : RaisesInside call c m [arguments] fault ↔
    ∃ slots m₁, c.supply? arguments = .ok slots ∧ isSaturated slots = true ∧
      call c.implementation slots m = (.error fault, m₁) := by
  constructor
  · intro h
    cases h with
    | last supplied full raises => exact ⟨_, _, supplied, full, raises⟩
    | later supplied left rest => cases rest
  · rintro ⟨slots, m₁, supplied, full, raises⟩
    exact .last supplied full raises

/-- A single call that is refused does not get inside. -/
theorem not_raisesInside_of_refused (h : (c.supply? arguments).isOk = false) :
    ¬ RaisesInside call c m [arguments] fault := by
  rw [raisesInside_singleton_iff]
  rintro ⟨slots, m₁, hs, -⟩
  rw [hs] at h
  cases h

/-! ## The three ways to fail -/

/-- Arguments that cannot all be put into slots end as the check of one of them does, after those
before it have been put there. -/
theorem exists_rejected_of_putAll {pairs : List (Nat × Value)} {p : Problem}
    (h : c.putAll slots pairs = .error p) :
    ∃ front index v back before, pairs = front ++ (index, v) :: back ∧
      c.putAll slots front = .ok before ∧ v.isOpen = false ∧
      c.checkArgument before index v = .error p := by
  induction pairs generalizing slots with
  | nil => cases h
  | cons pair rest ih =>
    obtain ⟨index, v⟩ := pair
    rw [putAll] at h
    cases hput : c.put slots index v with
    | error q =>
      -- the check of the first argument fails
      rw [hput] at h
      obtain rfl := Except.error.inj h
      rw [put] at hput
      split at hput
      · cases hput
      · next hclosed =>
        refine ⟨[], index, v, rest, slots, rfl, rfl, by simpa using hclosed, ?_⟩
        cases hcheck : c.checkArgument slots index v with
        | ok =>
          rw [hcheck] at hput
          cases hput
        | error q' =>
          rw [hcheck] at hput
          cases hput
          rfl
    | ok after =>
      rw [hput] at h
      obtain ⟨front, i, w, back, before, rfl, hbefore, hw⟩ := ih h
      exact ⟨(index, v) :: front, i, w, back, before, rfl,
        bind_eq_ok.mpr ⟨after, hput, hbefore⟩, hw⟩

/-- A call that is refused has a surplus, or it has come to a check that fails. -/
theorem surplus_or_comesTo {p : Problem} (h : c.supply? arguments = .error p) (call : Call)
    (m : Machine) :
    p = ⟨none, c.surplusFault arguments⟩ ∨ ∃ slots index v,
      ComesTo call c m [arguments] slots index v ∧ c.checkArgument slots index v = .error p := by
  by_cases hmany : c.hasSurplus arguments
  · rw [supply?_of_surplus hmany] at h
    exact .inl (Except.error.inj h).symm
  · rw [supply?, if_neg hmany] at h
    obtain ⟨front, index, v, back, slots, hplace, hpassed, hclosed, hcheck⟩ :=
      exists_rejected_of_putAll h
    exact .inr ⟨slots, index, v, .argument (by simpa using hmany) hplace hpassed hclosed, hcheck⟩

/-- One call that ends in a fault. -/
theorem surplus_or_raisesInside_or_comesTo
    (h : Run.invoke call c arguments m = (.error fault, m')) :
    fault = c.surplusFault arguments ∨ RaisesInside call c m [arguments] fault ∨
      ∃ slots index v p, ComesTo call c m [arguments] slots index v ∧
        c.checkArgument slots index v = .error p ∧ p.fault = fault := by
  cases hs : c.supply? arguments with
  | error p =>
    obtain ⟨m₁, hfault, -⟩ := Run.ofChecked_error (α := Value) p m
    rw [Run.invoke_error hs, hfault] at h
    obtain rfl : p.fault = fault := Except.error.inj (congrArg Prod.fst h)
    rcases surplus_or_comesTo hs call m with rfl | ⟨slots, index, v, hcomes, hcheck⟩
    · exact .inl rfl
    · exact .inr (.inr ⟨slots, index, v, p, hcomes, hcheck, rfl⟩)
  | ok slots =>
    by_cases hfull : isSaturated slots
    · rw [Run.invoke_saturated hs hfull] at h
      rcases hcall : call c.implementation slots m with ⟨answer, m₁⟩
      cases answer with
      | error f =>
        rw [Run.complete_of_error hcall] at h
        obtain rfl : f = fault := Except.error.inj (congrArg Prod.fst h)
        exact .inr (.inl (.last hs hfull hcall))
      | ok r =>
        cases hcheck : c.checkResult slots r with
        | ok =>
          rw [Run.complete_of_ok hcall hcheck] at h
          cases h
        | error p =>
          obtain ⟨m₂, hfault⟩ := Run.complete_of_rejected hcall hcheck
          rw [hfault] at h
          rw [checkResult_eq] at hcheck
          exact .inr (.inr ⟨slots, _, r, p, .result hs hfull hcall, hcheck,
            Except.error.inj (congrArg Prod.fst h)⟩)
    · rw [Run.invoke_partial hs (by simpa using hfull)] at h
      cases h

/-- **The three ways to fail.**  A chain of calls of which only the last one may fill all slots ends
in a fault about the number of arguments, in one that the implementation has raised, or in that of a
check that the chain has come to.  The induction is on the calls. -/
theorem arity_or_raisesInside_or_comesTo {mark : Nat} (hopen : c.LeaveOpen groups)
    (h : calls (step call) (c.toValue mark) (groups ++ [arguments]) m = (.error fault, m')) :
    (∃ required received, fault = .arity c.signature.name required received) ∨
      RaisesInside call c m (groups ++ [arguments]) fault ∨
      ∃ slots index v p, ComesTo call c m (groups ++ [arguments]) slots index v ∧
        c.checkArgument slots index v = .error p ∧ p.fault = fault := by
  induction groups generalizing c mark m with
  | nil =>
    rw [List.nil_append, Run.calls_singleton, Run.step_toValue] at h
    rcases surplus_or_raisesInside_or_comesTo h with rfl | hrest
    · exact .inl ⟨_, _, rfl⟩
    · exact .inr hrest
  | cons first rest ih =>
    rw [List.cons_append, Run.calls_cons, Run.step_toValue] at h
    cases hs : c.supply? first with
    | error p =>
      obtain ⟨m₁, hfault, -⟩ := Run.ofChecked_error (α := Value) p m
      rw [Run.invoke_error hs, Run.bind_of_error hfault] at h
      obtain rfl : p.fault = fault := Except.error.inj (congrArg Prod.fst h)
      rcases surplus_or_comesTo hs call m with rfl | ⟨slots, index, v, hcomes, hcheck⟩
      · exact .inl ⟨_, _, rfl⟩
      · exact .inr (.inr ⟨slots, index, v, p, hcomes.append (rest ++ [arguments]), hcheck, rfl⟩)
    | ok slots =>
      obtain ⟨-, rfl⟩ := eq_fill_of_supply? hs
      have hleft : isSaturated (fill c.slots first) = false :=
        hopen [first] (List.prefix_append [first] rest) (List.cons_ne_nil _ _)
      have hopen' : ({ c with slots := fill c.slots first } : Curried).LeaveOpen rest :=
        fun p hp _ => hopen (first :: p) (List.cons_prefix_cons.mpr ⟨rfl, hp⟩)
          (List.cons_ne_nil _ _)
      rw [Run.bind_of_ok (Run.invoke_partial hs hleft call m)] at h
      rcases ih hopen' h with harity | hinside | ⟨slots, index, v, p, hcomes, hcheck⟩
      · exact .inl harity
      · exact .inr (.inl (.later hs hleft hinside))
      · exact .inr (.inr ⟨slots, index, v, p, .later hs hleft hcomes, hcheck⟩)

/-! ## Reports -/

/-- A chain of calls comes to a value that it rejects, and the fault reports the rejection. -/
def Rejects (call : Call) (c : Curried) (environment : List Ty) (m : Machine)
    (groups : List (List Value)) (fault : Fault Value) : Prop :=
  ∃ slots index v r, ComesTo call c m groups slots index v ∧
    c.signature.Rejects slots index v r ∧
    c.signature.rejectionFault environment index v r = .ok fault

/-- **Where a report comes from.**  A fault of a checked call that is neither about the number of
arguments nor that of a basic operation comes from inside its implementation, or it reports a value
that is rejected. -/
theorem raisesInside_or_rejects {mark : Nat} (henv : c.environment = some environment)
    (hopen : c.LeaveOpen groups)
    (h : calls (step call) (c.toValue mark) (groups ++ [arguments]) m = (.error fault, m'))
    (harity : ∀ name required received, fault ≠ .arity name required received)
    (hbasic : ∀ cause, fault ≠ .basic cause) :
    RaisesInside call c m (groups ++ [arguments]) fault ∨
      Rejects call c environment m (groups ++ [arguments]) fault := by
  rcases arity_or_raisesInside_or_comesTo hopen h with
    ⟨required, received, hmany⟩ | hinside | ⟨slots, index, v, p, hcomes, hcheck, rfl⟩
  · exact absurd hmany (harity _ _ _)
  · exact .inl hinside
  · simp only [checkArgument, henv] at hcheck
    obtain ⟨r, hrejects, hfault⟩ := Signature.exists_rejects_of_checkArgument hcheck hbasic
    exact .inr ⟨slots, index, v, r, hcomes, hrejects, hfault⟩

/-- The same for a single call. -/
theorem raisesInside_or_rejects_of_step {mark : Nat} (henv : c.environment = some environment)
    (h : step call (c.toValue mark) arguments m = (.error fault, m'))
    (harity : ∀ name required received, fault ≠ .arity name required received)
    (hbasic : ∀ cause, fault ≠ .basic cause) :
    RaisesInside call c m [arguments] fault ∨
      Rejects call c environment m [arguments] fault := by
  have hcalls : calls (step call) (c.toValue mark) ([] ++ [arguments]) m = (.error fault, m') := by
    rw [List.nil_append, Run.calls_singleton]
    exact h
  exact raisesInside_or_rejects henv (leaveOpen_nil c) hcalls harity hbasic

/-- A call with one value is refused with the report of its rejection. -/
theorem supply?_of_rejectionAt? {rest : List Nat} {r : Signature.Rejection} {p : Problem}
    (henv : c.environment = some environment) (hopen : c.openSlots = index :: rest)
    (hclosed : v.isOpen = false)
    (hverdict : c.signature.rejectionAt? c.slots index v = .ok (some r))
    (hreport : c.signature.report environment index v r = .error p) :
    c.supply? [v] = .error p := by
  have hfew : c.hasSurplus [v] = false := by
    have hlen : 1 ≤ c.arity := by
      rw [← length_openSlots, hopen]
      simp
    rw [hasSurplus, List.drop_eq_nil_of_le hlen]
    rfl
  have hput : c.put c.slots index v = .error p := by
    simp only [put, checkArgument, hclosed, henv, Signature.checkArgument_eq, hverdict]
    show (c.signature.report environment index v r >>= _) = _
    rw [hreport]
    rfl
  rw [supply?, hfew, if_neg Bool.false_ne_true, hopen, List.zip_cons_cons, putAll, hput]
  rfl

/-! ## The slots that a value is checked with -/

omit [Host] in
/-- The slot at an index among the open ones is open, and so many open slots are before it. -/
theorem exists_slot_of_openFrom {k n : Nat} (h : (openFrom k slots)[n]? = some index) :
    ∃ i w, index = k + i ∧ slots[i]? = some w ∧ w.isOpen = true ∧
      (slots.take i).countP Value.isOpen = n := by
  induction slots generalizing k n with
  | nil => simp [openFrom] at h
  | cons v slots ih =>
    by_cases hv : v.isOpen
    · rw [openFrom, if_pos hv] at h
      cases n with
      | zero => exact ⟨0, v, (Option.some.inj h).symm, rfl, hv, rfl⟩
      | succ n =>
        obtain ⟨i, w, rfl, hw, hopen, hcount⟩ := ih h
        refine ⟨i + 1, w, by omega, hw, hopen, ?_⟩
        rw [List.take_succ_cons, List.countP_cons_of_pos hv, hcount]
    · rw [openFrom, if_neg hv] at h
      obtain ⟨i, w, rfl, hw, hopen, hcount⟩ := ih h
      refine ⟨i + 1, w, by omega, hw, hopen, ?_⟩
      rw [List.take_succ_cons, List.countP_cons_of_neg hv, hcount]

/-- The arguments before one that is checked are a call of their own, and the one that is checked is
for the open slot that they leave next. -/
theorem exists_supply?_of_putAll {front back : List (Nat × Value)}
    (fits : c.hasSurplus arguments = false)
    (place : c.openSlots.zip arguments = front ++ (index, v) :: back)
    (passed : c.putAll c.slots front = .ok slots) :
    ∃ before, c.supply? before = .ok slots ∧ c.openSlots[before.length]? = some index := by
  obtain ⟨ws, xs, before, rest, hlength, hsplit, rfl, rfl, hrest⟩ :=
    List.zip_eq_append_iff.mp place
  obtain ⟨xs, after, rfl, rfl, -⟩ := List.zip_eq_cons_iff.mp hrest.symm
  refine ⟨before, ?_, by rw [hsplit, ← hlength]; simp⟩
  have hnone : c.hasSurplus before = false := by
    rw [hasSurplus_eq_false_iff] at fits ⊢
    intro a ha
    refine fits a ?_
    rw [List.drop_append]
    exact List.mem_append_left _ ha
  have hzip : c.openSlots.zip before = ws.zip before := by
    have happend : (ws ++ index :: xs).zip (before ++ []) =
        ws.zip before ++ (index :: xs).zip [] := List.zip_append hlength
    simpa [hsplit] using happend
  rw [supply?, hnone, if_neg Bool.false_ne_true, hzip, passed]

/-- **The slots that a value is checked with.**  From coherent slots a chain comes to coherent slots
only, and the slot that the value is for is open. -/
theorem ComesTo.coherent (h : ComesTo call c m groups slots index v)
    (henv : c.environment = some environment) (hlen : c.slots.length = c.signature.arity)
    (hcoherent : c.signature.Coherent c.slots) :
    slots.length = c.signature.arity ∧ c.signature.Coherent slots ∧
      ∀ w, slots[index]? = some w → w.isOpen = true := by
  -- slots that a call supplies are those of a chain of one call
  have hsupply {d : Curried} {arguments after : List Value} (henv : d.environment = some environment)
      (hlen : d.slots.length = d.signature.arity) (hcoherent : d.signature.Coherent d.slots)
      (h : d.supply? arguments = .ok after) :
      after.length = d.signature.arity ∧ d.signature.Coherent after := by
    have hall : d.supplyAll? [arguments] = .ok after := by
      rw [← List.nil_append [arguments], supplyAll?_concat]
      exact h
    exact coherent_of_supplyAll? henv hlen hcoherent hall
  induction h with
  | argument fits place passed closed =>
    obtain ⟨before, hbefore, hindex⟩ := exists_supply?_of_putAll fits place passed
    obtain ⟨hlength, hcoherent'⟩ := hsupply henv hlen hcoherent hbefore
    refine ⟨hlength, hcoherent', fun w hw => ?_⟩
    -- no argument before this one is for the slot
    obtain ⟨i, x, rfl, hx, hopen, hcount⟩ := exists_slot_of_openFrom hindex
    rw [(eq_fill_of_supply? hbefore).2, Nat.zero_add, getElem?_fill_open hx hopen, hcount,
      List.getElem?_eq_none (Nat.le_refl _)] at hw
    obtain rfl := Option.some.inj hw
    exact hopen
  | result supplied full answered =>
    obtain ⟨hlength, hcoherent'⟩ := hsupply henv hlen hcoherent supplied
    refine ⟨hlength, hcoherent', fun w hw => ?_⟩
    rw [Signature.getElem?_arity_eq_none hlength] at hw
    cases hw
  | later supplied left rest ih =>
    obtain ⟨hlength, hcoherent'⟩ := hsupply henv hlen hcoherent supplied
    exact ih henv hlength hcoherent'

end CheckedCurry.Curried
