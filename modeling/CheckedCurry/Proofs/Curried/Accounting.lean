import CheckedCurry.Proofs.Run.Calls

/-!
# Slot accounting

What a run of calls makes of the slots of a function, as long as no call raises: which argument goes
where, which slots are open, how many, and when the implementation is called.

- `Accounts`: the account of a run.  The slots after the calls are `(c.after p).slots` for each
  beginning `p` of the run, a list that depends on nothing but the arguments.
- `accounts_of_supplyAll?`: calls that supply slots keep the account, by induction on the run.
- `slots_accounted`: the account of every run of a function that starts with all slots open, with
  the answers of its calls and the one call of the implementation.
-/

namespace CheckedCurry.Curried

variable [Host]

/-! ## The account of a run -/

/-- The account of a run of calls, at each of its beginnings `p`. -/
structure Accounts (c : Curried) (groups : List (List Value)) : Prop where
  /-- There are as many slots as parameters. -/
  width : ∀ p, p <+: groups → (c.after p).slots.length = c.signature.arity
  /-- A filled slot keeps its value for the rest of the run. -/
  kept : ∀ p q, p <+: q → q <+: groups → ∀ (i : Nat) (w : Value),
    (c.after p).slots[i]? = some w → w.isOpen = false → (c.after q).slots[i]? = some w
  /-- The argument at `j` goes to the open slot with `j` open slots before it, unless it is a
  placeholder. -/
  placed : ∀ p arguments, p ++ [arguments] <+: groups → ∀ (i : Nat) (w : Value),
    (c.after p).slots[i]? = some w → w.isOpen = true →
    (c.after (p ++ [arguments])).slots[i]? =
      some (meet .placeholder arguments[((c.after p).slots.take i).countP Value.isOpen]?)
  /-- As many slots are filled as values have been supplied. -/
  arity : ∀ p, p <+: groups → (c.after p).arity + supplied p.flatten = c.signature.arity
  /-- An open slot holds the placeholder. -/
  marker : ∀ p, p <+: groups → ∀ w ∈ (c.after p).slots, w.isOpen = true → w = .placeholder

variable {c : Curried} {groups : List (List Value)}

/-- Where only the placeholder marks slots as open, it stays so. -/
theorem eq_placeholder_of_mem_after (hmarker : ∀ w ∈ c.slots, w.isOpen = true → w = .placeholder)
    (p : List (List Value)) :
    ∀ w ∈ (c.after p).slots, w.isOpen = true → w = .placeholder :=
  fun w hw hopen => hmarker w (mem_of_mem_fillAll hw hopen) hopen

/-- Calls that supply slots fill one slot for each value they are given. -/
theorem arity_after_of_supplyAll? {slots : List Value} (h : c.supplyAll? groups = .ok slots) :
    (c.after groups).arity + supplied groups.flatten = c.arity := by
  induction groups using List.reverseRecOn generalizing slots with
  | nil => rfl
  | append_singleton groups arguments ih =>
    cases hmiddle : c.supplyAll? groups with
    | error p =>
      rw [supplyAll?_concat_of_error hmiddle] at h
      cases h
    | ok middle =>
      have hbefore := ih hmiddle
      have hslots : (c.after (groups ++ [arguments])).slots = slots :=
        (eq_after_of_supplyAll? h).symm
      rw [supplyAll?_concat_of_ok hmiddle] at h
      have hlast := countP_of_supply? h
      have hsum : supplied (groups ++ [arguments]).flatten =
          supplied groups.flatten + supplied arguments := by
        simp [supplied]
      rw [arity, hslots, hsum]
      omega

/-- If the calls of a run supply slots, so do those of its beginnings. -/
theorem supplyAll?_of_isPrefix {p : List (List Value)} {slots : List Value} (hp : p <+: groups)
    (h : c.supplyAll? groups = .ok slots) : c.supplyAll? p = .ok (c.after p).slots := by
  obtain ⟨later, rfl⟩ := hp
  cases hbegin : c.supplyAll? p with
  | error q =>
    have hfails : c.supplyAll? (p ++ later) = .error q := by
      rw [supplyAll?, List.foldlM_append, ← supplyAll?, hbegin]
      rfl
    rw [hfails] at h
    cases h
  | ok middle => rw [eq_after_of_supplyAll? hbegin]

/-- Calls that supply the slots of a function without arguments keep the account. -/
theorem accounts_of_supplyAll? {slots : List Value}
    (hmarker : ∀ w ∈ c.slots, w.isOpen = true → w = .placeholder)
    (hwidth : c.slots.length = c.signature.arity) (hfresh : c.arity = c.signature.arity)
    (h : c.supplyAll? groups = .ok slots) : c.Accounts groups where
  width p _ := by rw [slots_after, length_fillAll, hwidth]
  kept p q hpq _ i w hw hclosed := by
    obtain ⟨later, rfl⟩ := hpq
    rw [slots_after, fillAll_append]
    exact getElem?_fillAll_closed hw hclosed later
  placed p arguments _ i w hw hopen := by
    obtain rfl : w = .placeholder :=
      eq_placeholder_of_mem_after hmarker p w (List.mem_of_getElem? hw) hopen
    rw [slots_after, fillAll_concat]
    exact getElem?_fill_open hw hopen arguments
  arity p hp := by
    rw [← hfresh]
    exact arity_after_of_supplyAll? (supplyAll?_of_isPrefix hp h)
  marker p _ := eq_placeholder_of_mem_after hmarker p

/-! ## Runs of a function that starts with all slots open -/

section Fresh

variable {s : Signature} {f : Value} {e : Option (List Ty)}

omit [Host] in
theorem eq_placeholder_of_mem_fresh :
    ∀ w ∈ (fresh s f e).slots, w.isOpen = true → w = .placeholder :=
  fun _ hw _ => List.eq_of_mem_replicate hw

omit [Host] in
theorem length_slots_fresh : (fresh s f e).slots.length = (fresh s f e).signature.arity :=
  List.length_replicate

/-- A run whose calls answer leaves a slot open as long as fewer values are supplied than the
function has parameters. -/
theorem leaveOpen_of_supplied {call : Call} {mark : Nat} {m m' : Machine} {v : Value}
    (hfew : ∀ p, p <+: groups → p ≠ [] → supplied p.flatten < s.arity)
    (h : Run.calls (Run.step call) ((fresh s f e).toValue mark) groups m = (.ok v, m')) :
    (fresh s f e).LeaveOpen groups := by
  induction groups using List.reverseRecOn generalizing v m' with
  | nil => exact leaveOpen_nil _
  | append_singleton groups arguments ih =>
    have hbegin : groups <+: groups ++ [arguments] := List.prefix_append ..
    obtain ⟨w, m₁, hw⟩ := Run.calls_of_isPrefix hbegin h
    have hopen := ih (fun p hp => hfew p (hp.trans hbegin)) hw
    have hall := Run.supplyAll?_of_calls hopen hw
    rw [Run.calls_concat_of_supplyAll?_ok hopen hall] at h
    have hlast := Run.supply?_of_invoke h
    rw [← supplyAll?_concat_of_ok hall] at hlast
    have hcount := arity_after_of_supplyAll? hlast
    rw [arity_fresh] at hcount
    intro p hp hne
    rcases List.prefix_concat_iff.mp hp with rfl | hp
    · have hlt := hfew _ (List.prefix_refl _) hne
      rw [Bool.eq_false_iff, Ne, isSaturated_iff_countP]
      intro hzero
      rw [arity, hzero] at hcount
      omega
    · exact hopen p hp hne

/-- **Slot accounting.**  A run of calls on a function with all slots open, each on the answer of
the one before, keeps the account as long as no call raises.  The calls before the last one supply
fewer values than there are parameters, so that their answers are partial applications of the
function: as long as a slot is open, the answer is the function with the slots of the account, and
the implementation has had no part in it.  A call that leaves no slot open, and no other one, calls
the implementation, with one value for each parameter and no placeholder among them. -/
theorem slots_accounted
    (hfew : ∀ p, p <+: groups → p ≠ [] → p ≠ groups → supplied p.flatten < s.arity)
    {call : Call} {mark : Nat} {m m' : Machine} {v : Value}
    (hrun : Run.calls (Run.step call) ((fresh s f e).toValue mark) groups m = (.ok v, m')) :
    (fresh s f e).Accounts groups ∧
    (∀ p, p <+: groups → p = [] ∨ 0 < ((fresh s f e).after p).arity →
      ∃ mark', ∀ call' : Call,
        Run.calls (Run.step call') ((fresh s f e).toValue mark) p m =
          (.ok (((fresh s f e).after p).toValue mark'), Machine.advance^[p.length] m)) ∧
    (groups ≠ [] → ((fresh s f e).after groups).arity = 0 →
      ((fresh s f e).after groups).slots.length = s.arity ∧
      (∀ w ∈ ((fresh s f e).after groups).slots, w.isOpen = false) ∧
      ∀ call' : Call,
        Run.calls (Run.step call') ((fresh s f e).toValue mark) groups m =
          Run.complete call' (fresh s f e) ((fresh s f e).after groups).slots
            (Machine.advance^[groups.length - 1] m)) := by
  have haccounts {slots : List Value} (h : (fresh s f e).supplyAll? groups = .ok slots) :
      (fresh s f e).Accounts groups :=
    accounts_of_supplyAll? eq_placeholder_of_mem_fresh length_slots_fresh (arity_fresh s f e) h
  rcases List.eq_nil_or_concat groups with rfl | ⟨begin, arguments, rfl⟩
  · -- no call at all: the answer is the function itself
    refine ⟨haccounts (supplyAll?_nil _), fun p hp _ => ?_, fun hne _ => absurd rfl hne⟩
    obtain rfl : p = [] := List.prefix_nil.mp hp
    exact ⟨mark, fun _ => rfl⟩
  · rw [List.concat_eq_append] at *
    obtain ⟨w, m₁, hbegin⟩ := Run.calls_of_isPrefix (List.prefix_append begin [arguments]) hrun
    have hopen : (fresh s f e).LeaveOpen begin := by
      refine leaveOpen_of_supplied (fun p hp hne => ?_) hbegin
      refine hfew p (hp.trans (List.prefix_append ..)) hne fun heq => ?_
      have hle := hp.length_le
      rw [heq, List.length_append, List.length_singleton] at hle
      omega
    have hall := Run.supplyAll?_concat_of_calls hopen hrun
    refine ⟨haccounts hall, fun p hp hleft => ?_, fun _ hzero => ?_⟩
    · -- a beginning after which a slot is open, and so after all calls before it
      have hopenp : (fresh s f e).LeaveOpen p := by
        intro q hq hne
        rcases List.prefix_concat_iff.mp (hq.trans hp) with rfl | hq'
        · obtain rfl : begin ++ [arguments] = p := hq.eq_of_length_le hp.length_le
          rw [Bool.eq_false_iff, Ne, isSaturated_iff_countP]
          exact Nat.pos_iff_ne_zero.mp (hleft.resolve_left hne)
        · exact hopen q hq' hne
      exact Run.calls_of_supplyAll?_ok hopenp (supplyAll?_of_isPrefix hp hall) mark m
    · -- the last call leaves no slot open
      have hfull := isSaturated_iff_countP.mpr hzero
      refine ⟨(haccounts hall).width _ (List.prefix_refl _), isSaturated_iff_closed.mp hfull,
        fun call' => ?_⟩
      rw [Run.calls_of_saturated hopen hall hfull, List.length_append, List.length_singleton,
        Nat.add_sub_cancel]

omit [Host] in
/-- Three slots that are filled out of order, past a placeholder, an object that acts as one and a
placeholder to spare. -/
theorem slots_accounted_out_of_order : letI : Host := .bare
    let c := fresh ⟨"f", [.anything, .anything, .anything], .anything, []⟩
      (.collecting 0 (.fixed 3)) none
    let marker := Value.object ⟨7, "Marker", .none, "marker", none, false⟩
      [("__placeholder__", .yes)] none
    let groups := [[.placeholder, .int 1], [marker, .int 3, .placeholder], [.int 2]]
    (∀ p, p <+: groups → p ≠ [] → p ≠ groups → supplied p.flatten < 3) ∧
    Run.calls (Run.step Run.call) (c.toValue 0) groups (.start none) =
      (.ok (.list [.int 2, .int 1, .int 3]), Machine.advance^[2] (.start none)) ∧
    c.Accounts groups ∧
    ∀ call : Call, Run.calls (Run.step call) (c.toValue 0) groups (.start none) =
      Run.complete call c [.int 2, .int 1, .int 3] (Machine.advance^[2] (.start none)) := by
  let _ : Host := .bare
  intro c marker groups
  have hfew : ∀ p, p <+: groups → p ≠ [] → p ≠ groups → supplied p.flatten < 3 := by
    intro p hp hne hproper
    rcases List.prefix_cons_iff.mp hp with rfl | ⟨q, rfl, hq⟩
    · exact absurd rfl hne
    · rcases List.prefix_cons_iff.mp hq with rfl | ⟨r, rfl, hr⟩
      · decide
      · rcases List.prefix_cons_iff.mp hr with rfl | ⟨u, rfl, hu⟩
        · decide
        · obtain rfl := List.prefix_nil.mp hu
          exact absurd rfl hproper
  have hrun : Run.calls (Run.step Run.call) (c.toValue 0) groups (.start none) =
      (.ok (.list [.int 2, .int 1, .int 3]), Machine.advance^[2] (.start none)) := rfl
  obtain ⟨haccounts, -, hlast⟩ := slots_accounted hfew hrun
  exact ⟨hfew, hrun, haccounts, (hlast (by simp [groups]) rfl).2.2⟩

end Fresh

end CheckedCurry.Curried
