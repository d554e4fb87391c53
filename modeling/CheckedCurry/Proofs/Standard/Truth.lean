import CheckedCurry.Proofs.Standard.Results
import CheckedCurry.Proofs.Value.Dispatch

/-!
# The truth of values

Truth values, arrays, optional values, failures and successes are true or false, and the functions of
logic choose between two values by that.  The truth of an array is a matter of its size, which cannot be
told of a progression of too many numbers.

- `Value.IsCountable`, `Value.HasParts`: values whose size can be told, and values of which parts can be
  taken.
- `Value.HasTruth`: the truth of a value is found; `IsOwn.exists_truth`: of which values it is.
- `HasTruth.both_eq`, `HasTruth.oneOf_eq`, `HasTruth.exclusive_eq`: what the functions of logic choose.
- `IsOwn.exists_empty`: an empty value is false, if there is one.
-/

namespace CheckedCurry.Value

variable [Host]

open Capability (Operation)

variable {v w : Value} {b c : Bool}

/-- The number of elements of a value can be told, if it has elements. -/
def IsCountable (v : Value) : Prop := ∀ n, v.count? = some n → n < countBound

/-- Parts can be taken of a value, if it has elements at all: of a sequence that is extended at both ends
they cannot. -/
def HasParts (v : Value) : Prop := ∀ items, v.core ≠ deque items

/-- The truth of a value is found. -/
def HasTruth (v : Value) (b : Bool) : Prop :=
  ∀ mark, ∃ t, perform mark .toBoolean v [] = .ok t ∧ t.core = bool b

/-! ## Finding the truth -/

/-- An operation that is not supported is lacking, whoever finds it out. -/
theorem perform_toBoolean (mark : Nat) (v : Value) :
    perform mark .toBoolean v [] = v.asBoolean := by
  unfold perform
  split
  · rfl
  · rename_i h
    unfold asBoolean
    simp only [supports, Operation.supported, List.contains_eq_mem, List.mem_cons,
      List.not_mem_nil, or_false, decide_eq_true_eq, not_or] at h
    obtain ⟨hboolean, harray, hmaybe, heither⟩ := h
    rw [if_neg hboolean, if_neg harray, if_neg hmaybe, if_neg heither]

theorem hasTruth_iff : v.HasTruth b ↔ ∃ t, v.asBoolean = .ok t ∧ t.core = bool b := by
  unfold HasTruth
  simp only [perform_toBoolean]
  exact ⟨fun h => h 0, fun h _ => h⟩

/-- A value has only one truth. -/
theorem HasTruth.unique (hb : v.HasTruth b) (hc : v.HasTruth c) : b = c := by
  obtain ⟨t, ht, hcore⟩ := hb 0
  obtain ⟨u, hu, hcore'⟩ := hc 0
  obtain rfl : t = u := Except.ok.inj (ht.symm.trans hu)
  exact Value.bool.inj (hcore.symm.trans hcore')

omit [Host] in
/-- The size of an array that is countable. -/
theorem length_of_kind_array (h : v.kind = .array) {n : Nat} (hn : v.count? = some n)
    (hlt : n < countBound) : v.length = .ok n := by
  unfold length
  split
  · cases h
  · rw [hn]
    exact if_neg (Nat.not_le_of_lt hlt)

theorem asBoolean_of_unifier_array (h : v.unifier = Kind.array.name) :
    v.asBoolean = do return bool (0 < (← v.length)) := by
  unfold asBoolean
  rw [if_neg (by rw [h]; decide), if_pos h]

/-- An array is true if it has elements. -/
theorem hasTruth_of_kind_array (h : v.kind = .array) {n : Nat} (hn : v.count? = some n)
    (hlt : n < countBound) : v.HasTruth (0 < n) := by
  refine hasTruth_iff.mpr ⟨bool (0 < n), ?_, rfl⟩
  rw [asBoolean_of_unifier_array (unifier_of_kind h (by decide)), length_of_kind_array h hn hlt]
  rfl

theorem hasTruth_bool (b : Bool) : (bool b).HasTruth b := hasTruth_iff.mpr ⟨bool b, rfl, rfl⟩

theorem hasTruth_nothing : nothing.HasTruth false := hasTruth_iff.mpr ⟨no, rfl, rfl⟩

omit [Host] in
theorem supports_toBoolean_iff : v.supports .toBoolean = true ↔
    v.unifier = Kind.boolean.name ∨ v.unifier = Kind.array.name ∨ v.unifier = maybeIdentifier ∨
      v.unifier = eitherIdentifier := by
  simp [supports, Operation.supported]

/-- **The truth of a value that supports it is found**, if its size can be told. -/
theorem IsOwn.exists_truth (hv : v.IsOwn) (hcount : v.IsCountable)
    (h : v.supports .toBoolean = true) : ∃ b, v.HasTruth b := by
  rcases supports_toBoolean_iff.mp h with hboolean | harray | hmaybe | heither
  · obtain ⟨b, hb⟩ := exists_bool_of_kind (hv.kind_of_unifier hboolean)
    refine ⟨b, hasTruth_iff.mpr ⟨v, ?_, hb⟩⟩
    unfold asBoolean
    rw [if_pos hboolean]
  · have hkind := hv.kind_of_unifier harray
    obtain ⟨items, -, -, hn⟩ := exists_items_of_kind hkind
    exact ⟨_, hasTruth_of_kind_array hkind hn (hcount _ hn)⟩
  · have hidentifier := (unifier_eq_iff (.inl rfl)).mp hmaybe
    rcases (hv (by simp [hidentifier])).maybe hidentifier with rfl | ⟨w, rfl⟩
    · exact ⟨false, hasTruth_nothing⟩
    · exact ⟨true, hasTruth_iff.mpr ⟨yes, rfl, rfl⟩⟩
  · have hidentifier := (unifier_eq_iff (.inr rfl)).mp heither
    obtain ⟨w, rfl | rfl⟩ := (hv (by simp [hidentifier])).either hidentifier
    · exact ⟨false, hasTruth_iff.mpr ⟨no, rfl, rfl⟩⟩
    · exact ⟨true, hasTruth_iff.mpr ⟨yes, rfl, rfl⟩⟩

/-! ## Empty values -/

omit [Host] in
/-- No number comes before the first one. -/
theorem length_progression_self (start step : Int) :
    (⟨start, start, step⟩ : Progression).length = 0 := by
  unfold Progression.length
  dsimp only
  split
  · rename_i hstep
    rw [Int.sub_self, Int.zero_add, Int.fdiv_eq_ediv_of_nonneg _ (Int.le_of_lt hstep),
      Int.ediv_eq_zero_of_lt (by omega) (by omega)]
    rfl
  split
  · rw [Int.sub_self, Int.zero_sub, Int.fdiv_eq_ediv_of_nonneg _ (by omega),
      Int.ediv_eq_zero_of_lt (by omega) (by omega)]
    rfl
  · rfl

/-- The empty front part of an array that has parts is a false array. -/
theorem hasTruth_of_front (hv : v.kind = .array) (hparts : v.HasParts) :
    ∃ e, v.front = .ok e ∧ e.HasTruth false ∧ e.unifier = Kind.array.name := by
  have hfalse {e : Value} (he : e.kind = .array) (hcount : e.count? = some 0) :
      e.HasTruth false ∧ e.unifier = Kind.array.name :=
    ⟨hasTruth_of_kind_array he hcount (by decide), unifier_of_kind he (by decide)⟩
  unfold front
  rcases core_of_kind_array hv with
    ⟨items, hcore⟩ | ⟨items, hcore⟩ | ⟨p, hcore⟩ | ⟨i, hcore⟩ | ⟨items, hcore⟩
  case inr.inr.inr.inr => exact absurd hcore (hparts items)
  all_goals
    rw [hcore]
    refine ⟨_, rfl, hfalse rfl ?_⟩
  · rfl
  · rfl
  · exact congrArg some (length_progression_self p.start p.step)
  · rfl

/-- **The empty value of a kind is false**, and it is of that kind. -/
theorem IsOwn.exists_empty (hv : v.IsOwn) (hparts : v.HasParts) (htruth : v.supports .toBoolean = true)
    (hempty : v.supports .empty = true) :
    ∃ e, v.emptyLike = .ok e ∧ e.HasTruth false ∧ e.unifier = v.unifier := by
  rcases supports_toBoolean_iff.mp htruth with hunifier | hunifier | hunifier | hunifier
  · exact ⟨no, by unfold emptyLike; rw [if_pos hunifier], hasTruth_bool false, hunifier.symm⟩
  · obtain ⟨e, he, hfalse, hunifier'⟩ := hasTruth_of_front (hv.kind_of_unifier hunifier) hparts
    refine ⟨e, ?_, hfalse, hunifier'.trans hunifier.symm⟩
    unfold emptyLike
    rw [if_neg (by rw [hunifier]; decide), if_pos hunifier, he]
  · refine ⟨nothing, ?_, hasTruth_nothing, hunifier.symm⟩
    unfold emptyLike
    rw [if_neg (by rw [hunifier]; decide), if_neg (by rw [hunifier]; decide),
      if_neg (by rw [hunifier]; decide), if_pos hunifier]
  · unfold supports at hempty
    rw [hunifier] at hempty
    exact absurd hempty (by decide)

/-! ## Choosing by truth -/

omit [Host] in
theorem truth_of_core (h : v.core = bool b) : v.truth = b := by
  unfold truth
  rw [h]

theorem HasTruth.both_eq (h : v.HasTruth b) (w : Value) :
    v.both w = .ok (if b then w else v) := by
  obtain ⟨t, ht, hcore⟩ := hasTruth_iff.mp h
  unfold both
  rw [ht, ← truth_of_core hcore]
  rfl

theorem HasTruth.oneOf_eq (h : v.HasTruth b) (w : Value) :
    v.oneOf w = .ok (if b then v else w) := by
  obtain ⟨t, ht, hcore⟩ := hasTruth_iff.mp h
  unfold oneOf
  rw [ht, ← truth_of_core hcore]
  rfl

omit [Host] in
/-- Truth values are compared as what they are. -/
theorem equals_of_core_bool (hv : v.core = bool b) (hw : w.core = bool c) :
    equals v w = .ok (b == c) := by
  have hleaf : leafEquals v w = .ok (b == c) := by
    unfold leafEquals isSignaling leafEq
    rw [hv, hw]
    cases b <;> cases c <;> rfl
  rw [← hleaf]
  unfold equals
  cases v with
  | bool => rfl
  | object shape attrs base =>
    -- no object is a truth value in addition
    cases base with
    | none => cases hv
    | some base =>
      cases base <;> cases hv
  | _ => cases hv

/-- One of two values alone is true, or an empty value is taken. -/
theorem HasTruth.exclusive_eq (hv : v.HasTruth b) (hw : w.HasTruth c)
    (hempty : v.supports .empty = true) :
    v.exclusive w = if b = c then v.emptyLike else .ok (if b then v else w) := by
  obtain ⟨t, ht, htcore⟩ := hasTruth_iff.mp hv
  obtain ⟨u, hu, hucore⟩ := hasTruth_iff.mp hw
  unfold exclusive
  rw [ht, hu, ← truth_of_core htcore]
  show (do if ← equals t u then _ else _) = _
  rw [equals_of_core_bool htcore hucore, truth_of_core htcore]
  by_cases hbc : b = c
  · rw [if_pos hbc, hbc, beq_self_eq_true]
    exact if_pos hempty
  · rw [if_neg hbc, beq_false_of_ne hbc]
    rfl

end CheckedCurry.Value
