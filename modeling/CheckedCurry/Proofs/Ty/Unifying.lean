import CheckedCurry.Proofs.Ty.Naming
import CheckedCurry.Proofs.Ty.Standard

/-!
# Unifiers and the types of the environment

Whether values may stand for one type variable is told by their unifiers; reports speak of the types
that they are members of.  The two go together: a type of the standard environment has members of
one unifier only, and values with one unifier have a type of the environment in common, unless they
declare an identifier of their own.

- `Test.unifier?`: the one unifier of all values that pass a test.
- `Ty.IsUnifying`: environments whose types have members of one unifier; `isUnifying_environment`.
- `IsUnifying.eq_of_isMember`, `IsUnifying.eq_of_mem_names`: values with a type, or a name, in
  common have one unifier.
- `exists_type_of_unifier_eq`: values with one unifier have a type in common.
-/

namespace CheckedCurry

/-! ## Tests -/

namespace Test

/-- The unifier of all values that pass a test, if there is only one. -/
def unifier? : Test → Option String
  | kind .tagged => none
  | kind k => some k.name
  | valid | finite | nonZero | integer | natural => some Kind.number.name
  | stringMap => some Kind.object.name
  | declares identifier => some identifier
  | custom _ => none

end Test

namespace Value

variable {v : Value}

/-- The kind of a value without an identifier is that of its structure. -/
theorem kind_ne_tagged (h : v.identifier? = none) : v.kind ≠ .tagged := by
  rw [kind_eq_structuralKind h]
  unfold structuralKind
  split <;> first | decide | (split <;> decide)

theorem IsTagged.identifier?_cases (h : v.IsTagged) :
    v.identifier? = some maybeIdentifier ∨ v.identifier? = some eitherIdentifier := by
  rcases h with rfl | ⟨w, rfl | rfl | rfl⟩
  · exact .inl rfl
  · exact .inl rfl
  · exact .inr rfl
  · exact .inr rfl

/-- No kind is called by the identifier of a tagged value. -/
theorem IsTagged.unifier_ne (h : v.IsTagged) (k : Kind) : v.unifier ≠ k.name := by
  rcases h.identifier?_cases with hi | hi
  all_goals
    rw [unifier_of_identifier? hi]
    cases k <;> decide

/-- A value with a property of numbers is a number. -/
theorem kind_of_onNumber {property : Number → Except NumberFault Bool}
    (h : Test.onNumber property v = .ok true) : v.kind = .number := by
  unfold Test.onNumber numberOfKind? at h
  by_cases hkind : v.kind = .number
  · exact hkind
  · rw [if_neg hkind] at h
    cases h

end Value

namespace Test

/-- Values that pass a test have its unifier. -/
theorem unifier_of_holds [Host] {t : Test} {v : Value} {u : String} (h : t.holds v = .ok true)
    (hu : t.unifier? = some u) : v.unifier = u := by
  have hnumber (hkind : v.kind = .number) (hu : some Kind.number.name = some u) :
      v.unifier = u :=
    (Value.unifier_of_kind hkind (by decide)).trans (Option.some.inj hu)
  cases t with
  | kind k =>
    have hkind : v.kind = k := of_decide_eq_true (Except.ok.inj h)
    have hk : k ≠ .tagged := by
      rintro rfl
      cases hu
    rw [Value.unifier_of_kind hkind hk]
    cases k <;> first | exact Option.some.inj hu | exact absurd rfl hk
  | valid | finite | nonZero | integer | natural => exact hnumber (Value.kind_of_onNumber h) hu
  | stringMap =>
    cases v with
    | map entries => exact Option.some.inj hu
    | _ => cases h
  | declares identifier =>
    rw [Value.unifier_of_identifier? (Ty.declares_iff.mp h)]
    exact Option.some.inj hu
  | custom _ => cases hu

end Test

namespace Ty

variable {environment : List Ty} {t u : Ty} {v w : Value} {name : String}

/-! ## Types whose members have one unifier -/

/-- The unifier of all values that pass the test of a type, if there is only one. -/
def unifier? : Ty → Option String
  | nullary n => n.test.unifier?
  | applied c _ => c.test.unifier?
  | _ => none

theorem unifier_of_test [Host] {s : String} (h : t.test v = .ok true) (hs : t.unifier? = some s) :
    v.unifier = s := by
  cases t with
  | nullary n => exact Test.unifier_of_holds h hs
  | applied c params => exact Test.unifier_of_holds h hs
  | _ => cases hs

/-- Each type of an environment has members of one unifier only. -/
def IsUnifying (environment : List Ty) : Prop := ∀ t ∈ environment, t.unifier?.isSome = true

theorem isUnifying_environment : IsUnifying Ty.environment := by
  unfold IsUnifying
  decide

variable [Host]

/-- Values that pass the test of one type have one unifier. -/
theorem IsUnifying.eq_of_test (h : IsUnifying environment) (ht : t ∈ environment)
    (hv : t.test v = .ok true) (hw : t.test w = .ok true) : v.unifier = w.unifier := by
  obtain ⟨s, hs⟩ := Option.isSome_iff_exists.mp (h t ht)
  rw [unifier_of_test hv hs, unifier_of_test hw hs]

/-- **Values with a type in common have one unifier.** -/
theorem IsUnifying.eq_of_isMember (h : IsUnifying environment) (ht : t ∈ environment)
    (hv : t.isMember v = .ok true) (hw : t.isMember w = .ok true) : v.unifier = w.unifier :=
  h.eq_of_test ht (test_of_isMember hv) (test_of_isMember hw)

/-! ## Names -/

/-- Types with one head have one test. -/
theorem test_of_mem_headed {inner : List Ty} (h : u ∈ headed inner t) : u.test = t.test := by
  unfold headed at h
  split at h
  · obtain ⟨ps, -, rfl⟩ := List.mem_map.mp h
    rfl
  · rw [List.mem_singleton.mp h]

/-- A name of a value comes from a type of the environment whose test the value passes. -/
theorem exists_head_of_mem_names {depth : Nat} {names : List String} (henv : Readable environment)
    (h : namesWithin environment depth v = .ok names) (hname : name ∈ names) :
    ∃ t ∈ environment, ∃ u, BuiltFrom environment u ∧ u.text = name ∧ u.name? = t.name? ∧
      t.test v = .ok true := by
  obtain ⟨us, hus, rfl, hall⟩ := named_namesWithin henv depth v names h
  obtain ⟨u, hu, rfl⟩ := List.mem_map.mp hname
  have hlisted := hus.subset hu
  have hbuilt := builtFrom_of_mem_vocabulary henv hlisted
  have htest := test_of_isMember (hall u hu v rfl).isMember
  cases depth with
  | zero => cases hlisted
  | succ depth =>
    obtain ⟨t, ht, hheaded⟩ := List.mem_flatMap.mp hlisted
    refine ⟨t, ht, u, hbuilt, rfl, name?_of_mem_headed hheaded, ?_⟩
    rw [← test_of_mem_headed hheaded]
    exact htest

/-- **Values with a name in common have one unifier.**  The name tells which type of the environment
it comes from. -/
theorem IsUnifying.eq_of_mem_names {vs ws : List String} (h : IsUnifying environment)
    (henv : Readable environment) (hvs : names environment v = .ok vs)
    (hws : names environment w = .ok ws) (hv : name ∈ vs) (hw : name ∈ ws) :
    v.unifier = w.unifier := by
  obtain ⟨t, ht, u, hu, htext, hname, htest⟩ := exists_head_of_mem_names henv hvs hv
  obtain ⟨t', ht', u', hu', htext', hname', htest'⟩ := exists_head_of_mem_names henv hws hw
  obtain rfl := hu.eq_of_text_eq henv hu' (htext.trans htext'.symm)
  obtain rfl := henv.eq_of_name? ht ht' (hname.symm.trans hname')
  exact h.eq_of_test ht htest htest'

/-! ## From unifiers to types -/

/-- The values of a kind are members of one type: that of the kind, or that of arrays. -/
theorem exists_type_of_kind {k : Kind} (hk : k ≠ .tagged) :
    ∃ t ∈ Ty.environment, ∀ v : Value, v.kind = k → t.isMember v = .ok true := by
  by_cases harray : k = .array
  · subst harray
    refine ⟨array unknown, by simp [Ty.environment], fun v hv => ?_⟩
    obtain ⟨items, -, hitems, -⟩ := Value.exists_items_of_kind hv
    exact (fits_array.mpr ⟨hv, items, hitems, fun w _ => unknown_holds w⟩).isMember
  · have hmember : ofKind k ∈ Ty.environment := by
      cases k <;> simp [Ty.environment, function, boolean, string] at harray hk ⊢
    exact ⟨ofKind k, hmember, fun v hv => ((fits_ofKind (P := fun _ _ => True) k).mpr hv).isMember⟩

/-- Optional values are members of one type. -/
theorem isMember_maybe (h : v.IsTagged) (hv : v.identifier? = some maybeIdentifier) :
    (maybe unknown).isMember v = .ok true := by
  rcases h.maybe hv with rfl | ⟨w, rfl⟩
  · exact (fits_nothing (P := fun _ _ => True)).isMember
  · exact (fits_just.mpr (unknown_holds w)).isMember

/-- Failures and successes are members of one type. -/
theorem isMember_either (h : v.IsTagged) (hv : v.identifier? = some eitherIdentifier) :
    (either unknown unknown).isMember v = .ok true := by
  obtain ⟨w, rfl | rfl⟩ := h.either hv
  · exact (fits_left (unknown_holds w)).isMember
  · exact (fits_right (unknown_holds w)).isMember

/-- **Values with one unifier have a type in common**, unless one of them declares an identifier of
its own. -/
theorem exists_type_of_unifier_eq (hv : v.identifier? ≠ none → v.IsTagged)
    (hw : w.identifier? ≠ none → w.IsTagged) (h : v.unifier = w.unifier) :
    ∃ t ∈ Ty.environment, t.isMember v = .ok true ∧ t.isMember w = .ok true := by
  by_cases hnone : v.identifier? = none <;> by_cases hnone' : w.identifier? = none
  · -- both are called by their kinds
    rw [Value.unifier_of_no_identifier hnone, Value.unifier_of_no_identifier hnone'] at h
    obtain ⟨t, ht, hmember⟩ := exists_type_of_kind (Value.kind_ne_tagged hnone)
    exact ⟨t, ht, hmember v rfl, hmember w (Kind.name_injective h).symm⟩
  · rw [Value.unifier_of_no_identifier hnone] at h
    exact absurd h.symm ((hw hnone').unifier_ne v.kind)
  · rw [Value.unifier_of_no_identifier hnone'] at h
    exact absurd h ((hv hnone).unifier_ne w.kind)
  · have hmaybe : maybe unknown ∈ Ty.environment := by simp [Ty.environment]
    have heither : either unknown unknown ∈ Ty.environment := by simp [Ty.environment]
    rcases (hv hnone).identifier?_cases with hi | hi <;>
      rcases (hw hnone').identifier?_cases with hj | hj <;>
      rw [Value.unifier_of_identifier? hi, Value.unifier_of_identifier? hj] at h
    · exact ⟨_, hmaybe, isMember_maybe (hv hnone) hi, isMember_maybe (hw hnone') hj⟩
    · exact absurd h (by decide)
    · exact absurd h (by decide)
    · exact ⟨_, heither, isMember_either (hv hnone) hi, isMember_either (hw hnone') hj⟩

end Ty

end CheckedCurry
