import CheckedCurry.Proofs.Value.Attempt
import CheckedCurry.Ty.Membership

/-!
# Values that fit a type

What it means for a value to be a member of a type when each type variable is read as a property of
values.  The definition says nothing of misfits, bindings and the order in which they are met.

- `Ty.Fits`: the definition, by recursion on the type.
- `Ty.fits_iff`: a value fits if it has no misfit and all its bindings have the property.
- `Ty.fits_iff_of_bindings`: the same for a value that is known to have no misfit.
-/

namespace CheckedCurry.Ty

/-! ## Definition -/

mutual

/-- A value fits a type under a reading of the type variables: it passes the test of the type, what
stands at a variable has the property that the variable is read as, and all values inside fit the
parameters that look at them. -/
def Fits [Host] (reading : TypeVar → Value → Prop) : Ty → Value → Prop
  | var a, v => reading a v
  | applied c params, v => c.test.holds v = .ok true ∧
    ∃ sources, (applied c params).sources v = .ok sources ∧ FitsInside reading params sources
  | t, v => t.test v = .ok true

/-- The values inside fit the parameters, one source for each parameter. -/
def FitsInside [Host] (reading : TypeVar → Value → Prop) : List Ty → List Value → Prop
  | p :: params, source :: sources =>
    (∃ items, source.elements = .ok items ∧ ∀ w ∈ items, p.Fits reading w) ∧
      FitsInside reading params sources
  | _, _ => True

end

/-! ## Searching a list of values -/

theorem firstAnswer_eq_none {α : Type} {f : Value → Attempt (Option α)} {vs : List Value} :
    firstAnswer f vs = .ok none ↔ ∀ v ∈ vs, f v = .ok none := by
  induction vs with
  | nil => simp [firstAnswer]
  | cons v vs ih =>
    rw [List.forall_mem_cons, ← ih, firstAnswer, bind_eq_ok]
    constructor
    · rintro ⟨answer, hv, hrest⟩
      cases answer with
      | none => exact ⟨hv, hrest⟩
      | some a => cases hrest
    · rintro ⟨hv, hrest⟩
      exact ⟨none, hv, hrest⟩

/-- All answers can be joined if every value has an answer. -/
theorem allAnswers_forall {α : Type} {f : Value → Attempt (List α)} {P : α → Prop}
    {vs : List Value} :
    (∃ bs, allAnswers f vs = .ok bs ∧ ∀ b ∈ bs, P b) ↔
      ∀ v ∈ vs, ∃ bs, f v = .ok bs ∧ ∀ b ∈ bs, P b := by
  induction vs with
  | nil => simp [allAnswers]
  | cons v vs ih =>
    rw [List.forall_mem_cons, ← ih]
    simp only [allAnswers, bind_eq_ok]
    constructor
    · rintro ⟨bs, ⟨here, hv, rest, hrest, hbs⟩, hall⟩
      obtain rfl := Except.ok.inj hbs
      rw [List.forall_mem_append] at hall
      exact ⟨⟨here, hv, hall.1⟩, rest, hrest, hall.2⟩
    · rintro ⟨⟨here, hv, hhere⟩, rest, hrest, hall⟩
      exact ⟨here ++ rest, ⟨here, hv, rest, hrest, rfl⟩, List.forall_mem_append.mpr ⟨hhere, hall⟩⟩

variable [Host]

/-! ## Misfits and bindings -/

mutual

/-- A value fits a type if and only if it has no misfit and all its bindings have the property that
their variables are read as. -/
theorem fits_iff (reading : TypeVar → Value → Prop) : ∀ (t : Ty) (v : Value),
    t.Fits reading v ↔
      t.misfit? v = .ok none ∧
        ∃ bs, t.bindings v = .ok bs ∧ ∀ b ∈ bs, reading b.var b.value
  | var a, v => by
    simp [Fits]
  | applied c params, v => by
    rw [Fits, misfit?, bindings]
    simp only [bind_eq_ok]
    -- the misfits and the bindings are looked for in the same sources
    constructor
    · rintro ⟨htest, sources, hsources, hinside⟩
      obtain ⟨hmisfit, bs, hbs, hall⟩ := (fitsInside_iff reading 0 params sources).mp hinside
      refine ⟨⟨true, htest, ?_⟩, bs, ⟨sources, hsources, hbs⟩, hall⟩
      rw [if_pos rfl, bind_eq_ok]
      exact ⟨sources, hsources, hmisfit⟩
    · rintro ⟨⟨passed, htest, hrest⟩, bs, ⟨sources, hsources, hbs⟩, hall⟩
      cases passed with
      | false => cases hrest
      | true =>
        rw [if_pos rfl, bind_eq_ok] at hrest
        obtain ⟨sources', hsources', hmisfit⟩ := hrest
        obtain rfl : sources = sources' := Except.ok.inj (hsources.symm.trans hsources')
        exact ⟨htest, sources, hsources, (fitsInside_iff reading 0 params sources).mpr
          ⟨hmisfit, bs, hbs, hall⟩⟩
  | any _, v | accessible _, v | representative _, v | nullary _, v => by
    -- no variable and nothing inside: the test decides alone
    unfold Fits misfit? bindings
    rw [bind_eq_ok]
    constructor
    · intro htest
      exact ⟨⟨true, htest, rfl⟩, [], rfl, fun _ hb => absurd hb List.not_mem_nil⟩
    · rintro ⟨⟨passed, htest, hrest⟩, -⟩
      cases passed with
      | false => cases hrest
      | true => exact htest

theorem fitsInside_iff (reading : TypeVar → Value → Prop) (index : Nat) :
    ∀ (params : List Ty) (sources : List Value),
      FitsInside reading params sources ↔
        misfitInside? index params sources = .ok none ∧
          ∃ bs, bindingsInside index params sources = .ok bs ∧ ∀ b ∈ bs, reading b.var b.value
  | p :: params, source :: sources => by
    have hinside := fitsInside_iff reading (index + 1) params sources
    -- the misfits and the bindings of the values that the first parameter looks at
    have hitems (items : List Value) : (∀ w ∈ items, p.Fits reading w) ↔
        firstAnswer (misfit? p) items = .ok none ∧
          ∃ bs, allAnswers (bindings p) items = .ok bs ∧ ∀ b ∈ bs, reading b.var b.value := by
      rw [firstAnswer_eq_none, allAnswers_forall]
      refine ⟨fun h => ⟨fun w hw => ?_, fun w hw => ?_⟩, fun h w hw => ?_⟩
      · exact ((fits_iff reading p w).mp (h w hw)).1
      · exact ((fits_iff reading p w).mp (h w hw)).2
      · exact (fits_iff reading p w).mpr ⟨h.1 w hw, h.2 w hw⟩
    rw [FitsInside, misfitInside?, bindingsInside]
    simp only [bind_eq_ok, hitems, hinside]
    constructor
    · rintro ⟨⟨items, helements, hnone, here, hhere, hall⟩, hnone', rest, hrest, hall'⟩
      refine ⟨⟨items, helements, none, hnone, hnone'⟩, here.map (Binding.under index) ++ rest,
        ⟨items, helements, here, hhere, rest, hrest, rfl⟩, List.forall_mem_append.mpr ⟨?_, hall'⟩⟩
      exact List.forall_mem_map.mpr hall
    · rintro ⟨⟨items, helements, answer, hnone, hnone'⟩, bs,
        ⟨items', helements', here, hhere, rest, hrest, hbs⟩, hall⟩
      obtain rfl : items = items' := Except.ok.inj (helements.symm.trans helements')
      obtain rfl := Except.ok.inj hbs
      rw [List.forall_mem_append, List.forall_mem_map] at hall
      cases answer with
      | some m => cases hnone'
      | none => exact ⟨⟨items, helements, hnone, here, hhere, hall.1⟩, hnone', rest, hrest, hall.2⟩
  | [], _ => by
    simp [FitsInside, misfitInside?, bindingsInside]
  | _ :: _, [] => by
    simp [FitsInside, misfitInside?, bindingsInside]

end

/-! ## Readings -/

variable {P : TypeVar → Value → Prop} {t : Ty} {v : Value}

/-- For a value without misfits, whether it fits is a matter of its bindings. -/
theorem fits_iff_of_bindings {bs : List Binding} (hmisfit : t.misfit? v = .ok none)
    (hbs : t.bindings v = .ok bs) (reading : TypeVar → Value → Prop) :
    t.Fits reading v ↔ ∀ b ∈ bs, reading b.var b.value := by
  rw [fits_iff]
  constructor
  · rintro ⟨-, bs', hbs', hall⟩
    obtain rfl : bs = bs' := Except.ok.inj (hbs.symm.trans hbs')
    exact hall
  · intro hall
    exact ⟨hmisfit, bs, hbs, hall⟩

/-- A value that fits under any reading at all has no misfit, and it has bindings. -/
theorem Fits.bindings (h : t.Fits P v) :
    t.misfit? v = .ok none ∧ ∃ bs, t.bindings v = .ok bs := by
  obtain ⟨hmisfit, bs, hbs, -⟩ := (fits_iff P t v).mp h
  exact ⟨hmisfit, bs, hbs⟩

/-! ## Members -/

/-- A value is a member of a type if it has no misfit. -/
theorem isMember_iff : t.isMember v = .ok true ↔ t.misfit? v = .ok none := by
  unfold isMember
  rw [bind_eq_ok]
  constructor
  · rintro ⟨answer, h, hnone⟩
    rw [h, Option.isNone_iff_eq_none.mp (Except.ok.inj hnone)]
  · intro h
    exact ⟨none, h, rfl⟩

/-- A member of a type passes its test. -/
theorem test_of_isMember (h : t.isMember v = .ok true) : t.test v = .ok true := by
  have hmisfit := isMember_iff.mp h
  unfold misfit? at hmisfit
  split at hmisfit
  all_goals
    obtain ⟨passed, hpassed, hrest⟩ := bind_eq_ok.mp hmisfit
    cases passed with
    | false => cases hrest
    | true => exact hpassed

theorem Fits.isMember (h : t.Fits P v) : t.isMember v = .ok true :=
  isMember_iff.mpr ((fits_iff P t v).mp h).1

/-- A member of a type without parameters fits it. -/
theorem fits_of_isMember_nullary {n : Nullary} (h : (nullary n).isMember v = .ok true) :
    (nullary n).Fits P v :=
  (fits_iff P _ v).mpr ⟨isMember_iff.mp h, [], by simp [bindings], by simp⟩

end CheckedCurry.Ty
