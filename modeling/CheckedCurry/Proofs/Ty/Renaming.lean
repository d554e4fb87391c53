import CheckedCurry.Proofs.Ty.Standard

/-!
# Types with other variables

The variables of a type are replaced by others.  Which values are members does not change, and what
a value binds is bound to the variables that have come in place of the old ones.

- `Ty.rename`: the type with other variables.
- `misfit?_rename`, `bindings_rename`: misfits and bindings.
- `mem_vars_of_bindings`: a value binds nothing but variables of the type.
-/

namespace CheckedCurry.Ty

variable (ρ : TypeVar → TypeVar)

/-! ## Definitions -/

mutual

/-- A type with its variables replaced by others. -/
def rename : Ty → Ty
  | var a => var (ρ a)
  | representative (some p) => representative (some (rename p))
  | applied c params => applied c (renameAll params)
  | t => t

/-- Types with their variables replaced by others. -/
def renameAll : List Ty → List Ty
  | [] => []
  | p :: params => rename p :: renameAll params

end

/-- The misfit that is found in place of one. -/
def Misfit.rename (m : Misfit) : Misfit := { m with type := m.type.rename ρ }

/-- The binding that is made in place of one. -/
def Binding.rename (b : Binding) : Binding := { b with var := ρ b.var }

@[simp] theorem renameAll_eq_map (ts : List Ty) : renameAll ρ ts = ts.map (Ty.rename ρ) := by
  induction ts with
  | nil => simp [renameAll]
  | cons t ts ih => simp [renameAll, ih]

@[simp] theorem rename_under (index : Nat) (m : Misfit) :
    (m.under index).rename ρ = (m.rename ρ).under index := rfl

@[simp] theorem Binding.path_rename (b : Binding) : (b.rename ρ).path = b.path := rfl

@[simp] theorem Binding.value_rename (b : Binding) : (b.rename ρ).value = b.value := rfl

/-! ## Searching with renamed answers -/

theorem firstAnswer_map {α β : Type} (f : Value → Attempt (Option α)) (g : α → β)
    (vs : List Value) :
    firstAnswer (fun v => (f v).map (Option.map g)) vs =
      (firstAnswer f vs).map (Option.map g) := by
  induction vs with
  | nil => rfl
  | cons v vs ih =>
    unfold firstAnswer
    cases f v with
    | error e => rfl
    | ok answer =>
      cases answer with
      | some a => rfl
      | none => exact ih

theorem allAnswers_map {α β : Type} (f : Value → Attempt (List α)) (g : α → β)
    (vs : List Value) :
    allAnswers (fun v => (f v).map (List.map g)) vs = (allAnswers f vs).map (List.map g) := by
  induction vs with
  | nil => rfl
  | cons v vs ih =>
    unfold allAnswers
    rw [ih]
    cases f v with
    | error e => rfl
    | ok here =>
      cases allAnswers f vs with
      | error e => rfl
      | ok rest =>
        show (.ok (here.map g ++ rest.map g) : Attempt (List β)) = .ok ((here ++ rest).map g)
        rw [List.map_append]

theorem map_bind {α β γ : Type} (x : Attempt α) (k : α → Attempt β) (g : β → γ) :
    (x >>= k).map g = x >>= fun a => (k a).map g := by
  cases x <;> rfl

variable [Host]

/-! ## Misfits and bindings -/

/-- Which parameters a type has is no matter to where it looks for values. -/
theorem sources_applied (c : Constructor) (ps qs : List Ty) (v : Value) :
    (applied c ps).sources v = (applied c qs).sources v := rfl

mutual

/-- A value has the same misfit after renaming, with the renamed type. -/
theorem misfit?_rename : ∀ (t : Ty) (v : Value),
    (t.rename ρ).misfit? v = (t.misfit? v).map (Option.map (Misfit.rename ρ))
  | applied c params, v => by
    rw [rename, misfit?, misfit?, map_bind]
    refine bind_congr fun passed => ?_
    cases passed with
    | false => simp [Except.map, Misfit.rename, rename, pure, Except.pure]
    | true =>
      rw [if_pos rfl, if_pos rfl, map_bind, sources_applied c _ params]
      exact bind_congr fun sources => misfitInside?_rename 0 params sources
  | var a, v => by simp [rename, Except.map]
  | representative (some p), v => by
    simp only [rename, misfit?, test, map_bind]
    cases v.isRepresentative <;> rfl
  | any _, v | accessible _, v | representative none, v | nullary _, v => by
    simp only [rename, misfit?, map_bind]
    refine bind_congr fun passed => ?_
    cases passed <;> simp [Except.map, Misfit.rename, rename, pure, Except.pure]

theorem misfitInside?_rename (index : Nat) : ∀ (params : List Ty) (sources : List Value),
    misfitInside? index (renameAll ρ params) sources =
      (misfitInside? index params sources).map (Option.map (Misfit.rename ρ))
  | p :: params, source :: sources => by
    have hp : misfit? (p.rename ρ) = fun v => (p.misfit? v).map (Option.map (Misfit.rename ρ)) :=
      funext (misfit?_rename p)
    rw [renameAll, misfitInside?, misfitInside?, hp, map_bind]
    refine bind_congr fun items => ?_
    rw [firstAnswer_map, map_bind]
    cases firstAnswer p.misfit? items with
    | error e => rfl
    | ok answer =>
      cases answer with
      | some m => rfl
      | none => exact misfitInside?_rename (index + 1) params sources
  | [], _ | _ :: _, [] => by
    simp [misfitInside?, Except.map]

end

mutual

/-- A value binds the same values after renaming, to the renamed variables. -/
theorem bindings_rename : ∀ (t : Ty) (v : Value),
    (t.rename ρ).bindings v = (t.bindings v).map (List.map (Binding.rename ρ))
  | applied c params, v => by
    rw [rename, bindings, bindings, map_bind, sources_applied c _ params]
    exact bind_congr fun sources => bindingsInside_rename 0 params sources
  | var a, v => by simp [rename, Except.map, Binding.rename]
  | representative (some p), v | any _, v | accessible _, v | representative none, v
  | nullary _, v => by
    simp [rename, bindings, Except.map]

theorem bindingsInside_rename (index : Nat) : ∀ (params : List Ty) (sources : List Value),
    bindingsInside index (renameAll ρ params) sources =
      (bindingsInside index params sources).map (List.map (Binding.rename ρ))
  | p :: params, source :: sources => by
    have hp : bindings (p.rename ρ) = fun v => (p.bindings v).map (List.map (Binding.rename ρ)) :=
      funext (bindings_rename p)
    rw [renameAll, bindingsInside, bindingsInside, hp, map_bind]
    refine bind_congr fun items => ?_
    rw [allAnswers_map, map_bind, bindingsInside_rename (index + 1) params sources]
    cases allAnswers p.bindings items with
    | error e => rfl
    | ok here =>
      cases bindingsInside (index + 1) params sources with
      | error e => rfl
      | ok rest =>
        -- renaming leaves the paths of bindings alone
        simp only [Except.map, bind, Except.bind, pure, Except.pure, List.map_append, List.map_map]
        rfl
  | [], _ | _ :: _, [] => by
    simp [bindingsInside, Except.map]

end

/-! ## What is bound -/

omit [Host] in
/-- What holds of all single answers holds of the joined ones. -/
theorem forall_of_allAnswers {α : Type} {f : Value → Attempt (List α)} {P : α → Prop}
    {vs : List Value} {bs : List α} (h : allAnswers f vs = .ok bs)
    (hf : ∀ v here, f v = .ok here → ∀ b ∈ here, P b) : ∀ b ∈ bs, P b := by
  induction vs generalizing bs with
  | nil =>
    obtain rfl := Except.ok.inj h
    exact fun b hb => absurd hb List.not_mem_nil
  | cons v vs ih =>
    obtain ⟨here, hhere, h⟩ := bind_eq_ok.mp h
    obtain ⟨rest, hrest, h⟩ := bind_eq_ok.mp h
    obtain rfl := Except.ok.inj h
    exact List.forall_mem_append.mpr ⟨hf v here hhere, ih hrest⟩

mutual

/-- A value binds nothing but variables of the type. -/
theorem mem_vars_of_bindings : ∀ (t : Ty) {v : Value} {bs : List Binding}, t.bindings v = .ok bs →
    ∀ b ∈ bs, b.var ∈ t.vars
  | var a, v, bs, h, b, hb => by
    rw [bindings_var] at h
    obtain rfl := Except.ok.inj h
    obtain rfl := List.mem_singleton.mp hb
    simp [vars]
  | applied c params, v, bs, h, b, hb => by
    rw [bindings] at h
    obtain ⟨sources, -, hinside⟩ := bind_eq_ok.mp h
    rw [vars]
    exact mem_vars_of_bindingsInside params hinside b hb
  | any _, v, bs, h, b, hb | accessible _, v, bs, h, b, hb | representative _, v, bs, h, b, hb
  | nullary _, v, bs, h, b, hb => by
    simp only [bindings] at h
    obtain rfl := Except.ok.inj h
    cases hb

theorem mem_vars_of_bindingsInside : ∀ (params : List Ty) {index : Nat} {sources : List Value}
    {bs : List Binding}, bindingsInside index params sources = .ok bs →
    ∀ b ∈ bs, b.var ∈ varsOfAll params
  | p :: params, index, source :: sources, bs, h, b, hb => by
    rw [bindingsInside] at h
    obtain ⟨items, -, h⟩ := bind_eq_ok.mp h
    obtain ⟨here, hhere, h⟩ := bind_eq_ok.mp h
    obtain ⟨rest, hrest, h⟩ := bind_eq_ok.mp h
    obtain rfl := Except.ok.inj h
    rw [varsOfAll, List.mem_append]
    rcases List.mem_append.mp hb with hb | hb
    · obtain ⟨b, hhere_b, rfl⟩ := List.mem_map.mp hb
      exact .inl (forall_of_allAnswers hhere (fun w _ hw => mem_vars_of_bindings p hw) b hhere_b)
    · exact .inr (mem_vars_of_bindingsInside params hrest b hb)
  | [], _, _, bs, h, b, hb | _ :: _, _, [], bs, h, b, hb => by
    simp only [bindingsInside] at h
    obtain rfl := Except.ok.inj h
    cases hb

end

end CheckedCurry.Ty
