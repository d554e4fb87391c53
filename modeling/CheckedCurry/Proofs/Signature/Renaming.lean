import CheckedCurry.Proofs.Signature.Rejection
import CheckedCurry.Proofs.Signature.Verdict
import CheckedCurry.Proofs.Ty.Renaming

/-!
# Signatures with other variables

The variables of a signature are replaced by others, one to one.  The new ones may have any names,
also the same.  A check then comes to the same verdict: it rejects for the same reason and with the
same values, and all that reads differently are texts.

- `Signature.rename`: the signature with other variables.
- `required_rename`, `firstLack?_rename`, `firstClash?_rename`: the steps of a check.
- `rejection?_rename`: the verdict.
- `report_rename`: the reports of one verdict.
-/

namespace CheckedCurry.Signature

open Ty (Binding Misfit)

variable {ρ : TypeVar → TypeVar}

/-! ## Definitions -/

/-- Requirements with their variables replaced by others. -/
def renameRequires (ρ : TypeVar → TypeVar) (rs : List (TypeVar × List Capability)) :
    List (TypeVar × List Capability) :=
  rs.map fun r => (ρ r.1, r.2)

/-- A signature with its variables replaced by others. -/
def rename (ρ : TypeVar → TypeVar) (s : Signature) : Signature where
  name := s.name
  params := s.params.map (Ty.rename ρ)
  returns := s.returns.rename ρ
  requires := renameRequires ρ s.requires

/-- The variables of a signature: those that values are bound to, and those with requirements. -/
def typeVariables (s : Signature) : List TypeVar := Ty.varsOfAll s.types ++ s.requires.map (·.1)

/-- No two of the variables are replaced by one. -/
def OneToOne (ρ : TypeVar → TypeVar) (as : List TypeVar) : Prop :=
  ∀ a ∈ as, ∀ b ∈ as, ρ a = ρ b → a = b

/-- Two variables are one if and only if the variables in their places are. -/
theorem OneToOne.beq {as : List TypeVar} (h : OneToOne ρ as) {a b : TypeVar} (ha : a ∈ as)
    (hb : b ∈ as) : (ρ a == ρ b) = (a == b) := by
  rw [Bool.eq_iff_iff, beq_iff_eq, beq_iff_eq]
  exact ⟨h a ha b hb, congrArg ρ⟩

theorem types_rename (s : Signature) : (s.rename ρ).types = s.types.map (Ty.rename ρ) := by
  rw [types, types, List.map_append]
  rfl

@[simp] theorem arity_rename (s : Signature) : (s.rename ρ).arity = s.arity :=
  List.length_map ..

@[simp] theorem name_rename (s : Signature) : (s.rename ρ).name = s.name := rfl

/-! ## Requirements -/

variable {s : Signature} {as : List TypeVar}

theorem lookup_rename (h : OneToOne ρ as) {rs : List (TypeVar × List Capability)}
    (hrs : ∀ r ∈ rs, r.1 ∈ as) {a : TypeVar} (ha : a ∈ as) :
    (renameRequires ρ rs).lookup (ρ a) = rs.lookup a := by
  induction rs with
  | nil => rfl
  | cons r rs ih =>
    obtain ⟨hr, hrs⟩ := List.forall_mem_cons.mp hrs
    rw [renameRequires, List.map_cons, List.lookup_cons, List.lookup_cons, h.beq ha hr]
    cases a == r.1 with
    | true => rfl
    | false => exact ih hrs

/-- As much is required of a variable as of the one in its place. -/
theorem required_rename (h : OneToOne ρ as) (hrs : ∀ r ∈ s.requires, r.1 ∈ as) {a : TypeVar}
    (ha : a ∈ as) : (s.rename ρ).required (ρ a) = s.required a := by
  rw [required, required]
  exact congrArg (·.getD []) (lookup_rename h hrs ha)

theorem findSome?_congr {α β : Type} {f g : α → Option β} {l : List α} (h : ∀ a ∈ l, f a = g a) :
    l.findSome? f = l.findSome? g := by
  induction l with
  | nil => rfl
  | cons a l ih =>
    obtain ⟨ha, hl⟩ := List.forall_mem_cons.mp h
    rw [List.findSome?_cons, List.findSome?_cons, ha, ih hl]

theorem findSome?_map_answer {α β γ : Type} (f : α → Option β) (g : β → γ) (l : List α) :
    l.findSome? (fun a => (f a).map g) = (l.findSome? f).map g := by
  induction l with
  | nil => rfl
  | cons a l ih =>
    rw [List.findSome?_cons, List.findSome?_cons, ih]
    cases f a <;> rfl

/-- The search for a lack comes to the binding in the same place. -/
theorem firstLack?_rename (h : OneToOne ρ as) (hrs : ∀ r ∈ s.requires, r.1 ∈ as)
    {bs : List Binding} (hbs : ∀ b ∈ bs, b.var ∈ as) :
    (s.rename ρ).firstLack? (bs.map (Binding.rename ρ)) =
      (s.firstLack? bs).map fun (b, c) => (b.rename ρ, c) := by
  rw [firstLack?, firstLack?, List.findSome?_map, ← findSome?_map_answer]
  refine findSome?_congr fun b hb => ?_
  show (((s.rename ρ).required (ρ b.var)).find? fun c => !c.supports b.value.unifier).map _ = _
  rw [required_rename h hrs (hbs b hb), Option.map_map]
  rfl

/-! ## Unification -/

/-- Whether values agree has nothing to do with variables. -/
theorem agree_rename (bs : List Binding) : agree (bs.map (Binding.rename ρ)) = agree bs := by
  cases bs with
  | nil => rfl
  | cons b bs =>
    simp only [agree, List.map_cons, List.all_map]
    rfl

theorem groupOf_rename (h : OneToOne ρ as) {a : TypeVar} (ha : a ∈ as) {bs : List Binding}
    (hbs : ∀ b ∈ bs, b.var ∈ as) :
    groupOf (ρ a) (bs.map (Binding.rename ρ)) = (groupOf a bs).map (Binding.rename ρ) := by
  rw [groupOf, groupOf, List.filter_map]
  refine congrArg (List.map _) (List.filter_congr fun b hb => ?_)
  exact h.beq (hbs b hb) ha

/-- A clash among bindings, as a search that meets a variable as often as it is bound. -/
theorem firstClash?_eq (old new : List Binding) :
    firstClash? old new = new.findSome? fun b =>
      if agree (groupOf b.var (old ++ new)) then none
      else some (b.var, groupOf b.var (old ++ new)) := by
  rw [firstClash?, variablesOf, findSome?_eraseDups, List.findSome?_map]
  rfl

/-- The search for a clash comes to the variable in the same place, with the same values. -/
theorem firstClash?_rename (h : OneToOne ρ as) {old new : List Binding}
    (hbs : ∀ b ∈ old ++ new, b.var ∈ as) :
    firstClash? (old.map (Binding.rename ρ)) (new.map (Binding.rename ρ)) =
      (firstClash? old new).map fun (a, group) => (ρ a, group.map (Binding.rename ρ)) := by
  rw [firstClash?_eq, firstClash?_eq, List.findSome?_map, ← findSome?_map_answer]
  refine findSome?_congr fun b hb => ?_
  have hgroup := groupOf_rename h (hbs b (List.mem_append_right _ hb)) hbs
  show (if agree (groupOf (ρ b.var) (_ ++ _)) then none else some (ρ b.var, groupOf (ρ b.var) _)) = _
  rw [← List.map_append, hgroup, agree_rename]
  split <;> rfl

variable [Host]

/-! ## Bindings of arguments -/

theorem bindingsAt_rename (index : Nat) (t : Ty) (v : Value) :
    bindingsAt index (t.rename ρ) v = (bindingsAt index t v).map (List.map (Binding.rename ρ)) := by
  rw [bindingsAt, bindingsAt, Ty.bindings_rename]
  cases t.bindings v with
  | error f => rfl
  | ok bs =>
    simp only [Except.map, bind, Except.bind, pure, Except.pure, List.map_map]
    rfl

theorem mem_vars_of_bindingsAt {index : Nat} {t : Ty} {v : Value} {bs : List Binding}
    (h : bindingsAt index t v = .ok bs) : ∀ b ∈ bs, b.var ∈ t.vars := by
  obtain ⟨bs', hbs', h⟩ := bind_eq_ok.mp h
  obtain rfl := Except.ok.inj h
  exact List.forall_mem_map.mpr (Ty.mem_vars_of_bindings t hbs')

theorem filledBindings_rename (except i : Nat) (ts : List Ty) (vs : List Value) :
    filledBindings except i (ts.map (Ty.rename ρ)) vs =
      (filledBindings except i ts vs).map (List.map (Binding.rename ρ)) := by
  induction vs generalizing i ts with
  | nil => simp [filledBindings, Except.map]
  | cons v vs ih =>
    have hslot : slotBindings except i (ts.map (Ty.rename ρ)).head? v =
        (slotBindings except i ts.head? v).map (List.map (Binding.rename ρ)) := by
      unfold slotBindings
      split
      · rfl
      · cases ts with
        | nil => rfl
        | cons t ts => exact bindingsAt_rename i t v
    rw [filledBindings, filledBindings, hslot, ← List.map_tail, ih]
    cases slotBindings except i ts.head? v with
    | error f => rfl
    | ok here =>
      cases filledBindings except (i + 1) ts.tail vs with
      | error f => rfl
      | ok rest =>
        simp only [Except.map, bind, Except.bind, pure, Except.pure, List.map_append]

theorem mem_vars_of_slotBindings {except i : Nat} {t? : Option Ty} {v : Value} {bs : List Binding}
    (h : slotBindings except i t? v = .ok bs) : ∀ b ∈ bs, ∃ t, t? = some t ∧ b.var ∈ t.vars := by
  unfold slotBindings at h
  split at h
  · obtain rfl := Except.ok.inj h
    exact fun b hb => absurd hb List.not_mem_nil
  · cases t? with
    | none => cases h
    | some t => exact fun b hb => ⟨t, rfl, mem_vars_of_bindingsAt h b hb⟩

theorem mem_vars_of_filledBindings {except i : Nat} {ts : List Ty} {vs : List Value}
    {bs : List Binding} (h : filledBindings except i ts vs = .ok bs) :
    ∀ b ∈ bs, b.var ∈ Ty.varsOfAll ts := by
  induction vs generalizing i ts bs with
  | nil =>
    rw [filledBindings] at h
    obtain rfl := Except.ok.inj h
    exact fun b hb => absurd hb List.not_mem_nil
  | cons v vs ih =>
    rw [filledBindings] at h
    obtain ⟨here, hhere, h⟩ := bind_eq_ok.mp h
    obtain ⟨rest, hrest, h⟩ := bind_eq_ok.mp h
    obtain rfl := Except.ok.inj h
    have hslot := mem_vars_of_slotBindings hhere
    cases ts with
    | nil =>
      refine List.forall_mem_append.mpr ⟨fun b hb => ?_, ih hrest⟩
      obtain ⟨t, ht, -⟩ := hslot b hb
      cases ht
    | cons t ts =>
      rw [Ty.varsOfAll]
      refine List.forall_mem_append.mpr ⟨fun b hb => ?_, fun b hb =>
        List.mem_append_right _ (ih hrest b hb)⟩
      obtain ⟨u, hu, hb⟩ := hslot b hb
      obtain rfl := Option.some.inj hu
      exact List.mem_append_left _ hb

/-! ## Verdicts -/

/-- The rejection that comes in place of one. -/
def Rejection.rename (ρ : TypeVar → TypeVar) : Rejection → Rejection
  | .misfit m => .misfit (m.rename ρ)
  | .lack b c => .lack (b.rename ρ) c
  | .clash a group => .clash (ρ a) (group.map (Binding.rename ρ))

omit [Host] in
theorem mem_variables_of_type {t : Ty} (ht : t ∈ s.types) {a : TypeVar} (ha : a ∈ t.vars) :
    a ∈ s.typeVariables := by
  refine List.mem_append_left _ ?_
  generalize s.types = ts at ht
  induction ts with
  | nil => cases ht
  | cons u ts ih =>
    rw [Ty.varsOfAll, List.mem_append]
    rcases List.mem_cons.mp ht with rfl | ht
    · exact .inl ha
    · exact .inr (ih ht)

/-- **A check comes to the same verdict after renaming**, with the same values. -/
theorem rejection?_rename (h : OneToOne ρ s.typeVariables) {slots : List Value} {index : Nat} {t : Ty}
    (ht : t ∈ s.types) {v : Value} :
    (s.rename ρ).rejection? slots index (t.rename ρ) v =
      (s.rejection? slots index t v).map (Option.map (Rejection.rename ρ)) := by
  have hrequires : ∀ r ∈ s.requires, r.1 ∈ s.typeVariables := fun r hr =>
    List.mem_append_right _ (List.mem_map_of_mem hr)
  rw [rejection?, rejection?, Ty.misfit?_rename]
  cases t.misfit? v with
  | error f => rfl
  | ok answer =>
    cases answer with
    | some m => rfl
    | none =>
      show (bindingsAt index (t.rename ρ) v >>= _) = (bindingsAt index t v >>= _).map _
      rw [bindingsAt_rename]
      cases hnew : bindingsAt index t v with
      | error f => rfl
      | ok new =>
        have hmem : ∀ b ∈ new, b.var ∈ s.typeVariables := fun b hb =>
          mem_variables_of_type ht (mem_vars_of_bindingsAt hnew b hb)
        show (s.rename ρ).rejectionOfBound? slots index (new.map (Binding.rename ρ)) =
          (s.rejectionOfBound? slots index new).map _
        rw [rejectionOfBound?, rejectionOfBound?, firstLack?_rename h hrequires hmem,
          types_rename, filledBindings_rename]
        cases s.firstLack? new with
        | some lack => rfl
        | none =>
          cases new with
          | nil => rfl
          | cons b new =>
            cases hold : filledBindings index 0 s.types slots with
            | error f => rfl
            | ok old =>
              have hall : ∀ d ∈ old ++ b :: new, d.var ∈ s.typeVariables :=
                List.forall_mem_append.mpr ⟨fun d hd =>
                  List.mem_append_left _ (mem_vars_of_filledBindings hold d hd), hmem⟩
              have hclash := firstClash?_rename h hall
              show (.ok ((firstClash? (old.map (Binding.rename ρ))
                ((b :: new).map (Binding.rename ρ))).map _) : Attempt (Option Rejection)) =
                  .ok (((firstClash? old (b :: new)).map _).map (Rejection.rename ρ))
              rw [hclash, Option.map_map, Option.map_map]
              rfl

theorem rejectionAt?_rename (h : OneToOne ρ s.typeVariables) (slots : List Value) (index : Nat)
    (v : Value) :
    (s.rename ρ).rejectionAt? slots index v =
      (s.rejectionAt? slots index v).map (Option.map (Rejection.rename ρ)) := by
  rw [rejectionAt?, rejectionAt?, types_rename, List.getElem?_map]
  cases ht : s.types[index]? with
  | none => rfl
  | some t => exact rejection?_rename h (List.mem_of_getElem? ht)

/-! ## Reports -/

/-- Two checks stop with errors of one class that have the same fields; both make a note, or
neither. -/
def SameError (p q : Problem) : Prop :=
  p.note.isSome = q.note.isSome ∧ p.fault.errorClass = q.fault.errorClass ∧
    p.fault.fields = q.fault.fields

omit [Host] in
theorem SameError.refl (p : Problem) : SameError p p := ⟨rfl, rfl, rfl⟩

variable {environment : List Ty} {v : Value}

omit [Host] in
/-- A rejection is one error whatever is written in its report. -/
theorem sameError_reject {note note' : String} {x : Attempt Report.Entry}
    {make make' : Report.Entry → Fault Value}
    (h : ∀ e, (make e).errorClass = (make' e).errorClass ∧ (make e).fields = (make' e).fields) :
    Checked.Alike SameError (Checked.reject note (do return make (← x)) : Checked Unit)
      (Checked.reject note' (do return make' (← x))) := by
  cases x with
  | ok e => exact .error ⟨rfl, h e⟩
  | error f => exact .error ⟨rfl, rfl, rfl⟩

omit [Host] in
theorem isAccessible_rename (t : Ty) : (t.rename ρ).isAccessible = t.isAccessible := by
  cases t with
  | representative param => cases param <;> rw [Ty.rename] <;> first | rfl | nofun
  | _ => rw [Ty.rename] <;> first | rfl | nofun

/-- A misfit that is not at the top of a parameter of accessible values is reported in full. -/
theorem misfitFault_of_below {index : Nat} {m : Misfit}
    (h : m.type.isAccessible = true → m.path ≠ []) :
    s.misfitFault environment index v m = do
      return .invalidValue (.invalidValue (s.reportLines [index :: m.path] [])
        (Report.entryLines [[← describe environment m.value]]) m.type.text m.type.url?)
        s.name index v := by
  unfold misfitFault
  split
  · rename_i htype hpath
    exact absurd hpath (h (Ty.isAccessible_iff.mpr ⟨_, htype⟩))
  · rfl

theorem misfitFault_rename (note note' : String) (index : Nat) (m : Misfit) :
    Checked.Alike SameError (Checked.reject note (s.misfitFault environment index v m))
      (Checked.reject note' ((s.rename ρ).misfitFault environment index v (m.rename ρ)) :
        Checked Unit) := by
  by_cases htop : m.type.isAccessible = true ∧ m.path = []
  · obtain ⟨path, w, t⟩ := m
    obtain ⟨htype, rfl⟩ : t.isAccessible = true ∧ path = [] := htop
    obtain ⟨name, rfl⟩ := Ty.isAccessible_iff.mp htype
    exact .error ⟨rfl, rfl, rfl⟩
  · have hbelow : m.type.isAccessible = true → m.path ≠ [] := fun ht hp => htop ⟨ht, hp⟩
    rw [misfitFault_of_below hbelow,
      misfitFault_of_below (m := m.rename ρ) fun ht => hbelow (isAccessible_rename m.type ▸ ht)]
    exact sameError_reject fun e =>
      ⟨by simp only [Fault.errorClass], by simp only [Fault.fields, name_rename]⟩

theorem clashFault_rename (note note' : String) (group : List Binding) :
    Checked.Alike SameError (Checked.reject note (s.clashFault environment group))
      (Checked.reject note' ((s.rename ρ).clashFault environment (group.map (Binding.rename ρ))) :
        Checked Unit) := by
  have hpaths : pathsOf (group.map (Binding.rename ρ)) = pathsOf group := by
    rw [pathsOf, pathsOf, List.map_map]
    rfl
  have hdescribe (path : Ty.Path) :
      (((group.map (Binding.rename ρ)).filter (·.path == path)).mapM fun b =>
        describe environment b.value) =
      (group.filter (·.path == path)).mapM fun b => describe environment b.value := by
    rw [List.filter_map, List.mapM_map]
    rfl
  have hvalues : (group.map (Binding.rename ρ)).map (·.value) = group.map (·.value) := by
    rw [List.map_map]
    rfl
  simp only [clashFault, hpaths, hdescribe, hvalues]
  cases ((pathsOf group).mapM fun path =>
      (group.filter (·.path == path)).mapM fun b => describe environment b.value) with
  | error f => exact .error (SameError.refl _)
  | ok entries =>
    exact .error ⟨rfl, by simp only [Fault.errorClass], by simp only [Fault.fields, name_rename]⟩

/-- **One verdict is reported as one error**, whatever the variables are called. -/
theorem report_rename (index : Nat) (r : Rejection) :
    Checked.Alike SameError (s.report environment index v r)
      ((s.rename ρ).report environment index v (r.rename ρ)) := by
  have hshown (w : Value) := Checked.alike_ofAttempt SameError.refl w.display
  cases r with
  | misfit m => exact (hshown v).bind fun shown _ => misfitFault_rename _ _ index m
  | lack b c =>
    exact (hshown b.value).bind fun shown _ => sameError_reject fun e =>
      ⟨by simp only [Fault.errorClass],
        by simp only [Fault.fields, name_rename, Ty.Binding.value_rename]⟩
  | clash a group => exact clashFault_rename _ _ group

/-- A check ends as one error after renaming, or passes as before. -/
theorem checkArgument_rename (h : OneToOne ρ s.typeVariables) (slots : List Value) (index : Nat) :
    Checked.Alike SameError (s.checkArgument environment slots index v)
      ((s.rename ρ).checkArgument environment slots index v) := by
  rw [checkArgument_eq, checkArgument_eq, rejectionAt?_rename h]
  cases s.rejectionAt? slots index v with
  | error f => exact .error ⟨rfl, rfl, rfl⟩
  | ok verdict =>
    cases verdict with
    | none => exact .ok ()
    | some r => exact report_rename index r

end CheckedCurry.Signature
