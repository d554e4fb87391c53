import CheckedCurry.Curried.Check
import CheckedCurry.Proofs.Ty.Reach
import Mathlib.Data.List.Nodup

/-!
# What is bound to a type variable

When a value is checked, the bindings of the filled slots and those of the value are put into one
list.  The bindings of a variable are then grouped by their paths, in the order of the paths.

- `Signature.Occurrence`: a place in a slot where a value is bound to a variable.
- `Signature.Binds`: what is bound when a value is checked, said without any list.
- `Signature.Gathered`: a list of bindings that has each occurrence once, in order;
  `gathered_bindingsAt` is about one value, `gathered_binds` about all slots and the value.
- `mem_pathsOf`, `pairwise_pathsOf`: the paths of bindings, without repetitions and in order.
- `perm_flatMap_filter`: grouping loses nothing and doubles nothing.
-/

namespace CheckedCurry.Signature

/-! ## Occurrences -/

/-- A value that is bound to a variable: the slot that it is found in, and the place there. -/
structure Occurrence where
  slot : Nat
  place : Ty.Place
  var : TypeVar
  value : Value

namespace Occurrence

/-- The path into the signature at which a value is bound. -/
def path (o : Occurrence) : Ty.Path := o.slot :: o.place.path

/-- An occurrence as a binding, which does not tell values at one path apart. -/
def binding (o : Occurrence) : Ty.Binding := ⟨o.var, o.path, o.value⟩

/-- Occurrences in one slot come in the order of their places. -/
def InOrder (o o' : Occurrence) : Prop := o.slot = o'.slot → o.place.Before o'.place

end Occurrence

variable {s : Signature} {slots : List Value} {index : Nat} {v : Value}

/-- What stands at an index when a value is checked: the value itself, or what is filled in. -/
def Stands (slots : List Value) (index : Nat) (v : Value) (i : Nat) (w : Value) : Prop :=
  (i = index ∧ w = v) ∨ (slots[i]? = some w ∧ w.isOpen = false)

/-- What is bound when a value is checked against the filled slots. -/
def Binds [Host] (s : Signature) (slots : List Value) (index : Nat) (v : Value) (o : Occurrence) :
    Prop :=
  ∃ t w, s.types[o.slot]? = some t ∧ Stands slots index v o.slot w ∧
    t.Reaches w o.place (.var o.var) o.value

/-- The type at the path of an occurrence is the variable. -/
theorem Binds.at? [Host] {o : Occurrence} (h : s.Binds slots index v o) :
    ∃ t, s.types[o.slot]? = some t ∧ t.at? o.place.path = some (.var o.var) := by
  obtain ⟨t, w, ht, -, hreach⟩ := h
  exact ⟨t, ht, hreach.at?⟩

/-! ## Bindings in the order of occurrences -/

/-- A list of bindings has all occurrences of a kind, each once, and those in one slot in order. -/
def Gathered (R : Occurrence → Prop) (bs : List Ty.Binding) : Prop :=
  ∃ os : List Occurrence, bs = os.map Occurrence.binding ∧ os.Pairwise Occurrence.InOrder ∧
    ∀ o, o ∈ os ↔ R o

section Gathered

variable {R R₁ R₂ : Occurrence → Prop} {bs bs₁ bs₂ : List Ty.Binding}

theorem gathered_nil (h : ∀ o, ¬ R o) : Gathered R [] :=
  ⟨[], rfl, .nil, fun o => by simp [h o]⟩

theorem Gathered.congr (h : Gathered R₁ bs) (hR : ∀ o, R₁ o ↔ R₂ o) : Gathered R₂ bs := by
  obtain ⟨os, hbs, horder, hmem⟩ := h
  exact ⟨os, hbs, horder, fun o => (hmem o).trans (hR o)⟩

/-- Bindings of different slots, one after the other. -/
theorem Gathered.append (h₁ : Gathered R₁ bs₁) (h₂ : Gathered R₂ bs₂)
    (happart : ∀ o o', R₁ o → R₂ o' → o.slot ≠ o'.slot) :
    Gathered (fun o => R₁ o ∨ R₂ o) (bs₁ ++ bs₂) := by
  obtain ⟨front, rfl, hfront, hmem₁⟩ := h₁
  obtain ⟨back, rfl, hback, hmem₂⟩ := h₂
  refine ⟨front ++ back, List.map_append.symm, List.pairwise_append.mpr ⟨hfront, hback, ?_⟩, ?_⟩
  · intro o ho o' ho' hslot
    exact absurd hslot (happart o o' ((hmem₁ o).mp ho) ((hmem₂ o').mp ho'))
  · intro o
    rw [List.mem_append, hmem₁, hmem₂]

/-- Of all occurrences those whose bindings are kept. -/
theorem Gathered.filter (h : Gathered R bs) (keep : Ty.Binding → Bool) :
    Gathered (fun o => R o ∧ keep o.binding = true) (bs.filter keep) := by
  obtain ⟨os, rfl, horder, hmem⟩ := h
  refine ⟨os.filter (keep ∘ Occurrence.binding), List.filter_map, horder.filter _, fun o => ?_⟩
  rw [List.mem_filter, hmem, Function.comp_apply]

end Gathered

/-- Occurrences in order are all different. -/
theorem nodup_of_inOrder {os : List Occurrence} (h : os.Pairwise Occurrence.InOrder) : os.Nodup := by
  refine h.imp fun {o o'} horder heq => ?_
  have hbefore : o.place.Before o.place := by
    subst heq
    exact horder rfl
  exact hbefore.asymm hbefore

/-- The bindings of a member are those at the places of variables in it. -/
theorem gathered_bindingsAt [Host] {t : Ty} {new : List Ty.Binding} (hmember : t.misfit? v = .ok none)
    (h : bindingsAt index t v = .ok new) :
    Gathered (fun o => o.slot = index ∧ t.Reaches v o.place (.var o.var) o.value) new := by
  obtain ⟨bs, hbs, occurrences, rfl, horder, hmem⟩ := Ty.exists_listed_bindings t v hmember
  rw [bindingsAt, hbs] at h
  obtain rfl := Except.ok.inj h
  refine ⟨occurrences.map fun o => ⟨index, o.1, o.2.var, o.2.value⟩, ?_, ?_, fun o => ?_⟩
  · rw [List.map_map, List.map_map]
    refine List.map_congr_left fun o ho => ?_
    obtain ⟨hpath, -⟩ := (hmem o.1 o.2).mp ho
    show Ty.Binding.mk o.2.var (index :: o.2.path) o.2.value = _
    rw [hpath]
    rfl
  · refine List.pairwise_map.mpr (horder.imp ?_)
    intro o o' hbefore _
    exact hbefore
  · rw [List.mem_map]
    constructor
    · rintro ⟨o, ho, rfl⟩
      exact ⟨rfl, ((hmem o.1 o.2).mp ho).2⟩
    · rintro ⟨rfl, hreach⟩
      exact ⟨(o.place, ⟨o.var, o.place.path, o.value⟩), (hmem _ _).mpr ⟨rfl, hreach⟩, rfl⟩

/-- The bindings of one slot, which are none if it is open or is left out. -/
theorem gathered_slotBindings [Host] {except i : Nat} {t? : Option Ty} {here : List Ty.Binding}
    (hmember : ∀ t, t? = some t → v.isOpen = false → t.misfit? v = .ok none)
    (h : slotBindings except i t? v = .ok here) :
    Gathered (fun o => ∃ t, o.slot = i ∧ i ≠ except ∧ t? = some t ∧ v.isOpen = false ∧
      t.Reaches v o.place (.var o.var) o.value) here := by
  unfold slotBindings at h
  split at h
  · next hskip =>
    obtain rfl := Except.ok.inj h
    refine gathered_nil ?_
    rintro o ⟨t, -, hne, -, hclosed, -⟩
    simp [hclosed, hne] at hskip
  · next hkeep =>
    obtain ⟨hclosed, hne⟩ : v.isOpen = false ∧ i ≠ except := by simpa using hkeep
    split at h
    · next t =>
      refine (gathered_bindingsAt (hmember t rfl hclosed) h).congr fun o => ?_
      constructor
      · rintro ⟨hslot, hreach⟩
        exact ⟨t, hslot, hne, rfl, hclosed, hreach⟩
      · rintro ⟨u, hslot, -, hu, -, hreach⟩
        obtain rfl := Option.some.inj hu
        exact ⟨hslot, hreach⟩
    · cases h

/-- The bindings of the slots from an index on are those in all slots that are filled, one slot
left out.  The induction is on the slots. -/
theorem gathered_filledBindings [Host] {except i : Nat} {ts : List Ty} {old : List Ty.Binding}
    (hmembers : ∀ (j : Nat) (t : Ty) (w : Value), ts[j]? = some t → slots[j]? = some w →
      w.isOpen = false → t.misfit? w = .ok none)
    (h : filledBindings except i ts slots = .ok old) :
    Gathered (fun o => ∃ j t w, o.slot = i + j ∧ o.slot ≠ except ∧ ts[j]? = some t ∧
      slots[j]? = some w ∧ w.isOpen = false ∧ t.Reaches w o.place (.var o.var) o.value) old := by
  induction slots generalizing i ts old with
  | nil =>
    obtain rfl := Except.ok.inj h
    exact gathered_nil (by simp)
  | cons v slots ih =>
    obtain ⟨here, hhere, h⟩ := bind_eq_ok.mp h
    obtain ⟨rest, hrest, h⟩ := bind_eq_ok.mp h
    obtain rfl := Except.ok.inj h
    rw [List.head?_eq_getElem?] at hhere
    have hfirst := gathered_slotBindings (fun t ht hclosed => hmembers 0 t v ht rfl hclosed) hhere
    have hlater := ih (fun j t w ht hw => hmembers (j + 1) t w (by rwa [← List.getElem?_tail]) hw)
      hrest
    refine (hfirst.append hlater ?_).congr fun o => ?_
    · rintro o o' ⟨t, hslot, -⟩ ⟨j, t', w, hslot', -⟩
      omega
    · constructor
      · rintro (⟨t, hslot, hne, ht, hclosed, hreach⟩ | ⟨j, t, w, hslot, hne, ht, hw, hclosed, hreach⟩)
        · exact ⟨0, t, v, hslot, hslot ▸ hne, ht, rfl, hclosed, hreach⟩
        · exact ⟨j + 1, t, w, by omega, hne, by rwa [← List.getElem?_tail], hw, hclosed, hreach⟩
      · rintro ⟨j, t, w, hslot, hne, ht, hw, hclosed, hreach⟩
        cases j with
        | zero =>
          obtain rfl := Option.some.inj hw
          exact .inl ⟨t, hslot, by omega, ht, hclosed, hreach⟩
        | succ j =>
          refine .inr ⟨j, t, w, by omega, hne, ?_, hw, hclosed, hreach⟩
          rwa [List.getElem?_tail]

/-- **All that is bound when a value is checked** is in the bindings of the filled slots and those
of the value, each occurrence once. -/
theorem gathered_binds [Host] {t : Ty} {old new : List Ty.Binding} (ht : s.types[index]? = some t)
    (hmember : t.misfit? v = .ok none)
    (hmembers : ∀ (j : Nat) (t : Ty) (w : Value), s.types[j]? = some t → slots[j]? = some w →
      w.isOpen = false → t.misfit? w = .ok none)
    (hvacant : ∀ w, slots[index]? = some w → w.isOpen = true)
    (hold : filledBindings index 0 s.types slots = .ok old)
    (hnew : bindingsAt index t v = .ok new) : Gathered (s.Binds slots index v) (old ++ new) := by
  refine ((gathered_filledBindings hmembers hold).append (gathered_bindingsAt hmember hnew)
    ?_).congr fun o => ?_
  · rintro o o' ⟨j, u, w, -, hne, -⟩ ⟨hslot, -⟩
    exact hslot ▸ hne
  · constructor
    · rintro (⟨j, u, w, hslot, hne, hu, hw, hclosed, hreach⟩ | ⟨hslot, hreach⟩)
      · rw [Nat.zero_add] at hslot
        exact ⟨u, w, hslot ▸ hu, .inr ⟨hslot ▸ hw, hclosed⟩, hreach⟩
      · exact ⟨t, v, hslot ▸ ht, .inl ⟨hslot, rfl⟩, hreach⟩
    · rintro ⟨u, w, hu, ⟨hslot, rfl⟩ | ⟨hw, hclosed⟩, hreach⟩
      · rw [hslot] at hu
        obtain rfl := Option.some.inj (ht.symm.trans hu)
        exact .inr ⟨hslot, hreach⟩
      · refine .inl ⟨o.slot, u, w, by omega, ?_, hu, hw, hclosed, hreach⟩
        -- the slot that the value is for is open, so this is another one
        intro hslot
        rw [hvacant w (hslot ▸ hw)] at hclosed
        cases hclosed

/-! ## The paths of bindings -/

theorem pathBefore_iff {p q : Ty.Path} : pathBefore p q = true ↔ p < q := by
  induction p generalizing q with
  | nil => cases q <;> simp [pathBefore]
  | cons i p ih =>
    cases q with
    | nil => simp [pathBefore]
    | cons j q =>
      rw [List.cons_lt_cons_iff, ← ih]
      simp [pathBefore]

/-- Elements without their repetitions are all different. -/
theorem nodup_eraseDups {α : Type} [BEq α] [LawfulBEq α] (l : List α) : l.eraseDups.Nodup := by
  induction h : l.length using Nat.strongRecOn generalizing l with
  | ind n ih =>
    cases l with
    | nil => exact List.nodup_nil
    | cons a l =>
      rw [List.eraseDups_cons, List.nodup_cons]
      have hshort : (l.filter fun b => !b == a).length < n := by
        rw [← h]
        exact Nat.lt_succ_of_le (List.length_filter_le _ _)
      refine ⟨fun hmem => ?_, ih _ hshort _ rfl⟩
      simp at hmem

theorem mem_pathsOf {bs : List Ty.Binding} {p : Ty.Path} :
    p ∈ pathsOf bs ↔ ∃ b ∈ bs, b.path = p := by
  rw [pathsOf, List.mem_mergeSort, List.mem_eraseDups, List.mem_map]

/-- Paths in order are all different. -/
theorem nodup_of_pairwise_lt {paths : List Ty.Path} (h : paths.Pairwise (· < ·)) : paths.Nodup := by
  refine h.imp fun {p q} hlt heq => ?_
  subst heq
  exact List.lt_irrefl _ hlt

/-- Paths are listed from the first to the last one, each once. -/
theorem pairwise_pathsOf (bs : List Ty.Binding) : (pathsOf bs).Pairwise (· < ·) := by
  have hbefore (p q : Ty.Path) : (!pathBefore q p) = true ↔ ¬ q < p := by
    rw [Bool.not_eq_true', ← Bool.not_eq_true, pathBefore_iff]
  have hsorted : (pathsOf bs).Pairwise fun p q => (!pathBefore q p) = true := by
    refine List.pairwise_mergeSort ?_ ?_ _
    · intro p q r hpq hqr
      rw [hbefore] at hpq hqr ⊢
      exact List.not_lt.mpr (List.le_trans (List.not_lt.mp hpq) (List.not_lt.mp hqr))
    · intro p q
      rw [Bool.or_eq_true, hbefore, hbefore]
      exact (List.le_total p q).imp List.not_lt.mpr List.not_lt.mpr
  have hnodup : (pathsOf bs).Nodup :=
    (List.mergeSort_perm _ _).nodup_iff.mpr (nodup_eraseDups _)
  refine (hsorted.and hnodup).imp fun {p q} h => ?_
  exact (List.le_iff_lt_or_eq.mp (List.not_lt.mp ((hbefore p q).mp h.1))).resolve_right h.2

/-- Elements that are grouped by different keys are all there, none of them twice. -/
theorem perm_flatMap_filter {α κ : Type} [BEq κ] [LawfulBEq κ] (key : α → κ) {keys : List κ}
    (hkeys : keys.Nodup) {l : List α} (hcovered : ∀ a ∈ l, key a ∈ keys) :
    (keys.flatMap fun k => l.filter fun a => key a == k).Perm l := by
  induction keys generalizing l with
  | nil =>
    cases l with
    | nil => exact .nil
    | cons a l => exact absurd (hcovered a List.mem_cons_self) List.not_mem_nil
  | cons k keys ih =>
    obtain ⟨hk, hkeys⟩ := List.nodup_cons.mp hkeys
    -- the groups of the other keys are those of the elements that are left
    have hothers : (keys.flatMap fun k' => l.filter fun a => key a == k') =
        keys.flatMap fun k' => (l.filter fun a => !(key a == k)).filter fun a => key a == k' := by
      refine List.flatMap_congr fun k' hk' => ?_
      rw [List.filter_filter]
      refine List.filter_congr fun a _ => ?_
      by_cases h : key a = k'
      · have hne : k' ≠ k := fun heq => hk (heq ▸ hk')
        simp [h, hne]
      · simp [h]
    rw [List.flatMap_cons, hothers]
    refine (List.Perm.append_left _ (ih hkeys fun a ha => ?_)).trans
      (List.filter_append_perm (fun a => key a == k) l)
    obtain ⟨ha, hne⟩ := List.mem_filter.mp ha
    exact (List.mem_cons.mp (hcovered a ha)).resolve_left (by simpa using hne)

end CheckedCurry.Signature
