import CheckedCurry.Curried.Check
import CheckedCurry.Proofs.Ty.Fitting

/-!
# What checks agree on

Checks are made one value at a time, against what is filled so far.  Together they come to this:
there is one assignment of unifiers to type variables under which all that is filled is admitted.

- `Signature.Admits`: a value is admitted at a type under an assignment.
- `Signature.Coherent`: some assignment admits everything that is filled.
- `checkMember_eq_ok`, `checkRequired_eq_ok`, `checkUnified_eq_ok`: what each step of a check asks.
- `checkAt_eq_ok_iff`: if what is filled is coherent, a check passes if and only if some assignment
  admits it together with the new value.
-/

namespace CheckedCurry.Signature

variable [Host]

/-! ## Assignments -/

/-- A value is admitted at a type, under an assignment of a unifier to each type variable. -/
structure Admits (s : Signature) (σ : TypeVar → String) (t : Ty) (v : Value) : Prop where
  /-- It is a member, if a variable is read as all values that have the assigned unifier. -/
  member : t.Fits (fun a w => w.unifier = σ a) v
  /-- What stands at a variable supports all that the signature requires of the variable. -/
  supported : t.Fits (fun a w => ∀ c ∈ s.required a, c.supports w.unifier = true) v

/-- What is filled fits the types in the same places. -/
def FilledFit (reading : TypeVar → Value → Prop) (ts : List Ty) (slots : List Value) : Prop :=
  ∀ (i : Nat) (t : Ty) (v : Value), ts[i]? = some t → slots[i]? = some v → v.isOpen = false →
    t.Fits reading v

/-- What is filled is admitted at the types in the same places, under one assignment. -/
def AdmitsFilled (s : Signature) (σ : TypeVar → String) (slots : List Value) : Prop :=
  ∀ (i : Nat) (t : Ty) (v : Value), s.types[i]? = some t → slots[i]? = some v →
    v.isOpen = false → s.Admits σ t v

/-- Some assignment admits all that is filled. -/
def Coherent (s : Signature) (slots : List Value) : Prop := ∃ σ, s.AdmitsFilled σ slots

/-- All values are admitted at the types of the parameters, under one assignment. -/
def AdmitsAll (s : Signature) (σ : TypeVar → String) (vs : List Value) : Prop :=
  ∀ (i : Nat) (t : Ty) (v : Value), s.params[i]? = some t → vs[i]? = some v → s.Admits σ t v

/-- Where all slots are open, any assignment will do. -/
theorem coherent_placeholders (s : Signature) (n : Nat) :
    s.Coherent (List.replicate n .placeholder) := by
  refine ⟨fun _ => "", fun i t v _ hv hclosed => ?_⟩
  obtain rfl := List.eq_of_mem_replicate (List.mem_of_getElem? hv)
  cases hclosed

omit [Host] in
/-- There is a type for every slot, and one more for the result. -/
theorem length_le_types {s : Signature} {slots : List Value} (h : slots.length = s.arity) :
    slots.length ≤ s.types.length := by
  rw [h, s.length_types]
  exact Nat.le_succ _

omit [Host] in
/-- No slot is at the index of the result. -/
theorem getElem?_arity_eq_none {s : Signature} {slots : List Value} (h : slots.length = s.arity) :
    slots[s.arity]? = none := List.getElem?_eq_none (Nat.le_of_eq h)

/-- Values for all parameters fill every slot. -/
theorem admitsFilled_iff_admitsAll {s : Signature} {σ : TypeVar → String} {vs : List Value}
    (hlen : vs.length = s.arity) (hvs : ∀ v ∈ vs, v.isOpen = false) :
    s.AdmitsFilled σ vs ↔ s.AdmitsAll σ vs := by
  have htypes {i : Nat} {v : Value} (hv : vs[i]? = some v) : s.types[i]? = s.params[i]? := by
    have hlt := (List.getElem?_eq_some_iff.mp hv).1
    exact types_getElem?_of_lt (hlen ▸ hlt)
  constructor
  · intro h i t v ht hv
    exact h i t v ((htypes hv).trans ht) hv (hvs v (List.mem_of_getElem? hv))
  · intro h i t v ht hv _
    exact h i t v ((htypes hv).symm.trans ht) hv

/-- What is filled later takes nothing away from what is admitted. -/
theorem AdmitsFilled.of_kept {s : Signature} {σ : TypeVar → String} {slots later : List Value}
    (hkept : ∀ (i : Nat) (v : Value), slots[i]? = some v → v.isOpen = false → later[i]? = some v)
    (h : s.AdmitsFilled σ later) : s.AdmitsFilled σ slots :=
  fun i t v ht hv hclosed => h i t v ht (hkept i v hv hclosed) hclosed

/-- A slot that is filled is one more value that is admitted. -/
theorem admitsFilled_set {s : Signature} {σ : TypeVar → String} {slots : List Value} {i : Nat}
    {t : Ty} {v w : Value} (ht : s.types[i]? = some t) (hw : slots[i]? = some w)
    (hopen : w.isOpen = true) (hclosed : v.isOpen = false) :
    s.AdmitsFilled σ (slots.set i v) ↔ s.AdmitsFilled σ slots ∧ s.Admits σ t v := by
  have hlt : i < slots.length := (List.getElem?_eq_some_iff.mp hw).1
  constructor
  · intro h
    refine ⟨h.of_kept fun j u hu hu' => ?_, h i t v ht (List.getElem?_set_self hlt) hclosed⟩
    have hne : i ≠ j := by
      rintro rfl
      obtain rfl := Option.some.inj (hw.symm.trans hu)
      simp [hopen] at hu'
    rw [List.getElem?_set_ne hne, hu]
  · rintro ⟨hslots, hv⟩ j t' u ht' hu hu'
    by_cases hij : i = j
    · subst hij
      rw [List.getElem?_set_self hlt] at hu
      obtain rfl := Option.some.inj hu
      obtain rfl := Option.some.inj (ht.symm.trans ht')
      exact hv
    · rw [List.getElem?_set_ne hij] at hu
      exact hslots j t' u ht' hu hu'

theorem admitsFilled_iff {s : Signature} {σ : TypeVar → String} {slots : List Value} :
    s.AdmitsFilled σ slots ↔
      FilledFit (fun a w => w.unifier = σ a) s.types slots ∧
        FilledFit (fun a w => ∀ c ∈ s.required a, c.supports w.unifier = true) s.types slots := by
  constructor
  · intro h
    exact ⟨fun i t v ht hv hclosed => (h i t v ht hv hclosed).member,
      fun i t v ht hv hclosed => (h i t v ht hv hclosed).supported⟩
  · rintro ⟨hmember, hsupported⟩ i t v ht hv hclosed
    exact ⟨hmember i t v ht hv hclosed, hsupported i t v ht hv hclosed⟩

theorem filledFit_cons {P : TypeVar → Value → Prop} {t : Ty} {ts : List Ty} {v : Value}
    {slots : List Value} :
    FilledFit P (t :: ts) (v :: slots) ↔
      (v.isOpen = false → t.Fits P v) ∧ FilledFit P ts slots := by
  constructor
  · intro h
    exact ⟨h 0 t v rfl rfl, fun i => h (i + 1)⟩
  · rintro ⟨hhead, htail⟩ i t' v' ht hv hclosed
    cases i with
    | zero =>
      obtain rfl := Option.some.inj ht
      obtain rfl := Option.some.inj hv
      exact hhead hclosed
    | succ i => exact htail i t' v' ht hv hclosed

/-! ## The steps of a check -/

variable {s : Signature} {environment : List Ty}

omit [Host] in
theorem ofAttempt_eq_ok {α : Type} {x : Attempt α} {a : α} :
    Checked.ofAttempt x = .ok a ↔ x = .ok a := by
  cases x <;> simp [Checked.ofAttempt]

omit [Host] in
theorem reject_ne_ok {α : Type} (note : String) (x : Attempt (Fault Value)) (a : α) :
    Checked.reject note x ≠ .ok a := by
  cases x <;> simp [Checked.reject]

/-- The first step asks for a value without misfits. -/
theorem checkMember_eq_ok {index : Nat} {t : Ty} {v : Value} :
    s.checkMember environment index t v = .ok () ↔ t.misfit? v = .ok none := by
  simp only [checkMember, bind_eq_ok, ofAttempt_eq_ok]
  constructor
  · rintro ⟨answer, hmisfit, hrest⟩
    cases answer with
    | none => exact hmisfit
    | some m =>
      obtain ⟨shown, -, hreject⟩ := bind_eq_ok.mp hrest
      exact absurd hreject (reject_ne_ok _ _ _)
  · intro hmisfit
    exact ⟨none, hmisfit, rfl⟩

/-- The second step asks that all bindings support what is required. -/
theorem checkRequired_eq_ok {bs : List Ty.Binding} :
    s.checkRequired environment bs = .ok () ↔
      ∀ b ∈ bs, ∀ c ∈ s.required b.var, c.supports b.value.unifier = true := by
  have hlack : s.firstLack? bs = none ↔
      ∀ b ∈ bs, ∀ c ∈ s.required b.var, c.supports b.value.unifier = true := by
    simp [firstLack?, List.findSome?_eq_none_iff]
  rw [← hlack]
  unfold checkRequired
  cases h : s.firstLack? bs with
  | none => exact ⟨fun _ => rfl, fun _ => rfl⟩
  | some lack =>
    refine ⟨fun hrest => ?_, fun hnone => nomatch hnone⟩
    obtain ⟨shown, -, hreject⟩ := bind_eq_ok.mp hrest
    exact absurd hreject (reject_ne_ok _ _ _)

omit [Host] in
theorem agree_iff {bs : List Ty.Binding} :
    agree bs = true ↔ ∀ b ∈ bs, ∀ c ∈ bs, c.value.unifier = b.value.unifier := by
  cases bs with
  | nil => simp [agree]
  | cons first rest =>
    simp only [agree, List.all_eq_true, beq_iff_eq]
    constructor
    · intro h
      have hfirst : ∀ b ∈ first :: rest, b.value.unifier = first.value.unifier :=
        List.forall_mem_cons.mpr ⟨rfl, h⟩
      exact fun b hb c hc => (hfirst c hc).trans (hfirst b hb).symm
    · exact fun h c hc => h first (List.mem_cons_self ..) c (List.mem_cons_of_mem _ hc)

/-- The third step asks that what is bound to a variable anew has one unifier with all else that is
bound to it. -/
theorem checkUnified_eq_ok {old new : List Ty.Binding} :
    s.checkUnified environment old new = .ok () ↔
      ∀ b ∈ new, ∀ c ∈ old ++ new, c.var = b.var → c.value.unifier = b.value.unifier := by
  have hclash : firstClash? old new = none ↔
      ∀ b ∈ new, agree (groupOf b.var (old ++ new)) = true := by
    simp [firstClash?, variablesOf, List.findSome?_eq_none_iff]
  have hgroup : (∀ b ∈ new, agree (groupOf b.var (old ++ new)) = true) ↔
      ∀ b ∈ new, ∀ c ∈ old ++ new, c.var = b.var → c.value.unifier = b.value.unifier := by
    simp only [agree_iff, groupOf, List.mem_filter, beq_iff_eq]
    constructor
    · intro h b hb c hc hvar
      exact h b hb b ⟨List.mem_append_right _ hb, rfl⟩ c ⟨hc, hvar⟩
    · rintro h b hb d ⟨hd, hdvar⟩ c ⟨hc, hcvar⟩
      exact (h b hb c hc hcvar).trans (h b hb d hd hdvar).symm
  rw [← hgroup, ← hclash]
  unfold checkUnified
  cases h : firstClash? old new with
  | none => exact ⟨fun _ => rfl, fun _ => rfl⟩
  | some clash =>
    exact ⟨fun hreject => absurd hreject (reject_ne_ok _ _ _), fun hnone => nomatch hnone⟩

/-! ## Bindings of what is filled -/

/-- What is filled has bindings, if it fits at all, and the bindings say under which readings. -/
theorem filledBindings_eq_ok (except i : Nat) {ts : List Ty} {slots : List Value}
    (hlen : slots.length ≤ ts.length)
    (hexcept : ∀ j v, slots[j]? = some v → i + j = except → v.isOpen = true)
    {Q : TypeVar → Value → Prop} (hfit : FilledFit Q ts slots) :
    ∃ old, filledBindings except i ts slots = .ok old ∧
      ∀ P : TypeVar → Value → Prop,
        (∀ b ∈ old, P b.var b.value) ↔ FilledFit P ts slots := by
  induction slots generalizing i ts with
  | nil => exact ⟨[], rfl, fun P => by simp [FilledFit]⟩
  | cons v slots ih =>
    cases ts with
    | nil => simp at hlen
    | cons t ts =>
      rw [filledFit_cons] at hfit
      obtain ⟨rest, hrest, hall⟩ := ih (i + 1) (by simpa using hlen)
        (fun j w hw hj => hexcept (j + 1) w hw (by omega)) hfit.2
      by_cases hopen : v.isOpen
      · -- an open slot has no bindings, and nothing is asked of it
        refine ⟨rest, ?_, fun P => ?_⟩
        · simp [filledBindings, slotBindings, hopen, hrest, bind, Except.bind, pure, Except.pure]
        · rw [filledFit_cons, hall P]
          simp [hopen]
      · have hclosed : v.isOpen = false := by simpa using hopen
        have hne : i ≠ except := fun heq => hopen (hexcept 0 v rfl heq)
        obtain ⟨hmisfit, bs, hbs⟩ := (hfit.1 hclosed).bindings
        refine ⟨bs.map (Ty.Binding.under i) ++ rest, ?_, fun P => ?_⟩
        · simp [filledBindings, slotBindings, bindingsAt, hopen, hne, hbs, hrest, bind,
            Except.bind, pure, Except.pure]
        · rw [filledFit_cons, List.forall_mem_append, hall P,
            Ty.fits_iff_of_bindings hmisfit hbs P, List.forall_mem_map]
          simp [hclosed, Ty.Binding.under]

/-! ## Whole checks -/

/-- An assignment in which the variables of bindings get the unifiers of their first bindings. -/
def rebind (σ : TypeVar → String) (bs : List Ty.Binding) (a : TypeVar) : String :=
  match bs.find? (·.var == a) with
  | some b => b.value.unifier
  | none => σ a

omit [Host] in
theorem rebind_of_mem {σ : TypeVar → String} {bs : List Ty.Binding} {b : Ty.Binding} (hb : b ∈ bs) :
    ∃ first ∈ bs, first.var = b.var ∧ rebind σ bs b.var = first.value.unifier := by
  unfold rebind
  cases h : bs.find? (·.var == b.var) with
  | none => simpa using List.find?_eq_none.mp h b hb
  | some first =>
    exact ⟨first, List.mem_of_find?_eq_some h, by simpa using List.find?_some h, rfl⟩

omit [Host] in
theorem rebind_of_forall_ne {σ : TypeVar → String} {bs : List Ty.Binding} {a : TypeVar}
    (h : ∀ b ∈ bs, b.var ≠ a) : rebind σ bs a = σ a := by
  have hnone : bs.find? (·.var == a) = none := by simpa using h
  rw [rebind, hnone]

omit [Host] in
/-- Bindings that pass unification agree with the assignment for the old ones once it is changed for
the new ones. -/
theorem unifier_eq_rebind {σ : TypeVar → String} {old new : List Ty.Binding}
    (hold : ∀ b ∈ old, b.value.unifier = σ b.var)
    (hnew : ∀ b ∈ new, ∀ c ∈ old ++ new, c.var = b.var → c.value.unifier = b.value.unifier) :
    ∀ c ∈ old ++ new, c.value.unifier = rebind σ new c.var := by
  intro c hc
  by_cases h : ∃ b ∈ new, b.var = c.var
  -- the first new binding of the variable stands for all bindings of it
  · obtain ⟨b, hb, hvar⟩ := h
    obtain ⟨first, hfirst, hfirstvar, hrebind⟩ := rebind_of_mem (σ := σ) hb
    rw [← hvar, hrebind]
    exact hnew first hfirst c hc (hvar.symm.trans hfirstvar.symm)
  · have hne : ∀ b ∈ new, b.var ≠ c.var := fun b hb hvar => h ⟨b, hb, hvar⟩
    -- the variable is not bound anew, so this is an old binding under the old assignment
    rcases List.mem_append.mp hc with hc | hc
    · rw [rebind_of_forall_ne hne, hold c hc]
    · exact absurd rfl (hne c hc)

/-- The steps that a check which passes has made.  What is filled is looked at only if the value
binds variables. -/
theorem checkAt_eq_ok {slots : List Value} {index : Nat} {t : Ty} {v : Value} :
    s.checkAt environment slots index t v = .ok () ↔
      t.misfit? v = .ok none ∧ ∃ bs, t.bindings v = .ok bs ∧
        (∀ b ∈ bs, ∀ c ∈ s.required b.var, c.supports b.value.unifier = true) ∧
        (bs = [] ∨ ∃ old, filledBindings index 0 s.types slots = .ok old ∧
          s.checkUnified environment old (bs.map (Ty.Binding.under index)) = .ok ()) := by
  have hempty (bs : List Ty.Binding) :
      (bs.map (Ty.Binding.under index)).isEmpty = true ↔ bs = [] := by simp
  have hrequired (bs : List Ty.Binding) :
      s.checkRequired environment (bs.map (Ty.Binding.under index)) = .ok () ↔
        ∀ b ∈ bs, ∀ c ∈ s.required b.var, c.supports b.value.unifier = true := by
    rw [checkRequired_eq_ok, List.forall_mem_map]
    rfl
  unfold checkAt
  constructor
  · -- each step has passed, or the next one would not have been reached
    intro h
    obtain ⟨_, hmember, h⟩ := bind_eq_ok.mp h
    obtain ⟨new, hnew, h⟩ := bind_eq_ok.mp h
    obtain ⟨_, hreq, h⟩ := bind_eq_ok.mp h
    obtain ⟨bs, hbs, hmap⟩ := bind_eq_ok.mp (ofAttempt_eq_ok.mp hnew)
    obtain rfl := Except.ok.inj hmap
    refine ⟨checkMember_eq_ok.mp hmember, bs, hbs, (hrequired bs).mp hreq, ?_⟩
    by_cases hnil : bs = []
    · exact .inl hnil
    · rw [if_neg fun he => hnil ((hempty bs).mp he)] at h
      obtain ⟨old, hold, hunified⟩ := bind_eq_ok.mp h
      exact .inr ⟨old, ofAttempt_eq_ok.mp hold, hunified⟩
  · rintro ⟨hmisfit, bs, hbs, hreq, hrest⟩
    refine bind_eq_ok.mpr ⟨(), checkMember_eq_ok.mpr hmisfit, ?_⟩
    refine bind_eq_ok.mpr ⟨bs.map (Ty.Binding.under index), ?_, ?_⟩
    · exact ofAttempt_eq_ok.mpr (bind_eq_ok.mpr ⟨bs, hbs, rfl⟩)
    refine bind_eq_ok.mpr ⟨(), (hrequired bs).mpr hreq, ?_⟩
    rcases hrest with rfl | ⟨old, hold, hunified⟩
    · rfl
    · by_cases hnil : bs = []
      · rw [if_pos ((hempty bs).mpr hnil)]
        rfl
      · rw [if_neg fun he => hnil ((hempty bs).mp he)]
        exact bind_eq_ok.mpr ⟨old, ofAttempt_eq_ok.mpr hold, hunified⟩

/-- **A check and the assignments.**  Let some assignment admit all that is filled.  A check of one
more value passes if and only if some assignment, maybe another one, admits all that is filled and
the new value too. -/
theorem checkAt_eq_ok_iff {slots : List Value} {index : Nat} {t : Ty} {v : Value}
    (hlen : slots.length ≤ s.types.length)
    (hexcept : ∀ w, slots[index]? = some w → w.isOpen = true) (hcoherent : s.Coherent slots) :
    s.checkAt environment slots index t v = .ok () ↔
      ∃ σ, s.AdmitsFilled σ slots ∧ s.Admits σ t v := by
  obtain ⟨σ₀, hfilled⟩ := hcoherent
  obtain ⟨hmember₀, hsupported₀⟩ := admitsFilled_iff.mp hfilled
  obtain ⟨old, hold, hreadings⟩ := filledBindings_eq_ok index 0 hlen
    (fun j w hw hj => hexcept w (by rwa [← hj, Nat.zero_add])) hmember₀
  rw [checkAt_eq_ok]
  constructor
  · rintro ⟨hmisfit, bs, hbs, hrequired, hrest⟩
    have hfits := Ty.fits_iff_of_bindings hmisfit hbs
    rcases hrest with rfl | ⟨old', hold', hunified⟩
    · -- a value that binds no variable is admitted whatever the assignment
      exact ⟨σ₀, hfilled, (hfits _).mpr (by simp), (hfits _).mpr (by simp)⟩
    · obtain rfl : old = old' := Except.ok.inj (hold.symm.trans hold')
      -- the assignment follows the new bindings, and the old ones agree with them
      have hrebind := unifier_eq_rebind ((hreadings fun a w => w.unifier = σ₀ a).mpr hmember₀)
        (checkUnified_eq_ok.mp hunified)
      rw [List.forall_mem_append] at hrebind
      refine ⟨rebind σ₀ (bs.map (Ty.Binding.under index)), admitsFilled_iff.mpr
        ⟨(hreadings _).mp hrebind.1, hsupported₀⟩, (hfits _).mpr ?_, (hfits _).mpr hrequired⟩
      exact List.forall_mem_map.mp hrebind.2
  · rintro ⟨σ, hfilled', hadmits⟩
    obtain ⟨hmisfit, bs, hbs⟩ := hadmits.member.bindings
    have hfits := Ty.fits_iff_of_bindings hmisfit hbs
    refine ⟨hmisfit, bs, hbs, (hfits _).mp hadmits.supported, .inr ⟨old, hold, ?_⟩⟩
    -- under one assignment, all that is bound to a variable has the assigned unifier
    have hall : ∀ c ∈ old ++ bs.map (Ty.Binding.under index), c.value.unifier = σ c.var := by
      refine List.forall_mem_append.mpr ⟨?_, List.forall_mem_map.mpr ?_⟩
      · exact (hreadings fun a w => w.unifier = σ a).mpr (admitsFilled_iff.mp hfilled').1
      · exact (hfits _).mp hadmits.member
    rw [checkUnified_eq_ok]
    intro b hb c hc hvar
    rw [hall c hc, hall b (List.mem_append_right _ hb), hvar]

end CheckedCurry.Signature
