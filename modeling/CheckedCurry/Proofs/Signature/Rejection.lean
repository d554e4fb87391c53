import CheckedCurry.Proofs.Signature.Coherence
import CheckedCurry.Proofs.Ty.Reach

/-!
# Which error a value is rejected with

A value may fail a check in several ways at once.  The error that is raised is fixed by the order of
the steps, and inside a step by the order of bindings: a misfit comes before a value that lacks a
capability, and that comes before values that do not agree.

- `Signature.Bound`: the bindings of arguments, slot by slot.
- `Signature.RejectedWith`: the error, with the values that it carries; the definition says nothing
  of the search for them.
- `Signature.Reportable`: tests and extractions answer, and what is reached can be described.
- `checkAt_rejected`: a check that does not pass ends in that error.
-/

namespace CheckedCurry.Signature

/-! ## The error -/

/-- The bindings of the arguments in the slots from an index on, in the order of the slots. -/
inductive Bound [Host] : Nat → List Ty → List Value → List Ty.Binding → Prop
  | none (i : Nat) (ts : List Ty) : Bound i ts [] []
  | slot {i : Nat} {t : Ty} {ts : List Ty} {v : Value} {vs : List Value}
      {here rest : List Ty.Binding} (head : bindingsAt i t v = .ok here)
      (tail : Bound (i + 1) ts vs rest) : Bound i (t :: ts) (v :: vs) (here ++ rest)

/-- The bound values support all that is required of their variables. -/
def AllSupported (s : Signature) (bs : List Ty.Binding) : Prop :=
  ∀ b ∈ bs, ∀ c ∈ s.required b.var, c.supports b.value.unifier = true

/-- All values that are bound to a variable have one unifier. -/
def AreUnified (a : TypeVar) (bs : List Ty.Binding) : Prop :=
  ∀ b ∈ bs, ∀ c ∈ bs, b.var = a → c.var = a → c.value.unifier = b.value.unifier

/-- The error that a value at an index is rejected with, given the bindings of the arguments that
came earlier.  Each case excludes the ones before it. -/
inductive RejectedWith [Host] (s : Signature) (earlier : List Ty.Binding) (index : Nat) (t : Ty)
    (v : Value) : Fault Value → Prop
  /-- A null value, where the type of the parameter is the accessible values. -/
  | accessible (top : t.isAccessible = true) (fails : t.isMember v = .ok false) :
    RejectedWith s earlier index t v (.accessibility s.name index)
  /-- Another value that is not a member; its first misfit is marked. -/
  | invalid {m : Ty.Misfit} (below : t.isAccessible = false) (fails : t.misfit? v = .ok (some m))
      (entries : List String) :
    RejectedWith s earlier index t v
      (.invalidValue (.invalidValue (s.reportLines [index :: m.path] []) entries m.type.text
        m.type.url?) s.name index v)
  /-- The first bound value that lacks a capability, and the first capability that it lacks. -/
  | lacking {before after : List Ty.Binding} {b : Ty.Binding} {had others : List Capability}
      {c : Capability} (member : t.isMember v = .ok true)
      (bound : bindingsAt index t v = .ok (before ++ b :: after))
      (before_supported : s.AllSupported before) (required : s.required b.var = had ++ c :: others)
      (supports : ∀ d ∈ had, d.supports b.value.unifier = true)
      (lacks : c.supports b.value.unifier = false) (entries : List String) :
    RejectedWith s earlier index t v
      (.typeClass (.typeClass (s.reportLines [b.path] (s.requirementSpan? b.var c).toList) entries
        s.name b.var.name c.name) s.name c.name b.value)
  /-- The first bound variable whose values do not have one unifier, with all its values: those of
  earlier arguments first. -/
  | clashing {before after : List Ty.Binding} {b : Ty.Binding} (member : t.isMember v = .ok true)
      (bound : bindingsAt index t v = .ok (before ++ b :: after))
      (supported : s.AllSupported (before ++ b :: after))
      (before_unified : ∀ d ∈ before, AreUnified d.var (earlier ++ (before ++ b :: after)))
      (clashes : ¬ AreUnified b.var (earlier ++ (before ++ b :: after))) (entries : List String) :
    RejectedWith s earlier index t v
      (.typeVariable (.typeVariable
          (s.reportLines (pathsOf (groupOf b.var (earlier ++ (before ++ b :: after)))) []) entries)
        s.name ((groupOf b.var (earlier ++ (before ++ b :: after))).map (·.value)))

/-- All tests and extractions on a value end in an answer, and what is reached in it can be shown
and described. -/
structure Reportable [Host] (environment : List Ty) (t : Ty) (v : Value) : Prop where
  answers : t.Answers v
  described : ∀ place u w, t.Reaches v place u w → ∃ entry, describe environment w = .ok entry

section Reportable

variable {environment : List Ty} {t : Ty}

/-- A value can be reported on by a type that looks at nothing inside, if it can be tested and
described. -/
theorem reportable_of_tested [Host] {v : Value} (passed : Bool)
    (ht : ∀ c params, t ≠ .applied c params) (htest : t.test v = .ok passed)
    (hentry : ∃ entry, describe environment v = .ok entry) : Reportable environment t v := by
  have hparams : t.params = [] := by
    cases t with
    | applied c params => exact absurd rfl (ht c params)
    | _ => rfl
  refine ⟨Ty.answers_of_tested passed ht htest, fun place u w hreach => ?_⟩
  obtain ⟨-, -, rfl⟩ := Ty.reaches_of_no_params hparams hreach
  exact hentry

/-- A list can be reported on if its elements can. -/
theorem reportable_array [Host] {items : List Value}
    (hentry : ∃ entry, describe environment (.list items) = .ok entry)
    (h : ∀ w ∈ items, Reportable environment t w) :
    Reportable environment (.array t) (.list items) := by
  refine ⟨Ty.answers_array fun w hw => (h w hw).answers, fun place u w hreach => ?_⟩
  have hsources : (Ty.array t).sources (.list items) = .ok [.list items] := rfl
  rcases (Ty.reaches_applied rfl hsources place u w).mp hreach with
    ⟨-, -, rfl⟩ | ⟨k, p, source, elements, hp, hsource, helements, j, x, hx, rest, -, hrest⟩
  · exact hentry
  · cases k with
    | zero =>
      obtain rfl := Option.some.inj hp
      obtain rfl := Option.some.inj hsource
      obtain rfl : items = elements := Except.ok.inj helements
      exact (h x (List.mem_of_getElem? hx)).described rest u w hrest
    | succ k => simp at hp

end Reportable

/-! ## The first of several -/

/-- What has no answer can be left out of a search. -/
theorem findSome?_filter {α β : Type} {f : α → Option β} {keep : α → Bool}
    (h : ∀ a, keep a = false → f a = none) (l : List α) :
    (l.filter keep).findSome? f = l.findSome? f := by
  induction l with
  | nil => rfl
  | cons a l ih =>
    rw [List.findSome?_cons]
    cases hkeep : keep a with
    | true =>
      rw [List.filter_cons_of_pos hkeep, List.findSome?_cons, ih]
    | false =>
      rw [List.filter_cons_of_neg (by simp [hkeep]), h a hkeep, ih]

/-- A search among elements without their repetitions finds what a search among all finds. -/
theorem findSome?_eraseDups {α β : Type} [BEq α] [LawfulBEq α] (f : α → Option β) (l : List α) :
    l.eraseDups.findSome? f = l.findSome? f := by
  induction h : l.length using Nat.strongRecOn generalizing l with
  | ind n ih =>
    cases l with
    | nil => rfl
    | cons a l =>
      rw [List.eraseDups_cons, List.findSome?_cons, List.findSome?_cons]
      cases hfa : f a with
      | some b => rfl
      | none =>
        have hshort : (l.filter fun b => !b == a).length < n := by
          rw [← h]
          exact Nat.lt_succ_of_le (List.length_filter_le _ _)
        rw [ih _ hshort _ rfl]
        -- the repetitions of `a` have no answer either
        refine findSome?_filter (fun b hb => ?_) l
        obtain rfl : b = a := by simpa using hb
        exact hfa

/-- Bindings of one variable agree if and only if its values have one unifier. -/
theorem agree_groupOf_iff {a : TypeVar} {bs : List Ty.Binding} :
    agree (groupOf a bs) = true ↔ AreUnified a bs := by
  simp only [agree_iff, groupOf, List.mem_filter, beq_iff_eq, AreUnified]
  constructor
  · intro h b hb c hc hbvar hcvar
    exact h b ⟨hb, hbvar⟩ c ⟨hc, hcvar⟩
  · rintro h b ⟨hb, hbvar⟩ c ⟨hc, hcvar⟩
    exact h b hb c hc hbvar hcvar

/-- The search for a lack comes to the first value that lacks a capability. -/
theorem exists_of_firstLack? {s : Signature} {bs : List Ty.Binding} {b : Ty.Binding}
    {c : Capability} (h : s.firstLack? bs = some (b, c)) :
    ∃ before after had others, bs = before ++ b :: after ∧ s.AllSupported before ∧
      s.required b.var = had ++ c :: others ∧ (∀ d ∈ had, d.supports b.value.unifier = true) ∧
      c.supports b.value.unifier = false := by
  obtain ⟨before, b', after, rfl, hfound, hbefore⟩ := List.findSome?_eq_some_iff.mp h
  obtain ⟨c', hfind, hpair⟩ := Option.map_eq_some_iff.mp hfound
  obtain ⟨rfl, rfl⟩ := Prod.mk.inj hpair
  -- of what is required of its variable, the value supports all that comes before the lack
  obtain ⟨hlacks, had, others, hrequired, hhad⟩ := List.find?_eq_some_iff_append.mp hfind
  refine ⟨before, after, had, others, rfl, fun d hd e he => ?_, hrequired, ?_, by simpa using hlacks⟩
  · have hnone := Option.map_eq_none_iff.mp (hbefore d hd)
    simpa using List.find?_eq_none.mp hnone e he
  · simpa using hhad

/-- The search for a clash comes to the first variable that is bound anew and is not unified. -/
theorem exists_of_firstClash? {old new : List Ty.Binding} {a : TypeVar} {group : List Ty.Binding}
    (h : firstClash? old new = some (a, group)) :
    ∃ before b after, new = before ++ b :: after ∧ b.var = a ∧ group = groupOf a (old ++ new) ∧
      (∀ d ∈ before, AreUnified d.var (old ++ new)) ∧ ¬ AreUnified a (old ++ new) := by
  rw [firstClash?, variablesOf, findSome?_eraseDups, List.findSome?_map] at h
  obtain ⟨before, b, after, rfl, hfound, hbefore⟩ := List.findSome?_eq_some_iff.mp h
  simp only [Function.comp_apply] at hfound hbefore
  refine ⟨before, b, after, rfl, ?_⟩
  split at hfound
  · cases hfound
  · rename_i hclash
    obtain ⟨rfl, rfl⟩ := Prod.mk.inj (Option.some.inj hfound)
    refine ⟨rfl, rfl, fun d hd => ?_, fun hunified => hclash (agree_groupOf_iff.mpr hunified)⟩
    have hnone := hbefore d hd
    split at hnone
    · rename_i hagree
      exact agree_groupOf_iff.mp hagree
    · cases hnone

/-! ## Putting the error together -/

variable {s : Signature} {environment : List Ty}

theorem display_of_describe [Host] {v : Value} {entry : Report.Entry}
    (h : describe environment v = .ok entry) : ∃ shown, v.display = .ok shown := by
  obtain ⟨shown, hshown, -⟩ := bind_eq_ok.mp h
  exact ⟨shown, hshown⟩

/-- A rejection ends a check in the fault that is put together. -/
theorem reject_of_ok {α : Type} {x : Attempt (Fault Value)} {fault : Fault Value} (note : String)
    (h : x = .ok fault) : (Checked.reject note x : Checked α) = .error ⟨some note, fault⟩ := by
  rw [h, Checked.reject]

variable [Host]

/-- The misfit of a value that is rejected at the top is the value itself. -/
theorem misfit?_accessible {name : String} {v : Value} {m : Ty.Misfit}
    (h : (Ty.accessible name).misfit? v = .ok (some m)) : m = ⟨[], v, .accessible name⟩ := by
  unfold Ty.misfit? at h
  obtain ⟨passed, -, h⟩ := bind_eq_ok.mp h
  cases passed with
  | true => cases h
  | false => exact (Option.some.inj (Except.ok.inj h)).symm

/-- A misfit with an empty path is rejected by the whole type. -/
theorem misfit?_type {t : Ty} {v : Value} {m : Ty.Misfit} (h : t.misfit? v = .ok (some m))
    (hpath : m.path = []) : m.type = t := by
  obtain ⟨place, hplace, hreach, -⟩ := Ty.found_misfit? t v (some m) h
  have hat := hreach.at?
  rw [hplace, hpath, Ty.at?_nil] at hat
  exact (Option.some.inj hat).symm

/-- The first step, for a value with a misfit. -/
theorem checkMember_rejected (earlier : List Ty.Binding) (index : Nat) {t : Ty} {v : Value}
    {m : Ty.Misfit} (hreport : Reportable environment t v) (hm : t.misfit? v = .ok (some m)) :
    ∃ p, s.checkMember environment index t v = .error p ∧
      RejectedWith s earlier index t v p.fault := by
  obtain ⟨entry, hentry⟩ := hreport.described [] t v (.here t v)
  obtain ⟨shown, hshown⟩ := display_of_describe hentry
  have hcheck : s.checkMember environment index t v =
      Checked.reject (s.misfitNote index shown) (s.misfitFault environment index v m) := by
    rw [checkMember, hm, hshown]
    rfl
  by_cases htop : t.isAccessible = true
  · obtain ⟨name, rfl⟩ := Ty.isAccessible_iff.mp htop
    obtain rfl := misfit?_accessible hm
    have hmember : (Ty.accessible name).isMember v = .ok false := by
      rw [Ty.isMember, hm]
      rfl
    exact ⟨_, hcheck.trans (reject_of_ok _ rfl), .accessible htop hmember⟩
  · -- the misfit is reached in the value, so it can be described too
    obtain ⟨place, -, hreach, -⟩ := Ty.found_misfit? t v (some m) hm
    obtain ⟨inner, hinner⟩ := hreport.described place m.type m.value hreach
    have hfault : s.misfitFault environment index v m = .ok (.invalidValue
        (.invalidValue (s.reportLines [index :: m.path] []) (Report.entryLines [[inner]])
          m.type.text m.type.url?) s.name index v) := by
      unfold misfitFault
      split
      · rename_i htype hpath
        exact absurd (Ty.isAccessible_iff.mpr ⟨_, (misfit?_type hm hpath).symm.trans htype⟩) htop
      · exact bind_eq_ok.mpr ⟨inner, hinner, rfl⟩
    exact ⟨_, hcheck.trans (reject_of_ok _ hfault), .invalid (by simpa using htop) hm _⟩

/-- The first lack that is found is reported, if the value can be described. -/
theorem checkRequired_of_firstLack? {bs : List Ty.Binding} {b : Ty.Binding} {c : Capability}
    {entry : Report.Entry} (h : s.firstLack? bs = some (b, c))
    (hentry : describe environment b.value = .ok entry) :
    ∃ note, s.checkRequired environment bs = .error ⟨some note, .typeClass (.typeClass
      (s.reportLines [b.path] (s.requirementSpan? b.var c).toList) (Report.entryLines [[entry]])
      s.name b.var.name c.name) s.name c.name b.value⟩ := by
  obtain ⟨shown, hshown⟩ := display_of_describe hentry
  have hfault : s.lackFault environment b c = .ok (.typeClass (.typeClass
      (s.reportLines [b.path] (s.requirementSpan? b.var c).toList) (Report.entryLines [[entry]])
      s.name b.var.name c.name) s.name c.name b.value) :=
    bind_eq_ok.mpr ⟨entry, hentry, rfl⟩
  have hcheck : s.checkRequired environment bs =
      Checked.reject (s.lackNote c shown) (s.lackFault environment b c) := by
    rw [checkRequired, h]
    simp only [hshown]
    rfl
  exact ⟨_, hcheck.trans (reject_of_ok _ hfault)⟩

/-- The second step, for bindings that are not all supported. -/
theorem checkRequired_rejected (earlier : List Ty.Binding) {new : List Ty.Binding} {index : Nat}
    {t : Ty} {v : Value}
    (hmember : t.isMember v = .ok true) (hnew : bindingsAt index t v = .ok new)
    (hdescribed : ∀ b ∈ new, ∃ entry, describe environment b.value = .ok entry)
    (h : ¬ s.AllSupported new) :
    ∃ p, s.checkRequired environment new = .error p ∧ RejectedWith s earlier index t v p.fault := by
  cases hlack : s.firstLack? new with
  | none =>
    have hpass : s.checkRequired environment new = .ok () := by
      rw [checkRequired, hlack]
      rfl
    exact absurd (checkRequired_eq_ok.mp hpass) h
  | some lack =>
    obtain ⟨b, c⟩ := lack
    obtain ⟨before, after, had, others, rfl, hbefore, hrequired, hhad, hlacks⟩ :=
      exists_of_firstLack? hlack
    obtain ⟨entry, hentry⟩ := hdescribed b (by simp)
    obtain ⟨note, hcheck⟩ := checkRequired_of_firstLack? hlack hentry
    exact ⟨_, hcheck, .lacking hmember hnew hbefore hrequired hhad hlacks _⟩

/-- The third step, for bindings that are not all unified. -/
theorem checkUnified_rejected {old new : List Ty.Binding} {index : Nat} {t : Ty} {v : Value}
    (hmember : t.isMember v = .ok true) (hnew : bindingsAt index t v = .ok new)
    (hdescribed : ∀ b ∈ old ++ new, ∃ entry, describe environment b.value = .ok entry)
    (hsupported : s.AllSupported new) (h : s.checkUnified environment old new ≠ .ok ()) :
    ∃ p, s.checkUnified environment old new = .error p ∧
      RejectedWith s old index t v p.fault := by
  cases hclash : firstClash? old new with
  | none =>
    refine absurd ?_ h
    rw [checkUnified, hclash]
  | some clash =>
    obtain ⟨a, group⟩ := clash
    obtain ⟨before, b, after, rfl, rfl, rfl, hbefore, hclashes⟩ := exists_of_firstClash? hclash
    let group := groupOf b.var (old ++ (before ++ b :: after))
    -- all values of the group are bound, so they can be described
    obtain ⟨entries, hentries⟩ : ∃ entries, ((pathsOf group).mapM fun path =>
        (group.filter (·.path == path)).mapM fun d => describe environment d.value) =
          .ok entries := by
      refine Attempt.answers_mapM fun path _ => Attempt.answers_mapM fun d hd => hdescribed d ?_
      exact (List.mem_filter.mp (List.mem_filter.mp hd).1).1
    have hfault : s.clashFault environment group = .ok (.typeVariable
        (.typeVariable (s.reportLines (pathsOf group) []) (Report.entryLines entries)) s.name
        (group.map (·.value))) := bind_eq_ok.mpr ⟨entries, hentries, rfl⟩
    have hcheck : s.checkUnified environment old (before ++ b :: after) =
        Checked.reject (s.clashNote b.var) (s.clashFault environment group) := by
      rw [checkUnified, hclash]
    exact ⟨_, hcheck.trans (reject_of_ok _ hfault),
      .clashing hmember hnew hsupported hbefore hclashes _⟩

/-! ## All steps -/

/-- The values that a member binds are reached in it, so they can be described. -/
theorem exists_bindingsAt (index : Nat) {t : Ty} {v : Value} (hreport : Reportable environment t v)
    (hmisfit : t.misfit? v = .ok none) : ∃ new, bindingsAt index t v = .ok new ∧
      ∀ b ∈ new, ∃ entry, describe environment b.value = .ok entry := by
  obtain ⟨bs, hbs, occurrences, rfl, -, hmem⟩ := Ty.exists_listed_bindings t v hmisfit
  refine ⟨_, bind_eq_ok.mpr ⟨_, hbs, rfl⟩, ?_⟩
  rw [List.forall_mem_map, List.forall_mem_map]
  rintro ⟨place, b⟩ ho
  exact hreport.described place _ b.value ((hmem place b).mp ho).2

/-- A check that does not pass, of a value that can be reported on, ends in the error that the order
of the steps and of the bindings fixes. -/
theorem checkAt_rejected {slots : List Value} {old : List Ty.Binding} {index : Nat} {t : Ty}
    {v : Value} (hreport : Reportable environment t v)
    (hold : filledBindings index 0 s.types slots = .ok old)
    (hdescribed : ∀ b ∈ old, ∃ entry, describe environment b.value = .ok entry)
    (h : s.checkAt environment slots index t v ≠ .ok ()) :
    ∃ p, s.checkAt environment slots index t v = .error p ∧
      RejectedWith s old index t v p.fault := by
  obtain ⟨answer, hanswer⟩ := Ty.exists_misfit? t v hreport.answers
  cases answer with
  | some m =>
    obtain ⟨p, hp, hrejected⟩ := checkMember_rejected (s := s) old index hreport hanswer
    refine ⟨p, ?_, hrejected⟩
    rw [checkAt, hp]
    rfl
  | none =>
    have hmember : t.isMember v = .ok true := by
      rw [Ty.isMember, hanswer]
      rfl
    obtain ⟨new, hnew, hnewDescribed⟩ := exists_bindingsAt index hreport hanswer
    have hpass : s.checkMember environment index t v = .ok () := checkMember_eq_ok.mpr hanswer
    -- what is left are the second step, and the third one if there is something to unify
    have hsteps : s.checkAt environment slots index t v =
        (s.checkRequired environment new >>= fun _ =>
          if new.isEmpty then .ok () else s.checkUnified environment old new) := by
      rw [checkAt, hpass, hnew, hold]
      rfl
    by_cases hsupported : s.AllSupported new
    · have hrequired : s.checkRequired environment new = .ok () :=
        checkRequired_eq_ok.mpr hsupported
      have hunify : s.checkAt environment slots index t v =
          if new.isEmpty then .ok () else s.checkUnified environment old new := by
        rw [hsteps, hrequired]
        rfl
      rw [hunify] at h ⊢
      by_cases hempty : new.isEmpty
      · rw [if_pos hempty] at h
        exact absurd rfl h
      · rw [if_neg hempty] at h ⊢
        refine checkUnified_rejected hmember hnew ?_ hsupported h
        exact List.forall_mem_append.mpr ⟨hdescribed, hnewDescribed⟩
    · obtain ⟨p, hp, hrejected⟩ := checkRequired_rejected old hmember hnew hnewDescribed
        hsupported
      refine ⟨p, ?_, hrejected⟩
      rw [hsteps, hp]
      rfl

end CheckedCurry.Signature
