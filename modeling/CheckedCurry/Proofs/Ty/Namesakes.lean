import CheckedCurry.Proofs.Ty.Naming
import CheckedCurry.Proofs.Value.Contents

/-!
# Names do not depend on the order of elements

The names that a list of values has in common are looked for from the first value on: its names are
filtered by those of the next one, and so on until nothing is left.  The outcome is still a matter
of which values there are.  All names of a value stand in the order of one vocabulary, so that what
is left is the part of that vocabulary that all values have.

- `Ty.shared`: the part of a vocabulary that values have in common, if they unify.
- `commonNames_eq`: the common names are the shared ones, whatever the order of the values.
- `namesWithin_of_le`: a greater depth gives the same names.
- `namesWithin_list`, `namesWithin_map`: the names of a list and of a map come from common names.
- `names_of_same_elements`: the law, for lists and for the values of maps.
-/

namespace CheckedCurry.Ty

variable {environment : List Ty} {namesOf : Value → Attempt (List String)} {f : Value → List String}
  {v first source : Value} {vs items items' : List Value} {names common U : List String}
  {depth : Nat}

/-! ## Parts of one list -/

/-- A part of a list without repetitions is what a filter by membership leaves of the list. -/
theorem eq_filter_of_sublist {l : List String} (h : l.Sublist U) (hU : U.Nodup) :
    l = U.filter (· ∈ l) := by
  induction h with
  | slnil => rfl
  | @cons l U a hl ih =>
    obtain ⟨ha, hU⟩ := List.nodup_cons.mp hU
    have hnot : a ∉ l := fun hmem => ha (hl.subset hmem)
    rw [List.filter_cons_of_neg (by simpa using hnot)]
    exact ih hU
  | @cons_cons l U a hl ih =>
    obtain ⟨ha, hU⟩ := List.nodup_cons.mp hU
    have hrest : U.filter (· ∈ a :: l) = U.filter (· ∈ l) := by
      refine List.filter_congr fun b hb => ?_
      have hne : b ≠ a := fun heq => ha (heq ▸ hb)
      simp [hne]
    rw [List.filter_cons_of_pos (by simp), hrest, ← ih hU]

/-! ## Common names -/

/-- The names that values have in common, in the order of a vocabulary.  No values, and values that
do not unify, have none. -/
def shared (f : Value → List String) (U : List String) (items : List Value) : List String :=
  if items ≠ [] ∧ ∀ v ∈ items, ∀ w ∈ items, v.unifier = w.unifier then
    U.filter fun name => ∀ v ∈ items, name ∈ f v
  else []

/-- Only which values there are matters to what they share. -/
theorem shared_congr (h : ∀ v, v ∈ items' ↔ v ∈ items) : shared f U items' = shared f U items := by
  simp only [shared, ne_eq, List.eq_nil_iff_forall_not_mem, h]

/-- Narrowing filters by the names of all values, if these unify with the first one. -/
theorem narrow_eq (h : ∀ v ∈ vs, namesOf v = .ok (f v)) :
    narrow namesOf first vs common =
      .ok (if ∀ v ∈ vs, v.unifier = first.unifier then
        common.filter fun name => ∀ v ∈ vs, name ∈ f v
      else []) := by
  induction vs generalizing common with
  | nil => simp [narrow]
  | cons v vs ih =>
    obtain ⟨hv, hvs⟩ := List.forall_mem_cons.mp h
    rw [narrow]
    by_cases hempty : common.isEmpty
    · rw [if_pos hempty, List.isEmpty_iff.mp hempty]
      simp
    · rw [if_neg hempty]
      by_cases hunifies : v.unifier = first.unifier
      · rw [if_neg (not_not_intro hunifies), hv]
        show narrow namesOf first vs (common.filter (f v).contains) = _
        rw [ih hvs, List.filter_filter]
        simp only [List.forall_mem_cons, hunifies, true_and, List.contains_eq_mem, Bool.decide_and,
          Bool.and_comm]
      · rw [if_pos hunifies, if_neg fun hall => hunifies (hall v List.mem_cons_self)]

/-- Values unify with each other if they unify with the first of them. -/
theorem unify_iff : (∀ w ∈ vs, w.unifier = v.unifier) ↔
    ∀ w ∈ v :: vs, ∀ w' ∈ v :: vs, w.unifier = w'.unifier := by
  constructor
  · intro h w hw w' hw'
    have hall : ∀ w ∈ v :: vs, w.unifier = v.unifier := List.forall_mem_cons.mpr ⟨rfl, h⟩
    rw [hall w hw, hall w' hw']
  · intro h w hw
    exact h w (List.mem_cons_of_mem _ hw) v List.mem_cons_self

/-- Values share the names of the first of them that the others have too, if these unify with it. -/
theorem shared_cons (hU : U.Nodup) (hsub : (f v).Sublist U) :
    shared f U (v :: vs) =
      if ∀ w ∈ vs, w.unifier = v.unifier then (f v).filter fun name => ∀ w ∈ vs, name ∈ f w
      else [] := by
  have hfilter : ((f v).filter fun name => ∀ w ∈ vs, name ∈ f w) =
      U.filter fun name => ∀ w ∈ v :: vs, name ∈ f w := by
    conv => lhs; rw [eq_filter_of_sublist hsub hU, List.filter_filter]
    simp only [List.forall_mem_cons, Bool.decide_and, Bool.and_comm]
  rw [hfilter, shared]
  simp only [unify_iff, ne_eq, List.cons_ne_nil, not_false_eq_true, true_and]

/-- **The common names of values are the shared ones.** -/
theorem commonNames_eq (hU : U.Nodup) (h : ∀ v ∈ items, namesOf v = .ok (f v))
    (hsub : ∀ v ∈ items, (f v).Sublist U) :
    commonNames namesOf items = .ok (if (shared f U items).isEmpty then [unknownName]
      else shared f U items) := by
  cases items with
  | nil => rfl
  | cons v vs =>
    obtain ⟨hv, hvs⟩ := List.forall_mem_cons.mp h
    have hnarrow : narrow namesOf v vs (f v) = .ok (shared f U (v :: vs)) := by
      rw [shared_cons hU (hsub v List.mem_cons_self)]
      exact narrow_eq hvs
    exact bind_eq_ok.mpr ⟨f v, hv, bind_eq_ok.mpr ⟨_, hnarrow, rfl⟩⟩

/-! ## Greater depths -/

section Depth

variable {namesOf' : Value → Attempt (List String)}
  (hrefines : ∀ v names, namesOf v = .ok names → namesOf' v = .ok names)

include hrefines

theorem narrow_refines (h : narrow namesOf first vs common = .ok names) :
    narrow namesOf' first vs common = .ok names := by
  induction vs generalizing common with
  | nil => exact h
  | cons v vs ih =>
    rw [narrow] at h ⊢
    split at h
    · next hempty => rw [if_pos hempty, h]
    · next hempty =>
      rw [if_neg hempty]
      split at h
      · next hdiffers => rw [if_pos hdiffers, h]
      · next hdiffers =>
        rw [if_neg hdiffers]
        obtain ⟨others, hothers, h⟩ := bind_eq_ok.mp h
        exact bind_eq_ok.mpr ⟨others, hrefines v others hothers, ih h⟩

theorem commonNames_refines (h : commonNames namesOf items = .ok names) :
    commonNames namesOf' items = .ok names := by
  cases items with
  | nil => exact h
  | cons v vs =>
    obtain ⟨own, hown, h⟩ := bind_eq_ok.mp h
    obtain ⟨common, hcommon, h⟩ := bind_eq_ok.mp h
    exact bind_eq_ok.mpr ⟨own, hrefines v own hown,
      bind_eq_ok.mpr ⟨common, narrow_refines hrefines hcommon, h⟩⟩

theorem namesBy_refines [Host] {t : Ty} (h : namesBy namesOf v t = .ok names) :
    namesBy namesOf' v t = .ok names := by
  cases t with
  | applied c given =>
    obtain ⟨passed, hpassed, h⟩ := bind_eq_ok.mp h
    refine bind_eq_ok.mpr ⟨passed, hpassed, ?_⟩
    cases passed with
    | false => exact h
    | true =>
      obtain ⟨sources, hsources, h⟩ := bind_eq_ok.mp h
      obtain ⟨perParam, hperParam, h⟩ := bind_eq_ok.mp h
      refine bind_eq_ok.mpr ⟨sources, hsources, bind_eq_ok.mpr ⟨perParam, ?_, h⟩⟩
      refine mapM_eq_ok_iff.mpr ((mapM_eq_ok_iff.mp hperParam).imp fun source names hnames => ?_)
      obtain ⟨items, hitems, hnames⟩ := bind_eq_ok.mp hnames
      exact bind_eq_ok.mpr ⟨items, hitems, commonNames_refines hrefines hnames⟩
  | _ => exact h

end Depth

variable [Host]

/-- A step deeper, names stay the same. -/
theorem namesWithin_succ (h : namesWithin environment depth v = .ok names) :
    namesWithin environment (depth + 1) v = .ok names := by
  induction depth generalizing v names with
  | zero => cases h
  | succ depth ih =>
    obtain ⟨perHead, hperHead, h⟩ := bind_eq_ok.mp h
    refine bind_eq_ok.mpr ⟨perHead, mapM_eq_ok_iff.mpr ?_, h⟩
    exact (mapM_eq_ok_iff.mp hperHead).imp fun t names => namesBy_refines fun _ _ => ih

theorem namesWithin_of_le {depth' : Nat} (h : namesWithin environment depth v = .ok names)
    (hle : depth ≤ depth') : namesWithin environment depth' v = .ok names := by
  induction hle with
  | refl => exact h
  | step _ ih => exact namesWithin_succ ih

/-! ## Lists and maps -/

variable {xs ys : List Value} {es es' : List (Value × Value)}

/-- The names of values that types with one parameter look at. -/
theorem namesBy_unary {c : Constructor} {e : Extract} (given : List Ty) (hc : c.extracts = [e])
    (htest : c.test.holds v = .ok true) (hsource : e.source v = .ok source)
    (hitems : source.spread = .ok items) (h : commonNames namesOf items = .ok common) :
    namesBy namesOf v (applied c given) = .ok (appliedNames c [common]) := by
  have hsources : (applied c given).sources v = .ok [source] := by
    rw [sources, hc]
    exact mapM_eq_ok_iff.mpr (.cons hsource .nil)
  have hnames : [source].mapM (fun source => do commonNames namesOf (← source.spread)) =
      .ok [common] := mapM_eq_ok_iff.mpr (.cons (bind_eq_ok.mpr ⟨items, hitems, h⟩) .nil)
  exact bind_eq_ok.mpr ⟨true, htest, bind_eq_ok.mpr ⟨[source], hsources,
    bind_eq_ok.mpr ⟨[common], hnames, rfl⟩⟩⟩

/-- The names from all types of the environment, given those from each. -/
theorem namesWithin_eq {g : Ty → List String}
    (h : ∀ t ∈ environment, namesBy (namesWithin environment depth) v t = .ok (g t)) :
    namesWithin environment (depth + 1) v = .ok (environment.flatMap g) := by
  refine bind_eq_ok.mpr ⟨environment.map g, mapM_eq_ok_iff.mpr ?_, rfl⟩
  rw [List.forall₂_map_right_iff, List.forall₂_same]
  exact h

/-- A list has the names of arrays of what its elements have in common, and no others. -/
theorem namesWithin_list
    (h : commonNames (namesWithin Ty.environment depth) xs = .ok common) :
    namesWithin Ty.environment (depth + 1) (.list xs) = .ok (appliedNames .array [common]) := by
  let g (t : Ty) : List String :=
    if t.name? = some "Array" then appliedNames .array [common] else []
  have hnames : ∀ t ∈ Ty.environment,
      namesBy (namesWithin Ty.environment depth) (.list xs) t = .ok (g t) := by
    have harray := namesBy_unary (c := .array) (v := .list xs) [unknown] rfl rfl rfl rfl h
    simp only [Ty.environment, List.forall_mem_cons]
    exact ⟨rfl, harray, rfl, rfl, rfl, rfl, rfl, rfl, rfl, rfl, rfl, rfl, rfl, rfl, rfl, rfl, rfl,
      rfl, by simp⟩
  exact (namesWithin_eq hnames).trans (congrArg Except.ok (List.append_nil _))

/-- A map whose keys are texts is an object, and has the names of maps of what its values have in
common. -/
theorem namesWithin_map (hkeys : ∀ e ∈ es, e.1.isText = true)
    (h : commonNames (namesWithin Ty.environment depth) (es.map (·.2)) = .ok common) :
    namesWithin Ty.environment (depth + 1) (.map es) =
      .ok ("Object" :: appliedNames .stringMap [common]) := by
  let g (t : Ty) : List String :=
    if t.name? = some "Object" then ["Object"]
    else if t.name? = some "StrMap" then appliedNames .stringMap [common]
    else []
  have hnames : ∀ t ∈ Ty.environment,
      namesBy (namesWithin Ty.environment depth) (.map es) t = .ok (g t) := by
    have htest : Constructor.stringMap.test.holds (.map es) = .ok true :=
      congrArg Except.ok (List.all_eq_true.mpr hkeys)
    have hmap := namesBy_unary (c := .stringMap) (v := .map es) [unknown] rfl htest rfl rfl h
    simp only [Ty.environment, List.forall_mem_cons]
    exact ⟨rfl, rfl, rfl, rfl, rfl, rfl, rfl, rfl, rfl, hmap, rfl, rfl, rfl, rfl, rfl, rfl, rfl,
      rfl, by simp⟩
  exact (namesWithin_eq hnames).trans
    (congrArg (fun rest => Except.ok ("Object" :: rest)) (List.append_nil _))

/-! ## The law -/

omit [Host] in
theorem depthAll_le {n : Nat} (h : ∀ x ∈ xs, x.depth ≤ n) : Value.depthAll xs ≤ n := by
  induction xs with
  | nil => exact Nat.zero_le n
  | cons x xs ih =>
    obtain ⟨hx, hxs⟩ := List.forall_mem_cons.mp h
    rw [Value.depthAll]
    exact Nat.max_le.mpr ⟨hx, ih hxs⟩

/-- Values that are the same up to their order and number have the same names in common, at every
depth that is enough for each of them, with the stack on top. -/
theorem exists_common (henv : Readable environment)
    (hnames : ∀ x ∈ xs, ∃ names, Ty.names environment x = .ok names)
    (hsame : ∀ x, x ∈ ys ↔ x ∈ xs) :
    ∃ common, ∀ depth, (∀ x ∈ xs, x.depth ≤ depth) →
      commonNames (namesWithin environment (depth + Host.stack)) xs = .ok common ∧
        commonNames (namesWithin environment (depth + Host.stack)) ys = .ok common := by
  let f (x : Value) : List String := (Ty.names environment x).toOption.getD []
  let least := Value.depthAll xs + Host.stack
  let U := (vocabulary environment least).map text
  have hbuilt : ∀ t ∈ vocabulary environment least, BuiltFrom environment t :=
    fun t ht => builtFrom_of_mem_vocabulary henv ht
  have hU : U.Nodup :=
    (List.nodup_cons.mp (nodup_vocabulary henv least)).2.map_on (toldApart henv hbuilt)
  -- at the least depth that is enough, all names come from one list
  have hf : ∀ x ∈ xs, namesWithin environment least x = .ok (f x) := by
    intro x hx
    obtain ⟨names, hx'⟩ := hnames x hx
    have hfx : f x = names := by simp [f, hx', Except.toOption]
    rw [hfx]
    exact namesWithin_of_le hx' (Nat.add_le_add_right (Value.depth_le_depthAll hx) _)
  have hsub : ∀ x ∈ xs, (f x).Sublist U := by
    intro x hx
    obtain ⟨ts, hts, hnames, -⟩ := named_namesWithin henv least x _ (hf x hx)
    rw [hnames]
    exact hts.map text
  have hxs := commonNames_eq hU hf hsub
  have hys := commonNames_eq hU (fun x hx => hf x ((hsame x).mp hx))
    fun x hx => hsub x ((hsame x).mp hx)
  rw [shared_congr hsame] at hys
  refine ⟨if (shared f U xs).isEmpty then [unknownName] else shared f U xs,
    fun depth hdepth => ?_⟩
  have hrefines : ∀ v names, namesWithin environment least v = .ok names →
      namesWithin environment (depth + Host.stack) v = .ok names :=
    fun v names h => namesWithin_of_le h (Nat.add_le_add_right (depthAll_le hdepth) _)
  exact ⟨commonNames_refines hrefines hxs, commonNames_refines hrefines hys⟩

/-- **Names do not depend on the order of elements.**  If the names of each element of a list can be
told, then the list has names, and a list of the same elements, in any order and with repetitions,
has the same names in the same order.  The same holds for the values of maps whose keys are
texts. -/
theorem names_of_same_elements :
    (∀ xs ys : List Value, (∀ x ∈ xs, ∃ names, Ty.names Ty.environment x = .ok names) →
      (∀ x, x ∈ ys ↔ x ∈ xs) →
      ∃ names, Ty.names Ty.environment (.list xs) = .ok names ∧
        Ty.names Ty.environment (.list ys) = .ok names) ∧
    ∀ es es' : List (Value × Value), (∀ e ∈ es, e.1.isText = true) →
      (∀ e ∈ es', e.1.isText = true) →
      (∀ x ∈ es.map (·.2), ∃ names, Ty.names Ty.environment x = .ok names) →
      (∀ x, x ∈ es'.map (·.2) ↔ x ∈ es.map (·.2)) →
      ∃ names, Ty.names Ty.environment (.map es) = .ok names ∧
        Ty.names Ty.environment (.map es') = .ok names := by
  constructor
  · intro xs ys hnames hsame
    obtain ⟨common, hcommon⟩ := exists_common readable_environment hnames hsame
    have hxs := (hcommon (Value.depthAll xs) fun x hx => Value.depth_le_depthAll hx).1
    have hys := (hcommon (Value.depthAll ys) fun x hx =>
      Value.depth_le_depthAll ((hsame x).mpr hx)).2
    refine ⟨appliedNames .array [common], ?_, ?_⟩
    · rw [Ty.names, Value.depth, Nat.add_right_comm]
      exact namesWithin_list hxs
    · rw [Ty.names, Value.depth, Nat.add_right_comm]
      exact namesWithin_list hys
  · intro es es' hkeys hkeys' hnames hsame
    obtain ⟨common, hcommon⟩ := exists_common readable_environment hnames hsame
    have hdepth {es : List (Value × Value)} : ∀ x ∈ es.map (·.2), x.depth ≤ Value.depthEntries es :=
      List.forall_mem_map.mpr fun e he => Value.depth_le_depthEntries he
    have hes := (hcommon _ hdepth).1
    have hes' := (hcommon (Value.depthEntries es') fun x hx => hdepth x ((hsame x).mpr hx)).2
    refine ⟨"Object" :: appliedNames .stringMap [common], ?_, ?_⟩
    · rw [Ty.names, Value.depth, Nat.add_right_comm]
      exact namesWithin_map hkeys hes
    · rw [Ty.names, Value.depth, Nat.add_right_comm]
      exact namesWithin_map hkeys' hes'

omit [Host] in
/-- Zero among other numbers: the names that are left do not depend on where it stands. -/
theorem names_of_same_elements_reordered : letI : Host := .bare
    (∃ names, Ty.names Ty.environment (.list [.int 1, .int 0]) = .ok names ∧
      Ty.names Ty.environment (.list [.int 0, .int 1, .int 0]) = .ok names) ∧
    ∃ names,
      Ty.names Ty.environment (.map [(.text "a", .int 1), (.text "b", .int 0)]) = .ok names ∧
        Ty.names Ty.environment (.map [(.text "c", .int 0), (.text "d", .int 1)]) = .ok names := by
  let _ : Host := .bare
  have hone : Ty.names Ty.environment (.int 1) =
      .ok ["Number", "FiniteNumber", "NonZeroFiniteNumber", "Integer", "ValidNumber"] := rfl
  have hzero : Ty.names Ty.environment (.int 0) =
      .ok ["Number", "FiniteNumber", "Integer", "ValidNumber"] := rfl
  have hnames : ∀ x ∈ [Value.int 1, .int 0], ∃ names, Ty.names Ty.environment x = .ok names :=
    List.forall_mem_cons.mpr ⟨⟨_, hone⟩, List.forall_mem_singleton.mpr ⟨_, hzero⟩⟩
  have hkeys (a b : String) (v w : Value) :
      ∀ e ∈ [(Value.text a, v), (.text b, w)], e.1.isText = true :=
    List.forall_mem_cons.mpr ⟨rfl, List.forall_mem_singleton.mpr rfl⟩
  refine ⟨names_of_same_elements.1 _ _ hnames ?_,
    names_of_same_elements.2 _ _ (hkeys _ _ _ _) (hkeys _ _ _ _) hnames ?_⟩
  · intro x
    simp only [List.mem_cons, List.not_mem_nil, or_false]
    tauto
  · intro x
    simp only [List.map_cons, List.map_nil, List.mem_cons, List.not_mem_nil, or_false]
    tauto

end CheckedCurry.Ty
