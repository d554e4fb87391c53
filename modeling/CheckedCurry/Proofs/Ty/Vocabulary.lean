import CheckedCurry.Proofs.Ty.Tree
import CheckedCurry.Ty.Names
import Mathlib.Data.List.Flatten
import Mathlib.Data.List.Forall2
import Mathlib.Data.List.Nodup

/-!
# The types that names come from

The names of a value are texts of types that are built from an environment.  For each depth there is
one list of all of these types, in the order in which they are listed and without repetitions.  In
an environment whose names are different words no two of them have one text.

- `Ty.BuiltFrom`: types built from an environment.
- `Ty.Readable`: environments whose names are different words; `readable_environment`.
- `BuiltFrom.eq_of_text_eq`: types built from such an environment with one text are the same.
- `Ty.vocabulary`: the types up to a depth; `nodup_vocabulary`: none is listed twice.
- `choices_sublist`, `nodup_choices`: choices from lists, in order and without repetitions.
-/

namespace CheckedCurry.Ty

/-! ## Choices -/

section Choices

variable {α β : Type} {xss yss : List (List α)} {zs : List α}

/-- A choice has one element of each list. -/
theorem mem_choices : zs ∈ choices xss ↔ List.Forall₂ (· ∈ ·) zs xss := by
  induction xss generalizing zs with
  | nil => rw [choices_nil, List.mem_singleton, List.forall₂_nil_right_iff]
  | cons xs xss ih =>
    rw [choices, List.mem_flatMap, List.forall₂_cons_right_iff]
    constructor
    · rintro ⟨x, hx, hzs⟩
      obtain ⟨ys, hys, rfl⟩ := List.mem_map.mp hzs
      exact ⟨x, ys, hx, ih.mp hys, rfl⟩
    · rintro ⟨x, ys, hx, hys, rfl⟩
      exact ⟨x, hx, List.mem_map.mpr ⟨ys, ih.mpr hys, rfl⟩⟩

/-- From lists with elements something can be chosen. -/
theorem choices_ne_nil (h : ∀ xs ∈ xss, xs ≠ []) : choices xss ≠ [] := by
  induction xss with
  | nil => simp
  | cons xs xss ih =>
    obtain ⟨hxs, hxss⟩ := List.forall_mem_cons.mp h
    obtain ⟨x, hx⟩ := List.exists_mem_of_ne_nil xs hxs
    obtain ⟨ys, hys⟩ := List.exists_mem_of_ne_nil _ (ih hxss)
    exact List.ne_nil_of_mem (List.mem_flatMap.mpr ⟨x, hx, List.mem_map_of_mem hys⟩)

/-- A choice from one list several times. -/
theorem mem_choices_const {γ : Type} {es : List γ} {xs : List α}
    (h : zs ∈ choices (es.map fun _ => xs)) : zs.length = es.length ∧ ∀ z ∈ zs, z ∈ xs := by
  have hall : List.Forall₂ (fun z _ => z ∈ xs) zs es :=
    List.forall₂_map_right_iff.mp (mem_choices.mp h)
  clear h
  induction hall with
  | nil => exact ⟨rfl, by simp⟩
  | cons hz _ ih => exact ⟨congrArg (· + 1) ih.1, List.forall_mem_cons.mpr ⟨hz, ih.2⟩⟩

/-- Choices from lists without repetitions are made once. -/
theorem nodup_choices (h : ∀ xs ∈ xss, xs.Nodup) : (choices xss).Nodup := by
  induction xss with
  | nil => exact List.nodup_singleton []
  | cons xs xss ih =>
    obtain ⟨hxs, hxss⟩ := List.forall_mem_cons.mp h
    rw [choices, List.nodup_flatMap]
    refine ⟨fun x _ => (ih hxss).map fun ys zs heq => (List.cons.inj heq).2, ?_⟩
    refine hxs.imp fun {x y} hne => ?_
    -- choices that start with different elements are different
    intro zs hx hy
    obtain ⟨_, -, rfl⟩ := List.mem_map.mp hx
    obtain ⟨_, -, heq⟩ := List.mem_map.mp hy
    exact hne (List.cons.inj heq).1.symm

/-- Choices from fewer elements are fewer choices, in the same order. -/
theorem choices_sublist (h : List.Forall₂ List.Sublist xss yss) :
    (choices xss).Sublist (choices yss) := by
  induction h with
  | nil => exact List.Sublist.refl _
  | @cons xs ys xss yss hxs _ ih =>
    rw [choices, choices]
    exact (hxs.flatMap _).trans (List.Sublist.flatMap_right ys fun y _ => ih.map (y :: ·))

/-- Choices from parts of one list are among the choices from the list. -/
theorem choices_sublist_const {γ : Type} {es : List γ} {xs : List α}
    (hlen : xss.length = es.length) (h : ∀ ys ∈ xss, ys.Sublist xs) :
    (choices xss).Sublist (choices (es.map fun _ => xs)) := by
  refine choices_sublist ?_
  induction xss generalizing es with
  | nil =>
    obtain rfl := List.eq_nil_of_length_eq_zero hlen.symm
    exact .nil
  | cons ys xss ih =>
    obtain ⟨e, es, rfl⟩ := List.exists_cons_of_length_eq_add_one hlen.symm
    obtain ⟨hys, hxss⟩ := List.forall_mem_cons.mp h
    exact .cons hys (ih (Nat.succ.inj hlen) hxss)

/-- Choosing and then changing the elements is changing them first. -/
theorem choices_map (f : α → β) (xss : List (List α)) :
    choices (xss.map (List.map f)) = (choices xss).map (List.map f) := by
  induction xss with
  | nil => rfl
  | cons xs xss ih =>
    rw [List.map_cons, choices, choices, ih, List.flatMap_map, List.map_flatMap]
    simp only [List.map_map]
    rfl

end Choices

/-! ## Types built from an environment -/

/-- A type is built from an environment: from its types without parameters and its constructors, and
from the type that stands where nothing better is known. -/
inductive BuiltFrom (environment : List Ty) : Ty → Prop
  | unknown : BuiltFrom environment unknown
  | nullary {n : Nullary} (h : nullary n ∈ environment) : BuiltFrom environment (nullary n)
  | applied {c : Constructor} {given ps : List Ty} (h : applied c given ∈ environment)
      (hlen : ps.length = c.extracts.length) (hps : ∀ p ∈ ps, BuiltFrom environment p) :
      BuiltFrom environment (applied c ps)

/-- Whether a type is one that environments list: it has a name and either no parameters or a
constructor. -/
def isListed : Ty → Bool
  | nullary _ | applied .. => true
  | _ => false

/-- The names of an environment are words, all different, and none is the one that stands where
nothing better is known. -/
structure Readable (environment : List Ty) : Prop where
  listed : ∀ t ∈ environment, t.isListed = true
  words : ∀ name ∈ environment.filterMap name?, IsWord name
  different : (environment.map name?).Nodup
  known : some unknownName ∉ environment.map name?

theorem readable_environment : Readable environment where
  listed := by decide
  words := by decide
  different := by decide
  known := by decide

variable {environment : List Ty} {t u : Ty} {name : String}

/-- Types of an environment with one name are the same. -/
theorem Readable.eq_of_name? (henv : Readable environment) (ht : t ∈ environment)
    (hu : u ∈ environment) (h : t.name? = u.name?) : t = u :=
  List.inj_on_of_nodup_map henv.different ht hu h

theorem Readable.isWord (henv : Readable environment) (ht : t ∈ environment)
    (hname : t.name? = some name) : IsWord name :=
  henv.words name (List.mem_filterMap.mpr ⟨t, ht, hname⟩)

theorem Readable.ne_unknown (henv : Readable environment) (ht : t ∈ environment) :
    t.name? ≠ some unknownName := fun h => henv.known (List.mem_map.mpr ⟨t, ht, h⟩)

/-! ## Reading types back -/

theorem trees_eq_map (ts : List Ty) : trees ts = ts.map tree := by
  induction ts with
  | nil => rw [trees, List.map_nil]
  | cons t ts ih => rw [trees, List.map_cons, ih]

theorem areLegible_iff {ts : List NameTree} : NameTree.AreLegible ts ↔ ∀ t ∈ ts, t.IsLegible := by
  induction ts with
  | nil => simp [NameTree.AreLegible]
  | cons t ts ih => rw [NameTree.AreLegible, List.forall_mem_cons, ih]

/-- What is built from words has words for names. -/
theorem BuiltFrom.isLegible (henv : Readable environment) (h : BuiltFrom environment t) :
    t.IsLegible := by
  induction h with
  | unknown => exact ⟨by decide, trivial⟩
  | nullary hn => exact ⟨henv.isWord hn rfl, trivial⟩
  | applied hc _ _ ih =>
    rw [IsLegible, tree, NameTree.IsLegible, trees_eq_map, areLegible_iff]
    exact ⟨henv.isWord hc rfl, List.forall_mem_map.mpr ih⟩

/-- Lists whose elements can be read back can be read back. -/
theorem eq_of_map_tree {ts us : List Ty}
    (h : ∀ t ∈ ts, ∀ u ∈ us, t.tree = u.tree → t = u) (heq : ts.map tree = us.map tree) :
    ts = us := by
  induction ts generalizing us with
  | nil => exact (List.map_eq_nil_iff.mp heq.symm).symm
  | cons t ts ih =>
    obtain ⟨u, us, rfl, hu, hus⟩ := List.map_eq_cons_iff.mp heq.symm
    rw [h t List.mem_cons_self u List.mem_cons_self hu.symm,
      ih (fun t ht u hu => h t (List.mem_cons_of_mem _ ht) u (List.mem_cons_of_mem _ hu)) hus.symm]

/-- The name of a type that is built from an environment is the one at the root of its tree. -/
theorem BuiltFrom.name?_eq (h : BuiltFrom environment t) : t.name? = some t.tree.name := by
  cases h <;> rfl

/-- The tree of a type that is built from an environment tells which one it is. -/
theorem BuiltFrom.eq_of_tree_eq (henv : Readable environment) (ht : BuiltFrom environment t)
    (hu : BuiltFrom environment u) (h : t.tree = u.tree) : t = u := by
  have hname : t.name? = u.name? := by rw [ht.name?_eq, hu.name?_eq, h]
  induction ht generalizing u with
  | unknown =>
    cases hu with
    | unknown => rfl
    | nullary hn => exact absurd hname.symm (henv.ne_unknown hn)
    | applied hc _ _ => exact (henv.ne_unknown hc hname.symm).elim
  | nullary hn =>
    cases hu with
    | unknown => exact absurd hname (henv.ne_unknown hn)
    | nullary hn' => exact henv.eq_of_name? hn hn' hname
    | applied hc _ _ => cases henv.eq_of_name? hn hc hname
  | applied hc _ hps ih =>
    cases hu with
    | unknown => exact (henv.ne_unknown hc hname).elim
    | nullary hn => cases henv.eq_of_name? hc hn hname
    | applied hc' _ hqs =>
      obtain ⟨rfl, -⟩ := Ty.applied.inj (henv.eq_of_name? hc hc' hname)
      rw [tree, tree, trees_eq_map, trees_eq_map] at h
      have hinner := (NameTree.node.inj h).2
      refine congrArg (Ty.applied _) (eq_of_map_tree (fun p hp q hq hpq => ?_) hinner)
      exact ih p hp (hqs q hq) hpq (by rw [(hps p hp).name?_eq, (hqs q hq).name?_eq, hpq])

/-- **Types built from an environment have different texts.** -/
theorem BuiltFrom.eq_of_text_eq (henv : Readable environment) (ht : BuiltFrom environment t)
    (hu : BuiltFrom environment u) (h : t.text = u.text) : t = u :=
  ht.eq_of_tree_eq henv hu (tree_eq_of_text_eq (ht.isLegible henv) (hu.isLegible henv) h)

/-! ## The vocabulary -/

/-- The types with one head, where parameters are taken from a list or not known. -/
def headed (inner : List Ty) : Ty → List Ty
  | applied c _ => (choices (c.extracts.map fun _ => unknown :: inner)).map (applied c)
  | t => [t]

/-- The types that are built from an environment up to a depth, in the order of the environment. -/
def vocabulary (environment : List Ty) : Nat → List Ty
  | 0 => []
  | depth + 1 => environment.flatMap (headed (vocabulary environment depth))

theorem name?_of_mem_headed {inner : List Ty} (h : u ∈ headed inner t) : u.name? = t.name? := by
  unfold headed at h
  split at h
  · obtain ⟨ps, -, rfl⟩ := List.mem_map.mp h
    rfl
  · rw [List.mem_singleton.mp h]

/-- Parameters that are chosen from types built from an environment, or not known. -/
theorem builtFrom_of_mem_choices {inner ps : List Ty} {c : Constructor}
    (hinner : ∀ p ∈ inner, BuiltFrom environment p)
    (h : ps ∈ choices (c.extracts.map fun _ => unknown :: inner)) :
    ps.length = c.extracts.length ∧ ∀ p ∈ ps, BuiltFrom environment p := by
  obtain ⟨hlen, hmem⟩ := mem_choices_const h
  refine ⟨hlen, fun p hp => ?_⟩
  rcases List.mem_cons.mp (hmem p hp) with rfl | hp
  · exact .unknown
  · exact hinner p hp

theorem builtFrom_of_mem_headed {inner : List Ty} (henv : Readable environment)
    (hinner : ∀ p ∈ inner, BuiltFrom environment p) (ht : t ∈ environment)
    (h : u ∈ headed inner t) : BuiltFrom environment u := by
  have hlisted := henv.listed t ht
  cases t with
  | nullary n =>
    obtain rfl := List.mem_singleton.mp h
    exact .nullary ht
  | applied c given =>
    obtain ⟨ps, hps, rfl⟩ := List.mem_map.mp h
    obtain ⟨hlen, hps⟩ := builtFrom_of_mem_choices hinner hps
    exact .applied ht hlen hps
  | _ => cases hlisted

theorem builtFrom_of_mem_vocabulary [Host] (henv : Readable environment) {depth : Nat}
    (h : t ∈ vocabulary environment depth) : BuiltFrom environment t := by
  induction depth generalizing t with
  | zero => cases h
  | succ depth ih =>
    obtain ⟨head, hhead, ht⟩ := List.mem_flatMap.mp h
    exact builtFrom_of_mem_headed henv (fun p hp => ih hp) hhead ht

theorem unknown_not_mem_vocabulary (henv : Readable environment) (depth : Nat) :
    unknown ∉ vocabulary environment depth := by
  cases depth with
  | zero => exact List.not_mem_nil
  | succ depth =>
    intro h
    obtain ⟨head, hhead, h⟩ := List.mem_flatMap.mp h
    exact henv.ne_unknown hhead (name?_of_mem_headed h).symm

theorem nodup_headed {inner : List Ty} (h : (unknown :: inner).Nodup) (t : Ty) :
    (headed inner t).Nodup := by
  unfold headed
  split
  · refine (nodup_choices fun xs hxs => ?_).map fun ps qs heq => (Ty.applied.inj heq).2
    obtain ⟨-, -, rfl⟩ := List.mem_map.mp hxs
    exact h
  · exact List.nodup_singleton _

/-- **No type is listed twice**: types with different heads are different, and so are the choices of
parameters for one head. -/
theorem nodup_vocabulary (henv : Readable environment) (depth : Nat) :
    (unknown :: vocabulary environment depth).Nodup := by
  refine List.nodup_cons.mpr ⟨unknown_not_mem_vocabulary henv depth, ?_⟩
  induction depth with
  | zero => exact List.nodup_nil
  | succ depth ih =>
    refine List.nodup_flatMap.mpr ⟨fun t _ => nodup_headed
      (List.nodup_cons.mpr ⟨unknown_not_mem_vocabulary henv depth, ih⟩) t, ?_⟩
    refine (List.pairwise_map.mp henv.different).imp fun {t u} hne v hv hv' => ?_
    exact hne ((name?_of_mem_headed hv).symm.trans (name?_of_mem_headed hv'))

end CheckedCurry.Ty
