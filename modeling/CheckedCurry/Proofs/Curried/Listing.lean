import CheckedCurry.Proofs.Curried.Accounting
import CheckedCurry.Proofs.Curried.Pointing

/-!
# What a report lists

The report of values that do not agree lists all that is bound to one variable.  The values come
from earlier arguments and from the new one.  They are listed by the places in the signature at
which they are bound, and each of these places has a number.

- `Signature.Lists`: marked places and the groups of values at them, for one variable.
- `Signature.ListsClash`: the report, with what it says of these groups.
- `exists_lists`: the bindings of a variable can be listed so; `listsClash_of_rejects`: they are.
- `Curried.reports_complete`: the reports of every chain of calls.
-/

namespace CheckedCurry

namespace Ty

/-- Nothing is below a variable. -/
theorem eq_of_prefix_of_var {t : Ty} {a : TypeVar} {p q : Path} (hp : t.at? p = some (.var a))
    (hq : (t.at? q).isSome = true) (hbegins : p <+: q) : p = q := by
  induction p generalizing t q with
  | nil =>
    obtain rfl := Option.some.inj ((at?_nil t).symm.trans hp)
    cases q with
    | nil => rfl
    | cons i q => simp [at?_cons, params] at hq
  | cons i p ih =>
    obtain ⟨rest, rfl⟩ := hbegins
    rw [at?_cons] at hp
    rw [List.cons_append, at?_cons] at hq
    obtain ⟨u, hu, hp⟩ := Option.bind_eq_some_iff.mp hp
    rw [hu] at hq
    rw [List.cons_append, ← ih hp hq (List.prefix_append p rest)]

end Ty

namespace Signature

variable {s : Signature} {environment : List Ty} {slots : List Value} {index : Nat} {v : Value}
  {a : TypeVar} {paths : List Ty.Path} {spans : List Span} {groups : List (List Occurrence)}

/-- All that is bound to a variable when a value is checked, by places in the signature.  The marked
paths are those of the occurrences, each once, and their columns go from left to right, with the
variable in each of them.  The group of a path has the occurrences there, in the order in which they
are found.  All groups together have every occurrence once. -/
structure Lists [Host] (s : Signature) (slots : List Value) (index : Nat) (v : Value) (a : TypeVar)
    (paths : List Ty.Path) (spans : List Span) (groups : List (List Occurrence)) : Prop where
  marked : ∀ p, p ∈ paths ↔ ∃ o, s.Binds slots index v o ∧ o.var = a ∧ o.path = p
  different : paths.Nodup
  columns : paths.map s.span? = spans.map some
  left_to_right : spans.Pairwise fun left right => left.last < right.first
  written : ∀ span ∈ spans, span.slice s.text = a.name
  grouped : List.Forall₂ (fun p group =>
    ∀ o, o ∈ group ↔ s.Binds slots index v o ∧ o.var = a ∧ o.path = p) paths groups
  ordered : ∀ group ∈ groups, group.Pairwise fun o o' => o.place.Before o'.place
  complete : ∀ o, o ∈ groups.flatten ↔ s.Binds slots index v o ∧ o.var = a
  once : groups.flatten.Nodup

/-- The report of values that do not agree.  There are carets and numbers under the marked columns;
the values of each group are described, the groups being numbered likewise.  The values of the error
are those that are listed, and two of them have different unifiers. -/
inductive ListsClash [Host] (s : Signature) (environment : List Ty) (slots : List Value) (index : Nat)
    (v : Value) : Report → List Value → Prop
  | report {a : TypeVar} {paths : List Ty.Path} {spans : List Span}
    {groups : List (List Occurrence)} {lines : List String} {entries : List (List Report.Entry)}
    {values : List Value} (lists : s.Lists slots index v a paths spans groups)
    (shown : s.Shows spans spans lines)
    (described : List.Forall₂ (List.Forall₂ fun o entry => describe environment o.value = .ok entry)
      groups entries)
    (same : values.Perm (groups.flatten.map (·.value)))
    (differ : ∃ w ∈ values, ∃ w' ∈ values, w.unifier ≠ w'.unifier) :
    ListsClash s environment slots index v
      (.typeVariable lines (Report.entryLines entries)) values

/-! ## The columns of variables -/

/-- Places of variables lie apart. -/
theorem apart_of_vars (hpaths : paths.Pairwise (· < ·))
    (hvars : ∀ p ∈ paths, ∃ i r t, p = i :: r ∧ s.types[i]? = some t ∧ t.at? r = some (.var a)) :
    Apart paths := by
  refine hpaths.imp_of_mem fun {p q} hp hq hlt => ⟨hlt, fun hbegins => ?_⟩
  obtain ⟨i, r, t, rfl, ht, hr⟩ := hvars p hp
  obtain ⟨j, r', t', rfl, ht', hr'⟩ := hvars q hq
  obtain ⟨rfl, hinside⟩ := List.cons_prefix_cons.mp hbegins
  obtain rfl := Option.some.inj (ht.symm.trans ht')
  obtain rfl := Ty.eq_of_prefix_of_var hr (Option.isSome_of_mem hr') hinside
  exact List.lt_irrefl _ hlt

/-- Columns of paths that lie apart go from left to right. -/
theorem pairwise_spans (hapart : Apart paths) (hspans : paths.map s.span? = spans.map some) :
    spans.Pairwise fun left right => left.last < right.first := by
  have hoptions : (spans.map some).Pairwise fun l r =>
      ∀ left ∈ l, ∀ right ∈ r, left.last < right.first := by
    rw [← hspans]
    refine List.pairwise_map.mpr (hapart.imp ?_)
    intro p q ⟨hlt, hbegins⟩ left hleft right hright
    exact span?_before hlt hbegins hleft hright
  exact (List.pairwise_map.mp hoptions).imp fun h => h _ rfl _ rfl

/-! ## Groups of occurrences -/

/-- Occurrences, put into groups by the paths at which they are. -/
def groupsOf (paths : List Ty.Path) (os : List Occurrence) : List (List Occurrence) :=
  paths.map fun p => os.filter (·.path == p)

section Groups

variable {os : List Occurrence} {bs : List Ty.Binding}

/-- Occurrences that are at given paths are all in the groups of these paths. -/
theorem perm_flatten_groupsOf (hpaths : paths.Nodup) (hcovered : ∀ o ∈ os, o.path ∈ paths) :
    (groupsOf paths os).flatten.Perm os :=
  perm_flatMap_filter Occurrence.path hpaths hcovered

/-- The groups of occurrences are the groups of their bindings. -/
theorem map_binding_groupsOf :
    ((groupsOf paths os).map fun group => group.map Occurrence.binding) =
      paths.map fun p => (os.map Occurrence.binding).filter (·.path == p) := by
  rw [groupsOf, List.map_map]
  refine List.map_congr_left fun p _ => ?_
  rw [Function.comp_apply, List.filter_map]
  rfl

/-- Occurrences in one group are in the order of their places, since one path is in one slot. -/
theorem ordered_groupsOf (horder : os.Pairwise Occurrence.InOrder) :
    ∀ group ∈ groupsOf paths os, group.Pairwise fun o o' => o.place.Before o'.place := by
  intro group hgroup
  obtain ⟨p, -, rfl⟩ := List.mem_map.mp hgroup
  refine (horder.filter _).imp_of_mem fun {o o'} ho ho' hinorder => hinorder ?_
  have hpath : o.path = o'.path :=
    (eq_of_beq (List.mem_filter.mp ho).2).trans (eq_of_beq (List.mem_filter.mp ho').2).symm
  exact (List.cons.inj hpath).1

/-- All occurrences of a variable are listed by their paths. -/
theorem exists_lists [Host] (hmem : ∀ o, o ∈ os ↔ s.Binds slots index v o ∧ o.var = a)
    (horder : os.Pairwise Occurrence.InOrder) (hsorted : paths.Pairwise (· < ·))
    (hpaths : ∀ p, p ∈ paths ↔ ∃ o ∈ os, o.path = p) :
    ∃ spans, Apart paths ∧ s.Lists slots index v a paths spans (groupsOf paths os) := by
  have hvars : ∀ p ∈ paths, ∃ i r t, p = i :: r ∧ s.types[i]? = some t ∧
      t.at? r = some (.var a) := by
    intro p hp
    obtain ⟨o, ho, rfl⟩ := (hpaths p).mp hp
    obtain ⟨hbinds, rfl⟩ := (hmem o).mp ho
    obtain ⟨t, ht, hat⟩ := hbinds.at?
    exact ⟨o.slot, o.place.path, t, rfl, ht, hat⟩
  have hapart := apart_of_vars hsorted hvars
  have hdifferent := nodup_of_pairwise_lt hsorted
  obtain ⟨spans, hspans⟩ : ∃ spans : List Span, paths.map s.span? = spans.map some := by
    refine exists_map_span? fun p hp => span?_isSome_iff.mpr ?_
    obtain ⟨i, r, t, rfl, ht, hr⟩ := hvars p hp
    exact ⟨i, r, t, rfl, ht, Option.isSome_of_mem hr⟩
  have hperm := perm_flatten_groupsOf hdifferent fun o ho => (hpaths _).mpr ⟨o, ho, rfl⟩
  refine ⟨spans, hapart, fun p => ?_, hdifferent, hspans, pairwise_spans hapart hspans, ?_, ?_,
    ordered_groupsOf horder, fun o => ?_, hperm.nodup_iff.mpr (nodup_of_inOrder horder)⟩
  · rw [hpaths]
    simp only [hmem, and_assoc]
  · intro span hspan
    obtain ⟨k, hk⟩ := List.mem_iff_getElem?.mp hspan
    obtain ⟨p, hp, hpspan⟩ := exists_path_of_map_span? hspans hk
    obtain ⟨i, r, t, rfl, ht, hr⟩ := hvars p (List.mem_of_getElem? hp)
    exact (slice_of_span? ht hr hpspan).2.2
  · refine List.forall₂_map_right_iff.mpr (List.forall₂_same.mpr fun p _ o => ?_)
    rw [List.mem_filter, hmem, beq_iff_eq, and_assoc]
  · rw [hperm.mem_iff, hmem]

/-- Of gathered bindings, those of a variable are all its occurrences. -/
theorem exists_occurrences [Host] (h : Gathered (s.Binds slots index v) bs) (a : TypeVar) :
    ∃ os : List Occurrence, groupOf a bs = os.map Occurrence.binding ∧
      os.Pairwise Occurrence.InOrder ∧ ∀ o, o ∈ os ↔ s.Binds slots index v o ∧ o.var = a := by
  obtain ⟨os, hos, horder, hmem⟩ := h.filter (·.var == a)
  refine ⟨os, hos, horder, fun o => (hmem o).trans ?_⟩
  show _ ∧ (o.var == a) = true ↔ _
  rw [beq_iff_eq]

end Groups

/-! ## The report -/

/-- **Values that do not agree are all listed**, if what is filled in is accepted and the slot of the
new value is open. -/
theorem listsClash_of_rejects [Host] {group : List Ty.Binding} {entries : List (List Report.Entry)}
    (hnamed : s.AllNamed) (hcoherent : s.Coherent slots)
    (hvacant : ∀ w, slots[index]? = some w → w.isOpen = true)
    (h : s.Rejects slots index v (.clash a group))
    (hentries : ((pathsOf group).mapM fun path =>
      (group.filter (·.path == path)).mapM fun b => describe environment b.value) = .ok entries) :
    s.ListsClash environment slots index v
      (.typeVariable (s.reportLines (pathsOf group) []) (Report.entryLines entries))
      (group.map (·.value)) := by
  have hdiffer := exists_differ_of_rejects h
  cases h with
  | @clash t old new _ _ ht hmember hbound hearlier hclashes =>
    obtain ⟨-, -, -, -, -, hgroup, -, -⟩ := exists_of_firstClash? hclashes
    obtain ⟨σ, hadmits⟩ := hcoherent
    have hmembers (j : Nat) (u : Ty) (w : Value) (hu : s.types[j]? = some u)
        (hw : slots[j]? = some w) (hclosed : w.isOpen = false) : u.misfit? w = .ok none :=
      (hadmits j u w hu hw hclosed).member.bindings.1
    have hgathered := gathered_binds ht hmember hmembers hvacant hearlier hbound
    obtain ⟨os, hos, horder, hmem⟩ := exists_occurrences hgathered a
    obtain rfl : group = os.map Occurrence.binding := hgroup.trans hos
    have hpaths (p : Ty.Path) : p ∈ pathsOf (os.map Occurrence.binding) ↔ ∃ o ∈ os, o.path = p := by
      rw [mem_pathsOf]
      simp [Occurrence.binding]
    obtain ⟨spans, hapart, hlists⟩ := exists_lists hmem horder (pairwise_pathsOf _) hpaths
    have hshown := shows_reportLines hnamed hapart hlists.columns (List.forall_mem_nil _)
    refine .report hlists hshown ?_ ?_ ?_
    · have hbindings := forall₂_of_mapM_mapM hentries
      rw [← map_binding_groupsOf] at hbindings
      refine (List.forall₂_map_left_iff.mp hbindings).imp fun group entry hgroup => ?_
      exact List.forall₂_map_left_iff.mp hgroup
    · have hperm := perm_flatten_groupsOf hlists.different fun o ho => (hpaths _).mpr ⟨o, ho, rfl⟩
      rw [List.map_map]
      exact (hperm.map _).symm
    · obtain ⟨b, hb, d, hd, hne⟩ := hdiffer
      exact ⟨b.value, List.mem_map_of_mem hb, d.value, List.mem_map_of_mem hd, hne⟩

end Signature

namespace Curried

variable {s : Signature} {f : Value} {environment : List Ty} {call : Call} {mark : Nat}
  {groups : List (List Value)} {arguments values : List Value} {m m' : Machine} {report : Report}
  {name : String}

/-- **Reports of values that do not agree are complete.**  Let all names in the signature of a
checked function be written, and let a chain of calls, of which only the last one may fill all slots,
end in a type variable error.  Either the error has been raised inside the implementation, or the
chain has come to a value that does not agree with what the filled slots bind, and the report lists
all that they and the value bind to the variable. -/
theorem reports_complete [Host] (hnamed : s.AllNamed)
    (hopen : (fresh s f (some environment)).LeaveOpen groups)
    (h : Run.calls (Run.step call) ((fresh s f (some environment)).toValue mark)
      (groups ++ [arguments]) m = (.error (.typeVariable report name values), m')) :
    RaisesInside call (fresh s f (some environment)) m (groups ++ [arguments])
        (.typeVariable report name values) ∨
      (name = s.name ∧ ∃ slots index v,
        ComesTo call (fresh s f (some environment)) m (groups ++ [arguments]) slots index v ∧
        s.ListsClash environment slots index v report values) := by
  refine (raisesInside_or_rejects rfl hopen h (by simp) (by simp)).imp_right ?_
  rintro ⟨slots, index, v, r, hcomes, hrejects, hfault⟩
  obtain ⟨a, group, entries, rfl, hentries, rfl, rfl, rfl⟩ :=
    Signature.exists_clash_of_typeVariable hfault
  obtain ⟨-, hcoherent, hvacant⟩ :=
    hcomes.coherent rfl length_slots_fresh (s.coherent_placeholders s.arity)
  exact ⟨rfl, slots, index, v, hcomes,
    Signature.listsClash_of_rejects hnamed hcoherent hvacant hrejects hentries⟩

/-- The second parameter is supplied first.  The first one binds the variable at two places of a type
that is nested in an array. -/
theorem reports_complete_out_of_order : letI : Host := .bare
    let a : TypeVar := ⟨"a", .given 0⟩
    let s : Signature :=
      ⟨"f", [.array (.either (.var a) (.maybe (.var a))), .array (.var a)], .var a, []⟩
    let c := fresh s (.constant 0 (.text "x") (.fixed 2)) (some Ty.environment)
    let first : List Value := [.placeholder, .list [.bool true]]
    let second : List Value := [.list [.right (.just (.text "y")), .left (.text "x"),
      .right .nothing, .left (.bool false)]]
    let values : List Value := [.bool true, .text "y", .text "x", .bool false]
    let report := Report.typeVariable [
      "f :: Array (Either a (Maybe a)) -> Array a -> a",
      "                   ^        ^            ^",
      "                   1        2            3"]
      ["1)  \"x\" :: String", "    False :: Boolean", "2)  \"y\" :: String", "3)  True :: Boolean"]
    s.AllNamed ∧ c.LeaveOpen [first] ∧
    (∃ m', Run.calls (Run.step Run.call) (c.toValue 0) ([first] ++ [second]) (.start none) =
      (.error (.typeVariable report "f" values), m')) ∧
    ∃ slots index v, ComesTo Run.call c (.start none) ([first] ++ [second]) slots index v ∧
      s.ListsClash Ty.environment slots index v report values := by
  let _ : Host := .bare
  intro a s c first second values report
  have hnamed : s.AllNamed := by decide
  have hopen : c.LeaveOpen [first] := leaveOpen_singleton rfl
  have hfirst : c.supply? first = .ok first := by
    simp only [first, c, s, a]
    rfl
  have hsecond : ({ c with slots := first } : Curried).supply? second =
      .error ⟨some (s.clashNote a), .typeVariable report "f" values⟩ := by
    let w : Value := .list [.right (.just (.text "y")), .left (.text "x"), .right .nothing,
      .left (.bool false)]
    let group : List Ty.Binding := [⟨a, [1, 0], .bool true⟩, ⟨a, [0, 0, 1, 0], .text "y"⟩,
      ⟨a, [0, 0, 0], .text "x"⟩, ⟨a, [0, 0, 0], .bool false⟩]
    have hverdict : s.rejectionAt? first 0 w = .ok (some (.clash a group)) := by
      simp only [first, w, group, s, a]
      rfl
    have hpaths : Signature.pathsOf group = [[0, 0, 0], [0, 0, 1, 0], [1, 0]] := by
      simp [Signature.pathsOf, group, List.eraseDups_cons, Signature.pathBefore, List.mergeSort,
        List.MergeSort.Internal.splitInTwo]
    have hfault : s.clashFault Ty.environment group = .ok (.typeVariable report "f" values) := by
      rw [Signature.clashFault, hpaths]
      simp only [report, values, group, s, a]
      rfl
    refine supply?_of_rejectionAt?  rfl rfl rfl hverdict ?_
    show Checked.reject (s.clashNote a) (s.clashFault Ty.environment group) = _
    rw [hfault]
    rfl
  have hcalls : ∃ m', Run.calls (Run.step Run.call) (c.toValue 0) ([first] ++ [second])
      (.start none) = (.error (.typeVariable report "f" values), m') := by
    have hall : c.supplyAll? ([first] ++ [second]) =
        .error ⟨some (s.clashNote a), .typeVariable report "f" values⟩ := by
      have hmiddle : c.supplyAll? [first] = .ok first := by
        rw [← List.nil_append [first], supplyAll?_concat]
        exact hfirst
      simp only [supplyAll?_concat, hmiddle, bind, Except.bind, hsecond]
    obtain ⟨m', hend⟩ := Run.calls_concat_of_supplyAll?_error hopen hall 0 (.start none)
    exact ⟨m', hend Run.call⟩
  have houtside : ¬ RaisesInside Run.call c (.start none) ([first] ++ [second])
      (.typeVariable report "f" values) := by
    intro hraises
    cases hraises with
    | later supplied left rest =>
      obtain rfl := Except.ok.inj (hfirst.symm.trans supplied)
      exact not_raisesInside_of_refused (by rw [hsecond]; rfl) rest
  obtain ⟨m', hend⟩ := hcalls
  exact ⟨hnamed, hopen, ⟨m', hend⟩, ((reports_complete hnamed hopen hend).resolve_left houtside).2⟩

end Curried

end CheckedCurry
