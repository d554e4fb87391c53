import CheckedCurry.Proofs.Curried.Pointing
import CheckedCurry.Proofs.Ty.Unifying

/-!
# What the closing sentence says

The report of values that do not agree closes by saying that there is no type of which all of them
are members.  The check has compared their unifiers, and has looked at no type.

- `Signature.HasNothingInCommon`: the closing sentence, and what the report says before it.
- `hasNothingInCommon_of_rejects`: the sentence is true of values that do not agree.
- `Curried.closing_sentence_true`: the reports of every call.
-/

namespace CheckedCurry

variable [Host]

namespace Signature

variable {s : Signature} {environment : List Ty} {slots : List Value} {index : Nat} {v : Value}
  {a : TypeVar} {group : List Ty.Binding} {entries : List (List Report.Entry)}

/-- The report of values that have nothing in common.  All values of the error are listed and
described.  No type of the environment has all of them as members, and no name is written behind
every one of them. -/
inductive HasNothingInCommon (environment : List Ty) : Report → List Value → Prop
  | report {lines : List String} {groups : List (List Value)} {entries : List (List Report.Entry)}
    {values : List Value} (listed : groups.flatten.Perm values)
    (described : List.Forall₂ (List.Forall₂ fun w entry => describe environment w = .ok entry)
      groups entries)
    (no_type : ¬ ∃ t ∈ environment, ∀ w ∈ values, t.isMember w = .ok true)
    (no_name : ¬ ∃ name, ∀ entry ∈ entries.flatten, name ∈ entry.names) :
    HasNothingInCommon environment (.typeVariable lines (Report.entryLines entries)) values

theorem names_of_describe {entry : Report.Entry} (h : describe environment v = .ok entry) :
    Ty.names environment v = .ok entry.names := by
  obtain ⟨shown, -, h⟩ := bind_eq_ok.mp h
  obtain ⟨names, hnames, h⟩ := bind_eq_ok.mp h
  obtain rfl := Except.ok.inj h
  exact hnames

/-- Each bound value has its entry. -/
theorem exists_entry_of_mem (hentries : ((pathsOf group).mapM fun path =>
      (group.filter (·.path == path)).mapM fun b => describe environment b.value) = .ok entries)
    {b : Ty.Binding} (hb : b ∈ group) :
    ∃ entry ∈ entries.flatten, describe environment b.value = .ok entry := by
  obtain ⟨own, hown, hmapM⟩ := exists_of_mapM_eq_ok hentries (mem_pathsOf.mpr ⟨b, hb, rfl⟩)
  obtain ⟨entry, hentry, hdescribe⟩ :=
    exists_of_mapM_eq_ok hmapM (List.mem_filter.mpr ⟨hb, beq_self_eq_true _⟩)
  exact ⟨entry, List.mem_flatten_of_mem hown hentry, hdescribe⟩

/-- **Values that do not agree have nothing in common**, if each type of the environment has members
of one unifier only and its names can be told apart. -/
theorem hasNothingInCommon_of_rejects (hunifying : Ty.IsUnifying environment)
    (hreadable : Ty.Readable environment) (h : s.Rejects slots index v (.clash a group))
    (hentries : ((pathsOf group).mapM fun path =>
      (group.filter (·.path == path)).mapM fun b => describe environment b.value) = .ok entries) :
    HasNothingInCommon environment
      (.typeVariable (s.reportLines (pathsOf group) []) (Report.entryLines entries))
      (group.map (·.value)) := by
  obtain ⟨b, hb, d, hd, hdiffer⟩ := exists_differ_of_rejects h
  have hperm := perm_flatMap_filter Ty.Binding.path (nodup_of_pairwise_lt (pairwise_pathsOf group))
    fun b hb => mem_pathsOf.mpr ⟨b, hb, rfl⟩
  have hlisted : ((pathsOf group).map fun path =>
      (group.filter (·.path == path)).map (·.value)).flatten.Perm (group.map (·.value)) := by
    show ((pathsOf group).flatMap fun path => (group.filter (·.path == path)).map (·.value)).Perm _
    rw [← List.map_flatMap]
    exact hperm.map _
  refine .report hlisted ?_ ?_ ?_
  · have hdescribed := forall₂_of_mapM_mapM hentries
    rw [List.forall₂_map_left_iff] at hdescribed ⊢
    exact hdescribed.imp fun path own hown => List.forall₂_map_left_iff.mpr hown
  · rintro ⟨t, ht, hmembers⟩
    have hmember {b : Ty.Binding} (hb : b ∈ group) : t.isMember b.value = .ok true :=
      hmembers b.value (List.mem_map_of_mem hb)
    exact hdiffer (hunifying.eq_of_isMember ht (hmember hb) (hmember hd))
  · rintro ⟨name, hall⟩
    obtain ⟨entry, hentry, hdescribe⟩ := exists_entry_of_mem hentries hb
    obtain ⟨entry', hentry', hdescribe'⟩ := exists_entry_of_mem hentries hd
    exact hdiffer (hunifying.eq_of_mem_names hreadable (names_of_describe hdescribe)
      (names_of_describe hdescribe') (hall entry hentry) (hall entry' hentry'))

end Signature

namespace Curried

/-- **The closing sentence is true.**  Let a call of a function that is checked with the standard
environment end in a type variable error.  Either the error has been raised inside the
implementation, or the call has come to a value that it rejects, and what is listed has nothing in
common: no type of the environment has all values as members, and no name is written behind all.

Conversely, values with one unifier have a type of the environment in common, if the only
identifiers that they declare are those of optional values and of failures and successes. -/
theorem closing_sentence_true :
    (∀ (c : Curried) (call : Call) (mark : Nat) (arguments values : List Value) (m m' : Machine)
      (report : Report) (name : String), c.environment = some Ty.environment →
      Run.step call (c.toValue mark) arguments m =
        (.error (.typeVariable report name values), m') →
      RaisesInside call c m [arguments] (.typeVariable report name values) ∨
      (∃ slots index v, ComesTo call c m [arguments] slots index v) ∧
        Signature.HasNothingInCommon Ty.environment report values) ∧
    ∀ v w : Value, (v.identifier? ≠ none → v.IsTagged) → (w.identifier? ≠ none → w.IsTagged) →
      v.unifier = w.unifier →
      ∃ t ∈ Ty.environment, t.isMember v = .ok true ∧ t.isMember w = .ok true := by
  constructor
  · intro c call mark arguments values m m' report name henv h
    refine (raisesInside_or_rejects_of_step henv h (by simp) (by simp)).imp_right ?_
    rintro ⟨slots, index, v, r, hcomes, hrejects, hfault⟩
    obtain ⟨a, group, entries, rfl, hentries, rfl, -, rfl⟩ :=
      Signature.exists_clash_of_typeVariable hfault
    exact ⟨⟨slots, index, v, hcomes⟩, Signature.hasNothingInCommon_of_rejects
      Ty.isUnifying_environment Ty.readable_environment hrejects hentries⟩
  · intro v w hv hw h
    exact Ty.exists_type_of_unifier_eq hv hw h

omit [Host] in
/-- An array of strings, a string and an optional string have nothing in common; two arrays have,
whatever is inside. -/
theorem closing_sentence_true_nested : letI : Host := .bare
    let a : TypeVar := ⟨"a", .given 0⟩
    let s : Signature := ⟨"f", [.array (.var a)], .var a, []⟩
    let c := fresh s (.constant 0 (.text "x") (.fixed 1)) (some Ty.environment)
    let values : List Value := [.list [.text "x"], .text "x", .just (.text "x")]
    let report := Report.typeVariable ["f :: Array a -> a", "           ^", "           1"]
      ["1)  [\"x\"] :: Array String", "    \"x\" :: String", "    Just(\"x\") :: Maybe String"]
    (∃ m', Run.step Run.call (c.toValue 0) [.list values] (.start none) =
      (.error (.typeVariable report "f" values), m')) ∧
    Signature.HasNothingInCommon Ty.environment report values ∧
    ∃ t ∈ Ty.environment, t.isMember (.list [.text "x"]) = .ok true ∧
      t.isMember (.tuple [.bool true, .nothing]) = .ok true := by
  let _ : Host := .bare
  intro a s c values report
  let group : List Ty.Binding := values.map fun w => ⟨a, [0, 0], w⟩
  have hverdict : s.rejectionAt? c.slots 0 (.list values) = .ok (some (.clash a group)) := by
    simp only [group, values, c, s, a]
    rfl
  have hpaths : Signature.pathsOf group = [[0, 0]] := by
    simp [Signature.pathsOf, group, values, List.eraseDups_cons]
  have hfault : s.clashFault Ty.environment group = .ok (.typeVariable report "f" values) := by
    rw [Signature.clashFault, hpaths]
    simp only [report, values, group, s, a]
    rfl
  have hsupply : c.supply? [.list values] =
      .error ⟨some (s.clashNote a), .typeVariable report "f" values⟩ := by
    refine supply?_of_rejectionAt? rfl rfl rfl hverdict ?_
    show Checked.reject (s.clashNote a) (s.clashFault Ty.environment group) = _
    rw [hfault]
    rfl
  obtain ⟨m', hend, -⟩ := Run.ofChecked_error (α := Value)
    ⟨some (s.clashNote a), .typeVariable report "f" values⟩ (.start none)
  have hstep : Run.step Run.call (c.toValue 0) [.list values] (.start none) =
      (.error (.typeVariable report "f" values), m') := by
    rw [Run.step_toValue, Run.invoke_error hsupply, hend]
  have houtside : ¬ RaisesInside Run.call c (.start none) [[.list values]]
      (.typeVariable report "f" values) := by
    refine not_raisesInside_of_refused ?_
    rw [hsupply]
    rfl
  obtain ⟨hreports, hunify⟩ := closing_sentence_true
  refine ⟨⟨m', hstep⟩, ((hreports c _ _ _ _ _ _ _ _ rfl hstep).resolve_left houtside).2, ?_⟩
  exact hunify (.list [.text "x"]) (.tuple [.bool true, .nothing]) (fun h => absurd rfl h)
    (fun h => absurd rfl h) rfl

end Curried

end CheckedCurry
