import CheckedCurry.Proofs.Curried.Raised
import CheckedCurry.Proofs.Signature.Gathering

/-!
# What a report points at

The report of one value marks a part of the signature.  The part is found by a path: the way that a
search for misfits or bindings has gone through the type, behind the index in the signature.  The
marks are drawn at the columns that the layout has for the path.

- `Signature.PointsAtMisfit`: the report of an invalid value, with the place of the misfit.
- `Signature.PointsAtLack`: the report of a value that lacks a capability, with the place at which
  it is bound.
- `pointsAtMisfit_of_rejects`, `pointsAtLack_of_rejects`: rejections are reported so.
- `Curried.reports_pointed`: the reports of every call.
-/

namespace CheckedCurry

variable [Host]

namespace Ty

/-- Nothing inside a value that fails the test of a type is looked at. -/
theorem Reaches.eq_nil_of_fails {t u : Ty} {v w : Value} {place : Place}
    (hfails : t.test v = .ok false) (h : t.Reaches v place u w) : place = [] := by
  cases t with
  | applied c params => exact reaches_of_fails hfails h
  | _ => exact (reaches_of_no_params rfl h).1

end Ty

namespace Signature

variable {s : Signature} {environment : List Ty} {slots : List Value} {index : Nat} {v : Value}
  {report : Report}

/-! ## Reports of one value -/

/-- The report of an invalid value.  The type at the index looks at the listed value through a type
that rejects it; all that is looked at before passes, and nothing inside the listed value is looked
at.  The carets stand under this type, which the report quotes, and so does the number. -/
inductive PointsAtMisfit (s : Signature) (environment : List Ty) (index : Nat) (v : Value) :
    Report → Prop
  | report {t u : Ty} {place : Ty.Place} {w : Value} {span : Span} {lines : List String}
    {entry : Report.Entry} (type : s.types[index]? = some t) (reached : t.Reaches v place u w)
    (rejected : u.test w = .ok false)
    (first : ∀ place' u' w', t.Reaches v place' u' w' → place'.Before place →
      u'.test w' = .ok true)
    (innermost : ∀ place' u' w', u.Reaches w place' u' w' → place' = [])
    (columns : s.span? (index :: place.path) = some span) (written : span.slice s.text = u.text)
    (shown : s.Shows [span] [span] lines) (described : describe environment w = .ok entry) :
    PointsAtMisfit s environment index v
      (.invalidValue lines (Report.entryLines [[entry]]) u.text u.url?)

/-- The report of a value that lacks a capability.  The type at the index looks at the listed value
through a variable that requires the capability.  There are carets under the requirement and under
this variable, and a number under the variable. -/
inductive PointsAtLack (s : Signature) (environment : List Ty) (index : Nat) (v : Value) :
    Report → String → Value → Prop
  | report {t : Ty} {a : TypeVar} {c : Capability} {place : Ty.Place} {w : Value}
    {requirement span : Span} {lines : List String} {entry : Report.Entry}
    (type : s.types[index]? = some t) (bound : t.Reaches v place (.var a) w)
    (required : c ∈ s.required a) (lacks : c.supports w.unifier = false)
    (columns : s.span? (index :: place.path) = some span) (written : span.slice s.text = a.name)
    (requirement_columns : s.requirementSpan? a c = some requirement)
    (requirement_written : requirement.slice s.text = c.name ++ " " ++ a.name)
    (apart : requirement.last < span.first) (shown : s.Shows [requirement, span] [span] lines)
    (described : describe environment w = .ok entry) :
    PointsAtLack s environment index v
      (.typeClass lines (Report.entryLines [[entry]]) s.name a.name c.name) c.name w

/-- What is reached has columns, and they hold its type. -/
theorem exists_span?_of_reaches {t u : Ty} {place : Ty.Place} {w : Value}
    (ht : s.types[index]? = some t) (h : t.Reaches v place u w) :
    ∃ span, s.span? (index :: place.path) = some span ∧ span.slice s.text = u.text := by
  have hsome : (s.span? (index :: place.path)).isSome = true :=
    span?_isSome_iff.mpr ⟨index, place.path, t, rfl, ht, Option.isSome_of_mem h.at?⟩
  obtain ⟨span, hspan⟩ := Option.isSome_iff_exists.mp hsome
  exact ⟨span, hspan, (slice_of_span? ht h.at? hspan).2.2⟩

omit [Host] in
/-- A single part is shown with the number one. -/
theorem shows_reportLines_singleton {path : Ty.Path} {span : Span} {underlined : List Span}
    (hnamed : s.AllNamed) (hspan : s.span? path = some span)
    (hunderlined : ∀ u ∈ underlined, u.first ≤ u.last) :
    s.Shows (underlined ++ [span]) [span] (s.reportLines [path] underlined) := by
  refine shows_reportLines hnamed (List.pairwise_singleton _ _) ?_ hunderlined
  rw [List.map_singleton, List.map_singleton, hspan]

/-- A misfit is reported where it is found. -/
theorem pointsAtMisfit_of_rejects {m : Ty.Misfit} {entry : Report.Entry} (hnamed : s.AllNamed)
    (h : s.Rejects slots index v (.misfit m)) (hentry : describe environment m.value = .ok entry) :
    s.PointsAtMisfit environment index v
      (.invalidValue (s.reportLines [index :: m.path] []) (Report.entryLines [[entry]]) m.type.text
        m.type.url?) := by
  cases h with
  | misfit ht hfails =>
    obtain ⟨place, hpath, hreach, hrejected, hfirst⟩ := Ty.found_misfit? _ v (some m) hfails
    obtain ⟨span, hspan, hslice⟩ := exists_span?_of_reaches ht hreach
    have hshown : s.Shows [span] [span] (s.reportLines [index :: m.path] []) := by
      rw [← hpath]
      exact shows_reportLines_singleton hnamed hspan (List.forall_mem_nil _)
    exact .report ht hreach hrejected hfirst
      (fun place' u' w' h' => h'.eq_nil_of_fails hrejected) hspan hslice hshown hentry

omit [Host] in
/-- What is required of a variable is written as a requirement. -/
theorem mem_requirements_of_required {a : TypeVar} {c : Capability} (h : c ∈ s.required a) :
    (a, c) ∈ s.requirements := by
  rw [required] at h
  cases hlookup : s.requires.lookup a with
  | none => simp [hlookup] at h
  | some cs =>
    rw [hlookup] at h
    obtain ⟨front, rest, hsplit, -⟩ := List.lookup_eq_some_iff.mp hlookup
    refine List.mem_flatMap.mpr ⟨(a, cs), ?_, List.mem_map.mpr ⟨c, h, rfl⟩⟩
    rw [hsplit]
    simp

/-- A lack is reported where the value is bound. -/
theorem pointsAtLack_of_rejects {b : Ty.Binding} {c : Capability} {entry : Report.Entry}
    (hnamed : s.AllNamed) (h : s.Rejects slots index v (.lack b c))
    (hentry : describe environment b.value = .ok entry) :
    s.PointsAtLack environment index v
      (.typeClass (s.reportLines [b.path] (s.requirementSpan? b.var c).toList)
        (Report.entryLines [[entry]]) s.name b.var.name c.name) c.name b.value := by
  cases h with
  | lack ht hmember hbound hlack =>
    obtain ⟨before, after, had, others, rfl, -, hrequired, -, hlacks⟩ := exists_of_firstLack? hlack
    obtain ⟨os, hos, -, hmem⟩ := gathered_bindingsAt hmember hbound
    -- the binding is listed for an occurrence of its variable
    have hb : b ∈ os.map Occurrence.binding := by
      rw [← hos]
      simp
    obtain ⟨o, ho, rfl⟩ := List.mem_map.mp hb
    obtain ⟨rfl, hreach⟩ := (hmem o).mp ho
    obtain ⟨span, hspan, hslice⟩ := exists_span?_of_reaches ht hreach
    have hc : c ∈ s.required o.var := by
      show c ∈ s.required o.binding.var
      rw [hrequired]
      simp
    obtain ⟨requirement, hrequirement⟩ := Option.isSome_iff_exists.mp
      (requirementSpan?_isSome_iff.mpr (mem_requirements_of_required hc))
    obtain ⟨hvalid, -, hwritten⟩ := slice_of_requirementSpan? hrequirement
    have hbefore := requirementSpan?_before hrequirement hspan
    have hshown : s.Shows [requirement, span] [span]
        (s.reportLines [o.path] (s.requirementSpan? o.var c).toList) := by
      rw [hrequirement]
      exact shows_reportLines_singleton hnamed hspan (List.forall_mem_singleton.mpr hvalid)
    exact .report ht hreach hc hlacks hspan hslice hrequirement hwritten (by omega) hshown hentry

end Signature

namespace Curried

variable {c : Curried} {environment : List Ty} {call : Call} {mark : Nat} {arguments : List Value}
  {m m' : Machine}

/-- **Reports point at the right text.**  Let all names in the signature of a checked function be
written.  A call that ends in an invalid value error or in a type class error has come to a value
that it rejects, an argument or the result, or the error has been raised inside the implementation.

The report of an invalid value has carets under the type that it quotes, the number one under this
type, and lists the value that this type rejects.  The report of a value that lacks a capability has
carets under the requirement that it names, and carets and the number one under the occurrence of
the variable at which the listed value is bound. -/
theorem reports_pointed (henv : c.environment = some environment)
    (hnamed : c.signature.AllNamed) :
    (∀ report name index value,
      Run.step call (c.toValue mark) arguments m =
        (.error (.invalidValue report name index value), m') →
      RaisesInside call c m [arguments] (.invalidValue report name index value) ∨
      (name = c.signature.name ∧ ∃ slots, ComesTo call c m [arguments] slots index value ∧
        c.signature.PointsAtMisfit environment index value report)) ∧
    ∀ report name capability value,
      Run.step call (c.toValue mark) arguments m =
        (.error (.typeClass report name capability value), m') →
      RaisesInside call c m [arguments] (.typeClass report name capability value) ∨
      (name = c.signature.name ∧ ∃ slots index v, ComesTo call c m [arguments] slots index v ∧
        c.signature.PointsAtLack environment index v report capability value) := by
  constructor
  · intro report name index value h
    refine (raisesInside_or_rejects_of_step henv h (by simp) (by simp)).imp_right ?_
    rintro ⟨slots, i, v, r, hcomes, hrejects, hfault⟩
    obtain ⟨misfit, entry, rfl, hentry, rfl, rfl, rfl, rfl⟩ :=
      Signature.exists_misfit_of_invalidValue hfault
    exact ⟨rfl, slots, hcomes, Signature.pointsAtMisfit_of_rejects hnamed hrejects hentry⟩
  · intro report name capability value h
    refine (raisesInside_or_rejects_of_step henv h (by simp) (by simp)).imp_right ?_
    rintro ⟨slots, i, v, r, hcomes, hrejects, hfault⟩
    obtain ⟨b, lacked, entry, rfl, hentry, rfl, rfl, rfl, rfl⟩ :=
      Signature.exists_lack_of_typeClass hfault
    exact ⟨rfl, slots, i, v, hcomes, Signature.pointsAtLack_of_rejects hnamed hrejects hentry⟩

omit [Host] in
/-- The content of an optional value, which is the result, and an element of an array in an array,
which is the argument. -/
theorem reports_pointed_inside : letI : Host := .bare
    let a : TypeVar := ⟨"a", .given 0⟩
    let s : Signature := ⟨"f", [.array (.array (.var a))], .maybe .integer,
      [(a, [.ofOperation .equals, .ofOperation .toBoolean])]⟩
    let c := fresh s (.constant 0 (.just (.text "x")) (.fixed 1)) (some Ty.environment)
    let member : Value := .list [.list [.bool true]]
    let lacking : Value := .list [.list [.list [], .text "x"]]
    let entries := Report.entryLines [[⟨"\"x\"", ["String"]⟩]]
    let invalid := Report.invalidValue [
      "f :: (equals a, to_boolean a) => Array (Array a) -> Maybe Integer",
      "                                                          ^^^^^^^",
      "                                                             1"] entries "Integer" none
    let unsupported := Report.typeClass [
      "f :: (equals a, to_boolean a) => Array (Array a) -> Maybe Integer",
      "                ^^^^^^^^^^^^                  ^",
      "                                              1"] entries "f" "a" "to_boolean"
    s.AllNamed ∧
    (Run.step Run.call (c.toValue 0) [member] (.start none) =
        (.error (.invalidValue invalid "f" 1 (.just (.text "x"))), .start none) ∧
      ∃ slots, ComesTo Run.call c (.start none) [[member]] slots 1 (.just (.text "x")) ∧
        s.PointsAtMisfit Ty.environment 1 (.just (.text "x")) invalid) ∧
    Run.step Run.call (c.toValue 0) [lacking] (.start none) =
        (.error (.typeClass unsupported "f" "to_boolean" (.text "x")), .start none) ∧
      ∃ slots index v, ComesTo Run.call c (.start none) [[lacking]] slots index v ∧
        s.PointsAtLack Ty.environment index v unsupported "to_boolean" (.text "x") := by
  let _ : Host := .bare
  intro a s c member lacking entries invalid unsupported
  have hnamed : s.AllNamed := by decide
  have hinvalid : Run.step Run.call (c.toValue 0) [member] (.start none) =
      (.error (.invalidValue invalid "f" 1 (.just (.text "x"))), .start none) := by
    simp only [invalid, entries, member, c, s, a]
    rfl
  have hunsupported : Run.step Run.call (c.toValue 0) [lacking] (.start none) =
      (.error (.typeClass unsupported "f" "to_boolean" (.text "x")), .start none) := by
    simp only [unsupported, entries, lacking, c, s, a]
    rfl
  refine ⟨hnamed, ⟨hinvalid, ?_⟩, hunsupported, ?_⟩
  · -- the implementation answers, and its answer is rejected
    have houtside : ¬ RaisesInside Run.call c (.start none) [[member]]
        (.invalidValue invalid "f" 1 (.just (.text "x"))) := by
      rw [raisesInside_singleton_iff]
      rintro ⟨slots, m₁, hs, -, hraises⟩
      have hslots : c.supply? [member] = .ok [member] := by rfl
      obtain rfl := Except.ok.inj (hslots.symm.trans hs)
      cases hraises
    exact (((reports_pointed rfl hnamed).1 _ _ _ _ hinvalid).resolve_left houtside).2
  · have hrefused : (c.supply? [lacking]).isOk = false := by rfl
    exact (((reports_pointed rfl hnamed).2 _ _ _ _ hunsupported).resolve_left
      (not_raisesInside_of_refused hrefused)).2

end Curried

end CheckedCurry
