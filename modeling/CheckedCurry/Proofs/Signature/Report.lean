import CheckedCurry.Proofs.Signature.Faults
import CheckedCurry.Proofs.Signature.Markers
import CheckedCurry.Proofs.Signature.Rejection
import CheckedCurry.Proofs.Signature.Verdict

/-!
# What a report is put together from

A check that ends in a fault with a report has rejected a value, and the report is put together from
what the verdict carries: a misfit, a bound value and a capability, or the bindings of a variable.
So all that a report says can be traced back to the value.

- `Signature.Rejects`: the verdicts on a value, with the steps of the check that lead to them.
- `Signature.rejectionFault`: the fault that a rejection is reported with.
- `exists_rejects_of_checkArgument`: a check ends in such a fault, unless a basic operation fails.
- `exists_misfit_of_invalidValue`, `exists_lack_of_typeClass`, `exists_clash_of_typeVariable`: which
  rejection the fault is about, and what its report holds.
- `Signature.Shows`: the lines of a report; `shows_reportLines`: where they have their markers.
-/

namespace CheckedCurry.Signature

variable [Host]

open Attempt

variable {s : Signature} {environment : List Ty} {slots : List Value} {index : Nat} {v : Value}
  {r : Rejection} {p : Problem} {report : Report} {name : String}

/-! ## Verdicts and the steps to them -/

/-- A check of the value at an index comes to a rejection: the value has a misfit; or it is a member
and a value that it binds lacks a capability; or the values of a variable that it binds do not agree
with each other and with those in the slots. -/
inductive Rejects (s : Signature) (slots : List Value) (index : Nat) (v : Value) : Rejection → Prop
  | misfit {t : Ty} {m : Ty.Misfit} (type : s.types[index]? = some t)
      (fails : t.misfit? v = .ok (some m)) : Rejects s slots index v (.misfit m)
  | lack {t : Ty} {new : List Ty.Binding} {b : Ty.Binding} {c : Capability}
      (type : s.types[index]? = some t) (member : t.misfit? v = .ok none)
      (bound : bindingsAt index t v = .ok new) (lacks : s.firstLack? new = some (b, c)) :
      Rejects s slots index v (.lack b c)
  | clash {t : Ty} {old new : List Ty.Binding} {a : TypeVar} {group : List Ty.Binding}
      (type : s.types[index]? = some t) (member : t.misfit? v = .ok none)
      (bound : bindingsAt index t v = .ok new)
      (earlier : filledBindings index 0 s.types slots = .ok old)
      (clashes : firstClash? old new = some (a, group)) : Rejects s slots index v (.clash a group)

/-- The steps to a verdict on a member. -/
theorem rejects_of_rejectionOfBound? {t : Ty} {new : List Ty.Binding}
    (type : s.types[index]? = some t) (member : t.misfit? v = .ok none)
    (bound : bindingsAt index t v = .ok new)
    (h : s.rejectionOfBound? slots index new = .ok (some r)) : s.Rejects slots index v r := by
  unfold rejectionOfBound? at h
  split at h
  · next b c hlack =>
    obtain rfl := Option.some.inj (Except.ok.inj h)
    exact .lack type member bound hlack
  · split at h
    · cases h
    · obtain ⟨old, hold, h⟩ := bind_eq_ok.mp h
      obtain ⟨⟨a, group⟩, hclash, rfl⟩ := Option.map_eq_some_iff.mp (Except.ok.inj h)
      exact .clash type member bound hold hclash

theorem rejects_of_rejectionAt? (h : s.rejectionAt? slots index v = .ok (some r)) :
    s.Rejects slots index v r := by
  unfold rejectionAt? at h
  split at h
  · next t ht =>
    obtain ⟨answer, hanswer, h⟩ := bind_eq_ok.mp h
    cases answer with
    | some m =>
      obtain rfl := Option.some.inj (Except.ok.inj h)
      exact .misfit ht hanswer
    | none =>
      obtain ⟨new, hnew, h⟩ := bind_eq_ok.mp h
      exact rejects_of_rejectionOfBound? ht hanswer hnew h
  · cases h

/-- Of the values of a variable that do not agree, two have different unifiers. -/
theorem exists_differ_of_rejects {a : TypeVar} {group : List Ty.Binding}
    (h : s.Rejects slots index v (.clash a group)) :
    ∃ b ∈ group, ∃ d ∈ group, b.value.unifier ≠ d.value.unifier := by
  cases h with
  | clash type member bound earlier clashes =>
    obtain ⟨-, -, -, -, -, rfl, -, hclash⟩ := exists_of_firstClash? clashes
    rw [← agree_groupOf_iff, agree_iff] at hclash
    simpa [eq_comm] using hclash

/-! ## From a fault to its rejection -/

/-- The fault that a rejection is reported with. -/
def rejectionFault (s : Signature) (environment : List Ty) (index : Nat) (v : Value) :
    Rejection → Attempt (Fault Value)
  | .misfit m => s.misfitFault environment index v m
  | .lack b c => s.lackFault environment b c
  | .clash _ group => s.clashFault environment group

theorem isBasic_rejectionAt? (s : Signature) (slots : List Value) (index : Nat) (v : Value) :
    (s.rejectionAt? slots index v).IsBasic := by
  unfold rejectionAt?
  split
  · refine (Ty.isBasic_misfit? _ v).bind fun answer => ?_
    cases answer with
    | some m => exact isBasic_ok _
    | none =>
      refine (isBasic_bindingsAt index _ v).bind fun new => ?_
      unfold rejectionOfBound?
      split
      · exact isBasic_ok _
      · exact isBasic_ite (isBasic_ok _) ((isBasic_filledBindings index slots 0 s.types).map _)
  · exact isBasic_fail _

omit [Host] in
/-- A rejection ends a check in the fault that is put together, unless a basic operation fails on the
way. -/
theorem eq_ok_of_reject {note : String} {x : Attempt (Fault Value)} (hx : x.IsBasic)
    (h : (Checked.reject note x : Checked Unit) = .error p)
    (hp : ∀ cause, p.fault ≠ .basic cause) : x = .ok p.fault := by
  cases x with
  | ok f =>
    obtain rfl := Except.error.inj h
    rfl
  | error f =>
    obtain ⟨cause, rfl⟩ := hx f rfl
    obtain rfl := Except.error.inj h
    exact absurd rfl (hp cause)

/-- The value that a note is about can be shown, unless that is the basic operation that fails. -/
theorem exists_shown_of_error {w : Value} {k : String → Checked Unit}
    (h : (Checked.ofAttempt w.display >>= k) = .error p)
    (hp : ∀ cause, p.fault ≠ .basic cause) : ∃ shown, k shown = .error p := by
  cases hw : w.display with
  | ok shown => exact ⟨shown, by rwa [hw] at h⟩
  | error f =>
    obtain ⟨cause, rfl⟩ := Value.isBasic_display w f hw
    rw [hw] at h
    obtain rfl := Except.error.inj h
    exact absurd rfl (hp cause)

theorem rejectionFault_of_report (h : s.report environment index v r = .error p)
    (hp : ∀ cause, p.fault ≠ .basic cause) :
    s.rejectionFault environment index v r = .ok p.fault := by
  cases r with
  | misfit m =>
    obtain ⟨shown, h⟩ := exists_shown_of_error h hp
    exact eq_ok_of_reject (isBasic_misfitFault s environment index v m) h hp
  | lack b c =>
    obtain ⟨shown, h⟩ := exists_shown_of_error h hp
    exact eq_ok_of_reject (isBasic_lackFault s environment b c) h hp
  | clash a group => exact eq_ok_of_reject (isBasic_clashFault s environment group) h hp

/-- **A check that does not pass reports a rejection**, unless a basic operation fails. -/
theorem exists_rejects_of_checkArgument
    (h : s.checkArgument environment slots index v = .error p)
    (hp : ∀ cause, p.fault ≠ .basic cause) :
    ∃ r, s.Rejects slots index v r ∧ s.rejectionFault environment index v r = .ok p.fault := by
  rw [checkArgument_eq] at h
  cases hverdict : s.rejectionAt? slots index v with
  | error f =>
    obtain ⟨cause, rfl⟩ := s.isBasic_rejectionAt? slots index v f hverdict
    rw [hverdict] at h
    obtain rfl := Except.error.inj h
    exact absurd rfl (hp cause)
  | ok answer =>
    rw [hverdict] at h
    cases answer with
    | none => cases h
    | some r => exact ⟨r, rejects_of_rejectionAt? hverdict, rejectionFault_of_report h hp⟩

/-! ## What the reports hold -/

/-- A misfit is reported as an inaccessible value, or as an invalid one. -/
theorem eq_of_misfitFault {m : Ty.Misfit} {fault : Fault Value}
    (h : s.misfitFault environment index v m = .ok fault) :
    fault = .accessibility s.name index ∨ ∃ entry, describe environment m.value = .ok entry ∧
      fault = .invalidValue (.invalidValue (s.reportLines [index :: m.path] [])
        (Report.entryLines [[entry]]) m.type.text m.type.url?) s.name index v := by
  unfold misfitFault at h
  split at h
  · exact .inl (Except.ok.inj h).symm
  · obtain ⟨entry, hentry, h⟩ := bind_eq_ok.mp h
    exact .inr ⟨entry, hentry, (Except.ok.inj h).symm⟩

theorem eq_of_lackFault {b : Ty.Binding} {c : Capability} {fault : Fault Value}
    (h : s.lackFault environment b c = .ok fault) :
    ∃ entry, describe environment b.value = .ok entry ∧
      fault = .typeClass (.typeClass (s.reportLines [b.path] (s.requirementSpan? b.var c).toList)
        (Report.entryLines [[entry]]) s.name b.var.name c.name) s.name c.name b.value := by
  obtain ⟨entry, hentry, h⟩ := bind_eq_ok.mp h
  exact ⟨entry, hentry, (Except.ok.inj h).symm⟩

theorem eq_of_clashFault {group : List Ty.Binding} {fault : Fault Value}
    (h : s.clashFault environment group = .ok fault) :
    ∃ entries, ((pathsOf group).mapM fun path =>
        (group.filter (·.path == path)).mapM fun b => describe environment b.value) = .ok entries ∧
      fault = .typeVariable (.typeVariable (s.reportLines (pathsOf group) [])
        (Report.entryLines entries)) s.name (group.map (·.value)) := by
  obtain ⟨entries, hentries, h⟩ := bind_eq_ok.mp h
  exact ⟨entries, hentries, (Except.ok.inj h).symm⟩

/-- An invalid value is reported for a misfit. -/
theorem exists_misfit_of_invalidValue {i : Nat} {w : Value}
    (h : s.rejectionFault environment index v r = .ok (.invalidValue report name i w)) :
    ∃ m entry, r = .misfit m ∧ describe environment m.value = .ok entry ∧
      report = .invalidValue (s.reportLines [index :: m.path] []) (Report.entryLines [[entry]])
        m.type.text m.type.url? ∧ name = s.name ∧ i = index ∧ w = v := by
  cases r with
  | misfit m =>
    rcases eq_of_misfitFault h with heq | ⟨entry, hentry, heq⟩
    · cases heq
    · obtain ⟨rfl, rfl, rfl, rfl⟩ := Fault.invalidValue.inj heq
      exact ⟨m, entry, rfl, hentry, rfl, rfl, rfl, rfl⟩
  | lack b c =>
    obtain ⟨entry, -, heq⟩ := eq_of_lackFault h
    cases heq
  | clash a group =>
    obtain ⟨entries, -, heq⟩ := eq_of_clashFault h
    cases heq

/-- A type class error is reported for a bound value that lacks a capability. -/
theorem exists_lack_of_typeClass {capability : String} {w : Value}
    (h : s.rejectionFault environment index v r = .ok (.typeClass report name capability w)) :
    ∃ b c entry, r = .lack b c ∧ describe environment b.value = .ok entry ∧
      report = .typeClass (s.reportLines [b.path] (s.requirementSpan? b.var c).toList)
        (Report.entryLines [[entry]]) s.name b.var.name c.name ∧
      name = s.name ∧ capability = c.name ∧ w = b.value := by
  cases r with
  | misfit m =>
    rcases eq_of_misfitFault h with heq | ⟨entry, -, heq⟩ <;> cases heq
  | lack b c =>
    obtain ⟨entry, hentry, heq⟩ := eq_of_lackFault h
    obtain ⟨rfl, rfl, rfl, rfl⟩ := Fault.typeClass.inj heq
    exact ⟨b, c, entry, rfl, hentry, rfl, rfl, rfl, rfl⟩
  | clash a group =>
    obtain ⟨entries, -, heq⟩ := eq_of_clashFault h
    cases heq

/-- A type variable error is reported for the bindings of a variable that do not agree. -/
theorem exists_clash_of_typeVariable {values : List Value}
    (h : s.rejectionFault environment index v r = .ok (.typeVariable report name values)) :
    ∃ a group entries, r = .clash a group ∧
      ((pathsOf group).mapM fun path =>
        (group.filter (·.path == path)).mapM fun b => describe environment b.value) = .ok entries ∧
      report = .typeVariable (s.reportLines (pathsOf group) []) (Report.entryLines entries) ∧
      name = s.name ∧ values = group.map (·.value) := by
  cases r with
  | misfit m =>
    rcases eq_of_misfitFault h with heq | ⟨entry, -, heq⟩ <;> cases heq
  | lack b c =>
    obtain ⟨entry, -, heq⟩ := eq_of_lackFault h
    cases heq
  | clash a group =>
    obtain ⟨entries, hentries, heq⟩ := eq_of_clashFault h
    obtain ⟨rfl, rfl, rfl⟩ := Fault.typeVariable.inj heq
    exact ⟨a, group, entries, rfl, hentries, rfl, rfl, rfl⟩

/-! ## Where the lines have their markers -/

open Line (Underlines Numbered labelSpan labelColumn)

/-- Three lines show a signature with carets under spans and numbers, counted from one, under some
of them.  Every number begins under its span, and up to ninety-nine of them are read whole. -/
inductive Shows (s : Signature) (underlined numbered : List Span) : List String → Prop
  | lines (carets labels : Line) (underlines : Underlines carets underlined)
      (numbers : Numbered labels numbered)
      (under : ∀ u ∈ numbered, u.Covers (labelColumn u))
      (whole : numbered.length ≤ 99 → ∀ k u, numbered[k]? = some u →
        (labelSpan u (k + 1)).slice (String.ofList labels) = toString (k + 1)) :
      Shows s underlined numbered [s.text, String.ofList carets, String.ofList labels]

omit [Host] in
/-- The lines of a report number the parts at paths that lie apart. -/
theorem shows_reportLines {paths : List Ty.Path} {spans underlined : List Span}
    (hnamed : s.AllNamed) (hapart : Apart paths) (hspans : paths.map s.span? = spans.map some)
    (hunderlined : ∀ u ∈ underlined, u.first ≤ u.last) :
    s.Shows (underlined ++ spans) spans (s.reportLines paths underlined) := by
  have hlength : paths.length = spans.length := by
    simpa using congrArg List.length hspans
  have hnumbers := Line.numbered_labels spans
  rw [reportLines, marked?_eq underlined hspans, Option.getD_some]
  refine .lines _ _ (underlines_marked hspans hunderlined) hnumbers (fun u hu => ?_)
    fun hmany k u hu => whole_of_apart hnamed (hlength ▸ hmany) hapart hspans hnumbers hu
  obtain ⟨k, hk⟩ := List.mem_iff_getElem?.mp hu
  obtain ⟨path, -, hpath⟩ := exists_path_of_map_span? hspans hk
  exact Line.covers_labelColumn (hnamed.span?_pos hpath)

end CheckedCurry.Signature
