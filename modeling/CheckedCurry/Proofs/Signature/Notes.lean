import CheckedCurry.Proofs.Curried.Reported
import CheckedCurry.Proofs.Signature.Report

/-!
# The notes of rejections

A check that rejects a value makes a note before its fault is put together.  The note names the
signature.  A check that passes makes none, and neither does a check that stops in a basic
operation, as long as the values that a report would show can be described.

- `Signature.NamedIn`: a note with the line of the signature in it.
- `Signature.report_cases`: the ends of a report.
- `Signature.exists_note_of_isRejection`: a rejection has a note that names the signature.
- `Signature.isRejection_of_note`: a note is that of a rejection.
-/

namespace CheckedCurry

open Attempt

/-- A basic operation that fails is no rejection. -/
theorem Fault.not_isRejection_basic (cause : Cause) : ¬ Fault.IsRejection (.basic cause) := by
  show cause.errorClass ∉ _
  unfold Cause.errorClass
  split <;> decide

namespace Signature

variable {s : Signature} {environment : List Ty} {slots : List Value} {index : Nat} {v : Value}
  {r : Rejection} {p : Problem}

/-! ## Notes -/

/-- The line of a signature is part of a note. -/
def NamedIn (s : Signature) (note : String) : Prop :=
  ∃ before after, note = before ++ s.text ++ after

theorem namedIn_misfitNote (s : Signature) (index : Nat) (shown : String) :
    s.NamedIn (s.misfitNote index shown) := ⟨_, "", String.append_empty.symm⟩

theorem namedIn_lackNote (s : Signature) (c : Capability) (shown : String) :
    s.NamedIn (s.lackNote c shown) := ⟨_, "", String.append_empty.symm⟩

theorem namedIn_clashNote (s : Signature) (a : TypeVar) : s.NamedIn (s.clashNote a) :=
  ⟨_, _, rfl⟩

/-! ## Faults of reports -/

/-- The values that the report of a rejection shows can be described. -/
def Rejection.IsDescribed [Host] (r : Rejection) (environment : List Ty) : Prop :=
  ∀ w ∈ r.described, (describe environment w).Answers

variable [Host]

theorem isRejection_of_rejectionFault {f : Fault Value}
    (h : s.rejectionFault environment index v r = .ok f) : f.IsRejection := by
  cases r with
  | misfit m =>
    rcases eq_of_misfitFault h with rfl | ⟨entry, -, rfl⟩ <;>
      simp [Fault.IsRejection, Fault.errorClass]
  | lack b c =>
    obtain ⟨entry, -, rfl⟩ := eq_of_lackFault h
    simp [Fault.IsRejection, Fault.errorClass]
  | clash a group =>
    obtain ⟨entries, -, rfl⟩ := eq_of_clashFault h
    simp [Fault.IsRejection, Fault.errorClass]

/-- What can be described can be reported. -/
theorem answers_rejectionFault (s : Signature) (index : Nat) (v : Value)
    (h : r.IsDescribed environment) : (s.rejectionFault environment index v r).Answers := by
  cases r with
  | misfit m =>
    show (s.misfitFault environment index v m).Answers
    unfold misfitFault
    split
    · exact answers_ok _
    · exact (h m.value (List.mem_singleton.mpr rfl)).map _
  | lack b c => exact (h b.value (List.mem_singleton.mpr rfl)).map _
  | clash a group =>
    refine Answers.map (answers_mapM fun path _ => answers_mapM fun b hb => ?_) _
    exact h b.value (List.mem_map_of_mem (List.mem_filter.mp hb).1)

omit [Host] in
/-- A rejection ends a check with its note. -/
theorem eq_of_reject {note : String} {x : Attempt (Fault Value)}
    (h : (Checked.reject note x : Checked Unit) = .error p) :
    p.note = some note ∧ ∀ f, x = .ok f → p.fault = f := by
  cases x with
  | ok f =>
    obtain rfl := Except.error.inj h
    exact ⟨rfl, fun g hg => Except.ok.inj hg⟩
  | error f =>
    obtain rfl := Except.error.inj h
    exact ⟨rfl, fun g hg => (by cases hg)⟩

/-- A report ends in a basic operation, without a note, because the value of the note cannot be
shown; or it makes its note, and then ends in the fault of the rejection if that can be put
together. -/
theorem report_cases (h : s.report environment index v r = .error p) :
    (p.note = none ∧ ∃ cause, p.fault = .basic cause) ∨
      (∃ note, p.note = some note ∧ s.NamedIn note) ∧
        ∀ f, s.rejectionFault environment index v r = .ok f → p.fault = f := by
  -- two notes show a value, which may fail
  have hshown {w : Value} {note : String → String} (hnote : ∀ shown, s.NamedIn (note shown))
      {x : Attempt (Fault Value)}
      (h : (Checked.ofAttempt w.display >>= fun shown => Checked.reject (note shown) x :
        Checked Unit) = .error p) :
      (p.note = none ∧ ∃ cause, p.fault = .basic cause) ∨
        (∃ note, p.note = some note ∧ s.NamedIn note) ∧ ∀ f, x = .ok f → p.fault = f := by
    cases hw : w.display with
    | error f =>
      obtain ⟨cause, rfl⟩ := Value.isBasic_display w f hw
      rw [hw] at h
      obtain rfl := Except.error.inj h
      exact .inl ⟨rfl, cause, rfl⟩
    | ok shown =>
      rw [hw] at h
      obtain ⟨heq, hfault⟩ := eq_of_reject h
      exact .inr ⟨⟨_, heq, hnote shown⟩, hfault⟩
  cases r with
  | misfit m => exact hshown (s.namedIn_misfitNote index) h
  | lack b c => exact hshown (s.namedIn_lackNote c) h
  | clash a group =>
    obtain ⟨heq, hfault⟩ := eq_of_reject h
    exact .inr ⟨⟨_, heq, s.namedIn_clashNote a⟩, hfault⟩

/-! ## Notes of checks -/

/-- A check that does not pass has no verdict, or it reports a rejection. -/
theorem basic_or_report (h : s.checkArgument environment slots index v = .error p) :
    (p.note = none ∧ ∃ cause, p.fault = .basic cause) ∨
      ∃ r, s.rejectionAt? slots index v = .ok (some r) ∧
        s.report environment index v r = .error p := by
  rw [checkArgument_eq] at h
  cases hverdict : s.rejectionAt? slots index v with
  | error f =>
    obtain ⟨cause, rfl⟩ := s.isBasic_rejectionAt? slots index v f hverdict
    rw [hverdict] at h
    obtain rfl := Except.error.inj h
    exact .inl ⟨rfl, cause, rfl⟩
  | ok answer =>
    rw [hverdict] at h
    cases answer with
    | none => cases h
    | some r => exact .inr ⟨r, rfl, h⟩

/-- **A rejection has a note**, which names the signature. -/
theorem exists_note_of_isRejection (h : s.checkArgument environment slots index v = .error p)
    (hp : p.fault.IsRejection) : ∃ note, p.note = some note ∧ s.NamedIn note := by
  have hbasic : ¬ ∃ cause, p.fault = .basic cause := by
    rintro ⟨cause, hcause⟩
    rw [hcause] at hp
    exact Fault.not_isRejection_basic cause hp
  rcases basic_or_report h with ⟨-, hcause⟩ | ⟨r, -, hreport⟩
  · exact absurd hcause hbasic
  · rcases report_cases hreport with ⟨-, hcause⟩ | ⟨hnote, -⟩
    · exact absurd hcause hbasic
    · exact hnote

/-- **A note is that of a rejection**, if the values that the report shows can be described. -/
theorem isRejection_of_note (h : s.checkArgument environment slots index v = .error p)
    (hdescribed : ∀ r, s.rejectionAt? slots index v = .ok (some r) → r.IsDescribed environment)
    {note : String} (hnote : p.note = some note) : p.fault.IsRejection := by
  rcases basic_or_report h with ⟨hnone, -⟩ | ⟨r, hverdict, hreport⟩
  · cases hnone.symm.trans hnote
  · rcases report_cases hreport with ⟨hnone, -⟩ | ⟨-, hfault⟩
    · cases hnone.symm.trans hnote
    · obtain ⟨f, hf⟩ := answers_rejectionFault s index v (hdescribed r hverdict)
      rw [hfault f hf]
      exact isRejection_of_rejectionFault hf

end Signature

end CheckedCurry
