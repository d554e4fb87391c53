import CheckedCurry.Library
import CheckedCurry.Proofs.Run.Lockstep

/-!
# The environment only affects wording

Two functions that are checked with different environments take the same steps.  When both reject a
value they do so for one reason, and the environments have a say only in the names of types that
the report puts behind the values it shows.

- `Fault.SameButNames`: errors of one class with the same fields, whose messages differ at most in
  the names in their entries.
- `Curried.Describes`: the values whose types a chain of calls asks an environment for.
- `report_alike`: two environments report one rejection alike.
- `environment_only_words`: the law, for functions that are defined in two libraries.
-/

namespace CheckedCurry

variable [Host]

/-! ## Messages that differ in names -/

/-- Two reports differ at most in the names behind the values that they show. -/
structure Report.SameButNames (r r' : Report) : Prop where
  headline : r.headline = r'.headline
  lines : r.lines = r'.lines
  entries : ∃ groups groups' : List (List Report.Entry),
    r.entries = Report.entryLines groups ∧ r'.entries = Report.entryLines groups' ∧
      List.Forall₂ (List.Forall₂ fun e e' => e.shown = e'.shown) groups groups'
  closing : r.closing = r'.closing

/-- Two errors have one class and the same fields, and their messages are the same or reports that
differ at most in names. -/
structure Fault.SameButNames (f g : Fault Value) : Prop where
  errorClass : f.errorClass = g.errorClass
  fields : f.fields = g.fields
  message : f.message = g.message ∨
    ∃ r r', f.message = .ok r.text ∧ g.message = .ok r'.text ∧ Report.SameButNames r r'

theorem Fault.SameButNames.refl (f : Fault Value) : Fault.SameButNames f f := ⟨rfl, rfl, .inl rfl⟩

namespace Attempt

/-- Two computations answer with related answers, or end in one fault. -/
inductive Alike {α : Type} (R : α → α → Prop) : Attempt α → Attempt α → Prop
  | ok {a b : α} (h : R a b) : Alike R (.ok a) (.ok b)
  | error (f : Fault Value) : Alike R (.error f) (.error f)

variable {α β : Type} {R : β → β → Prop}

omit [Host] in
theorem Alike.map {S : α → α → Prop} {x y : Attempt β} (hxy : Alike R x y) {g : β → α}
    (hg : ∀ a b, R a b → S (g a) (g b)) :
    Alike S (do return g (← x)) (do return g (← y)) := by
  cases hxy with
  | ok h => exact .ok (hg _ _ h)
  | error f => exact .error f

omit [Host] in
theorem alike_mapM {k l : α → Attempt β} {as : List α}
    (h : ∀ a ∈ as, Alike R (k a) (l a)) : Alike (List.Forall₂ R) (as.mapM k) (as.mapM l) := by
  induction as with
  | nil => exact .ok .nil
  | cons a as ih =>
    obtain ⟨ha, has⟩ := List.forall_mem_cons.mp h
    rw [List.mapM_cons, List.mapM_cons]
    generalize k a = x at ha
    generalize l a = y at ha
    cases ha with
    | error f => exact .error f
    | ok hb =>
      have hrest := ih has
      generalize as.mapM k = xs at hrest
      generalize as.mapM l = ys at hrest
      cases hrest with
      | error f => exact .error f
      | ok hbs => exact .ok (.cons hb hbs)

end Attempt

/-- The types of a value can be named by an environment: its tests and extractions answer. -/
def Ty.Nameable (environment : List Ty) (v : Value) : Prop :=
  ∃ names, Ty.names environment v = .ok names

namespace Signature

/-! ## One rejection, two reports -/

/-- Two checks stop with one note, and with errors that differ at most in names. -/
def SameReport (p q : Problem) : Prop := p.note = q.note ∧ Fault.SameButNames p.fault q.fault

theorem SameReport.refl (p : Problem) : SameReport p p := ⟨rfl, .refl p.fault⟩

variable {s : Signature} {E₁ E₂ : List Ty} {v : Value}

/-- Two environments describe a value by the same text, if they describe it at all. -/
theorem describe_alike (h₁ : Ty.Nameable E₁ v) (h₂ : Ty.Nameable E₂ v) :
    Attempt.Alike (fun e e' => e.shown = e'.shown) (describe E₁ v) (describe E₂ v) := by
  obtain ⟨names₁, h₁⟩ := h₁
  obtain ⟨names₂, h₂⟩ := h₂
  unfold describe
  cases v.display with
  | error f => exact .error f
  | ok shown =>
    rw [h₁, h₂]
    exact .ok rfl

/-- A rejection is one problem in both environments but for names, if its faults are. -/
theorem reject_alike {x y : Attempt (Fault Value)} (note : String)
    (h : Attempt.Alike Fault.SameButNames x y) :
    Checked.Alike SameReport (Checked.reject note x : Checked Unit) (Checked.reject note y) := by
  cases h with
  | ok hfg => exact .error ⟨rfl, hfg⟩
  | error f => exact .error (.refl _)

omit [Host] in
theorem sameButNames_singleton {e e' : Report.Entry} (h : e.shown = e'.shown) :
    ∃ groups groups' : List (List Report.Entry),
      Report.entryLines [[e]] = Report.entryLines groups ∧
      Report.entryLines [[e']] = Report.entryLines groups' ∧
      List.Forall₂ (List.Forall₂ fun e e' => e.shown = e'.shown) groups groups' :=
  ⟨_, _, rfl, rfl, .cons (.cons h .nil) .nil⟩

theorem misfitFault_alike (index : Nat) (m : Ty.Misfit) (h₁ : Ty.Nameable E₁ m.value)
    (h₂ : Ty.Nameable E₂ m.value) :
    Attempt.Alike Fault.SameButNames (s.misfitFault E₁ index v m) (s.misfitFault E₂ index v m) := by
  unfold misfitFault
  split
  · exact .ok (.refl _)
  · refine (describe_alike h₁ h₂).map fun e e' h => ⟨rfl, rfl, .inr ⟨_, _, rfl, rfl, ?_⟩⟩
    exact ⟨rfl, rfl, sameButNames_singleton h, rfl⟩

theorem lackFault_alike (b : Ty.Binding) (c : Capability) (h₁ : Ty.Nameable E₁ b.value)
    (h₂ : Ty.Nameable E₂ b.value) :
    Attempt.Alike Fault.SameButNames (s.lackFault E₁ b c) (s.lackFault E₂ b c) := by
  refine (describe_alike h₁ h₂).map fun e e' h => ⟨rfl, rfl, .inr ⟨_, _, rfl, rfl, ?_⟩⟩
  exact ⟨rfl, rfl, sameButNames_singleton h, rfl⟩

theorem clashFault_alike (group : List Ty.Binding)
    (h : ∀ b ∈ group, Ty.Nameable E₁ b.value ∧ Ty.Nameable E₂ b.value) :
    Attempt.Alike Fault.SameButNames (s.clashFault E₁ group) (s.clashFault E₂ group) := by
  have hentries : Attempt.Alike
      (List.Forall₂ (List.Forall₂ fun e e' : Report.Entry => e.shown = e'.shown))
      ((pathsOf group).mapM fun path =>
        (group.filter (·.path == path)).mapM fun b => describe E₁ b.value)
      ((pathsOf group).mapM fun path =>
        (group.filter (·.path == path)).mapM fun b => describe E₂ b.value) := by
    refine Attempt.alike_mapM fun path _ => Attempt.alike_mapM fun b hb => ?_
    obtain ⟨h₁, h₂⟩ := h b (List.mem_filter.mp hb).1
    exact describe_alike h₁ h₂
  refine hentries.map fun groups groups' hgroups => ⟨rfl, rfl, .inr ⟨_, _, rfl, rfl, ?_⟩⟩
  exact ⟨rfl, rfl, ⟨groups, groups', rfl, rfl, hgroups⟩, rfl⟩

/-- Two environments report one rejection alike. -/
theorem report_alike (index : Nat) {r : Rejection}
    (h : ∀ w ∈ r.described, Ty.Nameable E₁ w ∧ Ty.Nameable E₂ w) :
    Checked.Alike SameReport (s.report E₁ index v r) (s.report E₂ index v r) := by
  -- the note shows a value, which no environment has a part in
  have hshown (w : Value) := Checked.alike_ofAttempt SameReport.refl w.display
  cases r with
  | misfit m =>
    obtain ⟨h₁, h₂⟩ := h m.value (List.mem_singleton_self _)
    exact (hshown v).bind fun shown _ => reject_alike _ (misfitFault_alike index m h₁ h₂)
  | lack b c =>
    obtain ⟨h₁, h₂⟩ := h b.value (List.mem_singleton_self _)
    exact (hshown b.value).bind fun shown _ => reject_alike _ (lackFault_alike b c h₁ h₂)
  | clash a group =>
    refine reject_alike _ (clashFault_alike group fun b hb => h b.value ?_)
    exact List.mem_map_of_mem hb

/-- Two environments check a value alike: they come to one verdict, and to reports of it that
differ at most in names. -/
theorem checkArgument_alike {slots : List Value} {index : Nat}
    (h : ∀ r, s.rejectionAt? slots index v = .ok (some r) →
      ∀ w ∈ r.described, Ty.Nameable E₁ w ∧ Ty.Nameable E₂ w) :
    Checked.Alike SameReport (s.checkArgument E₁ slots index v)
      (s.checkArgument E₂ slots index v) := by
  rw [checkArgument_eq, checkArgument_eq]
  cases hverdict : s.rejectionAt? slots index v with
  | error f => exact .error (.refl _)
  | ok verdict =>
    cases verdict with
    | none => exact .ok ()
    | some r => exact report_alike index (h r hverdict)

end Signature

namespace Curried

/-! ## Chains of calls -/

/-- A chain of calls asks for the names of the types of a value: it comes to a check that rejects,
and the value is shown in the report. -/
def Describes (call : Call) (c : Curried) (m : Machine) (groups : List (List Value)) (w : Value) :
    Prop :=
  ∃ slots index v r, ComesTo call c m groups slots index v ∧
    c.signature.rejectionAt? slots index v = .ok (some r) ∧ w ∈ r.described

/-- The outcomes of a chain of calls under two environments: the same; or partial applications with
the same slots; or errors, on one machine, that differ at most in names. -/
inductive SameButWording (s : Signature) (f : Value) (E₁ E₂ : List Ty) :
    Except (Fault Value) Value × Machine → Except (Fault Value) Value × Machine → Prop
  | same (outcome : Except (Fault Value) Value × Machine) : SameButWording s f E₁ E₂ outcome outcome
  | applied (slots : List Value) (mark : Nat) (m : Machine) :
    SameButWording s f E₁ E₂ (.ok ((⟨s, f, some E₁, slots⟩ : Curried).toValue mark), m)
      (.ok ((⟨s, f, some E₂, slots⟩ : Curried).toValue mark), m)
  | raised {fault fault' : Fault Value} (h : Fault.SameButNames fault fault') (m : Machine) :
    SameButWording s f E₁ E₂ (.error fault, m) (.error fault', m)

variable {s : Signature} {f : Value} {E₁ E₂ : List Ty}

theorem sameButWording_of_parallel {o o' : Except (Fault Value) Value × Machine}
    (h : Run.Parallel (fresh s f (some E₁)) (fresh s f (some E₂)) Signature.SameReport o o') :
    SameButWording s f E₁ E₂ o o' := by
  cases h with
  | same => exact .same _
  | applied slots mark m => exact .applied slots mark m
  | @rejected p q hpq m =>
    obtain ⟨note, fault⟩ := p
    obtain ⟨note', fault'⟩ := q
    obtain ⟨rfl, hfault⟩ : note = note' ∧ Fault.SameButNames fault fault' := hpq
    cases note <;> exact .raised hfault _

/-- One chain of calls under two environments. -/
theorem calls_sameButWording {call : Call} {groups : List (List Value)} {m : Machine}
    (h : ∀ w, Describes call (fresh s f (some E₁)) m groups w →
      Ty.Nameable E₁ w ∧ Ty.Nameable E₂ w) (mark : Nat) :
    SameButWording s f E₁ E₂
      (Run.calls (Run.step call) ((fresh s f (some E₁)).toValue mark) groups m)
      (Run.calls (Run.step call) ((fresh s f (some E₂)).toValue mark) groups m) := by
  have twins : Twins (fresh s f (some E₁)) (fresh s f (some E₂)) := ⟨rfl, rfl, rfl, rfl⟩
  refine sameButWording_of_parallel (Run.parallel_calls twins mark ?_)
  intro slots index v hcomes
  refine Signature.checkArgument_alike fun r hr w hw => ?_
  exact h w ⟨slots, index, v, r, hcomes, hr, hw⟩

/-- What a shorter chain describes, a longer one describes. -/
theorem Describes.of_isPrefix {call : Call} {c : Curried} {m : Machine}
    {p groups : List (List Value)} {w : Value} (h : Describes call c m p w) (hp : p <+: groups) :
    Describes call c m groups w := by
  obtain ⟨more, rfl⟩ := hp
  obtain ⟨slots, index, v, r, hcomes, hr, hw⟩ := h
  exact ⟨slots, index, v, r, hcomes.append more, hr, hw⟩

/-- A library that checks with an environment is made, and a function is defined in it. -/
def defined (s : Signature) (f : Value) (environment : List Ty) : Run Value := do
  Library.create ⟨true, environment⟩
  Library.define ⟨true, environment⟩ s f

omit [Host] in
/-- To log records is all that a run does; it never fails. -/
theorem forM_log {α : Type} (record : α → Log.Record) (as : List α) (m : Machine) :
    ∃ m', as.forM (fun a => Run.log (record a)) m = (.ok (), m') := by
  induction as generalizing m with
  | nil => exact ⟨m, rfl⟩
  | cons a as ih => exact ih (m.write (record a))

omit [Host] in
/-- A library is made in one way whatever its environment is: what is logged says whether it checks,
and nothing of the environment. -/
theorem create_eq (m : Machine) :
    ∃ m', ∀ environment, Library.create ⟨true, environment⟩ m = (.ok (), m') := by
  obtain ⟨m', hlog⟩ := forM_log (fun s => Library.curryingRecord ⟨true, []⟩ s.signature)
    Standard.all m
  exact ⟨m'.write (Library.createdRecord ⟨true, []⟩), fun _ => Run.bind_of_ok hlog _⟩

omit [Host] in
/-- A function is defined in one way whatever the environment is, or not at all, because it takes
another number of arguments than there are types. -/
theorem defined_eq (s : Signature) (f : Value) (m : Machine) :
    (∃ takes m', f.parameterCount? = some takes ∧ takes ≠ s.arity ∧ ∀ environment,
      defined s f environment m = (.error (.misuse (.parameterCount s.name takes s.arity)), m')) ∨
    ∃ mark m', ∀ environment,
      defined s f environment m = (.ok ((fresh s f (some environment)).toValue mark), m') := by
  obtain ⟨m₁, hcreate⟩ := create_eq m
  have hdefined (environment : List Ty) :
      defined s f environment m = Library.define ⟨true, environment⟩ s f m₁ :=
    Run.bind_of_ok (hcreate environment) _
  have hmake (environment : List Ty) :
      Library.define.make ⟨true, environment⟩ s f m₁ =
        let m₂ := m₁.write (Library.curryingRecord ⟨true, []⟩ s)
        (.ok ((fresh s f (some environment)).toValue m₂.nextMark), m₂.advance) := rfl
  simp only [hdefined, Library.define]
  cases f.parameterCount? with
  | none => exact .inr ⟨_, _, hmake⟩
  | some takes =>
    by_cases hcount : takes = s.arity
    · simp only [if_pos hcount]
      exact .inr ⟨_, _, hmake⟩
    · simp only [if_neg hcount]
      exact .inl ⟨takes, m₁, rfl, hcount, fun _ => rfl⟩

/-- **The environment only affects wording.**  Let one function be defined in two libraries that
check with two environments.  It is defined in both, or in neither because it takes another number
of arguments than its signature has.

Let a chain of calls be made on both functions with the same arguments, and let both environments
be able to name the types of the values that the chain describes in a report.  Then after each of
the calls the two chains have come to the same answer on the same machine, or to partial
applications with the same slots; or both have raised at the same call, and then the errors have one
class and the same fields, and their messages are the same or reports that differ at most in the
names behind the values that they show. -/
theorem environment_only_words (s : Signature) (f : Value) (E₁ E₂ : List Ty) (start : Machine) :
    (∃ takes m, f.parameterCount? = some takes ∧ takes ≠ s.arity ∧
      defined s f E₁ start = (.error (.misuse (.parameterCount s.name takes s.arity)), m) ∧
      defined s f E₂ start = (.error (.misuse (.parameterCount s.name takes s.arity)), m)) ∨
    ∃ mark m,
      defined s f E₁ start = (.ok ((fresh s f (some E₁)).toValue mark), m) ∧
      defined s f E₂ start = (.ok ((fresh s f (some E₂)).toValue mark), m) ∧
      ∀ (call : Call) (groups : List (List Value)),
        (∀ w, Describes call (fresh s f (some E₁)) m groups w →
          Ty.Nameable E₁ w ∧ Ty.Nameable E₂ w) →
        ∀ p, p <+: groups → SameButWording s f E₁ E₂
          (Run.calls (Run.step call) ((fresh s f (some E₁)).toValue mark) p m)
          (Run.calls (Run.step call) ((fresh s f (some E₂)).toValue mark) p m) := by
  rcases defined_eq s f start with ⟨takes, m, htakes, hcount, hfault⟩ | ⟨mark, m, hdefined⟩
  · exact .inl ⟨takes, m, htakes, hcount, hfault E₁, hfault E₂⟩
  · refine .inr ⟨mark, m, hdefined E₁, hdefined E₂, fun call groups h p hp => ?_⟩
    exact calls_sameButWording (fun w hw => h w (hw.of_isPrefix hp)) mark

/-- The entries of the report that a chain of calls ends in, if it ends in the report of a misfit. -/
def reportedEntries : Except (Fault Value) Value × Machine → List String
  | (.error (.invalidValue r ..), _) => r.entries
  | _ => []

omit [Host] in
/-- A number is rejected by a library whose environment has a name for it and by one whose
environment is empty. -/
theorem environment_only_words_over_numbers : letI : Host := .bare
    let s : Signature := ⟨"f", [.string, .string], .string, []⟩
    let f := Value.constant 0 (.text "x") (.fixed 2)
    let E₁ : List Ty := [.ofKind .number]
    let groups : List (List Value) := [[.text "a"], [.int 1]]
    ∃ mark m,
      defined s f E₁ (.start none) = (.ok ((fresh s f (some E₁)).toValue mark), m) ∧
      (∀ w, Describes Run.call (fresh s f (some E₁)) m groups w →
        Ty.Nameable E₁ w ∧ Ty.Nameable [] w) ∧
      let run := fun environment =>
        Run.calls (Run.step Run.call) ((fresh s f (some environment)).toValue mark) groups m
      SameButWording s f E₁ [] (run E₁) (run []) ∧
      reportedEntries (run E₁) = ["1)  1 :: Number"] ∧ reportedEntries (run []) = ["1)  1"] := by
  let _ : Host := .bare
  intro s f E₁ groups
  have hname (w : Value) : Ty.Nameable E₁ w ∧ Ty.Nameable [] w := by
    obtain ⟨d, hd⟩ : ∃ d, w.depth + Host.stack = d + 1 :=
      Nat.exists_eq_add_one.mpr (Nat.add_pos_left w.depth_pos _)
    have hby (namesOf : Value → Attempt (List String)) : Ty.namesBy namesOf w (.ofKind .number) =
        .ok (if w.kind = .number then ["Number"] else []) := by
      by_cases h : w.kind = .number <;>
        simp [Ty.namesBy, Ty.isMember, Ty.misfit?, Ty.ofKind, Ty.named, Ty.test, Test.holds, h] <;>
        rfl
    constructor
    · refine ⟨[if w.kind = .number then ["Number"] else []].flatten, ?_⟩
      rw [Ty.names, hd, Ty.namesWithin, List.mapM_cons, hby]
      rfl
    · refine ⟨[], ?_⟩
      rw [Ty.names, hd]
      rfl
  rcases environment_only_words s f E₁ [] (.start none) with
    ⟨takes, m, htakes, hcount, -⟩ | ⟨mark, m, hdefined, -, h⟩
  · exact absurd (Option.some.inj htakes).symm hcount
  · exact ⟨mark, m, hdefined, fun w _ => hname w,
      h Run.call groups (fun w _ => hname w) groups (List.prefix_refl _), rfl, rfl⟩

end Curried

end CheckedCurry
