import CheckedCurry.Proofs.Run.Behaviour
import CheckedCurry.Proofs.Signature.Notes

/-!
# Each rejection is logged once

Checks are made for arguments and for results, in calls of curried functions inside the
implementations of others, and also where the fault that a call ends in is caught.  Where records of
the lowest level are kept, the records of checks are those of the rejections: one for each, in
order, and each of them is there before its error is raised.

- `Check.rejects`, `Check.record`: checks that end in a rejection, and the record of one.
- `Machine.Account`: how the records after a run go with the checks that the run has made.
- `Watched.IsAccounted`: runs that keep this account; `IsAccounted.bind`, `isAccounted_check`: how
  they are put together.
- `isAccounted_invoke`, `isAccounted_watch`, `isAccounted_callWith`: one call, one program, calls
  nested at most so deep.
- `rejections_logged_once`: the law for all runs.
-/

namespace CheckedCurry

variable [Host]

instance (f : Fault Value) : Decidable f.IsRejection :=
  inferInstanceAs (Decidable (f.errorClass ∈ _))

namespace Check

/-! ## Records of checks -/

variable {k : Check}

/-- Whether a check ends in a rejection. -/
def rejects (k : Check) : Bool :=
  match k.outcome with
  | .ok _ => false
  | .error p => decide p.fault.IsRejection

/-- The note that a check makes. -/
def note (k : Check) : String :=
  match k.outcome with
  | .ok _ => ""
  | .error p => p.note.getD ""

/-- The record of a rejection. -/
def record (k : Check) : Log.Record := .plain Log.checks .debug k.note

/-- The records of those checks that end in a rejection. -/
def records (ks : List Check) : List Log.Record := (ks.filter rejects).map record

@[simp] theorem records_nil : records [] = [] := rfl

@[simp] theorem records_append (ks ks' : List Check) :
    records (ks ++ ks') = records ks ++ records ks' := by
  simp [records]

/-- If a check rejects, the values that its report shows can be shown and named. -/
def IsDescribed (k : Check) : Prop :=
  ∀ r, k.signature.rejectionAt? k.slots k.index k.value = .ok (some r) →
    r.IsDescribed k.environment

/-- A rejection is recorded, the record names the signature, and then the error is raised. -/
theorem ofChecked_of_rejects (h : k.rejects = true) :
    k.signature.NamedIn k.note ∧ ∃ fault : Fault Value, fault.IsRejection ∧
      ∀ m, Run.ofChecked k.outcome m = (.error fault, m.write k.record) := by
  unfold rejects at h
  split at h
  · cases h
  · next p houtcome =>
    have hp : p.fault.IsRejection := of_decide_eq_true h
    obtain ⟨note, hnote, hnamed⟩ := Signature.exists_note_of_isRejection houtcome hp
    obtain ⟨answer, fault⟩ := p
    obtain rfl : answer = some note := hnote
    have heq : k.note = note := by rw [Check.note, houtcome]; rfl
    refine ⟨heq ▸ hnamed, fault, hp, fun m => ?_⟩
    rw [record, heq, houtcome]
    rfl

/-- A check that does not end in a rejection leaves the machine as it is. -/
theorem ofChecked_of_not_rejects (h : k.rejects = false) (hdescribed : k.IsDescribed)
    (m : Machine) : (Run.ofChecked k.outcome m).2 = m := by
  cases houtcome : k.outcome with
  | ok => rfl
  | error p =>
    obtain ⟨note, fault⟩ := p
    cases note with
    | none => rfl
    | some note =>
      have hp : fault.IsRejection := Signature.isRejection_of_note houtcome hdescribed rfl
      rw [rejects, houtcome] at h
      exact absurd hp (of_decide_eq_false h)

end Check

/-! ## Accounts -/

/-- The account of the checks of a run from one machine to another.  The run has left the threshold
alone and has added the records of its rejections.  Each check is made on a machine that has the
records of the rejections before it. -/
structure Machine.Account (m : Machine) (ks : List Check) (m' : Machine) : Prop where
  threshold : m'.threshold = m.threshold
  added : m'.checkLog = m.checkLog ++ Check.records ks
  before : ∀ front k back, ks = front ++ k :: back →
    k.machine.threshold = m.threshold ∧ k.machine.checkLog = m.checkLog ++ Check.records front

namespace Machine

variable {m m₁ m₂ : Machine} {ks ks' : List Check}

theorem Keeps.account (h : m.Keeps m₁) : m.Account [] m₁ where
  threshold := h.threshold
  added := by simp [h.checkLog]
  before front k back heq := by simp at heq

/-- What a single check adds. -/
theorem account_singleton {k : Check} (hmachine : k.machine = m) (hdescribed : k.IsDescribed)
    (hpasses : Log.Level.debug.passes m.threshold = true) :
    m.Account [k] (Run.ofChecked k.outcome m).2 := by
  have hbefore : ∀ front k' back, [k] = front ++ k' :: back →
      k'.machine.threshold = m.threshold ∧
        k'.machine.checkLog = m.checkLog ++ Check.records front := by
    intro front k' back heq
    obtain ⟨rfl, h⟩ | ⟨_, _, hnil⟩ := List.cons_eq_append_iff.mp heq
    · obtain ⟨rfl, -⟩ := List.cons.inj h
      simp [hmachine]
    · simp at hnil
  cases hrejects : k.rejects with
  | false =>
    rw [Check.ofChecked_of_not_rejects hrejects hdescribed]
    exact ⟨rfl, by simp [Check.records, hrejects], hbefore⟩
  | true =>
    obtain ⟨-, fault, -, hraises⟩ := Check.ofChecked_of_rejects hrejects
    rw [hraises]
    refine ⟨threshold_write m _, ?_, hbefore⟩
    rw [checkLog_write rfl hpasses]
    simp [Check.records, hrejects]

/-- The account of one run after another. -/
theorem Account.trans (h : m.Account ks m₁) (h' : m₁.Account ks' m₂) :
    m.Account (ks ++ ks') m₂ where
  threshold := h'.threshold.trans h.threshold
  added := by rw [h'.added, h.added, Check.records_append, List.append_assoc]
  before front k back heq := by
    rcases List.append_eq_append_iff.mp heq with ⟨rest, rfl, hrest⟩ | ⟨rest, rfl, hrest⟩
    · -- the check is one of the second run
      obtain ⟨hthreshold, hlog⟩ := h'.before rest k back hrest
      refine ⟨hthreshold.trans h.threshold, ?_⟩
      rw [hlog, h.added, Check.records_append, List.append_assoc]
    · cases rest with
      | nil =>
        obtain ⟨hthreshold, hlog⟩ := h'.before [] k back hrest.symm
        refine ⟨hthreshold.trans h.threshold, ?_⟩
        rw [hlog, h.added]
        simp
      | cons k' rest =>
        obtain ⟨rfl, -⟩ := List.cons.inj hrest
        exact h.before front k rest rfl

end Machine

namespace Run.Watched

variable {α β : Type}

/-- A run keeps the account of its checks, on machines that keep all records. -/
def IsAccounted (x : Watched α) : Prop :=
  ∀ m : Machine, Log.Level.debug.passes m.threshold = true → (∀ k ∈ x.checks m, k.IsDescribed) →
    m.Account (x.checks m) (x.run m).2

theorem isAccounted_unchecked {x : Run α} (h : IsQuiet x) : IsAccounted (unchecked x) :=
  fun m _ _ => (h m).account

theorem isAccounted_pure (a : α) : IsAccounted (pure a : Watched α) :=
  isAccounted_unchecked (isQuiet_pure a)

theorem isAccounted_check (s : Signature) (environment : List Ty) (slots : List Value)
    (index : Nat) (v : Value) : IsAccounted (check s environment slots index v) :=
  fun m hpasses hdescribed =>
    Machine.account_singleton (k := ⟨s, environment, slots, index, v, m⟩) rfl
      (hdescribed _ (List.mem_singleton.mpr rfl)) hpasses

theorem IsAccounted.bind {x : Watched α} {k : α → Watched β} (hx : IsAccounted x)
    (hk : ∀ a, IsAccounted (k a)) : IsAccounted (x >>= k) := by
  intro m hpasses hdescribed
  replace hdescribed : ∀ c ∈ x.checks m ++ checksAfter k (x.run m), c.IsDescribed := hdescribed
  show m.Account (x.checks m ++ checksAfter k (x.run m)) ((x.run >>= fun a => (k a).run) m).2
  obtain ⟨hfirst, hrest⟩ := List.forall_mem_append.mp hdescribed
  have haccount := hx m hpasses hfirst
  rcases hrun : x.run m with ⟨answer, m₁⟩
  rw [hrun] at haccount hrest
  cases answer with
  | error f =>
    rw [bind_of_error hrun]
    simpa [checksAfter] using haccount
  | ok a =>
    rw [bind_of_ok hrun]
    exact haccount.trans (hk a m₁ (by rwa [haccount.threshold]) hrest)

/-- A fault that is caught takes no record away. -/
theorem IsAccounted.attempt {x : Watched α} (h : IsAccounted x) : IsAccounted x.attempt := by
  intro m hpasses hdescribed
  have hmachine : (Run.attempt x.run m).2 = (x.run m).2 := by
    rcases hrun : x.run m with ⟨answer, m₁⟩
    cases answer with
    | ok a => rw [attempt_of_ok hrun]
    | error f =>
      rw [attempt_of_error hrun]
      split <;> rfl
  show m.Account (x.checks m) (Run.attempt x.run m).2
  rw [hmachine]
  exact h m hpasses hdescribed

/-! ## Calls -/

theorem isAccounted_checkAt (c : Curried) (slots : List Value) (index : Nat) (v : Value) :
    IsAccounted (checkAt c slots index v) := by
  unfold checkAt
  split
  · exact isAccounted_check _ _ _ _ _
  · exact isAccounted_pure _

theorem isAccounted_putAll (c : Curried) (slots : List Value) (pairs : List (Nat × Value)) :
    IsAccounted (putAll c slots pairs) := by
  induction pairs generalizing slots with
  | nil => exact isAccounted_pure slots
  | cons pair rest ih =>
    obtain ⟨index, v⟩ := pair
    rw [putAll]
    split
    · exact ih slots
    · exact (isAccounted_checkAt c slots index v).bind fun _ => ih _

/-- A call of a curried function keeps the account if the call of its implementation does. -/
theorem isAccounted_invoke {call : Value → List Value → Watched Value}
    (hcall : ∀ f arguments, IsAccounted (call f arguments)) (c : Curried) (arguments : List Value) :
    IsAccounted (invoke call c arguments) := by
  unfold invoke
  split
  · exact isAccounted_unchecked (isQuiet_throw _)
  · refine (isAccounted_putAll c _ _).bind fun slots => ?_
    split
    · refine (hcall c.implementation slots).bind fun result => ?_
      exact (isAccounted_checkAt c slots _ result).bind fun _ => isAccounted_pure _
    · exact isAccounted_unchecked (isQuiet_marked _)

/-- A program keeps the account if its calls do. -/
theorem isAccounted_watch {call : Value → List Value → Watched Value}
    (hcall : ∀ f arguments, IsAccounted (call f arguments)) (p : Program α) :
    IsAccounted (p.watch call) := by
  induction p with
  | done a => exact isAccounted_pure a
  | step x quiet next ih => exact (isAccounted_unchecked quiet).bind ih
  | call f arguments next ih => exact (hcall f arguments).attempt.bind ih

/-- Calls keep the account, however deep they are nested. -/
theorem isAccounted_callWith (behaviour : Behaviour) (depth : Nat) (f : Value)
    (arguments : List Value) : IsAccounted (callWith behaviour depth f arguments) := by
  induction depth generalizing f arguments with
  | zero => exact isAccounted_unchecked (isQuiet_fail _)
  | succ depth ih =>
    rw [callWith]
    split
    · exact isAccounted_invoke ih _ _
    · exact isAccounted_watch ih _

end Run.Watched

namespace Run

/-! ## All runs -/

/-- **Each rejection is logged once.**  Calls in which values other than curried functions behave in
some way or other are considered, and there is a way in which they are the calls of the
interpreter.

Let a program be run that makes such calls, with all records kept, and let what the reports of
rejections show be described.  Then the records of checks that the run adds are those of the checks
that end in a rejection, in the order in which the checks are made.

Each check is made when exactly the rejections before it have been recorded.  If it ends in a
rejection, one record is added, which names the signature, and then the error is raised; if it does
not, none is. -/
theorem rejections_logged_once :
    (∃ behaviour : Behaviour, ∀ depth f arguments,
      (callWith behaviour depth f arguments).run = apply depth f arguments) ∧
    ∀ {α : Type} (behaviour : Behaviour) (depth : Nat) (p : Program α) (m : Machine),
      let x := p.watch (callWith behaviour depth)
      Log.Level.debug.passes m.threshold = true → (∀ k ∈ x.checks m, k.IsDescribed) →
      x.run = p.run (fun f arguments => (callWith behaviour depth f arguments).run) ∧
      (x.run m).2.checkLog = m.checkLog ++ ((x.checks m).filter Check.rejects).map Check.record ∧
      ∀ front k back, x.checks m = front ++ k :: back →
        k.machine.checkLog = m.checkLog ++ (front.filter Check.rejects).map Check.record ∧
        (k.rejects = true → k.signature.NamedIn k.record.message ∧
          ∃ fault m₁, ofChecked k.outcome k.machine = (.error fault, m₁) ∧ fault.IsRejection ∧
            m₁.checkLog = k.machine.checkLog ++ [k.record]) ∧
        (k.rejects = false → (ofChecked k.outcome k.machine).2 = k.machine) := by
  refine ⟨exists_behaviour, fun behaviour depth p m hpasses hdescribed => ?_⟩
  have haccount := Watched.isAccounted_watch (Watched.isAccounted_callWith behaviour depth) p m
    hpasses hdescribed
  refine ⟨Program.run_watch _ p, haccount.added, fun front k back heq => ?_⟩
  obtain ⟨hthreshold, hlog⟩ := haccount.before front k back heq
  refine ⟨hlog, fun hrejects => ?_, fun hpassed => ?_⟩
  · obtain ⟨hnamed, fault, hfault, hraises⟩ := Check.ofChecked_of_rejects hrejects
    exact ⟨hnamed, fault, _, hraises _, hfault,
      Machine.checkLog_write rfl (by rwa [hthreshold])⟩
  · have hmem : k ∈ (p.watch (callWith behaviour depth)).checks m := by
      rw [heq]
      simp
    exact Check.ofChecked_of_not_rejects hpassed (hdescribed k hmem) _

omit [Host] in
/-- The implementation of `f` calls `g` and catches the error; then `g` is called once more.  The
argument and the result of `f` are accepted. -/
theorem rejections_logged_once_nested : letI : Host := .bare
    let f := Curried.fresh ⟨"f", [.anything], .anything, []⟩ (.constant 1 .null (.fixed 1))
      (some Ty.environment)
    let g := Curried.fresh ⟨"g", [.string], .anything, []⟩ (.constant 2 .null (.fixed 1))
      (some Ty.environment)
    let behaviour : Behaviour := fun v _ =>
      match v with
      | .constant 1 _ _ => .call (g.toValue 0) [.int 1] fun _ => .done .nothing
      | _ => .done .null
    let p : Program (Except (Fault Value) Value) :=
      .call (f.toValue 0) [.int 5] fun _ => .call (g.toValue 0) [.int 2] .done
    let m := Machine.start (some .debug)
    let x := p.watch (callWith behaviour 3)
    let first := Log.Record.plain Log.checks .debug "rejecting 1 at position 0 of g :: String -> Any"
    let second := Log.Record.plain Log.checks .debug "rejecting 2 at position 0 of g :: String -> Any"
    Log.Level.debug.passes m.threshold = true ∧
    x.checks m = [⟨f.signature, Ty.environment, [.placeholder], 0, .int 5, m⟩,
      ⟨g.signature, Ty.environment, [.placeholder], 0, .int 1, m⟩,
      ⟨f.signature, Ty.environment, [.int 5], 1, .nothing, m.write first⟩,
      ⟨g.signature, Ty.environment, [.placeholder], 0, .int 2, m.write first⟩] ∧
    (∀ k ∈ x.checks m, k.IsDescribed) ∧ (x.run m).2.checkLog = [first, second] := by
  let _ : Host := .bare
  intro f g behaviour p m x first second
  have hchecks : x.checks m = [⟨f.signature, Ty.environment, [.placeholder], 0, .int 5, m⟩,
      ⟨g.signature, Ty.environment, [.placeholder], 0, .int 1, m⟩,
      ⟨f.signature, Ty.environment, [.int 5], 1, .nothing, m.write first⟩,
      ⟨g.signature, Ty.environment, [.placeholder], 0, .int 2, m.write first⟩] := by rfl
  -- an accepted value has no report, and the report of a misfit shows the integer
  have haccepted {k : Check}
      (h : k.signature.rejectionAt? k.slots k.index k.value = .ok none) : k.IsDescribed := by
    intro r hr
    cases h.symm.trans hr
  have hmisfit {n : Int} {entry : Report.Entry} {slots : List Value} {m' : Machine}
      (h : g.signature.rejectionAt? slots 0 (.int n) = .ok (some (.misfit ⟨[], .int n, .string⟩)))
      (hentry : Signature.describe Ty.environment (.int n) = .ok entry) :
      Check.IsDescribed ⟨g.signature, Ty.environment, slots, 0, .int n, m'⟩ := by
    intro r hr w hw
    obtain rfl := Option.some.inj (Except.ok.inj (h.symm.trans hr))
    obtain rfl := List.mem_singleton.mp hw
    exact ⟨entry, hentry⟩
  have hdescribed : ∀ k ∈ x.checks m, k.IsDescribed := by
    rw [hchecks]
    intro k hk
    simp only [List.mem_cons, List.not_mem_nil, or_false] at hk
    rcases hk with rfl | rfl | rfl | rfl
    · exact haccepted rfl
    · exact hmisfit rfl rfl
    · exact haccepted rfl
    · exact hmisfit rfl rfl
  have hpasses : Log.Level.debug.passes m.threshold = true := by rfl
  refine ⟨hpasses, hchecks, hdescribed, ?_⟩
  rw [(rejections_logged_once.2 behaviour 3 p m hpasses hdescribed).2.1, hchecks]
  simp only [f, g, m, first, second]
  rfl

end Run

end CheckedCurry
