import CheckedCurry.Proofs.Run.Lockstep

/-!
# Runs with the checks that they make

A run is watched: beside its outcome, all checks that it makes are noted, in order, each with the
machine that it is made on.  Watching changes nothing.  Implementations are arbitrary: a program of
steps that have nothing to do with checks, and of calls, whose faults it may catch.

- `Machine.Keeps`, `Run.IsQuiet`: what has nothing to do with checks leaves their records and the
  threshold alone.
- `Check`: a check, and how it ends.
- `Run.Watched`: runs with their checks; `Watched.invoke` is a call of a curried function.
- `Run.Program`: what implementations do; `Program.watch` is its run with its checks.
- `Run.callWith`: calls of values in which implementations behave in a given way.
- `run_invoke`, `Program.run_watch`: forgetting the checks gives the runs that are watched.
-/

namespace CheckedCurry

/-! ## The records of checks -/

namespace Machine

/-- The records of rejections, oldest first. -/
def checkLog (m : Machine) : List Log.Record := m.log.filter (·.logger == Log.checks)

/-- A machine has the records of rejections and the threshold of another one. -/
structure Keeps (m m' : Machine) : Prop where
  checkLog : m'.checkLog = m.checkLog
  threshold : m'.threshold = m.threshold

theorem Keeps.refl (m : Machine) : m.Keeps m := ⟨rfl, rfl⟩

theorem Keeps.trans {m m₁ m₂ : Machine} (h : m.Keeps m₁) (h' : m₁.Keeps m₂) : m.Keeps m₂ :=
  ⟨h'.checkLog.trans h.checkLog, h'.threshold.trans h.threshold⟩

@[simp] theorem threshold_write (m : Machine) (r : Log.Record) :
    (m.write r).threshold = m.threshold := by
  unfold write
  split <;> rfl

/-- A record of a check that passes the threshold is the last one. -/
theorem checkLog_write {m : Machine} {r : Log.Record} (hlogger : r.logger = Log.checks)
    (hpasses : r.level.passes m.threshold = true) : (m.write r).checkLog = m.checkLog ++ [r] := by
  simp [write, checkLog, log, hpasses, hlogger]

/-- Records of other loggers are not records of checks. -/
theorem keeps_write {m : Machine} {r : Log.Record} (hlogger : r.logger ≠ Log.checks) :
    m.Keeps (m.write r) := by
  refine ⟨?_, threshold_write m r⟩
  unfold write
  split
  · simp [checkLog, log, hlogger]
  · rfl

end Machine

namespace Run

variable {α β : Type}

/-- A run that has nothing to do with checks. -/
def IsQuiet (x : Run α) : Prop := ∀ m : Machine, m.Keeps (x m).2

theorem isQuiet_ofAttempt (x : Attempt α) : IsQuiet (ofAttempt x) := fun m => .refl m

theorem isQuiet_pure (a : α) : IsQuiet (pure a : Run α) := fun m => .refl m

theorem isQuiet_throw (f : Fault Value) : IsQuiet (throw f : Run α) := fun m => .refl m

theorem isQuiet_fail (cause : Cause) : IsQuiet (fail cause : Run α) := fun m => .refl m

theorem isQuiet_mark : IsQuiet mark := fun _ => ⟨rfl, rfl⟩

theorem isQuiet_log {r : Log.Record} (h : r.logger ≠ Log.checks) : IsQuiet (log r) :=
  fun _ => Machine.keeps_write h

theorem IsQuiet.bind {x : Run α} {k : α → Run β} (hx : IsQuiet x) (hk : ∀ a, IsQuiet (k a)) :
    IsQuiet (x >>= k) := by
  intro m
  rcases h : x m with ⟨answer, m₁⟩
  have hkept : m.Keeps m₁ := by simpa [h] using hx m
  cases answer with
  | error f =>
    rw [bind_of_error h]
    exact hkept
  | ok a =>
    rw [bind_of_ok h]
    exact hkept.trans (hk a m₁)

/-- What answers is no fault to be caught. -/
theorem attempt_of_ok {x : Run α} {m m' : Machine} {a : α} (h : x m = (.ok a, m')) :
    Run.attempt x m = (.ok (.ok a), m') := by
  unfold Run.attempt
  rw [h]

/-- A fault is caught, unless calls are nested too deep. -/
theorem attempt_of_error {x : Run α} {m m' : Machine} {f : Fault Value}
    (h : x m = (.error f, m')) :
    Run.attempt x m = if f.isTooDeep then (.error f, m') else (.ok (.error f), m') := by
  unfold Run.attempt
  rw [h]

theorem isQuiet_marked (make : Nat → Value) : IsQuiet (marked make) :=
  isQuiet_mark.bind fun _ => isQuiet_pure _

end Run

/-! ## Checks -/

/-- A check of the value at an index of a signature, with the slots that are filled by then, on a
machine.  The result has the index after the last parameter. -/
structure Check where
  signature : Signature
  environment : List Ty
  slots : List Value
  index : Nat
  value : Value
  machine : Machine

/-- How a check ends. -/
def Check.outcome [Host] (k : Check) : Checked Unit :=
  k.signature.checkArgument k.environment k.slots k.index k.value

namespace Run

/-! ## Watched runs -/

/-- A run, and the checks that it makes on a machine, in order. -/
structure Watched (α : Type) where
  run : Run α
  checks : Machine → List Check

namespace Watched

variable {α β : Type}

/-- The checks of what comes after a run, if the run answers. -/
def checksAfter (k : α → Watched β) : Except (Fault Value) α × Machine → List Check
  | (.ok a, m) => (k a).checks m
  | (.error _, _) => []

instance : Monad Watched where
  pure a := ⟨pure a, fun _ => []⟩
  bind x k := ⟨x.run >>= fun a => (k a).run, fun m => x.checks m ++ checksAfter k (x.run m)⟩

/-- A run that makes no checks. -/
def unchecked (x : Run α) : Watched α := ⟨x, fun _ => []⟩

/-- The run that makes a check and nothing else. -/
def check [Host] (s : Signature) (environment : List Ty) (slots : List Value) (index : Nat)
    (v : Value) : Watched Unit where
  run := ofChecked (s.checkArgument environment slots index v)
  checks m := [⟨s, environment, slots, index, v, m⟩]

/-- A watched run whose fault may be caught. -/
def attempt (x : Watched α) : Watched (Except (Fault Value) α) := ⟨Run.attempt x.run, x.checks⟩

@[simp] theorem run_pure (a : α) : (pure a : Watched α).run = pure a := rfl

@[simp] theorem run_bind (x : Watched α) (k : α → Watched β) :
    (x >>= k).run = x.run >>= fun a => (k a).run := rfl

@[simp] theorem run_unchecked (x : Run α) : (unchecked x).run = x := rfl

@[simp] theorem run_attempt (x : Watched α) : x.attempt.run = Run.attempt x.run := rfl

/-! ## Calls of curried functions -/

/-- The value at an index is checked, if arguments are checked at all. -/
def checkAt [Host] (c : Curried) (slots : List Value) (index : Nat) (v : Value) : Watched Unit :=
  match c.environment with
  | some environment => check c.signature environment slots index v
  | none => pure ()

/-- Arguments are put into slots one after the other, each of them checked first. -/
def putAll [Host] (c : Curried) : List Value → List (Nat × Value) → Watched (List Value)
  | slots, [] => pure slots
  | slots, (index, v) :: rest =>
    if v.isOpen then putAll c slots rest
    else do
      checkAt c slots index v
      putAll c (slots.set index v) rest

/-- A call of a curried function, given how its implementation is called. -/
def invoke [Host] (call : Value → List Value → Watched Value) (c : Curried) (arguments : List Value) :
    Watched Value :=
  if c.hasSurplus arguments then unchecked (throw (c.surplusFault arguments))
  else do
    let slots ← putAll c c.slots (c.openSlots.zip arguments)
    if Curried.isSaturated slots then do
      let result ← call c.implementation slots
      checkAt c slots c.signature.arity result
      return result
    else unchecked (marked ({ c with slots := slots } : Curried).toValue)

/-- The checks of a computation are made one after the other. -/
theorem ofChecked_bind (x : Checked α) (k : α → Checked β) :
    ofChecked (x >>= k) = ofChecked x >>= fun a => ofChecked (k a) := by
  cases x with
  | ok a => rfl
  | error p => exact (ofChecked_error_bind p _).symm

theorem run_checkAt [Host] (c : Curried) (slots : List Value) (index : Nat) (v : Value) :
    (checkAt c slots index v).run = ofChecked (c.checkArgument slots index v) := by
  unfold checkAt Curried.checkArgument
  cases c.environment <;> rfl

theorem run_putAll [Host] (c : Curried) (slots : List Value) (pairs : List (Nat × Value)) :
    (putAll c slots pairs).run = ofChecked (c.putAll slots pairs) := by
  induction pairs generalizing slots with
  | nil => rfl
  | cons pair rest ih =>
    obtain ⟨index, v⟩ := pair
    rw [putAll, Curried.putAll, Curried.put]
    split
    · exact ih slots
    · rw [ofChecked_bind, ofChecked_bind, bind_assoc, run_bind, run_checkAt]
      congr 1
      funext _
      exact ih (slots.set index v)

/-- **Watching a call changes nothing.** -/
theorem run_invoke [Host] (call : Value → List Value → Watched Value) (c : Curried)
    (arguments : List Value) : (invoke call c arguments).run =
      Run.invoke (fun f arguments => (call f arguments).run) c arguments := by
  unfold invoke Run.invoke
  by_cases hmany : c.hasSurplus arguments
  · rw [if_pos hmany, Curried.supply?_of_surplus hmany]
    rfl
  · rw [if_neg hmany, run_bind, run_putAll, Curried.supply?, if_neg hmany]
    congr 1
    funext slots
    split
    · rw [run_bind]
      congr 1
      funext result
      rw [run_bind, run_checkAt, Curried.checkResult_eq]
      rfl
    · rfl

end Watched

/-! ## Implementations -/

/-- What an implementation does: steps that have nothing to do with checks, and calls of values,
after which it goes on as it likes, also if they have ended in a fault. -/
inductive Program (α : Type) : Type 1
  | done (a : α)
  | step {β : Type} (x : Run β) (quiet : IsQuiet x) (next : β → Program α)
  | call (f : Value) (arguments : List Value) (next : Except (Fault Value) Value → Program α)

namespace Program

variable {α β : Type}

/-- The run of a program, given how values are called. -/
def run (call : Call) : Program α → Run α
  | done a => pure a
  | step x _ next => do (next (← x)).run call
  | .call f arguments next => do (next (← Run.attempt (call f arguments))).run call

/-- The run of a program with the checks that its calls make. -/
def watch (call : Value → List Value → Watched Value) : Program α → Watched α
  | done a => pure a
  | step x _ next => do (next (← Watched.unchecked x)).watch call
  | .call f arguments next => do (next (← (call f arguments).attempt)).watch call

/-- Watching a program changes nothing. -/
theorem run_watch (call : Value → List Value → Watched Value) (p : Program α) :
    (p.watch call).run = p.run fun f arguments => (call f arguments).run := by
  induction p with
  | done a => rfl
  | step x quiet next ih =>
    rw [watch, run, Watched.run_bind]
    exact congrArg _ (funext ih)
  | call f arguments next ih =>
    rw [watch, run, Watched.run_bind]
    exact congrArg _ (funext ih)

end Program

/-- How values that are no curried functions behave when they are called. -/
abbrev Behaviour := Value → List Value → Program Value

/-- Calls nested at most `depth` deep, with the checks that they make.  Curried functions check their
arguments and results; everything else behaves as given. -/
def callWith [Host] (behaviour : Behaviour) : Nat → Value → List Value → Watched Value
  | 0, _, _ => .unchecked (fail .tooDeep)
  | depth + 1, f, arguments =>
    match Curried.ofValue? f with
    | some c => .invoke (callWith behaviour depth) c arguments
    | none => (behaviour f arguments).watch (callWith behaviour depth)

end Run

end CheckedCurry
