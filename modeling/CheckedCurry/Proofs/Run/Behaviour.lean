import CheckedCurry.Proofs.Run.Watched
import CheckedCurry.Run.Apply

/-!
# How the interpreter behaves

All values but curried functions behave as programs do: whatever a call of them does besides calling
other values has nothing to do with checks.  So the calls of the interpreter are calls in which
values behave in one of the ways that implementations can.

- `Run.IsProgram`: what a program can do, however values are called; `IsProgram.bind`,
  `isProgram_call`, `isProgram_attempt`: how programs are put together.
- `Standard.callsOthers`: the standard functions that call values; `isProgram_standard`: all
  standard functions.
- `isProgram_step`: a call of a value that is no curried function.
- `exists_behaviour`: the interpreter, call for call.
-/

namespace CheckedCurry

variable [Host]

namespace Run

variable {α β : Type}

/-! ## Steps that have nothing to do with checks -/

omit [Host] in
theorem isQuiet_ite {p : Prop} [Decidable p] {x y : Run α} (hx : IsQuiet x) (hy : IsQuiet y) :
    IsQuiet (if p then x else y) := by
  split
  · exact hx
  · exact hy

omit [Host] in
/-- A value that is made out of what an operation answers. -/
theorem isQuiet_returning (x : Attempt α) (f : α → β) :
    IsQuiet (do return f (← ofAttempt x) : Run β) :=
  (isQuiet_ofAttempt x).bind fun _ => isQuiet_pure _

omit [Host] in
/-- An operation that is given a new mark. -/
theorem isQuiet_marking (x : Nat → Attempt α) :
    IsQuiet (do ofAttempt (x (← mark)) : Run α) :=
  isQuiet_mark.bind fun n => isQuiet_ofAttempt (x n)

omit [Host] in
theorem isQuiet_makeError (c : ErrorClass) (arguments : List Value) :
    IsQuiet (Class.makeError c arguments) :=
  isQuiet_ite (isQuiet_fail _) (isQuiet_marked _)

theorem isQuiet_classMake (c : Class) (arguments : List Value) : IsQuiet (c.make arguments) := by
  unfold Class.make
  split
  all_goals first
    | with_reducible exact isQuiet_pure _
    | with_reducible exact isQuiet_ofAttempt _
    | with_reducible exact isQuiet_fail _
    | with_reducible exact isQuiet_throw _
    | exact isQuiet_marked _
    | exact isQuiet_makeError _ _
    | exact isQuiet_returning _ _
    | exact isQuiet_marking _

omit [Host] in
theorem isQuiet_constructorMake (c : Constructor) (arguments : List Value) :
    IsQuiet (c.make arguments) :=
  isQuiet_ite ((isQuiet_ofAttempt _).bind fun _ => isQuiet_marked _) (isQuiet_fail _)

omit [Host] in
theorem isQuiet_makeRepresentative (arguments : List Value) :
    IsQuiet (Constructor.makeRepresentative arguments) := by
  unfold Constructor.makeRepresentative
  split
  · exact (isQuiet_ofAttempt _).bind fun _ => isQuiet_marked _
  · exact isQuiet_fail _

theorem isQuiet_helper (h : Helper) (arguments : List Value) : IsQuiet (h.run arguments) := by
  unfold Helper.run
  split
  all_goals first
    | with_reducible exact isQuiet_pure _
    | with_reducible exact isQuiet_ofAttempt _
    | with_reducible exact isQuiet_fail _
    | exact isQuiet_returning _ _
    | exact isQuiet_marking _
    | skip
  · refine (isQuiet_ofAttempt _).bind fun isEven => isQuiet_ite ?_ (isQuiet_pure _)
    exact isQuiet_mark.bind fun _ => isQuiet_returning _ _
  · split
    · exact isQuiet_pure _
    · exact isQuiet_fail _

/-! ## Programs -/

namespace Program

/-- A program after another one. -/
def bind (k : α → Program β) : Program α → Program β
  | done a => k a
  | step x quiet next => .step x quiet fun b => (next b).bind k
  | .call f arguments next => .call f arguments fun r => (next r).bind k

omit [Host] in
theorem run_bind (call : Call) (p : Program α) (k : α → Program β) :
    (p.bind k).run call = p.run call >>= fun a => (k a).run call := by
  induction p with
  | done a => exact (pure_bind (m := Run) a fun a => (k a).run call).symm
  | step x quiet next ih =>
    rw [bind, run, run, bind_assoc]
    exact congrArg _ (funext ih)
  | call f arguments next ih =>
    rw [bind, run, run, bind_assoc]
    exact congrArg _ (funext ih)

end Program

/-- A run that depends on how values are called is that of a program. -/
def IsProgram (x : Call → Run α) : Prop := ∃ p : Program α, ∀ call, p.run call = x call

omit [Host] in
theorem isProgram_of_quiet {x : Run α} (h : IsQuiet x) : IsProgram fun _ => x :=
  ⟨.step x h .done, fun _ => bind_pure x⟩

omit [Host] in
/-- A call whose fault is caught. -/
theorem isProgram_attempt (f : Value) (arguments : List Value) :
    IsProgram fun call => Run.attempt (call f arguments) :=
  ⟨.call f arguments .done, fun _ => bind_pure _⟩

omit [Host] in
theorem IsProgram.bind {x : Call → Run α} {k : α → Call → Run β} (hx : IsProgram x)
    (hk : ∀ a, IsProgram (k a)) : IsProgram fun call => x call >>= fun a => k a call := by
  obtain ⟨p, hp⟩ := hx
  choose q hq using hk
  refine ⟨p.bind q, fun call => ?_⟩
  rw [Program.run_bind, hp]
  exact congrArg _ (funext fun a => hq a call)

/-- A caught fault is raised again. -/
def resume : Except (Fault Value) α → Run α
  | .ok a => pure a
  | .error f => throw f

omit [Host] in
theorem isQuiet_resume (r : Except (Fault Value) α) : IsQuiet (resume r) := by
  cases r with
  | ok a => exact isQuiet_pure a
  | error f => exact isQuiet_throw f

omit [Host] in
/-- A fault that is caught and raised again might as well not be caught. -/
theorem attempt_resume (x : Run α) : (Run.attempt x >>= resume) = x := by
  funext m
  rcases h : x m with ⟨answer, m₁⟩
  cases answer with
  | ok a => exact bind_of_ok (attempt_of_ok h) _
  | error f =>
    have hattempt := attempt_of_error h
    split at hattempt
    · exact bind_of_error hattempt _
    · exact bind_of_ok hattempt _

omit [Host] in
/-- A call whose fault is not caught. -/
theorem isProgram_call (f : Value) (arguments : List Value) :
    IsProgram fun call => call f arguments := by
  obtain ⟨p, hp⟩ := (isProgram_attempt f arguments).bind fun r =>
    isProgram_of_quiet (isQuiet_resume r)
  exact ⟨p, fun call => (hp call).trans (attempt_resume (call f arguments))⟩

/-! ## Standard functions -/

theorem isProgram_method (v : Value) (name : String) (arguments : List Value) :
    IsProgram fun call => Standard.method call v name arguments := by
  have hread (w : Value) : IsProgram fun call =>
      (do call (← ofAttempt (w.readAttribute name)) arguments : Run Value) :=
    (isProgram_of_quiet (isQuiet_ofAttempt _)).bind fun g => isProgram_call g arguments
  cases v with
  | cls c => exact isProgram_of_quiet (isQuiet_ite (isQuiet_fail _) (isQuiet_fail _))
  | pattern _ => exact isProgram_of_quiet (isQuiet_ite (isQuiet_fail _) (isQuiet_fail _))
  | _ => exact hread _

theorem isProgram_onText (name : String) (ofText : String → Value) (ofBytes : List UInt8 → Value)
    (v : Value) : IsProgram fun call => Standard.onText call name ofText ofBytes v := by
  unfold Standard.onText
  cases v.core with
  | text s => exact isProgram_of_quiet (isQuiet_pure _)
  | bytes bs => exact isProgram_of_quiet (isQuiet_pure _)
  | _ => exact isProgram_method v name []

/-- The elements of what a method answers, as a list. -/
theorem isProgram_listOf (v : Value) (name : String) : IsProgram fun call =>
    (do return .list (← ofAttempt (← Standard.method call v name []).elements) : Run Value) :=
  (isProgram_method v name []).bind fun _ => isProgram_of_quiet (isQuiet_returning _ _)

theorem isProgram_keysOf (v : Value) : IsProgram fun call => Standard.keysOf call v := by
  cases v with
  | map es => exact isProgram_of_quiet (isQuiet_pure _)
  | _ => exact isProgram_listOf _ "keys"

theorem isProgram_valuesOf (v : Value) : IsProgram fun call => Standard.valuesOf call v := by
  cases v with
  | map es => exact isProgram_of_quiet (isQuiet_pure _)
  | _ => exact isProgram_listOf _ "values"

theorem isProgram_contentOr (default v : Value) :
    IsProgram fun call => Standard.contentOr call default v := by
  have hmethod := isProgram_method v "get_or_else" [default]
  cases v with
  | just w => exact isProgram_of_quiet (isQuiet_pure _)
  | nothing => exact isProgram_of_quiet (isQuiet_pure _)
  | _ => exact hmethod

/-- A caught fault is logged, but not as a rejection. -/
theorem isProgram_encased (f x : Value) : IsProgram fun call => Standard.encased call f x := by
  refine (isProgram_attempt f [x]).bind fun r => ?_
  cases r with
  | ok v => exact isProgram_of_quiet (isQuiet_pure _)
  | error e =>
    have hlogger : Log.catalog ≠ Log.checks := by decide
    -- without a note nothing is logged
    cases Standard.caughtNote f x with
    | ok note =>
      exact isProgram_of_quiet ((isQuiet_log hlogger).bind fun _ => isQuiet_pure _)
    | error _ => exact isProgram_of_quiet (isQuiet_pure _)

omit [Host] in
theorem isProgram_encasedEither (f g x : Value) :
    IsProgram fun call => Standard.encasedEither call f g x := by
  refine (isProgram_attempt g [x]).bind fun r => ?_
  cases r with
  | ok v => exact isProgram_of_quiet (isQuiet_pure _)
  | error e =>
    refine (isProgram_of_quiet (isQuiet_marked _)).bind fun caught => ?_
    exact (isProgram_call f [caught]).bind fun _ => isProgram_of_quiet (isQuiet_pure _)

theorem isProgram_mapped (f : Value) (xs : List Value) :
    IsProgram fun call => Standard.mapped call f xs := by
  induction xs with
  | nil => exact isProgram_of_quiet (isQuiet_pure _)
  | cons x xs ih =>
    refine (isProgram_call f [x]).bind fun m => ?_
    refine (isProgram_of_quiet (isQuiet_ofAttempt _)).bind fun isJust => ?_
    cases hjust : isJust.truth with
    | true =>
      refine (isProgram_of_quiet (isQuiet_ofAttempt (m.readAttribute "value"))).bind fun content => ?_
      exact ih.bind fun _ => isProgram_of_quiet (isQuiet_pure _)
    | false => exact ih

theorem isProgram_folded (default f m : Value) :
    IsProgram fun call => Standard.folded call default f m := by
  refine (isProgram_of_quiet (isQuiet_ofAttempt _)).bind fun isJust => ?_
  cases hjust : isJust.truth with
  | true =>
    exact (isProgram_of_quiet (isQuiet_ofAttempt _)).bind fun content =>
      isProgram_call f [content]
  | false => exact isProgram_of_quiet (isQuiet_pure _)

theorem isProgram_chosen (f g e : Value) : IsProgram fun call => Standard.chosen call f g e :=
  (isProgram_of_quiet (isQuiet_ofAttempt _)).bind fun _ =>
    (isProgram_of_quiet (isQuiet_ofAttempt _)).bind fun content => isProgram_call _ [content]

end Run

namespace Standard

open Run

/-- The standard functions that call values. -/
def callsOthers : Standard → Bool
  | apply | thrush | compose | flip | toLower | toUpper | trim | words | keys | values | fromMaybe
  | maybe | mapMaybe | encase | either | encaseEither => true
  | _ => false

variable {s : Standard} {arguments : List Value}

/-- A wrong number of arguments is a mistake. -/
theorem run_of_length_ne (call : Call) (h : arguments.length ≠ s.arity) :
    s.run call arguments = fail (.argumentCount s.name) := by
  unfold Standard.run
  split
  all_goals first
    | rfl
    | exact absurd rfl h

/-- A function that calls no values does not depend on how they are called. -/
theorem run_eq_of_callsOthers (h : s.callsOthers = false) (call call' : Call) :
    s.run call arguments = s.run call' arguments := by
  -- the longest list of arguments that a function looks into has three of them
  rcases arguments with _ | ⟨x, _ | ⟨y, _ | ⟨z, _ | ⟨w, rest⟩⟩⟩⟩
  all_goals cases s <;> first | rfl | cases h

theorem isQuiet_run (h : s.callsOthers = false) (call : Call) :
    IsQuiet (s.run call arguments) := by
  unfold Standard.run
  split
  all_goals first
    | with_reducible exact isQuiet_pure _
    | with_reducible exact isQuiet_ofAttempt _
    | with_reducible exact isQuiet_fail _
    | exact isQuiet_marking _
    | exact isQuiet_returning _ _
    | exact absurd h (by decide)

theorem isProgram_standard (s : Standard) (arguments : List Value) :
    IsProgram fun call => s.run call arguments := by
  by_cases hlen : arguments.length = s.arity
  · cases hcalls : s.callsOthers with
    | false =>
      have hquiet : IsQuiet (s.run Run.call arguments) := isQuiet_run hcalls Run.call
      obtain ⟨p, hp⟩ := isProgram_of_quiet hquiet
      exact ⟨p, fun call => (hp call).trans (run_eq_of_callsOthers hcalls _ _)⟩
    | true =>
      cases s with
      | apply =>
        obtain ⟨f, x, rfl⟩ := List.length_eq_two.mp hlen
        exact isProgram_call f [x]
      | thrush =>
        obtain ⟨x, f, rfl⟩ := List.length_eq_two.mp hlen
        exact isProgram_call f [x]
      | compose =>
        obtain ⟨f, g, x, rfl⟩ := List.length_eq_three.mp hlen
        exact (isProgram_call g [x]).bind fun y => isProgram_call f [y]
      | flip =>
        obtain ⟨f, x, y, rfl⟩ := List.length_eq_three.mp hlen
        exact isProgram_call f [y, x]
      | toLower | toUpper | trim | words =>
        obtain ⟨v, rfl⟩ := List.length_eq_one_iff.mp hlen
        exact isProgram_onText _ _ _ v
      | keys =>
        obtain ⟨v, rfl⟩ := List.length_eq_one_iff.mp hlen
        exact isProgram_keysOf v
      | values =>
        obtain ⟨v, rfl⟩ := List.length_eq_one_iff.mp hlen
        exact isProgram_valuesOf v
      | fromMaybe =>
        obtain ⟨default, v, rfl⟩ := List.length_eq_two.mp hlen
        exact isProgram_contentOr default v
      | maybe =>
        obtain ⟨default, f, m, rfl⟩ := List.length_eq_three.mp hlen
        exact isProgram_folded default f m
      | mapMaybe =>
        obtain ⟨f, xs, rfl⟩ := List.length_eq_two.mp hlen
        refine (isProgram_of_quiet (isQuiet_ofAttempt xs.elements)).bind fun items => ?_
        exact (isProgram_mapped f items).bind fun _ => isProgram_of_quiet (isQuiet_pure _)
      | encase =>
        obtain ⟨f, x, rfl⟩ := List.length_eq_two.mp hlen
        exact isProgram_encased f x
      | either =>
        obtain ⟨f, g, e, rfl⟩ := List.length_eq_three.mp hlen
        exact isProgram_chosen f g e
      | encaseEither =>
        obtain ⟨f, g, x, rfl⟩ := List.length_eq_three.mp hlen
        exact isProgram_encasedEither f g x
      | _ => cases hcalls
  · obtain ⟨p, hp⟩ := isProgram_of_quiet (α := Value) (isQuiet_fail (.argumentCount s.name))
    exact ⟨p, fun call => (hp call).trans (run_of_length_ne call hlen).symm⟩

end Standard

namespace Run

/-! ## Calls of values -/

/-- A call of a value that is no curried function is that of a program. -/
theorem isProgram_step {f : Value} (h : Curried.ofValue? f = none) (arguments : List Value) :
    IsProgram fun call => step call f arguments := by
  cases f with
  | curried => cases h
  | standard s => exact Standard.isProgram_standard s arguments
  | helper g => exact isProgram_of_quiet (isQuiet_helper g arguments)
  | constant mark v arity =>
    exact isProgram_of_quiet (isQuiet_ite (isQuiet_pure _) (isQuiet_fail _))
  | failing mark c message arity =>
    exact isProgram_of_quiet (isQuiet_ite (isQuiet_throw _) (isQuiet_fail _))
  | collecting mark p =>
    exact isProgram_of_quiet (isQuiet_ite (isQuiet_pure _) (isQuiet_fail _))
  | bound g receiver => exact isProgram_call g (receiver :: arguments)
  | cls c => exact isProgram_of_quiet (isQuiet_classMake c arguments)
  | constructor c => exact isProgram_of_quiet (isQuiet_constructorMake c arguments)
  | type mark t =>
    cases t with
    | representative _ => exact isProgram_of_quiet (isQuiet_makeRepresentative arguments)
    | _ => exact isProgram_of_quiet (isQuiet_fail _)
  | object shape attrs base =>
    refine isProgram_of_quiet (x := step Run.call (.object shape attrs base) arguments) ?_
    simp only [step]
    split
    · exact isQuiet_pure _
    · exact isQuiet_fail _
    · exact isQuiet_fail _
  | _ => exact isProgram_of_quiet (isQuiet_fail _)

/-- **The interpreter calls values as programs are called.**  There is a behaviour of values other
than curried functions under which every call does what the interpreter does. -/
theorem exists_behaviour : ∃ behaviour : Behaviour, ∀ depth f arguments,
    (callWith behaviour depth f arguments).run = apply depth f arguments := by
  have hprogram (f : Value) (arguments : List Value) : ∃ p : Program Value,
      Curried.ofValue? f = none → ∀ call, p.run call = step call f arguments := by
    by_cases h : Curried.ofValue? f = none
    · obtain ⟨p, hp⟩ := isProgram_step h arguments
      exact ⟨p, fun _ => hp⟩
    · exact ⟨.done f, fun hnone => absurd hnone h⟩
  choose behaviour hbehaviour using hprogram
  refine ⟨behaviour, fun depth => ?_⟩
  induction depth with
  | zero => exact fun _ _ => rfl
  | succ depth ih =>
    intro f arguments
    have hcall : (fun f arguments => (callWith behaviour depth f arguments).run) = apply depth :=
      funext fun f => funext fun arguments => ih f arguments
    rw [apply_succ, callWith]
    cases hf : Curried.ofValue? f with
    | none =>
      rw [Program.run_watch, hcall]
      exact hbehaviour f arguments hf _
    | some c =>
      rw [Watched.run_invoke, hcall]
      cases f with
      | curried mark s g environment slots =>
        obtain rfl := Option.some.inj hf
        rfl
      | _ => cases hf

end Run

end CheckedCurry
