import CheckedCurry.Library
import CheckedCurry.Proofs.Parameters
import CheckedCurry.Proofs.Run.Calls

/-!
# Which definitions are accepted

A function is defined with one type for each of its parameters, and its calls with all arguments
come to the implementation with as many values.  Whether the implementation takes that many is
looked at when the function is defined: the parameters without a default are counted.  For an
implementation that takes any number of arguments they are not counted, and nothing is refused.

- `Value.HasParameters`: the parameters of functions that programs write.
- `Value.Binds`: calls with a number of arguments do not fail for their number; `binds_iff` says
  which numbers these are, and `fails_iff` that all other calls do fail.
- `Library.define_eq`: what a definition comes to; `define_of_no_count`: what it comes to where the
  parameters are not counted.
- `Library.define_binds`: definitions that are accepted, and what becomes of their calls;
  `define_without_binding` is one whose calls fail.

Functions whose parameters cannot be found out (built-in ones and some methods) have none by
`Value.HasParameters` and are left out of the main result: they are not counted, and can be defined with
any number of types.
-/

namespace CheckedCurry

namespace Value

/-! ## Parameters -/

/-- A function that programs write has the parameters it is written with. -/
inductive HasParameters : Value → Parameters → Prop
  | constant (mark : Nat) (v : Value) (ps : Parameters) : HasParameters (.constant mark v ps) ps
  | failing (mark : Nat) (c : ErrorClass) (message : String) (ps : Parameters) :
    HasParameters (.failing mark c message ps) ps
  | collecting (mark : Nat) (ps : Parameters) : HasParameters (.collecting mark ps) ps

variable {f : Value} {ps : Parameters}

/-- What a definition counts are the parameters without a default, unless any number of arguments
is taken. -/
theorem HasParameters.parameterCount?_eq (h : f.HasParameters ps) :
    f.parameterCount? = if ps.isVariadic = true then none else some ps.required := by
  have hlist : f.parameters? = some ps.list := by cases h <;> rfl
  rw [parameterCount?, hlist]
  exact Parameter.count?_eq ps.list

end Value

namespace Library

open Curried (fresh isSaturated)

variable {l : Library} {s : Signature} {f : Value} {ps : Parameters}

/-! ## Definitions -/

/-- A function is curried with a new mark, and that is logged. -/
theorem make_eq (m : Machine) : define.make l s f m =
    (.ok ((fresh s f l.checks?).toValue (m.write (l.curryingRecord s)).nextMark),
      (m.write (l.curryingRecord s)).advance) := rfl

/-- Where there is no count, a definition is accepted with any number of types. -/
theorem define_of_no_count (h : f.parameterCount? = none) (m : Machine) : l.define s f m =
    (.ok ((fresh s f l.checks?).toValue (m.write (l.curryingRecord s)).nextMark),
      (m.write (l.curryingRecord s)).advance) := by
  rw [define, h]
  exact make_eq m

/-- A definition is accepted if the number of types is that of the parameters without a default, or
if any number of arguments is taken.  Otherwise it is a mistake. -/
theorem define_eq (hp : f.HasParameters ps) (m : Machine) : l.define s f m =
    if ps.isVariadic = true ∨ ps.required = s.arity then
      (.ok ((fresh s f l.checks?).toValue (m.write (l.curryingRecord s)).nextMark),
        (m.write (l.curryingRecord s)).advance)
    else (.error (.misuse (.parameterCount s.name ps.required s.arity)), m) := by
  by_cases hvariadic : ps.isVariadic = true
  · rw [if_pos (.inl hvariadic)]
    exact define_of_no_count (hp.parameterCount?_eq.trans (if_pos hvariadic)) m
  · rw [define, hp.parameterCount?_eq, if_neg hvariadic]
    by_cases harity : ps.required = s.arity
    · rw [if_pos (.inr harity)]
      show (if ps.required = s.arity then _ else _ : Run Value) m = _
      rw [if_pos harity, make_eq]
    · rw [if_neg (not_or.mpr ⟨hvariadic, harity⟩)]
      show (if ps.required = s.arity then _ else _ : Run Value) m = _
      rw [if_neg harity]
      rfl

/-- A definition that answers has been accepted, and answers the curried function. -/
theorem accepted_of_define {m m' : Machine} {g : Value} (hp : f.HasParameters ps)
    (h : l.define s f m = (.ok g, m')) :
    (ps.isVariadic = true ∨ ps.required = s.arity) ∧
      ∃ mark, g = (fresh s f l.checks?).toValue mark := by
  rw [define_eq hp] at h
  split at h
  · next haccepted =>
    cases h
    exact ⟨haccepted, _, rfl⟩
  · cases h

end Library

variable [Host]

namespace Value

/-! ## Binding -/

variable {f : Value} {ps : Parameters} {count : Nat}

/-- Calls with so many arguments do not fail for their number. -/
def Binds (f : Value) (count : Nat) : Prop :=
  ∀ (call : Call) (arguments : List Value) (m m' : Machine) (name : String),
    arguments.length = count →
    Run.step call f arguments m ≠ (.error (.basic (.argumentCount name)), m')

/-- A call comes to nothing but a failure for the number of its arguments if they do not bind. -/
theorem HasParameters.step_of_not_takes (h : f.HasParameters ps) {arguments : List Value}
    (hcount : ps.takes arguments.length = false) (call : Call) (m : Machine) :
    ∃ name, Run.step call f arguments m = (.error (.basic (.argumentCount name)), m) := by
  cases h with
  | constant mark v ps => exact ⟨"const", by rw [Run.step, hcount]; rfl⟩
  | failing mark c message ps => exact ⟨"fail", by rw [Run.step, hcount]; rfl⟩
  | collecting mark ps => exact ⟨"collect", by rw [Run.step, hcount]; rfl⟩

/-- A call whose arguments bind does not fail for their number. -/
theorem HasParameters.step_of_takes (h : f.HasParameters ps) {arguments : List Value}
    (hcount : ps.takes arguments.length = true) (call : Call) (m m' : Machine) (name : String) :
    Run.step call f arguments m ≠ (.error (.basic (.argumentCount name)), m') := by
  intro hfails
  cases h <;> rw [Run.step, hcount] at hfails <;> cases hfails

theorem HasParameters.binds_iff_takes (h : f.HasParameters ps) :
    f.Binds count ↔ ps.takes count = true := by
  constructor
  · intro hbinds
    by_contra hcount
    have hlength : (List.replicate count Value.null).length = count := List.length_replicate
    obtain ⟨name, hfails⟩ := h.step_of_not_takes
      (by rw [hlength]; exact Bool.eq_false_iff.mpr hcount) Run.call (.start none)
    exact hbinds _ _ _ _ _ hlength hfails
  · rintro hcount call arguments m m' name rfl
    exact h.step_of_takes hcount call m m' name

/-- **A function binds** a number of arguments from its parameters without a default on, and up to
all positional ones unless it takes any number, if those that are given by name have defaults. -/
theorem HasParameters.binds_iff (h : f.HasParameters ps) (hnamed : ps.namedHaveDefaults = true) :
    f.Binds count ↔
      ps.required ≤ count ∧ (ps.isVariadic = true ∨ count ≤ ps.required + ps.optional) := by
  rw [h.binds_iff_takes, Parameters.takes_iff, and_iff_left hnamed]

/-- A call fails for the number of its arguments if the function does not bind so many, on every
machine alike. -/
theorem HasParameters.fails_iff (h : f.HasParameters ps) (call : Call) (arguments : List Value)
    (m : Machine) :
    (∃ name m', Run.step call f arguments m = (.error (.basic (.argumentCount name)), m')) ↔
      ¬ f.Binds arguments.length := by
  constructor
  · rintro ⟨name, m', hfails⟩ hbinds
    exact hbinds call arguments m m' name rfl hfails
  · intro hfails
    rw [h.binds_iff_takes, Bool.not_eq_true] at hfails
    obtain ⟨name, hstep⟩ := h.step_of_not_takes hfails call m
    exact ⟨name, m, hstep⟩

end Value

namespace Library

open Curried (fresh isSaturated)
open Run (calls complete step)

/-! ## Calls of what has been defined -/

/-- **Definitions and calls.**  A function that programs write, whose parameters that are given by name
have defaults, binds a number of arguments from its parameters without a default on, and up to all
positional ones unless it takes any number.

Without taking any number, a definition that is accepted has a type for each argument of calls that
bind, and one whose calls would not bind is refused as an error of a value.  Taking any number, a
function can be defined with any number of types, and binds if there are enough of them.

Calls of what has been defined, of which the last one and no other fills all slots, come to the
function with exactly as many values as there are types.  The function then fails for their number
if it does not bind so many, and only then. -/
theorem define_binds (l : Library) (s : Signature) {f : Value} {ps : Parameters}
    (hp : f.HasParameters ps) (hnamed : ps.namedHaveDefaults = true) :
    let c := fresh s f l.checks?
    (∀ count, f.Binds count ↔
      ps.required ≤ count ∧ (ps.isVariadic = true ∨ count ≤ ps.required + ps.optional)) ∧
    (ps.isVariadic = false →
      (∀ m g m', l.define s f m = (.ok g, m') → f.Binds s.arity) ∧
      (¬ f.Binds s.arity →
        ∀ m, ∃ fault, l.define s f m = (.error fault, m) ∧ fault.errorClass = .value)) ∧
    (ps.isVariadic = true →
      (∀ m, ∃ g m', l.define s f m = (.ok g, m')) ∧ (f.Binds s.arity ↔ ps.required ≤ s.arity)) ∧
    ∀ m g m', l.define s f m = (.ok g, m') →
      ∀ groups arguments slots, c.LeaveOpen groups →
        c.supplyAll? (groups ++ [arguments]) = .ok slots → isSaturated slots = true →
        slots.length = s.arity ∧ ∀ (call : Call) (m₁ : Machine),
          let ready := Machine.advance^[groups.length] m₁
          calls (step (step call)) g (groups ++ [arguments]) m₁ =
            complete (step call) c slots ready ∧
          ((∃ name m₂, step call f slots ready = (.error (.basic (.argumentCount name)), m₂)) ↔
            ¬ f.Binds s.arity) := by
  intro c
  refine ⟨fun count => hp.binds_iff hnamed, fun hfixed => ⟨fun m g m' h => ?_, fun hfails m => ?_⟩,
    fun hvariadic => ⟨fun m => ?_, ?_⟩, ?_⟩
  · have haccepted := (accepted_of_define hp h).1.resolve_left (by simp [hfixed])
    exact (hp.binds_iff hnamed).mpr ⟨by omega, .inr (by omega)⟩
  · -- a number of types that is accepted would bind
    have hrefused : ¬ (ps.isVariadic = true ∨ ps.required = s.arity) := by
      rintro (hvariadic | harity)
      · simp [hfixed] at hvariadic
      · exact hfails ((hp.binds_iff hnamed).mpr ⟨by omega, .inr (by omega)⟩)
    exact ⟨_, by rw [define_eq hp, if_neg hrefused], rfl⟩
  · exact ⟨_, _, by rw [define_eq hp, if_pos (.inl hvariadic)]⟩
  · simp [hp.binds_iff hnamed, hvariadic]
  · intro m g m' h groups arguments slots hopen hsupplied hfull
    obtain ⟨-, mark, rfl⟩ := accepted_of_define hp h
    have hlength : slots.length = s.arity := by
      rw [Curried.eq_after_of_supplyAll? hsupplied, Curried.slots_after, Curried.length_fillAll]
      exact List.length_replicate
    refine ⟨hlength, fun call m₁ => ⟨Run.calls_of_saturated hopen hsupplied hfull mark m₁ _, ?_⟩⟩
    rw [← hlength]
    exact hp.fails_iff call slots _

omit [Host] in
/-- A parameter without a default, one with a default and two that can only be given by name, for one
type. -/
theorem define_binds_with_default : letI : Host := .bare
    let ps : Parameters :=
      ⟨[⟨.placeOrName, false⟩, ⟨.placeOrName, true⟩, ⟨.name, true⟩, ⟨.name, true⟩], by decide⟩
    let f := Value.collecting 0 ps
    let s : Signature := ⟨"f", [.anything], .anything, []⟩
    let l := Library.standard true
    let c := fresh s f l.checks?
    f.HasParameters ps ∧ ps.namedHaveDefaults = true ∧
    l.define s f (.start none) = (.ok (c.toValue 1000), .advance (.start none)) ∧ f.Binds s.arity ∧
    c.LeaveOpen [] ∧ c.supplyAll? ([] ++ [[.int 5]]) = .ok [.int 5] ∧ isSaturated [.int 5] = true ∧
    calls (step (step Run.call)) (c.toValue 1000) ([] ++ [[.int 5]]) (.start none) =
      complete (step Run.call) c [.int 5] (.start none) ∧
    ¬ ∃ name m, step Run.call f [.int 5] (.start none) =
      (.error (.basic (.argumentCount name)), m) := by
  let _ : Host := .bare
  intro ps f s l c
  have hp : f.HasParameters ps := .collecting 0 ps
  have hnamed : ps.namedHaveDefaults = true := rfl
  have hdefine : l.define s f (.start none) =
      (.ok (c.toValue 1000), .advance (.start none)) := by rfl
  have hsupplied : c.supplyAll? ([] ++ [[.int 5]]) = .ok [.int 5] := by rfl
  obtain ⟨-, hfixed, -, hcalls⟩ := define_binds l s hp hnamed
  have hbinds := (hfixed rfl).1 _ _ _ hdefine
  obtain ⟨-, hrun⟩ := hcalls _ _ _ hdefine [] [.int 5] _ (Curried.leaveOpen_nil c) hsupplied rfl
  obtain ⟨hcomplete, hfails⟩ := hrun Run.call (.start none)
  exact ⟨hp, hnamed, hdefine, hbinds, Curried.leaveOpen_nil c, hsupplied, rfl, hcomplete,
    fun h => hfails.mp h hbinds⟩

omit [Host] in
/-- Two parameters without a default and any number of others, for one type: the definition is
accepted, and the call with all arguments fails for their number. -/
theorem define_without_binding : letI : Host := .bare
    let ps : Parameters :=
      ⟨[⟨.placeOrName, false⟩, ⟨.placeOrName, false⟩, ⟨.places, false⟩], by decide⟩
    let f := Value.collecting 0 ps
    let s : Signature := ⟨"f", [.anything], .anything, []⟩
    let l := Library.standard true
    let g := (fresh s f l.checks?).toValue 1000
    l.define s f (.start none) = (.ok g, .advance (.start none)) ∧ ¬ f.Binds s.arity ∧
    calls (step Run.call) g [[.int 1]] (.start none) =
      (.error (.basic (.argumentCount "collect")), .start none) := by
  let _ : Host := .bare
  intro ps f s l g
  refine ⟨rfl, fun hbinds => ?_, rfl⟩
  exact hbinds Run.call [.int 1] (.start none) (.start none) "collect" rfl rfl

end Library

end CheckedCurry
