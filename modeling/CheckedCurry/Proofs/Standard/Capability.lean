import CheckedCurry.Library
import CheckedCurry.Proofs.Curried.Transparency
import CheckedCurry.Proofs.Signature.Rejection
import CheckedCurry.Proofs.Standard.Soundness
import CheckedCurry.Proofs.Value.Dispatch

/-!
# Missing operations

The logic functions and the functions that join and compare need operations of their arguments, and
their signatures say so.  A library that checks looks at the arguments themselves before anything
runs.  It does not look at what they contain: joining and comparing follow optional values inside,
and there they may come upon a value that lacks the operation.

- `Standard.operating`, `Standard.nested?`: the functions, and the operation they follow inside.
- `run_eq_capability_iff`: what a run on supported arguments reports as lacking.
- `checkArgument_of_lacking`: what the check of an argument without an operation ends in.
- `Library.lack_reported`: chains of calls of a library that checks.
-/

namespace CheckedCurry

variable [Host]

open Capability (Operation)

/-- A value at a type variable is bound itself. -/
theorem Signature.bindingsAt_var (i : Nat) (b : TypeVar) (v : Value) :
    bindingsAt i (.var b) v = .ok [⟨b, [i], v⟩] := by
  rw [bindingsAt, Ty.bindings_var]
  rfl

/-- What stands at a type variable is a member, so that the capabilities of the value come first. -/
theorem Signature.checkAt_var {s : Signature} {environment : List Ty} {slots : List Value} {i : Nat}
    {b : TypeVar} {v : Value} {p : Problem}
    (h : s.checkRequired environment [⟨b, [i], v⟩] = .error p) :
    s.checkAt environment slots i (.var b) v = .error p := by
  have hmember : s.checkMember environment i (.var b) v = .ok () :=
    checkMember_eq_ok.mpr (Ty.misfit?_var b v)
  rw [checkAt, hmember, bindingsAt_var]
  show (s.checkRequired environment [⟨b, [i], v⟩] >>= _) = _
  rw [h]
  rfl

namespace Standard

/-- The functions that need operations of their arguments. -/
def operating : List Standard := [and, or, xor, concat, equals]

/-- The operation with which a function goes on inside its arguments, if it does. -/
def nested? : Standard → Option Operation
  | concat => some .concat
  | equals => some .equals
  | _ => none

variable {s : Standard}

omit [Host] in
/-- These functions have two parameters, both of one variable. -/
theorem params_of_operating (hs : s ∈ operating) : s.params = [.var a, .var a] := by
  cases s with
  | and | or | xor | concat | equals => rfl
  | _ => exact absurd hs (by decide)

omit [Host] in
theorem types_of_operating (hs : s ∈ operating) {i : Nat} (hi : i < 2) :
    s.signature.types[i]? = some (.var a) := by
  have hparams : s.signature.params = [.var a, .var a] := params_of_operating hs
  rw [Signature.types_getElem?_of_lt (by rwa [Signature.arity, hparams]), hparams]
  obtain rfl | rfl : i = 0 ∨ i = 1 := by omega
  all_goals rfl

omit [Host] in
/-- What such a function needs is required of the variable. -/
theorem required_of_operating (hs : s ∈ operating) :
    s.signature.required a = s.operations.map Capability.ofOperation := by
  cases s with
  | and | or | xor | concat | equals => rfl
  | _ => exact absurd hs (by decide)

omit [Host] in
theorem ofOperation_mem_required (hs : s ∈ operating) {o : Operation} (ho : o ∈ s.operations) :
    Capability.ofOperation o ∈ s.signature.required a := by
  rw [required_of_operating hs]
  exact List.mem_map_of_mem ho

/-! ## Runs -/

/-- The truth of two values that have one is found, and with it what comes of them. -/
theorem isBasic_both {x y : Value} (hx : x.supports .toBoolean = true) : (x.both y).IsBasic :=
  (Value.isBasic_asBoolean hx).map _

theorem isBasic_oneOf {x y : Value} (hx : x.supports .toBoolean = true) : (x.oneOf y).IsBasic :=
  (Value.isBasic_asBoolean hx).map _

theorem isBasic_exclusive {x y : Value} (hx : x.supports .toBoolean = true)
    (hy : y.supports .toBoolean = true) (hempty : x.supports .empty = true) :
    (x.exclusive y).IsBasic := by
  refine (Value.isBasic_asBoolean hx).bind fun first => ?_
  refine (Value.isBasic_asBoolean hy).bind fun second => ?_
  refine (Value.isBasic_equals first second).bind fun same => ?_
  rw [if_pos hempty]
  exact Attempt.isBasic_ite (Value.isBasic_emptyLike hempty) (Attempt.isBasic_ok _)

/-- A run on arguments that support what is required reports a lack exactly if the operation meets
it inside them. -/
theorem run_eq_capability_iff (hs : s ∈ operating) {x y : Value} {call : Call} {m : Machine}
    (hx : ∀ o ∈ s.operations, x.supports o = true) (hy : ∀ o ∈ s.operations, y.supports o = true)
    {shown name : String} :
    (s.run call [x, y] m).1 = .error (.capability shown name) ↔
      ∃ o u, s.nested? = some o ∧ Value.Meets o x y u ∧ u.supports o = false ∧
        u.display = .ok shown ∧ name = o.name := by
  have hnever {z : Attempt Value} (hz : z.IsBasic) (hnested : s.nested? = none) :
      z = .error (.capability shown name) ↔ ∃ o u, s.nested? = some o ∧ Value.Meets o x y u ∧
        u.supports o = false ∧ u.display = .ok shown ∧ name = o.name := by
    refine ⟨fun h => absurd h (hz.ne_capability shown name), ?_⟩
    rintro ⟨o, u, ho, -⟩
    rw [hnested] at ho
    cases ho
  have hnests {o : Operation} {f : Value → Value → Attempt Value} (hf : Value.StepsInside o f)
      (hnested : s.nested? = some o) :
      f x y = .error (.capability shown name) ↔ ∃ o u, s.nested? = some o ∧ Value.Meets o x y u ∧
        u.supports o = false ∧ u.display = .ok shown ∧ name = o.name := by
    rw [hf.eq_capability_iff, hnested]
    exact ⟨fun ⟨u, hu⟩ => ⟨o, u, rfl, hu⟩, fun ⟨o', u, ho, hu⟩ => by cases ho; exact ⟨u, hu⟩⟩
  cases s with
  | and => exact hnever (isBasic_both (hx .toBoolean (by decide))) rfl
  | or => exact hnever (isBasic_oneOf (hx .toBoolean (by decide))) rfl
  | xor =>
    exact hnever (isBasic_exclusive (hx .toBoolean (by decide)) (hy .toBoolean (by decide))
      (hx .empty (by decide))) rfl
  | concat =>
    have hrun : (concat.run call [x, y] m).1 = x.joinWith m.nextMark y :=
      Value.perform_concat m.nextMark x y
    rw [hrun]
    exact hnests (Value.stepsInside_joinWith _) rfl
  | equals =>
    have hrun : (equals.run call [x, y] m).1 =
        do return .bool (← Value.perform 0 .equals x [y]).truth := by
      show ((do return .bool (← Run.ofAttempt (Value.perform 0 .equals x [y])).truth : Run Value) m).1
        = _
      cases Value.perform 0 .equals x [y] <;> rfl
    have hends : (equals.run call [x, y] m).1 = .error (.capability shown name) ↔
        x.agreesWith y = .error (.capability shown name) := by
      rw [hrun, Value.perform_equals]
      cases x.agreesWith y with
      | ok answer => exact iff_of_false (fun h => by cases h) (fun h => by cases h)
      | error f => exact Iff.rfl
    rw [hends]
    exact hnests Value.stepsInside_agreesWith rfl
  | _ => exact absurd hs (by decide)

/-! ## Checks -/

/-- The check of an argument that lacks an operation reports the first one that it lacks, whatever
has been supplied before. -/
theorem checkArgument_of_lacking (hs : s ∈ operating) {environment : List Ty} (slots : List Value)
    {i : Nat} (hi : i < 2) {v : Value} {entry : Report.Entry}
    (hlack : ∃ o ∈ s.operations, v.supports o = false)
    (hentry : Signature.describe environment v = .ok entry) :
    ∃ o ∈ s.operations, v.supports o = false ∧ ∃ note report,
      s.signature.checkArgument environment slots i v =
        .error ⟨note, .typeClass report s.name o.name v⟩ := by
  -- the value is a member and is bound itself, so that its operations are looked at next
  let b : Ty.Binding := ⟨a, [i], v⟩
  cases hfirst : s.signature.firstLack? [b] with
  | none =>
    have hpass : s.signature.checkRequired environment [b] = .ok () := by
      rw [Signature.checkRequired, hfirst]
      rfl
    obtain ⟨o, ho, hv⟩ := hlack
    have hsupports := Signature.checkRequired_eq_ok.mp hpass b (List.mem_singleton_self b) _
      (ofOperation_mem_required hs ho)
    exact absurd (hv.symm.trans hsupports) Bool.false_ne_true
  | some lack =>
    obtain ⟨b', c⟩ := lack
    obtain ⟨before, after, had, others, hb, -, hrequired, -, hlacks⟩ :=
      Signature.exists_of_firstLack? hfirst
    obtain ⟨rfl, rfl, rfl⟩ : before = [] ∧ b = b' ∧ after = [] := by
      cases before with
      | nil => simpa using hb
      | cons _ before => simp at hb
    have hc : c ∈ s.operations.map Capability.ofOperation := by
      rw [← required_of_operating hs, hrequired]
      simp
    obtain ⟨o, ho, rfl⟩ := List.mem_map.mp hc
    obtain ⟨note, hcheck⟩ := Signature.checkRequired_of_firstLack? hfirst hentry
    have hargument : s.signature.checkArgument environment slots i v =
        s.signature.checkAt environment slots i (.var a) v := by
      rw [Signature.checkArgument, types_of_operating hs hi]
    exact ⟨o, ho, hlacks, some note, _, hargument.trans (Signature.checkAt_var hcheck)⟩

end Standard

namespace Curried

/-- No check is about capabilities of an implementation, and neither is a surplus. -/
theorem ne_capability_of_supplyAll? {c : Curried} {groups : List (List Value)} {p : Problem}
    (h : c.supplyAll? groups = .error p) (shown name : String) :
    p.fault ≠ .capability shown name := by
  induction groups using List.reverseRecOn with
  | nil => cases h
  | append_singleton groups arguments ih =>
    cases hall : c.supplyAll? groups with
    | error q =>
      rw [supplyAll?_concat_of_error hall] at h
      cases h
      exact ih hall
    | ok slots =>
      rw [supplyAll?_concat_of_ok hall] at h
      intro hfault
      rcases surplus_or_isOfCheck h with ⟨-, rfl⟩ | hcheck
      · cases hfault
      · rw [hfault] at hcheck
        exact hcheck

/-- A call that comes to its implementation reports a lack exactly if the implementation does. -/
theorem complete_eq_capability_iff {call : Call} {c : Curried} {slots : List Value} {m : Machine}
    {shown name : String} :
    (Run.complete call c slots m).1 = .error (.capability shown name) ↔
      (call c.implementation slots m).1 = .error (.capability shown name) := by
  constructor
  · intro h
    rcases complete_error (Prod.ext h rfl) with hcall | hcheck
    · rw [hcall]
    · exact hcheck.elim
  · intro h
    rw [Run.complete_of_error (Prod.ext h rfl)]

/-- A call of a checked function is refused at the first value whose check fails. -/
theorem supply?_of_refused {c : Curried} {environment : List Ty} {before after slots : List Value}
    {v : Value} (henv : c.environment = some environment)
    (hnone : c.hasSurplus (before ++ v :: after) = false) (hv : v.isOpen = false)
    (hbefore : c.supply? before = .ok slots) :
    ∃ i < c.slots.length, ∀ p, c.signature.checkArgument environment slots i v = .error p →
      c.supply? (before ++ v :: after) = .error p := by
  -- a value beyond the open slots would be a surplus
  have hlt : before.length < c.arity := by
    by_contra hge
    have hmem : v ∈ (before ++ v :: after).drop c.arity := by
      rw [List.drop_append_of_le_length (Nat.le_of_not_lt hge)]
      simp
    rw [hasSurplus_eq_false_iff.mp hnone v hmem] at hv
    cases hv
  obtain ⟨hnone', -⟩ := eq_fill_of_supply? hbefore
  rw [supply?_eq, hnone', if_neg Bool.false_ne_true] at hbefore
  obtain ⟨i, hi, hrefused⟩ := feed_refused hv hlt hbefore
  refine ⟨i, hi, fun p hp => ?_⟩
  rw [supply?_eq, hnone, if_neg Bool.false_ne_true]
  refine hrefused p after ?_
  rw [checkArgument, henv]
  exact hp

end Curried

namespace Library

open Curried Standard

variable {l : Library} {s : Standard} {groups : List (List Value)}

/-- Arguments that have been accepted support what is required of them. -/
theorem supports_of_supplyAll? (hchecked : l.isChecked = true) (hs : s ∈ operating)
    {slots : List Value} (h : (l.curriedOf s).supplyAll? groups = .ok slots) :
    slots.length = 2 ∧
      ∀ v ∈ slots, v.isOpen = false → ∀ o ∈ s.operations, v.supports o = true := by
  have henv : (l.curriedOf s).environment = some l.environment := if_pos hchecked
  have harity : s.signature.arity = 2 := congrArg List.length (params_of_operating hs)
  obtain ⟨hlen, σ, hσ⟩ := coherent_of_supplyAll? henv List.length_replicate
    (Signature.coherent_placeholders _ _) h
  have hlen' : slots.length = 2 := hlen.trans harity
  refine ⟨hlen', fun v hv hclosed o ho => ?_⟩
  obtain ⟨i, hi⟩ := List.mem_iff_getElem?.mp hv
  have hlt : i < 2 := hlen' ▸ (List.getElem?_eq_some_iff.mp hi).1
  have hfits := (hσ i (.var a) v (types_of_operating hs hlt) hi hclosed).supported
  rw [Ty.fits_var] at hfits
  exact hfits _ (ofOperation_mem_required hs ho)

/-- Once all arguments have been accepted, what the run of the function reports is reported. -/
theorem accepted_eq_capability_iff (hchecked : l.isChecked = true) (hs : s ∈ operating)
    {arguments : List Value} (hopen : (l.curriedOf s).LeaveOpen groups) {x y : Value}
    (hall : (l.curriedOf s).supplyAll? (groups ++ [arguments]) = .ok [x, y]) {call : Call}
    {m : Machine} {shown name : String} :
    (Run.calls (Run.step (Run.step call)) (l.function s) (groups ++ [arguments]) m).1 =
        .error (.capability shown name) ↔
      isSaturated [x, y] = true ∧ ∃ o u, s.nested? = some o ∧ Value.Meets o x y u ∧
        u.supports o = false ∧ u.display = .ok shown ∧ name = o.name := by
  by_cases hfull : isSaturated [x, y] = true
  · have hclosed := isSaturated_iff_closed.mp hfull
    have hsupports := (supports_of_supplyAll? hchecked hs hall).2
    have hx := hsupports x (by simp) (hclosed x (by simp))
    have hy := hsupports y (by simp) (hclosed y (by simp))
    rw [function, Run.calls_of_saturated hopen hall hfull, complete_eq_capability_iff]
    exact (run_eq_capability_iff hs hx hy).trans (and_iff_right hfull).symm
  · -- the answer is a partial application
    refine ⟨fun h => ?_, fun h => absurd h.1 hfull⟩
    rw [supplyAll?_concat] at hall
    obtain ⟨middle, hmiddle, hlast⟩ := bind_eq_ok.mp hall
    rw [eq_after_of_supplyAll? hmiddle] at hlast
    rw [function, Run.calls_concat_of_supplyAll?_ok hopen hmiddle,
      Run.invoke_partial (c := (l.curriedOf s).after groups) hlast (by simpa using hfull)] at h
    cases h

/-- **Where a missing operation is reported.**  Let a library that checks be given, and calls of a
function that needs operations of its arguments, of which only the last one may leave no slot open.

If a value that is supplied lacks an operation that is needed, the chain ends in a fault that is
not one about capabilities, and the implementation has no part in it.  If that value is the first
one that is refused, and can be described, the fault is that of the type class: it names the
function, the operation and the value.

A fault about a capability comes only from joining and comparing, after both arguments have been
accepted: exactly if the operation, followed from the arguments to what they contain, meets a
value that lacks it and can be shown. -/
theorem lack_reported (hchecked : l.isChecked = true) (hs : s ∈ operating)
    {arguments : List Value} (hopen : (l.curriedOf s).LeaveOpen groups) (m : Machine) :
    let c := l.curriedOf s
    let run := fun call : Call =>
      Run.calls (Run.step call) (l.function s) (groups ++ [arguments]) m
    (∀ v ∈ (c.after (groups ++ [arguments])).slots, v.isOpen = false →
      (∃ o ∈ s.operations, v.supports o = false) →
      ∃ fault m', (∀ shown name, fault ≠ .capability shown name) ∧
        ∀ call : Call, run call = (.error fault, m')) ∧
    (∀ before v after slots entry, arguments = before ++ v :: after →
      c.supplyAll? (groups ++ [before]) = .ok slots →
      (c.after groups).hasSurplus arguments = false → v.isOpen = false →
      (∃ o ∈ s.operations, v.supports o = false) →
      Signature.describe l.environment v = .ok entry →
      ∃ o ∈ s.operations, v.supports o = false ∧ ∃ report m', ∀ call : Call,
        run call = (.error (.typeClass report s.name o.name v), m')) ∧
    (∀ (call : Call) (shown name : String),
      (run (Run.step call)).1 = .error (.capability shown name) ↔
        ∃ x y o u, c.supplyAll? (groups ++ [arguments]) = .ok [x, y] ∧
          isSaturated [x, y] = true ∧ s.nested? = some o ∧ Value.Meets o x y u ∧
          u.supports o = false ∧ u.display = .ok shown ∧ name = o.name) := by
  intro c run
  have henv : c.environment = some l.environment := if_pos hchecked
  refine ⟨fun v hv hclosed hlack => ?_, ?_, fun call shown name => ?_⟩
  · cases hall : c.supplyAll? (groups ++ [arguments]) with
    | error p =>
      obtain ⟨m', hrun⟩ := Run.calls_concat_of_supplyAll?_error hopen hall (l.markOf s) m
      exact ⟨p.fault, m', ne_capability_of_supplyAll? hall, hrun⟩
    | ok slots =>
      obtain ⟨o, ho, hunsupported⟩ := hlack
      rw [← eq_after_of_supplyAll? hall] at hv
      rw [(supports_of_supplyAll? hchecked hs hall).2 v hv hclosed o ho] at hunsupported
      cases hunsupported
  · rintro before v after slots entry rfl haccepted hnone hclosed hlack hentry
    rw [supplyAll?_concat] at haccepted
    obtain ⟨middle, hmiddle, hbefore⟩ := bind_eq_ok.mp haccepted
    rw [eq_after_of_supplyAll? hmiddle] at hbefore
    obtain ⟨i, hi, hrefused⟩ := supply?_of_refused (c := c.after groups) henv hnone hclosed hbefore
    have hlen := (supports_of_supplyAll? hchecked hs hmiddle).1
    rw [eq_after_of_supplyAll? hmiddle] at hlen
    obtain ⟨o, ho, hunsupported, note, report, hcheck⟩ :=
      checkArgument_of_lacking hs slots (hlen ▸ hi) hlack hentry
    have hall : c.supplyAll? (groups ++ [before ++ v :: after]) =
        .error ⟨note, .typeClass report s.name o.name v⟩ := by
      rw [supplyAll?_concat_of_ok hmiddle]
      exact hrefused _ hcheck
    obtain ⟨m', hrun⟩ := Run.calls_concat_of_supplyAll?_error hopen hall (l.markOf s) m
    exact ⟨o, ho, hunsupported, report, m', hrun⟩
  · cases hall : c.supplyAll? (groups ++ [arguments]) with
    | error p =>
      obtain ⟨m', hrun⟩ := Run.calls_concat_of_supplyAll?_error hopen hall (l.markOf s) m
      have hfault : run (Run.step call) = (.error p.fault, m') := hrun (Run.step call)
      rw [hfault]
      refine ⟨fun h => absurd (Except.error.inj h) (ne_capability_of_supplyAll? hall shown name), ?_⟩
      rintro ⟨x, y, o, u, haccepted, -⟩
      cases haccepted
    | ok slots =>
      obtain ⟨x, y, rfl⟩ := List.length_eq_two.mp (supports_of_supplyAll? hchecked hs hall).1
      have hends : (run (Run.step call)).1 = .error (.capability shown name) ↔ _ :=
        accepted_eq_capability_iff hchecked hs hopen hall
      rw [hends]
      constructor
      · rintro ⟨hfull, o, u, hmeets⟩
        exact ⟨x, y, o, u, rfl, hfull, hmeets⟩
      · rintro ⟨x', y', o, u, hpair, hfull, hmeets⟩
        cases hpair
        exact ⟨hfull, o, u, hmeets⟩

omit [Host] in
/-- Optional values can be joined, so that both arguments are accepted, but the numbers in them
cannot be: the fault comes from the run of a function of a library that checks. -/
theorem capability_fault_when_checked : letI : Host := .bare
    let l := Library.standard true
    l.isChecked = true ∧
    (Run.calls (Run.step (Run.step Run.call)) (l.function concat)
      [[.just (.int 1), .just (.int 2)]] (.start none)).1 = .error (.capability "1" "concat") :=
  ⟨rfl, rfl⟩

omit [Host] in
/-- Two optional numbers, the second one supplied first, are not joined whatever is called.  A number
has no truth, and that is found as soon as it is supplied. -/
theorem lack_reported_inside : letI : Host := .bare
    let l := Library.standard true
    let groups : List (List Value) := [[.placeholder, .just (.int 2)]]
    l.isChecked = true ∧ concat ∈ operating ∧ Standard.and ∈ operating ∧
    (l.curriedOf concat).LeaveOpen groups ∧ (l.curriedOf Standard.and).LeaveOpen [] ∧
    (∀ call : Call, (Run.calls (Run.step (Run.step call)) (l.function concat)
      (groups ++ [[.just (.int 1)]]) (.start none)).1 = .error (.capability "1" "concat")) ∧
    ∃ o ∈ Standard.and.operations, (Value.int 0).supports o = false ∧ ∃ report m', ∀ call : Call,
      Run.calls (Run.step call) (l.function Standard.and) ([] ++ [[.int 0]]) (.start none) =
        (.error (.typeClass report "and_" o.name (.int 0)), m') := by
  let _ : Host := .bare
  let _ : Host := .bare
  intro l groups
  have hopen : (l.curriedOf concat).LeaveOpen groups := leaveOpen_singleton rfl
  have hmeets : Value.Meets .concat (.just (.int 1)) (.just (.int 2)) (.int 1) :=
    .inside ⟨⟨rfl, ⟨.no, rfl, rfl⟩, ⟨.no, rfl, rfl⟩⟩, rfl, rfl⟩ (.here (.int 1) (.int 2))
  obtain ⟨entry, hentry⟩ : ∃ entry, Signature.describe l.environment (.int 0) = .ok entry := by
    have hok : (Signature.describe l.environment (.int 0)).isOk = true := by decide +kernel
    cases h : Signature.describe l.environment (.int 0) with
    | ok entry => exact ⟨entry, rfl⟩
    | error f =>
      rw [h] at hok
      cases hok
  refine ⟨rfl, by decide, by decide, hopen, leaveOpen_nil _, fun call => ?_, ?_⟩
  · exact ((lack_reported rfl (by decide) hopen _).2.2 call _ _).mpr
      ⟨_, _, .concat, .int 1, rfl, rfl, rfl, hmeets, by decide, rfl, rfl⟩
  · exact (lack_reported rfl (by decide) (leaveOpen_nil _) _).2.1 [] (.int 0) [] _ entry rfl rfl rfl
      rfl ⟨.toBoolean, by decide, by decide⟩ hentry

end Library

end CheckedCurry
