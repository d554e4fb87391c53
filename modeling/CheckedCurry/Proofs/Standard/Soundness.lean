import CheckedCurry.Library
import CheckedCurry.Proofs.Curried.Admission
import CheckedCurry.Proofs.Standard.Results
import Mathlib.Data.List.Forall2

/-!
# The standard functions keep their signatures

A function whose answers come from its arguments answers what fits wherever its arguments fit: a
variable may be read as any property of values that is a matter of their unifier.  A function that
answers what a program supplies has type variables of its own for it.  In both cases an answer is
admitted together with the arguments, so that the check of the result passes.

- `Standard.OneUnifier`, `Standard.FitAll`: such readings, and arguments that fit under them.
- `Standard.keeping`, `run_fits`: answers from the arguments, one case for each function.
- `Standard.supplied`, `run_supplied`: answers that a program supplies.
- `exists_admits_of_run`: both, as one assignment for the arguments and the answer.
- `Library.answer_accepted`: the answers of a library that checks.
-/

namespace CheckedCurry

variable [Host]

open Run (eq_ok_of_bind eq_ok_of_ofAttempt eq_of_pure eq_of_return)

namespace Standard

/-! ## Answers that come from the arguments -/

/-- A type variable is read as the values of one unifier. -/
def OneUnifier (P : TypeVar → Value → Prop) : Prop :=
  ∀ a v w, P a v → (P a w ↔ w.unifier = v.unifier)

/-- Values fit types, one by one. -/
abbrev FitAll (P : TypeVar → Value → Prop) : List Ty → List Value → Prop :=
  List.Forall₂ fun t v => t.Fits P v

section FitAll

variable {P : TypeVar → Value → Prop} {t u w : Ty} {vs : List Value}

theorem FitAll.one (h : FitAll P [t] vs) : ∃ x, vs = [x] ∧ t.Fits P x := by
  cases h with
  | cons hx hnil =>
    cases hnil
    exact ⟨_, rfl, hx⟩

theorem FitAll.two (h : FitAll P [t, u] vs) :
    ∃ x y, vs = [x, y] ∧ t.Fits P x ∧ u.Fits P y := by
  cases h with
  | cons hx hrest =>
    obtain ⟨y, rfl, hy⟩ := FitAll.one hrest
    exact ⟨_, y, rfl, hx, hy⟩

theorem FitAll.three (h : FitAll P [t, u, w] vs) :
    ∃ x y z, vs = [x, y, z] ∧ t.Fits P x ∧ u.Fits P y ∧ w.Fits P z := by
  cases h with
  | cons hx hrest =>
    obtain ⟨y, z, rfl, hy, hz⟩ := FitAll.two hrest
    exact ⟨_, y, z, rfl, hx, hy, hz⟩

end FitAll

/-- The functions whose answers are made from their arguments, or have a type without variables. -/
def keeping : List Standard :=
  [identity, constant, odd, even, negate, range, toLower, toUpper, trim, words, keys, values, head,
   last, and, or, xor, not, concat, equals, isNothing, isJust, fromMaybe, toMaybe, catMaybes,
   isLeft, isRight, parseInt, is]

/-- **Answers fit what the arguments fit.**  For most functions this holds under every reading; the
exclusive one of two values and one value followed by another are new values, of which only the
unifier is known. -/
theorem run_fits {s : Standard} (hs : s ∈ keeping) {P : TypeVar → Value → Prop}
    (hP : OneUnifier P) {call : Call} {vs : List Value} {r : Value} {m m' : Machine}
    (hgenuine : ∀ v ∈ vs, v.Genuine) (hvs : FitAll P s.params vs)
    (hr : s.run call vs m = (.ok r, m')) : s.returns.Fits P r := by
  cases s with
  | identity =>
    obtain ⟨x, rfl, hx⟩ := hvs.one
    obtain rfl := eq_of_pure hr
    exact hx
  | constant =>
    obtain ⟨x, y, rfl, hx, -⟩ := hvs.two
    obtain rfl := eq_of_pure hr
    exact hx
  | odd | even =>
    obtain ⟨n, rfl, -⟩ := hvs.one
    obtain ⟨isEven, -, rfl⟩ := eq_of_return hr
    exact Ty.fits_bool _
  | negate =>
    obtain ⟨x, rfl, hx⟩ := hvs.one
    obtain ⟨mark, m₁, -, hr⟩ := eq_ok_of_bind hr
    exact Value.fits_of_negative hx (eq_ok_of_ofAttempt hr)
  | range =>
    obtain ⟨x, y, rfl, -, -⟩ := hvs.two
    exact Value.fits_of_between (eq_ok_of_ofAttempt hr)
  | toLower | toUpper | trim =>
    obtain ⟨x, rfl, hx⟩ := hvs.one
    obtain ⟨s, rfl⟩ := eq_of_onText (Ty.fits_string.mp hx) hr
    exact Ty.fits_text _
  | words =>
    obtain ⟨x, rfl, hx⟩ := hvs.one
    obtain ⟨s, rfl⟩ := eq_of_onText (Ty.fits_string.mp hx) hr
    exact Ty.fits_list.mpr (List.forall_mem_map.mpr fun word _ => Ty.fits_text word)
  | keys =>
    obtain ⟨x, rfl, hx⟩ := hvs.one
    exact fits_of_keysOf (hgenuine x (List.mem_singleton_self x)) hx hr
  | values =>
    obtain ⟨x, rfl, hx⟩ := hvs.one
    exact fits_of_valuesOf hx hr
  | head | last =>
    obtain ⟨x, rfl, hx⟩ := hvs.one
    exact Value.fits_of_itemIfAny hx (eq_ok_of_ofAttempt hr)
  | and =>
    obtain ⟨x, y, rfl, hx, hy⟩ := hvs.two
    rcases Value.eq_of_both (eq_ok_of_ofAttempt hr) with rfl | rfl
    · exact hx
    · exact hy
  | or =>
    obtain ⟨x, y, rfl, hx, hy⟩ := hvs.two
    rcases Value.eq_of_oneOf (eq_ok_of_ofAttempt hr) with rfl | rfl
    · exact hx
    · exact hy
  | xor =>
    obtain ⟨x, y, rfl, hx, hy⟩ := hvs.two
    rw [Ty.fits_var] at hx hy
    -- both arguments have one unifier, and so has the answer
    have hunifier := Value.unifier_of_exclusive (hgenuine x (by simp)) ((hP a x y hx).mp hy)
      (eq_ok_of_ofAttempt hr)
    exact (Ty.fits_var a).mpr ((hP a x r hx).mpr hunifier)
  | not =>
    obtain ⟨x, rfl, -⟩ := hvs.one
    obtain rfl := eq_of_pure hr
    exact Ty.fits_bool _
  | concat =>
    obtain ⟨x, y, rfl, hx, hy⟩ := hvs.two
    rw [Ty.fits_var] at hx hy
    obtain ⟨mark, m₁, -, hr⟩ := eq_ok_of_bind hr
    have hunifier := Value.unifier_of_concat (hgenuine x (by simp)) (hgenuine y (by simp))
      ((hP a x y hx).mp hy) (eq_ok_of_ofAttempt hr)
    exact (Ty.fits_var a).mpr ((hP a x r hx).mpr hunifier)
  | equals =>
    obtain ⟨x, y, rfl, -, -⟩ := hvs.two
    obtain ⟨answer, -, rfl⟩ := eq_of_return hr
    exact Ty.fits_bool _
  | isNothing | isJust =>
    obtain ⟨x, rfl, hx⟩ := hvs.one
    rcases Ty.fits_maybe (hgenuine x (List.mem_singleton_self x)) hx with rfl | ⟨w, rfl, -⟩
    all_goals
      obtain rfl := Except.ok.inj (eq_ok_of_ofAttempt hr)
      exact Ty.fits_bool _
  | fromMaybe =>
    -- the default and the content fit the same variable
    obtain ⟨x, y, rfl, hx, hy⟩ := hvs.two
    exact fits_of_contentOr (hgenuine y (by simp)) hx hy hr
  | toMaybe =>
    obtain ⟨x, rfl, hx⟩ := hvs.one
    obtain rfl := eq_of_pure hr
    exact Value.fits_of_presentIf hx
  | catMaybes =>
    obtain ⟨x, rfl, hx⟩ := hvs.one
    obtain ⟨contents, hcontents, rfl⟩ := eq_of_return hr
    exact Ty.fits_list.mpr
      (Value.fits_of_contents (hgenuine x (List.mem_singleton_self x)) hx hcontents)
  | isLeft | isRight =>
    obtain ⟨x, rfl, hx⟩ := hvs.one
    obtain ⟨w, rfl | rfl⟩ := Ty.fits_either (hgenuine x (List.mem_singleton_self x)) hx
    all_goals
      obtain rfl := Except.ok.inj (eq_ok_of_ofAttempt hr)
      exact Ty.fits_bool _
  | parseInt =>
    obtain ⟨x, y, rfl, -, -⟩ := hvs.two
    exact Value.fits_of_parseInt (eq_ok_of_ofAttempt hr)
  | is =>
    obtain ⟨x, y, rfl, -, -⟩ := hvs.two
    obtain ⟨passes, -, rfl⟩ := eq_of_return hr
    exact Ty.fits_bool _
  | _ => exact absurd hs (by decide)

/-! ## Answers that a program supplies -/

/-- The functions whose answers have type variables of their own: values are read from an object, or
come from a function of the program. -/
def supplied : List Standard := [get, gets, encase, encaseEither]

/-- What such a function answers fits if one variable, which no parameter has, is read as the values
like one value. -/
theorem run_supplied {s : Standard} (hs : s ∈ supplied) {P : TypeVar → Value → Prop} {call : Call}
    {vs : List Value} {r : Value} {m m' : Machine} (hvs : FitAll P s.params vs)
    (hr : s.run call vs m = (.ok r, m')) :
    ∃ b x, (∀ t ∈ s.params, b ∉ t.vars) ∧
      ∀ Q : TypeVar → Value → Prop, Q b x → s.returns.Fits Q r := by
  have hmaybe {b : TypeVar} (hr : r = .nothing ∨ ∃ x, r = .just x) :
      ∃ x, ∀ Q : TypeVar → Value → Prop, Q b x → (Ty.maybe (.var b)).Fits Q r := by
    rcases hr with rfl | ⟨x, rfl⟩
    · exact ⟨.null, fun Q _ => Ty.fits_nothing⟩
    · exact ⟨x, fun Q hx => Ty.fits_just.mpr ((Ty.fits_var b).mpr hx)⟩
  cases s with
  | get =>
    obtain ⟨t, name, v, rfl, -, -, -⟩ := hvs.three
    obtain ⟨x, hx⟩ := hmaybe (b := a) (Value.eq_of_get (eq_ok_of_ofAttempt hr))
    exact ⟨a, x, by decide, hx⟩
  | gets =>
    obtain ⟨t, names, v, rfl, -, -, -⟩ := hvs.three
    obtain ⟨x, hx⟩ := hmaybe (b := a) (Value.eq_of_gets (eq_ok_of_ofAttempt hr))
    exact ⟨a, x, by decide, hx⟩
  | encase =>
    obtain ⟨f, v, rfl, -, -⟩ := hvs.two
    obtain ⟨x, hx⟩ := hmaybe (b := b) (eq_of_encased hr)
    exact ⟨b, x, by decide, hx⟩
  | encaseEither =>
    -- one of the two variables is read by the answer, and the other one by nothing
    obtain ⟨f, g, v, rfl, -, -, -⟩ := hvs.three
    obtain ⟨x, rfl | rfl⟩ := eq_of_encasedEither hr
    · exact ⟨var "l", x, by decide, fun Q hx => Ty.fits_left ((Ty.fits_var _).mpr hx)⟩
    · exact ⟨var "r", x, by decide, fun Q hx => Ty.fits_right ((Ty.fits_var _).mpr hx)⟩
  | _ => exact absurd hs (by decide)

/-! ## Answers and assignments -/

/-- The functions whose answers are never rejected. -/
def answering : List Standard :=
  [identity, constant, odd, even, negate, range, toLower, toUpper, trim, words, keys, values, head,
   last, get, gets, and, or, xor, not, concat, equals, isNothing, isJust, fromMaybe, toMaybe,
   catMaybes, encase, isLeft, isRight, encaseEither, parseInt, is]

omit [Host] in
/-- Answers come from the arguments or from the program. -/
theorem keeping_or_supplied {s : Standard} (hs : s ∈ answering) : s ∈ keeping ∨ s ∈ supplied := by
  cases s <;> revert hs <;> decide

omit [Host] in
/-- Nothing is required of what a program supplies. -/
theorem required_of_supplied {s : Standard} (hs : s ∈ supplied) (v : TypeVar) :
    s.signature.required v = [] := by
  cases s with
  | get | gets | encase | encaseEither => rfl
  | _ => exact absurd hs (by decide)

/-- The values of a variable under an assignment, if they support what is required of it. -/
def reading (s : Standard) (σ : TypeVar → String) (v : TypeVar) (w : Value) : Prop :=
  w.unifier = σ v ∧ ∀ c ∈ s.signature.required v, c.supports w.unifier = true

omit [Host] in
/-- An assignment reads each variable as the values of the assigned unifier. -/
theorem oneUnifier_reading (s : Standard) (σ : TypeVar → String) : OneUnifier (s.reading σ) := by
  intro x v w hv
  constructor
  · intro hw
    exact hw.1.trans hv.1.symm
  · intro hw
    exact ⟨hw.trans hv.1, fun c hc => hw ▸ hv.2 c hc⟩

/-- A value is admitted if it fits under the reading of the assignment. -/
theorem admits_iff_reading {s : Standard} {σ : TypeVar → String} {t : Ty} {v : Value} :
    s.signature.Admits σ t v ↔ t.Fits (s.reading σ) v := by
  constructor
  · rintro ⟨hmember, hsupported⟩
    obtain ⟨hmisfit, bs, hbs⟩ := hmember.bindings
    have hfits := Ty.fits_iff_of_bindings hmisfit hbs
    rw [hfits] at hmember hsupported ⊢
    exact fun b hb => ⟨hmember b hb, hsupported b hb⟩
  · intro h
    exact ⟨h.congr t fun x _ w hw => hw.1, h.congr t fun x _ w hw => hw.2⟩

/-- Values that are admitted fit the types of the parameters. -/
theorem fitAll_of_admitsAll {s : Standard} {σ : TypeVar → String} {vs : List Value}
    (hlen : vs.length = s.params.length) (h : s.signature.AdmitsAll σ vs) :
    FitAll (s.reading σ) s.params vs := by
  refine List.forall₂_iff_get.mpr ⟨hlen.symm, fun i hi hi' => ?_⟩
  exact admits_iff_reading.mp (h i _ _ (List.getElem?_eq_getElem hi) (List.getElem?_eq_getElem hi'))

/-- Values that fit the types of the parameters are admitted. -/
theorem admitsAll_of_fitAll {s : Standard} {σ : TypeVar → String} {vs : List Value}
    (h : FitAll (s.reading σ) s.params vs) : s.signature.AdmitsAll σ vs := by
  intro i t v ht hv
  obtain ⟨-, hall⟩ := List.forall₂_iff_get.mp h
  obtain ⟨hi, rfl⟩ := List.getElem?_eq_some_iff.mp ht
  obtain ⟨hi', rfl⟩ := List.getElem?_eq_some_iff.mp hv
  exact admits_iff_reading.mpr (hall i hi hi')

/-- A variable that no parameter has may be assigned anything. -/
theorem admitsAll_update {s : Standard} {σ : TypeVar → String} {vs : List Value} {b : TypeVar}
    (hfresh : ∀ t ∈ s.params, b ∉ t.vars) (h : s.signature.AdmitsAll σ vs) (u : String) :
    s.signature.AdmitsAll (Function.update σ b u) vs := by
  intro i t v ht hv
  obtain ⟨hmember, hsupported⟩ := h i t v ht hv
  refine ⟨hmember.congr t fun x hx w hw => ?_, hsupported⟩
  have hne : x ≠ b := by
    rintro rfl
    exact hfresh t (List.mem_of_getElem? ht) hx
  rw [Function.update_of_ne hne]
  exact hw

/-- An answer in which only a variable of its own is read is admitted with any arguments that are. -/
theorem exists_admits_of_fresh {s : Standard} {σ : TypeVar → String} {vs : List Value} {r x : Value}
    {b : TypeVar} (hfresh : ∀ t ∈ s.params, b ∉ t.vars) (hrequired : s.signature.required b = [])
    (hreturns : ∀ Q : TypeVar → Value → Prop, Q b x → s.returns.Fits Q r)
    (hvs : s.signature.AdmitsAll σ vs) :
    ∃ σ', s.signature.AdmitsAll σ' vs ∧ s.signature.Admits σ' s.returns r := by
  refine ⟨Function.update σ b x.unifier, admitsAll_update hfresh hvs _,
    hreturns _ (Function.update_self b _ σ).symm, hreturns _ fun c hc => ?_⟩
  rw [hrequired] at hc
  exact absurd hc List.not_mem_nil

/-- The variable of what a program supplies is assigned its unifier. -/
theorem exists_admits_of_supplied {s : Standard} (hs : s ∈ supplied) {σ : TypeVar → String}
    {call : Call} {vs : List Value} {r : Value} {m m' : Machine} (hlen : vs.length = s.params.length)
    (hvs : s.signature.AdmitsAll σ vs) (hr : s.run call vs m = (.ok r, m')) :
    ∃ σ', s.signature.AdmitsAll σ' vs ∧ s.signature.Admits σ' s.returns r := by
  obtain ⟨b, x, hfresh, hreturns⟩ := run_supplied hs (fitAll_of_admitsAll hlen hvs) hr
  exact exists_admits_of_fresh hfresh (required_of_supplied hs b) hreturns hvs

/-- **An answer is admitted together with the arguments.** -/
theorem exists_admits_of_run {s : Standard} (hs : s ∈ answering) {σ : TypeVar → String}
    {call : Call} {vs : List Value} {r : Value} {m m' : Machine} (hlen : vs.length = s.params.length)
    (hgenuine : ∀ v ∈ vs, v.Genuine) (hvs : s.signature.AdmitsAll σ vs)
    (hr : s.run call vs m = (.ok r, m')) :
    ∃ σ', s.signature.AdmitsAll σ' vs ∧ s.signature.Admits σ' s.returns r := by
  rcases keeping_or_supplied hs with hs | hs
  · exact ⟨σ, hvs, admits_iff_reading.mpr
      (run_fits hs (oneUnifier_reading s σ) hgenuine (fitAll_of_admitsAll hlen hvs) hr)⟩
  · exact exists_admits_of_supplied hs hlen hvs hr

end Standard

namespace Library

open Curried Standard

/-- **The answers of the standard functions are never rejected.**  Let calls of such a function of a
library that checks supply its arguments: all checks of the arguments pass, the last call fills the
last slot, and nothing inside the arguments pretends to be an optional value, a failure or a
success.

If the function itself answers then the check of the result passes: some assignment admits the
arguments and also the answer at the type of the result.  The last call answers what the function
answers. -/
theorem answer_accepted {l : Library} (hchecked : l.isChecked = true) {s : Standard}
    (hs : s ∈ answering) {groups : List (List Value)} {arguments vs : List Value}
    (hopen : (l.curriedOf s).LeaveOpen groups)
    (haccepted : (l.curriedOf s).supplyAll? (groups ++ [arguments]) = .ok vs)
    (hfull : isSaturated vs = true) (hgenuine : ∀ v ∈ vs, v.Genuine) {call : Call}
    {m m' : Machine} {r : Value}
    (hr : s.run call vs (Machine.advance^[groups.length] m) = (.ok r, m')) :
    (l.curriedOf s).checkResult vs r = .ok () ∧
    (∃ σ, s.signature.AdmitsAll σ vs ∧ s.signature.Admits σ s.returns r) ∧
    Run.calls (Run.step (Run.step call)) (l.function s) (groups ++ [arguments]) m =
      (.ok r, m') := by
  let c := l.curriedOf s
  have henv : c.environment = some l.environment := if_pos hchecked
  obtain ⟨hlen, σ, hσ⟩ := coherent_of_supplyAll? henv List.length_replicate
    (Signature.coherent_placeholders _ _) haccepted
  have hfilled (σ : TypeVar → String) :
      s.signature.AdmitsFilled σ vs ↔ s.signature.AdmitsAll σ vs :=
    Signature.admitsFilled_iff_admitsAll hlen (isSaturated_iff_closed.mp hfull)
  obtain ⟨σ', hadmits, hresult⟩ :=
    exists_admits_of_run hs hlen hgenuine ((hfilled σ).mp hσ) hr
  have hcheck : c.checkResult vs r = .ok () :=
    (checkResult_eq_ok_iff henv hlen ⟨σ, hσ⟩).mpr ⟨σ', (hfilled σ').mpr hadmits, hresult⟩
  refine ⟨hcheck, ⟨σ', hadmits, hresult⟩, ?_⟩
  rw [function, Run.calls_of_saturated hopen haccepted hfull]
  exact Run.complete_of_ok hr hcheck

omit [Host] in
/-- Two optional arrays are joined, and the second one is supplied first. -/
theorem answer_accepted_joined : letI : Host := .bare
    let l := Library.standard true
    let one (n : Int) : Value := .just (.list [.int n])
    let groups := [[.placeholder, one 2]]
    let vs := [one 1, one 2]
    let r : Value := .just (.list [.int 1, .int 2])
    l.isChecked = true ∧ concat ∈ answering ∧ (l.curriedOf concat).LeaveOpen groups ∧
    (l.curriedOf concat).supplyAll? (groups ++ [[one 1]]) = .ok vs ∧ isSaturated vs = true ∧
    (∀ v ∈ vs, v.Genuine) ∧
    (∃ m', concat.run Run.call vs (Machine.advance^[groups.length] (.start none)) = (.ok r, m') ∧
      Run.calls (Run.step (Run.step Run.call)) (l.function concat) (groups ++ [[one 1]])
        (.start none) = (.ok r, m')) ∧
    (l.curriedOf concat).checkResult vs r = .ok () ∧
    ∃ σ, concat.signature.AdmitsAll σ vs ∧ concat.signature.Admits σ concat.returns r := by
  let _ : Host := .bare
  intro l one groups vs r
  have hopen : (l.curriedOf concat).LeaveOpen groups := leaveOpen_singleton rfl
  have haccepted : (l.curriedOf concat).supplyAll? (groups ++ [[one 1]]) = .ok vs := rfl
  have hone (n : Int) : (one n).Genuine := by
    refine .ofJust (.ofList ?_)
    exact List.forall_mem_singleton.mpr (.ofInt n)
  have hgenuine : ∀ v ∈ vs, v.Genuine :=
    List.forall_mem_cons.mpr ⟨hone 1, List.forall_mem_singleton.mpr (hone 2)⟩
  have hrun : concat.run Run.call vs (Machine.advance^[groups.length] (.start none)) =
      (.ok r, Machine.advance^[2] (.start none)) := rfl
  obtain ⟨hcheck, hadmits, hcalls⟩ := answer_accepted (l := l) rfl (by decide) hopen haccepted rfl
    hgenuine hrun
  exact ⟨rfl, by decide, hopen, haccepted, rfl, hgenuine, ⟨_, hrun, hcalls⟩, hcheck, hadmits⟩

end Library

end CheckedCurry
