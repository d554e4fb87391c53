import CheckedCurry.Proofs.Curried.Rejection
import CheckedCurry.Proofs.Standard.Soundness

/-!
# Functions that call functions

Four standard functions do nothing but call the functions that they are given.  They are checked
functions themselves: their arguments are checked and bound to type variables, and so is the result of
the inner call.  None of this can be noticed, because the type of the result is a variable that no
parameter has and of which nothing is required.

- `Standard.combinators`, `exists_admits_of_combinator`: whatever the inner call answers is admitted.
- `Library.calls_of_combinator`: a chain of calls that supplies the arguments of such a function, from
  wherever it starts, is the inner call.
- `Library.combinators_transparent`: the law for each of them, and for a function flipped twice.
-/

namespace CheckedCurry

variable [Host]

open Curried (Supplies Offers Holds fill isSaturated)

namespace Standard

/-- The functions that do nothing but call their arguments. -/
def combinators : List Standard := [apply, thrush, compose, flip]

variable {s : Standard} {σ : TypeVar → String} {vs : List Value}

omit [Host] in
theorem required_of_combinator (hs : s ∈ combinators) (v : TypeVar) :
    s.signature.required v = [] := by
  cases s with
  | apply | thrush | compose | flip => rfl
  | _ => exact absurd hs (by decide)

omit [Host] in
theorem returns_of_combinator (hs : s ∈ combinators) :
    ∃ b, s.returns = .var b ∧ ∀ t ∈ s.params, b ∉ t.vars := by
  cases s with
  | apply | thrush => exact ⟨b, rfl, by decide⟩
  | compose | flip => exact ⟨c, rfl, by decide⟩
  | _ => exact absurd hs (by decide)

omit [Host] in
theorem reading_of_combinator (hs : s ∈ combinators) {v : TypeVar} {w : Value}
    (h : w.unifier = σ v) : s.reading σ v w := by
  rw [reading, required_of_combinator hs]
  exact ⟨h, nofun⟩

/-- **Whatever the inner call answers is admitted**, with any arguments that are. -/
theorem exists_admits_of_combinator (hs : s ∈ combinators) (h : s.signature.AdmitsAll σ vs)
    (r : Value) : ∃ σ', s.signature.AdmitsAll σ' vs ∧ s.signature.Admits σ' s.returns r := by
  obtain ⟨b, hreturns, hfresh⟩ := returns_of_combinator hs
  refine exists_admits_of_fresh hfresh (required_of_combinator hs b) (x := r) (fun Q hr => ?_) h
  rw [hreturns, Ty.fits_var]
  exact hr

section Arguments

variable {f g x y : Value}

/-- A function and any value are admitted, in either order. -/
theorem admitsAll_apply (hf : f.kind = .function) :
    apply.signature.AdmitsAll (fun _ => x.unifier) [f, x] :=
  admitsAll_of_fitAll (.cons ((Ty.fits_ofKind .function).mpr hf)
    (.cons ((Ty.fits_var a).mpr (reading_of_combinator (by decide) rfl)) .nil))

theorem admitsAll_thrush (hf : f.kind = .function) :
    thrush.signature.AdmitsAll (fun _ => x.unifier) [x, f] :=
  admitsAll_of_fitAll (.cons ((Ty.fits_var a).mpr (reading_of_combinator (by decide) rfl))
    (.cons ((Ty.fits_ofKind .function).mpr hf) .nil))

theorem admitsAll_compose (hf : f.kind = .function) (hg : g.kind = .function) :
    compose.signature.AdmitsAll (fun _ => x.unifier) [f, g, x] :=
  admitsAll_of_fitAll (.cons ((Ty.fits_ofKind .function).mpr hf)
    (.cons ((Ty.fits_ofKind .function).mpr hg)
      (.cons ((Ty.fits_var a).mpr (reading_of_combinator (by decide) rfl)) .nil)))

/-- The two values that a flipped function takes have type variables of their own. -/
theorem admitsAll_flip (hf : f.kind = .function) :
    flip.signature.AdmitsAll (Function.update (fun _ => x.unifier) b y.unifier) [f, x, y] :=
  admitsAll_of_fitAll (.cons ((Ty.fits_ofKind .function).mpr hf)
    (.cons ((Ty.fits_var a).mpr (reading_of_combinator (by decide) rfl))
      (.cons ((Ty.fits_var b).mpr (reading_of_combinator (by decide) rfl)) .nil)))

end Arguments

end Standard

/-- A result that is never rejected adds nothing to the call of the implementation. -/
theorem Run.complete_of_forall {c : Curried} {vs : List Value} (call : Call)
    (h : ∀ r, c.checkResult vs r = .ok ()) :
    Run.complete call c vs = call c.implementation vs := by
  unfold Run.complete
  simp only [h]
  exact bind_pure (call c.implementation vs)

omit [Host] in
/-- Only values are supplied, no placeholders. -/
theorem Curried.Supplies.closed {vs slots : List Value} {groups : List (List Value)}
    (h : Supplies vs slots groups) (hlen : slots.length = vs.length) (hholds : Holds vs slots) :
    ∀ v ∈ vs, v.isOpen = false := by
  induction h with
  | last offers full =>
    rw [← (offers.holds hholds).eq_of_isSaturated ((Curried.length_fill _ _).trans hlen) full]
    exact Curried.isSaturated_iff_closed.mp full
  | more offers left rest ih =>
    exact ih ((Curried.length_fill _ _).trans hlen) (offers.holds hholds)

omit [Host] in
/-- All values may be supplied at once. -/
theorem Curried.supplies_at_once {vs : List Value} {n : Nat} (hlen : vs.length = n)
    (hvs : ∀ v ∈ vs, v.isOpen = false) : Supplies vs (List.replicate n .placeholder) [vs] := by
  have hcount (n : Nat) : (List.replicate n Value.placeholder).countP Value.isOpen = n := by
    rw [List.countP_replicate]
    rfl
  refine .last ⟨fun i w hw _ a ha => .inr ?_, fun a ha => ?_⟩ ?_
  · have hi : i < n := by simpa using (List.getElem?_eq_some_iff.mp hw).1
    rw [List.take_replicate, hcount, Nat.min_eq_left (Nat.le_of_lt hi)] at ha
    exact ha
  · rw [hcount, ← hlen, List.drop_length] at ha
    cases ha
  · rw [Curried.fill_placeholders hvs (Nat.le_of_eq hlen), hlen, Nat.sub_self, List.replicate_zero,
      List.append_nil]
    exact Curried.isSaturated_iff_closed.mpr hvs

namespace Library

open Run (calls step)
open Standard

variable {l : Library} {s : Standard} {σ : TypeVar → String} {vs slots : List Value}
  {groups : List (List Value)} {f g x y : Value}

/-- A partial application of a standard function. -/
def partialOf (l : Library) (s : Standard) (slots : List Value) (mark : Nat) : Value :=
  ({ l.curriedOf s with slots := slots } : Curried).toValue mark

/-- Calls that supply all arguments of a function that calls its arguments are the inner call, also
if they go on from a partial application. -/
theorem calls_of_combinator (hchecked : l.isChecked = true) (hs : s ∈ combinators)
    (hσ : s.signature.AdmitsAll σ vs) (hlen : vs.length = s.signature.arity)
    (hslots : slots.length = s.signature.arity) (hholds : Holds vs slots)
    (hsupplies : Supplies vs slots groups) (mark : Nat) (call : Call) (m : Machine) :
    calls (step (step call)) (l.partialOf s slots mark) groups m =
      s.run call vs (Machine.advance^[groups.length - 1] m) := by
  let c := l.curriedOf s
  have henv : c.environment = some l.environment := if_pos hchecked
  have hvs := hsupplies.closed (hslots.trans hlen.symm) hholds
  have hfilled (σ : TypeVar → String) :
      s.signature.AdmitsFilled σ vs ↔ s.signature.AdmitsAll σ vs :=
    Signature.admitsFilled_iff_admitsAll hlen hvs
  have hcoherent : s.signature.Coherent vs := ⟨σ, (hfilled σ).mpr hσ⟩
  have hcheck (r : Value) : c.checkResult vs r = .ok () := by
    obtain ⟨σ', hadmits, hresult⟩ := exists_admits_of_combinator hs hσ r
    exact (Curried.checkResult_eq_ok_iff henv hlen hcoherent).mpr
      ⟨σ', (hfilled σ').mpr hadmits, hresult⟩
  obtain ⟨hinvoked, -⟩ := Curried.calls_of_supplies (c := c) henv hlen hsupplies hslots hholds
    ⟨σ, ((hfilled σ).mpr hσ).of_kept hholds⟩ mark m
  rw [partialOf, hinvoked hcoherent, Run.complete_of_forall _ hcheck]
  rfl

/-! ## A function flipped twice -/

omit [Host] in
/-- What is filled when a function to be flipped is there holds it. -/
theorem holds_flipped (x y : Value) :
    Holds [f, x, y] [f, .placeholder, .placeholder] := by
  intro i w hw hclosed
  rcases i with _ | _ | _ | i
  · exact hw
  · cases hw
    cases hclosed
  · cases hw
    cases hclosed
  · cases hw

/-- A function to be flipped is supplied alone, and two values are waited for. -/
theorem call_flip (hchecked : l.isChecked = true) (hf : f.kind = .function)
    (hclosed : f.isOpen = false) (call : Call) (m : Machine) :
    step call (l.function flip) [f] m =
      (.ok (l.partialOf flip [f, .placeholder, .placeholder] m.nextMark), m.advance) := by
  let c := l.curriedOf flip
  have hfill : fill c.slots [f] = [f, .placeholder, .placeholder] := by
    show fill [.placeholder, .placeholder, .placeholder] [f] = _
    rw [Curried.fill_cons_open rfl, Curried.fill_no_arguments, Curried.meet, hclosed]
    rfl
  have hcoherent : c.signature.Coherent (fill c.slots [f]) := by
    have hadmits := admitsAll_flip (x := .null) (y := .null) hf
    have hvalues : ∀ v ∈ [f, .null, .null], v.isOpen = false :=
      List.forall_mem_cons.mpr ⟨hclosed, by decide⟩
    rw [hfill]
    exact ⟨_, ((Signature.admitsFilled_iff_admitsAll rfl hvalues).mpr hadmits).of_kept
      (holds_flipped .null .null)⟩
  have hanswer := (Curried.invoke_of_coherent (c := c) (if_pos hchecked) List.length_replicate
    (Signature.coherent_placeholders _ _) rfl hcoherent call m).2
  rw [hfill] at hanswer
  exact hanswer (by simp [isSaturated, Value.isOpen])

/-- A flipped function called with two values calls the function with them the other way round. -/
theorem call_flipped (hchecked : l.isChecked = true) (hf : f.kind = .function)
    (hclosed : f.isOpen = false) (hx : x.isOpen = false) (hy : y.isOpen = false) (mark : Nat)
    (call : Call) (m : Machine) :
    step (step call) (l.partialOf flip [f, .placeholder, .placeholder] mark) [x, y] m =
      call f [y, x] m := by
  have hfill : fill [f, .placeholder, .placeholder] [x, y] = [f, x, y] := by
    rw [Curried.fill_cons_closed hclosed, Curried.fill_cons_open rfl, Curried.fill_cons_open rfl,
      Curried.meet, Curried.meet, hx, hy]
    rfl
  have hoffers : Offers [f, x, y] [f, .placeholder, .placeholder] [x, y] := by
    have hcount (slots : List Value) :
        (f :: slots).countP Value.isOpen = slots.countP Value.isOpen :=
      List.countP_cons_of_neg (by simp [hclosed])
    refine ⟨fun i w hw hopen a ha => ?_, fun a ha => ?_⟩
    · rcases i with _ | _ | _ | i
      · cases hw
        rw [hclosed] at hopen
        cases hopen
      · change [x, y][[f].countP Value.isOpen]? = some a at ha
        rw [hcount] at ha
        exact .inr ha
      · change [x, y][[f, .placeholder].countP Value.isOpen]? = some a at ha
        rw [hcount] at ha
        exact .inr ha
      · cases hw
    · rw [hcount] at ha
      cases ha
  have hsupplies : Supplies [f, x, y] [f, .placeholder, .placeholder] [[x, y]] :=
    .last hoffers (by rw [hfill, Curried.isSaturated_iff_closed]; simp [hclosed, hx, hy])
  have hcalls := calls_of_combinator hchecked (by decide) (admitsAll_flip hf) rfl rfl
    (holds_flipped x y) hsupplies mark call m
  rw [Run.calls_singleton] at hcalls
  exact hcalls

/-- **Combinators are transparent.** -/
theorem combinators_transparent (hchecked : l.isChecked = true) (hf : f.kind = .function)
    (hg : g.kind = .function) (call : Call) (m : Machine) :
    let run := fun s groups => calls (step (step call)) (l.function s) groups m
    let ready := fun groups : List (List Value) => Machine.advance^[groups.length - 1] m
    (∀ groups, Supplies [f, x] (l.curriedOf apply).slots groups →
      run apply groups = call f [x] (ready groups)) ∧
    (∀ groups, Supplies [x, f] (l.curriedOf thrush).slots groups →
      run thrush groups = call f [x] (ready groups)) ∧
    (∀ groups, Supplies [f, g, x] (l.curriedOf compose).slots groups →
      run compose groups = (do call f [← call g [x]]) (ready groups)) ∧
    (∀ groups, Supplies [f, x, y] (l.curriedOf flip).slots groups →
      run flip groups = call f [y, x] (ready groups)) ∧
    (f.isOpen = false → ∃ h, run flip [[f]] = (.ok h, m.advance) ∧ h.kind = .function ∧
      ∀ groups m', Supplies [h, x, y] (l.curriedOf flip).slots groups →
        calls (step (step (step (step call)))) (l.function flip) groups m' =
          call f [x, y] (Machine.advance^[groups.length - 1] m')) := by
  intro run ready
  have hcalls {s : Standard} {σ : TypeVar → String} {vs : List Value} (hs : s ∈ combinators)
      (hlen : vs.length = s.signature.arity) (hσ : s.signature.AdmitsAll σ vs)
      (groups : List (List Value)) (hsupplies : Supplies vs (l.curriedOf s).slots groups)
      (call : Call) (m : Machine) :
      calls (step (step call)) (l.function s) groups m =
        s.run call vs (Machine.advance^[groups.length - 1] m) :=
    calls_of_combinator hchecked hs hσ hlen List.length_replicate (Curried.holds_replicate vs _)
      hsupplies (l.markOf s) call m
  refine ⟨fun groups h => ?_, fun groups h => ?_, fun groups h => ?_, fun groups h => ?_,
    fun hclosed => ?_⟩
  · exact hcalls (by decide) rfl (admitsAll_apply hf) groups h call m
  · exact hcalls (by decide) rfl (admitsAll_thrush hf) groups h call m
  · exact hcalls (by decide) rfl (admitsAll_compose hf hg) groups h call m
  · exact hcalls (by decide) rfl (admitsAll_flip hf) groups h call m
  · refine ⟨l.partialOf flip [f, .placeholder, .placeholder] m.nextMark, ?_, rfl,
      fun groups m' h => ?_⟩
    · show calls _ _ _ m = _
      rw [Run.calls_singleton, call_flip hchecked hf hclosed]
    · have hvalues := h.closed List.length_replicate (Curried.holds_replicate _ _)
      have hx : x.isOpen = false := hvalues x (by simp)
      have hy : y.isOpen = false := hvalues y (by simp)
      rw [hcalls (by decide) rfl (admitsAll_flip rfl) groups h]
      exact call_flipped hchecked hf hclosed hy hx m.nextMark call _

omit [Host] in
/-- A subtraction gets its first number by a call of it with the number, supplied after the
function; flipped twice it subtracts as it is. -/
theorem combinators_transparent_subtraction : letI : Host := .bare
    let l := Library.standard true
    let f := l.function sub
    let h := l.partialOf flip [f, .placeholder, .placeholder] Machine.firstMark
    let m : Machine := .start none
    l.isChecked = true ∧ f.kind = .function ∧
    Supplies [.int 5, f] (l.curriedOf thrush).slots [[.placeholder, f], [.int 5]] ∧
    calls (step (step Run.call)) (l.function thrush) [[.placeholder, f], [.int 5]] m =
      (.ok (l.partialOf sub [.int 5, .placeholder] (Machine.firstMark + 1)),
        Machine.advance^[2] m) ∧
    calls (step (step Run.call)) (l.function flip) [[f]] m = (.ok h, m.advance) ∧
    Supplies [h, .int 5, .int 2] (l.curriedOf flip).slots [[h, .int 5, .int 2]] ∧
    calls (step (step (step (step Run.call)))) (l.function flip) [[h, .int 5, .int 2]] m =
      (.ok (.int 3), m.advance) := by
  let _ : Host := .bare
  intro l f h m
  have hfirst : Offers [.int 5, f] [.placeholder, .placeholder] [.placeholder, f] := by
    refine ⟨fun i w hw _ u hu => ?_, fun u hu => absurd hu List.not_mem_nil⟩
    rcases i with _ | _ | i
    · cases hu
      exact .inl rfl
    · exact .inr hu
    · cases hw
  have hsecond : Offers [.int 5, f] [.placeholder, f] [.int 5] := by
    refine ⟨fun i w hw hopen u hu => ?_, fun u hu => absurd hu List.not_mem_nil⟩
    rcases i with _ | _ | i
    · exact .inr hu
    · cases hw
      cases hopen
    · cases hw
  have hthrush : Supplies [.int 5, f] (l.curriedOf thrush).slots [[.placeholder, f], [.int 5]] :=
    .more hfirst rfl (.last hsecond rfl)
  have hflip : Supplies [h, .int 5, .int 2] (l.curriedOf flip).slots [[h, .int 5, .int 2]] :=
    Curried.supplies_at_once rfl (List.forall_mem_cons.mpr ⟨rfl, by decide⟩)
  obtain ⟨-, hcalls, -, -, htwice⟩ :=
    combinators_transparent (l := l) (f := f) (g := f) (y := .int 2) rfl rfl rfl Run.call m
  obtain ⟨h', hh', -, hflipped⟩ := htwice rfl
  have hh : calls (step (step Run.call)) (l.function flip) [[f]] m = (.ok h, m.advance) := by
    rw [Run.calls_singleton, call_flip rfl rfl rfl]
    rfl
  obtain rfl : h = h' := Except.ok.inj (congrArg Prod.fst (hh.symm.trans hh'))
  exact ⟨rfl, rfl, hthrush, (hcalls _ hthrush).trans rfl, hh, hflip,
    (hflipped _ m hflip).trans rfl⟩

end Library

end CheckedCurry
