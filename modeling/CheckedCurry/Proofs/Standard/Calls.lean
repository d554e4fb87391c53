import CheckedCurry.Library
import CheckedCurry.Proofs.Curried.Admission
import CheckedCurry.Proofs.Curried.Rejection
import CheckedCurry.Proofs.Curried.Transparency

/-!
# Calls of standard functions with all their arguments

A call that supplies all arguments of a standard function at once comes to what the function does
with them, in libraries that check and in libraries that do not, as long as the arguments are
admitted at the types of their parameters.

- `Library.invoke_of_admitted`: the call comes to the function and the check of its result.
- `Library.call_eq_ok`, `Library.call_eq_error`: what the function answers or raises is what the
  call answers or raises; `Library.call_unchecked`: without checks, with any arguments.
-/

namespace CheckedCurry.Library

open Curried

variable {l : Library} {s : Standard} {σ : TypeVar → String} {vs : List Value} {r : Value}
  {m m' : Machine}

/-- Values for all parameters are no surplus of a function without any. -/
theorem hasSurplus_curriedOf (hlen : vs.length = s.signature.arity) :
    (l.curriedOf s).hasSurplus vs = false := by
  refine hasSurplus_eq_false_iff.mpr fun v hv => ?_
  have harity : (l.curriedOf s).arity = vs.length := by
    show (List.replicate s.signature.arity Value.placeholder).countP Value.isOpen = vs.length
    rw [List.countP_replicate, hlen]
    rfl
  rw [harity, List.drop_length] at hv
  cases hv

/-- They fill its slots. -/
theorem fill_curriedOf (hlen : vs.length = s.signature.arity)
    (hvs : ∀ v ∈ vs, v.isOpen = false) : fill (l.curriedOf s).slots vs = vs := by
  show fill (List.replicate s.signature.arity .placeholder) vs = vs
  rw [fill_placeholders hvs (Nat.le_of_eq hlen), hlen, Nat.sub_self, List.replicate_zero,
    List.append_nil]

variable [Host]

/-- Arguments that are admitted are supplied, checked or not. -/
theorem supply?_of_admitted (hlen : vs.length = s.signature.arity)
    (hvs : ∀ v ∈ vs, v.isOpen = false) (hσ : s.signature.AdmitsAll σ vs) :
    (l.curriedOf s).supply? vs = .ok vs := by
  let checked : Curried := .fresh s.signature (.standard s) (some l.environment)
  have hfill : fill checked.slots vs = vs := fill_curriedOf (l := l) hlen hvs
  have hcoherent : s.signature.Coherent vs :=
    ⟨σ, (Signature.admitsFilled_iff_admitsAll hlen hvs).mpr hσ⟩
  have hsupply := supply?_eq_ok_iff (c := checked) rfl List.length_replicate
    (Signature.coherent_placeholders _ _) (hasSurplus_curriedOf (l := l) hlen)
  rw [hfill] at hsupply
  have hchecked : checked.supply? vs = .ok vs := hsupply.mpr hcoherent
  unfold curriedOf checks?
  split
  · exact hchecked
  · exact supply?_unchecked hchecked

/-- A call with admitted arguments comes to the function and the check of its result. -/
theorem invoke_of_admitted (hlen : vs.length = s.signature.arity)
    (hvs : ∀ v ∈ vs, v.isOpen = false) (hσ : s.signature.AdmitsAll σ vs) :
    Run.call (l.function s) vs = Run.complete (Run.apply 4999) (l.curriedOf s) vs := by
  show Run.invoke (Run.apply 4999) (l.curriedOf s) vs = _
  exact Run.invoke_saturated (supply?_of_admitted hlen hvs hσ) (isSaturated_iff_closed.mpr hvs) _

/-- What the function raises, the call raises. -/
theorem call_eq_error (hlen : vs.length = s.signature.arity) (hvs : ∀ v ∈ vs, v.isOpen = false)
    (hσ : s.signature.AdmitsAll σ vs) {f : Fault Value}
    (hrun : ∀ call : Call, s.run call vs m = (.error f, m')) :
    Run.call (l.function s) vs m = (.error f, m') := by
  rw [invoke_of_admitted hlen hvs hσ]
  exact Run.complete_of_error (hrun (Run.apply 4998))

/-- What the function answers, the call answers, if it is admitted at the type of the result. -/
theorem call_eq_ok (hlen : vs.length = s.signature.arity) (hvs : ∀ v ∈ vs, v.isOpen = false)
    (hσ : s.signature.AdmitsAll σ vs) (hr : s.signature.Admits σ s.returns r)
    (hrun : ∀ call : Call, s.run call vs m = (.ok r, m')) :
    Run.call (l.function s) vs m = (.ok r, m') := by
  have hcheck : (l.curriedOf s).checkResult vs r = .ok () := by
    cases hchecks : l.checks? with
    | none =>
      unfold curriedOf checkResult
      rw [hchecks]
      rfl
    | some environment =>
      have hfilled := (Signature.admitsFilled_iff_admitsAll hlen hvs).mpr hσ
      exact (checkResult_eq_ok_iff (c := l.curriedOf s) hchecks hlen ⟨σ, hfilled⟩).mpr
        ⟨σ, hfilled, hr⟩
  rw [invoke_of_admitted hlen hvs hσ]
  exact Run.complete_of_ok (hrun (Run.apply 4998)) hcheck

/-- Without checks, a call with all arguments is what the function does with them, whatever they
are. -/
theorem call_unchecked (hunchecked : l.isChecked = false) (hlen : vs.length = s.signature.arity)
    (hvs : ∀ v ∈ vs, v.isOpen = false) {x : Attempt Value}
    (hrun : ∀ call : Call, s.run call vs m = (x, m')) :
    Run.call (l.function s) vs m = (x, m') := by
  have hnone : l.curriedOf s = (l.curriedOf s).unchecked := by
    unfold curriedOf checks?
    rw [hunchecked]
    rfl
  have hsupply : (l.curriedOf s).supply? vs = .ok vs := by
    rw [supply?_eq, hasSurplus_curriedOf hlen, if_neg Bool.false_ne_true, hnone, feed_unchecked]
    exact congrArg Except.ok (fill_curriedOf (l := l) hlen hvs)
  show Run.invoke (Run.apply 4999) (l.curriedOf s) vs m = _
  rw [Run.invoke_saturated hsupply (isSaturated_iff_closed.mpr hvs), hnone, complete_unchecked]
  exact hrun (Run.apply 4998)

end CheckedCurry.Library
