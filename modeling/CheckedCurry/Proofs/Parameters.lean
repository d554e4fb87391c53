import CheckedCurry.Parameters
import Mathlib.Data.List.Basic

/-!
# Numbers of arguments

Two readings of a list of parameters.  A count goes through the parameters one after the other and
stops where any number of arguments is taken.  A call binds if no parameter is left without an argument
and without a default, and if there is a parameter for each argument.

- `Parameter.countFrom_eq`: what the count finds.
- `Parameters.defaults_last`: which parameters are left without an argument.
- `Parameters.takes_iff`: the numbers of arguments for which a call binds.
-/

namespace CheckedCurry

namespace Parameter

/-! ## Counting -/

/-- What the count finds from a number on, by induction on the parameters that are left: there is no
count if one of them takes any number of arguments. -/
theorem countFrom_eq (count : Nat) (ps : List Parameter) : countFrom count ps =
    if ps.any isVariadic = true then none else some (count + ps.countP isRequired) := by
  induction ps generalizing count with
  | nil => rfl
  | cons p ps ih =>
    rw [countFrom, List.any_cons]
    cases hvariadic : p.isVariadic with
    | true => rfl
    | false =>
      rw [if_neg Bool.false_ne_true, Bool.false_or, List.countP_cons, ih, ih]
      split
      · rw [Nat.add_right_comm, Nat.add_assoc]
      · rfl

/-- The count of all parameters. -/
theorem count?_eq (ps : List Parameter) :
    count? ps = if ps.any isVariadic = true then none else some (ps.countP isRequired) := by
  rw [count?, countFrom_eq, Nat.zero_add]

end Parameter

namespace Parameters

open Parameter (isRequired isOptional)

variable {ps : Parameters} {count : Nat}

/-! ## Binding -/

/-- The parameters behind the first ones have defaults if and only if those without a default are among
the first ones, as they come first. -/
theorem all_hasDefault_drop {l : List Parameter}
    (h : l.Pairwise fun p q => p.hasDefault = true → q.hasDefault = true) (count : Nat) :
    (l.drop count).all (·.hasDefault) = true ↔ l.countP (!·.hasDefault) ≤ count := by
  induction l generalizing count with
  | nil => simp
  | cons p l ih =>
    obtain ⟨hfirst, hrest⟩ := List.pairwise_cons.mp h
    cases count with
    | zero => simp [List.countP_eq_zero]
    | succ count =>
      rw [List.drop_succ_cons, ih hrest, List.countP_cons]
      cases hp : p.hasDefault with
      | true =>
        have hnone : l.countP (!·.hasDefault) = 0 :=
          List.countP_eq_zero.mpr fun q hq => by simp [hfirst q hq hp]
        simp [hnone]
      | false => simp

theorem countP_positional (ps : Parameters) :
    ps.positional.countP (!·.hasDefault) = ps.required := by
  rw [positional, List.countP_filter, required]
  exact List.countP_congr fun p _ => by simp [isRequired, Bool.and_comm]

theorem length_positional (ps : Parameters) :
    ps.positional.length = ps.required + ps.optional := by
  have hoptional : ps.positional.countP (·.hasDefault) = ps.optional := by
    rw [positional, List.countP_filter, optional]
    exact List.countP_congr fun p _ => by simp [isOptional, Bool.and_comm]
  rw [List.length_eq_countP_add_countP (·.hasDefault), hoptional, Nat.add_comm,
    ← countP_positional]
  simp

/-- The parameters that take one argument each by place: behind one with a default all have one. -/
theorem defaults_last (ps : Parameters) :
    ps.positional.Pairwise fun p q => p.hasDefault = true → q.hasDefault = true :=
  List.pairwise_filter.mpr (ps.ordered.imp fun h hp hq => h.2.2 hp hq)

/-- **A call binds** from the parameters without a default on, and up to all positional ones unless any
number is taken, provided that nothing must be given by name. -/
theorem takes_iff : ps.takes count = true ↔
    ps.required ≤ count ∧ (ps.isVariadic = true ∨ count ≤ ps.required + ps.optional) ∧
      ps.namedHaveDefaults = true := by
  rw [takes, Bool.and_eq_true, Bool.and_eq_true, Bool.or_eq_true, decide_eq_true_iff,
    all_hasDefault_drop ps.defaults_last, countP_positional, length_positional, and_assoc]

end Parameters

end CheckedCurry
