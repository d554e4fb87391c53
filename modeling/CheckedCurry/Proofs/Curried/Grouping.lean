import CheckedCurry.Proofs.Run.Calls

/-!
# Grouping of arguments

Arguments may be supplied in one call or in two, with the same outcome.  The first call brings
values and leaves a slot open; the second one may bring placeholders and more arguments than there
are slots.

- `hasSurplus_append`, `surplusFault_append`: both ways refuse the same surplus, with the same
  counts.
- `supply?_append_of_ok`, `supply?_append_of_error`: both ways make the same checks, with the same
  slots before each of them.
- `calls_grouped`: the law for calls.
-/

namespace CheckedCurry.Curried

variable {c : Curried} {xs : List Value}

theorem supplied_of_closed (hxs : ∀ x ∈ xs, x.isOpen = false) : supplied xs = xs.length :=
  List.countP_eq_length.mpr fun x hx => by simp [hxs x hx]

/-! ## The surplus of both ways -/

/-- Values for open slots leave so many fewer of them. -/
theorem arity_fill (hxs : ∀ x ∈ xs, x.isOpen = false) (hlen : xs.length ≤ c.arity) :
    ({ c with slots := fill c.slots xs } : Curried).arity + xs.length = c.arity := by
  have h := countP_fill c.slots xs
  rw [← arity, List.take_of_length_le hlen, supplied_of_closed hxs] at h
  exact h

/-- Values for open slots are no surplus. -/
theorem hasSurplus_of_length_le (hlen : xs.length ≤ c.arity) : c.hasSurplus xs = false := by
  rw [hasSurplus_eq_false_iff, List.drop_eq_nil_of_le hlen]
  exact fun a ha => absurd ha List.not_mem_nil

theorem hasSurplus_append (hxs : ∀ x ∈ xs, x.isOpen = false) (hlen : xs.length ≤ c.arity)
    (ys : List Value) :
    ({ c with slots := fill c.slots xs } : Curried).hasSurplus ys = c.hasSurplus (xs ++ ys) := by
  have harity := arity_fill hxs hlen
  have hdrop : (xs ++ ys).drop c.arity =
      ys.drop ({ c with slots := fill c.slots xs } : Curried).arity := by
    rw [List.drop_append, List.drop_eq_nil_of_le hlen, List.nil_append]
    congr 1
    omega
  rw [hasSurplus, hasSurplus, hdrop]

theorem surplusFault_append (hxs : ∀ x ∈ xs, x.isOpen = false) (hlen : xs.length ≤ c.arity)
    (ys : List Value) :
    ({ c with slots := fill c.slots xs } : Curried).surplusFault ys =
      c.surplusFault (xs ++ ys) := by
  have harity := arity_fill hxs hlen
  have hle : c.arity ≤ c.slots.length := List.countP_le_length
  have hfilled : ({ c with slots := fill c.slots xs } : Curried).filled + ys.length =
      c.filled + (xs ++ ys).length := by
    rw [filled, filled, length_fill, List.length_append]
    omega
  rw [surplusFault, surplusFault, hfilled]

variable [Host]

/-! ## The checks of both ways -/

/-- If the values are accepted, the second call does what one call with all arguments does. -/
theorem supply?_append_of_ok {slots : List Value} (hxs : ∀ x ∈ xs, x.isOpen = false)
    (hlen : xs.length ≤ c.arity) (h : c.supply? xs = .ok slots) (ys : List Value) :
    ({ c with slots := slots } : Curried).supply? ys = c.supply? (xs ++ ys) := by
  obtain ⟨hnone, rfl⟩ := eq_fill_of_supply? h
  rw [supply?_eq, hnone, if_neg Bool.false_ne_true] at h
  rw [supply?_eq, supply?_eq, hasSurplus_append hxs hlen, surplusFault_append hxs hlen,
    feed_append hxs (fun w hw => absurd hw List.not_mem_nil), h]
  rfl

/-- If one of the values is refused, so is one call with all arguments, in the same way. -/
theorem supply?_append_of_error {p : Problem} (hxs : ∀ x ∈ xs, x.isOpen = false)
    (hlen : xs.length ≤ c.arity) (h : c.supply? xs = .error p) {ys : List Value}
    (hnone : c.hasSurplus (xs ++ ys) = false) : c.supply? (xs ++ ys) = .error p := by
  rw [supply?_eq, hasSurplus_of_length_le hlen, if_neg Bool.false_ne_true] at h
  rw [supply?_eq, hnone, if_neg Bool.false_ne_true,
    feed_append hxs (fun w hw => absurd hw List.not_mem_nil), h]
  rfl

omit [Host] in
/-- Fewer values than open slots leave a slot open. -/
theorem isSaturated_fill_of_length_lt (hxs : ∀ x ∈ xs, x.isOpen = false)
    (hlen : xs.length < c.arity) : isSaturated (fill c.slots xs) = false := by
  have harity := arity_fill hxs (Nat.le_of_lt hlen)
  rw [Bool.eq_false_iff, Ne, isSaturated_iff_countP]
  intro hzero
  rw [arity, hzero] at harity
  omega

/-! ## The law for calls -/

/-- **Grouping.**  Let a function be called with values `xs`, fewer than it has open slots.  If the
call answers, it changes nothing but the next mark, and a call of its answer with `ys` is, as a run,
the call of the function with `xs ++ ys`: from the same machine both come to the same value, the
same partial application or the same fault.  If the call raises, the call with `xs ++ ys` raises the
same fault, unless one of all the arguments that meet no open slot is no placeholder; then the fault
is about their number. -/
theorem calls_grouped (c : Curried) (mark : Nat) {xs : List Value}
    (hxs : ∀ x ∈ xs, x.isOpen = false) (hlen : xs.length < c.arity) (ys : List Value)
    (call : Call) (m : Machine) :
    (∀ g m', Run.step call (c.toValue mark) xs m = (.ok g, m') →
      m' = m.advance ∧
      Run.step call g ys = Run.step call (c.toValue mark) (xs ++ ys)) ∧
    (∀ fault m', Run.step call (c.toValue mark) xs m = (.error fault, m') →
      ((∀ a ∈ (xs ++ ys).drop c.arity, a.isOpen = true) →
        Run.step call (c.toValue mark) (xs ++ ys) m = (.error fault, m')) ∧
      ((∃ a ∈ (xs ++ ys).drop c.arity, a.isOpen = false) →
        Run.step call (c.toValue mark) (xs ++ ys) m =
          (.error (.arity c.signature.name c.signature.arity (c.filled + (xs ++ ys).length)),
            m))) := by
  have hle : xs.length ≤ c.arity := Nat.le_of_lt hlen
  simp only [Run.step_toValue]
  cases hs : c.supply? xs with
  | ok slots =>
    have hslots := (eq_fill_of_supply? hs).2
    have hopen : isSaturated slots = false := hslots ▸ isSaturated_fill_of_length_lt hxs hlen
    rw [Run.invoke_partial hs hopen]
    refine ⟨fun g m' hg => ?_, fun fault m' hf => by cases hf⟩
    cases hg
    refine ⟨rfl, ?_⟩
    rw [Run.step_toValue, Run.invoke, Run.invoke, supply?_append_of_ok hxs hle hs]
    rfl
  | error p =>
    rw [Run.invoke_error hs]
    obtain ⟨m₁, hfault, -⟩ := Run.ofChecked_error (α := Value) p m
    refine ⟨fun g m' hg => ?_, fun fault m' hf => ⟨fun hall => ?_, fun hsome => ?_⟩⟩
    · rw [hfault] at hg
      cases hg
    · rw [Run.invoke_error (supply?_append_of_error hxs hle hs (hasSurplus_eq_false_iff.mpr hall)),
        hf]
    · obtain ⟨a, ha, hclosed⟩ := hsome
      have hsurplus : c.hasSurplus (xs ++ ys) = true :=
        List.any_eq_true.mpr ⟨a, ha, by simp [hclosed]⟩
      rw [Run.invoke_error (supply?_of_surplus hsurplus)]
      rfl

omit [Host] in
/-- Two slots are open around a filled one.  After a number, a second call brings a value too many,
and the fault counts all arguments.  A null value is refused at once, unless there are too many
arguments with it. -/
theorem calls_grouped_around_filled : letI : Host := .bare
    let c : Curried := ⟨⟨"f", [.nonNull, .nonNull, .finiteNumber], .anything, []⟩,
      .collecting 0 (.fixed 3), some Ty.environment, [.placeholder, .int 1, .placeholder]⟩
    let g := ({ c with slots := [.int 2, .int 1, .placeholder] } : Curried).toValue 1000
    let run := fun f arguments => Run.step Run.call f arguments (.start none)
    (∀ x ∈ [Value.int 2, .null], x.isOpen = false) ∧ [Value.int 2].length < c.arity ∧
    run (c.toValue 0) [.int 2] = (.ok g, .advance (.start none)) ∧
    Run.step Run.call g [.placeholder, .text "x"] =
      Run.step Run.call (c.toValue 0) [.int 2, .placeholder, .text "x"] ∧
    run g [.placeholder, .text "x"] = (.error (.arity "f" 3 4), .start none) ∧
    run (c.toValue 0) [.null] = (.error (.accessibility "f" 0), .start none) ∧
    run (c.toValue 0) [.null, .int 3] = (.error (.accessibility "f" 0), .start none) ∧
    run (c.toValue 0) [.null, .int 3, .int 4] = (.error (.arity "f" 3 4), .start none) := by
  let _ : Host := .bare
  intro c g run
  have hlen : [Value.int 2].length < c.arity := by decide
  have hfirst : run (c.toValue 0) [.int 2] = (.ok g, .advance (.start none)) := by rfl
  have hnull : run (c.toValue 0) [.null] = (.error (.accessibility "f" 0), .start none) := by rfl
  have hnumber : ∀ x ∈ [Value.int 2], x.isOpen = false := by decide
  have hvalue : ∀ x ∈ [Value.null], x.isOpen = false := by decide
  obtain ⟨hsame, -⟩ :=
    calls_grouped c 0 hnumber hlen [.placeholder, .text "x"] Run.call (.start none)
  obtain ⟨-, hone⟩ := calls_grouped c 0 hvalue hlen [.int 3] Run.call (.start none)
  obtain ⟨-, htwo⟩ := calls_grouped c 0 hvalue hlen [.int 3, .int 4] Run.call (.start none)
  exact ⟨by decide, hlen, hfirst, (hsame _ _ hfirst).2, rfl, hnull,
    (hone _ _ hnull).1 (by decide), (htwo _ _ hnull).2 ⟨.int 4, List.mem_singleton.mpr rfl, rfl⟩⟩

end CheckedCurry.Curried
