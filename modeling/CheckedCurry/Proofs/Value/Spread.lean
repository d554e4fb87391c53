import CheckedCurry.Value.Access

/-!
# Spreading sequences

The elements of a sequence go into a new one if there is room for them.  Only a progression can have
too many: the elements of every other sequence are held in memory already.

- `Progression.between_of_mem`: the elements of a progression lie between its bounds.
- `Progression.HasRoom`, `Value.IsHeld`: a progression, and any value, that can be spread.
- `spread_of_isHeld`, `spread_of_not_isHeld`: what spreading a value comes to.
- `elements_of_spread`: what is spread are the elements.
-/

namespace CheckedCurry

namespace Progression

/-- The elements of a progression are not further from zero than its bounds. -/
theorem between_of_mem {p : Progression} {n : Int} (h : n ∈ p.elements) :
    n.natAbs ≤ max p.start.natAbs p.stop.natAbs := by
  obtain ⟨i, hi, rfl⟩ := List.mem_map.mp h
  rw [List.mem_range, length] at hi
  split at hi
  · next hstep =>
    have hlast : ((i : Int) + 1) * p.step ≤ p.stop - p.start + p.step - 1 := by
      rw [← Int.le_ediv_iff_mul_le hstep, ← Int.fdiv_eq_ediv_of_nonneg _ (Int.le_of_lt hstep)]
      omega
    have hfirst : 0 ≤ (i : Int) * p.step :=
      Int.mul_nonneg (Int.natCast_nonneg i) (Int.le_of_lt hstep)
    rw [Int.add_mul, Int.one_mul] at hlast
    omega
  · split at hi
    · next hstep =>
      have hpos : 0 < -p.step := by omega
      have hlast : ((i : Int) + 1) * -p.step ≤ p.start - p.stop - p.step - 1 := by
        rw [← Int.le_ediv_iff_mul_le hpos, ← Int.fdiv_eq_ediv_of_nonneg _ (Int.le_of_lt hpos)]
        omega
      have hfirst : 0 ≤ (i : Int) * -p.step :=
        Int.mul_nonneg (Int.natCast_nonneg i) (Int.le_of_lt hpos)
      rw [Int.add_mul, Int.one_mul, Int.mul_neg] at hlast
      rw [Int.mul_neg] at hfirst
      omega
    · exact absurd hi (Nat.not_lt_zero i)

section Room

variable [Host]

/-- There is room for the elements of a progression. -/
def HasRoom (p : Progression) : Prop := p.length < Value.countBound ∧ p.length < Host.room

instance (p : Progression) : Decidable p.HasRoom :=
  inferInstanceAs (Decidable (_ ∧ _))

end Room

end Progression

namespace Value

variable [Host] {v : Value} {items : List Value}

theorem checkCount_of_hasRoom {p : Progression} (h : p.HasRoom) : checkCount p.length = .ok () := by
  rw [checkCount, if_neg (Nat.not_le_of_lt h.1), if_neg (Nat.not_le_of_lt h.2)]

/-- The elements of a value can be held at once, as those of any value but a progression are. -/
def IsHeld (v : Value) : Prop := ∀ p, v.core = range p → p.HasRoom

/-- There is no room for the elements of a progression that is too long. -/
inductive IsTooLong : Fault Value → Prop
  | uncountable : IsTooLong (.basic .uncountable)
  | tooLong : IsTooLong (.basic .tooLong)

theorem spread_of_isHeld (h : v.IsHeld) : v.spread = v.elements := by
  unfold spread
  split
  · next p hp =>
    rw [checkCount_of_hasRoom (h p hp)]
    rfl
  · rfl

theorem spread_of_not_isHeld (h : ¬ v.IsHeld) : ∃ f, v.spread = .error f ∧ IsTooLong f := by
  obtain ⟨p, hp, hroom⟩ : ∃ p, v.core = range p ∧ ¬ p.HasRoom := by
    unfold IsHeld at h
    simpa using h
  unfold spread checkCount
  rw [hp]
  dsimp only
  split
  · exact ⟨_, rfl, .uncountable⟩
  · next hcount =>
    have hlength : Host.room ≤ p.length := Nat.le_of_not_lt fun hroom' =>
      hroom ⟨Nat.lt_of_not_le hcount, hroom'⟩
    rw [if_pos hlength]
    exact ⟨_, rfl, .tooLong⟩

/-- What is spread are the elements. -/
theorem elements_of_spread (h : v.spread = .ok items) : v.elements = .ok items := by
  by_cases hheld : v.IsHeld
  · rwa [← spread_of_isHeld hheld]
  · obtain ⟨f, hf, -⟩ := spread_of_not_isHeld hheld
    rw [hf] at h
    cases h

end Value

end CheckedCurry
