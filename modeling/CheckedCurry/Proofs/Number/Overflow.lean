import CheckedCurry.Number.Binary64
import Mathlib.Algebra.Order.Field.Power
import Mathlib.Data.Rat.Lemmas
import Mathlib.Tactic.FieldSimp
import Mathlib.Tactic.GCongr
import Mathlib.Tactic.Linarith
import Mathlib.Tactic.NormNum
import Mathlib.Tactic.Positivity
import Mathlib.Tactic.Ring

/-!
# Quotients that are too large for a binary64 number

The nearest binary64 number of a quotient is finite as long as the quotient is closer to the greatest
finite number than to the next power of two; the middle between the two goes to the power of two, since
that is the even neighbour.  However small a quotient is, its nearest number is finite.

- `quotient_scale`, `magnitude_le`, `lt_magnitude`: scaling, and the powers of two around a quotient.
- `le_roundHalfEven_iff`, `roundHalfEven_le`: what rounding to an integer reaches.
- `isFinite_ofRat_iff`: exactly which quotients have a finite nearest number.
-/

namespace CheckedCurry.Binary64

variable {num den c : Nat}

/-! ## Powers of two -/

theorem scale_snd_pos (hden : 0 < den) (k : Int) : 0 < (scale num den k).2 := by
  unfold scale
  split
  · exact hden
  · exact Nat.mul_pos hden (Nat.pow_pos (by decide))

/-- Scaling multiplies a quotient by a power of two. -/
theorem quotient_scale (hden : 0 < den) (k : Int) :
    ((scale num den k).1 / (scale num den k).2 : ℚ) = num / den * 2 ^ k := by
  have hden' : (den : ℚ) ≠ 0 := Nat.cast_ne_zero.mpr hden.ne'
  unfold scale
  split
  · rename_i hk
    obtain ⟨n, rfl⟩ := Int.eq_ofNat_of_zero_le hk
    rw [Int.toNat_natCast, zpow_natCast, Nat.pow_eq, Nat.cast_mul, Nat.cast_pow, Nat.cast_ofNat]
    ring
  · rename_i hk
    obtain ⟨n, hn⟩ := Int.eq_ofNat_of_zero_le (show 0 ≤ -k by omega)
    obtain rfl : k = -(n : Int) := by omega
    rw [Int.neg_neg, Int.toNat_natCast, zpow_neg, zpow_natCast, Nat.pow_eq, Nat.cast_mul, Nat.cast_pow,
      Nat.cast_ofNat]
    field_simp

/-- A quotient lies between the powers of two that the lengths of its parts give. -/
theorem log2_bounds (hnum : 0 < num) (hden : 0 < den) :
    (2 : ℚ) ^ ((num.log2 : Int) - den.log2 - 1) ≤ num / den ∧
      (num / den : ℚ) < 2 ^ ((num.log2 : Int) - den.log2 + 1) := by
  have htwo : (2 : ℚ) ≠ 0 := by norm_num
  have hden' : (0 : ℚ) < den := Nat.cast_pos.mpr hden
  have hnum_le : (2 : ℚ) ^ num.log2 ≤ num := by exact_mod_cast Nat.log2_self_le hnum.ne'
  have hnum_lt : (num : ℚ) < 2 ^ (num.log2 + 1) := by exact_mod_cast Nat.lt_log2_self
  have hden_le : (2 : ℚ) ^ den.log2 ≤ den := by exact_mod_cast Nat.log2_self_le hden.ne'
  have hden_lt : (den : ℚ) < 2 ^ (den.log2 + 1) := by exact_mod_cast Nat.lt_log2_self
  constructor
  · rw [le_div_iff₀ hden']
    calc (2 : ℚ) ^ ((num.log2 : Int) - den.log2 - 1) * den
        ≤ 2 ^ ((num.log2 : Int) - den.log2 - 1) * 2 ^ (den.log2 + 1) := by gcongr
      _ = 2 ^ num.log2 := by
        rw [← zpow_natCast, ← zpow_natCast, ← zpow_add₀ htwo]
        congr 1
        push_cast
        ring
      _ ≤ num := hnum_le
  · rw [div_lt_iff₀ hden']
    calc (num : ℚ) < 2 ^ (num.log2 + 1) := hnum_lt
      _ = 2 ^ ((num.log2 : Int) - den.log2 + 1) * 2 ^ den.log2 := by
        rw [← zpow_natCast, ← zpow_natCast, ← zpow_add₀ htwo]
        congr 1
        push_cast
        ring
      _ ≤ 2 ^ ((num.log2 : Int) - den.log2 + 1) * den := by gcongr

/-- The test of a magnitude compares a quotient with a power of two. -/
theorem scale_le_iff (hden : 0 < den) (k : Int) :
    (scale num den (-k)).2 ≤ (scale num den (-k)).1 ↔ (2 : ℚ) ^ k ≤ num / den := by
  have hpos : (0 : ℚ) < (scale num den (-k)).2 := Nat.cast_pos.mpr (scale_snd_pos hden _)
  rw [← Nat.cast_le (α := ℚ), ← one_le_div hpos, quotient_scale hden, zpow_neg, ← div_eq_mul_inv,
    one_le_div (by positivity)]

/-- The power of two at the magnitude is at most the quotient. -/
theorem magnitude_le (hnum : 0 < num) (hden : 0 < den) :
    (2 : ℚ) ^ magnitude num den ≤ num / den := by
  have hbounds := (log2_bounds hnum hden).1
  unfold magnitude
  dsimp only
  split
  · rename_i hle
    exact (scale_le_iff hden _).mp hle
  · exact hbounds

/-- The next power of two is greater. -/
theorem lt_magnitude (hnum : 0 < num) (hden : 0 < den) :
    (num / den : ℚ) < 2 ^ (magnitude num den + 1) := by
  have hbounds := (log2_bounds hnum hden).2
  unfold magnitude
  dsimp only
  split
  · exact hbounds
  · rename_i hlt
    rw [sub_add_cancel]
    exact not_le.mp fun hle => hlt ((scale_le_iff hden _).mpr hle)

/-- The magnitude is the exponent of the greatest power of two that is not above the quotient. -/
theorem le_magnitude_iff (hnum : 0 < num) (hden : 0 < den) (k : Int) :
    k ≤ magnitude num den ↔ (2 : ℚ) ^ k ≤ num / den := by
  constructor
  · intro h
    exact (zpow_le_zpow_right₀ (by norm_num) h).trans (magnitude_le hnum hden)
  · intro h
    have hlt := (zpow_lt_zpow_iff_right₀ (by norm_num)).mp (h.trans_lt (lt_magnitude hnum hden))
    omega

/-! ## Rounding to an integer -/

/-- Twice a quotient, rounded down, tells on which side of the half its fraction lies. -/
theorem two_mul_div (hden : 0 < den) :
    2 * num / den = 2 * (num / den) + if 2 * (num % den) < den then 0 else 1 := by
  have hsum : 2 * num = den * (2 * (num / den)) + 2 * (num % den) := by
    rw [Nat.mul_left_comm, ← Nat.mul_add, Nat.div_add_mod]
  have hmod : num % den < den := Nat.mod_lt num hden
  rw [hsum, Nat.mul_add_div hden]
  congr 1
  split
  · rename_i hlt
    exact Nat.div_eq_of_lt hlt
  · exact Nat.div_eq_of_lt_le (by omega) (by omega)

/-- An even integer is reached from half a unit below it on. -/
theorem le_roundHalfEven_iff (hden : 0 < den) (hc : c % 2 = 0) :
    c ≤ roundHalfEven num den ↔ 2 * c - 1 ≤ 2 * num / den := by
  rw [two_mul_div hden]
  unfold roundHalfEven
  dsimp only
  split_ifs <;> omega

/-- An integer above a quotient is not passed. -/
theorem roundHalfEven_le (hden : 0 < den) (h : num < c * den) : roundHalfEven num den ≤ c := by
  have hlt : num / den < c := (Nat.div_lt_iff_lt_mul hden).mpr h
  unfold roundHalfEven
  dsimp only
  split_ifs <;> omega

/-! ## The bound -/

/-- The middle between the greatest finite number and the next power of two. -/
def overflowBound : ℚ := 2 ^ 1024 - 2 ^ 970

/-- A power of two in units of a smaller one. -/
theorem two_zpow_add (m n : ℕ) : (2 : ℚ) ^ ((m + n : ℕ) : Int) = 2 ^ m * 2 ^ n := by
  rw [zpow_natCast, pow_add]

theorem overflowBound_eq_mul : overflowBound = (2 ^ 54 - 1) * 2 ^ 970 := by
  rw [overflowBound, sub_one_mul, ← pow_add]

/-- In units of the last place of the greatest finite number, the bound is half a unit below a power of
two. -/
theorem overflowBound_eq : overflowBound = (2 * 2 ^ 53 - 1 : ℕ) / 2 * 2 ^ (971 : Int) := by
  rw [overflowBound_eq_mul, show (971 : Int) = ((1 + 970 : ℕ) : Int) from rfl, two_zpow_add]
  generalize (2 : ℚ) ^ 970 = unit
  norm_num
  ring

theorem two_pow_lt_overflowBound : (2 : ℚ) ^ (1023 : Int) < overflowBound := by
  have hunit : (0 : ℚ) < 2 ^ 970 := by positivity
  rw [overflowBound_eq_mul, show (1023 : Int) = ((53 + 970 : ℕ) : Int) from rfl, two_zpow_add]
  exact mul_lt_mul_of_pos_right (by norm_num) hunit

theorem overflowBound_le : overflowBound ≤ (2 : ℚ) ^ (1024 : Int) :=
  sub_le_self _ (by positivity)

/-- Whether the nearest number is finite, by the exponent that the magnitude of a quotient gives and by
what is rounded up to the next power of two. -/
theorem isFinite_ofRatio_eq (s : Bool) (hnum : 0 < num) :
    (ofRatio s num den).isFinite = true ↔
      magnitude num den < 1023 ∨ magnitude num den = 1023 ∧
        roundHalfEven (scale num den (-971)).1 (scale num den (-971)).2 ≠ 2 ^ 53 := by
  unfold ofRatio
  rw [if_neg hnum.ne', show minExponent = -1074 from rfl, show maxExponent = 971 from rfl,
    Nat.pow_eq, Nat.pow_eq]
  generalize 2 ^ 53 = limit, 2 ^ 52 = half
  generalize he : max (magnitude num den - 52) (-1074) = e
  dsimp only
  have hlast (h : magnitude num den = 1023) : e = 971 := by omega
  by_cases hround : roundHalfEven (scale num den (-e)).1 (scale num den (-e)).2 = limit
  · -- rounded up to a power of two, the number has one more for its exponent
    simp only [if_pos hround]
    split
    · refine iff_of_false Bool.false_ne_true ?_
      rintro (hlt | ⟨heq, hne⟩)
      · omega
      · obtain rfl := hlast heq
        exact hne hround
    · exact iff_of_true rfl (.inl (by omega))
  · simp only [if_neg hround]
    split
    · exact iff_of_false Bool.false_ne_true (by omega)
    · refine iff_of_true rfl ?_
      by_cases heq : magnitude num den = 1023
      · obtain rfl := hlast heq
        exact .inr ⟨heq, hround⟩
      · exact .inl (by omega)

/-- Of the quotients at the last exponent, those below the bound are not rounded up to a power of
two. -/
theorem roundHalfEven_last (hnum : 0 < num) (hden : 0 < den) (h : magnitude num den = 1023) :
    roundHalfEven (scale num den (-971)).1 (scale num den (-971)).2 ≠ 2 ^ 53 ↔
      (num / den : ℚ) < overflowBound := by
  have hpos : 0 < (scale num den (-971)).2 := scale_snd_pos hden _
  have hpos' : (0 : ℚ) < (scale num den (-971)).2 := Nat.cast_pos.mpr hpos
  have hlast : (0 : ℚ) < 2 ^ (971 : Int) := zpow_pos (by norm_num) _
  have hscale : ((scale num den (-971)).1 / (scale num den (-971)).2 : ℚ) =
      num / den / 2 ^ (971 : Int) := by
    rw [quotient_scale hden, zpow_neg, div_eq_mul_inv _ ((2 : ℚ) ^ (971 : Int))]
  have hlt : (scale num den (-971)).1 < 2 ^ 53 * (scale num den (-971)).2 := by
    have hmagnitude := lt_magnitude hnum hden
    rw [h, show (1023 + 1 : Int) = 53 + 971 by norm_num, zpow_add₀ (by norm_num),
      ← div_lt_iff₀ hlast, ← hscale, div_lt_iff₀ hpos'] at hmagnitude
    exact_mod_cast hmagnitude
  have hle := roundHalfEven_le hpos hlt
  have hreach : roundHalfEven (scale num den (-971)).1 (scale num den (-971)).2 = 2 ^ 53 ↔
      2 ^ 53 ≤ roundHalfEven (scale num den (-971)).1 (scale num den (-971)).2 :=
    ⟨fun heq => heq.ge, fun hge => le_antisymm hle hge⟩
  rw [Ne, hreach, le_roundHalfEven_iff hpos (by norm_num), not_le, Nat.div_lt_iff_lt_mul hpos,
    overflowBound_eq, ← div_lt_iff₀ hlast, ← hscale, div_lt_iff₀ hpos', div_mul_eq_mul_div,
    lt_div_iff₀ (by norm_num), ← Nat.cast_lt (α := ℚ), Nat.cast_mul, Nat.cast_mul, Nat.cast_ofNat,
    mul_comm (2 : ℚ)]

/-- The nearest number of a positive quotient is finite exactly below the bound. -/
theorem isFinite_ofRatio_iff (s : Bool) (hnum : 0 < num) (hden : 0 < den) :
    (ofRatio s num den).isFinite = true ↔ (num / den : ℚ) < overflowBound := by
  rw [isFinite_ofRatio_eq s hnum]
  rcases lt_trichotomy (magnitude num den) 1023 with hlt | heq | hgt
  · have hsmall : (num / den : ℚ) < overflowBound :=
      calc (num / den : ℚ) < 2 ^ (magnitude num den + 1) := lt_magnitude hnum hden
        _ ≤ 2 ^ (1023 : Int) := zpow_le_zpow_right₀ (by norm_num) (by omega)
        _ < overflowBound := two_pow_lt_overflowBound
    exact iff_of_true (.inl hlt) hsmall
  · rw [← roundHalfEven_last hnum hden heq]
    simp [heq]
  · have hlarge : overflowBound ≤ (num / den : ℚ) :=
      calc overflowBound ≤ 2 ^ (1024 : Int) := overflowBound_le
        _ ≤ num / den := (le_magnitude_iff hnum hden 1024).mp (by omega)
    exact iff_of_false (by omega) hlarge.not_gt

/-- **Which quotients are too large.**  The nearest number of a quotient is finite exactly if the
quotient is closer to zero than the bound. -/
theorem isFinite_ofRat_iff (s : Bool) (q : ℚ) :
    (ofRat s q).isFinite = true ↔ |q| < overflowBound := by
  unfold ofRat
  split
  · rename_i hzero
    rw [Rat.num_eq_zero.mp hzero, abs_zero]
    exact iff_of_true rfl (lt_trans (by positivity) two_pow_lt_overflowBound)
  · rename_i hne
    have habs : |q| = q.num.natAbs / q.den := by
      rw [Rat.abs_def, Rat.divInt_eq_div, Int.cast_natCast, Int.cast_natCast]
    rw [isFinite_ofRatio_iff _ (Int.natAbs_pos.mpr hne) q.den_pos, habs]

end CheckedCurry.Binary64
