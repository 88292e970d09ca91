import Mathlib.Algebra.Order.Field.Basic
import Mathlib.Tactic.Linarith
import Mathlib.Tactic.Positivity
import Reckoner.Proofs.Binary64.Range

/-!
A decimal is read as the number of the format that is nearest to it. Between two numbers that are
equally near the significand decides, and where the format ends the reading is infinite. The powers
of ten that are never formed make no difference: what they stand for is far beyond the largest
number or far below half the smallest step.
-/

namespace Reckoner

/-- An even number of equal powers of two is an even number of spacings as well. If the spacing is
wider than the powers, the number of them was `2 ^ 53`, and the significand is `2 ^ 52`. So a tie
that is decided for the even number of powers is decided for the even significand. -/
theorem even_significand {n : Nat} (hle : n ≤ Nat.pow 2 53) (heven : n % 2 = 0) (e : Nat) :
    n * Nat.pow 2 e / spacing (n * Nat.pow 2 e) % 2 = 0 := by
  rcases Nat.eq_or_lt_of_le hle with rfl | hlt
  · have hlog : (Nat.pow 2 53 * Nat.pow 2 e).log2 = 53 + e := by
      simp only [Nat.pow_eq]
      rw [← Nat.pow_add, Nat.log2_two_pow]
    have hspacing : spacing (Nat.pow 2 53 * Nat.pow 2 e) = Nat.pow 2 (e + 1) := by
      rw [spacing, hlog]
      exact congrArg (Nat.pow 2) (by omega)
    have hfactor : Nat.pow 2 53 * Nat.pow 2 e = Nat.pow 2 52 * Nat.pow 2 (e + 1) := by
      simp only [Nat.pow_eq]
      rw [← Nat.pow_add, ← Nat.pow_add, Nat.add_comm e, ← Nat.add_assoc]
    rw [hspacing, hfactor, Nat.mul_div_cancel _ (power_pos _)]
  · rcases Nat.eq_zero_or_pos n with rfl | hpos
    · simp
    have hfine : (n * Nat.pow 2 e).log2 - 52 ≤ e := by
      have hbound : n * Nat.pow 2 e < Nat.pow 2 (53 + e) := by
        simp only [Nat.pow_eq] at hlt ⊢
        rw [Nat.pow_add]
        exact Nat.mul_lt_mul_of_pos_right hlt (Nat.two_pow_pos e)
      have hne : n * Nat.pow 2 e ≠ 0 := Nat.mul_ne_zero hpos.ne' (power_pos e).ne'
      have hlog := (Nat.log2_lt hne).mpr hbound
      omega
    obtain ⟨k, hk⟩ := Nat.exists_eq_add_of_le hfine
    have hfactor : n * Nat.pow 2 e = n * Nat.pow 2 k * spacing (n * Nat.pow 2 e) := by
      conv_lhs => rw [hk]
      simp only [spacing, Nat.pow_eq]
      rw [Nat.pow_add, Nat.mul_assoc, Nat.mul_comm (2 ^ k)]
    have hquotient : n * Nat.pow 2 e / spacing (n * Nat.pow 2 e) = n * Nat.pow 2 k :=
      Nat.div_eq_of_eq_mul_left (spacing_pos _) hfactor
    rw [hquotient, Nat.mul_mod, heven, Nat.zero_mul, Nat.zero_mod]

theorem nearestEven_le_pow (num : Nat) (den : Nat) :
    nearestEven num (den * spacing (num / den)) ≤ Nat.pow 2 53 := by
  have hquotient : num / (den * spacing (num / den)) < Nat.pow 2 53 := by
    rw [← Nat.div_div_eq_div_mul]
    apply Nat.div_lt_of_lt_mul
    rw [Nat.mul_comm]
    exact lt_spacing_mul _
  have hsucc := nearestEven_le_succ num (den * spacing (num / den))
  omega

/-- What is equally near to two multiples is rounded to the even one. That it is near to another one
at all means that it lies half way between two. -/
theorem nearestEven_even_of_tie {num den k : Nat} (hden : 0 < den) (hne : k ≠ nearestEven num den)
    (htie : Nat.dist num (k * den) = Nat.dist num (nearestEven num den * den)) :
    nearestEven num den % 2 = 0 := by
  obtain ⟨hlow, hhigh, hodd⟩ := isNearestEven_nearestEven num hden
  have hparity := Nat.mod_two_eq_zero_or_one (nearestEven num den)
  unfold Nat.dist at htie
  rcases Nat.lt_or_gt_of_ne hne with hless | hmore
  · have := mul_add_le_mul_of_lt hless den
    omega
  · have := mul_add_le_mul_of_lt hmore den
    omega

/-- A count on the grid of binary64 that is as near to the quotient as the rounded one is a multiple
of the spacing at the quotient. -/
theorem spacing_dvd_of_tie {num den other : Nat} (hden : 0 < den) (hgrid : spacing other ∣ other)
    (htie : Nat.dist num (other * den) = Nat.dist num (roundUnits num den * den)) :
    spacing (num / den) ∣ other := by
  apply Decidable.byContradiction
  intro hnot
  have hbelow := lt_pow_mul_of_not_dvd rfl hgrid hnot
  have hone : spacing (num / den) ≠ 1 := by
    intro hone
    exact hnot (hone ▸ Nat.one_dvd _)
  have hstart : Nat.pow 2 52 * spacing (num / den) * den ≤ num :=
    (Nat.le_div_iff_mul_le hden).mp (pow_mul_spacing_le hone)
  have hless : other * den < Nat.pow 2 52 * spacing (num / den) * den :=
    Nat.mul_lt_mul_of_pos_right hbelow hden
  -- the first count of the binade is on the grid, and nearer than anything below it
  have hedge := roundUnits_nearest num hden
    (spacing_dvd_mul_pow (m := Nat.pow 2 52) ((num / den).log2 - 52) (by decide))
  change Nat.dist num _ ≤ Nat.dist num (Nat.pow 2 52 * spacing (num / den) * den) at hedge
  unfold Nat.dist at htie hedge
  omega

/-- If a quotient is equally near to two counts of the format, it is rounded to the one whose
significand is even. -/
theorem roundUnits_even_of_tie {num den other : Nat} (hden : 0 < den)
    (hgrid : spacing other ∣ other) (hne : other ≠ roundUnits num den)
    (htie : Nat.dist num (other * den) = Nat.dist num (roundUnits num den * den)) :
    roundUnits num den / spacing (roundUnits num den) % 2 = 0 := by
  obtain ⟨k, rfl⟩ := spacing_dvd_of_tie hden hgrid htie
  have hpos : 0 < den * spacing (num / den) := Nat.mul_pos hden (spacing_pos _)
  have hround : roundUnits num den * den =
      nearestEven num (den * spacing (num / den)) * (den * spacing (num / den)) := by
    unfold roundUnits
    ring
  have hother : spacing (num / den) * k * den = k * (den * spacing (num / den)) := by ring
  have hdifferent : k ≠ nearestEven num (den * spacing (num / den)) := by
    intro hk
    apply hne
    rw [roundUnits, ← hk, Nat.mul_comm]
  rw [hround, hother] at htie
  have heven := nearestEven_even_of_tie hpos hdifferent htie
  exact even_significand (nearestEven_le_pow num den) heven _

namespace Binary64

/-- What a value is rounded to. Measured in steps, no number of the format is nearer to it; of two
that are equally near it is the one with the even significand; and it is infinite if the value is at
least half a spacing past the largest number. -/
inductive IsRounding (value : ℚ) : Binary64 → Prop where
  | finite {units : Nat} (h : Representable units) (range : value < firstInfinite)
      (nearest : ∀ other, Representable other →
        |value * unitsPerOne - units| ≤ |value * unitsPerOne - other|)
      (even : ∀ other, Representable other → other ≠ units →
        |value * unitsPerOne - other| = |value * unitsPerOne - units| →
        units / spacing units % 2 = 0) :
      IsRounding value (.finite false units h)
  | infinite (range : firstInfinite ≤ value) : IsRounding value (.infinity false)

/-- Distances between counts are those between values, up to the common denominator. So what was
said about counts in natural numbers can be said about numbers. -/
theorem abs_sub_eq_dist (num : Nat) {den : Nat} (hden : 0 < den) (units : Nat) :
    |(num : ℚ) / den - units| = (Nat.dist num (units * den) : ℚ) / den := by
  have hpos : (0 : ℚ) < den := by exact_mod_cast hden
  have hsub : (num : ℚ) / den - units = (num - units * den) / den := by
    field_simp
  rw [hsub, abs_div, abs_of_pos hpos]
  congr 1
  rcases Nat.le_total num (units * den) with hle | hle
  · rw [Nat.dist_eq_sub_of_le hle, Nat.cast_sub hle, abs_of_nonpos]
    · push_cast
      ring
    · rw [sub_nonpos]
      exact_mod_cast hle
  · rw [Nat.dist_eq_sub_of_le_right hle, Nat.cast_sub hle, abs_of_nonneg]
    · push_cast
      ring
    · rw [sub_nonneg]
      exact_mod_cast hle

theorem isRounding_roundQuotient {value : ℚ} {num den : Nat} (hden : 0 < den)
    (hvalue : value * unitsPerOne = num / den) (hrange : value < firstInfinite)
    (hfinite : roundUnits num den < pastLargest) :
    IsRounding value (roundQuotient false num den) := by
  have hpos : (0 : ℚ) < den := by exact_mod_cast hden
  rw [roundQuotient_units hfinite]
  apply IsRounding.finite _ hrange
  · intro other hother
    rw [hvalue, abs_sub_eq_dist num hden, abs_sub_eq_dist num hden,
      div_le_div_iff_of_pos_right hpos]
    exact_mod_cast roundUnits_nearest num hden hother.2
  · intro other hother hne htie
    rw [hvalue, abs_sub_eq_dist num hden, abs_sub_eq_dist num hden,
      div_left_inj' hpos.ne'] at htie
    exact roundUnits_even_of_tie hden hother.2 hne (by exact_mod_cast htie)

/-- A value below half a step is rounded to zero. Zero is nearest to it then, and it is below every
number that is read as an infinity. -/
theorem isRounding_zero {value : ℚ} (hnonneg : 0 ≤ value) (hrange : value < firstInfinite)
    (hsmall : 2 * (value * unitsPerOne) < 1) : IsRounding value (zero false) := by
  have hsteps : 0 ≤ value * unitsPerOne := mul_nonneg hnonneg (Nat.cast_nonneg _)
  apply IsRounding.finite representable_zero hrange
  · intro other _
    rcases Nat.eq_zero_or_pos other with rfl | hpos
    · rfl
    · have hone : (1 : ℚ) ≤ other := by exact_mod_cast hpos
      rw [Nat.cast_zero, sub_zero, abs_of_nonneg hsteps, abs_of_neg (by linarith)]
      linarith
  · intro other _ _ _
    simp

theorem ten_pow_mul_le {m n k : Nat} (h : m + n ≤ k) :
    Nat.pow 10 m * Nat.pow 10 n ≤ Nat.pow 10 k := by
  simp only [Nat.pow_eq]
  rw [← Nat.pow_add]
  exact Nat.pow_le_pow_right (by decide) h

/-- A decimal with a very small exponent lies below half a step, however long its coefficient is.
That is why reading may give zero for it without forming the power. -/
theorem value_mul_lt_of_exponent_lt {d : Decimal} {n : Nat} (hn : 2 * unitsPerOne < Nat.pow 10 n)
    (h : d.exponent < -(d.coefficient.log2 + n : Nat)) : 2 * (d.value * unitsPerOne) < 1 := by
  have hbits : d.coefficient < Nat.pow 10 (d.coefficient.log2 + 1) :=
    calc d.coefficient < 2 ^ (d.coefficient.log2 + 1) := Nat.lt_log2_self
      _ ≤ Nat.pow 10 (d.coefficient.log2 + 1) := Nat.pow_le_pow_left (by decide) _
  have hpow : Nat.pow 10 (d.coefficient.log2 + 1) * Nat.pow 10 n ≤
      Nat.pow 10 (-d.exponent).toNat := ten_pow_mul_le (by omega)
  have hsmall : 2 * (d.ratio.1 * unitsPerOne) < d.ratio.2 := by
    have hwhole : d.exponent.toNat = 0 := Int.toNat_of_nonpos (by omega)
    have hone : Nat.pow 10 0 = 1 := rfl
    rw [Decimal.ratio_eq, hwhole, hone, Nat.mul_one, Nat.mul_left_comm]
    exact Nat.lt_of_lt_of_le (Nat.mul_lt_mul'' hbits hn) hpow
  have hpos : (0 : ℚ) < d.ratio.2 := by exact_mod_cast d.ratio_pos
  rw [d.value_eq_ratio, div_mul_eq_mul_div, ← mul_div_assoc, div_lt_one hpos]
  exact_mod_cast hsmall

/-- Reading a decimal rounds its value once. No part of the reading is rounded on the way, neither
the coefficient nor the power of ten. The shortcuts are roundings as well, since a value so small or
so large rounds to zero or to infinity. -/
theorem ofDecimal_isRounding (d : Decimal) : IsRounding d.value (ofDecimal false d) := by
  have hnonneg : 0 ≤ d.value := by
    unfold Decimal.value
    positivity
  have hrange := ofDecimal_isFinite_iff false d
  unfold ofDecimal at hrange ⊢
  by_cases hzero : d.coefficient = 0
  · rw [if_pos hzero] at hrange ⊢
    apply isRounding_zero hnonneg (hrange.mp rfl)
    rw [Decimal.value, hzero, Nat.cast_zero, zero_mul, zero_mul, mul_zero]
    exact zero_lt_one
  by_cases hhuge : 400 < d.exponent
  · rw [if_neg hzero, if_pos hhuge] at hrange ⊢
    apply IsRounding.infinite
    apply le_of_not_gt
    intro hless
    cases hrange.mpr hless
  by_cases htiny : d.exponent < -(d.coefficient.log2 + 400 : Nat)
  · rw [if_neg hzero, if_neg hhuge, if_pos htiny] at hrange ⊢
    apply isRounding_zero hnonneg (hrange.mp rfl)
    exact value_mul_lt_of_exponent_lt (by decide +kernel) htiny
  rw [if_neg hzero, if_neg hhuge, if_neg htiny, roundQuotient_isFinite_iff] at hrange
  rw [if_neg hzero, if_neg hhuge, if_neg htiny]
  by_cases hfinite : roundUnits (d.ratio.1 * unitsPerOne) d.ratio.2 < pastLargest
  · apply isRounding_roundQuotient d.ratio_pos _ (hrange.mp hfinite) hfinite
    rw [d.value_eq_ratio, div_mul_eq_mul_div]
    push_cast
    rfl
  · have hinfinite : roundQuotient false (d.ratio.1 * unitsPerOne) d.ratio.2 = .infinity false :=
      dif_neg hfinite
    dsimp only
    rw [hinfinite]
    apply IsRounding.infinite
    apply le_of_not_gt
    intro hless
    exact hfinite (hrange.mpr hless)

end Binary64

end Reckoner
