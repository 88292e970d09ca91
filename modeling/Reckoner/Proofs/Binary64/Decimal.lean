import Mathlib.Algebra.Order.Field.Power
import Mathlib.Tactic.FieldSimp
import Reckoner.Binary64.Decimal
import Reckoner.Proofs.Binary64.Nearest

/-!
Reading a decimal as binary64 depends on its value alone: decimals of one value that are not beyond
the range in which powers of ten are formed read as the same number, however their digits and
exponents differ.
-/

namespace Reckoner

namespace Decimal

/-- The value of a decimal as a rational number. Zeros that end a coefficient do not show in it, so
equal values are what reading can depend on. -/
def value (d : Decimal) : ℚ := d.coefficient * 10 ^ d.exponent

/-- A decimal other than zero whose power of ten is formed when it is read. The shortcuts for very
large and very small exponents are not taken for it. -/
structure Moderate (d : Decimal) : Prop where
  coefficient : d.coefficient ≠ 0
  low : -400 ≤ d.exponent
  high : d.exponent ≤ 400

theorem ratio_pos (d : Decimal) : 0 < d.ratio.2 := by
  unfold ratio
  split
  · exact Nat.one_pos
  · exact Nat.pow_pos (by decide)

theorem value_eq_ratio (d : Decimal) : d.value = d.ratio.1 / d.ratio.2 := by
  unfold value ratio
  split
  · rename_i hwhole
    have hexp : (d.exponent.toNat : ℤ) = d.exponent := Int.toNat_of_nonneg hwhole
    simp only [Nat.pow_eq, Nat.cast_mul, Nat.cast_pow, Nat.cast_ofNat, Nat.cast_one, div_one]
    rw [← zpow_natCast, hexp]
  · rename_i hfraction
    have hexp : ((-d.exponent).toNat : ℤ) = -d.exponent := Int.toNat_of_nonneg (by omega)
    simp only [Nat.pow_eq, Nat.cast_pow, Nat.cast_ofNat]
    rw [← zpow_natCast, hexp, zpow_neg, div_inv_eq_mul]

/-- The numerator and denominator apart from the case distinction between them. One of the two
powers is `10 ^ 0`, whichever sign the exponent has. -/
theorem ratio_eq (d : Decimal) :
    d.ratio = (d.coefficient * Nat.pow 10 d.exponent.toNat, Nat.pow 10 (-d.exponent).toNat) := by
  unfold ratio
  split
  · rename_i hwhole
    have hzero : (-d.exponent).toNat = 0 := Int.toNat_of_nonpos (by omega)
    rw [hzero]
  · rename_i hfraction
    have hzero : d.exponent.toNat = 0 := Int.toNat_of_nonpos (by omega)
    rw [hzero]
    simp

theorem trimmed_value (fuel : Nat) (d : Decimal) : (d.trimmed fuel).value = d.value := by
  induction fuel generalizing d with
  | zero => rfl
  | succ fuel ih =>
      unfold trimmed
      split
      · rename_i hzero
        rw [ih]
        have hten : (d.coefficient : ℚ) = (d.coefficient / 10 : Nat) * 10 := by
          exact_mod_cast (Nat.div_mul_cancel (Nat.dvd_of_mod_eq_zero hzero.2)).symm
        simp only [value]
        rw [hten, zpow_add₀ (by norm_num), zpow_one]
        ring
      · rfl

/-- Trimming removes at most as many zeros as it is allowed to, and each of them raises the exponent
by one. So the exponent stays in the range in which powers are formed. -/
theorem trimmed_exponent (fuel : Nat) (d : Decimal) :
    d.exponent ≤ (d.trimmed fuel).exponent ∧ (d.trimmed fuel).exponent ≤ d.exponent + fuel := by
  induction fuel generalizing d with
  | zero => simp [trimmed]
  | succ fuel ih =>
      unfold trimmed
      split
      · have hrest := ih ⟨d.coefficient / 10, d.exponent + 1⟩
        dsimp only at hrest
        omega
      · omega

theorem trimmed_coefficient_ne_zero (fuel : Nat) {d : Decimal} (h : d.coefficient ≠ 0) :
    (d.trimmed fuel).coefficient ≠ 0 := by
  induction fuel generalizing d with
  | zero => exact h
  | succ fuel ih =>
      unfold trimmed
      split
      · rename_i hzero
        apply ih
        dsimp only
        omega
      · exact h

end Decimal

namespace Binary64

theorem ofDecimal_of_moderate {d : Decimal} (h : d.Moderate) (negative : Bool) :
    ofDecimal negative d = roundQuotient negative (d.ratio.1 * unitsPerOne) d.ratio.2 := by
  have hlow := h.low
  have hhigh := h.high
  unfold ofDecimal
  rw [if_neg h.coefficient, if_neg (by omega), if_neg (by push_cast; omega)]

theorem roundQuotient_eq_finite {negative : Bool} {num den units : Nat}
    (hunits : Representable units) (h : roundUnits num den = units) :
    roundQuotient negative num den = .finite negative units hunits := by
  subst h
  exact roundQuotient_units hunits.1

/-- Decimals of one value read as the same number. What is rounded is a quotient of counts, and it
is the same for both up to a common factor. -/
theorem ofDecimal_congr {d d' : Decimal} (h : d.Moderate) (h' : d'.Moderate)
    (hvalue : d.value = d'.value) (negative : Bool) :
    ofDecimal negative d = ofDecimal negative d' := by
  have hround : roundUnits (d.ratio.1 * unitsPerOne) d.ratio.2 =
      roundUnits (d'.ratio.1 * unitsPerOne) d'.ratio.2 := by
    apply roundUnits_congr d.ratio_pos d'.ratio_pos
    rw [Decimal.value_eq_ratio, Decimal.value_eq_ratio, div_eq_div_iff
      (by exact_mod_cast d.ratio_pos.ne') (by exact_mod_cast d'.ratio_pos.ne')] at hvalue
    have hcross : d.ratio.1 * d'.ratio.2 = d'.ratio.1 * d.ratio.2 := by exact_mod_cast hvalue
    rw [Nat.mul_right_comm, hcross, Nat.mul_right_comm]
  rw [ofDecimal_of_moderate h, ofDecimal_of_moderate h']
  simp only [roundQuotient, hround]

end Binary64

end Reckoner
