import Mathlib.Algebra.Order.Ring.Rat
import Reckoner.Proofs.Binary64.Shortest

/-!
Where the numbers of the format end. The largest finite count is one spacing before the first count
past all of them, and what lies half a spacing before that is already rounded out of the format: a
decimal is read as a finite number exactly when it is below `2 ^ 1024 - 2 ^ 970`.
-/

namespace Reckoner

theorem Decimal.value_lt_iff (d : Decimal) (n : Nat) : d.value < n ↔ d.ratio.1 < n * d.ratio.2 := by
  rw [d.value_eq_ratio, div_lt_iff₀ (by exact_mod_cast d.ratio_pos)]
  exact_mod_cast Iff.rfl

namespace Binary64

-- The exponent has a name so that the power is not written out wherever it is compared.
def lastExponent : Nat := 2045

/-- The spacing in the last binade. Overflow is decided there: what lies less than half of this
spacing past the largest number is still rounded to it. -/
def lastSpacing : Nat := Nat.pow 2 lastExponent

/-- The first count of the last binade. From here on no wider spacing follows before the numbers
end. -/
def lastBinade : Nat := Nat.pow 2 52 * lastSpacing

/-- The count of the largest finite number: the significand has all its 53 bits set, on the widest
spacing. -/
def largestUnits : Nat := (Nat.pow 2 53 - 1) * lastSpacing

theorem lastSpacing_pos : 0 < lastSpacing := by
  unfold lastSpacing
  exact power_pos lastExponent

/-- Counted from zero, `2 ^ 53` spacings of the last binade lead past all finite numbers. The first
count past them is therefore what rounding up from the largest number would reach. -/
theorem pastLargest_eq : pastLargest = Nat.pow 2 53 * lastSpacing := by decide +kernel

theorem largestUnits_add : largestUnits + lastSpacing = pastLargest := by
  rw [pastLargest_eq, largestUnits, ← Nat.succ_mul]

theorem largestUnits_ne_zero : largestUnits ≠ 0 :=
  Nat.mul_ne_zero (by decide) lastSpacing_pos.ne'

theorem lastBinade_le_largestUnits : lastBinade ≤ largestUnits :=
  Nat.mul_le_mul_right _ (by decide)

theorem spacing_of_lastBinade_le {units : Nat} (hlow : lastBinade ≤ units)
    (hhigh : units < pastLargest) : spacing units = lastSpacing := by
  have hstart : spacing lastBinade = lastSpacing := by
    unfold lastBinade lastSpacing
    exact spacing_pow_mul lastExponent
  rw [← hstart]
  exact spacing_eq_of_le_of_lt hlow (by rwa [hstart, ← pastLargest_eq])

theorem representable_largestUnits : Representable largestUnits := by
  have hless : largestUnits < pastLargest := by
    have := largestUnits_add
    have := lastSpacing_pos
    omega
  refine ⟨hless, ?_⟩
  rw [spacing_of_lastBinade_le lastBinade_le_largestUnits hless]
  exact Nat.dvd_mul_left _ _

theorem le_largestUnits {units : Nat} (h : Representable units) : units ≤ largestUnits := by
  obtain ⟨hfinite, hgrid⟩ := h
  by_cases hlow : lastBinade ≤ units
  · rw [spacing_of_lastBinade_le hlow hfinite] at hgrid
    have hroom := add_le_of_dvd_of_lt hgrid (Dvd.intro_left _ pastLargest_eq.symm) hfinite
    have := largestUnits_add
    omega
  · have := lastBinade_le_largestUnits
    omega

theorem spacing_dvd_pastLargest : spacing pastLargest ∣ pastLargest := by decide +kernel

/-- What is at least half a spacing past the largest count is rounded to a count past it. At the
half itself the largest count is passed over because its significand is odd. The rounding itself
knows no end of the range, so it goes on past the largest count as anywhere else. -/
theorem pastLargest_le_roundUnits {num den : Nat} (hden : 0 < den)
    (h : 2 * (pastLargest * den) ≤ 2 * num + lastSpacing * den) :
    pastLargest ≤ roundUnits num den := by
  apply Nat.le_of_not_lt
  intro hless
  by_cases hpast : pastLargest * den ≤ num
  · have hnear := roundUnits_nearest num hden spacing_dvd_pastLargest
    have hstrict : roundUnits num den * den < pastLargest * den :=
      Nat.mul_lt_mul_of_pos_right hless hden
    unfold Nat.dist at hnear
    omega
  · have hlow : lastBinade ≤ num / den := by
      have hroom : 2 * lastBinade + lastSpacing ≤ 2 * pastLargest := by
        have := lastBinade_le_largestUnits
        have := largestUnits_add
        omega
      have hscaled := Nat.mul_le_mul_right den hroom
      rw [Nat.add_mul, Nat.mul_assoc, Nat.mul_assoc] at hscaled
      rw [Nat.le_div_iff_mul_le hden]
      omega
    have hspacing := spacing_of_lastBinade_le hlow (Nat.div_lt_of_lt_mul (by
      rw [Nat.mul_comm]
      omega))
    have hpos : 0 < den * lastSpacing := Nat.mul_pos hden lastSpacing_pos
    obtain ⟨-, hupper, htie⟩ := isNearestEven_nearestEven num hpos
    rw [roundUnits, hspacing, pastLargest_eq] at hless
    have hbelow := mul_add_le_mul_of_lt (Nat.lt_of_mul_lt_mul_right hless) (den * lastSpacing)
    have hmany : pastLargest * den = Nat.pow 2 53 * (den * lastSpacing) := by
      rw [pastLargest_eq, Nat.mul_assoc, Nat.mul_comm lastSpacing]
    rw [hmany, Nat.mul_comm lastSpacing] at h
    have hnext : (nearestEven num (den * lastSpacing) + 1) * (den * lastSpacing) =
        Nat.pow 2 53 * (den * lastSpacing) := by
      rw [Nat.succ_mul]
      omega
    have hodd := Nat.eq_of_mul_eq_mul_right hpos hnext
    have heven : Nat.pow 2 53 % 2 = 0 := by decide
    exact (htie (by omega)).2 (by omega)

theorem roundUnits_lt_pastLargest_iff {num den : Nat} (hden : 0 < den) :
    roundUnits num den < pastLargest ↔
      2 * num + lastSpacing * den < 2 * (pastLargest * den) := by
  constructor
  · intro hless
    apply Nat.lt_of_not_le
    intro hle
    exact absurd (pastLargest_le_roundUnits hden hle) (Nat.not_le.mpr hless)
  · intro hless
    apply Nat.lt_of_not_le
    intro hle
    have hnear := roundUnits_nearest num hden representable_largestUnits.2
    have hpast := Nat.mul_le_mul_right den hle
    have hlargest : largestUnits * den + lastSpacing * den = pastLargest * den := by
      rw [← Nat.add_mul, largestUnits_add]
    have hgap : 0 < lastSpacing * den := Nat.mul_pos lastSpacing_pos hden
    unfold Nat.dist at hnear
    omega

/-- The least whole number that is read as an infinity. What is smaller, and be it larger than the
largest number, is still rounded down to that. -/
def firstInfinite : Nat := Nat.pow 2 1024 - Nat.pow 2 970

/-- It lies half a spacing after the largest finite number, and the half is rounded away from it
because the significand there is odd. -/
theorem firstInfinite_mul_add :
    2 * (firstInfinite * unitsPerOne) + lastSpacing = 2 * pastLargest := by
  decide +kernel

theorem firstInfinite_pos : 0 < firstInfinite := by
  apply Nat.pos_of_ne_zero
  intro hzero
  have hedge := firstInfinite_mul_add
  have hroom := largestUnits_add
  have hspacing := lastSpacing_pos
  rw [hzero, Nat.zero_mul] at hedge
  omega

theorem roundUnits_mul_lt_pastLargest_iff (num : Nat) {den : Nat} (hden : 0 < den) :
    roundUnits (num * unitsPerOne) den < pastLargest ↔ num < firstInfinite * den := by
  have hscaled : 2 * (firstInfinite * den * unitsPerOne) + lastSpacing * den =
      2 * (pastLargest * den) := by
    rw [Nat.mul_right_comm, ← Nat.mul_assoc, ← Nat.add_mul, firstInfinite_mul_add,
      Nat.mul_assoc]
  have hcancel : num * unitsPerOne < firstInfinite * den * unitsPerOne ↔
      num < firstInfinite * den := Nat.mul_lt_mul_right unitsPerOne_pos
  rw [roundUnits_lt_pastLargest_iff hden, ← hscaled, ← hcancel]
  omega

theorem roundQuotient_isFinite_iff (negative : Bool) (num den : Nat) :
    (roundQuotient negative num den).isFinite = true ↔ roundUnits num den < pastLargest := by
  unfold roundQuotient
  split <;> simp [isFinite, *]

/-- Three bits are less than a decimal digit, so powers of ten bound the powers of two that a
logarithm gives. -/
theorem two_pow_le_ten_pow {m n : Nat} (h : m ≤ 3 * n) : Nat.pow 2 m ≤ Nat.pow 10 n :=
  calc Nat.pow 2 m ≤ Nat.pow 2 (3 * n) := Nat.pow_le_pow_right (by decide) h
    _ = Nat.pow (Nat.pow 2 3) n := Nat.pow_mul 2 3 n
    _ ≤ Nat.pow 10 n := Nat.pow_le_pow_left (by decide) n

theorem firstInfinite_le {n : Nat} (h : 400 < n) : firstInfinite ≤ Nat.pow 10 n := by
  have hmore : 1024 ≤ 3 * n := by omega
  unfold firstInfinite
  apply Nat.le_trans (Nat.sub_le _ _)
  apply two_pow_le_ten_pow
  exact hmore

/-- Which decimals are read as finite numbers. The shortcuts for very large and very small exponents
agree with the rounding, so nothing but the value decides. Each shortcut is compared with the value
by itself, and the rest is the rounding. -/
theorem ofDecimal_isFinite_iff (negative : Bool) (d : Decimal) :
    (ofDecimal negative d).isFinite = true ↔ d.value < firstInfinite := by
  rw [Decimal.value_lt_iff]
  have hscale : 0 < firstInfinite * d.ratio.2 := Nat.mul_pos firstInfinite_pos d.ratio_pos
  unfold ofDecimal
  split
  · rename_i hzero
    have hnone : d.ratio.1 = 0 := by simp [Decimal.ratio_eq, hzero]
    simp [isFinite, zero, hnone, hscale]
  split
  · rename_i hzero hhuge
    have hpast : firstInfinite * d.ratio.2 ≤ d.ratio.1 := by
      have hwhole : (-d.exponent).toNat = 0 := Int.toNat_of_nonpos (by omega)
      have hpow := firstInfinite_le (n := d.exponent.toNat) (by omega)
      have hscaled := Nat.le_mul_of_pos_left (Nat.pow 10 d.exponent.toNat)
        (Nat.pos_of_ne_zero hzero)
      simp only [Decimal.ratio_eq, hwhole, Nat.pow_eq, Nat.pow_zero, Nat.mul_one] at hpow hscaled ⊢
      exact Nat.le_trans hpow hscaled
    simp [isFinite, hpast]
  split
  · rename_i hzero hhuge htiny
    have hbelow : d.ratio.1 < firstInfinite * d.ratio.2 := by
      have hwhole : d.exponent.toNat = 0 := Int.toNat_of_nonpos (by omega)
      have hbits : d.coefficient < 2 ^ (d.coefficient.log2 + 1) := Nat.lt_log2_self
      have hmore : 2 ^ (d.coefficient.log2 + 1) ≤ 10 ^ (-d.exponent).toNat :=
        Nat.le_trans (Nat.pow_le_pow_left (by decide) _)
          (Nat.pow_le_pow_right (by decide) (by omega))
      have hscaled := Nat.le_mul_of_pos_left (10 ^ (-d.exponent).toNat) firstInfinite_pos
      simp only [Decimal.ratio_eq, hwhole, Nat.pow_eq, Nat.pow_zero, Nat.mul_one]
      exact Nat.lt_of_lt_of_le hbits (Nat.le_trans hmore hscaled)
    simp [isFinite, zero, hbelow]
  · rw [roundQuotient_isFinite_iff, roundUnits_mul_lt_pastLargest_iff _ d.ratio_pos]

end Binary64

end Reckoner
