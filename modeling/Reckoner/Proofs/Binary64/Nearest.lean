import Mathlib.Data.Nat.Dist
import Mathlib.Tactic.Ring
import Reckoner.Binary64.Basic

/-!
What rounding to binary64 promises: no count that a binary64 number can have is nearer to the
quotient than the one it is rounded to. It follows that such counts are rounded to themselves, and
that the rounded count depends on the quotient alone and not on how it is written as a fraction.
-/

namespace Reckoner

/-- `n` is within half a unit of the quotient `num / den`, and even when it is half a unit away. All
is multiplied out, so that nothing is divided in proofs about it. -/
structure IsNearestEven (num den n : Nat) : Prop where
  low : 2 * (n * den) ≤ 2 * num + den
  high : 2 * num ≤ 2 * (n * den) + den
  tie : n % 2 = 1 → 2 * (n * den) ≠ 2 * num + den ∧ 2 * num ≠ 2 * (n * den) + den

/-- Multiples of a denominator are equal or at least the denominator apart, so two of them cannot
both be nearest. -/
theorem mul_add_le_mul_of_lt {m n : Nat} (h : m < n) (den : Nat) : m * den + den ≤ n * den := by
  have := Nat.mul_le_mul_right den h
  rwa [Nat.succ_mul] at this

theorem isNearestEven_nearestEven (num : Nat) {den : Nat} (hden : 0 < den) :
    IsNearestEven num den (nearestEven num den) := by
  have hnum := Nat.div_add_mod' num den
  have hrest := Nat.mod_lt num hden
  have hsucc := Nat.add_one_mul (num / den) den
  have hparity := Nat.mod_two_eq_zero_or_one (num / den)
  unfold nearestEven
  dsimp only
  split
  · exact ⟨by omega, by omega, by omega⟩
  split
  · exact ⟨by omega, by omega, by omega⟩
  rcases hparity with heven | hodd
  · rw [heven]
    exact ⟨by simp only [Nat.add_zero]; omega, by simp only [Nat.add_zero]; omega, by omega⟩
  · rw [hodd]
    exact ⟨by omega, by omega, by omega⟩

theorem IsNearestEven.le {num den m n : Nat} (hden : 0 < den) (hm : IsNearestEven num den m)
    (hn : IsNearestEven num den n) : m ≤ n := by
  apply Nat.le_of_not_lt
  intro hlt
  have hapart := mul_add_le_mul_of_lt hlt den
  have hlow := hm.low
  have hhigh := hn.high
  -- both are exactly half a unit away, so they are neighbours of different parity
  rcases Nat.eq_or_lt_of_le hlt with hsucc | hfar
  · have hmtie := hm.tie
    have hntie := hn.tie
    omega
  · have := mul_add_le_mul_of_lt hfar den
    rw [Nat.succ_mul] at this
    omega

theorem nearestEven_eq_iff {num den n : Nat} (hden : 0 < den) :
    nearestEven num den = n ↔ IsNearestEven num den n := by
  constructor
  · rintro rfl
    exact isNearestEven_nearestEven num hden
  · intro h
    have hfound := isNearestEven_nearestEven num hden
    exact Nat.le_antisymm (hfound.le hden h) (h.le hden hfound)

/-- No multiple of the denominator is nearer to the numerator. Ties do not matter for this, as both
candidates are then equally near. -/
theorem nearestEven_nearest (num : Nat) {den : Nat} (hden : 0 < den) (k : Nat) :
    Nat.dist num (nearestEven num den * den) ≤ Nat.dist num (k * den) := by
  obtain ⟨hlow, hhigh, -⟩ := isNearestEven_nearestEven num hden
  unfold Nat.dist
  rcases Nat.lt_trichotomy k (nearestEven num den) with hless | rfl | hmore
  · have := mul_add_le_mul_of_lt hless den
    omega
  · exact Nat.le_refl _
  · have := mul_add_le_mul_of_lt hmore den
    omega

theorem nearestEven_scale (num den : Nat) {k : Nat} (hk : 0 < k) :
    nearestEven (num * k) (den * k) = nearestEven num den := by
  have hdouble : 2 * (num % den * k) = 2 * (num % den) * k := (Nat.mul_assoc _ _ _).symm
  simp only [nearestEven, Nat.mul_div_mul_right _ _ hk, Nat.mul_mod_mul_right, hdouble,
    Nat.mul_lt_mul_right hk]

theorem spacing_dvd_spacing {a b : Nat} (h : a ≤ b) : spacing a ∣ spacing b := by
  have hlog : a.log2 ≤ b.log2 := by
    by_cases ha : a = 0
    · simp [ha]
    · exact (Nat.le_log2 (by omega)).mpr (Nat.le_trans (Nat.log2_self_le ha) h)
  exact Nat.pow_dvd_pow 2 (by omega)

/-- A spacing wider than one step leaves exactly 53 significant bits. The first of them is set,
which bounds the count from below by a power of two. -/
theorem pow_mul_spacing_le {units : Nat} (h : spacing units ≠ 1) :
    Nat.pow 2 52 * spacing units ≤ units := by
  have hlog : 52 ≤ units.log2 := by
    apply Nat.le_of_not_lt
    intro hlt
    apply h
    simp [spacing, Nat.sub_eq_zero_of_le (Nat.le_of_lt hlt)]
  have hne : units ≠ 0 := by
    rintro rfl
    simp at hlog
  simp only [spacing, Nat.pow_eq]
  rw [← Nat.pow_add, Nat.add_sub_cancel' hlog]
  exact Nat.log2_self_le hne

/-- The spacing stays the same up to the next power of two, so the neighbours above a count are all
one spacing apart until then. -/
theorem spacing_eq_of_le_of_lt {units other : Nat} (hle : units ≤ other)
    (hlt : other < Nat.pow 2 53 * spacing units) : spacing other = spacing units := by
  refine Nat.dvd_antisymm ?_ (spacing_dvd_spacing hle)
  by_cases hone : spacing other = 1
  · rw [hone]
    exact Nat.one_dvd _
  · have hother := pow_mul_spacing_le hone
    have hpow : Nat.pow 2 53 = 2 * Nat.pow 2 52 := by decide
    have hdouble : spacing other < 2 * spacing units := by
      rw [hpow] at hlt
      have : Nat.pow 2 52 * spacing other < Nat.pow 2 52 * (2 * spacing units) := by
        rw [← Nat.mul_assoc, Nat.mul_comm _ 2]
        omega
      exact Nat.lt_of_mul_lt_mul_left this
    have hexp : other.log2 - 52 < units.log2 - 52 + 1 := by
      rw [← Nat.pow_lt_pow_iff_right (a := 2) (by decide), Nat.pow_succ, Nat.mul_comm]
      exact hdouble
    exact Nat.pow_dvd_pow 2 (by omega)

/-- What is no multiple of the spacing of a larger count, though of its own, lies below the power of
two at which that spacing begins. -/
theorem lt_pow_mul_of_not_dvd {step units exponent : Nat} (hstep : step = Nat.pow 2 exponent)
    (hgrid : spacing units ∣ units) (hnot : ¬ step ∣ units) : units < Nat.pow 2 52 * step := by
  have hfine : units.log2 - 52 < exponent := by
    apply Nat.lt_of_not_le
    intro hle
    apply hnot
    exact Nat.dvd_trans (hstep ▸ Nat.pow_dvd_pow 2 hle) hgrid
  have hhalf : Nat.pow 2 53 * spacing units ≤ Nat.pow 2 52 * step := by
    simp only [hstep, spacing, Nat.pow_eq]
    rw [← Nat.pow_add, ← Nat.pow_add]
    exact Nat.pow_le_pow_right (by decide) (by omega)
  exact Nat.lt_of_lt_of_le (lt_spacing_mul units) hhalf

/-- No count on the grid of binary64 is nearer to a quotient than the rounded one. A count with
another spacing lies beyond the power of two at which the spacing changes, and that is on the
grid. -/
theorem roundUnits_nearest (num : Nat) {den units : Nat} (hden : 0 < den)
    (hgrid : spacing units ∣ units) :
    Nat.dist num (roundUnits num den * den) ≤ Nat.dist num (units * den) := by
  have hpos : 0 < den * spacing (num / den) := Nat.mul_pos hden (spacing_pos _)
  have hround : roundUnits num den * den =
      nearestEven num (den * spacing (num / den)) * (den * spacing (num / den)) := by
    unfold roundUnits
    ring
  rw [hround]
  by_cases hdvd : spacing (num / den) ∣ units
  · obtain ⟨k, rfl⟩ := hdvd
    have hk : spacing (num / den) * k * den = k * (den * spacing (num / den)) := by ring
    rw [hk]
    exact nearestEven_nearest num hpos k
  · have hbelow := lt_pow_mul_of_not_dvd rfl hgrid hdvd
    have hone : spacing (num / den) ≠ 1 := by
      intro hone
      exact hdvd (hone ▸ Nat.one_dvd _)
    have hstart : Nat.pow 2 52 * spacing (num / den) * den ≤ num :=
      (Nat.le_div_iff_mul_le hden).mp (pow_mul_spacing_le hone)
    have hless : units * den ≤ Nat.pow 2 52 * spacing (num / den) * den :=
      Nat.mul_le_mul_right den hbelow.le
    have hedge := nearestEven_nearest num hpos (Nat.pow 2 52)
    have hsame : Nat.pow 2 52 * (den * spacing (num / den)) =
        Nat.pow 2 52 * spacing (num / den) * den := by ring
    rw [hsame] at hedge
    unfold Nat.dist at hedge ⊢
    omega

theorem roundUnits_zero (den : Nat) : roundUnits 0 den = 0 := by
  simp [roundUnits, nearestEven]

/-- A count on the grid is rounded to itself. Exact results are therefore never changed by the
rounding that every operation ends with. -/
theorem roundUnits_of_grid {den units : Nat} (hden : 0 < den) (hgrid : spacing units ∣ units) :
    roundUnits (units * den) den = units := by
  have hnear := roundUnits_nearest (units * den) hden hgrid
  have hzero : Nat.dist (units * den) (roundUnits (units * den) den * den) = 0 := by
    rw [Nat.dist_self] at hnear
    exact Nat.le_zero.mp hnear
  exact (Nat.eq_of_mul_eq_mul_right hden (Nat.eq_of_dist_eq_zero hzero)).symm

theorem roundUnits_scale (num den : Nat) {k : Nat} (hk : 0 < k) :
    roundUnits (num * k) (den * k) = roundUnits num den := by
  have hquotient : num * k / (den * k) = num / den := Nat.mul_div_mul_right _ _ hk
  have hunit : den * k * spacing (num / den) = den * spacing (num / den) * k := by ring
  simp only [roundUnits, hquotient, hunit, nearestEven_scale _ _ hk]

/-- The rounded count depends on the quotient alone, and not on the numerator and denominator that
represent it. -/
theorem roundUnits_congr {num den num' den' : Nat} (hden : 0 < den) (hden' : 0 < den')
    (h : num * den' = num' * den) : roundUnits num den = roundUnits num' den' := by
  rw [← roundUnits_scale num den hden', ← roundUnits_scale num' den' hden, h,
    Nat.mul_comm den den']

end Reckoner
