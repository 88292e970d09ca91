import Reckoner.Proofs.Binary64.Shortest
import Reckoner.Rounding

/-!
Rounding to decimal places does not change what it has rounded, although the rounded decimal is not
a binary64 number and is rounded once more when it is read. The number read is at least as near to
the decimal as the number that was rounded, so the decimal is still the nearest one to it. The only
way out would be two decimals equally near, and for that all three numbers would have to be halves.
-/

namespace Reckoner

namespace Rounding

open Binary64

/-- The coefficient is within half a unit of the magnitude; half a unit below is too far. Only one
natural number lies so near, and this names it. -/
theorem nearestUp_eq_iff {num den n : Nat} (hden : 0 < den) :
    nearestUp num den = n ↔ 2 * (n * den) ≤ 2 * num + den ∧ 2 * num < 2 * (n * den) + den := by
  have hdouble : n * (2 * den) = 2 * (n * den) := Nat.mul_left_comm _ _ _
  unfold nearestUp
  rw [Nat.div_eq_iff (by omega), hdouble]
  omega

theorem coefficient_eq_iff (units : Nat) {n : Nat} {places : Int} (hplaces : 0 ≤ places) :
    coefficient units places = n ↔
      2 * (n * unitsPerOne) ≤ 2 * (units * Nat.pow 10 places.toNat) + unitsPerOne ∧
        2 * (units * Nat.pow 10 places.toNat) < 2 * (n * unitsPerOne) + unitsPerOne := by
  have hwhole : (-places).toNat = 0 := Int.toNat_of_nonpos (by omega)
  have hunit : unitsPerOne * Nat.pow 10 (-places).toNat = unitsPerOne := by
    rw [hwhole, Nat.pow_eq, Nat.pow_zero, Nat.mul_one]
  rw [coefficient, hunit, nearestUp_eq_iff unitsPerOne_pos]

theorem exists_unitsPerOne_eq_pow : ∃ e, unitsPerOne = Nat.pow 2 e := by
  unfold unitsPerOne
  exact ⟨_, rfl⟩

/-- A half is no multiple of a decimal unit below one. With the least such unit the steps in one
would have to be divisible by ten, and they are a power of two. -/
theorem not_ten_dvd_unitsPerOne : ¬ 10 ∣ unitsPerOne := by decide +kernel

/-- The rounded decimal, read as a count. Reading rounds once more, as a decimal is hardly ever a
binary64 number. -/
def rereading (units : Nat) (places : Int) : Nat :=
  roundUnits (coefficient units places * unitsPerOne) (Nat.pow 10 places.toNat)

/-- The count that is read is at least as near to the decimal as the one that was rounded, for both
are numbers and reading takes the nearest. -/
theorem rereading_nearest {units : Nat} (hgrid : spacing units ∣ units) (places : Int) :
    Nat.dist (coefficient units places * unitsPerOne)
        (rereading units places * Nat.pow 10 places.toNat) ≤
      Nat.dist (coefficient units places * unitsPerOne) (units * Nat.pow 10 places.toNat) :=
  roundUnits_nearest _ (ten_pow_pos _) hgrid

/-- Halves have so few bits that the whole number next to them is read exactly. With it nothing is
rounded a second time, and the tie that is feared does not come up. -/
theorem spacing_dvd_of_half {units n e : Nat} (hgrid : spacing units ∣ units)
    (h : 2 * (n * Nat.pow 2 e) = 2 * units + Nat.pow 2 e) :
    spacing (n * Nat.pow 2 e) ∣ n * Nat.pow 2 e := by
  refine spacing_dvd_mul_pow e (Nat.le_of_not_lt fun hlarge => ?_)
  have hmore := mul_add_le_mul_of_lt hlarge (Nat.pow 2 e)
  have hdouble : Nat.pow 2 53 * Nat.pow 2 e = 2 * (Nat.pow 2 52 * Nat.pow 2 e) := by
    rw [← Nat.mul_assoc]
  have hstart : Nat.pow 2 52 * Nat.pow 2 e ≤ units := by omega
  have hcoarse : Nat.pow 2 e ∣ units := by
    have hspacing := spacing_dvd_spacing hstart
    rw [spacing_pow_mul] at hspacing
    exact Nat.dvd_trans hspacing hgrid
  obtain ⟨k, rfl⟩ := hcoarse
  have hcancel : Nat.pow 2 e * (2 * n) = Nat.pow 2 e * (2 * k + 1) := by
    rw [Nat.mul_left_comm, Nat.mul_comm (Nat.pow 2 e) n, h]
    ring
  have := Nat.eq_of_mul_eq_mul_left (power_pos e) hcancel
  omega

/-- The reading is never half a unit above the decimal while the number was half a unit below. All
three would be halves then, and the whole number between them is read exactly. -/
theorem rereading_ne_tie {units : Nat} (hgrid : spacing units ∣ units) (places : Int)
    (hbelow : 2 * (coefficient units places * unitsPerOne) =
      2 * (units * Nat.pow 10 places.toNat) + unitsPerOne) :
    2 * (rereading units places * Nat.pow 10 places.toNat) ≠
      2 * (coefficient units places * unitsPerOne) + unitsPerOne := by
  intro habove
  have hunit : Nat.pow 10 places.toNat ∣ unitsPerOne := by
    have hapart : rereading units places * Nat.pow 10 places.toNat =
        units * Nat.pow 10 places.toNat + unitsPerOne := by omega
    exact (Nat.dvd_add_right (Nat.dvd_mul_left _ units)).mp (hapart ▸ Nat.dvd_mul_left _ _)
  have hzero : places.toNat = 0 := by
    apply Decidable.byContradiction
    intro hne
    apply not_ten_dvd_unitsPerOne
    exact Nat.dvd_trans (dvd_pow_self 10 hne) hunit
  have hone : Nat.pow 10 places.toNat = 1 := by rw [hzero, Nat.pow_eq, Nat.pow_zero]
  have hpos := unitsPerOne_pos
  obtain ⟨e, he⟩ := exists_unitsPerOne_eq_pow
  rw [hone, Nat.mul_one] at hbelow
  rw [rereading, hone, Nat.mul_one] at habove
  rw [he] at hbelow habove hpos
  have hexact := roundUnits_of_grid Nat.one_pos (spacing_dvd_of_half hgrid hbelow)
  rw [Nat.mul_one] at hexact
  omega

/-- The decimal that a number is rounded to is also the one that its reading is rounded to. The
reading is at least as near to it as the number was, and that was within half a unit. -/
theorem coefficient_rereading {units : Nat} (hgrid : spacing units ∣ units) {places : Int}
    (hplaces : 0 ≤ places) :
    coefficient (rereading units places) places = coefficient units places := by
  have hnear := rereading_nearest hgrid places
  obtain ⟨hlow, hhigh⟩ := (coefficient_eq_iff units hplaces).mp rfl
  have hnottie := rereading_ne_tie hgrid places
  rw [coefficient_eq_iff _ hplaces]
  unfold Nat.dist at hnear
  generalize coefficient units places * unitsPerOne = decimal at *
  generalize units * Nat.pow 10 places.toNat = point at *
  generalize rereading units places * Nat.pow 10 places.toNat = read at *
  omega

/-- Past the largest number there is room for more than one before the first count beyond it.
Rounding to places moves a number by less than that. -/
theorem add_unitsPerOne_lt {units : Nat} (h : Representable units) :
    units + unitsPerOne < pastLargest := by
  by_cases hcoarse : unitsPerOne < spacing units
  · have hlast : spacing units ∣ pastLargest :=
      Nat.dvd_trans (spacing_dvd_spacing h.1.le) ⟨Nat.pow 2 52, by decide +kernel⟩
    have := add_le_of_dvd_of_lt h.2 hlast h.1
    omega
  · have hunits := lt_spacing_mul units
    have hbound : Nat.pow 2 53 * spacing units ≤ Nat.pow 2 53 * unitsPerOne :=
      Nat.mul_le_mul_left _ (Nat.le_of_not_lt hcoarse)
    have hnumbers : Nat.pow 2 53 * unitsPerOne + unitsPerOne < pastLargest := by decide +kernel
    omega

/-- What is rounded to decimal places stays finite. With negative places this fails, as the unit may
be wider than the room that is left. -/
theorem rereading_lt {units : Nat} (h : Representable units) {places : Int} (hplaces : 0 ≤ places) :
    rereading units places < pastLargest := by
  have hnear := rereading_nearest h.2 places
  obtain ⟨hlow, hhigh⟩ := (coefficient_eq_iff units hplaces).mp rfl
  have hscale := ten_pow_pos places.toNat
  have hunit : unitsPerOne ≤ unitsPerOne * Nat.pow 10 places.toNat :=
    Nat.le_mul_of_pos_right _ hscale
  refine Nat.lt_of_le_of_lt ?_ (add_unitsPerOne_lt h)
  refine Nat.le_of_mul_le_mul_right ?_ hscale
  rw [Nat.add_mul]
  unfold Nat.dist at hnear
  omega

theorem rereading_representable {units : Nat} (h : Representable units) {places : Int}
    (hplaces : 0 ≤ places) : Representable (rereading units places) :=
  ⟨rereading_lt h hplaces, spacing_dvd_roundUnits _ _⟩

theorem coefficient_zero (places : Int) : coefficient 0 places = 0 := by
  have hpos := Nat.mul_pos unitsPerOne_pos (ten_pow_pos (-places).toNat)
  rw [coefficient, nearestUp_eq_iff hpos]
  omega

theorem rereading_of_coefficient {units : Nat} {places : Int} (h : coefficient units places = 0) :
    rereading units places = 0 := by
  rw [rereading, h, Nat.zero_mul, roundUnits_zero]

/-- The rounded decimal is read as the count that `rereading` names. Up to 91 places the powers of
ten are formed, so no shortcut of the reading is taken. -/
theorem ofDecimal_coefficient {units : Nat} (h : Representable units) {places : Int}
    (hlow : 0 ≤ places) (hhigh : places ≤ 91) (negative : Bool) :
    ofDecimal negative ⟨coefficient units places, -places⟩ =
      .finite negative (rereading units places) (rereading_representable h hlow) := by
  by_cases hzero : coefficient units places = 0
  · have hread := rereading_of_coefficient hzero
    simp only [ofDecimal, hzero, if_true, zero, hread]
  · have hmoderate : Decimal.Moderate ⟨coefficient units places, -places⟩ :=
      ⟨hzero, by dsimp only; omega, by dsimp only; omega⟩
    have hwhole : (-places).toNat = 0 := Int.toNat_of_nonpos (by omega)
    rw [ofDecimal_of_moderate hmoderate]
    apply roundQuotient_eq_finite
    simp only [Decimal.ratio_eq, hwhole, Int.neg_neg, Nat.pow_eq, Nat.pow_zero, Nat.mul_one]
    rfl

end Rounding

open Rounding Binary64

/-- Rounding to decimal places neither fails on a finite number nor makes it infinite, as long as no
more digits are asked for than are worked with. -/
theorem roundDecimal_of_finite {units : Nat} (h : Representable units) {places : Int}
    (hlow : 0 ≤ places) (hhigh : places ≤ 91) (negative : Bool) :
    roundDecimal (.finite negative units h) places =
      .ok (.finite negative (rereading units places) (rereading_representable h hlow)) := by
  have hmagnitude := magnitude_le h.1
  have hplaces : ¬ placesLimit < places.natAbs := by
    unfold placesLimit
    omega
  have hunit : ¬ largestUnit < -places := by
    unfold largestUnit
    omega
  have hdigits : ¬ (digitLimit : Int) < magnitude units + places := by
    unfold digitLimit
    omega
  have hcoarse : ¬ places < -(digitLimit : Int) := by
    unfold digitLimit
    omega
  simp only [roundDecimal, hplaces, hunit, hdigits, hcoarse, if_false,
    ofDecimal_coefficient h hlow hhigh]
  split
  · rename_i hzero
    subst hzero
    have hread := rereading_of_coefficient (coefficient_zero places)
    simp only [zero, hread]
  · rfl

theorem roundDecimal_zero {places : Int} (hlow : 0 ≤ places) (hhigh : places ≤ 91)
    (negative : Bool) : roundDecimal (.zero negative) places = .ok (.zero negative) := by
  rw [zero, roundDecimal_of_finite _ hlow hhigh]
  simp only [rereading_of_coefficient (coefficient_zero places)]

/-- What was rounded to decimal places is not changed when it is rounded again. The places that are
allowed are those for which a decimal is always formed. -/
theorem roundDecimal_idempotent {x y : Binary64} {places : Int} (hfinite : x.isFinite = true)
    (hlow : 0 ≤ places) (hhigh : places ≤ 91) (h : roundDecimal x places = .ok y) :
    y.isFinite = true ∧ roundDecimal y places = .ok y := by
  cases x with
  | nan | infinity negative => cases hfinite
  | finite negative units hunits =>
      rw [roundDecimal_of_finite hunits hlow hhigh] at h
      cases h
      have hagain : rereading (rereading units places) places = rereading units places := by
        conv_lhs => rw [rereading, coefficient_rereading hunits.2 hlow]
        rfl
      refine ⟨rfl, ?_⟩
      rw [roundDecimal_of_finite _ hlow hhigh]
      simp only [hagain]

end Reckoner
