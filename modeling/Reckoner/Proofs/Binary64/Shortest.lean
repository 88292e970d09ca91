import Reckoner.Proofs.Binary64.Decimal

/-!
The shortest decimal of a number reads back. `readsBack` tests an interval; everything inside it is
rounded to the number it was drawn around. And on the grid of seventeen digits, which is finer than
the spacing of binary64 everywhere, one of the two neighbours of a number lies inside, so the search
ends with a decimal.
-/

namespace Reckoner

theorem roundUnits_of_isNearestEven {num den step n : Nat} (hden : 0 < den)
    (hstep : spacing (num / den) = step) (h : IsNearestEven num (den * step) n) :
    roundUnits num den = n * step := by
  have hpos : 0 < den * step := Nat.mul_pos hden (hstep ▸ spacing_pos _)
  simp only [roundUnits, hstep, (nearestEven_eq_iff hpos).mpr h]

theorem spacing_pow_mul (j : Nat) : spacing (Nat.pow 2 52 * Nat.pow 2 j) = Nat.pow 2 j := by
  have hlog : (Nat.pow 2 52 * Nat.pow 2 j).log2 = 52 + j := by
    simp only [Nat.pow_eq]
    rw [← Nat.pow_add, Nat.log2_two_pow]
  rw [spacing, hlog, Nat.add_sub_cancel_left]

/-- The spacing stays the same down to the power of two at which it begins. For the narrowest
spacing there is no such power, and it reaches down to zero. -/
theorem spacing_eq_of_pow_le {units other : Nat} (hle : other ≤ units)
    (h : spacing units ≠ 1 → Nat.pow 2 52 * spacing units ≤ other) :
    spacing other = spacing units := by
  apply Nat.dvd_antisymm (spacing_dvd_spacing hle)
  by_cases hone : spacing units = 1
  · rw [hone]
    exact Nat.one_dvd _
  · have hdvd := spacing_dvd_spacing (h hone)
    rwa [show spacing (Nat.pow 2 52 * spacing units) = spacing units from spacing_pow_mul _] at hdvd

/-- Multiples of a step are equal or at least a step apart, so a number between two neighbours is on
no grid of that step. -/
theorem add_le_of_dvd_of_lt {step a b : Nat} (ha : step ∣ a) (hb : step ∣ b) (h : a < b) :
    a + step ≤ b := by
  have := Nat.le_of_dvd (Nat.sub_pos_of_lt h) (Nat.dvd_sub hb ha)
  omega

namespace Binary64

/-- The distance from a number to its neighbour below. It is the spacing but for powers of two,
below which the numbers are twice as dense. -/
def gapBelow (units : Nat) : Nat :=
  if units = Nat.pow 2 units.log2 ∧ Nat.pow 2 53 ≤ units then spacing units / 2 else spacing units

theorem gapBelow_le (units : Nat) : gapBelow units ≤ spacing units := by
  unfold gapBelow
  split
  · exact Nat.div_le_self _ _
  · exact Nat.le_refl _

/-- Twice a decimal's value lies between the two midpoints around twice the number; the midpoints
themselves belong to numbers with an even significand. -/
structure Covers (units point scale : Nat) : Prop where
  low : 2 * (scale * units) ≤ 2 * point + scale * gapBelow units
  high : 2 * point ≤ 2 * (scale * units) + scale * spacing units
  odd : units / spacing units % 2 = 1 → 2 * (scale * units) ≠ 2 * point + scale * gapBelow units ∧
    2 * point ≠ 2 * (scale * units) + scale * spacing units

theorem readsBack_iff_covers {units : Nat} (hle : spacing units ≤ units) (point scale : Nat) :
    readsBack units point scale = true ↔ Covers units point scale := by
  have hgap : scale * gapBelow units ≤ scale * units :=
    Nat.mul_le_mul_left scale (Nat.le_trans (gapBelow_le units) hle)
  have hlow : (2 * units - gapBelow units) * scale =
      2 * (scale * units) - scale * gapBelow units := by
    rw [Nat.sub_mul, Nat.mul_assoc, Nat.mul_comm units, Nat.mul_comm (gapBelow units)]
  have hhigh : (2 * units + spacing units) * scale =
      2 * (scale * units) + scale * spacing units := by
    rw [Nat.add_mul, Nat.mul_assoc, Nat.mul_comm units, Nat.mul_comm (spacing units)]
  have hbelow : (if units = Nat.pow 2 units.log2 ∧ Nat.pow 2 53 ≤ units then spacing units / 2
      else spacing units) = gapBelow units := rfl
  simp only [readsBack, hbelow, hlow, hhigh]
  split
  · rename_i heven
    simp only [Bool.and_eq_true, decide_eq_true_eq]
    exact ⟨fun h => ⟨by omega, by omega, by omega⟩, fun h => ⟨by have := h.low; omega, h.high⟩⟩
  · rename_i hodd
    rw [Nat.mod_two_not_eq_zero] at hodd
    simp only [Bool.and_eq_true, decide_eq_true_eq]
    constructor
    · rintro ⟨habove, hunder⟩
      exact ⟨by omega, by omega, fun _ => by omega⟩
    · rintro ⟨habove, hunder, hne⟩
      have := hne hodd
      omega

/-- At a power of two the neighbour below is half as far away as the one above. Everywhere else the
two distances are equal, and so is the spacing on both sides. Whatever depends on the neighbour
below is split by this. -/
theorem gapBelow_cases (units : Nat) :
    (gapBelow units = spacing units ∧
      (spacing units ≠ 1 → units ≠ Nat.pow 2 52 * spacing units)) ∨
      ∃ j, gapBelow units = Nat.pow 2 j ∧ spacing units = 2 * Nat.pow 2 j ∧
        units = Nat.pow 2 52 * spacing units := by
  unfold gapBelow
  split
  · rename_i hpower
    obtain ⟨hunits, hlarge⟩ := hpower
    right
    have hlog : 53 ≤ units.log2 := by
      rw [hunits] at hlarge
      exact (Nat.pow_le_pow_iff_right (by decide)).mp hlarge
    have hdouble : spacing units = 2 * Nat.pow 2 (units.log2 - 53) := by
      simp only [spacing, Nat.pow_eq]
      rw [show units.log2 - 52 = units.log2 - 53 + 1 by omega, Nat.pow_succ, Nat.mul_comm]
    refine ⟨units.log2 - 53, ?_, hdouble, ?_⟩
    · rw [hdouble, Nat.mul_div_cancel_left _ (by decide)]
    · conv_lhs => rw [hunits]
      simp only [spacing, Nat.pow_eq]
      rw [← Nat.pow_add, Nat.add_sub_cancel' (by omega)]
  · rename_i hnot
    left
    refine ⟨rfl, fun hone hunits => hnot ?_⟩
    have hlog : 53 ≤ units.log2 := by
      apply Nat.le_of_not_lt
      intro hlt
      apply hone
      simp [spacing, Nat.sub_eq_zero_of_le (Nat.le_of_lt_succ hlt)]
    have hpow : units = Nat.pow 2 units.log2 := by
      conv_lhs => rw [hunits]
      simp only [spacing, Nat.pow_eq]
      rw [← Nat.pow_add, Nat.add_sub_cancel' (by omega)]
    refine ⟨hpow, ?_⟩
    rw [hpow]
    exact Nat.pow_le_pow_right (by decide) hlog

/-- What is covered and not below the number is on the number's spacing. It lies within half a
spacing above, and the spacing does not change before a whole one. -/
theorem spacing_of_le_point {units point scale : Nat} (hgrid : spacing units ∣ units)
    (hscale : 0 < scale) (h : Covers units point scale) (hge : scale * units ≤ point) :
    spacing (point / scale) = spacing units := by
  have hbelow : units ≤ point / scale :=
    (Nat.le_div_iff_mul_le hscale).mpr (by rwa [Nat.mul_comm])
  have hgap : 0 < scale * spacing units := Nat.mul_pos hscale (spacing_pos _)
  have hover : point / scale < units + spacing units := by
    rw [Nat.div_lt_iff_lt_mul hscale, Nat.mul_comm, Nat.mul_add]
    have := h.high
    omega
  have hroom : units + spacing units ≤ Nat.pow 2 53 * spacing units :=
    add_le_of_dvd_of_lt hgrid (Nat.dvd_mul_left _ _) (lt_spacing_mul units)
  exact spacing_eq_of_le_of_lt hbelow (Nat.lt_of_lt_of_le hover hroom)

/-- What is covered and below the number is on the number's spacing, unless that is only half as
wide below the number. -/
theorem spacing_of_point_lt {units point scale : Nat} (hgrid : spacing units ∣ units)
    (hscale : 0 < scale) (h : Covers units point scale) (hlt : point < scale * units)
    (hgap : gapBelow units = spacing units)
    (hpower : spacing units ≠ 1 → units ≠ Nat.pow 2 52 * spacing units) :
    spacing (point / scale) = spacing units := by
  have hbelow : point / scale < units :=
    (Nat.div_lt_iff_lt_mul hscale).mpr (by rwa [Nat.mul_comm])
  apply spacing_eq_of_pow_le hbelow.le
  intro hone
  have hstart : Nat.pow 2 52 * spacing units < units :=
    Nat.lt_of_le_of_ne (pow_mul_spacing_le hone) (Ne.symm (hpower hone))
  have hstep := Nat.mul_le_mul_left scale
    (add_le_of_dvd_of_lt (Nat.dvd_mul_left _ _) hgrid hstart)
  have hlow := h.low
  rw [hgap] at hlow
  rw [Nat.le_div_iff_mul_le hscale, Nat.mul_comm]
  rw [Nat.mul_add] at hstep
  omega

theorem eq_pow_mul_half {units j : Nat} (hdouble : spacing units = 2 * Nat.pow 2 j)
    (hpower : units = Nat.pow 2 52 * spacing units) : units = Nat.pow 2 53 * Nat.pow 2 j := by
  rw [hdouble, ← Nat.mul_assoc] at hpower
  exact hpower

/-- What is covered and below a power of two is on the spacing that ends there, which is half as
wide and is the one that rounding uses. -/
theorem spacing_below_power {units point scale j : Nat} (hscale : 0 < scale)
    (h : Covers units point scale) (hlt : point < scale * units)
    (hhalf : gapBelow units = Nat.pow 2 j) (hdouble : spacing units = 2 * Nat.pow 2 j)
    (hpower : units = Nat.pow 2 52 * spacing units) : spacing (point / scale) = Nat.pow 2 j := by
  have hfine := eq_pow_mul_half hdouble hpower
  have hbelow : point / scale < Nat.pow 2 53 * Nat.pow 2 j := by
    rw [Nat.div_lt_iff_lt_mul hscale, ← hfine, Nat.mul_comm]
    exact hlt
  have hstart : Nat.pow 2 52 * Nat.pow 2 j ≤ point / scale := by
    have hlow := h.low
    have hgap : scale * Nat.pow 2 j ≤ scale * (Nat.pow 2 52 * Nat.pow 2 j) :=
      Nat.mul_le_mul_left scale (Nat.le_mul_of_pos_left _ (power_pos 52))
    have htwice : scale * units = 2 * (scale * (Nat.pow 2 52 * Nat.pow 2 j)) := by
      rw [hfine, Nat.mul_left_comm 2, ← Nat.mul_assoc 2]
    rw [hhalf] at hlow
    rw [Nat.le_div_iff_mul_le hscale, Nat.mul_comm]
    omega
  rw [← spacing_pow_mul j]
  exact spacing_eq_of_le_of_lt hstart (by rwa [spacing_pow_mul])

/-- What is covered is rounded to the number that covers it. The midpoints around a number are thus
the right bounds for what is read as it. The point lies on one side of the number, and the spacing
there is the one the rounding takes. -/
theorem Covers.roundUnits_eq {units point scale : Nat} (hgrid : spacing units ∣ units)
    (hscale : 0 < scale) (h : Covers units point scale) : roundUnits point scale = units := by
  have hfactor : units / spacing units * spacing units = units := Nat.div_mul_cancel hgrid
  have hwhole : units / spacing units * (scale * spacing units) = scale * units := by
    rw [Nat.mul_left_comm, hfactor]
  have hgap := Nat.mul_le_mul_left scale (gapBelow_le units)
  have hlow := h.low
  have hhigh := h.high
  have hodd := h.odd
  rcases Nat.lt_or_ge point (scale * units) with hlt | hge
  · rcases gapBelow_cases units with ⟨hsame, hpower⟩ | ⟨j, hhalf, hdouble, hpower⟩
    · have hspacing := spacing_of_point_lt hgrid hscale h hlt hsame hpower
      rw [hsame] at hlow hodd
      have hnear : IsNearestEven point (scale * spacing units) (units / spacing units) :=
        ⟨by omega, by omega, by omega⟩
      rw [roundUnits_of_isNearestEven hscale hspacing hnear, hfactor]
    · -- below a power of two the numbers are twice as dense, and the significand is even there
      have hspacing := spacing_below_power hscale h hlt hhalf hdouble hpower
      have hfine := eq_pow_mul_half hdouble hpower
      have hnear : IsNearestEven point (scale * Nat.pow 2 j) (Nat.pow 2 53) := by
        have hsame : Nat.pow 2 53 * (scale * Nat.pow 2 j) = scale * units := by
          rw [hfine, Nat.mul_left_comm]
        rw [hhalf] at hlow
        exact ⟨by omega, by omega, fun h => absurd h (by decide)⟩
      rw [roundUnits_of_isNearestEven hscale hspacing hnear, hfine]
  · have hspacing := spacing_of_le_point hgrid hscale h hge
    have hnear : IsNearestEven point (scale * spacing units) (units / spacing units) :=
      ⟨by omega, by omega, by omega⟩
    rw [roundUnits_of_isNearestEven hscale hspacing hnear, hfactor]

theorem unitsPerOne_pos : 0 < unitsPerOne := by decide +kernel

theorem ten_pow_pos (n : Nat) : 0 < Nat.pow 10 n := Nat.pow_pos (by decide)

theorem length_digits_le_iff {n k : Nat} (hk : 0 < k) :
    (Nat.toDigits 10 n).length ≤ k ↔ n < Nat.pow 10 k :=
  Nat.length_toDigits_le_iff (by decide) hk

theorem pow_le_of_pos {n : Nat} (hn : 0 < n) : Nat.pow 10 ((Nat.toDigits 10 n).length - 1) ≤ n := by
  by_cases hone : (Nat.toDigits 10 n).length - 1 = 0
  · rw [hone]
    exact hn
  · apply Nat.le_of_not_lt
    intro hlt
    have := (length_digits_le_iff (Nat.pos_of_ne_zero hone)).mpr hlt
    omega

/-- Even the smallest step has seventy-six digits before the point once it is magnified. So digits
are counted of a whole number that is not zero. -/
theorem pow_le_magnified {units : Nat} (hpos : 0 < units) :
    Nat.pow 10 76 ≤ units * Nat.pow 10 400 / unitsPerOne := by
  have hstep : Nat.pow 10 76 * unitsPerOne ≤ Nat.pow 10 400 := by decide +kernel
  rw [Nat.le_div_iff_mul_le unitsPerOne_pos]
  exact Nat.le_trans hstep (Nat.le_mul_of_pos_left _ hpos)

theorem le_magnitude {units : Nat} (hpos : 0 < units) : -323 ≤ magnitude units := by
  have hlength : 76 < (Nat.toDigits 10 (units * Nat.pow 10 400 / unitsPerOne)).length := by
    apply Nat.lt_of_not_le
    intro hle
    have hless := (length_digits_le_iff (by decide)).mp hle
    exact absurd hless (Nat.not_lt.mpr (pow_le_magnified hpos))
  unfold magnitude
  omega

theorem magnitude_le {units : Nat} (h : units < pastLargest) : magnitude units ≤ 309 := by
  have hlargest : pastLargest * Nat.pow 10 400 < Nat.pow 10 709 * unitsPerOne := by decide +kernel
  have hquotient : units * Nat.pow 10 400 / unitsPerOne < Nat.pow 10 709 :=
    (Nat.div_lt_iff_lt_mul unitsPerOne_pos).mpr
      (Nat.lt_of_le_of_lt (Nat.mul_le_mul_right _ h.le) hlargest)
  have hlength := (length_digits_le_iff (by decide)).mpr hquotient
  unfold magnitude
  omega

/-- A bound by powers of ten, with all factors on the side where their exponent is positive. The
exponent may have either sign, and only the sum of the exponents is needed. -/
theorem mul_pow_le_mul_pow {units length count places : Nat} {exponent : Int}
    (hsum : exponent.toNat + count + places = length + (-exponent).toNat)
    (h : Nat.pow 10 length * unitsPerOne ≤ units * Nat.pow 10 places) :
    unitsPerOne * Nat.pow 10 exponent.toNat * Nat.pow 10 count ≤
      units * Nat.pow 10 (-exponent).toNat := by
  refine Nat.le_of_mul_le_mul_right ?_ (ten_pow_pos places)
  calc unitsPerOne * Nat.pow 10 exponent.toNat * Nat.pow 10 count * Nat.pow 10 places
    _ = unitsPerOne * Nat.pow 10 (exponent.toNat + count + places) := by
        simp only [Nat.pow_eq, Nat.pow_add, Nat.mul_assoc]
    _ = Nat.pow 10 length * unitsPerOne * Nat.pow 10 (-exponent).toNat := by
        rw [hsum, Nat.mul_comm (Nat.pow 10 _), Nat.mul_assoc]
        simp only [Nat.pow_eq, Nat.pow_add]
    _ ≤ units * Nat.pow 10 places * Nat.pow 10 (-exponent).toNat := Nat.mul_le_mul_right _ h
    _ = units * Nat.pow 10 (-exponent).toNat * Nat.pow 10 places := Nat.mul_right_comm _ _ _

/-- On a grid of some digits the steps are that much finer than the number. With one digit more than
`count`, the number is at least `10 ^ count` steps of the grid. -/
theorem grid_step_mul_le {units : Nat} (hpos : 0 < units) (count : Nat) {exponent : Int}
    (hexponent : exponent = magnitude units - (count + 1 : Nat)) :
    unitsPerOne * Nat.pow 10 exponent.toNat * Nat.pow 10 count ≤
      units * Nat.pow 10 (-exponent).toNat := by
  have hmagnified : 0 < units * Nat.pow 10 400 / unitsPerOne :=
    Nat.lt_of_lt_of_le (ten_pow_pos 76) (pow_le_magnified hpos)
  have hlength := Nat.length_toDigits_pos (b := 10) (n := units * Nat.pow 10 400 / unitsPerOne)
  have hleading := (Nat.le_div_iff_mul_le unitsPerOne_pos).mp (pow_le_of_pos hmagnified)
  unfold magnitude at hexponent
  refine mul_pow_le_mul_pow ?_ hleading
  omega

/-- A decimal on a grid reads back as the number. It is given by numerator and denominator, so that
nothing has to be divided. -/
def Hits (units : Nat) (d : Decimal) : Prop :=
  readsBack units (d.ratio.1 * unitsPerOne) d.ratio.2 = true

theorem hits_iff (units coefficient : Nat) (exponent : Int) :
    Hits units ⟨coefficient, exponent⟩ ↔
      readsBack units (coefficient * (unitsPerOne * Nat.pow 10 exponent.toNat))
        (Nat.pow 10 (-exponent).toNat) = true := by
  have hpoint : coefficient * Nat.pow 10 exponent.toNat * unitsPerOne =
      coefficient * (unitsPerOne * Nat.pow 10 exponent.toNat) := by
    rw [Nat.mul_assoc, Nat.mul_comm (Nat.pow 10 _)]
  rw [Hits, Decimal.ratio_eq, hpoint]

theorem nearestEven_eq_or (num den : Nat) :
    nearestEven num den = num / den ∨ nearestEven num den = num / den + 1 := by
  have := Nat.mod_two_eq_zero_or_one (num / den)
  unfold nearestEven
  dsimp only
  split
  · exact Or.inl rfl
  split
  · exact Or.inr rfl
  · omega

/-- What is found on a grid is on it and reads back. It may be the lower or the upper neighbour, or
the nearer of them when both do. The tests of the search are just those of `Hits`, case by case. -/
theorem shortestOn_hits {units count : Nat} {d : Decimal} (h : shortestOn units count = some d) :
    d.exponent = magnitude units - count ∧ Hits units d := by
  unfold shortestOn at h
  dsimp only at h
  split at h
  · rename_i hboth
    simp only [Bool.and_eq_true] at hboth
    obtain rfl := Option.some.inj h
    refine ⟨rfl, (hits_iff _ _ _).mpr ?_⟩
    rcases nearestEven_eq_or (units * Nat.pow 10 (-(magnitude units - count)).toNat)
      (unitsPerOne * Nat.pow 10 (magnitude units - count).toNat) with hlower | hupper
    · rw [hlower]
      exact hboth.1
    · rw [hupper]
      exact hboth.2
  split at h
  · rename_i hlower
    obtain rfl := Option.some.inj h
    exact ⟨rfl, (hits_iff _ _ _).mpr hlower⟩
  split at h
  · rename_i hupper
    obtain rfl := Option.some.inj h
    exact ⟨rfl, (hits_iff _ _ _).mpr hupper⟩
  · cases h

/-- Sixteen digits say more than 53 bits. Neighbours among the numbers are therefore further apart
than the steps of a grid of seventeen digits. -/
theorem lt_of_mul_pow_le {a b : Nat} (hpos : 0 < b) (h : a * Nat.pow 10 16 ≤ Nat.pow 2 53 * b) :
    a < b := by
  have hbits : Nat.pow 2 53 * b < Nat.pow 10 16 * b := Nat.mul_lt_mul_of_pos_right (by decide) hpos
  rw [Nat.mul_comm] at h
  exact Nat.lt_of_mul_lt_mul_left (Nat.lt_of_le_of_lt h hbits)

/-- On a grid much finer than the number, one of its neighbours reads back. They are less than half
a spacing away, whichever way the spacing changes at the number. At a power of two only the upper
neighbour is certain to be near enough. -/
theorem covers_neighbour {units step scale lower : Nat} (hscale : 0 < scale)
    (hfine : step * Nat.pow 10 16 ≤ units * scale) (hlower : lower * step ≤ units * scale)
    (hupper : units * scale < lower * step + step) :
    Covers units (lower * step) scale ∨ Covers units ((lower + 1) * step) scale := by
  have hgap : 0 < scale * spacing units := Nat.mul_pos hscale (spacing_pos _)
  have hunits : scale * units ≤ Nat.pow 2 53 * (scale * spacing units) := by
    rw [Nat.mul_left_comm]
    exact Nat.mul_le_mul_left _ (lt_spacing_mul units).le
  rw [Nat.mul_comm units scale] at hfine hlower hupper
  rw [Nat.add_one_mul]
  generalize lower * step = low at *
  rcases gapBelow_cases units with ⟨hsame, -⟩ | ⟨j, hhalf, hdouble, hpower⟩
  · have hless : step < scale * spacing units := lt_of_mul_pow_le hgap (hfine.trans hunits)
    by_cases hnear : 2 * (scale * units) < 2 * low + scale * spacing units
    · left
      exact ⟨by rw [hsame]; omega, by omega, fun _ => by rw [hsame]; omega⟩
    · right
      exact ⟨by omega, by omega, fun _ => by omega⟩
  · -- the number is a power of two, and the upper neighbour is the safe one
    have hexact : 2 * (scale * units) = Nat.pow 2 53 * (scale * spacing units) := by
      conv_lhs => rw [hpower, Nat.mul_left_comm scale, ← Nat.mul_assoc]
    have hless : 2 * step < scale * spacing units := by
      apply lt_of_mul_pow_le hgap
      rw [Nat.mul_assoc, ← hexact]
      exact Nat.mul_le_mul_left 2 hfine
    right
    exact ⟨by omega, by omega, fun _ => by omega⟩

/-- If a neighbour of the number on a grid reads back, a decimal is found there. The search looks at
these two only, and takes one of them if it can. -/
theorem exists_shortestOn_of_covers {units count : Nat} (hle : spacing units ≤ units)
    {exponent : Int} (hexponent : magnitude units - count = exponent)
    (h : let step := unitsPerOne * Nat.pow 10 exponent.toNat
      let scale := Nat.pow 10 (-exponent).toNat
      Covers units (units * scale / step * step) scale ∨
        Covers units ((units * scale / step + 1) * step) scale) :
    ∃ d, shortestOn units count = some d := by
  unfold shortestOn
  dsimp only at h ⊢
  rw [← readsBack_iff_covers hle, ← readsBack_iff_covers hle] at h
  rw [hexponent]
  rcases h with hlower | hupper
  · rw [hlower, Bool.true_and]
    split
    · exact ⟨_, rfl⟩
    · exact ⟨_, rfl⟩
  · rw [hupper, Bool.and_true]
    split
    · exact ⟨_, rfl⟩
    · exact ⟨_, rfl⟩

/-- Seventeen digits suffice. It is what makes the search for the shortest decimal end with a
decimal and not for want of grids. -/
theorem exists_shortestOn {units : Nat} (hpos : 0 < units) (hle : spacing units ≤ units) :
    ∃ d, shortestOn units 17 = some d := by
  apply exists_shortestOn_of_covers hle rfl
  have hfine := grid_step_mul_le hpos 16 rfl
  have hstep := Nat.mul_pos unitsPerOne_pos (ten_pow_pos (magnitude units - (17 : Nat)).toNat)
  exact covers_neighbour (ten_pow_pos _) hfine (Nat.div_mul_le_self _ _) (Nat.lt_div_mul_add hstep)

/-- The search ends on the first grid on which a decimal is found, with that decimal less the zeros
that end it. The induction is on the fuel. It does not run out, since seventeen digits are always
enough. -/
theorem exists_shortestFrom {units : Nat} (hpos : 0 < units) (hle : spacing units ≤ units)
    {fuel count : Nat} (hfuel : fuel + count = 18) (hcount : count ≤ 17) :
    ∃ (d : Decimal) (digits : Nat), count ≤ digits ∧ digits ≤ 17 ∧
      shortestFrom units fuel count = d.trimmed digits ∧ shortestOn units digits = some d ∧
      ∀ fewer, count ≤ fewer → fewer < digits → shortestOn units fewer = none := by
  induction fuel generalizing count with
  | zero => omega
  | succ fuel ih =>
      unfold shortestFrom
      cases hfound : shortestOn units count with
      | some d => exact ⟨d, count, Nat.le_refl _, hcount, rfl, hfound, fun _ _ _ => by omega⟩
      | none =>
          have hless : count ≠ 17 := by
            rintro rfl
            obtain ⟨d, hd⟩ := exists_shortestOn hpos hle
            rw [hd] at hfound
            cases hfound
          have hrest := @ih (count + 1) (by omega) (by omega)
          obtain ⟨d, digits, hmore, hdigits, hshortest, hd, hnone⟩ := hrest
          refine ⟨d, digits, Nat.le_of_succ_le hmore, hdigits, hshortest, hd, ?_⟩
          intro fewer hfewer hbefore
          rcases Nat.eq_or_lt_of_le hfewer with rfl | hlater
          · exact hfound
          · exact hnone fewer hlater hbefore

/-- The shortest decimal is found on the first grid with one, and is that decimal less the zeros
that end it. -/
theorem exists_shortest {units : Nat} (hpos : 0 < units) (hle : spacing units ≤ units) :
    ∃ (d : Decimal) (digits : Nat), 1 ≤ digits ∧ digits ≤ 17 ∧
      shortest units = d.trimmed digits ∧ shortestOn units digits = some d ∧
      ∀ fewer, 1 ≤ fewer → fewer < digits → shortestOn units fewer = none := by
  rw [shortest, if_neg hpos.ne']
  exact exists_shortestFrom hpos hle rfl (by decide)

/-- A decimal that reads back is not zero, as zero is further from a number than half the way to its
neighbour. -/
theorem Hits.coefficient_ne_zero {units : Nat} {d : Decimal} (hpos : 0 < units)
    (hgrid : spacing units ∣ units) (h : Hits units d) : d.coefficient ≠ 0 := by
  intro hzero
  have hcovers := (readsBack_iff_covers (Nat.le_of_dvd hpos hgrid) _ _).mp h
  have hround := hcovers.roundUnits_eq hgrid d.ratio_pos
  rw [Decimal.ratio_eq, hzero, Nat.zero_mul, Nat.zero_mul, roundUnits_zero] at hround
  exact hpos.ne hround

/-- The shortest decimal of a number reads as that number. No digit of it is lost in a text, and
none is needed that is not there. -/
theorem ofDecimal_shortest {units : Nat} (h : Representable units) (hpos : 0 < units)
    (negative : Bool) :
    (shortest units).Moderate ∧ ofDecimal negative (shortest units) = .finite negative units h := by
  have hle : spacing units ≤ units := Nat.le_of_dvd hpos h.2
  obtain ⟨d, digits, -, hdigits, hfound, hd, -⟩ := exists_shortest hpos hle
  obtain ⟨hexponent, hhits⟩ := shortestOn_hits hd
  have hlow := le_magnitude hpos
  have hhigh := magnitude_le h.1
  have hne := hhits.coefficient_ne_zero hpos h.2
  have hmoderate : d.Moderate := ⟨hne, by omega, by omega⟩
  have htrimmed := Decimal.trimmed_exponent digits d
  have hmoderate' : (d.trimmed digits).Moderate :=
    ⟨Decimal.trimmed_coefficient_ne_zero digits hne, by omega, by omega⟩
  have hround := ((readsBack_iff_covers hle _ _).mp hhits).roundUnits_eq h.2 d.ratio_pos
  rw [hfound]
  refine ⟨hmoderate', ?_⟩
  rw [ofDecimal_congr hmoderate' hmoderate (Decimal.trimmed_value digits d),
    ofDecimal_of_moderate hmoderate, roundQuotient_eq_finite h hround]

end Binary64

end Reckoner
