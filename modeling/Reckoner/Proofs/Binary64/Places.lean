import Reckoner.Proofs.Binary64.Reading

/-!
The places after the point of a shortest decimal. If some decimal with so many places after the
point is read as a number, the shortest decimal of the number has no more of them. All decimals that
are read as the number lie in one interval around it, so on the grid of the given decimal one of the
two neighbours is read as the number as well, and the search for fewest digits ends there at the
latest. One case is apart: the number may lie just below a power of ten that is read as it. Then it
has one digit less before the point than the decimal, and the search ends with the power of ten at
once.
-/

namespace Reckoner

/-- Zeros that end a coefficient are all removed if there are no more digits than can be. The bound
on the coefficient says that the fuel is not the reason to stop. -/
theorem Decimal.trimmed_coefficient_mod (fuel : Nat) {d : Decimal} (hne : d.coefficient ≠ 0)
    (hless : d.coefficient < Nat.pow 10 (fuel + 1)) : (d.trimmed fuel).coefficient % 10 ≠ 0 := by
  induction fuel generalizing d with
  | zero =>
      have hdigit : d.coefficient % 10 = d.coefficient := Nat.mod_eq_of_lt hless
      rwa [trimmed, hdigit]
  | succ fuel ih =>
      unfold trimmed
      split
      · have hquotient : d.coefficient / 10 < Nat.pow 10 (fuel + 1) := by
          apply Nat.div_lt_of_lt_mul
          rwa [Nat.mul_comm]
        exact ih (by dsimp only; omega) hquotient
      · omega

namespace Binary64

theorem gapBelow_pos (units : Nat) : 0 < gapBelow units := by
  rcases gapBelow_cases units with ⟨hsame, -⟩ | ⟨j, hhalf, -⟩
  · rw [hsame]
    exact spacing_pos units
  · rw [hhalf]
    exact power_pos j

theorem significand_lt (units : Nat) : units / spacing units < Nat.pow 2 53 := by
  apply Nat.div_lt_of_lt_mul
  rw [Nat.mul_comm]
  exact lt_spacing_mul units

/-- The neighbour above a count of the format is on the grid, even where it is a power of two and
begins a wider spacing. -/
theorem spacing_dvd_add_spacing {units : Nat} (hgrid : spacing units ∣ units) :
    spacing (units + spacing units) ∣ units + spacing units := by
  have hsum : units + spacing units = (units / spacing units + 1) * spacing units := by
    rw [Nat.succ_mul, Nat.div_mul_cancel hgrid]
  rw [hsum]
  exact spacing_dvd_mul_pow _ (significand_lt units)

/-- So is the neighbour below. After a power of two the step down is only half as wide, and that is
the spacing there. -/
theorem spacing_dvd_sub_gapBelow {units : Nat} (hgrid : spacing units ∣ units) :
    spacing (units - gapBelow units) ∣ units - gapBelow units := by
  rcases gapBelow_cases units with ⟨hsame, -⟩ | ⟨j, hhalf, hdouble, hpower⟩
  · have hless : units - gapBelow units = (units / spacing units - 1) * spacing units := by
      rw [hsame, Nat.sub_mul, Nat.div_mul_cancel hgrid, Nat.one_mul]
    have hsignificand := significand_lt units
    rw [hless]
    exact spacing_dvd_mul_pow _ (by omega)
  · have hless : units - gapBelow units = (Nat.pow 2 53 - 1) * Nat.pow 2 j := by
      rw [hhalf, Nat.sub_mul, ← eq_pow_mul_half hdouble hpower, Nat.one_mul]
    rw [hless]
    exact spacing_dvd_mul_pow _ (Nat.sub_le _ _)

/-- What is rounded to a number lies half way to its neighbours at most, and at the half itself only
if the significand of the number is even. Both neighbours are on the grid, so the rounding is no
farther away than either of them. -/
theorem covers_of_roundUnits {units point scale : Nat} (hgrid : spacing units ∣ units)
    (hle : spacing units ≤ units) (hscale : 0 < scale) (h : roundUnits point scale = units) :
    Covers units point scale := by
  have hbelow := gapBelow_le units
  have habovePos : 0 < scale * spacing units := Nat.mul_pos hscale (spacing_pos units)
  have hbelowPos : 0 < scale * gapBelow units := Nat.mul_pos hscale (gapBelow_pos units)
  have hlow := roundUnits_nearest point hscale (spacing_dvd_sub_gapBelow hgrid)
  have hhigh := roundUnits_nearest point hscale (spacing_dvd_add_spacing hgrid)
  have hlowTie := @roundUnits_even_of_tie point scale _ hscale (spacing_dvd_sub_gapBelow hgrid)
  have hhighTie := @roundUnits_even_of_tie point scale _ hscale (spacing_dvd_add_spacing hgrid)
  have hgap : scale * gapBelow units ≤ scale * units :=
    Nat.mul_le_mul_left scale (Nat.le_trans hbelow hle)
  rw [h, Nat.sub_mul, Nat.mul_comm units, Nat.mul_comm (gapBelow units)] at hlow hlowTie
  rw [h, Nat.add_mul, Nat.mul_comm units, Nat.mul_comm (spacing units)] at hhigh hhighTie
  have hlowNe : units - gapBelow units ≠ units := by
    have := gapBelow_pos units
    omega
  have hhighNe : units + spacing units ≠ units := by
    have := spacing_pos units
    omega
  unfold Nat.dist at hlow hhigh hlowTie hhighTie
  refine ⟨by omega, by omega, fun hodd => ⟨?_, ?_⟩⟩
  · intro htie
    have heven := hlowTie hlowNe (by omega)
    omega
  · intro htie
    have heven := hhighTie hhighNe (by omega)
    omega

/-- Between what is covered and the number itself everything is covered. What reads back as a number
forms an interval around it, so decimals nearer to the number do as well. -/
theorem Covers.of_le {units point point' scale : Nat} (h : Covers units point scale)
    (hscale : 0 < scale) (hle : point ≤ point') (hle' : point' ≤ scale * units) :
    Covers units point' scale := by
  have hpos : 0 < scale * spacing units := Nat.mul_pos hscale (spacing_pos units)
  have hlow := h.low
  have hodd := h.odd
  exact ⟨by omega, by omega, fun h => by have := (hodd h).1; omega⟩

theorem Covers.of_ge {units point point' scale : Nat} (h : Covers units point scale)
    (hscale : 0 < scale) (hle : scale * units ≤ point') (hle' : point' ≤ point) :
    Covers units point' scale := by
  have hpos : 0 < scale * gapBelow units := Nat.mul_pos hscale (gapBelow_pos units)
  have hhigh := h.high
  have hodd := h.odd
  exact ⟨by omega, by omega, fun h => by have := (hodd h).2; omega⟩

/-- A grid with a point that reads back has a decimal next to the number that reads back. The point
may be far from the number, but the neighbours of the number on the grid are nearer. What lies
between the number and a point that reads back reads back too. -/
theorem exists_shortestOn_of_point {units count k : Nat} (hle : spacing units ≤ units)
    {exponent : Int} (hexponent : magnitude units - count = exponent)
    (h : Covers units (k * (unitsPerOne * Nat.pow 10 exponent.toNat))
      (Nat.pow 10 (-exponent).toNat)) :
    ∃ d, shortestOn units count = some d := by
  apply exists_shortestOn_of_covers hle hexponent
  dsimp only
  have hstep := Nat.mul_pos unitsPerOne_pos (ten_pow_pos exponent.toNat)
  have hscale := ten_pow_pos (-exponent).toNat
  generalize unitsPerOne * Nat.pow 10 exponent.toNat = step at *
  generalize Nat.pow 10 (-exponent).toNat = scale at *
  have hlower : units * scale / step * step ≤ scale * units := by
    rw [Nat.mul_comm scale]
    exact Nat.div_mul_le_self _ _
  have hupper : scale * units ≤ (units * scale / step + 1) * step := by
    rw [Nat.mul_comm scale, Nat.succ_mul]
    exact (Nat.lt_div_mul_add hstep).le
  rcases Nat.lt_or_ge (units * scale / step) k with hmore | hfewer
  · right
    exact h.of_ge hscale hupper (Nat.mul_le_mul_right step hmore)
  · left
    exact h.of_le hscale (Nat.mul_le_mul_right step hfewer) hlower

/-- The strict bound by powers of ten that belongs to `mul_pow_le_mul_pow`. Exponents of either sign
are again brought to the side where they are positive. -/
theorem mul_pow_lt_mul_pow {units length count places : Nat} {exponent : Int}
    (hsum : length + (-exponent).toNat = exponent.toNat + count + places)
    (h : units * Nat.pow 10 places < Nat.pow 10 length * unitsPerOne) :
    units * Nat.pow 10 (-exponent).toNat <
      unitsPerOne * Nat.pow 10 exponent.toNat * Nat.pow 10 count := by
  refine Nat.lt_of_mul_lt_mul_right (a := Nat.pow 10 places) ?_
  calc units * Nat.pow 10 (-exponent).toNat * Nat.pow 10 places
    _ = units * Nat.pow 10 places * Nat.pow 10 (-exponent).toNat := Nat.mul_right_comm _ _ _
    _ < Nat.pow 10 length * unitsPerOne * Nat.pow 10 (-exponent).toNat :=
        Nat.mul_lt_mul_of_pos_right h (ten_pow_pos _)
    _ = unitsPerOne * Nat.pow 10 (exponent.toNat + count + places) := by
        rw [← hsum, Nat.mul_comm (Nat.pow 10 _), Nat.mul_assoc]
        simp only [Nat.pow_eq, Nat.pow_add]
    _ = unitsPerOne * Nat.pow 10 exponent.toNat * Nat.pow 10 count * Nat.pow 10 places := by
        simp only [Nat.pow_eq, Nat.pow_add, Nat.mul_assoc]

/-- A number has no more digits than its grid. The magnitude counts its digits, and the exponent of
the grid leaves `count` of them. -/
theorem lt_grid_mul (units count : Nat) {exponent : Int}
    (hexponent : exponent = magnitude units - count) :
    units * Nat.pow 10 (-exponent).toNat <
      unitsPerOne * Nat.pow 10 exponent.toNat * Nat.pow 10 count := by
  have hlength := Nat.length_toDigits_pos (b := 10) (n := units * Nat.pow 10 400 / unitsPerOne)
  have hless := (length_digits_le_iff hlength).mp (Nat.le_refl _)
  rw [Nat.div_lt_iff_lt_mul unitsPerOne_pos] at hless
  unfold magnitude at hexponent
  refine mul_pow_lt_mul_pow ?_ hless
  omega

/-- The neighbours of a number on its grid of some digits have so many digits, or are the power of
ten that follows. -/
theorem shortestOn_coefficient_le {units count : Nat} {d : Decimal}
    (h : shortestOn units count = some d) : d.coefficient ≤ Nat.pow 10 count := by
  have hless := lt_grid_mul units count rfl
  unfold shortestOn at h
  dsimp only at h
  generalize unitsPerOne * Nat.pow 10 (magnitude units - count).toNat = step at h hless
  generalize units * Nat.pow 10 (-(magnitude units - count)).toNat = point at h hless
  have hquotient := Nat.div_lt_of_lt_mul hless
  split at h
  · obtain rfl := Option.some.inj h
    exact Nat.le_trans (nearestEven_le_succ point step) (Nat.succ_le_of_lt hquotient)
  split at h
  · obtain rfl := Option.some.inj h
    exact hquotient.le
  split at h
  · obtain rfl := Option.some.inj h
    exact Nat.succ_le_of_lt hquotient
  · cases h

/-- A shortest decimal has no zero to end its coefficient. Such a zero is removed after the decimal
was found, and there are not too many for that. -/
theorem shortest_coefficient_mod {units : Nat} (hpos : 0 < units) (hgrid : spacing units ∣ units) :
    (shortest units).coefficient % 10 ≠ 0 := by
  obtain ⟨d, digits, -, -, hshortest, hfound, -⟩ :=
    exists_shortest hpos (Nat.le_of_dvd hpos hgrid)
  have hless : d.coefficient < Nat.pow 10 (digits + 1) :=
    Nat.lt_of_le_of_lt (shortestOn_coefficient_le hfound)
      (Nat.pow_lt_pow_right (by decide) (Nat.lt_succ_self digits))
  rw [hshortest]
  have hcoefficient := (shortestOn_hits hfound).2.coefficient_ne_zero hpos hgrid
  exact Decimal.trimmed_coefficient_mod digits hcoefficient
    hless

/-- A number that begins after so many zeros is below the power of ten that they stand for. The
magnitude counts digits, and this is the bound that it gives in values. -/
theorem pow_mul_lt_of_magnitude_le {units zeros : Nat} (h : magnitude units ≤ -zeros) :
    Nat.pow 10 zeros * units < unitsPerOne := by
  have hless := lt_grid_mul units 0 rfl
  have hwhole : (magnitude units - (0 : Nat)).toNat = 0 := Int.toNat_of_nonpos (by omega)
  have hzeros : Nat.pow 10 zeros ≤ Nat.pow 10 (-(magnitude units - (0 : Nat))).toNat :=
    Nat.pow_le_pow_right (by decide) (by omega)
  rw [hwhole] at hless
  simp only [Nat.pow_eq, Nat.pow_zero, Nat.mul_one] at hless
  rw [Nat.mul_comm] at hless
  exact Nat.lt_of_le_of_lt (Nat.mul_le_mul_right units hzeros) hless

/-- A decimal unit that is not too small is far above the counts that have fewer than 53 bits. So
the number that it is read as has a full significand, and neighbours more than one step away. -/
theorem spacing_ne_one_of_covers {units places : Nat} (hplaces : places ≤ 91)
    (h : Covers units unitsPerOne (Nat.pow 10 places)) : spacing units ≠ 1 := by
  intro hone
  have hunits := lt_spacing_mul units
  have hhigh := h.high
  have hscale : Nat.pow 10 places ≤ Nat.pow 10 91 := Nat.pow_le_pow_right (by decide) hplaces
  have hsmall : Nat.pow 10 91 * (2 * Nat.pow 2 53 + 1) < 2 * unitsPerOne := by decide +kernel
  rw [hone, Nat.mul_one] at hunits hhigh
  have hproduct := Nat.mul_le_mul hscale (show 2 * units + 1 ≤ 2 * Nat.pow 2 53 + 1 by omega)
  rw [Nat.mul_add, Nat.mul_one, Nat.mul_left_comm] at hproduct
  generalize Nat.pow 10 91 * (2 * Nat.pow 2 53 + 1) = bound at *
  omega

/-- Of the two neighbours on a grid the upper one is found if it alone reads back. All parts of the
search are given names, so that they are computed once and not inside one another. -/
theorem shortestOn_of_upper {units count step scale lower upper : Nat} {exponent : Int}
    (hexponent : magnitude units - count = exponent)
    (hstep : unitsPerOne * Nat.pow 10 exponent.toNat = step)
    (hscale : Nat.pow 10 (-exponent).toNat = scale) (hlower : units * scale / step = lower)
    (hupper : lower + 1 = upper)
    (hmiss : ¬ readsBack units (lower * step) scale = true)
    (hhit : readsBack units (upper * step) scale = true) :
    shortestOn units count = some ⟨upper, exponent⟩ := by
  subst hexponent hstep hscale hlower hupper
  rw [Bool.not_eq_true] at hmiss
  simp only [shortestOn, hmiss, hhit, Bool.false_and, Bool.false_eq_true, if_false, if_true]

/-- A number just below a power of ten, which is far coarser than the spacing, has nine tenths of
the power below it and the power above it, and only the latter is read as the number. -/
theorem shortestOn_one {units unit scale : Nat} (hle : spacing units ≤ units) (hunit : 0 < unit)
    (hfine : 16 * (scale * spacing units) ≤ scale * units) (hless : scale * units < unit)
    (h : Covers units unit scale) :
    units * (10 * scale) / unit = 9 ∧ ¬ readsBack units (9 * unit) (10 * scale) = true ∧
      readsBack units (10 * unit) (10 * scale) = true := by
  have hgap := Nat.mul_le_mul_left scale (gapBelow_le units)
  have hlow := h.low
  have hhigh := h.high
  have hodd := h.odd
  have hpoint : units * (10 * scale) = 10 * (scale * units) := by
    rw [Nat.mul_comm, Nat.mul_assoc]
  rw [readsBack_iff_covers hle, readsBack_iff_covers hle]
  refine ⟨?_, ?_, ⟨?_, ?_, ?_⟩⟩
  · rw [hpoint, Nat.div_eq_iff hunit]
    omega
  · intro hnine
    have hfar := hnine.low
    rw [Nat.mul_assoc, Nat.mul_assoc] at hfar
    omega
  all_goals
    simp only [Nat.mul_assoc]
    omega

/-- A number just below a power of ten that is read as it is written as that power. The grid of one
digit holds nine tenths of the power and the power, and only the latter reads back. The search
begins with one digit, so its first grid is finer by a place than the decimal. -/
theorem shortest_of_below_power {units places : Nat} (hpos : 0 < units)
    (hgrid : spacing units ∣ units) (hplaces : places ≤ 91) (hbelow : magnitude units ≤ -places)
    (h : Covers units unitsPerOne (Nat.pow 10 places)) : shortest units = ⟨1, -places⟩ := by
  have hle := Nat.le_of_dvd hpos hgrid
  have hless := pow_mul_lt_of_magnitude_le hbelow
  have hfine : 16 * (Nat.pow 10 places * spacing units) ≤ Nat.pow 10 places * units := by
    rw [Nat.mul_left_comm]
    apply Nat.mul_le_mul_left
    have hnormal := pow_mul_spacing_le (spacing_ne_one_of_covers hplaces h)
    exact Nat.le_trans (Nat.mul_le_mul_right _ (by decide)) hnormal
  have hten : Nat.pow 10 (places + 1) = 10 * Nat.pow 10 places := Nat.pow_succ'
  have hexact : magnitude units = -places := by
    apply Int.le_antisymm hbelow
    apply Int.not_lt.mp
    intro hmore
    have hmuch : Nat.pow 10 (places + 1) * units < unitsPerOne :=
      pow_mul_lt_of_magnitude_le (by omega)
    have hhigh := h.high
    rw [hten, Nat.mul_assoc] at hmuch
    omega
  obtain ⟨hnine, hmiss, hhit⟩ := shortestOn_one hle unitsPerOne_pos hfine hless h
  have hexponent : magnitude units - (1 : Nat) = -places - 1 := by rw [hexact, Nat.cast_one]
  have hwhole : (-(places : Int) - 1).toNat = 0 := Int.toNat_of_nonpos (by omega)
  have hfraction : (-(-(places : Int) - 1)).toNat = places + 1 := by omega
  have hstep : unitsPerOne * Nat.pow 10 (-(places : Int) - 1).toNat = unitsPerOne := by
    rw [hwhole, Nat.pow_eq, Nat.pow_zero, Nat.mul_one]
  have hscale : Nat.pow 10 (-(-(places : Int) - 1)).toNat = 10 * Nat.pow 10 places := by
    rw [hfraction, hten]
  have hfound := shortestOn_of_upper hexponent hstep hscale hnine (show 9 + 1 = 10 from rfl)
    hmiss hhit
  simp only [shortest, if_neg hpos.ne', shortestFrom, hfound]
  simp [Decimal.trimmed]

/-- If a decimal with so many places after the point is read as a number, the shortest decimal of
the number has no more of them. The search stops at so many digits at the latest, as the decimal
itself stands on that grid. -/
theorem le_exponent_shortest {units coefficient places : Nat} (hpos : 0 < units)
    (hgrid : spacing units ∣ units) (hplaces : places ≤ 91)
    (h : roundUnits (coefficient * unitsPerOne) (Nat.pow 10 places) = units) :
    -(places : Int) ≤ (shortest units).exponent := by
  have hle := Nat.le_of_dvd hpos hgrid
  have hscale := ten_pow_pos places
  have hcovers := covers_of_roundUnits hgrid hle hscale h
  rcases Int.lt_or_le (-places) (magnitude units) with hdigit | hbelow
  · obtain ⟨d, digits, -, -, hshortest, hfound, hnone⟩ := exists_shortest hpos hle
    have hexponent : magnitude units - (magnitude units + places).toNat = -places := by omega
    have hon : ∃ d, shortestOn units (magnitude units + places).toNat = some d := by
      apply exists_shortestOn_of_point hle hexponent (k := coefficient)
      have hwhole : (-(places : Int)).toNat = 0 := Int.toNat_of_nonpos (by omega)
      rw [hwhole, Int.neg_neg, Int.toNat_natCast, Nat.pow_eq, Nat.pow_zero, Nat.mul_one]
      exact hcovers
    have hdigits : digits ≤ (magnitude units + places).toNat := by
      apply Nat.le_of_not_lt
      intro hlt
      rw [hnone _ (by omega) hlt] at hon
      obtain ⟨_, hd⟩ := hon
      cases hd
    have htrimmed := (Decimal.trimmed_exponent digits d).1
    rw [hshortest]
    rw [(shortestOn_hits hfound).1] at htrimmed
    omega
  · -- the decimal is a unit in its last place at least, and the number is below that unit
    have hcoefficient : 1 ≤ coefficient := by
      apply Nat.pos_of_ne_zero
      rintro rfl
      rw [Nat.zero_mul, roundUnits_zero] at h
      exact hpos.ne h
    have hunit : Covers units unitsPerOne (Nat.pow 10 places) :=
      hcovers.of_ge hscale (pow_mul_lt_of_magnitude_le hbelow).le
        (Nat.le_mul_of_pos_left unitsPerOne hcoefficient)
    rw [shortest_of_below_power hpos hgrid hplaces hbelow hunit]

end Binary64

end Reckoner
