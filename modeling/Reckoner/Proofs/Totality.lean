import Reckoner.Proofs.Binary64.Finite
import Reckoner.Proofs.Binary64.Range
import Reckoner.Proofs.Evaluation
import Reckoner.Proofs.Rounding.Order
import Reckoner.Settings.Override

/-!
For which decimal places the first stage is total. The settings accept every integer, and rounding
to decimal places works with a bounded number of digits and a bounded unit, and its result is read
as binary64 again: too many places are refused although the number is finite, and rounding upwards
to some negative places leads out of the finite numbers. What is left are the places from -999999 to
91 apart from nine.
-/

namespace Reckoner

open Binary64

namespace Rounding

/-- A count can be rounded to decimal places, and what it is rounded to is finite. Zero has no
digits, so their number is no concern of it. -/
structure Fits (units : Nat) (places : Int) : Prop where
  unit : -places ≤ largestUnit
  limit : places ≤ placesLimit
  digits : units ≠ 0 → magnitude units + places ≤ digitLimit
  range : (Decimal.mk (coefficient units places) (-places)).value < firstInfinite

theorem value_lt_of_coefficient_eq_zero {units : Nat} {places : Int}
    (h : coefficient units places = 0) :
    (Decimal.mk (coefficient units places) (-places)).value < firstInfinite := by
  rw [h, Decimal.value, Nat.cast_zero, zero_mul]
  exact_mod_cast firstInfinite_pos

/-- So many places before the point, all finite numbers are nearer to zero than to the next multiple
of the unit. -/
def coarsePlaces : Nat := 310

theorem ten_pow_le {m n : Nat} (h : m ≤ n) : Nat.pow 10 m ≤ Nat.pow 10 n :=
  Nat.pow_le_pow_right (by decide) h

theorem coefficient_of_coarse {units : Nat} (h : units < pastLargest) {places : Int}
    (hplaces : (coarsePlaces : Int) ≤ -places) : coefficient units places = 0 := by
  have hlargest : 2 * pastLargest ≤ unitsPerOne * Nat.pow 10 coarsePlaces := by decide +kernel
  have hscale : unitsPerOne * Nat.pow 10 coarsePlaces ≤ unitsPerOne * Nat.pow 10 (-places).toNat :=
    Nat.mul_le_mul_left _ (ten_pow_le (by omega))
  have hnegative : places ≤ 0 := by omega
  have hwhole : Nat.pow 10 places.toNat = 1 := by
    rw [Int.toNat_of_nonpos hnegative, Nat.pow_eq, Nat.pow_zero]
  rw [coefficient, nearestUp_eq_iff (Nat.mul_pos unitsPerOne_pos (ten_pow_pos _)), hwhole]
  omega

theorem magnitude_largestUnits : magnitude largestUnits = 309 := by decide +kernel

/-- What the largest number fits is fitted by all. Smaller numbers have no more digits, and are
rounded to nothing larger. -/
theorem Fits.of_largest {units : Nat} {places : Int} (h : Representable units)
    (hlargest : Fits largestUnits places) : Fits units places := by
  refine ⟨hlargest.unit, hlargest.limit, fun _ => ?_, ?_⟩
  · have hdigits := hlargest.digits largestUnits_ne_zero
    rw [magnitude_largestUnits] at hdigits
    have := magnitude_le h.1
    omega
  · refine lt_of_le_of_lt ?_ hlargest.range
    have hcoefficient := coefficient_mono places (le_largestUnits h)
    unfold Decimal.value
    gcongr

/-- The places to which the largest number is rounded upwards and out of range. At all other places
what it is rounded to is still in range. -/
def overflowingPlaces : List Int := [-293, -294, -298, -299, -304, -305, -306, -307, -308]

/-- Rounding to places after the point keeps every number in range. Large numbers have no fraction,
so they are left as they are. -/
theorem value_lt_of_nonneg {units : Nat} (h : Representable units) {places : Int}
    (hplaces : 0 ≤ places) :
    (Decimal.mk (coefficient units places) (-places)).value < firstInfinite := by
  have hread := rereading_lt h hplaces
  rw [rereading, roundUnits_mul_lt_pastLargest_iff _ (ten_pow_pos _)] at hread
  have hwhole : (-places).toNat = 0 := Int.toNat_of_nonpos (by omega)
  rw [Decimal.value_lt_iff]
  simpa [Decimal.ratio_eq, hwhole] using hread

theorem value_largestUnits_lt_iff (places : Int) :
    (Decimal.mk (coefficient largestUnits places) (-places)).value < firstInfinite ↔
      places ∉ overflowingPlaces := by
  have hlisted : ∀ p ∈ overflowingPlaces, -309 ≤ p ∧ p < 0 := by decide
  by_cases hfraction : 0 ≤ places
  · have hnot : places ∉ overflowingPlaces := fun hmem => by have := hlisted places hmem; omega
    exact iff_of_true (value_lt_of_nonneg representable_largestUnits hfraction) hnot
  by_cases hcoarse : (coarsePlaces : Int) ≤ -places
  · unfold coarsePlaces at hcoarse
    have hnot : places ∉ overflowingPlaces := fun hmem => by have := hlisted places hmem; omega
    have hzero := coefficient_of_coarse representable_largestUnits.1 hcoarse
    exact iff_of_true (value_lt_of_coefficient_eq_zero hzero) hnot
  · obtain ⟨k, rfl⟩ : ∃ k : Nat, places = -k := ⟨(-places).toNat, by omega⟩
    have hall : ∀ k : Nat, k < coarsePlaces →
        let d := Decimal.mk (coefficient largestUnits (-(k : Int))) k
        d.ratio.1 < firstInfinite * d.ratio.2 ↔ -(k : Int) ∉ overflowingPlaces := by
      decide +kernel
    rw [Int.neg_neg, Decimal.value_lt_iff]
    exact hall k (by omega)

theorem fits_largestUnits_iff (places : Int) :
    Fits largestUnits places ↔ -999999 ≤ places ∧ places ≤ 91 ∧ places ∉ overflowingPlaces := by
  have hmagnitude := magnitude_largestUnits
  constructor
  · intro h
    have hunit := h.unit
    have hdigits := h.digits largestUnits_ne_zero
    unfold largestUnit at hunit
    unfold digitLimit at hdigits
    exact ⟨by omega, by omega, (value_largestUnits_lt_iff places).mp h.range⟩
  · rintro ⟨hlow, hhigh, hnot⟩
    refine ⟨?_, ?_, fun _ => ?_, (value_largestUnits_lt_iff places).mpr hnot⟩
    · unfold largestUnit
      omega
    · unfold placesLimit
      omega
    · unfold digitLimit
      omega

end Rounding

open Rounding

/-- Rounding goes through and stays in range in these cases and in no others. It is refused where
the digits or the unit run out, and leaves the range where its result is read again. -/
theorem roundDecimal_isFinite_iff (negative : Bool) {units : Nat} (h : Representable units)
    (places : Int) :
    (∃ y, roundDecimal (.finite negative units h) places = .ok y ∧ y.isFinite = true) ↔
      Fits units places := by
  simp only [roundDecimal]
  split
  · rename_i hplaces
    constructor
    · rintro ⟨y, ⟨⟩, -⟩
    · intro hfits
      have hunit := hfits.unit
      have hlimit := hfits.limit
      unfold placesLimit at hplaces hlimit
      unfold largestUnit at hunit
      omega
  rename_i hplaces
  split
  · rename_i hunit
    constructor
    · rintro ⟨y, ⟨⟩, -⟩
    · intro hfits
      exact absurd hfits.unit (by omega)
  rename_i hunit
  split
  · rename_i hzero
    subst hzero
    refine iff_of_true ⟨_, rfl, rfl⟩ ⟨by omega, by omega, by simp, ?_⟩
    exact value_lt_of_coefficient_eq_zero (coefficient_zero places)
  rename_i hzero
  split
  · rename_i hdigits
    constructor
    · rintro ⟨y, ⟨⟩, -⟩
    · intro hfits
      exact absurd (hfits.digits hzero) (by omega)
  rename_i hdigits
  split
  · rename_i hcoarse
    refine iff_of_true ⟨_, rfl, rfl⟩ ⟨by omega, by omega, fun _ => by omega, ?_⟩
    apply value_lt_of_coefficient_eq_zero
    apply coefficient_of_coarse h.1
    unfold digitLimit at hcoarse
    unfold coarsePlaces
    omega
  · simp only [Except.ok.injEq, exists_eq_left', ofDecimal_isFinite_iff]
    exact ⟨fun hrange => ⟨by omega, by omega, fun _ => by omega, hrange⟩, fun hfits => hfits.range⟩

/-- The first stage rejects the input, or its result is the text of a finite number. What it does
otherwise is to crash, or to show an infinite one. -/
inductive Settles (mode : AngleMode) (places : Int) (input : String) : Prop where
  | rejected (cause : Expression.Error)
      (houtcome : evaluatePrimary mode places input = .ok (.rejected cause))
  | finite (text : String) (number : Binary64)
      (houtcome : evaluatePrimary mode places input = .ok (.success text false))
      (hread : Binary64.ofText? text.toList = some number) (hfinite : number.isFinite = true)

theorem settles_of_rejected {mode : AngleMode} {places : Int} {input : String}
    {cause : Expression.Error}
    (h : Expression.evaluate (.standard mode) (Expression.replaceSymbols input) = .error cause) :
    Settles mode places input := by
  refine .rejected cause ?_
  rw [evaluatePrimary, h]

theorem evaluatePrimary_of_unrounded {mode : AngleMode} {places : Int} {input : String}
    {value : Binary64} {cause : RoundingError}
    (h : Expression.evaluate (.standard mode) (Expression.replaceSymbols input) = .ok value)
    (hround : roundDecimal value places = .error cause) :
    evaluatePrimary mode places input = .error (.rounding cause) := by
  have hfinite := Expression.isFinite_of_evaluate h
  have hformat : formatResult value places = .error (.rounding cause) := by
    simp only [formatResult, hfinite, if_true, hround]
  rw [evaluatePrimary, h]
  simp only [hformat, Except.map]

/-- For an input with a value, everything depends on rounding it: the value is finite, and what is
shown is what it is rounded to. -/
theorem settles_iff_roundDecimal {mode : AngleMode} {places : Int} {input : String}
    {value : Binary64}
    (h : Expression.evaluate (.standard mode) (Expression.replaceSymbols input) = .ok value) :
    Settles mode places input ↔
      ∃ y, roundDecimal value places = .ok y ∧ y.isFinite = true := by
  have hfinite := Expression.isFinite_of_evaluate h
  cases hround : roundDecimal value places with
  | error cause =>
      have hfails := evaluatePrimary_of_unrounded h hround
      refine iff_of_false ?_ (by simp)
      intro hsettles
      cases hsettles with
      | rejected _ houtcome | finite _ _ houtcome =>
          rw [hfails] at houtcome
          cases houtcome
  | ok rounded =>
      have hshown := evaluatePrimary_of_value h (formatResult_of_rounded hfinite hround)
      have hread := ofText?_writeResult rounded
      have hsame := Binary64.isFinite_unsigned_zero rounded
      simp only [Except.ok.injEq, exists_eq_left']
      constructor
      · intro hsettles
        cases hsettles with
        | rejected _ houtcome =>
            rw [hshown] at houtcome
            cases houtcome
        | finite text number houtcome hnumber hrange =>
            rw [hshown] at houtcome
            cases houtcome
            rw [hread] at hnumber
            cases hnumber
            rwa [hsame] at hrange
      · intro hrange
        exact .finite _ _ hshown hread (by rwa [hsame])

theorem settles_iff_fits (mode : AngleMode) (places : Int) (input : String) :
    Settles mode places input ↔ ∀ negative units (h : Representable units),
      Expression.evaluate (.standard mode) (Expression.replaceSymbols input) =
        .ok (.finite negative units h) → Fits units places := by
  cases hvalue : Expression.evaluate (.standard mode) (Expression.replaceSymbols input) with
  | error cause => exact iff_of_true (settles_of_rejected hvalue) (by simp)
  | ok value =>
      have hfinite := Expression.isFinite_of_evaluate hvalue
      cases value with
      | nan | infinity negative => cases hfinite
      | finite negative units h =>
          rw [settles_iff_roundDecimal hvalue, roundDecimal_isFinite_iff]
          constructor
          · rintro hfits _ _ _ ⟨⟩
            exact hfits
          · intro hfits
            exact hfits negative units h rfl

def largestNumeral : String := "1.7976931348623157e308"

/-- The largest number can be typed. So decimal places that it does not fit are not settled for
every input. -/
theorem evaluate_largestNumeral (mode : AngleMode) :
    Expression.evaluate (.standard mode) (Expression.replaceSymbols largestNumeral) =
      .ok (.finite false largestUnits representable_largestUnits) := by
  cases mode <;> decide +kernel

/-- The first stage settles an input exactly when its value, if it has one, fits the places. It
settles every input for the places from -999999 to 91 apart from those to which the largest number
is rounded out of range, and for no others. -/
theorem evaluatePrimary_total_iff (places : Int) :
    (∀ mode input, Settles mode places input ↔ ∀ negative units (h : Representable units),
      Expression.evaluate (.standard mode) (Expression.replaceSymbols input) =
        .ok (.finite negative units h) → Fits units places) ∧
    ((∀ mode input, Settles mode places input) ↔
      -999999 ≤ places ∧ places ≤ 91 ∧ places ∉ overflowingPlaces) := by
  refine ⟨fun mode input => settles_iff_fits mode places input, ?_⟩
  rw [← fits_largestUnits_iff]
  constructor
  · intro hall
    have hlargest := (settles_iff_fits .radians places largestNumeral).mp (hall _ _)
    exact hlargest _ _ _ (evaluate_largestNumeral .radians)
  · intro hlargest mode input
    rw [settles_iff_fits]
    intro negative units h _
    exact hlargest.of_largest h

/-- Every integer is accepted as the number of decimal places, also those for which rounding is not
total. -/
theorem Settings.applyOverrides_resultDecimals (places : Int) (configuration : Configuration) :
    Settings.applyOverrides [("result_decimals", .integer places)] configuration =
      ({ configuration with
          settings := { configuration.settings with resultDecimals := places } }, none) := by
  rfl

/-- With 92 places, which are accepted, large numbers are refused; with -308, which are accepted
too, a large number is shown as an infinite one. -/
theorem accepted_places_not_total :
    (∃ configuration, Settings.applyOverrides [("result_decimals", .integer 92)] {} =
      (configuration, none) ∧ configuration.settings.resultDecimals = 92) ∧
    evaluatePrimary .radians 92 "1.7e308" = .error (.rounding .tooManyDigits) ∧
    (∃ configuration, Settings.applyOverrides [("result_decimals", .integer (-308))] {} =
      (configuration, none) ∧ configuration.settings.resultDecimals = -308) ∧
    evaluatePrimary .radians (-308) "1.7e308" = .ok (.success "inf" false) ∧
    ¬ Settles .radians 92 "1.7e308" ∧ ¬ Settles .radians (-308) "1.7e308" := by
  have hrefused : evaluatePrimary .radians 92 "1.7e308" = .error (.rounding .tooManyDigits) := by
    decide +kernel
  have hinfinite : evaluatePrimary .radians (-308) "1.7e308" = .ok (.success "inf" false) := by
    decide +kernel
  refine ⟨⟨_, Settings.applyOverrides_resultDecimals 92 {}, rfl⟩, hrefused,
    ⟨_, Settings.applyOverrides_resultDecimals (-308) {}, rfl⟩, hinfinite, ?_, ?_⟩
  · intro hsettles
    cases hsettles with
    | rejected _ houtcome | finite _ _ houtcome =>
        rw [hrefused] at houtcome
        cases houtcome
  · intro hsettles
    cases hsettles with
    | rejected _ houtcome =>
        rw [hinfinite] at houtcome
        cases houtcome
    | finite text number houtcome hread hfinite =>
        rw [hinfinite] at houtcome
        cases houtcome
        have hword : Binary64.ofText? "inf".toList = some (.infinity false) := by decide
        rw [hword] at hread
        cases hread
        cases hfinite

end Reckoner
