import Reckoner.Proofs.Rounding

/-!
Rounding to decimal places respects the order of numbers and their signs. It consists of two
roundings, to a decimal and back to binary64, and each of them is monotone: of two counts that are
nearest to two quotients, the one for the larger quotient cannot be the smaller one.
-/

namespace Reckoner

/-- A larger quotient is not rounded to a smaller count. If it were, each quotient would be as near
to the count of the other as to its own, and the two would be equal. -/
theorem roundUnits_mono {num num' den : Nat} (hden : 0 < den) (h : num ≤ num') :
    roundUnits num den ≤ roundUnits num' den := by
  apply Nat.le_of_not_lt
  intro hless
  have hapart : roundUnits num' den * den < roundUnits num den * den :=
    Nat.mul_lt_mul_of_pos_right hless hden
  have hnear := roundUnits_nearest num hden (spacing_dvd_roundUnits num' den)
  have hnear' := roundUnits_nearest num' hden (spacing_dvd_roundUnits num den)
  -- both quotients would have to lie half way between the two counts
  have hsame : num = num' := by
    unfold Nat.dist at hnear hnear'
    omega
  rw [hsame] at hless
  exact Nat.lt_irrefl _ hless

namespace Rounding

open Binary64

theorem nearestUp_mono {num num' : Nat} (den : Nat) (h : num ≤ num') :
    nearestUp num den ≤ nearestUp num' den :=
  Nat.div_le_div_right (by omega)

theorem coefficient_mono {units units' : Nat} (places : Int) (h : units ≤ units') :
    coefficient units places ≤ coefficient units' places :=
  nearestUp_mono _ (Nat.mul_le_mul_right _ h)

theorem rereading_mono {units units' : Nat} (places : Int) (h : units ≤ units') :
    rereading units places ≤ rereading units' places :=
  roundUnits_mono (ten_pow_pos _) (Nat.mul_le_mul_right _ (coefficient_mono places h))

theorem rereading_zero (places : Int) : rereading 0 places = 0 :=
  rereading_of_coefficient (coefficient_zero places)

end Rounding

open Rounding

namespace Binary64

/-- The place of a signed count. Both zeros have the same place, so the order of places does not
tell them apart. -/
def signedPlace (negative : Bool) (units : Nat) : Int := if negative then -units else units

theorem finite_le_finite_iff {s t : Bool} {a b : Nat} (ha : Representable a)
    (hb : Representable b) :
    Binary64.finite s a ha ≤ Binary64.finite t b hb ↔ signedPlace s a ≤ signedPlace t b := by
  change (Binary64.finite s a ha).atMost (.finite t b hb) = true ↔ _
  cases s <;> cases t <;> simp [atMost, place?, signedPlace]

/-- A monotone function of counts that keeps zero is monotone on both sides of it. Rounding acts on
magnitudes only, and this carries its order over to signed numbers. -/
theorem signedPlace_mono {f : Nat → Nat} (hmono : ∀ {a b : Nat}, a ≤ b → f a ≤ f b)
    (hzero : f 0 = 0) {s t : Bool} {a b : Nat} (h : signedPlace s a ≤ signedPlace t b) :
    signedPlace s (f a) ≤ signedPlace t (f b) := by
  cases s with
  | false =>
      cases t with
      | false =>
          have := hmono (a := a) (b := b) (by simpa [signedPlace] using h)
          simpa [signedPlace] using this
      | true =>
          have hboth : a = 0 ∧ b = 0 := by
            simp only [signedPlace, if_true, Bool.false_eq_true, if_false] at h
            omega
          obtain ⟨rfl, rfl⟩ := hboth
          simp [signedPlace, hzero]
  | true =>
      cases t with
      | false =>
          simp only [signedPlace, if_true, Bool.false_eq_true, if_false]
          omega
      | true =>
          have := hmono (a := b) (b := a) (by simpa [signedPlace] using h)
          simpa [signedPlace] using this

end Binary64

open Binary64

/-- Rounding to decimal places keeps the order of finite numbers, and the rounding of the opposite
of a number is the opposite of its rounding, for the zeros as well. -/
theorem roundDecimal_monotone_odd {x y : Binary64} (hx : x.isFinite = true)
    (hy : y.isFinite = true) {places : Int} (hlow : 0 ≤ places) (hhigh : places ≤ 91) :
    ∃ roundedX roundedY, roundDecimal x places = .ok roundedX ∧
      roundDecimal y places = .ok roundedY ∧ (x ≤ y → roundedX ≤ roundedY) ∧
      roundDecimal (-x) places = .ok (-roundedX) := by
  cases x with
  | nan | infinity => cases hx
  | finite s a ha =>
      cases y with
      | nan | infinity => cases hy
      | finite t b hb =>
          refine ⟨_, _, roundDecimal_of_finite ha hlow hhigh s,
            roundDecimal_of_finite hb hlow hhigh t, ?_, roundDecimal_of_finite ha hlow hhigh (!s)⟩
          rw [finite_le_finite_iff, finite_le_finite_iff]
          exact signedPlace_mono (rereading_mono places) (rereading_zero places)

/-- Halves on both sides of zero go away from it, and stay in order: minus two and a half to minus
three, and a half to one. -/
theorem halves_monotone_odd :
    (.ofDecimal true ⟨25, -1⟩ : Binary64).isFinite = true ∧
      (.ofDecimal false ⟨5, -1⟩ : Binary64).isFinite = true ∧ (0 : Int) ≤ 0 ∧ (0 : Int) ≤ 91 ∧
      ∃ roundedX roundedY, roundDecimal (.ofDecimal true ⟨25, -1⟩) 0 = .ok roundedX ∧
        roundDecimal (.ofDecimal false ⟨5, -1⟩) 0 = .ok roundedY ∧
        ((.ofDecimal true ⟨25, -1⟩ : Binary64) ≤ .ofDecimal false ⟨5, -1⟩ →
          roundedX ≤ roundedY) ∧
        roundDecimal (-.ofDecimal true ⟨25, -1⟩) 0 = .ok (-roundedX) := by
  have hx : (.ofDecimal true ⟨25, -1⟩ : Binary64).isFinite = true := by decide +kernel
  have hy : (.ofDecimal false ⟨5, -1⟩ : Binary64).isFinite = true := by decide +kernel
  have hlow : (0 : Int) ≤ 0 := by decide
  have hhigh : (0 : Int) ≤ 91 := by decide
  exact ⟨hx, hy, hlow, hhigh, roundDecimal_monotone_odd hx hy hlow hhigh⟩

end Reckoner
