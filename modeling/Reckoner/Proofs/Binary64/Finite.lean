import Reckoner.Binary64.Elementary

/-!
Which operations keep infinities and what is not a number. Sums, differences and products are finite
only if both operands are; a finite quotient may have an infinite divisor, and the powers that are
finite although base or exponent is not are listed by `Flattens`.
-/

namespace Reckoner.Binary64

@[simp] theorem isFinite_nan : nan.isFinite = false := rfl

@[simp] theorem isFinite_infinity (negative : Bool) : (infinity negative).isFinite = false := rfl

@[simp] theorem isFinite_zero (negative : Bool) : (zero negative).isFinite = true := rfl

@[simp] theorem isFinite_one : (1 : Binary64).isFinite = true := by decide +kernel

@[simp] theorem isFinite_neg (x : Binary64) : (-x).isFinite = x.isFinite := by
  cases x <;> rfl

/-- A zero without its sign is as finite as with it. Results lose that sign before they are written,
and this says that nothing else is lost with it. -/
theorem isFinite_unsigned_zero (x : Binary64) :
    (if x.isZero then zero false else x).isFinite = x.isFinite := by
  split
  · rename_i hzero
    cases x with
    | nan | infinity negative => cases hzero
    | finite negative units hunits => rfl
  · rfl

theorem isFinite_of_add {x y : Binary64} (h : (x + y).isFinite = true) :
    x.isFinite = true ∧ y.isFinite = true := by
  change (x.add y).isFinite = true at h
  cases x with
  | nan => cases y <;> cases h
  | infinity s =>
      cases y with
      | nan | finite => cases h
      | infinity t => cases s <;> cases t <;> cases h
  | finite =>
      cases y with
      | nan | infinity => cases h
      | finite => exact ⟨rfl, rfl⟩

theorem isFinite_of_sub {x y : Binary64} (h : (x - y).isFinite = true) :
    x.isFinite = true ∧ y.isFinite = true := by
  have hsum : (x + -y).isFinite = true := h
  rw [← isFinite_neg y]
  exact isFinite_of_add hsum

theorem isFinite_of_mul {x y : Binary64} (h : (x * y).isFinite = true) :
    x.isFinite = true ∧ y.isFinite = true := by
  change (x.mul y).isFinite = true at h
  cases x with
  | nan => cases y <;> cases h
  | infinity s =>
      cases y with
      | nan | infinity => cases h
      | finite =>
          simp only [mul] at h
          split at h <;> cases h
  | finite =>
      cases y with
      | nan => cases h
      | infinity t =>
          simp only [mul] at h
          split at h <;> cases h
      | finite => exact ⟨rfl, rfl⟩

/-- A finite quotient has a finite dividend. Its divisor is a number but may be infinite, and here
an overflow in the divisor goes unnoticed. -/
theorem isFinite_of_div {x y : Binary64} (h : (x / y).isFinite = true) :
    x.isFinite = true ∧ (y.isFinite = true ∨ ∃ negative, y = .infinity negative) := by
  change (x.div y).isFinite = true at h
  cases x with
  | nan | infinity => cases y <;> cases h
  | finite =>
      cases y with
      | nan => cases h
      | infinity negative => exact ⟨rfl, Or.inr ⟨negative, rfl⟩⟩
      | finite => exact ⟨rfl, Or.inl rfl⟩

theorem isFinite_withSign (negative : Bool) (x : Binary64) :
    (x.withSign negative).isFinite = x.isFinite := by
  cases negative <;> cases x <;> rfl

/-- Base and exponent, not both finite, of a power that is finite nevertheless. What is not a number
has such powers to the exponent zero only, and is such an exponent of one only. An infinity has them
to the exponents from zero down. A finite base has them to an infinite exponent if its magnitude is
one, below one and the exponent positive, or above one and the exponent negative. -/
def Flattens : Binary64 → Binary64 → Prop
  | .nan, y => y.isZero = true
  | x, .nan => x.same 1 = true
  | .infinity _, y => y.isZero = true ∨ y.isNegative = true
  | .finite s units h, .infinity t =>
    (finite s units h).abs.same 1 = true ∨ (finite s units h).abs.less 1 ≠ t
  | .finite .., .finite .. => False

theorem Flattens.not_finite {x y : Binary64} (h : Flattens x y) :
    x.isFinite = false ∨ y.isFinite = false := by
  cases x with
  | nan | infinity => exact Or.inl rfl
  | finite =>
      cases y with
      | nan | infinity => exact Or.inr rfl
      | finite => cases h

/-- Of the powers of numbers that are not both finite exactly the listed ones are finite. These are
the ways in which a power hides that one of its operands overflowed. The cases are those of the
definition, each operand by its kind. -/
theorem specialPow_isFinite_iff {x y : Binary64} (h : (x.isFinite && y.isFinite) = false) :
    (specialPow x y).isFinite = true ↔ Flattens x y := by
  unfold Flattens
  cases x with
  | nan =>
      simp only [specialPow, isNaN, if_true]
      split <;> simp [*]
  | infinity s =>
      cases y with
      | nan =>
          simp only [specialPow, isNaN, Bool.false_eq_true, if_false, if_true]
          split <;> simp [*]
      | infinity t | finite t units =>
          simp only [specialPow, isNaN, isInfinite, Bool.false_eq_true, if_false, if_true]
          split
          · simp [*]
          · rw [isFinite_withSign]
            split <;> simp [*]
  | finite s units hunits =>
      cases y with
      | nan =>
          simp only [specialPow, isNaN, Bool.false_eq_true, if_false, if_true]
          split <;> simp [*]
      | infinity t =>
          simp only [specialPow, isNaN, isInfinite, isNegative, Bool.false_eq_true, if_false]
          split
          · simp [*]
          · by_cases hside : (finite s units hunits).abs.less 1 = t <;> simp [*]
      | finite => cases h

/-- The power zero of what is not finite is one. It needs no knowledge of the base, not even whether
that is a number. -/
theorem pow_zero_of_not_finite {x : Binary64} (h : x.isFinite = false) : x.pow 0 = .ok 1 := by
  have hpower : specialPow x 0 = 1 := by
    cases x with
    | nan => decide +kernel
    | infinity negative => cases negative <;> decide +kernel
    | finite => cases h
  simp only [pow, h, Bool.false_and, Bool.false_eq_true, if_false, hpower]

/-- What is not a number has a logarithm, whatever the platform makes of it: only an argument that
is a number can be outside the domain. -/
theorem exists_log_nan : ∃ x, log .nan = .ok x := by
  simp [log, checked, isNaN]

end Reckoner.Binary64
