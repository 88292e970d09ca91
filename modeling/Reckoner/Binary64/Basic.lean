/-!
Binary64 numbers as exact values. A finite number is a sign and a count of the smallest positive
step, `2 ^ -1074`; the counts that occur are those with at most 53 significant bits, and that bound
is part of the type. Every operation can therefore be stated in natural numbers: compute exactly,
then round once. The main statement is `roundQuotient_units`: rounding a quotient of counts to 53
significant bits, half to even, always lands on a representable count or past the largest one.
-/

namespace Reckoner

/-- The quotient `num / den` rounded to the nearest natural number, a half going to the even one.
Everything that is rounded to significant bits is rounded by it. -/
def nearestEven (num den : Nat) : Nat :=
  let q := num / den
  let r := num % den
  if 2 * r < den then q else if den < 2 * r then q + 1 else q + q % 2

theorem nearestEven_le_succ (num den : Nat) : nearestEven num den ≤ num / den + 1 := by
  simp only [nearestEven]
  split
  · omega
  · split <;> omega

/-- The spacing of binary64 counts around `units`: one step up to `2 ^ 53`, and from there on the
power of two that leaves 53 significant bits. -/
def spacing (units : Nat) : Nat := Nat.pow 2 (units.log2 - 52)

theorem power_pos (n : Nat) : 0 < Nat.pow 2 n := Nat.two_pow_pos n

theorem spacing_pos (units : Nat) : 0 < spacing units := power_pos _

/-- The first count that lies past every finite number. Counts from here on stand for infinities, so
that overflow can be seen after a result was rounded. -/
def pastLargest : Nat := Nat.pow 2 2098

/-- A count of steps that a finite number can have: below the first one past all of them, and with
no more bits than a significand holds. -/
def Representable (units : Nat) : Prop := units < pastLargest ∧ spacing units ∣ units

instance (units : Nat) : Decidable (Representable units) :=
  inferInstanceAs (Decidable (_ ∧ _))

theorem representable_zero : Representable 0 :=
  ⟨by decide +kernel, Nat.dvd_zero _⟩

theorem lt_spacing_mul (units : Nat) : units < Nat.pow 2 53 * spacing units := by
  have h : units < Nat.pow 2 (units.log2 + 1) := Nat.lt_log2_self
  refine Nat.lt_of_lt_of_le h ?_
  simp only [spacing, Nat.pow_eq]
  rw [← Nat.pow_add]
  exact Nat.pow_le_pow_right (by decide) (by omega)

/-- A multiple of a power of two by at most `2 ^ 53` sits on the spacing around itself. The bound
itself is included, since rounding up may lead to it. -/
theorem spacing_dvd_mul_pow {m : Nat} (e : Nat) (h : m ≤ Nat.pow 2 53) :
    spacing (m * Nat.pow 2 e) ∣ m * Nat.pow 2 e := by
  simp only [Nat.pow_eq] at h ⊢
  by_cases hm : m = 0
  · subst hm; simp
  by_cases heq : m = 2 ^ 53
  · subst heq
    simp only [spacing, Nat.pow_eq]
    rw [← Nat.pow_add, Nat.log2_two_pow]
    exact Nat.pow_dvd_pow 2 (by omega)
  · have hlt : m < 2 ^ 53 := by omega
    have hne : m * 2 ^ e ≠ 0 := Nat.mul_ne_zero hm (Nat.ne_of_gt (Nat.two_pow_pos e))
    have hbound : m * 2 ^ e < 2 ^ (53 + e) := by
      rw [Nat.pow_add]
      exact Nat.mul_lt_mul_of_pos_right hlt (Nat.two_pow_pos e)
    have hlog : (m * 2 ^ e).log2 < 53 + e := (Nat.log2_lt hne).2 hbound
    exact Nat.dvd_trans (Nat.pow_dvd_pow 2 (by omega)) (Nat.dvd_mul_left _ _)

/-- The quotient `num / den` rounded to 53 significant bits, a half going to the even one. The
spacing is that around the whole part, which rounding changes at most to the next power of two. -/
def roundUnits (num den : Nat) : Nat :=
  let step := spacing (num / den)
  nearestEven num (den * step) * step

/-- Rounding always lands on the spacing around its result. Where it has led up to a power of two
the spacing there is wider, and the result is a multiple of that as well. -/
theorem spacing_dvd_roundUnits (num den : Nat) :
    spacing (roundUnits num den) ∣ roundUnits num den := by
  have hq : num / (den * spacing (num / den)) < Nat.pow 2 53 := by
    rw [← Nat.div_div_eq_div_mul]
    exact Nat.div_lt_of_lt_mul (by rw [Nat.mul_comm]; exact lt_spacing_mul _)
  have hle := nearestEven_le_succ num (den * spacing (num / den))
  exact spacing_dvd_mul_pow _ (by omega)

/-- A number of the binary64 format: not a number, an infinity, or a signed count of steps of
`2 ^ -1074`. The two zeros are different values. -/
inductive Binary64 where
  | nan
  | infinity (negative : Bool)
  | finite (negative : Bool) (units : Nat) (representable : Representable units)
deriving DecidableEq

namespace Binary64

/-- The quotient of two counts, rounded to the nearest number of the format; what would need more
than the largest finite number is infinite. -/
def roundQuotient (negative : Bool) (num den : Nat) : Binary64 :=
  if h : roundUnits num den < pastLargest then
    .finite negative (roundUnits num den) ⟨h, spacing_dvd_roundUnits num den⟩
  else
    .infinity negative

theorem roundQuotient_units {negative : Bool} {num den : Nat}
    (h : roundUnits num den < pastLargest) :
    roundQuotient negative num den =
      .finite negative (roundUnits num den) ⟨h, spacing_dvd_roundUnits num den⟩ := by
  simp [roundQuotient, h]

def zero (negative : Bool) : Binary64 := .finite negative 0 representable_zero

instance : Inhabited Binary64 := ⟨zero false⟩

/-- Number of steps in one. Counts are turned into values by it and values into counts, and it is
what a product of counts has to be divided by. -/
def unitsPerOne : Nat := Nat.pow 2 1074

def ofNat (n : Nat) : Binary64 := roundQuotient false (n * unitsPerOne) 1

instance (n : Nat) : OfNat Binary64 n := ⟨ofNat n⟩

def isNaN : Binary64 → Bool
  | .nan => true
  | _ => false

def isFinite : Binary64 → Bool
  | .finite .. => true
  | _ => false

def isInfinite : Binary64 → Bool
  | .infinity _ => true
  | _ => false

/-- The sign. What is not a number counts as positive, as no text and no encoding of it shows a sign
here. -/
def isNegative : Binary64 → Bool
  | .nan => false
  | .infinity negative => negative
  | .finite negative _ _ => negative

/-- Both zeros, and nothing else. -/
def isZero : Binary64 → Bool
  | .finite _ 0 _ => true
  | _ => false

def neg : Binary64 → Binary64
  | .nan => .nan
  | .infinity negative => .infinity !negative
  | .finite negative units h => .finite (!negative) units h

instance : Neg Binary64 := ⟨neg⟩

def abs : Binary64 → Binary64
  | .nan => .nan
  | .infinity _ => .infinity false
  | .finite _ units h => .finite false units h

def withSign (negative : Bool) (x : Binary64) : Binary64 := if negative then -x.abs else x.abs

/-- The place of a number on the line of counts, with the infinities at the first point past the
finite numbers. Both zeros are at the origin; what is not a number has no place. -/
def place? : Binary64 → Option Int
  | .nan => none
  | .infinity false => some pastLargest
  | .infinity true => some (-pastLargest)
  | .finite false units _ => some units
  | .finite true units _ => some (-units)

/-- Equality of places, which is not equality of what is there: the two zeros are equal, and what is
not a number equals nothing, not even itself. -/
def same (x y : Binary64) : Bool :=
  match x.place?, y.place? with
  | some a, some b => decide (a = b)
  | _, _ => false

/-- Order of places. What is not a number is neither below nor above anything, so that no comparison
with it holds. -/
def less (x y : Binary64) : Bool :=
  match x.place?, y.place? with
  | some a, some b => decide (a < b)
  | _, _ => false

def atMost (x y : Binary64) : Bool :=
  match x.place?, y.place? with
  | some a, some b => decide (a ≤ b)
  | _, _ => false

instance : LT Binary64 := ⟨fun x y => x.less y = true⟩
instance : LE Binary64 := ⟨fun x y => x.atMost y = true⟩

instance (x y : Binary64) : Decidable (x < y) := inferInstanceAs (Decidable (_ = true))
instance (x y : Binary64) : Decidable (x ≤ y) := inferInstanceAs (Decidable (_ = true))

/-- The whole number that a finite number without fraction denotes. It is exact at any size, since a
count says how many steps there are and not which bits. -/
def toInt? : Binary64 → Option Int
  | .finite negative units _ =>
    if units % unitsPerOne = 0 then
      let n : Int := (units / unitsPerOne : Nat)
      some (if negative then -n else n)
    else none
  | _ => none

end Binary64

end Reckoner
