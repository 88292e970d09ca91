import Reckoner.Binary64.Basic

/-!
Decimal numbers and binary64: reading rounds an exact decimal once, and writing picks the fewest
digits that read back. `shortest` tries one digit, two, up to seventeen; on each grid only the two
neighbours of the number can read back, because if any point of the grid does, so does one of them.
-/

namespace Reckoner

/-- A decimal number without sign: `coefficient * 10 ^ exponent`. Decimals of one value may differ
in the zeros that end the coefficient. -/
structure Decimal where
  coefficient : Nat
  exponent : Int
deriving DecidableEq, Repr

namespace Decimal

/-- The digits of the coefficient. Zero has one digit, so that there is always something to
write. -/
def digits (d : Decimal) : List Char := Nat.toDigits 10 d.coefficient

def leading (d : Decimal) : Int := d.digits.length + d.exponent - 1

/-- The same number without the zeros that end its coefficient, as far as `fuel` zeros. A
coefficient has no more zeros than digits, so a fuel of that many removes them all. -/
def trimmed : Nat → Decimal → Decimal
  | 0, d => d
  | fuel + 1, d =>
    if d.coefficient ≠ 0 ∧ d.coefficient % 10 = 0 then
      trimmed fuel ⟨d.coefficient / 10, d.exponent + 1⟩
    else d

def ratio (d : Decimal) : Nat × Nat :=
  if 0 ≤ d.exponent then (d.coefficient * Nat.pow 10 d.exponent.toNat, 1)
  else (d.coefficient, Nat.pow 10 (-d.exponent).toNat)

end Decimal

namespace Binary64

/-- The number nearest to a decimal. A decimal above `10 ^ 400` is infinite and one below
`10 ^ (-400)` is zero without the powers of ten being formed: the largest finite number has 309
digits, and half the smallest step is above `10 ^ (-324)`. -/
def ofDecimal (negative : Bool) (d : Decimal) : Binary64 :=
  if d.coefficient = 0 then zero negative
  else if 400 < d.exponent then .infinity negative
  else if d.exponent < -(d.coefficient.log2 + 400 : Nat) then zero negative
  else
    let (num, den) := d.ratio
    roundQuotient negative (num * unitsPerOne) den

/-- Does a decimal, with twice its value as the quotient `2 * point / scale` of counts, read back as
the number of `units` steps? The numbers that do form an interval that reaches half way to the
neighbours on both sides; its ends belong to it when the significand is even. -/
def readsBack (units point scale : Nat) : Bool :=
  let above := spacing units
  let below := if units = Nat.pow 2 units.log2 ∧ Nat.pow 2 53 ≤ units then above / 2 else above
  let even := (units / above) % 2 = 0
  let low := (2 * units - below) * scale
  let high := (2 * units + above) * scale
  if even then decide (low ≤ 2 * point) && decide (2 * point ≤ high)
  else decide (low < 2 * point) && decide (2 * point < high)

/-- The number of digits before the point of `units` steps, negative when zeros follow the point.
Magnifying by `10 ^ 400` brings even the smallest step before the point, so digits can be
counted. -/
def magnitude (units : Nat) : Int :=
  (Nat.toDigits 10 (units * Nat.pow 10 400 / unitsPerOne)).length - 400

/-- The decimal of `count` digits next to `units` steps that reads back, if there is one: the
nearer of the two neighbours on the grid, and on a tie the one with the even coefficient. -/
def shortestOn (units count : Nat) : Option Decimal :=
  let exponent := magnitude units - count
  -- one step of the grid is `step / scale` counts
  let step := unitsPerOne * Nat.pow 10 exponent.toNat
  let scale := Nat.pow 10 (-exponent).toNat
  let lower := units * scale / step
  let upper := lower + 1
  let lowerHits := readsBack units (lower * step) scale
  let upperHits := readsBack units (upper * step) scale
  if lowerHits && upperHits then
    some ⟨nearestEven (units * scale) step, exponent⟩
  else if lowerHits then some ⟨lower, exponent⟩
  else if upperHits then some ⟨upper, exponent⟩
  else none

/-- The first grid of `count` or more digits with a decimal that reads back; seventeen digits
always suffice. -/
def shortestFrom (units : Nat) : Nat → Nat → Decimal
  | 0, _ => ⟨units, 0⟩
  | fuel + 1, count =>
    match shortestOn units count with
    | some d => d.trimmed count
    | none => shortestFrom units fuel (count + 1)

/-- The decimal with the fewest digits that reads back as `units` steps, the nearest of them. Grids
are tried from the coarsest on, and the one with seventeen digits always has such a decimal. -/
def shortest (units : Nat) : Decimal :=
  if units = 0 then ⟨0, 0⟩ else shortestFrom units 17 1

end Binary64

end Reckoner
