import Reckoner.Binary64.Decimal
import Reckoner.Binary64.Elementary

/-!
The gamma function between the integers, by the approximation of Lanczos with thirteen terms. The
order of the operations is part of the definition: every one of them rounds.
-/

namespace Reckoner.Binary64

/-- The number nearest to `coefficient / 10 ^ places`. The constants of the approximation are given
as decimals and are rounded to numbers like any other decimal. -/
def ofPlaces (coefficient places : Nat) : Binary64 := ofDecimal false ⟨coefficient, -(places : Int)⟩

/-- The number nearest to the ratio of a circle's circumference to its diameter. Fifteen places are
enough to single it out among the numbers. -/
def pi : Binary64 := ofPlaces 3141592653589793 15

def e : Binary64 := ofPlaces 2718281828459045 15

def half : Binary64 := ofPlaces 5 1

def lanczosShift : Binary64 := ofPlaces 6024680040776729583740234375 27

def lanczosShiftLessHalf : Binary64 := ofPlaces 5524680040776729583740234375 27

/-- The coefficients of the sum's numerator, from the constant term up. They are given with more
digits than a number holds, and each is rounded once. -/
def lanczosNumerator : List Binary64 := [
  ofPlaces 23531376880410759688572007674451636754734846804940 39,
  ofPlaces 42919803642649098768957899047001988850926355848959 39,
  ofPlaces 35711959237355668049440185451547166705960488635843 39,
  ofPlaces 17921034426037209699919755754458931112671403265390 39,
  ofPlaces 60395425863520280050642916443072979210699388420708 40,
  ofPlaces 14397204073117216736632230727949123939715485786372 40,
  ofPlaces 24887455786205415651146038641322942321632125127801 41,
  ofPlaces 31426415585400194380614231628318205362874684987640 42,
  ofPlaces 28763706289353724412254090516208496135991145378768 43,
  ofPlaces 18605626539522349504029498971604569928220784236328 44,
  ofPlaces 80716720023658162106380029022722506138218516325024 46,
  ofPlaces 21082427775157934587250973392071336271166969580291 47,
  ofPlaces 25066282746310002701649081771338373386264310793408 49]

/-- The coefficients of the sum's denominator, from the constant term up: those of the product
`x (x + 1) ⋯ (x + 11)`. -/
def lanczosDenominator : List Binary64 :=
  [0, 39916800, 120543840, 150917976, 105258076, 45995730, 13339535, 2637558, 357423, 32670, 1925,
    66, 1]

/-- The rational function of the approximation at a positive number. From five on both polynomials
are taken in the inverse of the argument, so that neither overflows. -/
def lanczosSum (x : Binary64) : Binary64 :=
  let rising (coefficients : List Binary64) := coefficients.foldr (fun c sum => sum * x + c) 0
  let falling (coefficients : List Binary64) := coefficients.foldl (fun sum c => sum / x + c) 0
  if x < 5 then rising lanczosNumerator / rising lanczosDenominator
  else falling lanczosNumerator / falling lanczosDenominator

/-- The remainder of a positive finite number on division by two. Two is a count of steps, so the
remainder of the counts is exact; the sine of half turns has that period. -/
def remainderByTwo (x : Binary64) : Binary64 :=
  match x with
  | .finite _ units _ => roundQuotient false (units % (2 * unitsPerOne)) 1
  | _ => .nan

/-- The whole number nearest to a number from zero on, a half going up. It says in which quarter of
the circle a sine is computed. -/
def nearestWhole (x : Binary64) : Nat :=
  match x with
  | .finite _ units _ => (2 * units + unitsPerOne) / (2 * unitsPerOne)
  | _ => 0

/-- The sine of half turns: the argument is brought to the quarter turn around the nearest multiple
of a half, where the sine or cosine of a small angle is exact enough. -/
def sinHalfTurns (x : Binary64) : Binary64 :=
  let y := remainderByTwo x.abs
  let value := match nearestWhole (2 * y) with
    | 0 => platform Float.sin (pi * y)
    | 1 => platform Float.cos (pi * (y - half))
    | 2 => platform Float.sin (pi * (1 - y))
    | 3 => -platform Float.cos (pi * (y - (1 + half)))
    | _ => platform Float.sin (pi * (y - 2))
  if x.isNegative then -1 * value else 1 * value

/-- The approximation at a number that is no integer and between `-200` and `200`. The power is
taken in two halves where it would overflow alone. -/
def lanczosGamma (x : Binary64) : Binary64 :=
  let size := x.abs
  let y := size + lanczosShiftLessHalf
  let lost :=
    if lanczosShiftLessHalf < size then (y - size) - lanczosShiftLessHalf
    else (y - lanczosShiftLessHalf) - size
  let z := lost * lanczosShift / y
  let power (base exponent : Binary64) := ofFloat (Float.pow base.toFloat exponent.toFloat)
  let exponential := platform Float.exp
  let small : Bool := size < 140
  let root := power y (size / 2 - ofPlaces 25 2)
  if x.isNegative then
    let r := -pi / sinHalfTurns size / size * exponential y / lanczosSum size
    let r := r - z * r
    if small then r / power y (size - half) else r / root / root
  else
    let r := lanczosSum size / exponential y
    let r := r + z * r
    if small then r * power y (size - half) else r * root * root

def productUpTo : Nat → Nat
  | 0 => 1
  | n + 1 => (n + 1) * productUpTo n

/-- The gamma function. Zero and the negative integers are poles, outside the domain; positive
integers up to 23 have exact values; below `-200` the value is a zero of alternating sign. -/
def gamma (x : Binary64) : Except MathError Binary64 :=
  match x with
  | .nan => .ok .nan
  | .infinity false => .ok (.infinity false)
  | .infinity true => .error .domain
  | .finite .. =>
    match x.toInt? with
    | some (n : Int) =>
      if n ≤ 0 then .error .domain
      else if n ≤ 23 then .ok (ofNat (productUpTo (n.toNat - 1)))
      else between x
    | none => between x
where
  /-- The value away from the poles. -/
  between (x : Binary64) : Except MathError Binary64 :=
    let value :=
      if x.abs < ofPlaces 1 20 then 1 / x
      else if (200 : Binary64) < x.abs then
        (if x.isNegative then zero false / sinHalfTurns x else .infinity false)
      else lanczosGamma x
    if value.isInfinite then .error .range else .ok value

end Reckoner.Binary64
