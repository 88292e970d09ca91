import Reckoner.Binary64.Text

/-!
Rounding to decimal places, and the text of a result. A number is rounded on its exact value, a half
going away from zero, and the rounded decimal is read back as binary64; the text then shows the
fewest digits that denote that number, so that no noise of binary fractions is seen.
-/

namespace Reckoner

inductive RoundingError where
  /-- The rounded decimal would need more digits than are worked with, or the number is infinite. -/
  | tooManyDigits
  /-- The unit to round to is itself out of reach. -/
  | unitTooLarge
deriving DecidableEq, Repr

def RoundingError.message : RoundingError → String
  | tooManyDigits => "The rounded number has too many digits"
  | unitTooLarge => "The unit to round to is too large"

namespace Rounding

def digitLimit : Nat := 400

def largestUnit : Int := 999999

/-- No number of places beyond this is accepted in either direction. It is checked before the number
is looked at, so not even zero is rounded to more. -/
def placesLimit : Int := 2000054

/-- The quotient rounded to the nearest natural number, a half going up. Of a magnitude that is away
from zero, whatever the sign of the number. -/
def nearestUp (num den : Nat) : Nat := (2 * num + den) / (2 * den)

/-- The coefficient of the magnitude of `units` steps, rounded to the given decimal places. Only one
of the two powers of ten is above one, so both signs of `places` are covered. -/
def coefficient (units : Nat) (places : Int) : Nat :=
  nearestUp (units * Nat.pow 10 places.toNat)
    (Binary64.unitsPerOne * Nat.pow 10 (-places).toNat)

end Rounding

open Rounding in
/-- A number rounded to decimal places. Negative places round to tens, hundreds and so on; what
rounds past the largest finite number becomes infinite. -/
def roundDecimal (x : Binary64) (places : Int) : Except RoundingError Binary64 :=
  if placesLimit < places.natAbs then .error .tooManyDigits
  else if largestUnit < -places then .error .unitTooLarge
  else
    match x with
    | .nan => .ok .nan
    | .infinity _ => .error .tooManyDigits
    | .finite negative units _ =>
      if units = 0 then .ok (.zero negative)
      else if (digitLimit : Int) < Binary64.magnitude units + places then .error .tooManyDigits
      else if places < -(digitLimit : Int) then .ok (.zero negative)
      else .ok (.ofDecimal negative ⟨coefficient units places, -places⟩)

inductive FormatError where
  | notFinite (value : Binary64)
  | rounding (cause : RoundingError)
deriving DecidableEq

def FormatError.message : FormatError → String
  | notFinite value => "Cannot format non-finite value: " ++ value.text
  | rounding cause => cause.message

/-- The magnitude from which results are written with an exponent. Below it a result has at most
twenty-one digits before the point and is written in full. -/
def exponentThreshold : Binary64 := .ofDecimal false ⟨1, 21⟩

def writeResult (x : Binary64) : String :=
  if x.isZero then "0"
  else if exponentThreshold ≤ x.abs then x.text
  else x.write .display

def formatResult (x : Binary64) (places : Int) : Except FormatError String :=
  if x.isFinite then
    match roundDecimal x places with
    | .ok rounded => .ok (writeResult rounded)
    | .error cause => .error (.rounding cause)
  else .error (.notFinite x)

end Reckoner
