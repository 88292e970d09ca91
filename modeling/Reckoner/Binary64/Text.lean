import Reckoner.Binary64.Decimal

/-!
How numbers are written. A layout says which decimals are written positionally and what follows a
whole number; the digits are always the shortest that read back. Two layouts are in use: numbers
inside messages and data are written by `Layout.plain`, and results by `Layout.display`.
-/

namespace Reckoner

structure Layout where
  /-- The least exponent of a leading digit that is written positionally, if there is a least. -/
  lowest : Option Int
  /-- The greatest exponent of a leading digit that is written positionally, if there is one. -/
  highest : Option Int
  /-- What follows the digits of a whole number in positional form. -/
  wholeEnding : List Char

namespace Layout

/-- Positional from `0.0001` to below `10 ^ 16`, and a whole number ends in `.0`. This is how a
number is written as such, whatever it is the result of. -/
def plain : Layout := ⟨some (-4), some 15, ['.', '0']⟩

/-- Positional throughout, and a whole number ends in its last digit. Results are displayed in this
way as long as they are not too large. -/
def display : Layout := ⟨none, none, []⟩

def isPositional (layout : Layout) (leading : Int) : Bool :=
  layout.lowest.all (fun low => decide (low ≤ leading)) &&
    layout.highest.all (fun high => decide (leading ≤ high))

def positional (layout : Layout) (d : Decimal) : List Char :=
  let digits := d.digits
  if 0 ≤ d.exponent then
    digits ++ List.replicate d.exponent.toNat '0' ++ layout.wholeEnding
  else
    let places := (-d.exponent).toNat
    if places < digits.length then
      digits.take (digits.length - places) ++ '.' :: digits.drop (digits.length - places)
    else
      '0' :: '.' :: (List.replicate (places - digits.length) '0' ++ digits)

/-- The exponent of a scientific form: a sign and at least two digits. The sign is there for
positive exponents as well, and only a single digit gets a zero before it. -/
def exponentText (leading : Int) : List Char :=
  let digits := Nat.toDigits 10 leading.natAbs
  (if leading < 0 then '-' else '+') :: (if digits.length < 2 then '0' :: digits else digits)

/-- The scientific form of a decimal: one digit, the others after a point, and the exponent. With a
single digit there is no point. -/
def scientific (d : Decimal) : List Char :=
  let mantissa := match d.digits with
    | first :: [] => [first]
    | first :: rest => first :: '.' :: rest
    | [] => []
  mantissa ++ 'e' :: exponentText d.leading

def write (layout : Layout) (d : Decimal) : List Char :=
  if d.coefficient = 0 then '0' :: layout.wholeEnding
  else if layout.isPositional d.leading then layout.positional d
  else scientific d

end Layout

namespace Binary64

/-- The written form of a number: sign, then the shortest digits in the given layout. The layout
only says where the point stands, so every layout is read as the same number. -/
def write (layout : Layout) : Binary64 → String
  | .nan => "nan"
  | .infinity false => "inf"
  | .infinity true => "-inf"
  | .finite false units _ => String.ofList (layout.write (shortest units))
  | .finite true units _ => String.ofList ('-' :: layout.write (shortest units))

def text (x : Binary64) : String := x.write .plain

end Binary64

end Reckoner
