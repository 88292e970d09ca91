import Reckoner.Settings.Conversion
import Reckoner.Text.Digit

/-!
Whole numbers as they are typed: decimal digits of any script, single low lines between them, a sign
before and space around them.
-/

namespace Reckoner.CommandLine

/-- The value of decimal digits, the first one counting most. The digits may be of any script, as
they are given by their values. -/
def decimalValue (digits : List Nat) : Nat :=
  digits.foldl (fun value digit => value * 10 + digit) 0

/-- The natural number of digits and low lines. A numeral that is too long is none, however small
its value may be. -/
def natural? (chars : List Char) : Option Nat := do
  let digits ← (← Settings.withoutLowLines? chars).mapM Text.decimalDigit?
  if digits.isEmpty || Settings.longestNumeral < digits.length then none
  else some (decimalValue digits)

def integer? (text : String) : Option Int :=
  match Settings.unpad text.toList with
  | '-' :: digits => (natural? digits).map fun n => -(n : Int)
  | '+' :: digits => (natural? digits).map Int.ofNat
  | digits => (natural? digits).map Int.ofNat

end Reckoner.CommandLine
