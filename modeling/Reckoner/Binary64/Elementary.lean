import Reckoner.Binary64.Arithmetic

/-!
Elementary functions of binary64 numbers. The functions that no exact rule rounds (sine, logarithm,
power and so on) are those of the platform, reached through the interchange encoding; the rules for
their special values and for what counts as a failure are stated here.
-/

namespace Reckoner

inductive MathError where
  | domain
  | range
  | infiniteInteger
  /-- What is not a number was taken for a whole number. -/
  | nanInteger
deriving DecidableEq, Repr

namespace MathError

def message : MathError → String
  | domain => "math domain error"
  | range => "math range error"
  | infiniteInteger => "cannot convert float infinity to integer"
  | nanInteger => "cannot convert float NaN to integer"

end MathError

namespace Binary64

/-- The interchange encoding of a finite magnitude. Each doubling past `2 ^ 53` steps takes one from
the exponent field, and the leading bit of the significand carries into it. -/
def magnitudeBits (units : Nat) : Nat :=
  let shift := units.log2 - 52
  shift * Nat.pow 2 52 + units / Nat.pow 2 shift

/-- The interchange encoding. The platform has functions of its own numbers only, so whatever is
computed there is handed over as these bits and taken back as such. -/
def bits (x : Binary64) : UInt64 :=
  let magnitude := match x with
    | .nan => 0x7ff8 * Nat.pow 2 48
    | .infinity _ => 0x7ff * Nat.pow 2 52
    | .finite _ units _ => magnitudeBits units
  UInt64.ofNat (if x.isNegative then Nat.pow 2 63 + magnitude else magnitude)

def ofBits (encoding : UInt64) : Binary64 :=
  let negative := decide (Nat.pow 2 63 ≤ encoding.toNat)
  let field := encoding.toNat / Nat.pow 2 52 % Nat.pow 2 11
  let fraction := encoding.toNat % Nat.pow 2 52
  if field = 0x7ff then (if fraction = 0 then .infinity negative else .nan)
  else if field = 0 then roundQuotient negative fraction 1
  else roundQuotient negative ((Nat.pow 2 52 + fraction) * Nat.pow 2 (field - 1)) 1

def toFloat (x : Binary64) : Float := Float.ofBits x.bits

def ofFloat (x : Float) : Binary64 := ofBits x.toBits

def platform (f : Float → Float) (x : Binary64) : Binary64 := ofFloat (f x.toFloat)

/-- The value of a function, unless it is missing at a number or infinite at a finite number. What
goes in as no number or as an infinity may come out so without being a fault. -/
def checked (whenInfinite : MathError) (f : Binary64 → Binary64) (x : Binary64) :
    Except MathError Binary64 :=
  let value := f x
  if value.isNaN && !x.isNaN then .error .domain
  else if value.isInfinite && x.isFinite then .error whenInfinite
  else .ok value

def sin : Binary64 → Except MathError Binary64 := checked .domain (platform Float.sin)
def cos : Binary64 → Except MathError Binary64 := checked .domain (platform Float.cos)
def tan : Binary64 → Except MathError Binary64 := checked .domain (platform Float.tan)
def asin : Binary64 → Except MathError Binary64 := checked .domain (platform Float.asin)
def acos : Binary64 → Except MathError Binary64 := checked .domain (platform Float.acos)
def atan : Binary64 → Except MathError Binary64 := checked .domain (platform Float.atan)
def log : Binary64 → Except MathError Binary64 := checked .domain (platform Float.log)
def log10 : Binary64 → Except MathError Binary64 := checked .domain (platform Float.log10)
def exp : Binary64 → Except MathError Binary64 := checked .range (platform Float.exp)
def squareRoot : Binary64 → Except MathError Binary64 := checked .domain sqrt

/-- Is this a whole number that two does not divide? Powers of negative numbers take their sign from
it. -/
def isOddInteger (x : Binary64) : Bool := x.toInt?.any (· % 2 ≠ 0)

/-- Powers with an infinite operand or one that is not a number: everything to the power of zero and
one to every power are one. -/
def specialPow (x y : Binary64) : Binary64 :=
  if x.isNaN then (if y.isZero then 1 else .nan)
  else if y.isNaN then (if x.same 1 then 1 else .nan)
  else if x.isInfinite then
    if y.isZero then 1
    else
      let size := if y.isNegative then zero false else .infinity false
      size.withSign (x.isNegative && y.isOddInteger)
  else if x.abs.same 1 then 1
  else if x.abs.less 1 = y.isNegative then .infinity false
  else zero false

/-- Power. A missing value and a zero to a negative power are outside the domain; an overflow is out
of range. -/
def pow (x y : Binary64) : Except MathError Binary64 :=
  if x.isFinite && y.isFinite then
    let value := ofFloat (Float.pow x.toFloat y.toFloat)
    if value.isNaN then .error .domain
    else if value.isInfinite then .error (if x.isZero then .domain else .range)
    else .ok value
  else .ok (specialPow x y)

end Binary64

end Reckoner
