import Reckoner.Json.Basic
import Reckoner.Numeral

/-!
Lenient conversion of configuration values. A setting accepts a value of its own type, and what can
be taken for one without loss: words and small numbers for truth values, numerals for numbers, whole
numbers with a fraction of zero. Every refusal has a kind.
-/

namespace Reckoner.Settings

inductive Refusal where
  | boolType
  | boolParsing
  | intType
  | intParsing
  | intParsingSize
  | intFromFloat
  | finiteNumber
  | floatType
  | floatParsing
  | stringType
  | stringUnicode
  /-- The value is none of those that the setting lists. -/
  | notListed
  | missing
  | stringTooShort
  | stringTooLong
deriving DecidableEq, Repr

def Refusal.name : Refusal → String
  | boolType => "bool_type"
  | boolParsing => "bool_parsing"
  | intType => "int_type"
  | intParsing => "int_parsing"
  | intParsingSize => "int_parsing_size"
  | intFromFloat => "int_from_float"
  | finiteNumber => "finite_number"
  | floatType => "float_type"
  | floatParsing => "float_parsing"
  | stringType => "string_type"
  | stringUnicode => "string_unicode"
  | notListed => "literal_error"
  | missing => "missing"
  | stringTooShort => "string_too_short"
  | stringTooLong => "string_too_long"

def isPadding (c : Char) : Bool :=
  ('\t' ≤ c && c ≤ '\r') || c = ' ' || c = '\u0085' || c = '\u00a0' || c = '\u1680' ||
    ('\u2000' ≤ c && c ≤ '\u200a') || c = '\u2028' || c = '\u2029' || c = '\u202f' ||
    c = '\u205f' || c = '\u3000'

def unpad (chars : List Char) : List Char :=
  ((chars.dropWhile isPadding).reverse.dropWhile isPadding).reverse

/-- The text without low lines, if each stands between two other characters. Otherwise the low line
is not one that may be left out, and the text is no numeral. -/
def withoutLowLines? (chars : List Char) : Option (List Char) :=
  let isLine (c : Char) : Bool := c = '_'
  if chars.head?.any isLine || chars.getLast?.any isLine ||
      (chars.zip chars.tail).any (fun pair => isLine pair.1 && isLine pair.2) then none
  else some (chars.filter (!isLine ·))

def trueWords : List String := ["1", "t", "y", "on", "yes", "true"]
def falseWords : List String := ["0", "f", "n", "no", "off", "false"]

def boolOfInt (n : Int) : Except Refusal Bool :=
  if n = 0 then .ok false else if n = 1 then .ok true else .error .boolParsing

def toBool : Json → Except Refusal Bool
  | .bool b => .ok b
  | .string s =>
    let word := String.ofList (s.toList.map Binary64.lowerLetter)
    if trueWords.contains word then .ok true
    else if falseWords.contains word then .ok false
    else .error .boolParsing
  | .integer n => boolOfInt n
  | .number x => match x.toInt? with
    | some n => boolOfInt n
    | none => .error .boolType
  | .unpaired _ => .error .stringUnicode
  | _ => .error .boolType

/-- The whole number of a numeral in its plainest form: a sign, and digits without a zero before
them. -/
def plainInt? (chars : List Char) : Option Int :=
  let (negative, digits) := match chars with
    | '-' :: rest => (true, rest)
    | _ => (false, chars)
  if digits.isEmpty || !digits.all isDigit || (digits.head? = some '0' && 1 < digits.length) then
    none
  else
    let n : Int := digitsValue digits
    some (if negative then -n else n)

/-- A numeral without the zeros before its first digit other than zero; low lines may stand among
them. Nothing but a numeral or its negative is given back. -/
def withoutLeadingZeros? (chars : List Char) : Option (List Char) :=
  match chars with
  | '0' :: rest =>
    let zeros := rest.takeWhile fun c => c = '0' || c = '_'
    match rest.drop zeros.length with
    | [] => some [chars.getLast?.getD '0']
    | '.' :: after => some ((('0' :: zeros).getLast?.getD '0') :: '.' :: after)
    | c :: after => if isDigit c then some (c :: after) else none
  | c :: _ => if isDigit c || c = '-' then some chars else none
  | [] => none

/-- A numeral without a fraction of zeros only. Such a numeral denotes a whole number, and any other
fraction is kept so that it is refused. -/
def withoutZeroFraction (chars : List Char) : List Char :=
  let whole := chars.takeWhile (· ≠ '.')
  if (chars.drop (whole.length + 1)).all (· = '0') then whole else chars

/-- The whole number of a numeral that may have padding, a plus, zeros in front, a fraction of
zeros, and low lines between digits. -/
def intOfText? (chars : List Char) : Option Int :=
  match plainInt? chars with
  | some n => some n
  | none => do
    let unsigned := match unpad chars with
      | '+' :: rest => rest
      | other => other
    let numeral ← withoutLeadingZeros? unsigned
    let whole := withoutZeroFraction numeral
    plainInt? ((withoutLowLines? whole).getD whole)

/-- The longest numeral that is read as a whole number. The bound is on its length and not on its
value, so that reading takes a bounded time. -/
def longestNumeral : Nat := 4300

def toInt : Json → Except Refusal Int
  | .integer n => .ok n
  | .bool b => .ok (if b then 1 else 0)
  | .string s =>
    if longestNumeral < s.utf8ByteSize then .error .intParsingSize
    else match intOfText? s.toList with
      | some n => .ok n
      | none => .error .intParsing
  | .number x =>
    if !x.isFinite then .error .finiteNumber
    else match x.toInt? with
      | some n => .ok n
      | none => .error .intFromFloat
  | .unpaired _ => .error .stringUnicode
  | _ => .error .intType

def toNumber : Json → Except Refusal Binary64
  | .number x => .ok x
  | .integer n =>
    let x := (Binary64.ofNat n.natAbs).withSign (decide (n < 0))
    if x.isFinite then .ok x else .error .floatType
  | .bool b => .ok (if b then 1 else 0)
  | .string s =>
    match Binary64.ofText? (unpad s.toList) with
    | some x => .ok x
    | none =>
      match (withoutLowLines? s.toList).bind fun chars => Binary64.ofText? (unpad chars) with
      | some x => .ok x
      | none => .error .floatParsing
  | .unpaired _ => .error .stringUnicode
  | _ => .error .floatType

def toText : Json → Except Refusal String
  | .string s => .ok s
  | .unpaired _ => .error .stringUnicode
  | _ => .error .stringType

def toOptionalText : Json → Except Refusal (Option String)
  | .null => .ok none
  | .string s => .ok (some s)
  | .unpaired _ => .error .stringUnicode
  | _ => .error .stringType

end Reckoner.Settings
