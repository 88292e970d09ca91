import Reckoner.Json.Reader

/-!
What a scalar of a document denotes that is written without quotes: one of the words for truth
values and for nothing, a whole number in one of several bases, a number with a point, or else a
text.
-/

namespace Reckoner.Document

/-- A word as it is written, with a capital, and in capitals. Other mixtures of the two are texts
and not the word. -/
def spellings (word : String) : List String :=
  [word, word.capitalize, word.map Char.toUpper]

def trueWords : List String := ["yes", "true", "on"].flatMap spellings
def falseWords : List String := ["no", "false", "off"].flatMap spellings
def nullWords : List String := ["", "~"] ++ spellings "null"

def withoutLowLines (chars : List Char) : List Char := chars.filter (· ≠ '_')

/-- A text without its sign, and whether that is a minus. One sign is taken at most, so what is left
may begin with another. -/
def unsigned : List Char → Bool × List Char
  | '-' :: rest => (true, rest)
  | '+' :: rest => (false, rest)
  | chars => (false, chars)

def valueInBase (base : Nat) (digits : List Char) : Nat :=
  digits.foldl (fun value digit => value * base + (Json.hexDigit? digit).getD 0) 0

def splitColons : List Char → List (List Char)
  | [] => [[]]
  | ':' :: rest => [] :: splitColons rest
  | c :: rest =>
    match splitColons rest with
    | first :: others => (c :: first) :: others
    | [] => [[c]]

/-- Is the text a number of minutes or seconds below sixty? It may have one digit or two, and the
first of two is at most five. -/
def isSixtieth (chars : List Char) : Bool :=
  match chars with
  | [a] => isDigit a
  | [a, b] => '0' ≤ a && a ≤ '5' && isDigit b
  | _ => false

/-- The value of digits and low lines in a base, if there are any and all are of that base. Low
lines may stand anywhere and have no value. -/
def digitsInBase? (base : Nat) (chars : List Char) : Option Nat :=
  if !chars.isEmpty && chars.all (fun c => c = '_' || (Json.hexDigit? c).any (· < base)) then
    some (valueInBase base (withoutLowLines chars))
  else none

/-- The magnitude of a whole number: binary, octal, decimal, hexadecimal, or of base sixty. The
first characters say which base is meant, and colons that it is sixty. -/
def naturalOf? : List Char → Option Nat
  | '0' :: 'b' :: rest => digitsInBase? 2 rest
  | '0' :: 'x' :: rest => digitsInBase? 16 rest
  | ['0'] => some 0
  | '0' :: rest => digitsInBase? 8 rest
  | chars =>
    match splitColons chars with
    | [digits] => if digits.head?.any isDigit then digitsInBase? 10 digits else none
    | digits :: sixtieths =>
      if digits.head?.any isDigit && sixtieths.all isSixtieth then
        (digitsInBase? 10 digits).map fun first =>
          sixtieths.foldl (fun value part => value * 60 + digitsValue part) first
      else none
    | [] => none

def integerOf? (chars : List Char) : Option Int :=
  let (negative, magnitude) := unsigned chars
  (naturalOf? magnitude).map fun n => if negative then -(n : Int) else n

/-- Does a decimal numeral have the form of a number with a point? The exponent has a sign there,
and a text whose exponent has none is no number. -/
def isPointed (numeral : Numeral) (signed : Bool) : Bool :=
  numeral.fraction.isSome && (!numeral.whole.isEmpty || (!signed && numeral.hasDigits)) &&
    numeral.exponent.all (·.sign.isSome)

/-- A number with a point, or one of the words for what is no finite number, which begin with a
point as well. A sign belongs to the infinities, and not to what is no number. -/
def numberOf? (chars : List Char) : Option Binary64 :=
  let (negative, magnitude) := unsigned chars
  let word := String.ofList magnitude
  if [".inf", ".Inf", ".INF"].contains word then some (.infinity negative)
  else if [".nan", ".NaN", ".NAN"].contains (String.ofList chars) then some .nan
  else if magnitude.head? = some '_' then none
  else
    match Numeral.scan (withoutLowLines magnitude) with
    | (numeral, []) =>
      if isPointed numeral (magnitude.length < chars.length) then
        some (numeral.value.withSign negative)
      else none
    | _ => none

def plainValue (chars : List Char) : Json :=
  let word := String.ofList chars
  if nullWords.contains word then .null
  else if trueWords.contains word then .bool true
  else if falseWords.contains word then .bool false
  else
    match integerOf? chars, numberOf? chars with
    | some n, _ => .integer n
    | none, some x => .number x
    | none, none => .string word

/-- The text of a value that stands as a key. Keys are texts in the end, whatever a scalar may
denote; what is no scalar is the empty one. -/
def keyText : Json → String
  | .string s | .unpaired s => s
  | .null => "null"
  | .bool true => "true"
  | .bool false => "false"
  | .integer n => toString n
  | .number x => x.text
  | .array _ | .object _ => ""

end Reckoner.Document
