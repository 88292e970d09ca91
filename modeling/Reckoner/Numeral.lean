import Reckoner.Binary64.Decimal

/-!
Decimal numerals in running text: digits, perhaps a point with digits after it, perhaps an exponent.
A numeral keeps everything that was written, so `text_append_rest` says that scanning loses nothing.
-/

namespace Reckoner

/-- One of the ten digits of ASCII. Digits of other scripts are digits to the predicates on
characters, but they do not form numerals. -/
def isDigit (c : Char) : Bool := '0' ≤ c && c ≤ '9'

def digitsValue (digits : List Char) : Nat :=
  digits.foldl (fun value c => value * 10 + (c.toNat - '0'.toNat)) 0

namespace Numeral

structure Exponent where
  mark : Char
  sign : Option Char
  digits : List Char
deriving DecidableEq, Repr

def Exponent.text (e : Exponent) : List Char := e.mark :: (e.sign.toList ++ e.digits)

def Exponent.value (e : Exponent) : Int :=
  if e.sign = some '-' then -(digitsValue e.digits : Int) else digitsValue e.digits

end Numeral

/-- A numeral as written. The fraction is absent when there is no point, and may be empty when there
is one, so that the text can be had back from it. -/
structure Numeral where
  whole : List Char
  fraction : Option (List Char)
  exponent : Option Numeral.Exponent
deriving DecidableEq, Repr

namespace Numeral

def text (n : Numeral) : List Char :=
  n.whole ++ (n.fraction.elim [] ('.' :: ·) ++ n.exponent.elim [] Exponent.text)

def decimal (n : Numeral) : Decimal :=
  let fraction := n.fraction.getD []
  { coefficient := digitsValue (n.whole ++ fraction)
    exponent := n.exponent.elim 0 Exponent.value - fraction.length }

def value (n : Numeral) : Binary64 := Binary64.ofDecimal false n.decimal

/-- The fraction that starts here: a point and the digits after it. No digit needs to follow the
point, as a numeral may end with it. -/
def scanFraction : List Char → Option (List Char) × List Char
  | '.' :: rest => (some (rest.takeWhile isDigit), rest.dropWhile isDigit)
  | rest => (none, rest)

def scanSign : List Char → Option Char × List Char
  | '+' :: rest => (some '+', rest)
  | '-' :: rest => (some '-', rest)
  | rest => (none, rest)

/-- The exponent that starts here. The mark counts only when a digit follows it and its sign:
otherwise it is a letter like any other. -/
def scanExponent : List Char → Option Exponent × List Char
  | mark :: rest =>
    let (sign, digits) := scanSign rest
    if (mark = 'e' ∨ mark = 'E') ∧ digits.head?.any isDigit then
      (some ⟨mark, sign, digits.takeWhile isDigit⟩, digits.dropWhile isDigit)
    else (none, mark :: rest)
  | [] => (none, [])

/-- The longest numeral that starts here, and what follows it. Each part is taken as far as it goes,
so a numeral ends only where nothing can be added to it. -/
def scan (chars : List Char) : Numeral × List Char :=
  let (fraction, afterFraction) := scanFraction (chars.dropWhile isDigit)
  let (exponent, rest) := scanExponent afterFraction
  (⟨chars.takeWhile isDigit, fraction, exponent⟩, rest)

theorem scanFraction_text (chars : List Char) :
    (scanFraction chars).1.elim [] ('.' :: ·) ++ (scanFraction chars).2 = chars := by
  unfold scanFraction
  split <;> simp

theorem scanSign_text (chars : List Char) :
    (scanSign chars).1.toList ++ (scanSign chars).2 = chars := by
  unfold scanSign
  split <;> simp

theorem scanExponent_text (chars : List Char) :
    (scanExponent chars).1.elim [] Exponent.text ++ (scanExponent chars).2 = chars := by
  cases chars with
  | nil => rfl
  | cons mark rest =>
    have h := scanSign_text rest
    simp only [scanExponent]
    split
    · simp [Exponent.text, List.append_assoc, h]
    · simp

/-- Scanning splits the text and loses nothing. Whoever scans part after part can therefore say
where in the text each of them stands. -/
theorem text_append_rest (chars : List Char) : (scan chars).1.text ++ (scan chars).2 = chars := by
  have hf := scanFraction_text (chars.dropWhile isDigit)
  have he := scanExponent_text (scanFraction (chars.dropWhile isDigit)).2
  simp only [scan, text, List.append_assoc]
  rw [he, hf]
  exact List.takeWhile_append_dropWhile

def hasDigits (n : Numeral) : Bool := !n.whole.isEmpty || n.fraction.any (!·.isEmpty)

end Numeral

namespace Binary64

def lowerLetter (c : Char) : Char := if 'A' ≤ c ∧ c ≤ 'Z' then Char.ofNat (c.toNat + 32) else c

/-- The magnitude that a whole text denotes: a numeral with a digit, or one of the words for what
has no numeral, in any case. A numeral that leaves something over denotes nothing. -/
def magnitudeOfText? (chars : List Char) : Option Binary64 :=
  let word := String.ofList (chars.map lowerLetter)
  if word = "inf" ∨ word = "infinity" then some (.infinity false)
  else if word = "nan" then some .nan
  else
    match Numeral.scan chars with
    | (numeral, []) => if numeral.hasDigits then some numeral.value else none
    | _ => none

/-- The number that a whole text denotes, with an optional sign. The sign belongs to the text and
not to the numeral, which is why words may have one as well. -/
def ofText? : List Char → Option Binary64
  | '+' :: rest => magnitudeOfText? rest
  | '-' :: rest => (magnitudeOfText? rest).map neg
  | chars => magnitudeOfText? chars

end Binary64

end Reckoner
