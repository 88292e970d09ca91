import Reckoner.Json.Basic
import Reckoner.Numeral

/-!
Reading JSON. The grammar is the strict one, with three more numbers: `NaN`, `Infinity` and
`-Infinity`. Of equal keys in an object the last wins. A string may hold an escape that is half of a
character, if whoever reads allows for it. An error keeps the text from where it arose, so that its
place can be told in characters, or in lines and columns.
-/

namespace Reckoner.Json

/-- What is wrong with a text that is no JSON. Each fault is reported where it is noticed, and with
a message of its own. -/
inductive Fault where
  | valueExpected
  | keyExpected
  | colonExpected
  | commaExpected
  | controlCharacter
  | unterminatedString
  | badEscape
  | badUnicodeEscape
  | halfCharacter
  | extraData
deriving DecidableEq, Repr

def Fault.message : Fault → String
  | valueExpected => "Expecting value"
  | keyExpected => "Expecting property name enclosed in double quotes"
  | colonExpected => "Expecting ':' delimiter"
  | commaExpected => "Expecting ',' delimiter"
  | controlCharacter => "Invalid control character at"
  | unterminatedString => "Unterminated string starting at"
  | badEscape => "Invalid \\escape"
  | badUnicodeEscape => "Invalid \\uXXXX escape"
  | halfCharacter => "Lone surrogate in \\uXXXX escape"
  | extraData => "Extra data"

/-- A fault and the number of characters from its place to the end of the text. The reader knows
what is left of the text, and not how much it has read. -/
structure ReadError where
  fault : Fault
  remaining : Nat
deriving DecidableEq, Repr

/-- A fault at the beginning of what is left of the text. All faults are made by it, so that none
has a place that is not in the text. -/
def failAt {α : Type} (fault : Fault) (chars : List Char) : Except ReadError α :=
  .error ⟨fault, chars.length⟩

def isSpace (c : Char) : Bool := c = ' ' || c = '\t' || c = '\n' || c = '\r'

def skipSpace (chars : List Char) : List Char := chars.dropWhile isSpace

def hexDigit? (c : Char) : Option Nat :=
  if '0' ≤ c ∧ c ≤ '9' then some (c.toNat - '0'.toNat)
  else if 'a' ≤ c ∧ c ≤ 'f' then some (c.toNat - 'a'.toNat + 10)
  else if 'A' ≤ c ∧ c ≤ 'F' then some (c.toNat - 'A'.toNat + 10)
  else none

/-- The number that four hexadecimal digits at the beginning of a text denote. With fewer digits
there is none, whatever follows them. -/
def readHex4 : List Char → Option (Nat × List Char)
  | a :: b :: c :: d :: rest => do
    let a ← hexDigit? a
    let b ← hexDigit? b
    let c ← hexDigit? c
    let d ← hexDigit? d
    return (((a * 16 + b) * 16 + c) * 16 + d, rest)
  | _ => none

def isHighSurrogate (code : Nat) : Bool := 0xD800 ≤ code && code < 0xDC00

def isLowSurrogate (code : Nat) : Bool := 0xDC00 ≤ code && code < 0xE000

/-- The character of a `\u` escape, given the text from its letter on: two escapes that are halves
of one character stand for it, and half a character alone for none. After the four digits something
must follow, if only the closing quote. -/
def readUnicode (chars : List Char) : Except ReadError (Option Char × List Char) :=
  if (chars.drop 5).isEmpty then failAt .badUnicodeEscape chars
  else
    match readHex4 chars.tail with
    | none => failAt .badUnicodeEscape chars
    | some (code, rest) =>
      if isLowSurrogate code then .ok (none, rest)
      else if !isHighSurrogate code then .ok (some (Char.ofNat code), rest)
      else
        match rest with
        | '\\' :: 'u' :: after =>
          if (after.drop 4).isEmpty then .ok (none, rest)
          else
            match readHex4 after with
            | none => failAt .badUnicodeEscape ('u' :: after)
            | some (low, end_) =>
              if isLowSurrogate low then
                .ok (some (Char.ofNat (0x10000 + (code - 0xD800) * 0x400 + (low - 0xDC00))), end_)
              else .ok (none, rest)
        | _ => .ok (none, rest)

def simpleEscape? : Char → Option Char
  | '"' => some '"'
  | '\\' => some '\\'
  | '/' => some '/'
  | 'b' => some '\x08'
  | 'f' => some '\x0c'
  | 'n' => some '\n'
  | 'r' => some '\r'
  | 't' => some '\t'
  | _ => none

/-- What becomes of an escape that is half of a character. It can be refused, or kept in a string
that is then no text. -/
inductive Halves where
  | refused
  | kept
deriving DecidableEq, Repr

/-- A string as it was read: its characters, and whether all of them are whole. Half a character has
a replacement among them. -/
structure Content where
  text : String
  whole : Bool

def Content.value (content : Content) : Json :=
  if content.whole then .string content.text else .unpaired content.text

/-- The rest of a string, up to its closing quote. The characters read so far are given from the
last one on, and `start` is the text from the opening quote on. -/
def readString (halves : Halves) (start : List Char) :
    Nat → Bool → List Char → List Char → Except ReadError (Content × List Char)
  | 0, _, _, _ => failAt .unterminatedString start
  | fuel + 1, whole, done, chars =>
    match chars with
    | [] => failAt .unterminatedString start
    | '"' :: rest => .ok (⟨String.ofList done.reverse, whole⟩, rest)
    | '\\' :: [] => failAt .unterminatedString start
    | '\\' :: 'u' :: rest =>
      match readUnicode ('u' :: rest), halves with
      | .error e, _ => .error e
      | .ok (some c, after), _ => readString halves start fuel whole (c :: done) after
      | .ok (none, _), .refused => failAt .halfCharacter chars
      | .ok (none, after), .kept => readString halves start fuel false ('\uFFFD' :: done) after
    | '\\' :: letter :: rest =>
      match simpleEscape? letter with
      | some c => readString halves start fuel whole (c :: done) rest
      | none => failAt .badEscape chars
    | c :: rest =>
      if c.toNat < 32 then failAt .controlCharacter chars
      else readString halves start fuel whole (c :: done) rest

/-- A string, given the text from its opening quote on. Each character uses one unit of fuel and at
least one of the text, so there is enough. -/
def readStringAt (halves : Halves) (start : List Char) : Except ReadError (Content × List Char) :=
  readString halves start start.length true [] start.tail

/-- The whole part of a number: a zero, or digits that do not begin with one. After a zero no more
digits are taken. -/
def readWhole : List Char → Option (List Char × List Char)
  | '0' :: rest => some (['0'], rest)
  | c :: rest =>
    if isDigit c then some (c :: rest.takeWhile isDigit, rest.dropWhile isDigit) else none
  | [] => none

/-- A number: what follows the whole part counts only when it is complete. A point without digits or
a mark without digits is left for whatever comes next. -/
def readNumber (chars : List Char) : Except ReadError (Json × List Char) :=
  let (negative, unsigned) := match chars with
    | '-' :: rest => (true, rest)
    | _ => (false, chars)
  match readWhole unsigned with
  | none => failAt .valueExpected chars
  | some (whole, afterWhole) =>
    let (fraction, afterFraction) := match Numeral.scanFraction afterWhole with
      | (some (d :: ds), rest) => (some (d :: ds), rest)
      | _ => (none, afterWhole)
    let (exponent, rest) := Numeral.scanExponent afterFraction
    if fraction.isNone && exponent.isNone then
      let n : Int := digitsValue whole
      .ok (.integer (if negative then -n else n), rest)
    else
      let numeral : Numeral := ⟨whole, fraction, exponent⟩
      .ok (.number (Binary64.ofDecimal negative numeral.decimal), rest)

def literals : List (String × Json) :=
  [("null", .null), ("true", .bool true), ("false", .bool false), ("NaN", .number .nan),
    ("Infinity", .number (.infinity false)), ("-Infinity", .number (.infinity true))]

def readLiteral (chars : List Char) : Option (Json × List Char) :=
  literals.findSome? fun (word, value) =>
    if word.toList.isPrefixOf chars then some (value, chars.drop word.length) else none

mutual

/-- A value at the beginning of a text. Every value, element and member uses one unit of fuel and at
least one character. -/
def readValue (halves : Halves) : Nat → List Char → Except ReadError (Json × List Char)
  | 0, chars => failAt .valueExpected chars
  | fuel + 1, chars =>
    match chars with
    | '"' :: _ => do
      let (content, rest) ← readStringAt halves chars
      return (content.value, rest)
    | '{' :: rest =>
      match skipSpace rest with
      | '}' :: after => .ok (.object [], after)
      | inside => readMembers halves fuel [] inside
    | '[' :: rest =>
      match skipSpace rest with
      | ']' :: after => .ok (.array [], after)
      | inside => readElements halves fuel [] inside
    | _ =>
      match readLiteral chars with
      | some result => .ok result
      | none => readNumber chars

/-- The elements of an array up to its end; those before are given from the last one on. After a
comma another element has to come. -/
def readElements (halves : Halves) :
    Nat → List Json → List Char → Except ReadError (Json × List Char)
  | 0, _, chars => failAt .valueExpected chars
  | fuel + 1, done, chars => do
    let (value, rest) ← readValue halves fuel chars
    match skipSpace rest with
    | ']' :: after => return (.array (value :: done).reverse, after)
    | ',' :: after => readElements halves fuel (value :: done) (skipSpace after)
    | other => failAt .commaExpected other

/-- The members of an object up to its end; `done` holds those before. A key that comes again gives
its member another value, and no second place. -/
def readMembers (halves : Halves) :
    Nat → List (String × Json) → List Char → Except ReadError (Json × List Char)
  | 0, _, chars => failAt .valueExpected chars
  | fuel + 1, done, chars =>
    match chars with
    | '"' :: _ => do
      let (key, rest) ← readStringAt halves chars
      match skipSpace rest with
      | ':' :: after =>
        let (value, rest) ← readValue halves fuel (skipSpace after)
        let members := setMember key.text value done
        match skipSpace rest with
        | '}' :: after => return (.object members, after)
        | ',' :: after => readMembers halves fuel members (skipSpace after)
        | other => failAt .commaExpected other
      | other => failAt .colonExpected other
    | other => failAt .keyExpected other

end

def ofChars (halves : Halves) (chars : List Char) : Except ReadError Json := do
  let (value, rest) ← readValue halves (chars.length + 1) (skipSpace chars)
  match skipSpace rest with
  | [] => return value
  | extra => .error ⟨.extraData, extra.length⟩

/-- A text without the mark that may stand before it. -/
def withoutMark : List Char → List Char
  | '\uFEFF' :: rest => rest
  | chars => chars

/-- The place of an error in its text, in characters. Faults count what is left, so the place
follows once the whole text is known. -/
def ReadError.position (text : List Char) (e : ReadError) : Nat := text.length - e.remaining

/-- The message of an error: what is wrong, and its line, column and place. Only a line feed ends a
line for that purpose. -/
def ReadError.message (text : List Char) (e : ReadError) : String :=
  let before := text.take (e.position text)
  let line := before.count '\n' + 1
  let column := (before.reverse.takeWhile (· ≠ '\n')).length + 1
  e.fault.message ++ ": line " ++ toString line ++ " column " ++ toString column ++ " (char "
    ++ toString (e.position text) ++ ")"

end Reckoner.Json
