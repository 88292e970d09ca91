import Reckoner.Document.Scalar
import Reckoner.Text.Blank

/-!
Reading documents of settings, in the plain part of YAML: mappings and sequences by indentation or
in brackets, scalars with and without quotes, and comments. A document outside this part is not
read.
-/

namespace Reckoner.Document

/-- A line that is neither empty nor a comment: its indentation, and what it says. No other line
bears on what a document denotes. -/
structure Line where
  indent : Nat
  content : List Char
deriving DecidableEq, Repr

def isSpace (c : Char) : Bool := c = ' ' || c = '\t'

def trimStart (chars : List Char) : List Char := chars.dropWhile isSpace

def trimEnd (chars : List Char) : List Char := (chars.reverse.dropWhile isSpace).reverse

def splitLines : List Char → List (List Char)
  | [] => [[]]
  | '\n' :: rest => [] :: splitLines rest
  | '\r' :: '\n' :: rest => [] :: splitLines rest
  | c :: rest =>
    match splitLines rest with
    | first :: others => (c :: first) :: others
    | [] => [[c]]

def linesOf (text : List Char) : List Line :=
  (splitLines text).filterMap fun chars =>
    let content := trimStart chars
    if content.isEmpty || content.head? = some '#' || trimEnd content = "---".toList then none
    else some ⟨chars.length - content.length, trimEnd content⟩

/-- Does nothing but a comment follow? A comment is set off by a space, and without one its mark is
a character like others. -/
def isRestEmpty (rest : List Char) : Bool :=
  let after := trimStart rest
  after.isEmpty || (after.head? = some '#' && after.length < rest.length)

/-- The rest of a text in single quotes, in which two quotes stand for one. There are no other
escapes, so every other character is as it stands. -/
def readSingle : List Char → Option (List Char × List Char)
  | '\'' :: '\'' :: rest => (readSingle rest).map fun (s, after) => ('\'' :: s, after)
  | '\'' :: rest => some ([], rest)
  | c :: rest => (readSingle rest).map fun (s, after) => (c :: s, after)
  | [] => none

/-- The character of an escape of one letter in double quotes. Those that JSON has are among them,
and others are added. -/
def escapeOf? : Char → Option Char
  | '0' => some '\x00'
  | 'a' => some '\x07'
  | 'e' => some '\x1b'
  | 'v' => some '\x0b'
  | ' ' => some ' '
  | '_' => some '\u00a0'
  | 'N' => some '\u0085'
  | 'L' => some '\u2028'
  | 'P' => some '\u2029'
  | c => Json.simpleEscape? c

/-- How many hexadecimal digits follow the letter of an escape. For every other letter there are
none, and it is no escape by digits. -/
def escapeDigits : Char → Nat
  | 'x' => 2
  | 'u' => 4
  | 'U' => 8
  | _ => 0

/-- The rest of a text in double quotes, of which the first `skip` characters belong to the escape
before. -/
def readDouble : Nat → List Char → Option (List Char × List Char)
  | skip + 1, _ :: rest => readDouble skip rest
  | 0, '"' :: rest => some ([], rest)
  | 0, '\\' :: letter :: rest =>
    let digits := rest.take (escapeDigits letter)
    let escaped :=
      if escapeDigits letter = 0 then escapeOf? letter
      else if digits.length = escapeDigits letter && digits.all (Json.hexDigit? · |>.isSome) then
        some (Char.ofNat (valueInBase 16 digits))
      else none
    escaped.bind fun c =>
      (readDouble (escapeDigits letter) rest).map fun (s, after) => (c :: s, after)
  | 0, c :: rest => (readDouble 0 rest).map fun (s, after) => (c :: s, after)
  | _, [] => none

/-- The characters that end a scalar without quotes in brackets. Outside brackets they are part of
it. -/
def isFlowMark (c : Char) : Bool := c = ',' || c = '[' || c = ']' || c = '\x7b' || c = '\x7d'

/-- Does a colon here end a key? It does before a space, at the end, and in brackets before a
mark. -/
def endsKey (inFlow : Bool) (rest : List Char) : Bool :=
  match rest with
  | [] => true
  | c :: _ => isSpace c || (inFlow && isFlowMark c)

/-- The characters of a scalar without quotes, and the rest, given the character before. That
character decides whether a number sign begins a comment. -/
def readPlain (inFlow : Bool) (before : Char) : List Char → List Char × List Char
  | [] => ([], [])
  | c :: rest =>
    if (c = ':' && endsKey inFlow rest) || (c = '#' && isSpace before) ||
        (inFlow && isFlowMark c) then
      ([], c :: rest)
    else
      let (taken, after) := readPlain inFlow c rest
      (c :: taken, after)

def reservedMarks : List Char := "[],#&*!|>'\"%@`".toList ++ ['\x7b', '\x7d']

def beginsPlain : List Char → Bool
  | [] => false
  | c :: rest =>
    if ['-', '?', ':'].contains c then !(rest.isEmpty || rest.head?.any isSpace)
    else !reservedMarks.contains c

/-- A scalar, and the rest of the line. Space after a scalar without quotes is no part of it, while
space within quotes is kept. -/
def readScalar (inFlow : Bool) (chars : List Char) : Option (Json × List Char) :=
  match chars with
  | '\'' :: rest => (readSingle rest).map fun (s, after) => (.string (String.ofList s), after)
  | '"' :: rest => (readDouble 0 rest).map fun (s, after) => (.string (String.ofList s), after)
  | _ =>
    if beginsPlain chars then
      let (taken, after) := readPlain inFlow ' ' chars
      let written := trimEnd taken
      some (plainValue written, taken.drop written.length ++ after)
    else none

mutual

/-- A value on one line, and the rest of the line: a sequence or mapping in brackets, or a scalar.
Every value inside another one uses some of the fuel. -/
def readInline (inFlow : Bool) : Nat → List Char → Option (Json × List Char)
  | 0, _ => none
  | fuel + 1, chars =>
    match chars with
    | '[' :: rest => readItems fuel [] (trimStart rest)
    | '{' :: rest => readPairs fuel [] (trimStart rest)
    | _ => readScalar inFlow chars

/-- The items of a sequence in brackets; those before are given from the last one on. A comma may
stand before the closing bracket. -/
def readItems : Nat → List Json → List Char → Option (Json × List Char)
  | 0, _, _ => none
  | fuel + 1, done, chars =>
    match chars with
    | ']' :: rest => some (.array done.reverse, rest)
    | _ =>
      match readInline true fuel chars with
      | none => none
      | some (item, rest) =>
        match trimStart rest with
        | ',' :: after => readItems fuel (item :: done) (trimStart after)
        | ']' :: after => some (.array (item :: done).reverse, after)
        | _ => none

def readPairs : Nat → List (String × Json) → List Char → Option (Json × List Char)
  | 0, _, _ => none
  | fuel + 1, done, chars =>
    match chars with
    | '}' :: rest => some (.object done, rest)
    | _ =>
      match readScalar true chars with
      | none => none
      | some (key, rest) =>
        match trimStart rest with
        | ':' :: after =>
          match trimStart after with
          | ',' :: next => readPairs fuel (Json.setMember (keyText key) .null done) (trimStart next)
          | '}' :: next => some (.object (Json.setMember (keyText key) .null done), next)
          | value =>
            match readInline true fuel value with
            | none => none
            | some (value, rest) => endPair fuel (Json.setMember (keyText key) value done) rest
        | _ => endPair fuel (Json.setMember (keyText key) .null done) rest

def endPair : Nat → List (String × Json) → List Char → Option (Json × List Char)
  | 0, _, _ => none
  | fuel + 1, done, chars =>
    match trimStart chars with
    | ',' :: rest => readPairs fuel done (trimStart rest)
    | '}' :: rest => some (.object done, rest)
    | _ => none

end

def lineValue? (chars : List Char) : Option Json :=
  match readInline false (4 * chars.length + 4) chars with
  | some (value, rest) => if isRestEmpty rest then some value else none
  | none => none

/-- The key at the beginning of a line, and what follows its colon. A line without one, or with a
colon that ends no key, has none. -/
def lineKey? (chars : List Char) : Option (String × List Char) :=
  match readScalar false chars with
  | some (key, rest) =>
    match trimStart rest with
    | ':' :: after => if endsKey false after then some (keyText key, trimStart after) else none
    | _ => none
  | none => none

/-- What follows the mark of an item, and how far in it stands. An item may itself begin a mapping,
which is indented as far as that. -/
def lineItem? : List Char → Option (Nat × List Char)
  | '-' :: rest =>
    let content := trimStart rest
    if rest.isEmpty || content.length < rest.length then
      some (1 + (rest.length - content.length), content)
    else none
  | _ => none

def isEmptyValue (chars : List Char) : Bool := chars.isEmpty || chars.head? = some '#'

mutual

/-- The block that the first line begins, and the lines after it. The first line also says what kind
of block it is. -/
def readBlock : Nat → List Line → Option (Json × List Line)
  | _, [] => some (.null, [])
  | 0, _ => none
  | fuel + 1, line :: rest =>
    if (lineItem? line.content).isSome then readSequence fuel line.indent [] (line :: rest)
    else if (lineKey? line.content).isSome then readMapping fuel line.indent [] (line :: rest)
    else (lineValue? line.content).map fun value => (value, rest)

/-- The block that is further in than a line, or nothing. It is the value of a key or an item after
which its line says nothing. -/
def readInner : Nat → Nat → List Line → Option (Json × List Line)
  | 0, _, _ => none
  | _ + 1, _, [] => some (.null, [])
  | fuel + 1, indent, line :: rest =>
    if indent < line.indent then readBlock fuel (line :: rest) else some (.null, line :: rest)

def readMapping : Nat → Nat → List (String × Json) → List Line → Option (Json × List Line)
  | 0, _, _, _ => none
  | _ + 1, _, done, [] => some (.object done, [])
  | fuel + 1, indent, done, line :: rest =>
    if line.indent < indent then some (.object done, line :: rest)
    else if indent < line.indent then none
    else
      match lineKey? line.content with
      | none => none
      | some (key, value) =>
        let entry :=
          if !isEmptyValue value then (lineValue? value).map fun json => (json, rest)
          else
            match rest with
            | next :: _ =>
              if next.indent = indent && (lineItem? next.content).isSome then
                readSequence fuel indent [] rest
              else readInner fuel indent rest
            | [] => some (.null, [])
        match entry with
        | none => none
        | some (json, rest) => readMapping fuel indent (Json.setMember key json done) rest

/-- The items of a sequence at an indentation; those before are given from the last one on. A line
that is further out ends the sequence, and one further in has no place there. -/
def readSequence : Nat → Nat → List Json → List Line → Option (Json × List Line)
  | 0, _, _, _ => none
  | _ + 1, _, done, [] => some (.array done.reverse, [])
  | fuel + 1, indent, done, line :: rest =>
    if line.indent < indent then some (.array done.reverse, line :: rest)
    else if indent < line.indent then none
    else
      match lineItem? line.content with
      | none => some (.array done.reverse, line :: rest)
      | some (further, content) =>
        let item :=
          if isEmptyValue content then readInner fuel indent rest
          else readBlock fuel (⟨indent + further, content⟩ :: rest)
        match item with
        | none => none
        | some (json, rest) => readSequence fuel indent (json :: done) rest

end

/-- The value that a document denotes; an empty one denotes nothing. The fuel is enough for every
line to begin several blocks. -/
def read? (text : String) : Option Json :=
  let lines := linesOf (Json.withoutMark text.toList)
  match readBlock (4 * text.length + 4) lines with
  | some (value, []) => some value
  | _ => none

end Reckoner.Document
