import Reckoner.Json.Reader
import Reckoner.Text.Quoted

/-!
Identifiers of sessions. An identifier is a number of 128 bits, written with 32 hexadecimal digits
in groups; the identifiers of sessions follow one another from a fixed first one. Reading accepts
the groups, the groups in braces or after a scheme, and the bare digits, in either case of the
letters.
-/

namespace Reckoner.Server

def firstIdentifier : Nat := 0x7a5cd1e0_0000_4000_8000_000000000000

def identifierDigits : Nat := 32

def groupMarks : List Nat := [8, 13, 18, 23]

def writeIdentifier (number : Nat) : String :=
  let digits := Text.hexadecimal identifierDigits (firstIdentifier + number)
  String.ofList (digits.take 8 ++ '-' :: (digits.drop 8).take 4 ++ '-' :: (digits.drop 12).take 4 ++
    '-' :: (digits.drop 16).take 4 ++ '-' :: digits.drop 20)

def ungrouped? (chars : List Char) : Option (List Char) :=
  if groupMarks.all (fun place => chars[place]? = some '-') then
    some (chars.zipIdx.filterMap fun (c, place) =>
      if groupMarks.contains place then none else some c)
  else none

def identifierScheme : List Char := "urn:uuid:".toList

/-- The digits of an identifier in any of its forms. The marks of a form are looked for in their
places only, and its length says which form it is. -/
def identifierDigits? (chars : List Char) : Option (List Char) :=
  let grouped := identifierDigits + groupMarks.length
  if chars.length = identifierDigits then some chars
  else if chars.length = grouped then ungrouped? chars
  else if chars.length = grouped + 2 ∧ chars.head? = some '{' ∧ chars.getLast? = some '}' then
    ungrouped? chars.tail.dropLast
  else if chars.length = identifierScheme.length + grouped ∧ identifierScheme.isPrefixOf chars then
    ungrouped? (chars.drop identifierScheme.length)
  else none

def hexadecimalValue? (digits : List Char) : Option Nat :=
  digits.foldlM (fun value digit => (Json.hexDigit? digit).map (value * 16 + ·)) 0

def readIdentifier? (text : String) : Option Nat :=
  (identifierDigits? text.toList).bind hexadecimalValue?

/-- The number of the session that an identifier belongs to. Identifiers are given one after the
other from the first, so those before it belong to none. -/
def sessionNumber? (identifier : Nat) : Option Nat :=
  if firstIdentifier ≤ identifier then some (identifier - firstIdentifier) else none

end Reckoner.Server
