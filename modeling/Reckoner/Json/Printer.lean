import Reckoner.Json.Basic

/-!
Writing JSON on one line: no spaces, members in their order, and only the characters escaped that
must be.
-/

namespace Reckoner.Json

def hexDigit (n : Nat) : Char := if n < 10 then Char.ofNat (48 + n) else Char.ofNat (87 + n)

def escapeChar (c : Char) : List Char :=
  if c = '"' then ['\\', '"']
  else if c = '\\' then ['\\', '\\']
  else if c.toNat < 32 then
    ['\\', 'u', '0', '0', hexDigit (c.toNat / 16), hexDigit (c.toNat % 16)]
  else [c]

def writeString (s : String) : List Char := '"' :: (s.toList.flatMap escapeChar ++ ['"'])

/-- A number; those that are not finite have words of their own, which are no JSON in the strict
sense but are read again. -/
def writeNumber : Binary64 → String
  | .nan => "NaN"
  | .infinity false => "Infinity"
  | .infinity true => "-Infinity"
  | x => x.text

mutual

def write : Json → List Char
  | .null => "null".toList
  | .bool true => "true".toList
  | .bool false => "false".toList
  | .integer n => (toString n).toList
  | .number x => (writeNumber x).toList
  | .string s | .unpaired s => writeString s
  | .array elements => '[' :: writeElements elements
  | .object members => '{' :: writeMembers members

def writeElements : List Json → List Char
  | [] => [']']
  | [value] => value.write ++ [']']
  | value :: rest => value.write ++ ',' :: writeElements rest

def writeMembers : List (String × Json) → List Char
  | [] => ['}']
  | [(key, value)] => writeString key ++ ':' :: (value.write ++ ['}'])
  | (key, value) :: rest => writeString key ++ ':' :: (value.write ++ ',' :: writeMembers rest)

end

def render (value : Json) : String := String.ofList value.write

end Reckoner.Json
