import Reckoner.Text.Printable

/-!
Quoted texts in messages. A text stands between single quotes, or between double quotes if it holds
a single quote and no double one; characters that cannot be printed as themselves are escaped by
their code.
-/

namespace Reckoner.Text

/-- The hexadecimal digits of a number, with zeros in front up to a width. A number with more digits
keeps them all. -/
def hexadecimal (width n : Nat) : List Char :=
  let digits := Nat.toDigits 16 n
  List.replicate (width - digits.length) '0' ++ digits

def quoteChar (quote c : Char) : List Char :=
  if c = quote ∨ c = '\\' then ['\\', c]
  else if c = '\n' then ['\\', 'n']
  else if c = '\r' then ['\\', 'r']
  else if c = '\t' then ['\\', 't']
  else if isPrintable c then [c]
  else if c.toNat < 0x100 then '\\' :: 'x' :: hexadecimal 2 c.toNat
  else if c.toNat < 0x10000 then '\\' :: 'u' :: hexadecimal 4 c.toNat
  else '\\' :: 'U' :: hexadecimal 8 c.toNat

def quoted (chars : List Char) : List Char :=
  let quote := if chars.contains '\'' && !chars.contains '"' then '"' else '\''
  quote :: (chars.flatMap (quoteChar quote) ++ [quote])

end Reckoner.Text
