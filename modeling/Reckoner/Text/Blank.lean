import Reckoner.Text.Ranges

/-!
Blank characters: the controls that move the cursor, the four separators of ASCII and the spaces of
Unicode 14.
-/

namespace Reckoner.Text

def blankRanges : List (Nat × Nat) := [
  (0x9, 0xD), (0x1C, 0x20), (0x85, 0x85), (0xA0, 0xA0), (0x1680, 0x1680), (0x2000, 0x200A),
  (0x2028, 0x2029), (0x202F, 0x202F), (0x205F, 0x205F), (0x3000, 0x3000)]

def isBlank (c : Char) : Bool := inRanges c.toNat blankRanges

def trimLeft (chars : List Char) : List Char := chars.dropWhile isBlank

def trim (chars : List Char) : List Char := (trimLeft (trimLeft chars).reverse).reverse

/-- The words between runs of blank characters, given the characters of the word that the text
continues, the last one first. -/
def wordsFrom (word : List Char) : List Char → List (List Char)
  | [] => if word.isEmpty then [] else [word.reverse]
  | c :: rest =>
    if isBlank c then
      if word.isEmpty then wordsFrom [] rest else word.reverse :: wordsFrom [] rest
    else wordsFrom (c :: word) rest

def words (chars : List Char) : List (List Char) := wordsFrom [] chars

end Reckoner.Text
