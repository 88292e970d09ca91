import Reckoner.Text.Letter

/-!
Replacing parts of a text from left to right. An occurrence that is replaced is not looked at again,
and neither is what replaces it. `replaceAll` replaces a pattern wherever it occurs, `replaceWords`
only where it stands as whole words.
-/

namespace Reckoner.Text

/-- Replace the pattern in a text of which the first `skip` characters are already replaced.
Counting them down keeps the recursion on the text, and occurrences do not overlap. -/
def replaceFrom (pattern replacement : List Char) : Nat → List Char → List Char
  | _, [] => []
  | skip + 1, _ :: rest => replaceFrom pattern replacement skip rest
  | 0, c :: rest =>
    if pattern.isPrefixOf (c :: rest) then
      replacement ++ replaceFrom pattern replacement (pattern.length - 1) rest
    else c :: replaceFrom pattern replacement 0 rest

def replaceAll (pattern replacement chars : List Char) : List Char :=
  replaceFrom pattern replacement 0 chars

/-- Does a word end or begin between two characters? Outside the text there are none, so a word at
its edge ends or begins there. -/
def isBoundary (before after : Option Char) : Bool :=
  before.any isWordChar != after.any isWordChar

/-- The first of the spellings that stands here as whole words. The order of the spellings matters,
since one of them may begin another. -/
def findSpelling (spellings : List (List Char)) (before : Option Char) (chars : List Char) :
    Option (List Char) :=
  if isBoundary before chars.head? then
    spellings.find? fun spelling =>
      spelling.isPrefixOf chars &&
        isBoundary spelling.getLast? (chars.drop spelling.length).head?
  else none

/-- Replace the spellings in a text of which the first `skip` characters are already replaced, given
the character before it. -/
def replaceWordsFrom (spellings : List (List Char)) (replacement : List Char) :
    Nat → Option Char → List Char → List Char
  | _, _, [] => []
  | skip + 1, _, c :: rest => replaceWordsFrom spellings replacement skip (some c) rest
  | 0, before, c :: rest =>
    match findSpelling spellings before (c :: rest) with
    | some spelling =>
      replacement ++ replaceWordsFrom spellings replacement (spelling.length - 1) (some c) rest
    | none => c :: replaceWordsFrom spellings replacement 0 (some c) rest

/-- Replace the spellings wherever they stand as whole words, the leftmost first. What was put in is
not looked at again. -/
def replaceWords (spellings : List (List Char)) (replacement chars : List Char) : List Char :=
  replaceWordsFrom spellings replacement 0 none chars

end Reckoner.Text
