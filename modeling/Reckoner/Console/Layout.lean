import Reckoner.Text.Blank
import Reckoner.Text.Width

/-!
Laying text out on lines of a given number of columns. Lines break before the word that does not
fit; a word that fits on no line is folded over several, or left to be cut.
-/

namespace Reckoner.Console

/-- What becomes of a word that is wider than a line: it goes on in the next one, or it is cut and a
mark tells so. -/
inductive Overflow where
  | fold
  | ellipsis
deriving DecidableEq, Repr

def tabWidth : Nat := 8

/-- Replace tabs by spaces up to the next tab stop, in a line that goes on at a column. A tab is at
least one space wide. -/
def expandTabsFrom (column : Nat) : List Char → List Char
  | [] => []
  | '\t' :: rest =>
    let spaces := tabWidth - column % tabWidth
    List.replicate spaces ' ' ++ expandTabsFrom (column + spaces) rest
  | c :: rest => c :: expandTabsFrom (column + Text.charWidth c) rest

def expandTabs (line : List Char) : List Char := expandTabsFrom 0 line

def splitLines : List Char → List (List Char)
  | [] => [[]]
  | '\n' :: rest => [] :: splitLines rest
  | c :: rest =>
    match splitLines rest with
    | first :: others => (c :: first) :: others
    | [] => [[c]]

def trimRight (chars : List Char) : List Char := (chars.reverse.dropWhile Text.isBlank).reverse

/-- The words of a line, each with the blank characters after it, and the first one with those
before it. A line of blank characters has no words. -/
def blankedWords (line : List Char) : List (List Char) :=
  let start := line.takeWhile Text.isBlank
  match wordsFrom (line.drop start.length) with
  | [] => []
  | first :: others => (start ++ first) :: others
where
  /-- The words of a text that begins with one: characters join the word after them, unless a blank
  character is followed by another word. -/
  wordsFrom : List Char → List (List Char)
    | [] => []
    | c :: rest =>
      match wordsFrom rest with
      | [] => [[c]]
      | word :: others =>
        if Text.isBlank c && !(word.head?.any Text.isBlank) then [c] :: word :: others
        else (c :: word) :: others

/-- A text cut into pieces of at most so many columns, given the piece so far, its last character
first. -/
def chopFrom (columns : Nat) (piece : List Char) : List Char → List (List Char)
  | [] => [piece.reverse]
  | c :: rest =>
    if columns < Text.width piece + Text.charWidth c then
      piece.reverse :: chopFrom columns [c] rest
    else chopFrom columns (c :: piece) rest

/-- A text cut into pieces of at most so many columns. A character that is wider than that stands in
a piece alone. -/
def chop (columns : Nat) (chars : List Char) : List (List Char) := chopFrom columns [] chars

/-- Lines in the making: the complete ones, and the one that words are added to. The column is the
width of the latter so far, blank characters at its end included. -/
structure Lines where
  complete : List (List Char) := []
  current : List Char := []
  column : Nat := 0

def Lines.breakWith (text : List Char) (lines : Lines) : Lines :=
  { complete := if lines.current.isEmpty then lines.complete else lines.complete ++ [lines.current]
    current := text
    column := Text.width text }

def Lines.addWord (columns : Nat) (overflow : Overflow) (lines : Lines) (word : List Char) :
    Lines :=
  let needed := Text.width (trimRight word)
  if lines.column + needed ≤ columns then
    { lines with current := lines.current ++ word, column := lines.column + Text.width word }
  else if columns < needed && overflow = .fold then
    (chop columns word).foldl (fun lines piece => lines.breakWith piece) lines
  else lines.breakWith word

/-- The beginning of a text that takes so many columns; a space stands for the half of a wide
character. -/
def cropped (columns : Nat) : List Char → List Char
  | [] => []
  | c :: rest =>
    if Text.charWidth c ≤ columns then c :: cropped (columns - Text.charWidth c) rest
    else List.replicate columns ' '

/-- Cut a line that is too wide, after the blank characters beyond its width are dropped. So a line
is never cut because of the space after its last word. -/
def fitLine (columns : Nat) (overflow : Overflow) (line : List Char) : List Char :=
  let blanks := (line.reverse.takeWhile Text.isBlank).length
  let line := line.take (line.length - min blanks (line.length - columns))
  if Text.width line ≤ columns then line
  else
    match overflow with
    | .fold => cropped columns line
    | .ellipsis => cropped (columns - 1) line ++ ['…']

/-- A line without line breaks, wrapped to so many columns. A line of nothing but blank characters
has no word, and stays one line. -/
def wrapLine (columns : Nat) (overflow : Overflow) (line : List Char) : List (List Char) :=
  let line := expandTabs line
  let unfitted := match blankedWords line with
    | [] => [line]
    | words =>
      let lines := words.foldl (Lines.addWord columns overflow) {}
      lines.complete ++ [lines.current]
  unfitted.map (fitLine columns overflow)

def wrap (columns : Nat) (overflow : Overflow) (text : List Char) : List (List Char) :=
  (splitLines text).flatMap (wrapLine columns overflow)

/-- A line filled with spaces up to so many columns. -/
def padTo (columns : Nat) (line : List Char) : List Char :=
  line ++ List.replicate (columns - Text.width line) ' '

def centred (columns : Nat) (line : List Char) : List Char :=
  let line := trimRight line
  padTo columns (List.replicate ((columns - Text.width line) / 2) ' ' ++ line)

end Reckoner.Console
