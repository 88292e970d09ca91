import Reckoner.Console.Layout

/-!
Tables with a title, a head and lines around them. A table is as wide as its content needs; if that
is more than the screen has, the widest columns are narrowed first, all alike.
-/

namespace Reckoner.Console

/-- A table; every row has a cell for each heading. -/
structure Table where
  title : List Char
  headings : List (List Char)
  rows : List (List (List Char))

namespace Table

def padding : Nat := 2

/-- The lines of a text for the purpose of measuring: they end at every character that ends a line,
paragraph or page, or separates records. -/
def isLineEnd (c : Char) : Bool :=
  ('\n' ≤ c && c ≤ '\r') || ('\x1c' ≤ c && c ≤ '\x1e') || c = '\u0085' || c = '\u2028' ||
    c = '\u2029'

/-- The columns of the widest line of a text, given those of the line so far. A line end that stands
last begins a line of no columns. -/
def widestFrom (columns : Nat) : List Char → Nat
  | [] => columns
  | c :: rest =>
    if isLineEnd c then max columns (widestFrom 0 rest)
    else widestFrom (columns + Text.charWidth c) rest

/-- The columns of a cell, padding included, where so many are there. The text is cut down to what
is there before the padding is added, and both together get no more than that. -/
def cellWidth (available : Nat) (cell : List Char) : Nat :=
  min (min (widestFrom 0 cell) available + padding) available

def ruleWidth (table : Table) : Nat := table.headings.length + 1

def column (table : Table) (index : Nat) : List (List Char) :=
  (table.headings :: table.rows).map fun row => row.getD index []

/-- The widths that the columns need where so many are there: for each column that of its widest
cell, the heading included. -/
def neededWidths (table : Table) (available : Nat) : List Nat :=
  (List.range table.headings.length).map fun index =>
    ((table.column index).map (cellWidth available)).foldl max 0

def total (widths : List Nat) : Nat := widths.foldl (· + ·) 0

/-- The quotient rounded to the nearest number, a half to the even one. A share of the excess is
rounded so, and what is left of the excess is shared anew. -/
def nearestEvenQuotient (num den : Nat) : Nat :=
  let quotient := num / den
  let twice := 2 * (num % den)
  if twice < den ∨ (twice = den ∧ quotient % 2 = 0) then quotient else quotient + 1

/-- Take `excess` off the values that are chosen, in equal shares but no more than `most` off
each. -/
def reduce (excess most : Nat) : List (Nat × Bool) → List Nat
  | [] => []
  | (value, false) :: rest => value :: reduce excess most rest
  | (value, true) :: rest =>
    let shares := rest.countP Prod.snd + 1
    let share := min most (nearestEvenQuotient excess shares)
    (value - share) :: reduce (excess - share) most rest

/-- The second largest of the widths, zero if all are equal. The widest columns are narrowed to it
before any other one is. -/
def secondLargest (largest : Nat) (widths : List Nat) : Nat :=
  (widths.filter (· ≠ largest)).foldl max 0

/-- Narrow the widest columns until the widths have the given sum. Each step makes the widest
columns as narrow as the next ones. -/
def narrow : Nat → Nat → List Nat → List Nat
  | 0, _, widths => widths
  | fuel + 1, available, widths =>
    if total widths ≤ available then widths
    else
      let excess := total widths - available
      let largest := widths.foldl max 0
      let most := min excess (largest - secondLargest largest widths)
      if most = 0 then widths
      else narrow fuel available (reduce excess most (widths.map fun w => (w, w = largest)))

def widths (table : Table) (screen : Nat) : List Nat :=
  let available := screen - table.ruleWidth
  let needed := table.neededWidths available
  narrow (total needed + 1) available needed

/-- A horizontal line: its ends, what it consists of, and what stands between columns. -/
def rule (left dash between right : Char) (widths : List Nat) : List Char :=
  left :: ([between].intercalate (widths.map fun w => List.replicate w dash)) ++ [right]

/-- The lines of a row, with a vertical line between and around its cells. A cell with fewer lines
than another is filled up with blank ones. -/
def rowLines (bar between : Char) (widths : List Nat) (cells : List (List Char)) :
    List (List Char) :=
  let columns := (widths.zip cells).map fun (w, cell) =>
    (w, (wrap (w - padding) .ellipsis cell).map fun line =>
      ' ' :: (padTo (w - padding) line ++ [' ']))
  let height := (columns.map fun (_, lines) => lines.length).foldl max 1
  (List.range height).map fun index =>
    bar :: ([between].intercalate (columns.map fun (w, lines) =>
      lines.getD index (List.replicate w ' ')) ++ [bar])

/-- The lines of a table on a screen of so many columns: the title above, then the headings between
rules, and the rows one after the other. -/
def lines (table : Table) (screen : Nat) : List (List Char) :=
  let widths := table.widths screen
  let columns := total widths + table.ruleWidth
  (wrap columns .fold table.title).map (centred columns) ++
    [rule '┏' '━' '┳' '┓' widths] ++
    rowLines '┃' '┃' widths table.headings ++
    [rule '┡' '━' '╇' '┩' widths] ++
    table.rows.flatMap (rowLines '│' '│' widths) ++
    [rule '└' '─' '┴' '┘' widths]

end Table

end Reckoner.Console
