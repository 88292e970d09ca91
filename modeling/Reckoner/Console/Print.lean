import Reckoner.Console.Markup
import Reckoner.Console.Table

/-!
Printing on a screen of eighty columns: texts with markup, and tables whose cells have markup.
-/

namespace Reckoner.Console

def screenWidth : Nat := 80

def joinLines (lines : List (List Char)) : String :=
  String.ofList (lines.flatMap fun line => line ++ ['\n'])

def printed (markup : String) : Except MarkupError String := do
  let text ← renderMarkup markup
  return joinLines (wrap screenWidth .fold text)

/-- A table as it is printed. Title and headings have no markup, and a tag that cannot be applied in
any cell fails the whole table. -/
def printedTable (title : String) (headings : List String) (rows : List (List String)) :
    Except MarkupError String := do
  let cells ← rows.mapM fun row => row.mapM renderMarkup
  return joinLines (Table.lines ⟨title.toList, headings.map String.toList, cells⟩ screenWidth)

end Reckoner.Console
