import Reckoner.Text.Substitution

/-!
The symbols of the display in terms of the evaluator's grammar.
-/

namespace Reckoner.Expression

/-- Display symbols and keypad names, with what the grammar writes for them, in the order in which
they are replaced. -/
def symbolTable : List (String × String) := [
  ("×", "*"),
  ("÷", "/"),
  ("−", "-"),
  ("π", "pi"),
  ("lg(", "log10("),
  ("ln(", "log(")]

def replaceSymbol (chars : List Char) (symbol : String × String) : List Char :=
  Text.replaceAll symbol.1.toList symbol.2.toList chars

def replaceSymbols (text : String) : String :=
  String.ofList (symbolTable.foldl replaceSymbol text.toList)

end Reckoner.Expression
