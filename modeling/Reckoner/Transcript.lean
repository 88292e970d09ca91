import Reckoner.Text.Lowercase
import Reckoner.Text.Substitution

/-!
From a spoken transcript to the characters of an expression. The spellings are replaced rule by
rule, each as whole words of the text in lower case, and whatever is left that no expression can
hold is dropped.
-/

namespace Reckoner.Transcript

structure Rule where
  spellings : List String
  symbol : Char
deriving Repr

/-- The rules in the order in which they apply. Words that sound alike are told apart by this order
only: "to" is always the digit. -/
def rules : List Rule := [
  ⟨["one", "won"], '1'⟩,
  ⟨["two", "to", "too"], '2'⟩,
  ⟨["three"], '3'⟩,
  ⟨["four", "for"], '4'⟩,
  ⟨["five"], '5'⟩,
  ⟨["six"], '6'⟩,
  ⟨["seven"], '7'⟩,
  ⟨["eight"], '8'⟩,
  ⟨["nine"], '9'⟩,
  ⟨["zero"], '0'⟩,
  ⟨["plus", "add"], '+'⟩,
  ⟨["minus", "subtract"], '-'⟩,
  ⟨["times", "multiply", "multiplied by"], '*'⟩,
  ⟨["divided by", "divide", "over"], '/'⟩,
  ⟨["point", "dot"], '.'⟩,
  ⟨["x"], '*'⟩,
  ⟨["power", "to the power of"], '^'⟩,
  ⟨["open parenthesis"], '('⟩,
  ⟨["close parenthesis"], ')'⟩]

def Rule.apply (rule : Rule) (chars : List Char) : List Char :=
  Text.replaceWords (rule.spellings.map String.toList) [rule.symbol] chars

def isAllowed (c : Char) : Bool := ('0' ≤ c && c ≤ '9') || "+-*/^().".toList.contains c

def canonicalize (transcript : String) : String :=
  let replaced := rules.foldl (fun chars rule => rule.apply chars) (Text.lower transcript.toList)
  String.ofList (replaced.filter isAllowed)

end Reckoner.Transcript
