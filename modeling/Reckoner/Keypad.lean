/-!
The keys that insert text. A function key has two meanings, and the modifier selects one of them; a
literal key always inserts the same text.
-/

namespace Reckoner

inductive Modifier where
  | primary
  | second
deriving DecidableEq, Repr

namespace Modifier

def name : Modifier → String
  | primary => "primary"
  | second => "second"

def toggle : Modifier → Modifier
  | primary => second
  | second => primary

end Modifier

namespace Keypad

structure Meanings where
  primary : String
  second : String

def Meanings.get (meanings : Meanings) : Modifier → String
  | .primary => meanings.primary
  | .second => meanings.second

def functionKeys : List (String × Meanings) := [
  ("sin", ⟨"sin(", "asin("⟩),
  ("cos", ⟨"cos(", "acos("⟩),
  ("tan", ⟨"tan(", "atan("⟩),
  ("lg", ⟨"lg(", "10^"⟩),
  ("ln", ⟨"ln(", "e^"⟩),
  ("√", ⟨"sqrt(", "^2"⟩)]

def literalKeys : List (String × String) := [
  ("(", "("),
  (")", ")"),
  ("x^y", "^"),
  ("!", "!"),
  ("1/x", "1/"),
  ("e", "e"),
  ("π", "π")]

/-- The text that a function key or literal key inserts; other keys are not in the tables. The
modifier matters for function keys only. -/
def insertion? (key : String) (modifier : Modifier) : Option String :=
  match functionKeys.lookup key with
  | some meanings => some (meanings.get modifier)
  | none => literalKeys.lookup key

end Keypad

end Reckoner
