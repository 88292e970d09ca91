import Reckoner.Binary64.Elementary
import Reckoner.Binary64.Text

/-!
Tokens of expressions, and the causes why an expression has no value. Every cause carries what its
message needs; `position?` is the place in the text that it points at, counted in characters.
-/

namespace Reckoner.Expression

inductive Operator where
  | plus | minus | times | divide | power | bang
deriving DecidableEq, Repr

def Operator.char : Operator → Char
  | plus => '+'
  | minus => '-'
  | times => '*'
  | divide => '/'
  | power => '^'
  | bang => '!'

inductive Lexeme where
  | number (value : Binary64)
  | name (name : String)
  | operator (operator : Operator)
  | opening
  | closing
deriving DecidableEq

/-- A lexeme as it stands in messages: a number shows its value, not its spelling, as the reader
keeps nothing but the value of it. -/
def Lexeme.text : Lexeme → String
  | number value => value.text
  | name spelling => spelling
  | operator op => op.char.toString
  | opening => "("
  | closing => ")"

structure Token where
  lexeme : Lexeme
  position : Nat
deriving DecidableEq

inductive Error where
  | unexpectedCharacter (character : Char) (position : Nat)
  | empty
  | unmatchedClosing (position : Nat)
  | unexpectedToken (lexeme : Lexeme) (position : Nat)
  | unexpectedEnd
  /-- The bracket opened here is not closed where its expression ends. -/
  | unclosed (position : Nat)
  /-- Too many constructs are open at once. -/
  | tooDeep
  | unknownFunction (name : String) (position : Nat)
  /-- A function stands without its bracket. -/
  | uncalledFunction (name : String) (position : Nat)
  | unknownName (name : String) (position : Nat)
  | divisionByZero (position : Nat)
  | negativeFactorial
  | factorialTooLarge
  | math (cause : MathError)
  | notFinite
deriving DecidableEq

namespace Error

def message : Error → String
  | unexpectedCharacter character position =>
    "Unexpected character at position " ++ toString position ++ ": " ++ character.toString
  | empty => "Empty expression"
  | unmatchedClosing _ => "Unmatched ')'"
  | unexpectedToken lexeme _ => "Unexpected token: " ++ lexeme.text
  | unexpectedEnd => "Unexpected end of expression"
  | unclosed _ => "Mismatched parentheses"
  | tooDeep => "Expression is nested too deeply"
  | unknownFunction name _ => "Unknown function: " ++ name
  | uncalledFunction name _ => "Expected '(' after function " ++ name
  | unknownName name _ => "Unknown identifier: " ++ name
  | divisionByZero _ => "Division by zero"
  | negativeFactorial => "Factorial of a negative integer is undefined"
  | factorialTooLarge => "Factorial result too large"
  | math cause => "Evaluation failed: " ++ cause.message
  | notFinite => "Result is not a finite number"

/-- The place that the error points at, if it points at one. Errors about the expression as a whole
have none, nor have those of functions, powers and factorials. -/
def position? : Error → Option Nat
  | unexpectedCharacter _ position | unmatchedClosing position | unexpectedToken _ position
  | unclosed position | unknownFunction _ position | uncalledFunction _ position
  | unknownName _ position | divisionByZero position => some position
  | empty | unexpectedEnd | tooDeep | negativeFactorial | factorialTooLarge | math _
  | notFinite => none

end Error

end Reckoner.Expression
