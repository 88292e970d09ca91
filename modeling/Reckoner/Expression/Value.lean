import Reckoner.Expression.Scope
import Reckoner.Expression.Token
import Reckoner.Expression.Tree

/-!
The value of an expression. Operands are evaluated in reading order, and a function is looked up
before its argument is evaluated, so the error reported is the first in that order.
-/

namespace Reckoner.Expression

def constant? : String → Option Binary64
  | "pi" => some Binary64.pi
  | "e" => some Binary64.e
  | _ => none

def largestFactorial : Nat := 170

/-- Factorial: the product up to a whole number, and the gamma function between whole numbers. The
product is limited to what is finite. -/
def factorial (x : Binary64) : Except Error Binary64 :=
  match x with
  | .nan => .error (.math .nanInteger)
  | .infinity _ => .error (.math .infiniteInteger)
  | .finite .. =>
    match x.toInt? with
    | some n =>
      if n < 0 then .error .negativeFactorial
      else if largestFactorial < n then .error .factorialTooLarge
      else .ok (.ofNat (Binary64.productUpTo n.toNat))
    | none => (Binary64.gamma (x + 1)).mapError .math

def Binary.apply (operator : Binary) (position : Nat) (x y : Binary64) : Except Error Binary64 :=
  match operator with
  | .add => .ok (x + y)
  | .subtract => .ok (x - y)
  | .multiply => .ok (x * y)
  | .divide => if y.isZero then .error (.divisionByZero position) else .ok (x / y)
  | .power => (x.pow y).mapError .math

/-- The value of a name without a bracket: only constants have one. The name of a function and one
that nothing has are different errors. -/
def nameValue (scope : Scope) (name : String) (position : Nat) : Except Error Binary64 :=
  match constant? name with
  | some value => .ok value
  | none =>
    if (scope.find? name).isSome then .error (.uncalledFunction name position)
    else .error (.unknownName name position)

def Tree.value (scope : Scope) : Tree → Except Error Binary64
  | .number value => .ok value
  | .name spelling position => nameValue scope spelling position
  | .call function position argument =>
    match scope.find? function with
    | none => .error (.unknownFunction function position)
    | some operation => do
      let x ← argument.value scope
      (operation x).mapError .math
  | .group inner => inner.value scope
  | .plus operand => operand.value scope
  | .negate operand => do
    let x ← operand.value scope
    return -x
  | .binary operator position left right => do
    let x ← left.value scope
    let y ← right.value scope
    operator.apply position x y
  | .adjoined left right => do
    let x ← left.value scope
    let y ← right.value scope
    return x * y
  | .factorial operand => do
    let x ← operand.value scope
    Expression.factorial x
  | .fault cause => .error cause
  | .broken read cause => do
    let _ ← read.value scope
    .error cause

def evaluate (scope : Scope) (text : String) : Except Error Binary64 := do
  let tokens ← tokens text
  let value ← (Tree.ofTokens tokens).value scope
  if value.isFinite then return value else throw .notFinite

end Reckoner.Expression
