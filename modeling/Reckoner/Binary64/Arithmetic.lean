import Reckoner.Binary64.Basic

/-!
Arithmetic of binary64 numbers: each operation is the exact one on counts of steps, rounded once.
Nothing here fails; an operation without a value gives `nan`.
-/

namespace Reckoner.Binary64

/-- Sum of two signed counts: equal signs add, different signs subtract, and an exact zero of
different signs is positive. -/
def add : Binary64 → Binary64 → Binary64
  | .nan, _ | _, .nan => .nan
  | .infinity s, .infinity t => if s = t then .infinity s else .nan
  | .infinity s, .finite .. => .infinity s
  | .finite .., .infinity t => .infinity t
  | .finite s a _, .finite t b _ =>
    if s = t then roundQuotient s (a + b) 1
    else if a = b then zero false
    else if b < a then roundQuotient s (a - b) 1
    else roundQuotient t (b - a) 1

def sub (x y : Binary64) : Binary64 := x.add y.neg

/-- Product. The counts multiply to a count of steps of `2 ^ -2148`, so the exact product is a
quotient of counts and is rounded once, like that of any other operation. -/
def mul : Binary64 → Binary64 → Binary64
  | .nan, _ | _, .nan => .nan
  | .infinity s, .infinity t => .infinity (s != t)
  | .infinity s, .finite t b _ => if b = 0 then .nan else .infinity (s != t)
  | .finite s a _, .infinity t => if a = 0 then .nan else .infinity (s != t)
  | .finite s a _, .finite t b _ => roundQuotient (s != t) (a * b) unitsPerOne

/-- Quotient. Division by zero is an answer here and no fault: a nonzero number over zero is
infinite, and zero over zero is no number. Whoever refuses a divisor has to look at it before. -/
def div : Binary64 → Binary64 → Binary64
  | .nan, _ | _, .nan => .nan
  | .infinity _, .infinity _ => .nan
  | .infinity s, .finite t _ _ => .infinity (s != t)
  | .finite s _ _, .infinity t => zero (s != t)
  | .finite s a _, .finite t b _ =>
    if b = 0 then (if a = 0 then .nan else .infinity (s != t))
    else roundQuotient (s != t) (a * unitsPerOne) b

instance : Add Binary64 := ⟨add⟩
instance : Sub Binary64 := ⟨sub⟩
instance : Mul Binary64 := ⟨mul⟩
instance : Div Binary64 := ⟨div⟩

/-- The bits of the square root of `n` below position `bits`, on top of the `root` found so far. A
bit belongs to the root if the square of the root with that bit is still at most `n`. -/
def rootBits (n : Nat) : Nat → Nat → Nat
  | 0, root => root
  | bits + 1, root =>
    let next := root + Nat.pow 2 bits
    rootBits n bits (if next * next ≤ n then next else root)

/-- The largest natural number whose square is at most `n`. The root has about half the bits of `n`,
which says where the search for them begins. -/
def floorRoot (n : Nat) : Nat := rootBits n (n.log2 / 2 + 1) 0

/-- Square root, rounded once. A root that is not whole lies strictly between two counts, and the
half between them stands for it: every rounding boundary that matters is a whole count. -/
def sqrt : Binary64 → Binary64
  | .nan => .nan
  | .infinity false => .infinity false
  | .infinity true => .nan
  | .finite s units h =>
    if units = 0 then .finite s units h
    else if s then .nan
    else
      let square := units * unitsPerOne
      let root := floorRoot square
      roundQuotient false (2 * root + if root * root = square then 0 else 1) 2

end Reckoner.Binary64
