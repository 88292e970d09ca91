import Reckoner.Binary64.Gamma

/-!
The functions that an expression may call. A scope is a list of named functions of one argument; the
angle mode decides what the trigonometric names mean, and nothing else.
-/

namespace Reckoner

inductive AngleMode where
  | degrees
  | radians
deriving DecidableEq, Repr

namespace AngleMode

def name : AngleMode → String
  | degrees => "degrees"
  | radians => "radians"

def toggle : AngleMode → AngleMode
  | degrees => radians
  | radians => degrees

end AngleMode

/-- A function of one argument, which may have no value there. What it fails with is a mathematical
error, which has no position. -/
abbrev Operation := Binary64 → Except MathError Binary64

abbrev Scope := List (String × Operation)

namespace Scope

def find? (scope : Scope) (name : String) : Option Operation := scope.lookup name

def radiansPerDegree : Binary64 := Binary64.pi / 180

def degreesPerRadian : Binary64 := 180 / Binary64.pi

def fromDegrees (f : Operation) : Operation := fun x => f (x * radiansPerDegree)

/-- A function whose value is an angle, given in degrees. Only the value is converted, so where
there is none the failure is the same. -/
def toDegrees (f : Operation) : Operation := fun x => (f x).map (· * degreesPerRadian)

def trigonometric : AngleMode → Scope
  | .radians =>
    [("sin", Binary64.sin), ("cos", Binary64.cos), ("tan", Binary64.tan),
      ("asin", Binary64.asin), ("acos", Binary64.acos), ("atan", Binary64.atan)]
  | .degrees =>
    [("sin", fromDegrees Binary64.sin), ("cos", fromDegrees Binary64.cos),
      ("tan", fromDegrees Binary64.tan), ("asin", toDegrees Binary64.asin),
      ("acos", toDegrees Binary64.acos), ("atan", toDegrees Binary64.atan)]

def algebraic : Scope :=
  [("sqrt", Binary64.squareRoot), ("log", Binary64.log), ("log10", Binary64.log10),
    ("exp", Binary64.exp), ("abs", fun x => .ok x.abs)]

def standard (mode : AngleMode) : Scope := trigonometric mode ++ algebraic

def names (scope : Scope) : List String := (scope.map Prod.fst).mergeSort (fun a b => a ≤ b)

end Scope

end Reckoner
