import Reckoner.Proofs.Expression.Calls
import Reckoner.Proofs.Spacing

/-!
What the angle mode reaches. The scopes of the two modes have the same names, and they differ only
in the functions under the trigonometric ones. So the outcome of an input does not depend on the
mode as long as no trigonometric function is called, whether the input has a value or not: a
trigonometric name without its bracket is the same mistake in both modes.
-/

namespace Reckoner

open Expression

def trigonometricNames : List String := ["sin", "cos", "tan", "asin", "acos", "atan"]

theorem keys_trigonometric (mode : AngleMode) :
    (Scope.trigonometric mode).map Prod.fst = trigonometricNames := by
  cases mode <;> rfl

/-- Under any other name a scope has an algebraic function or none. So the two modes differ in the
trigonometric names only, and there in the functions and not in the names. -/
theorem find?_of_not_trigonometric {name : String} (h : name ∉ trigonometricNames)
    (mode : AngleMode) : (Scope.standard mode).find? name = Scope.algebraic.find? name := by
  have hnone : (Scope.trigonometric mode).find? name = none :=
    find?_eq_none (by rwa [keys_trigonometric])
  rw [Scope.find?] at hnone
  rw [Scope.find?, Scope.standard, List.lookup_append, hnone, Option.none_or, Scope.find?]

theorem sameNames_standard (mode mode' : AngleMode) :
    SameNames (Scope.standard mode) (Scope.standard mode') :=
  sameNames_of_keys (by rw [keys_standard, keys_standard])

/-- An input that calls no trigonometric function, or that has no tokens at all, has the same
outcome in both angle modes: the same result, or the same failure for the same cause. -/
theorem evaluatePrimary_eq_of_not_called {input : String}
    (h : ∀ read, tokens (replaceSymbols input) = .ok read →
      ∀ name ∈ trigonometricNames, ¬ Called name read)
    (mode mode' : AngleMode) (places : Int) :
    evaluatePrimary mode places input = evaluatePrimary mode' places input := by
  have hvalue : evaluate (.standard mode) (replaceSymbols input) =
      evaluate (.standard mode') (replaceSymbols input) := by
    refine evaluate_congr (sameNames_standard mode mode') fun read hread name hcalled => ?_
    have hname : name ∉ trigonometricNames := fun hmem => h read hread name hmem hcalled
    rw [find?_of_not_trigonometric hname, find?_of_not_trigonometric hname]
  rw [evaluatePrimary, evaluatePrimary, hvalue]

/-- A sine without its bracket is missed in either mode, and said to be a function in both. The name
occurs in the input, but it is not called. -/
theorem evaluatePrimary_eq_for_uncalled_sine :
    (∀ read, tokens (replaceSymbols "2abs(3÷4)+sin π") = .ok read →
      ∀ name ∈ trigonometricNames, ¬ Called name read) ∧
      evaluatePrimary .degrees 10 "2abs(3÷4)+sin π" =
        evaluatePrimary .radians 10 "2abs(3÷4)+sin π" ∧
      evaluatePrimary .radians 10 "2abs(3÷4)+sin π" =
        .ok (.rejected (.uncalledFunction "sin" 10)) := by
  have hread : tokens (replaceSymbols "2abs(3÷4)+sin π") = .ok [
      ⟨.number 2, 0⟩, ⟨.name "abs", 1⟩, ⟨.opening, 4⟩, ⟨.number 3, 5⟩, ⟨.operator .divide, 6⟩,
      ⟨.number 4, 7⟩, ⟨.closing, 8⟩, ⟨.operator .plus, 9⟩, ⟨.name "sin", 10⟩,
      ⟨.name "pi", 14⟩] := by
    decide +kernel
  have huncalled : ∀ read, tokens (replaceSymbols "2abs(3÷4)+sin π") = .ok read →
      ∀ name ∈ trigonometricNames, ¬ Called name read := by
    intro read h
    rw [hread] at h
    cases h
    decide
  exact ⟨huncalled, evaluatePrimary_eq_of_not_called huncalled .degrees .radians 10,
    by decide +kernel⟩

end Reckoner
