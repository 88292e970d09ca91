import Reckoner.Outcome
import Reckoner.Proofs.Binary64.Text
import Reckoner.Proofs.Expression.Literal
import Reckoner.Proofs.Rounding

/-!
Results as inputs. The text of a result is an expression that is evaluated to the number it shows,
and rounding leaves that number alone, so the result of a result is itself. Negative zero is the one
number that is not recovered, and its text is that of zero.
-/

namespace Reckoner

open Binary64 Expression

theorem Layout.plain_plausible : Layout.plain.Plausible := Or.inr rfl

theorem Layout.display_plausible : Layout.display.Plausible := Or.inl rfl

/-- The text of a number other than zero is evaluated to that number. A minus sign is an operator
there, and turning the sign of a number is exact. -/
theorem evaluate_write (scope : Scope) {layout : Layout} (hlayout : layout.Plausible)
    (negative : Bool) {units : Nat} (h : Representable units) (hpos : 0 < units) :
    evaluate scope (replaceSymbols ((finite negative units h).write layout)) =
      .ok (.finite negative units h) := by
  obtain ⟨n, hn, hne, htext, hvalue⟩ := exists_numeral hlayout h hpos
  cases negative with
  | false =>
      have hfinite : n.value.isFinite = true := by rw [hvalue]; rfl
      rw [write, htext, evaluate_numeral scope hn hne hfinite, hvalue]
  | true =>
      have hturned : -n.value = .finite true units h := by rw [hvalue]; rfl
      have hfinite : (-n.value).isFinite = true := by rw [hturned]; rfl
      rw [write, htext, evaluate_minus_numeral scope hn hne hfinite, hturned]

theorem evaluate_zero (scope : Scope) : evaluate scope (replaceSymbols "0") = .ok (zero false) := by
  have hvalue : Numeral.value ⟨['0'], none, none⟩ = zero false := by decide
  have hwell : Numeral.WellFormed ⟨['0'], none, none⟩ := ⟨by simp [isDigit_eq], by simp, by simp⟩
  have heval := evaluate_numeral scope hwell (by simp) (by rw [hvalue]; rfl)
  rwa [hvalue] at heval

theorem writeResult_of_isZero {x : Binary64} (h : x.isZero = true) : writeResult x = "0" := by
  rw [writeResult, if_pos h]

/-- The text of a result is read as the number that it shows, negative zero apart. Both layouts are
read alike, so it does not matter which was chosen. -/
theorem ofText?_writeResult (x : Binary64) :
    ofText? (writeResult x).toList = some (if x.isZero then zero false else x) := by
  by_cases hzero : x.isZero = true
  · rw [writeResult_of_isZero hzero, if_pos hzero]
    decide
  · rw [if_neg hzero]
    unfold writeResult
    rw [if_neg hzero]
    rw [Bool.not_eq_true] at hzero
    split
    · exact ofText?_write Layout.plain_plausible hzero
    · exact ofText?_write Layout.display_plausible hzero

/-- The text of a result is evaluated to the number that it shows. Nothing in it depends on the
names in scope, so it is the same in either angle mode. -/
theorem evaluate_writeResult (scope : Scope) {x : Binary64} (hfinite : x.isFinite = true) :
    ∃ y, evaluate scope (replaceSymbols (writeResult x)) = .ok y ∧
      (y = x ∨ x.isZero = true ∧ y = zero false) := by
  cases x with
  | nan | infinity negative => cases hfinite
  | finite negative units h =>
      rcases Nat.eq_zero_or_pos units with rfl | hpos
      · exact ⟨_, evaluate_zero scope, Or.inr ⟨rfl, rfl⟩⟩
      · have hnonzero : (finite negative units h).isZero = false := by
          obtain ⟨m, rfl⟩ := Nat.exists_eq_succ_of_ne_zero hpos.ne'
          rfl
        refine ⟨_, ?_, Or.inl rfl⟩
        unfold writeResult
        rw [if_neg (by simp [hnonzero])]
        split
        · exact evaluate_write scope Layout.plain_plausible negative h hpos
        · exact evaluate_write scope Layout.display_plausible negative h hpos

theorem formatResult_of_rounded {x y : Binary64} {places : Int} (hfinite : x.isFinite = true)
    (h : roundDecimal x places = .ok y) : formatResult x places = .ok (writeResult y) := by
  simp only [formatResult, hfinite, if_true, h]

/-- A text that was formatted shows a rounded number, and the number before the rounding was finite,
or there would be no text. -/
theorem formatResult_eq_ok {x : Binary64} {places : Int} {text : String}
    (h : formatResult x places = .ok text) :
    x.isFinite = true ∧
      ∃ rounded, roundDecimal x places = .ok rounded ∧ text = writeResult rounded := by
  unfold formatResult at h
  split at h
  · rename_i hfinite
    cases hround : roundDecimal x places with
    | error cause =>
        rw [hround] at h
        cases h
    | ok rounded =>
        rw [hround] at h
        exact ⟨hfinite, rounded, rfl, (Except.ok.inj h).symm⟩
  · cases h

theorem evaluatePrimary_of_value {mode : AngleMode} {places : Int} {input text : String}
    {value : Binary64} (hvalue : evaluate (.standard mode) (replaceSymbols input) = .ok value)
    (htext : formatResult value places = .ok text) :
    evaluatePrimary mode places input = .ok (.success text false) := by
  rw [evaluatePrimary, hvalue]
  simp only [htext, Except.map]

/-- A result of the first stage is the text of a number. Which number that is depends on the input
and the angle mode, but the text only on the number and the places. -/
theorem evaluatePrimary_eq_success {mode : AngleMode} {places : Int} {input text : String}
    {viaFallback : Bool} (h : evaluatePrimary mode places input = .ok (.success text viaFallback)) :
    ∃ value, formatResult value places = .ok text := by
  unfold evaluatePrimary at h
  split at h
  · rename_i value _
    refine ⟨value, ?_⟩
    cases hformat : formatResult value places with
    | error cause =>
        rw [hformat] at h
        cases h
    | ok shown =>
        rw [hformat] at h
        cases h
        rfl
  · cases h

/-- The text of a result, evaluated as an input with the same decimal places and any angle mode, is
its own result. -/
theorem evaluatePrimary_fixedPoint {mode : AngleMode} {places : Int} {input text : String}
    {viaFallback : Bool} (hlow : 0 ≤ places) (hhigh : places ≤ 91)
    (h : evaluatePrimary mode places input = .ok (.success text viaFallback)) (mode' : AngleMode) :
    evaluatePrimary mode' places text = .ok (.success text false) := by
  obtain ⟨value, htext⟩ := evaluatePrimary_eq_success h
  obtain ⟨hfinite, rounded, hround, rfl⟩ := formatResult_eq_ok htext
  obtain ⟨hrounded, hagain⟩ := roundDecimal_idempotent hfinite hlow hhigh hround
  obtain ⟨y, hvalue, hy⟩ := evaluate_writeResult (.standard mode') hrounded
  apply evaluatePrimary_of_value hvalue
  rcases hy with rfl | ⟨hzero, rfl⟩
  · exact formatResult_of_rounded hrounded hagain
  · have hshown : writeResult rounded = writeResult (zero false) := by
      rw [writeResult_of_isZero hzero, writeResult_of_isZero rfl]
    rw [hshown]
    exact formatResult_of_rounded rfl (roundDecimal_zero hlow hhigh false)

/-- A sign and an exponent come back as they were written, evaluated in the other angle mode. -/
theorem negative_exponent_fixed :
    (0 : Int) ≤ 10 ∧ (10 : Int) ≤ 91 ∧
      evaluatePrimary .radians 10 "0.2-3*7e21" = .ok (.success "-2.1e+22" false) ∧
      evaluatePrimary .degrees 10 "-2.1e+22" = .ok (.success "-2.1e+22" false) := by
  have hfirst : evaluatePrimary .radians 10 "0.2-3*7e21" = .ok (.success "-2.1e+22" false) := by
    decide +kernel
  exact ⟨by decide, by decide, hfirst,
    evaluatePrimary_fixedPoint (by decide) (by decide) hfirst .degrees⟩

end Reckoner
