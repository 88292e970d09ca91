import Reckoner.Session.Basic
import Reckoner.Proofs.Expression.Continuation
import Reckoner.Proofs.Outcome

/-!
Results that are continued. The text of a result is one operand, perhaps with a minus sign, so what
an operator makes of it is what it makes of the number shown. The exception is a power of a negative
result: a sign binds less tightly than a power, so the power is that of the magnitude.
-/

namespace Reckoner

open Binary64 Expression

/-- The literals that continue a result are operators of the grammar, but for the percent sign. That
one has no meaning in an expression, and every text with it is rejected. -/
theorem Session.exists_glyph {literal : String} (h : literal ∈ continuationOperators)
    (hpercent : literal ≠ "%") : ∃ operator : Binary, literal = operator.glyph := by
  simp only [continuationOperators, List.mem_cons, List.not_mem_nil, or_false] at h
  rcases h with rfl | rfl | rfl | rfl | rfl | rfl
  · exact ⟨.add, rfl⟩
  · exact ⟨.subtract, rfl⟩
  · exact ⟨.multiply, rfl⟩
  · exact ⟨.divide, rfl⟩
  · exact absurd rfl hpercent
  · exact ⟨.power, rfl⟩

/-- Two evaluations come to the same, except that the causes of rejections may differ. A cause holds
the place of what is wrong, and brackets move that. -/
inductive Agree : Except FormatError Outcome → Except FormatError Outcome → Prop where
  | same (result : Except FormatError Outcome) : Agree result result
  | rejected (cause cause' : Expression.Error) :
      Agree (.ok (.rejected cause)) (.ok (.rejected cause'))

theorem agree_of_evaluate {mode : AngleMode} {input input' : String}
    (h : ∀ value, evaluate (.standard mode) (replaceSymbols input) = .ok value ↔
      evaluate (.standard mode) (replaceSymbols input') = .ok value) (places : Int) :
    Agree (evaluatePrimary mode places input) (evaluatePrimary mode places input') := by
  unfold evaluatePrimary
  cases hvalue : evaluate (.standard mode) (replaceSymbols input) with
  | ok value =>
      rw [(h value).mp hvalue]
      exact .same _
  | error cause =>
      cases hvalue' : evaluate (.standard mode) (replaceSymbols input') with
      | ok value =>
          rw [(h value).mpr hvalue'] at hvalue
          cases hvalue
      | error cause' => exact .rejected cause cause'

/-- Two texts are interchangeable before an operator if they yield the same, whatever follows.
Neither holds anything that rewriting would touch, so what follows is rewritten alike. -/
theorem agree_of_yields {mode : AngleMode} {text text' : String} {operator : Binary}
    (hplain : ∀ c ∈ text.toList, Plain c) (hplain' : ∀ c ∈ text'.toList, Plain c)
    (h : ∀ value after,
      (Progress.operand []).Yields (.standard mode) 0
          (text.toList ++ operator.symbol.char :: after) value ↔
        (Progress.operand []).Yields (.standard mode) 0
          (text'.toList ++ operator.symbol.char :: after) value)
    (places : Int) (rest : String) :
    Agree (evaluatePrimary mode places (text ++ operator.glyph ++ rest))
      (evaluatePrimary mode places (text' ++ operator.glyph ++ rest)) := by
  apply agree_of_evaluate
  intro value
  rw [evaluate_eq_ok_iff_yields, evaluate_eq_ok_iff_yields, toList_replaceSymbols_continued hplain,
    toList_replaceSymbols_continued hplain', h]

/-- The text consists of an operand, after a minus sign if it is negative. What is shown of a number
has one of these two forms. -/
def Shows (text : String) (negative : Bool) (first : Char) (others : List Char) : Prop :=
  text.toList = if negative then '-' :: first :: others else first :: others

/-- Every number but zero is written as one operand and its sign: a numeral, or one of the words for
what is not finite. Either way it begins with a character that no blank and no symbol has. -/
theorem exists_operand_write {layout : Layout} (hlayout : layout.Plausible) {x : Binary64}
    (hx : x.isZero = false) :
    ∃ negative first others lexeme, Operand first others lexeme ∧
      Shows (x.write layout) negative first others := by
  have hinfinite : Operand 'i' ['n', 'f'] (.name "inf") :=
    operand_name (plain_of_all (by decide)) (by decide) (by decide) (by decide)
      (by decide)
  cases x with
  | nan =>
      have hnan : Operand 'n' ['a', 'n'] (.name "nan") :=
        operand_name (plain_of_all (by decide)) (by decide) (by decide)
          (by decide) (by decide)
      exact ⟨false, _, _, _, hnan, by simp [Shows, write]⟩
  | infinity negative =>
      refine ⟨negative, _, _, _, hinfinite, ?_⟩
      cases negative <;> simp [Shows, write]
  | finite negative units h =>
      have hpos : 0 < units := by
        rcases Nat.eq_zero_or_pos units with rfl | hpos
        · cases hx
        · exact hpos
      obtain ⟨n, hn, hne, htext, -⟩ := exists_numeral hlayout h hpos
      obtain ⟨first, others, hchars, hoperand⟩ := exists_operand_numeral hn hne
      refine ⟨negative, first, others, _, hoperand, ?_⟩
      cases negative <;> simp [Shows, write, htext, hchars]

/-- The text of a result is one operand and its sign. A zero is written without the sign it may
have, so it is a single digit. -/
theorem exists_operand_writeResult (x : Binary64) :
    ∃ negative first others lexeme, Operand first others lexeme ∧
      Shows (writeResult x) negative first others := by
  cases hx : x.isZero with
  | true =>
      have hwell : Numeral.WellFormed ⟨['0'], none, none⟩ :=
        ⟨by simp [isDigit_eq], by simp, by simp⟩
      obtain ⟨first, others, hchars, hoperand⟩ := exists_operand_numeral hwell (by simp)
      rw [writeResult_of_isZero hx]
      exact ⟨false, first, others, _, hoperand, hchars⟩
  | false =>
      unfold writeResult
      rw [if_neg (by simp [hx])]
      split
      · exact exists_operand_write Layout.plain_plausible hx
      · exact exists_operand_write Layout.display_plausible hx

theorem plain_append {text text' : String} (h : ∀ c ∈ text.toList, Plain c)
    (h' : ∀ c ∈ text'.toList, Plain c) : ∀ c ∈ (text ++ text').toList, Plain c := by
  intro c hc
  rw [String.toList_append] at hc
  rcases List.mem_append.mp hc with hc | hc
  · exact h c hc
  · exact h' c hc

theorem plain_bracketed {opening text : String}
    (hopening : opening.toList.all (fun c => decide (Plain c)) = true)
    (h : ∀ c ∈ text.toList, Plain c) : ∀ c ∈ (opening ++ text ++ ")").toList, Plain c :=
  plain_append (plain_append (plain_of_all hopening) h) (plain_of_all (by decide))

namespace Expression.Operand

variable {first : Char} {others : List Char} {lexeme : Lexeme} {text : String}

/-- A result that is not negative may as well stand in brackets. It is one operand, and no operator
gets between its parts. -/
theorem agree_bracketed (h : Operand first others lexeme) (htext : text.toList = first :: others)
    (mode : AngleMode) (places : Int) (operator : Binary) (rest : String) :
    Agree (evaluatePrimary mode places (text ++ operator.glyph ++ rest))
      (evaluatePrimary mode places ("(" ++ text ++ ")" ++ operator.glyph ++ rest)) := by
  have hplain : ∀ c ∈ text.toList, Plain c := htext ▸ h.plain
  apply agree_of_yields hplain (plain_bracketed (by decide) hplain)
  intro value after
  simpa [htext] using h.yields_bracketed_iff (by decide) operator.symbol after

/-- A negative result may as well stand in brackets, unless a power is taken of it. All other
operators bind less tightly than its sign. -/
theorem agree_minus_bracketed (h : Operand first others lexeme)
    (htext : text.toList = '-' :: first :: others) {operator : Binary}
    (hoperator : operator ≠ .power) (mode : AngleMode) (places : Int) (rest : String) :
    Agree (evaluatePrimary mode places (text ++ operator.glyph ++ rest))
      (evaluatePrimary mode places ("(" ++ text ++ ")" ++ operator.glyph ++ rest)) := by
  have hplain : ∀ c ∈ text.toList, Plain c := by
    rw [htext]
    exact List.forall_mem_cons.mpr ⟨by decide, h.plain⟩
  apply agree_of_yields hplain (plain_bracketed (by decide) hplain)
  intro value after
  simpa [htext] using h.yields_minus_bracketed_iff hoperator after

/-- After a sign, the magnitude that a power is taken of may as well stand in brackets. That is what
the text of a negative result before a power means. -/
theorem agree_minus_power (h : Operand first others lexeme) (htext : text.toList = first :: others)
    (mode : AngleMode) (places : Int) (rest : String) :
    Agree (evaluatePrimary mode places ("-" ++ text ++ "^" ++ rest))
      (evaluatePrimary mode places ("-(" ++ text ++ ")" ++ "^" ++ rest)) := by
  have hplain : ∀ c ∈ text.toList, Plain c := htext ▸ h.plain
  change Agree (evaluatePrimary mode places ("-" ++ text ++ Binary.power.glyph ++ rest))
    (evaluatePrimary mode places ("-(" ++ text ++ ")" ++ Binary.power.glyph ++ rest))
  apply agree_of_yields (plain_append (plain_of_all (by decide)) hplain)
    (plain_bracketed (by decide) hplain)
  intro value after
  simpa [htext, Binary.symbol, Operator.char] using h.yields_minus_power_iff after

end Expression.Operand

/-- An operator that is typed after a result applies to the number shown: the text of the result may
as well stand in brackets, whatever follows the operator. A power of a negative result is the
exception. There the sign stands before the power of the magnitude, brackets or not. -/
theorem evaluatePrimary_continued {mode : AngleMode} {places : Int} {input text : String}
    {viaFallback : Bool} (h : evaluatePrimary mode places input = .ok (.success text viaFallback))
    (mode' : AngleMode) (places' : Int) (rest : String) :
    (∀ operator ∈ Session.continuationOperators, operator ≠ "%" →
      (operator = "^" → text.toList.head? ≠ some '-') →
      Agree (evaluatePrimary mode' places' (text ++ operator ++ rest))
        (evaluatePrimary mode' places' ("(" ++ text ++ ")" ++ operator ++ rest))) ∧
    (∀ magnitude, text = "-" ++ magnitude →
      Agree (evaluatePrimary mode' places' (text ++ "^" ++ rest))
        (evaluatePrimary mode' places' ("-(" ++ magnitude ++ ")" ++ "^" ++ rest))) := by
  obtain ⟨value, hformat⟩ := evaluatePrimary_eq_success h
  obtain ⟨-, rounded, -, rfl⟩ := formatResult_eq_ok hformat
  obtain ⟨negative, first, others, lexeme, hoperand, hshows⟩ := exists_operand_writeResult rounded
  cases negative with
  | false =>
      have htext : (writeResult rounded).toList = first :: others := hshows
      constructor
      · intro operator hoperator hpercent _
        obtain ⟨binary, rfl⟩ := Session.exists_glyph hoperator hpercent
        exact hoperand.agree_bracketed htext mode' places' binary rest
      · intro magnitude hmagnitude
        rw [hmagnitude, String.toList_append] at htext
        exact absurd (List.cons.inj htext).1.symm hoperand.first_ne_minus
  | true =>
      have htext : (writeResult rounded).toList = '-' :: first :: others := hshows
      constructor
      · intro operator hoperator hpercent hpower
        obtain ⟨binary, rfl⟩ := Session.exists_glyph hoperator hpercent
        have hbinary : binary ≠ .power := by
          rintro rfl
          exact hpower rfl (by rw [htext]; rfl)
        exact hoperand.agree_minus_bracketed htext hbinary mode' places' rest
      · rintro magnitude hmagnitude
        rw [hmagnitude] at htext ⊢
        rw [String.toList_append] at htext
        exact hoperand.agree_minus_power (List.cons.inj htext).2 mode' places' rest

/-- A product with a negative result is one with the number shown, and a power is turned: the sign
is applied to the power and not to the base. -/
theorem evaluatePrimary_continued_negative :
    evaluatePrimary .radians 10 "1.5-4" = .ok (.success "-2.5" false) ∧
      "×" ∈ Session.continuationOperators ∧ "×" ≠ "%" ∧
      Agree (evaluatePrimary .degrees 2 ("-2.5" ++ "×" ++ "4+1"))
        (evaluatePrimary .degrees 2 ("(" ++ "-2.5" ++ ")" ++ "×" ++ "4+1")) ∧
      Agree (evaluatePrimary .degrees 2 ("-2.5" ++ "^" ++ "4+1"))
        (evaluatePrimary .degrees 2 ("-(" ++ "2.5" ++ ")" ++ "^" ++ "4+1")) := by
  have hresult : evaluatePrimary .radians 10 "1.5-4" = .ok (.success "-2.5" false) := by
    decide +kernel
  obtain ⟨hoperator, hpower⟩ := evaluatePrimary_continued hresult .degrees 2 "4+1"
  exact ⟨hresult, by decide, by decide, hoperator "×" (by decide) (by decide) (by simp),
    hpower "2.5" rfl⟩

/-- A power of a negative result is that of the magnitude, turned, and not that of the number
shown. -/
theorem negative_result_power_differs :
    evaluatePrimary .radians 10 "0-1" = .ok (.success "-1" false) ∧
      "^" ∈ Session.continuationOperators ∧
      evaluatePrimary .radians 10 ("-1" ++ "^" ++ "1e999") = .ok (.success "-1" false) ∧
      evaluatePrimary .radians 10 ("(" ++ "-1" ++ ")" ++ "^" ++ "1e999") =
        .ok (.success "1" false) := by
  decide +kernel

end Reckoner
