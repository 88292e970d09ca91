import Reckoner.Expression.Value
import Reckoner.Proofs.Expression.Symbols
import Reckoner.Proofs.Numeral

/-!
A numeral as an expression. Its characters are none that the symbols of the display begin with, so
it is left alone by their replacement; it is one token, whatever symbol follows it; and its value is
the number it denotes, turned when a minus sign stands before it.
-/

namespace Reckoner

namespace Numeral

/-- The characters that numerals are made of. Signs are among them, since an exponent may have
one. -/
def Character (c : Char) : Prop := isDigit c = true ∨ c ∈ ['.', 'e', 'E', '+', '-']

instance : DecidablePred Character := fun _ => inferInstanceAs (Decidable (_ ∨ _))

theorem character_of_mem_text {n : Numeral} (h : n.WellFormed) {c : Char} (hc : c ∈ n.text) :
    Character c := by
  obtain ⟨whole, fraction, exponent⟩ := n
  simp only [text, List.mem_append] at hc
  rcases hc with hc | hc | hc
  · exact Or.inl (h.whole c hc)
  · cases fraction with
    | none => cases hc
    | some digits =>
        rcases List.mem_cons.mp hc with rfl | hc
        · exact Or.inr (by decide)
        · exact Or.inl (h.fraction digits rfl c hc)
  · cases exponent with
    | none => cases hc
    | some e =>
        have hwell := h.exponent e rfl
        rcases List.mem_cons.mp hc with rfl | hc
        · rcases hwell.mark with hmark | hmark <;> rw [hmark] <;> exact Or.inr (by decide)
        rcases List.mem_append.mp hc with hc | hc
        · rcases hwell.sign c (Option.mem_toList.mp hc) with rfl | rfl <;> exact Or.inr (by decide)
        · exact Or.inl (hwell.digits c hc)

end Numeral

namespace Expression

theorem isBlank_of_isDigit {c : Char} (h : isDigit c = true) : Text.isBlank c = false := by
  have hbounds : 48 ≤ c.toNat ∧ c.toNat ≤ 57 := by
    simp only [isDigit, Bool.and_eq_true, decide_eq_true_eq] at h
    exact h
  simp only [Text.isBlank, Text.blankRanges, Text.inRanges]
  rw [if_neg (by omega), if_neg (by omega), if_pos (by omega)]
  simp
  omega

theorem plain_of_character {c : Char} (h : Numeral.Character c) : Plain c := by
  have hfirst : ∀ symbol ∈ symbolTable,
      symbol.1.toList.head?.all (fun first => decide (¬ Numeral.Character first)) = true := by
    decide
  intro symbol hsymbol hhead
  have hnot := hfirst symbol hsymbol
  rw [hhead] at hnot
  exact of_decide_eq_true hnot h

theorem replaceSymbols_of_characters {chars : List Char} (h : ∀ c ∈ chars, Numeral.Character c) :
    replaceSymbols (String.ofList chars) = String.ofList chars := by
  have hplain : ∀ c ∈ chars, Plain c := fun c hc => plain_of_character (h c hc)
  have hkept := foldl_replaceSymbol_append (fun _ => id) hplain []
  rw [List.append_nil] at hkept
  rw [replaceSymbols, String.toList_ofList, hkept]
  exact congrArg String.ofList (List.append_nil chars)

theorem tokensFrom_nil (position : Nat) : tokensFrom position [] = .ok [] := by
  rw [tokensFrom]

theorem tokensFrom_cons {c : Char} {rest : List Char} {scanned : Scanned}
    (hblank : Text.isBlank c = false) (h : Scanned.ofChars? c rest = some scanned)
    (position : Nat) :
    tokensFrom position (c :: rest) =
      (tokensFrom (position + scanned.taken.length) scanned.rest).map
        (⟨scanned.lexeme, position⟩ :: ·) := by
  rw [tokensFrom, hblank]
  simp only [Bool.false_eq_true, if_false]
  split
  · rename_i hnone
    rw [h] at hnone
    cases hnone
  · rename_i found hfound
    rw [h] at hfound
    obtain rfl := Option.some.inj hfound
    rfl

/-- The characters that are lexemes by themselves: operators, marks and brackets. None of them is
part of a numeral without exponent, or of a name. -/
def symbolChars : List Char := ['+', '-', '*', '/', '^', '!', '(', ')']

theorem mem_symbolChars {c : Char} {lexeme : Lexeme} (h : Lexeme.ofChar? c = some lexeme) :
    c ∈ symbolChars := by
  unfold Lexeme.ofChar? at h
  split at h
  case h_9 => cases h
  all_goals decide

/-- A symbol continues neither a numeral nor a name. So a symbol ends the lexeme before it,
whichever that is. -/
theorem symbolChars_facts {c : Char} (h : c ∈ symbolChars) :
    (isDigit c = false ∧ c ∉ ['.', 'e', 'E']) ∧ Text.isWordChar c = false ∧
      startsName c = false ∧ Text.isBlank c = false := by
  simp only [symbolChars, List.mem_cons, List.not_mem_nil, or_false] at h
  rcases h with rfl | rfl | rfl | rfl | rfl | rfl | rfl | rfl <;> decide

theorem ends_of_symbol {c : Char} (h : c ∈ symbolChars) (rest : List Char) :
    Numeral.Ends (c :: rest) := by
  rintro _ ⟨⟩
  exact (symbolChars_facts h).1

/-- A symbol is a lexeme by itself. The text after it makes no difference, for it is not looked
at. -/
theorem ofChars?_symbol {c : Char} {lexeme : Lexeme} (h : Lexeme.ofChar? c = some lexeme)
    (rest : List Char) : Scanned.ofChars? c rest = some ⟨lexeme, [c], rest⟩ := by
  obtain ⟨⟨hdigit, hpoint⟩, -, hname, -⟩ := symbolChars_facts (mem_symbolChars h)
  have hnumeral : startsNumeral c rest = false := by
    have hc : c ≠ '.' := fun heq => hpoint (by simp [heq])
    simp [startsNumeral, hdigit, hc]
  simp [Scanned.ofChars?, hnumeral, hname, h]

/-- A numeral is one lexeme up to where it ends. It begins with a digit here, as every written
number does. -/
theorem ofChars?_numeral {n : Numeral} (h : n.WellFormed) (hne : n.whole ≠ []) :
    ∃ c others, n.text = c :: others ∧ isDigit c = true ∧ ∀ rest, Numeral.Ends rest →
      Scanned.ofChars? c (others ++ rest) = some ⟨.number n.value, n.text, rest⟩ := by
  cases hwhole : n.whole with
  | nil => exact absurd hwhole hne
  | cons c digits =>
      have hc : isDigit c = true := h.whole c (by simp [hwhole])
      obtain ⟨others, htext⟩ : ∃ others, n.text = c :: others := by
        rw [Numeral.text, hwhole]
        exact ⟨_, rfl⟩
      refine ⟨c, others, htext, hc, fun rest hrest => ?_⟩
      have hscan := Numeral.scan_text_append h hrest
      rw [htext, List.cons_append] at hscan
      simp [Scanned.ofChars?, startsNumeral, hc, hscan]

/-- A numeral is one token, if nothing else stands in the text. Nothing follows that could be read
together with it. -/
theorem tokensFrom_numeral {n : Numeral} (h : n.WellFormed) (hne : n.whole ≠ []) (position : Nat) :
    tokensFrom position n.text = .ok [⟨.number n.value, position⟩] := by
  obtain ⟨c, others, htext, hc, hscanned⟩ := ofChars?_numeral h hne
  have hwhole := hscanned [] Numeral.ends_nil
  rw [List.append_nil] at hwhole
  rw [htext, tokensFrom_cons (isBlank_of_isDigit hc) hwhole, tokensFrom_nil]
  rfl

/-- A symbol is a token of its own, and the tokens after it are those of the rest, one place further
on. -/
theorem tokensFrom_symbol {c : Char} {lexeme : Lexeme} (h : Lexeme.ofChar? c = some lexeme)
    (rest : List Char) (position : Nat) :
    tokensFrom position (c :: rest) =
      (tokensFrom (position + 1) rest).map (⟨lexeme, position⟩ :: ·) :=
  tokensFrom_cons (symbolChars_facts (mem_symbolChars h)).2.2.2 (ofChars?_symbol h rest) position

/-- A numeral is evaluated to the number it denotes, if that is finite. Rewriting leaves it alone,
since no symbol of the display is made of such characters. -/
theorem evaluate_numeral (scope : Scope) {n : Numeral} (h : n.WellFormed) (hne : n.whole ≠ [])
    (hfinite : n.value.isFinite = true) :
    evaluate scope (replaceSymbols (String.ofList n.text)) = .ok n.value := by
  have htokens : tokens (String.ofList n.text) = .ok [⟨.number n.value, 0⟩] := by
    rw [tokens, String.toList_ofList, tokensFrom_numeral h hne]
  have htree : Tree.ofTokens [⟨.number n.value, 0⟩] = .number n.value := rfl
  rw [replaceSymbols_of_characters fun c hc => n.character_of_mem_text h hc, evaluate, htokens]
  simp only [bind, Except.bind, htree, Tree.value, pure, Except.pure, hfinite, if_true]

/-- A numeral after a minus sign is evaluated to the number it denotes, turned. Negative numbers are
read like that, since no numeral has a sign. -/
theorem evaluate_minus_numeral (scope : Scope) {n : Numeral} (h : n.WellFormed)
    (hne : n.whole ≠ []) (hfinite : (-n.value).isFinite = true) :
    evaluate scope (replaceSymbols (String.ofList ('-' :: n.text))) = .ok (-n.value) := by
  have hcharacters : ∀ c ∈ '-' :: n.text, Numeral.Character c := by
    intro c hc
    rcases List.mem_cons.mp hc with rfl | hc
    · decide
    · exact n.character_of_mem_text h hc
  have htokens : tokens (String.ofList ('-' :: n.text)) =
      .ok [⟨.operator .minus, 0⟩, ⟨.number n.value, 1⟩] := by
    rw [tokens, String.toList_ofList, tokensFrom_symbol rfl, tokensFrom_numeral h hne]
    rfl
  have htree : Tree.ofTokens [⟨.operator .minus, 0⟩, ⟨.number n.value, 1⟩] =
      .negate (.number n.value) := rfl
  rw [replaceSymbols_of_characters hcharacters, evaluate, htokens]
  simp only [bind, Except.bind, htree, Tree.value, pure, Except.pure, hfinite, if_true]

end Expression

end Reckoner
