import Reckoner.Expression.Symbols
import Reckoner.Proofs.Expression.Grammar

/-!
What the replacement of the display's symbols leaves alone. A text is rewritten only from where some
symbol begins, so plain characters stay, and what follows them is rewritten as if it stood alone. A
symbol of one character becomes what replaces it.
-/

namespace Reckoner

/-- What stands before the first place where the pattern can begin is left alone. The first
character of the pattern is enough to know that. -/
theorem Text.replaceFrom_append {first : Char} {pattern replacement front : List Char}
    (h : first ∉ front) (rest : List Char) :
    Text.replaceFrom (first :: pattern) replacement 0 (front ++ rest) =
      front ++ Text.replaceFrom (first :: pattern) replacement 0 rest := by
  induction front with
  | nil => rfl
  | cons c front ih =>
      have hc : first ≠ c := fun heq => h (heq ▸ List.mem_cons_self)
      have hfront : first ∉ front := fun hmem => h (List.mem_cons_of_mem c hmem)
      simp [Text.replaceFrom, hc, ih hfront]

namespace Expression

/-- No symbol of the display begins with the character. A text of such characters is not changed by
rewriting. -/
def Plain (c : Char) : Prop := ∀ symbol ∈ symbolTable, symbol.1.toList.head? ≠ some c

instance : DecidablePred Plain := fun c =>
  inferInstanceAs (Decidable (∀ symbol ∈ symbolTable, symbol.1.toList.head? ≠ some c))

theorem plain_of_all {chars : List Char} (h : chars.all (fun c => decide (Plain c)) = true) :
    ∀ c ∈ chars, Plain c := by
  simpa using h

theorem symbol_ne_nil : ∀ symbol ∈ symbolTable, symbol.1.toList ≠ [] := by decide

theorem foldl_replaceSymbol_append {symbols : List (String × String)} {front : List Char}
    (hsymbols : ∀ symbol ∈ symbols, symbol ∈ symbolTable)
    (h : ∀ c ∈ front, ∀ symbol ∈ symbols, symbol.1.toList.head? ≠ some c) (rest : List Char) :
    symbols.foldl replaceSymbol (front ++ rest) = front ++ symbols.foldl replaceSymbol rest := by
  induction symbols generalizing rest with
  | nil => rfl
  | cons symbol others ih =>
      have hkept : replaceSymbol (front ++ rest) symbol = front ++ replaceSymbol rest symbol := by
        cases hpattern : symbol.1.toList with
        | nil => exact absurd hpattern (symbol_ne_nil symbol (hsymbols symbol (by simp)))
        | cons first pattern =>
            have habsent : first ∉ front := by
              intro hin
              exact h first hin symbol (by simp) (by simp [hpattern])
            simp only [replaceSymbol, Text.replaceAll, hpattern]
            exact Text.replaceFrom_append habsent rest
      rw [List.foldl_cons, List.foldl_cons, hkept]
      apply ih
      · exact fun other hin => hsymbols other (List.mem_cons_of_mem symbol hin)
      · exact fun c hc other hin => h c hc other (List.mem_cons_of_mem symbol hin)

theorem foldl_replaceSymbol_cons {symbols : List (String × String)} {c : Char}
    (hsymbols : ∀ symbol ∈ symbols, symbol ∈ symbolTable)
    (h : ∀ symbol ∈ symbols, symbol.1.toList.head? ≠ some c) (rest : List Char) :
    symbols.foldl replaceSymbol (c :: rest) = c :: symbols.foldl replaceSymbol rest := by
  have hkept : symbols.foldl replaceSymbol ([c] ++ rest) =
      [c] ++ symbols.foldl replaceSymbol rest :=
    foldl_replaceSymbol_append hsymbols (by simpa using h) rest
  exact hkept

/-- A symbol of one character is replaced, and what replaces it stays if nothing later in the table
begins with it. -/
theorem foldl_replaceSymbol_replaced (before : List (String × String))
    {after : List (String × String)} {c new : Char}
    (htable : symbolTable = before ++ (String.ofList [c], String.ofList [new]) :: after)
    (hbefore : ∀ symbol ∈ before, symbol.1.toList.head? ≠ some c)
    (hafter : ∀ symbol ∈ after, symbol.1.toList.head? ≠ some new) (rest : List Char) :
    symbolTable.foldl replaceSymbol (c :: rest) = new :: symbolTable.foldl replaceSymbol rest := by
  have hreplaced (chars : List Char) :
      replaceSymbol (c :: chars) (String.ofList [c], String.ofList [new]) =
        new :: replaceSymbol chars (String.ofList [c], String.ofList [new]) := by
    simp [replaceSymbol, Text.replaceAll, Text.replaceFrom]
  have hmem (symbol : String × String) (h : symbol ∈ before ∨ symbol ∈ after) :
      symbol ∈ symbolTable := by
    rw [htable]
    rcases h with h | h <;> simp [h]
  rw [htable, List.foldl_append, List.foldl_append, List.foldl_cons, List.foldl_cons,
    foldl_replaceSymbol_cons (fun symbol h => hmem symbol (Or.inl h)) hbefore, hreplaced,
    foldl_replaceSymbol_cons (fun symbol h => hmem symbol (Or.inr h)) hafter]

/-- What the display shows for an operator. Only two of them are shown by another character than the
grammar has for them. -/
def Binary.glyph : Binary → String
  | add => "+"
  | subtract => "-"
  | multiply => "×"
  | divide => "÷"
  | power => "^"

/-- The operator takes the place of what the display shows for it, and what follows is rewritten by
itself. -/
theorem foldl_replaceSymbol_glyph (operator : Binary) (rest : List Char) :
    symbolTable.foldl replaceSymbol (operator.glyph.toList ++ rest) =
      operator.symbol.char :: symbolTable.foldl replaceSymbol rest := by
  cases operator with
  | add | subtract | power => exact foldl_replaceSymbol_cons (fun _ => id) (by decide) rest
  | multiply => exact foldl_replaceSymbol_replaced [] rfl (by decide) (by decide) rest
  | divide => exact foldl_replaceSymbol_replaced [("×", "*")] rfl (by decide) (by decide) rest

/-- Rewriting a text that an operator continues, and whatever else follows. The text is left alone,
and the operator keeps it apart from the rest. -/
theorem toList_replaceSymbols_continued {text : String} (htext : ∀ c ∈ text.toList, Plain c)
    (operator : Binary) (rest : String) :
    (replaceSymbols (text ++ operator.glyph ++ rest)).toList =
      text.toList ++ operator.symbol.char :: symbolTable.foldl replaceSymbol rest.toList := by
  rw [replaceSymbols, String.toList_ofList, String.toList_append, String.toList_append,
    List.append_assoc, foldl_replaceSymbol_append (fun _ => id) htext, foldl_replaceSymbol_glyph]

end Expression

end Reckoner
