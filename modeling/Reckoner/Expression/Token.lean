import Reckoner.Expression.Error
import Reckoner.Numeral
import Reckoner.Text.Blank
import Reckoner.Text.Letter

/-!
Splitting a text into tokens. At each place the longest token that begins there is taken; blank
characters are passed over. `Scanned` keeps the characters that were taken, and
`Scanned.taken_append_rest` says that nothing is lost between two tokens.
-/

namespace Reckoner.Expression

def Lexeme.ofChar? : Char → Option Lexeme
  | '+' => some (.operator .plus)
  | '-' => some (.operator .minus)
  | '*' => some (.operator .times)
  | '/' => some (.operator .divide)
  | '^' => some (.operator .power)
  | '!' => some (.operator .bang)
  | '(' => some .opening
  | ')' => some .closing
  | _ => none

structure Scanned where
  lexeme : Lexeme
  taken : List Char
  rest : List Char

def startsNumeral (c : Char) (rest : List Char) : Bool :=
  isDigit c || (c = '.' && rest.head?.any isDigit)

def startsName (c : Char) : Bool := Text.isLetter c || c = '_'

/-- The longest lexeme at the beginning of `c :: rest`. Numerals come before names and names before
symbols, which is no choice, as no two of them begin alike. -/
def Scanned.ofChars? (c : Char) (rest : List Char) : Option Scanned :=
  if startsNumeral c rest then
    let (numeral, after) := Numeral.scan (c :: rest)
    some ⟨.number numeral.value, numeral.text, after⟩
  else if startsName c then
    let name := c :: rest.takeWhile Text.isWordChar
    some ⟨.name (String.ofList name), name, rest.dropWhile Text.isWordChar⟩
  else
    (Lexeme.ofChar? c).map fun lexeme => ⟨lexeme, [c], rest⟩

theorem Scanned.taken_append_rest {c : Char} {rest : List Char} {scanned : Scanned}
    (h : Scanned.ofChars? c rest = some scanned) : scanned.taken ++ scanned.rest = c :: rest := by
  unfold Scanned.ofChars? at h
  split at h
  · cases h
    exact Numeral.text_append_rest (c :: rest)
  split at h
  · cases h
    simp
  · obtain ⟨lexeme, -, rfl⟩ := Option.map_eq_some_iff.1 h
    rfl

theorem scan_text_ne_nil {c : Char} {rest : List Char} (h : startsNumeral c rest = true) :
    (Numeral.scan (c :: rest)).1.text ≠ [] := by
  by_cases hc : isDigit c = true
  · simp [Numeral.scan, Numeral.text, hc]
  · have hpoint : c = '.' := by
      simp only [startsNumeral, Bool.or_eq_true, Bool.and_eq_true, decide_eq_true_eq] at h
      exact (h.resolve_left hc).1
    subst hpoint
    simp [Numeral.scan, Numeral.text, hc, Numeral.scanFraction]

theorem Scanned.rest_lt {c : Char} {rest : List Char} {scanned : Scanned}
    (h : Scanned.ofChars? c rest = some scanned) : scanned.rest.length < (c :: rest).length := by
  have happend := congrArg List.length (Scanned.taken_append_rest h)
  have htaken : scanned.taken ≠ [] := by
    unfold Scanned.ofChars? at h
    split at h
    · rename_i hnumeral
      cases h
      exact scan_text_ne_nil hnumeral
    split at h
    · cases h
      simp
    · obtain ⟨lexeme, -, rfl⟩ := Option.map_eq_some_iff.1 h
      simp
  have hpos : 0 < scanned.taken.length := List.length_pos_iff.2 htaken
  simp only [List.length_append, List.length_cons] at happend ⊢
  omega

def tokensFrom (position : Nat) : List Char → Except Error (List Token)
  | [] => .ok []
  | c :: rest =>
    if Text.isBlank c then tokensFrom (position + 1) rest
    else
      match _h : Scanned.ofChars? c rest with
      | none => .error (.unexpectedCharacter c position)
      | some scanned => do
        let tokens ← tokensFrom (position + scanned.taken.length) scanned.rest
        return ⟨scanned.lexeme, position⟩ :: tokens
termination_by chars => chars.length
decreasing_by
  · exact Nat.lt_succ_self _
  · exact Scanned.rest_lt ‹_›

def tokens (text : String) : Except Error (List Token) := tokensFrom 0 text.toList

end Reckoner.Expression
