import Mathlib.Data.List.SplitBy
import Reckoner.Proofs.Text.Substitution
import Reckoner.Transcript

/-!
One pass of substitution over a text. Split into runs of word characters and the separators between
them, the text is read from left to right: a run or a phrase that some rule spells is written as its
symbol, everything else as far as an expression can hold it.
-/

namespace Reckoner.Transcript

open Text

/-- The phrases of two words, one blank apart. None of their words is a spelling by itself, so a
phrase is not spoiled by an earlier rule. -/
def phrases : List (List Char × List Char) := [
  ("multiplied".toList, "by".toList),
  ("divided".toList, "by".toList),
  ("open".toList, "parenthesis".toList),
  ("close".toList, "parenthesis".toList)]

/-- The runs of word characters and the separators between them. Joined, they are the text again,
and none of them is empty. -/
def parts (chars : List Char) : List (List Char) :=
  chars.splitBy fun c d => isWordChar c == isWordChar d

/-- What is written as one: a run, a separator or a phrase. Only phrases reach over a separator. -/
inductive Lexeme
  | single (part : List Char)
  | phrase (first second : List Char)
deriving DecidableEq, Repr

def Lexeme.text : Lexeme → List Char
  | single part => part
  | phrase first second => first ++ ' ' :: second

def lexemes : List (List Char) → List Lexeme
  | first :: gap :: second :: rest =>
    if gap = [' '] ∧ (first, second) ∈ phrases then .phrase first second :: lexemes rest
    else .single first :: lexemes (gap :: second :: rest)
  | part :: rest => .single part :: lexemes rest
  | [] => []

def Rule.texts (rule : Rule) : List (List Char) := rule.spellings.map String.toList

/-- The symbol of the first of these rules with this spelling. A word that two rules have goes to
the one that is applied first. -/
def symbolIn? (table : List Rule) (text : List Char) : Option Char :=
  (table.find? fun rule => rule.texts.contains text).map Rule.symbol

/-- What is spelled is written as its symbol, of everything else what an expression can hold.
Letters are dropped there, digits and marks are kept. -/
def Lexeme.substitute (lexeme : Lexeme) : List Char :=
  match symbolIn? rules lexeme.text with
  | some symbol => [symbol]
  | none => lexeme.text.filter isAllowed

/-- A single pass over the text that substitutes its words and phrases. No rule is asked about what
another one has written. -/
def substitute (chars : List Char) : List Char := (lexemes (parts chars)).flatMap Lexeme.substitute

theorem symbolIn?_append (front back : List Rule) (text : List Char) :
    symbolIn? (front ++ back) text = (symbolIn? front text).or (symbolIn? back text) := by
  simp [symbolIn?, List.find?_append, Option.map_or]

theorem symbolIn?_singleton (rule : Rule) (text : List Char) :
    symbolIn? [rule] text = if text ∈ rule.texts then some rule.symbol else none := by
  by_cases h : text ∈ rule.texts <;> simp [symbolIn?, h]

theorem exists_of_symbolIn? {table : List Rule} {text : List Char} {symbol : Char}
    (h : symbolIn? table text = some symbol) :
    ∃ rule ∈ table, text ∈ rule.texts ∧ rule.symbol = symbol := by
  obtain ⟨rule, hfind, hsymbol⟩ := Option.map_eq_some_iff.mp h
  exact ⟨rule, List.mem_of_find?_eq_some hfind, by simpa using List.find?_some hfind, hsymbol⟩

theorem words_of_phrases : ∀ pair ∈ phrases, IsWord pair.1 ∧ IsWord pair.2 ∧
    symbolIn? rules pair.1 = none ∧ symbolIn? rules pair.2 = none := by decide

theorem words_of_phrase {first second : List Char} (h : (first, second) ∈ phrases) :
    IsWord first ∧ IsWord second ∧ symbolIn? rules first = none ∧ symbolIn? rules second = none :=
  words_of_phrases _ h

theorem to_isWord : IsWord "to".toList := by decide

/-- Runs and separators by turns, from a run on or from a separator. No two of a kind are
neighbours, since they would be one part. -/
inductive Alternate : Bool → List (List Char) → Prop
  | nil (isRun : Bool) : Alternate isRun []
  | cons {isRun : Bool} {part : List Char} {rest : List (List Char)} (hne : part ≠ [])
      (hpart : ∀ c ∈ part, isWordChar c = isRun) (hrest : Alternate (!isRun) rest) :
      Alternate isRun (part :: rest)

theorem alike_of_isChain {c : Char} {part : List Char}
    (h : (c :: part).IsChain fun c d => (isWordChar c == isWordChar d) = true) :
    ∀ d ∈ c :: part, isWordChar d = isWordChar c := by
  induction part generalizing c with
  | nil => simp
  | cons d part ih =>
      rw [List.isChain_cons_cons] at h
      have hcd : isWordChar c = isWordChar d := by simpa using h.1
      intro e he
      rcases List.mem_cons.mp he with rfl | he
      · rfl
      · rw [ih h.2 e he, hcd]

theorem exists_alternate_of_isChain {split : List (List Char)} (hne : [] ∉ split)
    (halike : ∀ part ∈ split, part.IsChain fun c d => (isWordChar c == isWordChar d) = true)
    (hturns : split.IsChain fun part next =>
      ∃ hpart hnext, (isWordChar (part.getLast hpart) == isWordChar (next.head hnext)) = false) :
    ∃ isRun, Alternate isRun split := by
  induction split with
  | nil => exact ⟨true, .nil true⟩
  | cons part rest ih =>
      obtain ⟨isRun, hrest⟩ := ih (fun h => hne (List.mem_cons_of_mem _ h))
        (fun part hpart => halike part (List.mem_cons_of_mem _ hpart)) hturns.tail
      obtain ⟨c, part, rfl⟩ :=
        List.exists_cons_of_ne_nil fun h => hne (h ▸ List.mem_cons_self)
      have hpart := alike_of_isChain (halike _ List.mem_cons_self)
      refine ⟨isWordChar c, .cons (List.cons_ne_nil _ _) hpart ?_⟩
      cases hrest with
      | nil => exact .nil _
      | @cons _ next rest hnext hall hrest =>
          obtain ⟨hlast, hhead, hdiffer⟩ := (List.isChain_cons_cons.mp hturns).1
          rw [hpart _ (List.getLast_mem hlast), hall _ (List.head_mem hhead)] at hdiffer
          have hturn : isRun = !isWordChar c := by
            cases isRun <;> cases hc : isWordChar c <;> simp_all
          rw [← hturn]
          exact .cons hnext hall hrest

theorem exists_alternate (chars : List Char) : ∃ isRun, Alternate isRun (parts chars) :=
  exists_alternate_of_isChain (List.nil_notMem_splitBy _ _)
    (fun _ hpart => List.isChain_of_mem_splitBy hpart)
    (List.isChain_getLast_head_splitBy (fun c d => isWordChar c == isWordChar d) chars)

/-- The lexemes of a text, where no two words that are left single form a phrase. A phrase is
followed by what a run is followed by. -/
inductive Lexed : Bool → List Lexeme → Prop
  | nil (isRun : Bool) : Lexed isRun []
  | separator {part : List Char} {rest : List Lexeme} (hne : part ≠ [])
      (hpart : ∀ c ∈ part, isWordChar c = false) (hrest : Lexed true rest) :
      Lexed false (.single part :: rest)
  | word {part : List Char} {rest : List Lexeme} (hpart : IsWord part)
      (hsingle : ∀ second more, rest = .single [' '] :: .single second :: more →
        (part, second) ∉ phrases)
      (hrest : Lexed false rest) : Lexed true (.single part :: rest)
  | phrase {first second : List Char} {rest : List Lexeme} (hpair : (first, second) ∈ phrases)
      (hrest : Lexed false rest) : Lexed true (.phrase first second :: rest)

theorem flatMap_text_lexemes (split : List (List Char)) :
    (lexemes split).flatMap Lexeme.text = split.flatten := by
  fun_induction lexemes split with
  | case1 first gap second rest hphrase ih => simp [Lexeme.text, ih, hphrase.1]
  | case2 first gap second rest hsingle ih => simp [Lexeme.text, ih]
  | case3 part rest hshort ih => simp [Lexeme.text, ih]
  | case4 => rfl

theorem lexemes_eq_single {split : List (List Char)} {part : List Char} {more : List Lexeme}
    (h : lexemes split = .single part :: more) :
    ∃ rest, split = part :: rest ∧ more = lexemes rest := by
  fun_cases lexemes split with
  | case1 first gap second rest hphrase => simp [lexemes, hphrase] at h
  | case2 first gap second rest hsingle =>
      rw [lexemes, if_neg hsingle] at h
      obtain ⟨hpart, rfl⟩ := List.cons.inj h
      exact ⟨_, by rw [Lexeme.single.inj hpart], rfl⟩
  | case3 part' rest hshort =>
      rw [lexemes] at h
      · obtain ⟨hpart, rfl⟩ := List.cons.inj h
        exact ⟨_, by rw [Lexeme.single.inj hpart], rfl⟩
      · exact hshort
  | case4 => simp [lexemes] at h

theorem Alternate.lexed_single {isRun : Bool} {part : List Char} {rest : List (List Char)}
    (h : Alternate isRun (part :: rest)) (hrest : Lexed (!isRun) (lexemes rest))
    (hsingle : ∀ second more, rest = [' '] :: second :: more → (part, second) ∉ phrases) :
    Lexed isRun (.single part :: lexemes rest) := by
  cases h with
  | cons hne hpart _ =>
      cases isRun with
      | false => exact .separator hne hpart hrest
      | true =>
          refine .word ⟨hne, hpart⟩ ?_ hrest
          intro second more heq
          obtain ⟨behind, rfl, hbehind⟩ := lexemes_eq_single heq
          obtain ⟨more', rfl, -⟩ := lexemes_eq_single hbehind.symm
          exact hsingle second more' rfl

theorem Alternate.lexed {isRun : Bool} {split : List (List Char)} (h : Alternate isRun split) :
    Lexed isRun (lexemes split) := by
  fun_induction lexemes split generalizing isRun with
  | case1 first gap second rest hphrase ih =>
      cases h with
      | cons hne hfirst hgap =>
          have hrun : isRun = true := by
            obtain ⟨c, hc⟩ := List.exists_mem_of_ne_nil _ hne
            rw [← hfirst c hc]
            exact (words_of_phrases _ hphrase.2).1.2 c hc
          subst hrun
          cases hgap with
          | cons _ _ hsecond =>
              cases hsecond with
              | cons _ _ hrest => exact .phrase hphrase.2 (ih hrest)
  | case2 first gap second rest hsingle ih =>
      have hrest : Alternate (!isRun) (gap :: second :: rest) := by cases h; assumption
      refine h.lexed_single (ih hrest) ?_
      intro second' more heq hpair
      injection heq with hgap hmore
      injection hmore with hsecond hmore
      exact hsingle ⟨hgap, hsecond ▸ hpair⟩
  | case3 part rest hshort ih =>
      have hrest : Alternate (!isRun) rest := by cases h; assumption
      exact h.lexed_single (ih hrest) fun second more heq => absurd heq (hshort _ _ _)
  | case4 => exact .nil isRun

theorem Lexed.text_ne_power {isRun : Bool} {lexed : List Lexeme} (h : Lexed isRun lexed) :
    ∀ lexeme ∈ lexed, lexeme.text ≠ "to the power of".toList := by
  induction h with
  | nil => simp
  | @separator part rest hne hpart hrest ih =>
      refine List.forall_mem_cons.mpr ⟨?_, ih⟩
      rintro rfl
      exact absurd (hpart 't' (by decide)) (by decide)
  | @word part rest hpart hsingle hrest ih =>
      refine List.forall_mem_cons.mpr ⟨?_, ih⟩
      rintro rfl
      exact not_isWord_words "to".toList "the power of".toList hpart
  | @phrase first second rest hpair hrest ih =>
      refine List.forall_mem_cons.mpr ⟨?_, ih⟩
      intro htext
      obtain ⟨hfirst, -, hsymbol, -⟩ := words_of_phrase hpair
      change first ++ ' ' :: second = "to".toList ++ " the power of".toList at htext
      obtain ⟨hto, -⟩ := run_unique hfirst.2 to_isWord.2 (by rfl) (by rfl) htext
      rw [hto] at hsymbol
      exact absurd hsymbol (by decide)

end Reckoner.Transcript
