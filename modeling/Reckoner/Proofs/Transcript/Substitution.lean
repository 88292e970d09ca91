import Mathlib.Data.List.Induction
import Reckoner.Proofs.Transcript.Lexeme

/-!
The rules of a transcript, applied one after the other, are one pass of substitution. After any of
them the text is still that of the lexemes of the first, some of them written as symbols. The next
rule finds every lexeme that it spells and nothing else: a symbol begins no spelling, and a word
that could be part of a longer spelling is in a phrase or written already.
-/

namespace Reckoner.Transcript

open Text

/-- How a spelling is found after the rules `front`: as a word, as a phrase, or not at all because
its first word is written as a digit already. -/
def Form (front : List Rule) (spelling : List Char) : Prop :=
  IsWord spelling ∨
  (∃ pair ∈ phrases, spelling = pair.1 ++ ' ' :: pair.2) ∨
  (spelling = "to".toList ++ ' ' :: "the power of".toList ∧ symbolIn? front "to".toList ≠ none)

instance (front : List Rule) (spelling : List Char) : Decidable (Form front spelling) :=
  inferInstanceAs (Decidable (_ ∨ _ ∨ _))

theorem forms_of_rules : ∀ i : Fin rules.length, ∀ spelling ∈ rules[i].texts,
    Form (rules.take i) spelling := by decide

theorem initials_of_spellings : ∀ rule ∈ rules, ∀ spelling ∈ rule.texts,
    spelling.head?.any isWordChar = true ∧ ∀ other ∈ rules, spelling.head? ≠ some other.symbol := by
  decide

theorem first_ne_second : ∀ pair ∈ phrases, ∀ other ∈ phrases, pair.1 ≠ other.2 := by
  decide

theorem initials_of_seconds : ∀ pair ∈ phrases, ∀ rule ∈ rules,
    pair.2.head? ≠ some rule.symbol := by decide

theorem symbols_allowed : ∀ rule ∈ rules, isAllowed rule.symbol = true := by decide

theorem nil_notMem_texts : ∀ rule ∈ rules, [] ∉ rule.texts := by
  intro rule hrule hnil
  have hany := (initials_of_spellings rule hrule [] hnil).1
  cases hany

theorem symbolIn?_separator {part : List Char} (hpart : ∀ c ∈ part, isWordChar c = false) :
    symbolIn? rules part = none := by
  rw [Option.eq_none_iff_forall_ne_some]
  intro symbol hsome
  obtain ⟨rule, hrule, htext, -⟩ := exists_of_symbolIn? hsome
  have hany := (initials_of_spellings rule hrule part htext).1
  obtain ⟨d, hd, hword⟩ := (Option.any_eq_true _ _).mp hany
  rw [hpart d (List.mem_of_head? hd)] at hword
  cases hword

/-- What each part of a text becomes under the rule. The text may hold marks of what earlier rules
wrote. -/
def Rule.segments (rule : Rule) (text : List Stamped) : List Segment :=
  segmentsFrom rule.texts 0 none text

/-- The rule applied to a text, with a mark on what it writes. Without the marks this is the rule as
it is applied to a transcript. -/
def Rule.stamp (rule : Rule) (text : List Stamped) : List Stamped :=
  (rule.segments text).flatMap (Segment.result [rule.symbol])

/-- The parts of a text in which the rule finds one of its spellings. Their marks tell whether they
stood in the text from the beginning. -/
def Rule.occurrences (rule : Rule) (text : List Stamped) : List (List Stamped) :=
  (rule.segments text).filterMap Segment.occurrence?

/-- The text after these rules. Its first stage is the text itself, with nothing marked as
written. -/
def stage (front : List Rule) (chars : List Char) : List Stamped :=
  front.foldl (fun text rule => rule.stamp text) (original chars)

theorem Rule.plain_stamp (rule : Rule) (text : List Stamped) :
    plain (rule.stamp text) = rule.apply (plain text) :=
  plain_segmentsFrom rule.texts [rule.symbol] 0 none text

theorem plain_stage (front : List Rule) (chars : List Char) :
    plain (stage front chars) = front.foldl (fun chars rule => rule.apply chars) chars := by
  induction front using List.reverseRecOn with
  | nil => exact plain_original chars
  | append_singleton front rule ih =>
      simp only [stage, List.foldl_append, List.foldl_cons, List.foldl_nil] at ih ⊢
      rw [Rule.plain_stamp, ih]

namespace Lexeme

/-- The lexeme after the rules `front`. It is one symbol from the rule on that spells it, and
untouched before. -/
def stamped (front : List Rule) (lexeme : Lexeme) : List Stamped :=
  match symbolIn? front lexeme.text with
  | some symbol => written [symbol]
  | none => original lexeme.text

def segments (front : List Rule) (rule : Rule) (lexeme : Lexeme) : List Segment :=
  if symbolIn? front lexeme.text = none ∧ lexeme.text ∈ rule.texts then
    [.replaced (original lexeme.text)]
  else (lexeme.stamped front).map .kept

theorem stamped_of_some {front : List Rule} {lexeme : Lexeme} {symbol : Char}
    (h : symbolIn? front lexeme.text = some symbol) : lexeme.stamped front = written [symbol] := by
  simp [stamped, h]

theorem stamped_of_none {front : List Rule} {lexeme : Lexeme}
    (h : symbolIn? front lexeme.text = none) : lexeme.stamped front = original lexeme.text := by
  simp [stamped, h]

theorem flatMap_result (front : List Rule) (rule : Rule) (lexeme : Lexeme) :
    (lexeme.segments front rule).flatMap (Segment.result [rule.symbol]) =
      lexeme.stamped (front ++ [rule]) := by
  have hafter := symbolIn?_append front [rule] lexeme.text
  rw [symbolIn?_singleton] at hafter
  cases hfront : symbolIn? front lexeme.text with
  | some symbol =>
      rw [hfront, Option.some_or] at hafter
      simp [segments, hfront, Segment.flatMap_kept, stamped_of_some hfront, stamped_of_some hafter]
  | none =>
      rw [hfront, Option.none_or] at hafter
      by_cases htext : lexeme.text ∈ rule.texts
      · rw [if_pos htext] at hafter
        simp [segments, hfront, htext, Segment.result, stamped_of_some hafter]
      · rw [if_neg htext] at hafter
        simp [segments, htext, Segment.flatMap_kept, stamped_of_none hfront, stamped_of_none hafter]

theorem of_mem_segments {front : List Rule} {rule : Rule} {lexeme : Lexeme}
    {occurrence : List Stamped} (h : .replaced occurrence ∈ lexeme.segments front rule) :
    occurrence = original lexeme.text ∧ lexeme.text ∈ rule.texts := by
  rw [segments] at h
  split at h
  · rename_i hreplaced
    exact ⟨by simpa using h, hreplaced.2⟩
  · simp at h

end Lexeme

/-- A lexeme that the rules before left is replaced if the rule finds it, and kept if not. What is
left to show is that it is found as a whole. -/
theorem segmentsFrom_left {front : List Rule} {rule : Rule} {before : Option Char} {lexeme : Lexeme}
    {rest : List Stamped} (hfront : symbolIn? front lexeme.text = none) (hne : lexeme.text ≠ [])
    (hfind : findSpelling rule.texts before (lexeme.text ++ plain rest) =
      if lexeme.text ∈ rule.texts then some lexeme.text else none)
    (hkept : lexeme.text ∉ rule.texts →
      segmentsFrom rule.texts 0 before (original lexeme.text ++ rest) =
        (original lexeme.text).map .kept ++
          segmentsFrom rule.texts 0 (lastChar before (original lexeme.text)) rest) :
    segmentsFrom rule.texts 0 before (lexeme.stamped front ++ rest) =
      lexeme.segments front rule ++
        segmentsFrom rule.texts 0 (lastChar before (lexeme.stamped front)) rest := by
  rw [Lexeme.stamped_of_none hfront, Lexeme.segments]
  split
  · rename_i hreplaced
    rw [if_pos hreplaced.2] at hfind
    exact segmentsFrom_of_some (by simpa [original] using hne) (by rwa [plain_original])
  · rename_i hleft
    rw [Lexeme.stamped_of_none hfront]
    exact hkept fun htext => hleft ⟨hfront, htext⟩

section Step
variable {front back : List Rule} {rule : Rule} (hrules : rules = front ++ rule :: back)
include hrules

theorem front_subset : front ⊆ rules := by
  intro other hother
  rw [hrules]
  exact List.mem_append_left _ hother

theorem rule_mem : rule ∈ rules := by simp [hrules]

theorem form_of_mem {spelling : List Char} (h : spelling ∈ rule.texts) : Form front spelling := by
  have hlength : front.length < rules.length := by simp [hrules]
  have hrule : rules[front.length] = rule := by simp [List.getElem_of_eq hrules]
  have hfront : rules.take front.length = front := by simp [hrules]
  have hform := forms_of_rules ⟨front.length, hlength⟩ spelling (by simpa [hrule] using h)
  rwa [hfront] at hform

theorem symbolIn?_front {text : List Char} (h : symbolIn? rules text = none) :
    symbolIn? front text = none ∧ text ∉ rule.texts := by
  rw [hrules, symbolIn?_append, Option.or_eq_none_iff] at h
  refine ⟨h.1, fun htext => ?_⟩
  have hrest := h.2
  rw [← List.singleton_append, symbolIn?_append, symbolIn?_singleton, if_pos htext] at hrest
  cases hrest

theorem symbol_mem {text : List Char} {symbol : Char} (h : symbolIn? front text = some symbol) :
    ∃ other ∈ rules, other.symbol = symbol := by
  obtain ⟨other, hother, -, hsymbol⟩ := exists_of_symbolIn? h
  exact ⟨other, front_subset hrules hother, hsymbol⟩

/-- At the beginning of a word that the rules before left, that word is found or nothing is, unless
it could be the first of a phrase. -/
theorem findSpelling_word {before : Option Char} {part rest : List Char} (hpart : IsWord part)
    (hfront : symbolIn? front part = none) (hbefore : before.any isWordChar = false)
    (hrest : Breaks rest)
    (hphrase : ∀ second behind, (part, second) ∈ phrases → rest = ' ' :: behind →
      ¬ Stands second behind) :
    findSpelling rule.texts before (part ++ rest) =
      if part ∈ rule.texts then some part else none := by
  refine findSpelling_of_stands_iff hbefore (hpart.head rest) fun spelling hspelling => ?_
  rcases form_of_mem hrules hspelling with hword | ⟨⟨first, second⟩, hpair, rfl⟩ | ⟨rfl, hto⟩
  · exact stands_word_iff hword hpart hrest
  · obtain ⟨hfirst, hsecond, -, -⟩ := words_of_phrase hpair
    rw [stands_words_iff hfirst hsecond.1 hpart hrest]
    constructor
    · rintro ⟨rfl, behind, hbehind, hstands⟩
      exact absurd hstands (hphrase second behind hpair hbehind)
    · rintro rfl
      exact absurd hpart (not_isWord_words first second)
  · rw [stands_words_iff to_isWord (by decide) hpart hrest]
    constructor
    · rintro ⟨rfl, -⟩
      exact absurd hfront hto
    · rintro rfl
      exact absurd hpart (not_isWord_words _ _)

/-- At the beginning of a phrase the phrase is found or nothing is. Its first word is no spelling by
itself, and begins no other phrase that could stand there. -/
theorem findSpelling_phrase {before : Option Char} {first second rest : List Char}
    (hpair : (first, second) ∈ phrases) (hbefore : before.any isWordChar = false)
    (hrest : Breaks rest) :
    findSpelling rule.texts before (first ++ ' ' :: second ++ rest) =
      if first ++ ' ' :: second ∈ rule.texts then some (first ++ ' ' :: second) else none := by
  obtain ⟨hfirst, hsecond, hsymbol, -⟩ := words_of_phrase hpair
  obtain ⟨hfront, hrule⟩ := symbolIn?_front hrules hsymbol
  have hgap : Breaks (' ' :: (second ++ rest)) := by rfl
  rw [List.append_assoc, List.cons_append]
  refine findSpelling_of_stands_iff hbefore (hfirst.head _) fun spelling hspelling => ?_
  rcases form_of_mem hrules hspelling with hword | ⟨⟨first', second'⟩, hpair', rfl⟩ | ⟨rfl, hto⟩
  · rw [stands_word_iff hword hfirst hgap]
    constructor
    · rintro rfl
      exact absurd hspelling hrule
    · rintro rfl
      exact absurd hword (not_isWord_words first second)
  · obtain ⟨hfirst', hsecond', -, -⟩ := words_of_phrase hpair'
    rw [stands_words_iff hfirst' hsecond'.1 hfirst hgap]
    constructor
    · rintro ⟨rfl, behind, hbehind, hstands⟩
      rw [← (List.cons.inj hbehind).2, stands_word_iff hsecond' hsecond hrest] at hstands
      rw [hstands]
    · intro heq
      obtain ⟨rfl, hmore⟩ := run_unique hfirst'.2 hfirst.2 (by rfl) (by rfl) heq
      exact ⟨rfl, _, rfl, (stands_word_iff hsecond' hsecond hrest).mpr (List.cons.inj hmore).2⟩
  · rw [stands_words_iff to_isWord (by decide) hfirst hgap]
    constructor
    · rintro ⟨rfl, -⟩
      exact absurd hfront hto
    · intro heq
      obtain ⟨hto', -⟩ := run_unique to_isWord.2 hfirst.2 (by rfl) (by rfl) heq
      exact absurd (hto' ▸ hfront) hto

/-- The rule lets stand what a rule before wrote: a single symbol, with which no spelling begins. -/
theorem segmentsFrom_substituted {before : Option Char} {lexeme : Lexeme} {symbol : Char}
    {rest : List Stamped} (hsome : symbolIn? front lexeme.text = some symbol) :
    segmentsFrom rule.texts 0 before (lexeme.stamped front ++ rest) =
      lexeme.segments front rule ++
        segmentsFrom rule.texts 0 (lastChar before (lexeme.stamped front)) rest := by
  have hkept : lexeme.segments front rule = (lexeme.stamped front).map .kept := by
    simp [Lexeme.segments, hsome]
  rw [hkept]
  have hrule := rule_mem hrules
  refine segmentsFrom_of_initials (nil_notMem_texts rule hrule) fun c hc spelling hspelling => ?_
  obtain ⟨other, hother, hsymbol⟩ := symbol_mem hrules hsome
  have hchar : c = ⟨symbol, true⟩ := by
    simpa [Lexeme.stamped_of_some hsome, written] using hc
  rw [hchar, ← hsymbol]
  exact (initials_of_spellings rule hrule spelling hspelling).2 other hother

theorem initial_ne_of_separator {spelling : List Char} {c : Char}
    (hspelling : spelling ∈ rule.texts) (hc : isWordChar c = false) :
    spelling.head? ≠ some c := by
  intro hhead
  have hword := (initials_of_spellings rule (rule_mem hrules) spelling hspelling).1
  rw [hhead, Option.any_some, hc] at hword
  cases hword

theorem stamped_separator {part : List Char} (hpart : ∀ c ∈ part, isWordChar c = false) :
    (Lexeme.single part).stamped front = original part :=
  Lexeme.stamped_of_none (symbolIn?_front hrules (symbolIn?_separator hpart)).1

theorem segmentsFrom_separator {before : Option Char} {part : List Char} {rest : List Stamped}
    (hpart : ∀ c ∈ part, isWordChar c = false) :
    segmentsFrom rule.texts 0 before ((Lexeme.single part).stamped front ++ rest) =
      (Lexeme.single part).segments front rule ++
        segmentsFrom rule.texts 0 (lastChar before ((Lexeme.single part).stamped front)) rest := by
  have hrule := (symbolIn?_front hrules (symbolIn?_separator hpart)).2
  have hkept : (Lexeme.single part).segments front rule =
      ((Lexeme.single part).stamped front).map .kept := by
    simp [Lexeme.segments, Lexeme.text, hrule]
  rw [hkept]
  have hne := nil_notMem_texts rule (rule_mem hrules)
  refine segmentsFrom_of_initials hne fun c hc spelling hspelling => ?_
  have hmem : c.char ∈ plain ((Lexeme.single part).stamped front) := List.mem_map_of_mem hc
  rw [stamped_separator hrules hpart, plain_original] at hmem
  exact initial_ne_of_separator hrules hspelling (hpart _ hmem)

theorem segmentsFrom_word {before : Option Char} {part : List Char} {rest : List Stamped}
    (hpart : IsWord part) (hbefore : before.any isWordChar = false) (hrest : Breaks (plain rest))
    (hphrase : ∀ second behind, (part, second) ∈ phrases → plain rest = ' ' :: behind →
      ¬ Stands second behind) :
    segmentsFrom rule.texts 0 before ((Lexeme.single part).stamped front ++ rest) =
      (Lexeme.single part).segments front rule ++
        segmentsFrom rule.texts 0 (lastChar before ((Lexeme.single part).stamped front)) rest := by
  cases hfront : symbolIn? front (Lexeme.single part).text with
  | some symbol => exact segmentsFrom_substituted hrules hfront
  | none =>
      have hfind := findSpelling_word hrules hpart hfront hbefore hrest hphrase
      refine segmentsFrom_left hfront hpart.1 hfind fun htext => ?_
      refine segmentsFrom_of_none (by rwa [plain_original]) ?_
      rw [plain_original]
      exact hfind.trans (if_neg htext)

/-- Where a phrase is not found, its second word is not found by itself either. No rule spells it,
and it is the first word of no phrase. -/
theorem segmentsFrom_phrase_kept {before : Option Char} {first second : List Char}
    {rest : List Stamped} (hpair : (first, second) ∈ phrases) (hrest : Breaks (plain rest))
    (hnone : findSpelling rule.texts before (first ++ ' ' :: second ++ plain rest) = none) :
    segmentsFrom rule.texts 0 before (original (first ++ ' ' :: second) ++ rest) =
      (original (first ++ ' ' :: second)).map .kept ++
        segmentsFrom rule.texts 0 (lastChar before (original (first ++ ' ' :: second))) rest := by
  obtain ⟨hfirst, hsecond, -, hsymbol⟩ := words_of_phrase hpair
  obtain ⟨hfront, hrule⟩ := symbolIn?_front hrules hsymbol
  have hsplit : original (first ++ ' ' :: second) =
      original first ++ (original [' '] ++ original second) := by simp [original]
  have hblank : ∀ c ∈ original [' '], ∀ spelling ∈ rule.texts, spelling.head? ≠ some c.char := by
    intro c hc spelling hspelling
    refine initial_ne_of_separator hrules hspelling ?_
    rw [List.mem_singleton.mp hc]
    decide
  have hfind : findSpelling rule.texts (some ' ') (second ++ plain rest) = none := by
    refine (findSpelling_word hrules hsecond hfront (by decide) hrest ?_).trans (if_neg hrule)
    intro other behind hother
    exact absurd rfl (first_ne_second _ hother _ hpair)
  have hfirst_none : findSpelling rule.texts before
      (plain (original first) ++ plain (original [' '] ++ (original second ++ rest))) = none := by
    simpa using hnone
  rw [hsplit, List.append_assoc, List.append_assoc,
    segmentsFrom_of_none (by rwa [plain_original]) hfirst_none,
    segmentsFrom_of_initials (nil_notMem_texts rule (rule_mem hrules)) hblank,
    segmentsFrom_of_none (by rwa [plain_original]) (by rw [plain_original]; exact hfind)]
  simp [lastChar]

theorem segmentsFrom_phrase {before : Option Char} {first second : List Char}
    {rest : List Stamped} (hpair : (first, second) ∈ phrases)
    (hbefore : before.any isWordChar = false) (hrest : Breaks (plain rest)) :
    segmentsFrom rule.texts 0 before ((Lexeme.phrase first second).stamped front ++ rest) =
      (Lexeme.phrase first second).segments front rule ++
        segmentsFrom rule.texts 0 (lastChar before ((Lexeme.phrase first second).stamped front))
          rest := by
  cases hfront : symbolIn? front (Lexeme.phrase first second).text with
  | some symbol => exact segmentsFrom_substituted hrules hfront
  | none =>
      have hfind := findSpelling_phrase hrules hpair hbefore hrest
      refine segmentsFrom_left hfront (by simp [Lexeme.text]) hfind fun htext => ?_
      exact segmentsFrom_phrase_kept hrules hpair hrest (hfind.trans (if_neg htext))

theorem Lexed.breaks {rest : List Lexeme} (h : Lexed false rest) :
    Breaks (plain (rest.flatMap (Lexeme.stamped front))) := by
  cases h with
  | nil => rfl
  | @separator part rest hne hpart hrest =>
      obtain ⟨c, part, rfl⟩ := List.exists_cons_of_ne_nil hne
      rw [List.flatMap_cons, stamped_separator hrules hpart, plain_append, plain_original]
      simpa [Breaks] using hpart c List.mem_cons_self

/-- The second word of a phrase begins a text only if it is a lexeme there. It could otherwise only
be the first word of another phrase, and is none. -/
theorem Lexed.second {first second : List Char} {rest : List Lexeme} (h : Lexed true rest)
    (hpair : (first, second) ∈ phrases)
    (hstands : Stands second (plain (rest.flatMap (Lexeme.stamped front)))) :
    ∃ more, rest = .single second :: more := by
  have hsecond : IsWord second := (words_of_phrase hpair).2.1
  -- No rule writes a letter, so a lexeme that is written already does not begin with the word.
  have hleft : ∀ lexeme more symbol, rest = lexeme :: more →
      symbolIn? front lexeme.text ≠ some symbol := by
    rintro lexeme more symbol rfl hsome
    obtain ⟨other, hother, rfl⟩ := symbol_mem hrules hsome
    obtain ⟨behind, heq, -⟩ := hstands
    obtain ⟨d, letters, rfl⟩ := List.exists_cons_of_ne_nil hsecond.1
    rw [List.flatMap_cons, Lexeme.stamped_of_some hsome, plain_append, plain_written] at heq
    exact initials_of_seconds _ hpair other hother (by rw [← (List.cons.inj heq).1]; rfl)
  cases h with
  | nil =>
      obtain ⟨behind, heq, -⟩ := hstands
      exact absurd (List.append_eq_nil_iff.mp heq.symm).1 hsecond.1
  | @word part more hpart hsingle hmore =>
      have hnone := Option.eq_none_iff_forall_ne_some.mpr fun symbol => hleft _ _ symbol rfl
      rw [List.flatMap_cons, Lexeme.stamped_of_none hnone, plain_append, plain_original,
        Lexeme.text, stands_word_iff hsecond hpart (hmore.breaks hrules)] at hstands
      exact ⟨more, by rw [hstands]⟩
  | @phrase first' second' more hpair' hmore =>
      have hnone := Option.eq_none_iff_forall_ne_some.mpr fun symbol => hleft _ _ symbol rfl
      have hfirst' : IsWord first' := (words_of_phrase hpair').1
      rw [List.flatMap_cons, Lexeme.stamped_of_none hnone, plain_append, plain_original,
        Lexeme.text, List.append_assoc, stands_word_iff hsecond hfirst' (by rfl)] at hstands
      exact absurd hstands.symm (first_ne_second _ hpair' _ hpair)

/-- A blank and the second word of a phrase begin a text only if they are lexemes there. The blank
alone is then the separator. -/
theorem Lexed.blank_second {first second behind : List Char} {rest : List Lexeme}
    (h : Lexed false rest) (hpair : (first, second) ∈ phrases)
    (hbehind : plain (rest.flatMap (Lexeme.stamped front)) = ' ' :: behind)
    (hstands : Stands second behind) :
    ∃ more, rest = .single [' '] :: .single second :: more := by
  obtain ⟨-, hsecond, -, -⟩ := words_of_phrase hpair
  cases h with
  | nil => cases hbehind
  | @separator part rest hne hpart hrest =>
      rw [List.flatMap_cons, stamped_separator hrules hpart, plain_append,
        plain_original] at hbehind
      obtain ⟨c, part, rfl⟩ := List.exists_cons_of_ne_nil hne
      obtain ⟨rfl, rfl⟩ := List.cons.inj hbehind
      cases part with
      | nil =>
          obtain ⟨more, rfl⟩ := hrest.second hrules hpair hstands
          exact ⟨more, rfl⟩
      | cons d part =>
          obtain ⟨e, letters, rfl⟩ := List.exists_cons_of_ne_nil hsecond.1
          obtain ⟨behind, heq, -⟩ := hstands
          obtain ⟨rfl, -⟩ := List.cons.inj heq
          have hletter : isWordChar d = true := hsecond.2 d List.mem_cons_self
          rw [hpart d (by simp)] at hletter
          cases hletter

/-- The rule applied to the text that the rules before left, lexeme by lexeme. The character before
each is needed only to know that a word begins there. -/
theorem segmentsFrom_lexemes {isRun : Bool} {lexed : List Lexeme} (h : Lexed isRun lexed)
    {before : Option Char} (hbefore : isRun = true → before.any isWordChar = false) :
    segmentsFrom rule.texts 0 before (lexed.flatMap (Lexeme.stamped front)) =
      lexed.flatMap (Lexeme.segments front rule) := by
  induction h generalizing before with
  | nil => rfl
  | @separator part rest hne hpart hrest ih =>
      rw [List.flatMap_cons, List.flatMap_cons, segmentsFrom_separator hrules hpart, ih]
      intro _
      rw [stamped_separator hrules hpart]
      exact lastChar_any (by simpa [original] using hne) (by simpa using hpart)
  | @word part rest hpart hsingle hrest ih =>
      have hphrase : ∀ second behind, (part, second) ∈ phrases →
          plain (rest.flatMap (Lexeme.stamped front)) = ' ' :: behind → ¬ Stands second behind := by
        intro second behind hpair hbehind hstands
        obtain ⟨more, hmore⟩ := hrest.blank_second hrules hpair hbehind hstands
        exact hsingle second more hmore hpair
      rw [List.flatMap_cons, List.flatMap_cons,
        segmentsFrom_word hrules hpart (hbefore rfl) (hrest.breaks hrules) hphrase, ih (by simp)]
  | @phrase first second rest hpair hrest ih =>
      rw [List.flatMap_cons, List.flatMap_cons,
        segmentsFrom_phrase hrules hpair (hbefore rfl) (hrest.breaks hrules), ih (by simp)]

end Step

/-- After any of the rules the text is that of the first, lexeme by lexeme. The induction is on the
rules that have been applied. -/
theorem stage_eq_stamped {front back : List Rule} (hrules : rules = front ++ back)
    (chars : List Char) :
    stage front chars = (lexemes (parts chars)).flatMap (Lexeme.stamped front) := by
  induction front using List.reverseRecOn generalizing back with
  | nil =>
      have htext : (lexemes (parts chars)).flatMap Lexeme.text = chars := by
        rw [flatMap_text_lexemes, parts, List.flatten_splitBy]
      calc stage [] chars = original ((lexemes (parts chars)).flatMap Lexeme.text) := by
            rw [htext]; rfl
        _ = (lexemes (parts chars)).flatMap (Lexeme.stamped []) := List.map_flatMap
  | append_singleton front rule ih =>
      rw [List.append_assoc, List.singleton_append] at hrules
      obtain ⟨isRun, halternate⟩ := exists_alternate chars
      have hstep : stage (front ++ [rule]) chars = rule.stamp (stage front chars) := by
        simp [stage]
      rw [hstep, ih hrules, Rule.stamp, Rule.segments,
        segmentsFrom_lexemes hrules halternate.lexed fun _ => rfl, List.flatMap_assoc]
      simp only [Lexeme.flatMap_result]

theorem stamped_rules_filter (lexeme : Lexeme) :
    (plain (lexeme.stamped rules)).filter isAllowed = lexeme.substitute := by
  cases hsymbol : symbolIn? rules lexeme.text with
  | none => simp [Lexeme.stamped_of_none hsymbol, Lexeme.substitute, hsymbol]
  | some symbol =>
      obtain ⟨rule, hrule, -, rfl⟩ := exists_of_symbolIn? hsymbol
      simp [Lexeme.stamped_of_some hsymbol, Lexeme.substitute, hsymbol, symbols_allowed rule hrule]

theorem foldl_apply_filter (chars : List Char) :
    (rules.foldl (fun chars rule => rule.apply chars) chars).filter isAllowed =
      substitute chars := by
  have hrules : rules = rules ++ [] := by simp
  rw [← plain_stage, stage_eq_stamped hrules, substitute, plain, List.map_flatMap,
    List.filter_flatMap]
  exact congrArg (List.flatMap · _) (funext stamped_rules_filter)

/-- A rule finds lexemes of the first text only, and none that an earlier rule has written. So no
symbol ever takes part in a spelling. -/
theorem lexeme_of_occurrence {front back : List Rule} {rule : Rule}
    (hrules : rules = front ++ rule :: back) {chars : List Char} {occurrence : List Stamped}
    (h : occurrence ∈ rule.occurrences (stage front chars)) :
    ∃ lexeme ∈ lexemes (parts chars), occurrence = original lexeme.text ∧
      lexeme.text ∈ rule.texts := by
  obtain ⟨isRun, halternate⟩ := exists_alternate chars
  rw [Rule.occurrences, Rule.segments, stage_eq_stamped hrules,
    segmentsFrom_lexemes hrules halternate.lexed fun _ => rfl] at h
  obtain ⟨segment, hsegment, hoccurrence⟩ := List.mem_filterMap.mp h
  obtain ⟨lexeme, hlexeme, hsegment⟩ := List.mem_flatMap.mp hsegment
  cases segment with
  | kept c => cases hoccurrence
  | replaced replaced =>
      obtain rfl : replaced = occurrence := Option.some.inj hoccurrence
      exact ⟨lexeme, hlexeme, Lexeme.of_mem_segments hsegment⟩

/-- What the rule does after the rules `front`: it cuts their text into what it keeps and the places
where one of its spellings stands. No rule before has written there. -/
structure FindsOriginal (front : List Rule) (rule : Rule) (chars : List Char) : Prop where
  text : plain (stage front chars) = front.foldl (fun chars rule => rule.apply chars) chars
  cut : (rule.segments (stage front chars)).flatMap Segment.source = stage front chars
  spelled : ∀ occurrence ∈ rule.occurrences (stage front chars), plain occurrence ∈ rule.texts
  unwritten : ∀ occurrence ∈ rule.occurrences (stage front chars),
    ∀ c ∈ occurrence, c.isWritten = false
  never_power : ∀ occurrence ∈ rule.occurrences (stage front chars),
    plain occurrence ≠ "to the power of".toList

theorem findsOriginal {front back : List Rule} {rule : Rule}
    (hrules : rules = front ++ rule :: back) (chars : List Char) :
    FindsOriginal front rule chars := by
  refine ⟨plain_stage front chars,
    flatMap_source_segmentsFrom (nil_notMem_texts rule (rule_mem hrules)) 0 none _, ?_, ?_, ?_⟩
  all_goals
    intro occurrence hoccurrence
    obtain ⟨lexeme, hlexeme, rfl, htext⟩ := lexeme_of_occurrence hrules hoccurrence
  · rwa [plain_original]
  · intro c hc
    obtain ⟨d, -, rfl⟩ := List.mem_map.mp hc
    rfl
  · obtain ⟨isRun, halternate⟩ := exists_alternate chars
    rw [plain_original]
    exact halternate.lexed.text_ne_power lexeme hlexeme

/-- The rules one after the other are one pass of substitution over the text in lower case: none
finds anything in what an earlier one wrote, and none finds "to the power of". -/
theorem canonicalize_eq_substitute (transcript : String) :
    canonicalize transcript = String.ofList (substitute (lower transcript.toList)) ∧
    ∀ i : Fin rules.length,
      FindsOriginal (rules.take i) rules[i] (lower transcript.toList) := by
  refine ⟨by rw [canonicalize, foldl_apply_filter], fun i => ?_⟩
  have hrules : rules = rules.take i ++ rules[i] :: rules.drop (i + 1) := by simp
  exact findsOriginal hrules _

/-- The word "power" is found where it stands by itself. The longer spelling of its rule is never
found, since its first word is a digit by then. -/
theorem power_found :
    canonicalize "two to the power of three" = "22^3" ∧
      ((rules[16]).occurrences
          (stage (rules.take 16) "two to the power of three".toList)).map plain =
        ["power".toList] ∧
      ∀ occurrence ∈ (rules[16]).occurrences
          (stage (rules.take 16) "two to the power of three".toList),
        ∀ c ∈ occurrence, c.isWritten = false := by
  obtain ⟨hcanonical, hrules⟩ := canonicalize_eq_substitute "two to the power of three"
  have hlower : lower "two to the power of three".toList = "two to the power of three".toList := by
    decide +kernel
  rw [hlower] at hcanonical hrules
  refine ⟨hcanonical.trans (by decide +kernel), by decide +kernel, ?_⟩
  exact (hrules ⟨16, by decide⟩).unwritten

/-- A run is spelled as a whole or not at all, and a phrase has one blank. A raised digit belongs to
the run before it, so that run is no spelling. -/
example : String.ofList (substitute "two divided by x² open  parenthesis (".toList) = "2/(" := by
  decide

end Reckoner.Transcript
