import Mathlib.Data.List.Basic
import Reckoner.Text.Substitution

/-!
What the replacement of words finds. A spelling stands as whole words only where a run of word
characters begins, and only if its first word is all of that run. `segmentsFrom` goes over a text
as `replaceWordsFrom` does and keeps what becomes of each part of it; its text is marked, so that
the characters that a replacement wrote are told from the others.
-/

namespace Reckoner.Text

def IsWord (chars : List Char) : Prop := chars ≠ [] ∧ ∀ c ∈ chars, isWordChar c = true

instance (chars : List Char) : Decidable (IsWord chars) :=
  decidable_of_iff (chars ≠ [] ∧ chars.all isWordChar = true) (by simp [IsWord])

theorem IsWord.head {word : List Char} (hword : IsWord word) (rest : List Char) :
    (word ++ rest).head?.any isWordChar = true := by
  obtain ⟨c, word, rfl⟩ := List.exists_cons_of_ne_nil hword.1
  simpa using hword.2 c List.mem_cons_self

theorem not_isWord_words (first more : List Char) : ¬ IsWord (first ++ ' ' :: more) := by
  intro hword
  have hblank : isWordChar ' ' = true := hword.2 ' ' (by simp)
  exact absurd hblank (by decide)

/-- The text continues no word that ends before it. It may be empty, or begin with any other
character. -/
def Breaks (chars : List Char) : Prop := chars.head?.any isWordChar = false

theorem takeWhile_run {run rest : List Char} (hrun : ∀ c ∈ run, isWordChar c = true)
    (hrest : Breaks rest) : (run ++ rest).takeWhile isWordChar = run := by
  rw [List.takeWhile_append_of_pos hrun]
  cases rest with
  | nil => simp
  | cons c rest =>
      have hc : isWordChar c = false := by simpa [Breaks] using hrest
      simp [hc]

/-- The run of word characters with which a text begins is the only one. So a text is split in one
way into a word and what follows it. -/
theorem run_unique {run run' rest rest' : List Char} (hrun : ∀ c ∈ run, isWordChar c = true)
    (hrun' : ∀ c ∈ run', isWordChar c = true) (hrest : Breaks rest) (hrest' : Breaks rest')
    (heq : run ++ rest = run' ++ rest') : run = run' ∧ rest = rest' := by
  have hruns : run = run' := by
    rw [← takeWhile_run hrun hrest, heq, takeWhile_run hrun' hrest']
  subst hruns
  exact ⟨rfl, List.append_cancel_left heq⟩

/-- The spelling begins the text, and it ends where a word does. Whether a word begins there is
asked of the character before it. -/
def Stands (spelling chars : List Char) : Prop :=
  ∃ rest, chars = spelling ++ rest ∧ isBoundary spelling.getLast? rest.head? = true

theorem stands_iff_test (spelling chars : List Char) :
    Stands spelling chars ↔ (spelling.isPrefixOf chars &&
      isBoundary spelling.getLast? (chars.drop spelling.length).head?) = true := by
  rw [Bool.and_eq_true, List.isPrefixOf_iff_prefix]
  constructor
  · rintro ⟨rest, rfl, hend⟩
    exact ⟨List.prefix_append _ _, by rwa [List.drop_left]⟩
  · rintro ⟨⟨rest, rfl⟩, hend⟩
    exact ⟨rest, rfl, by rwa [List.drop_left] at hend⟩

/-- A word stands where it is all of the run that begins there. A part of the run would not end
where a word does. -/
theorem stands_word_iff {spelling run rest : List Char} (hspelling : IsWord spelling)
    (hrun : IsWord run) (hrest : Breaks rest) : Stands spelling (run ++ rest) ↔ spelling = run := by
  have hlast : spelling.getLast?.any isWordChar = true := by
    rw [List.getLast?_eq_some_getLast hspelling.1]
    exact hspelling.2 _ (List.getLast_mem _)
  constructor
  · rintro ⟨rest', heq, hend⟩
    have hrest' : Breaks rest' := by simpa [Breaks, isBoundary, hlast] using hend
    exact (run_unique hrun.2 hspelling.2 hrest hrest' heq).1.symm
  · rintro rfl
    refine ⟨rest, rfl, ?_⟩
    have hhead : rest.head?.any isWordChar = false := hrest
    simp [isBoundary, hlast, hhead]

/-- Words with a blank between them stand where the first is all of the run that begins there and
the others stand behind the blank. -/
theorem stands_words_iff {first more run rest : List Char} (hfirst : IsWord first)
    (hmore : more ≠ []) (hrun : IsWord run) (hrest : Breaks rest) :
    Stands (first ++ ' ' :: more) (run ++ rest) ↔
      first = run ∧ ∃ behind, rest = ' ' :: behind ∧ Stands more behind := by
  have hlast : (first ++ ' ' :: more).getLast? = more.getLast? := by
    rw [List.getLast?_append_cons, List.getLast?_cons_of_ne_nil hmore]
  constructor
  · rintro ⟨rest', heq, hend⟩
    rw [List.append_assoc] at heq
    obtain ⟨hruns, hbehind⟩ := run_unique hrun.2 hfirst.2 hrest (by rfl) heq
    exact ⟨hruns.symm, more ++ rest', by simpa using hbehind, rest', rfl, by rwa [hlast] at hend⟩
  · rintro ⟨rfl, behind, rfl, rest', rfl, hend⟩
    exact ⟨rest', by simp, by rwa [hlast]⟩

/-- Where a word begins and only one spelling could stand, that is what is found. The order of the
spellings does not matter then. -/
theorem findSpelling_of_stands_iff {spellings : List (List Char)} {before : Option Char}
    {chars spelling : List Char} (hbefore : before.any isWordChar = false)
    (hhead : chars.head?.any isWordChar = true)
    (hstands : ∀ other ∈ spellings, Stands other chars ↔ other = spelling) :
    findSpelling spellings before chars = if spelling ∈ spellings then some spelling else none := by
  have hboundary : isBoundary before chars.head? = true := by simp [isBoundary, hbefore, hhead]
  simp only [stands_iff_test] at hstands
  rw [findSpelling, if_pos hboundary]
  split
  · rename_i hmem
    cases hfind : spellings.find? _ with
    | none => exact absurd ((hstands _ hmem).mpr rfl) (List.find?_eq_none.mp hfind _ hmem)
    | some other =>
        have htest := List.find?_some (p := _) hfind
        rw [(hstands other (List.mem_of_find?_eq_some hfind)).mp htest]
  · rename_i hmem
    rw [List.find?_eq_none]
    intro other hother htest
    exact hmem ((hstands other hother).mp htest ▸ hother)

theorem mem_of_findSpelling {spellings : List (List Char)} {before : Option Char}
    {chars spelling : List Char} (h : findSpelling spellings before chars = some spelling) :
    spelling ∈ spellings := by
  rw [findSpelling] at h
  split at h
  · exact List.mem_of_find?_eq_some h
  · cases h

theorem findSpelling_eq_none_of_initials {spellings : List (List Char)} {before : Option Char}
    {c : Char} {rest : List Char} (hne : [] ∉ spellings)
    (h : ∀ spelling ∈ spellings, spelling.head? ≠ some c) :
    findSpelling spellings before (c :: rest) = none := by
  rw [findSpelling]
  split
  · rw [List.find?_eq_none]
    intro spelling hmem htest
    obtain ⟨rest', heq, -⟩ := (stands_iff_test _ _).mpr htest
    cases spelling with
    | nil => exact hne hmem
    | cons d spelling => exact h _ hmem (by rw [(List.cons.inj heq).1]; rfl)
  · rfl

/-- A character of a text, and whether a replacement wrote it there. The mark is not looked at by
the search; it only serves to tell what was found. -/
structure Stamped where
  char : Char
  isWritten : Bool
deriving DecidableEq, Repr

def plain (text : List Stamped) : List Char := text.map Stamped.char

def original (chars : List Char) : List Stamped := chars.map fun c => ⟨c, false⟩

def written (chars : List Char) : List Stamped := chars.map fun c => ⟨c, true⟩

@[simp] theorem plain_append (text text' : List Stamped) :
    plain (text ++ text') = plain text ++ plain text' := List.map_append

@[simp] theorem plain_original (chars : List Char) : plain (original chars) = chars := by
  simp [plain, original, Function.comp_def]

@[simp] theorem plain_written (chars : List Char) : plain (written chars) = chars := by
  simp [plain, written, Function.comp_def]

@[simp] theorem original_append (chars chars' : List Char) :
    original (chars ++ chars') = original chars ++ original chars' := List.map_append

/-- What the replacement of words does to a part of a text. Characters that are kept are parts of
their own. -/
inductive Segment
  | kept (c : Stamped)
  | replaced (occurrence : List Stamped)
deriving Repr

namespace Segment

/-- The part of the text that the segment is about, whether it is kept or replaced. -/
def source : Segment → List Stamped
  | kept c => [c]
  | replaced occurrence => occurrence

def result (replacement : List Char) : Segment → List Stamped
  | kept c => [c]
  | replaced _ => written replacement

def occurrence? : Segment → Option (List Stamped)
  | kept _ => none
  | replaced occurrence => some occurrence

theorem flatMap_kept (replacement : List Char) (text : List Stamped) :
    (text.map kept).flatMap (result replacement) = text := by
  induction text with
  | nil => rfl
  | cons c text ih => simpa [result] using ih

end Segment

/-- The segments of a text of which the first `skip` characters are already replaced, given the
character before it. -/
def segmentsFrom (spellings : List (List Char)) :
    Nat → Option Char → List Stamped → List Segment
  | _, _, [] => []
  | skip + 1, _, c :: rest => segmentsFrom spellings skip (some c.char) rest
  | 0, before, c :: rest =>
    match findSpelling spellings before (plain (c :: rest)) with
    | some spelling =>
      .replaced ((c :: rest).take spelling.length) ::
        segmentsFrom spellings (spelling.length - 1) (some c.char) rest
    | none => .kept c :: segmentsFrom spellings 0 (some c.char) rest

theorem plain_segmentsFrom (spellings : List (List Char)) (replacement : List Char) (skip : Nat)
    (before : Option Char) (text : List Stamped) :
    plain ((segmentsFrom spellings skip before text).flatMap (Segment.result replacement)) =
      replaceWordsFrom spellings replacement skip before (plain text) := by
  induction text generalizing skip before with
  | nil => cases skip <;> rfl
  | cons c rest ih =>
      cases skip with
      | succ skip => exact ih skip (some c.char)
      | zero =>
          have hplain : plain (c :: rest) = c.char :: plain rest := rfl
          rw [segmentsFrom, hplain, replaceWordsFrom]
          cases findSpelling spellings before (c.char :: plain rest) with
          | none =>
              simp only [List.flatMap_cons, plain_append, ih]
              rfl
          | some spelling =>
              simp only [List.flatMap_cons, plain_append, ih, Segment.result, plain_written]

/-- The segments are the text, cut into parts. So nothing of it is lost or looked at twice. -/
theorem flatMap_source_segmentsFrom {spellings : List (List Char)} (hne : [] ∉ spellings)
    (skip : Nat) (before : Option Char) (text : List Stamped) :
    (segmentsFrom spellings skip before text).flatMap Segment.source = text.drop skip := by
  induction text generalizing skip before with
  | nil => cases skip <;> rfl
  | cons c rest ih =>
      cases skip with
      | succ skip => exact ih skip (some c.char)
      | zero =>
          rw [segmentsFrom]
          cases hfind : findSpelling spellings before (plain (c :: rest)) with
          | none => simp [Segment.source, ih]
          | some spelling =>
              obtain ⟨d, more, rfl⟩ : ∃ d more, spelling = d :: more := by
                refine List.exists_cons_of_ne_nil fun hnil => hne ?_
                rw [← hnil]
                exact mem_of_findSpelling hfind
              simp [Segment.source, ih, List.take_append_drop]

/-- The character before what follows the text. Whether a word begins there depends on it. -/
def lastChar (before : Option Char) (text : List Stamped) : Option Char :=
  text.foldl (fun _ c => some c.char) before

theorem lastChar_any {text : List Stamped} {before : Option Char} {p : Char → Bool} {b : Bool}
    (hne : text ≠ []) (htext : ∀ c ∈ plain text, p c = b) : (lastChar before text).any p = b := by
  obtain ⟨text, c, rfl⟩ := (List.eq_nil_or_concat' text).resolve_left hne
  have hlast : lastChar before (text ++ [c]) = some c.char := by simp [lastChar]
  rw [hlast]
  exact htext c.char (by simp [plain])

section Segments
variable {spellings : List (List Char)} {before : Option Char} {text rest : List Stamped}

theorem segmentsFrom_skip :
    segmentsFrom spellings text.length before (text ++ rest) =
      segmentsFrom spellings 0 (lastChar before text) rest := by
  induction text generalizing before with
  | nil => rfl
  | cons c text ih => exact ih

/-- Text is kept if no spelling begins with one of its characters. This is so for blanks and for
what the rules write. -/
theorem segmentsFrom_of_initials
    (hne : [] ∉ spellings)
    (h : ∀ c ∈ text, ∀ spelling ∈ spellings, spelling.head? ≠ some c.char) :
    segmentsFrom spellings 0 before (text ++ rest) =
      text.map .kept ++ segmentsFrom spellings 0 (lastChar before text) rest := by
  induction text generalizing before with
  | nil => rfl
  | cons c text ih =>
      have hnone : findSpelling spellings before (plain (c :: (text ++ rest))) = none :=
        findSpelling_eq_none_of_initials hne (h c List.mem_cons_self)
      rw [List.cons_append, segmentsFrom, hnone]
      simp only [ih fun c hc => h c (List.mem_cons_of_mem _ hc)]
      rfl

/-- Inside a word nothing is found, since a spelling stands only where a word begins or has just
ended. -/
theorem segmentsFrom_inside (htext : ∀ c ∈ plain text, isWordChar c = true)
    (hbefore : before.any isWordChar = true) :
    segmentsFrom spellings 0 before (text ++ rest) =
      text.map .kept ++ segmentsFrom spellings 0 (lastChar before text) rest := by
  induction text generalizing before with
  | nil => rfl
  | cons c text ih =>
      have hc : isWordChar c.char = true := htext c.char (by simp [plain])
      have hnone : findSpelling spellings before (plain (c :: (text ++ rest))) = none := by
        simp [findSpelling, isBoundary, plain, hbefore, hc]
      have htail : ∀ c ∈ plain text, isWordChar c = true :=
        fun c hc => htext c (List.mem_cons_of_mem _ hc)
      have hinside : (some c.char).any isWordChar = true := by simpa using hc
      rw [List.cons_append, segmentsFrom, hnone]
      simp only [ih htail hinside]
      rfl

/-- A word is kept if nothing is found at its beginning. What follows is then searched as if it came
first, but for the character before it. -/
theorem segmentsFrom_of_none (htext : IsWord (plain text))
    (hnone : findSpelling spellings before (plain text ++ plain rest) = none) :
    segmentsFrom spellings 0 before (text ++ rest) =
      text.map .kept ++ segmentsFrom spellings 0 (lastChar before text) rest := by
  cases text with
  | nil => exact absurd rfl htext.1
  | cons c text =>
      have hc : isWordChar c.char = true := htext.2 c.char (by simp [plain])
      rw [← plain_append] at hnone
      rw [List.cons_append] at hnone ⊢
      have htail : ∀ c ∈ plain text, isWordChar c = true :=
        fun c hc => htext.2 c (List.mem_cons_of_mem _ hc)
      have hinside : (some c.char).any isWordChar = true := by simpa using hc
      rw [segmentsFrom, hnone]
      simp only [segmentsFrom_inside htail hinside]
      rfl

/-- What is found is replaced, and the search goes on behind it. So occurrences do not overlap. -/
theorem segmentsFrom_of_some (hne : text ≠ [])
    (hsome : findSpelling spellings before (plain text ++ plain rest) = some (plain text)) :
    segmentsFrom spellings 0 before (text ++ rest) =
      .replaced text :: segmentsFrom spellings 0 (lastChar before text) rest := by
  cases text with
  | nil => exact absurd rfl hne
  | cons c text =>
      have hlength : (plain (c :: text)).length = (c :: text).length := by simp [plain]
      rw [← plain_append] at hsome
      rw [List.cons_append] at hsome ⊢
      rw [segmentsFrom, hsome]
      dsimp only
      rw [hlength, ← List.cons_append, List.take_left, List.length_cons, Nat.add_sub_cancel,
        segmentsFrom_skip]
      rfl

end Segments

end Reckoner.Text
