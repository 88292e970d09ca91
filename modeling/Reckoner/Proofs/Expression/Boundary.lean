import Mathlib.Data.Bool.AllAny
import Reckoner.Proofs.Expression.Lexing

/-!
Reading a text in two. Brackets and blank characters belong to no lexeme of several characters, so
what stands before one is read as if the text ended there, and what follows is read as if it began
there. A reading that has come to the end of its text goes on in whatever is appended after such a
character.
-/

namespace Reckoner

namespace Text

/-- Blank characters belong to no word. Letters and numerals are given by ranges, and no range of
blank characters meets any of those. -/
theorem isWordChar_of_isBlank {c : Char} (h : isBlank c = true) : isWordChar c = false := by
  have hletter : inRanges c.toNat letterRanges = false :=
    not_inRanges_of_disjoint (by decide +kernel) h
  have hnumeric : inRanges c.toNat numericRanges = false :=
    not_inRanges_of_disjoint (by decide +kernel) h
  have hline : c ≠ '_' := by
    rintro rfl
    exact absurd h (by decide)
  simp [isWordChar, isAlphanumeric, isLetter, hletter, hnumeric, hline]

end Text

namespace Expression

/-- The character belongs to no lexeme of several characters. It may be one by itself, and then it
is read alone. -/
def Separates (c : Char) : Prop := Text.isWordChar c = false ∧ ¬ Numeral.Character c

theorem separates_bracket : Separates '(' ∧ Separates ')' := by
  unfold Separates
  decide

theorem separates_of_isBlank {c : Char} (h : Text.isBlank c = true) : Separates c := by
  refine ⟨Text.isWordChar_of_isBlank h, ?_⟩
  rintro (hdigit | hmark)
  · rw [isBlank_of_isDigit hdigit] at h
    cases h
  · have hnone : ∀ mark ∈ ['.', 'e', 'E', '+', '-'], Text.isBlank mark = false :=
      List.all_iff_forall_prop.mp (by decide)
    rw [hnone c hmark] at h
    cases h

theorem isWordChar_of_startsName {c : Char} (h : startsName c = true) :
    Text.isWordChar c = true := by
  simp only [startsName, Bool.or_eq_true, decide_eq_true_eq] at h
  rcases h with h | rfl
  · simp [Text.isWordChar, Text.isAlphanumeric, h]
  · rfl

/-- A lexeme of several characters has none that separates. Symbols have one character only, so it
is a numeral or a name. -/
theorem IsLexeme.not_separates {lexeme : Lexeme} {slice : List Char} (h : IsLexeme lexeme slice)
    (hlength : 1 < slice.length) : ∀ c ∈ slice, ¬ Separates c := by
  cases h with
  | number hn hdigits =>
      intro c hc hseparates
      exact hseparates.2 (Numeral.character_of_mem_text hn hc)
  | @name first others hfirst hothers =>
      have hword : ∀ c ∈ first :: others, Text.isWordChar c = true :=
        List.forall_mem_cons.mpr ⟨isWordChar_of_startsName hfirst, hothers⟩
      intro c hc hseparates
      have hnot := hseparates.1
      rw [hword c hc] at hnot
      cases hnot
  | operator | opening | closing => exact absurd hlength (Nat.lt_irrefl 1)

variable {front rest left : List Char}

/-- A lexeme that begins before a separating character ends before it. With that character in it, it
would have several. -/
theorem IsLexeme.prefix_front {lexeme : Lexeme} {slice : List Char} (h : IsLexeme lexeme slice)
    (hfront : front ≠ []) (hrest : ∀ c ∈ rest.head?, Separates c)
    (hbegins : slice <+: front ++ rest) : slice <+: front := by
  rcases Nat.lt_or_ge front.length slice.length with hlong | hshort
  · obtain ⟨more, rfl⟩ :=
      List.prefix_of_prefix_length_le (List.prefix_append front rest) hbegins hlong.le
    obtain ⟨c, others, rfl⟩ : ∃ c others, more = c :: others := by
      apply List.exists_cons_of_ne_nil
      rintro rfl
      simp at hlong
    obtain ⟨after, rfl⟩ := (List.prefix_append_right_inj front).mp hbegins
    have hpos := List.length_pos_iff.mpr hfront
    have hlength : 1 < (front ++ c :: others).length := by
      rw [List.length_append, List.length_cons]
      omega
    exact absurd (hrest c rfl) (h.not_separates hlength c (by simp))
  · exact List.prefix_of_prefix_length_le hbegins (List.prefix_append front rest) hshort

theorem Longest.append {lexeme : Lexeme} {slice after : List Char} (hfront : front ≠ [])
    (h : Longest lexeme slice after front) (hrest : ∀ c ∈ rest.head?, Separates c) :
    Longest lexeme slice (after ++ rest) (front ++ rest) := by
  refine ⟨by rw [← h.split, List.append_assoc], h.lexeme, ?_⟩
  intro other slice' hother hbegins
  exact h.longest other slice' hother (hother.prefix_front hfront hrest hbegins)

theorem NoLexeme.append (hfront : front ≠ []) (h : NoLexeme front)
    (hrest : ∀ c ∈ rest.head?, Separates c) : NoLexeme (front ++ rest) := by
  intro lexeme slice hlexeme hbegins
  exact h lexeme slice hlexeme (hlexeme.prefix_front hfront hrest hbegins)

/-- A reading goes on in the same way when the text does after a separating character. Every lexeme
that was the longest still is, for none goes on past that character. -/
theorem Reads.append {position : Nat} {segments : List Segment}
    (h : Reads position front segments left) (hrest : ∀ c ∈ rest.head?, Separates c) :
    Reads position (front ++ rest) segments (left ++ rest) := by
  induction h with
  | stop => exact .stop _ _
  | blank hblank _ ih => exact .blank hblank ih
  | token hblank hlongest _ ih =>
      exact .token hblank (hlongest.append (List.cons_ne_nil _ _) hrest) ih

/-- Before a separating character a text has the tokens that it has alone, and what follows has its
own. -/
theorem tokensFrom_append {position : Nat} {before : List Token}
    (h : tokensFrom position front = .ok before) (hrest : ∀ c ∈ rest.head?, Separates c) :
    tokensFrom position (front ++ rest) =
      (tokensFrom (position + front.length) rest).map (before ++ ·) := by
  obtain ⟨segments, left, hreads, hleft⟩ := Reads.exists_reads position front
  have htokens := hreads.tokensFrom_eq
  have hwritten := hreads.written_append
  rcases hleft with rfl | ⟨c, others, rfl, hstuck⟩
  · rw [tokensFrom_nil, h] at htokens
    obtain rfl : before = tokensOf segments ++ [] := Except.ok.inj htokens
    rw [List.append_nil] at hwritten
    rw [(hreads.append hrest).tokensFrom_eq, hwritten, List.append_nil, List.nil_append]
  · rw [tokensFrom_of_stuck hstuck, h] at htokens
    cases htokens

/-- A text that has no tokens has none before a separating character either. What is wrong with it
is found before the end of it is reached. -/
theorem tokensFrom_append_error {position : Nat} {cause : Error}
    (h : tokensFrom position front = .error cause) (hrest : ∀ c ∈ rest.head?, Separates c) :
    tokensFrom position (front ++ rest) = .error cause := by
  obtain ⟨segments, left, hreads, hleft⟩ := Reads.exists_reads position front
  have htokens := hreads.tokensFrom_eq
  rcases hleft with rfl | ⟨c, others, rfl, hstuck⟩
  · rw [tokensFrom_nil, h] at htokens
    cases htokens
  · have hstuck' : Stuck c (others ++ rest) :=
      ⟨hstuck.1, hstuck.2.append (List.cons_ne_nil _ _) hrest⟩
    rw [tokensFrom_of_stuck hstuck, h] at htokens
    rw [(hreads.append hrest).tokensFrom_eq, List.cons_append, tokensFrom_of_stuck hstuck',
      htokens]

end Expression

end Reckoner
