import Reckoner.Console.Layout
import Mathlib.Data.List.Infix
import Mathlib.Data.List.TakeWhile

/-!
What laying text out keeps of it. Lines that are folded are consecutive pieces of the text: nothing
is lost, added or moved but blank characters where a line ends. For that no line in the making is
wider, blanks at its end apart, than the columns allow, so that a line is cut within its blanks
only.
-/

namespace Reckoner

namespace Text

theorem width_append (front rest : List Char) :
    width (front ++ rest) = width front + width rest := by
  induction front with
  | nil => exact (Nat.zero_add _).symm
  | cons c front ih => rw [List.cons_append, width, width, ih, Nat.add_assoc]

theorem width_reverse (chars : List Char) : width chars.reverse = width chars := by
  induction chars with
  | nil => rfl
  | cons c chars ih =>
      rw [List.reverse_cons, width_append, ih, width, width, width, Nat.add_zero, Nat.add_comm]

theorem charWidth_le_two (c : Char) : charWidth c ≤ 2 := by
  unfold charWidth
  split
  · decide
  · split <;> decide

end Text

namespace Console

open Text

/-- All characters are blank. Such a text may be left out at the end of a line without anything
being lost. -/
def Blank (chars : List Char) : Prop := ∀ c ∈ chars, isBlank c = true

theorem Blank.append {front rest : List Char} (h : Blank front) (hrest : Blank rest) :
    Blank (front ++ rest) := by
  intro c hc
  exact (List.mem_append.mp hc).elim (h c) (hrest c)

theorem trimRight_append_takeWhile (chars : List Char) :
    trimRight chars ++ (chars.reverse.takeWhile isBlank).reverse = chars := by
  rw [trimRight, ← List.reverse_append, List.takeWhile_append_dropWhile, List.reverse_reverse]

theorem blank_takeWhile (chars : List Char) : Blank (chars.reverse.takeWhile isBlank).reverse :=
  fun _ hc => List.mem_takeWhile_imp (List.mem_reverse.mp hc)

theorem exists_blanks (chars : List Char) :
    ∃ blanks, Blank blanks ∧ chars = trimRight chars ++ blanks :=
  ⟨_, blank_takeWhile chars, (trimRight_append_takeWhile chars).symm⟩

theorem trimRight_append_blank {blanks : List Char} (h : Blank blanks) (chars : List Char) :
    trimRight (chars ++ blanks) = trimRight chars := by
  rw [trimRight, List.reverse_append, List.dropWhile_append_of_pos, trimRight]
  exact fun c hc => h c (List.mem_reverse.mp hc)

theorem trimRight_trimRight_append (front chars : List Char) :
    trimRight (front ++ trimRight chars) = trimRight (front ++ chars) := by
  obtain ⟨blanks, hblank, hchars⟩ := exists_blanks chars
  conv_rhs => rw [hchars, ← List.append_assoc, trimRight_append_blank hblank]

theorem trimRight_of_blank {chars : List Char} (h : Blank chars) : trimRight chars = [] :=
  trimRight_append_blank h []

theorem width_trimRight_le (chars : List Char) : width (trimRight chars) ≤ width chars := by
  obtain ⟨blanks, -, hchars⟩ := exists_blanks chars
  conv_rhs => rw [hchars, width_append]
  exact Nat.le_add_right _ _

theorem width_trimRight_append_le (front chars : List Char) :
    width (trimRight (front ++ chars)) ≤ width front + width (trimRight chars) := by
  rw [← trimRight_trimRight_append, ← width_append]
  exact width_trimRight_le _

/-- Lines that show a text piece by piece. Blanks at the end of a piece may be left out, and blanks
may follow it. -/
inductive Wrapping : List Char → List (List Char) → Prop where
  | nil : Wrapping [] []
  | cons {line piece text : List Char} {lines : List (List Char)}
      (hline : trimRight line = trimRight piece) (h : Wrapping text lines) :
      Wrapping (piece ++ text) (line :: lines)

namespace Wrapping

theorem append {text others : List Char} {lines more : List (List Char)} (h : Wrapping text lines)
    (hmore : Wrapping others more) : Wrapping (text ++ others) (lines ++ more) := by
  induction h with
  | nil => exact hmore
  | cons hline _ ih =>
      rw [List.append_assoc, List.cons_append]
      exact .cons hline ih

theorem singleton {line text : List Char} (h : trimRight line = trimRight text) :
    Wrapping text [line] := by
  rw [← List.append_nil text]
  exact .cons h .nil

/-- Blanks after the last line make no difference, for a line may lose the blanks at its end. There
has to be a line to which they belong. -/
theorem append_blank {text blanks : List Char} {lines : List (List Char)} (h : Wrapping text lines)
    (hlines : lines ≠ []) (hblank : Blank blanks) : Wrapping (text ++ blanks) lines := by
  induction h with
  | nil => exact absurd rfl hlines
  | @cons line piece text lines hline h ih =>
      cases h with
      | nil =>
          rw [List.append_nil]
          exact singleton (by rw [hline, trimRight_append_blank hblank])
      | cons hnext hrest =>
          rw [List.append_assoc]
          exact .cons hline (ih (List.cons_ne_nil _ _))

theorem map {text : List Char} {lines : List (List Char)} (h : Wrapping text lines)
    {change : List Char → List Char}
    (hchange : ∀ line ∈ lines, trimRight (change line) = trimRight line) :
    Wrapping text (lines.map change) := by
  induction h with
  | nil => exact .nil
  | @cons line piece text lines hline _ ih =>
      exact .cons ((hchange line List.mem_cons_self).trans hline)
        (ih fun other hother => hchange other (List.mem_cons_of_mem line hother))

/-- The pieces of a text are a wrapping of it: nothing is left out between them, and nothing at
their ends. -/
theorem of_flatten (lines : List (List Char)) : Wrapping lines.flatten lines := by
  induction lines with
  | nil => exact .nil
  | cons line lines ih => exact .cons rfl ih

end Wrapping

theorem flatten_wordsFrom (line : List Char) : (blankedWords.wordsFrom line).flatten = line := by
  induction line with
  | nil => rfl
  | cons c line ih =>
      unfold blankedWords.wordsFrom
      split
      · rename_i hnone
        rw [← ih, hnone]
        rfl
      · rename_i word others hsome
        rw [hsome, List.flatten_cons] at ih
        split <;> rw [← ih] <;> rfl

/-- The words of a line with their blanks make up the line, unless there are none. Then the line is
blank, and is kept as it is. -/
theorem flatten_blankedWords {line : List Char} (h : blankedWords line ≠ []) :
    (blankedWords line).flatten = line := by
  have hwords := flatten_wordsFrom (line.drop (line.takeWhile isBlank).length)
  unfold blankedWords at h ⊢
  dsimp only at h ⊢
  split
  · rename_i hnone
    rw [hnone] at h
    exact absurd rfl h
  · rename_i first others hsome
    rw [hsome, List.flatten_cons] at hwords
    rw [List.flatten_cons, List.append_assoc, hwords]
    exact (List.prefix_append_drop (List.takeWhile_prefix _)).symm

theorem blank_of_blankedWords {line : List Char} (h : blankedWords line = []) : Blank line := by
  have hwords := flatten_wordsFrom (line.drop (line.takeWhile isBlank).length)
  unfold blankedWords at h
  dsimp only at h
  split at h
  · rename_i hnone
    rw [hnone] at hwords
    have hline := List.prefix_append_drop (List.takeWhile_prefix (l := line) isBlank)
    rw [← hwords] at hline
    intro c hc
    rw [hline] at hc
    exact List.mem_takeWhile_imp (by simpa using hc)
  · cases h

theorem flatten_chopFrom (columns : Nat) (piece chars : List Char) :
    (chopFrom columns piece chars).flatten = piece.reverse ++ chars := by
  induction chars generalizing piece with
  | nil => simp [chopFrom]
  | cons c chars ih =>
      unfold chopFrom
      split
      · rw [List.flatten_cons, ih, List.reverse_singleton, List.singleton_append]
      · rw [ih, List.reverse_cons, List.append_assoc, List.singleton_append]

theorem width_le_of_mem_chopFrom {columns : Nat} {piece chars : List Char}
    (hchars : ∀ c ∈ chars, charWidth c ≤ columns) (hpiece : width piece ≤ columns) {cut : List Char}
    (h : cut ∈ chopFrom columns piece chars) : width cut ≤ columns := by
  induction chars generalizing piece with
  | nil =>
      rw [List.mem_singleton.mp h, width_reverse]
      exact hpiece
  | cons c chars ih =>
      have hrest : ∀ d ∈ chars, charWidth d ≤ columns := fun d hd =>
        hchars d (List.mem_cons_of_mem c hd)
      unfold chopFrom at h
      split at h
      · rcases List.mem_cons.mp h with rfl | h
        · rwa [width_reverse]
        · refine ih hrest ?_ h
          rw [width, width]
          exact hchars c List.mem_cons_self
      · rename_i hfits
        refine ih hrest ?_ h
        rw [width]
        omega

/-- Lines in the making that hold what was taken so far. None is wider than the columns, blanks at
its end apart. -/
structure Lines.Hold (columns : Nat) (taken : List Char) (lines : Lines) : Prop where
  kept : lines.complete.flatten ++ lines.current = taken
  column : lines.column = width lines.current
  complete : ∀ line ∈ lines.complete, width (trimRight line) ≤ columns
  current : width (trimRight lines.current) ≤ columns

namespace Lines.Hold

variable {columns : Nat} {taken : List Char} {lines : Lines}

theorem empty (columns : Nat) : Lines.Hold columns [] {} := ⟨rfl, rfl, by simp, Nat.zero_le _⟩

theorem breakWith (h : lines.Hold columns taken) {text : List Char}
    (htext : width (trimRight text) ≤ columns) :
    (lines.breakWith text).Hold columns (taken ++ text) := by
  unfold Lines.breakWith
  refine ⟨?_, rfl, ?_, htext⟩
  · rw [← h.kept]
    dsimp only
    split
    · rename_i hempty
      rw [List.isEmpty_iff.mp hempty, List.append_nil]
    · rw [List.flatten_append, List.flatten_singleton]
  · dsimp only
    split
    · exact h.complete
    · intro line hline
      rcases List.mem_append.mp hline with hline | hline
      · exact h.complete line hline
      · rw [List.mem_singleton.mp hline]
        exact h.current

theorem breakWith_all (h : lines.Hold columns taken) {pieces : List (List Char)}
    (hpieces : ∀ piece ∈ pieces, width piece ≤ columns) :
    (pieces.foldl (fun lines piece => lines.breakWith piece) lines).Hold columns
      (taken ++ pieces.flatten) := by
  induction pieces generalizing taken lines with
  | nil => simpa using h
  | cons piece pieces ih =>
      rw [List.flatten_cons, ← List.append_assoc]
      exact ih (h.breakWith ((width_trimRight_le piece).trans (hpieces piece List.mem_cons_self)))
        fun other hother => hpieces other (List.mem_cons_of_mem piece hother)

theorem addWord (h : lines.Hold columns taken) {word : List Char}
    (hword : ∀ c ∈ word, charWidth c ≤ columns) :
    (lines.addWord columns .fold word).Hold columns (taken ++ word) := by
  unfold Lines.addWord
  dsimp only
  split
  · rename_i hroom
    rw [h.column] at hroom
    refine ⟨?_, ?_, h.complete, (width_trimRight_append_le _ word).trans hroom⟩
    · rw [← h.kept, List.append_assoc]
    · rw [h.column, width_append]
  · split
    · have hpieces : (chop columns word).flatten = word := flatten_chopFrom columns [] word
      have hheld := h.breakWith_all fun piece (hpiece : piece ∈ chop columns word) =>
        width_le_of_mem_chopFrom hword (show width [] ≤ columns from Nat.zero_le columns) hpiece
      rwa [hpieces] at hheld
    · rename_i hwide
      refine h.breakWith ?_
      simpa using hwide

theorem addWords (h : lines.Hold columns taken) {words : List (List Char)}
    (hwords : ∀ c ∈ words.flatten, charWidth c ≤ columns) :
    (words.foldl (Lines.addWord columns .fold) lines).Hold columns (taken ++ words.flatten) := by
  induction words generalizing taken lines with
  | nil => simpa using h
  | cons word words ih =>
      rw [List.flatten_cons] at hwords ⊢
      rw [← List.append_assoc]
      exact ih (h.addWord fun c hc => hwords c (List.mem_append_left _ hc))
        fun c hc => hwords c (List.mem_append_right _ hc)

end Lines.Hold

theorem cropped_append {columns : Nat} {front : List Char} (h : width front ≤ columns)
    (rest : List Char) :
    cropped columns (front ++ rest) = front ++ cropped (columns - width front) rest := by
  induction front generalizing columns with
  | nil => rfl
  | cons c front ih =>
      rw [width] at h
      rw [List.cons_append, cropped, if_pos (by omega), ih (by omega), width, Nat.sub_sub,
        List.cons_append]

theorem blank_cropped {chars : List Char} (h : Blank chars) (columns : Nat) :
    Blank (cropped columns chars) := by
  induction chars generalizing columns with
  | nil => exact h
  | cons c chars ih =>
      unfold cropped
      split
      · intro d hd
        rcases List.mem_cons.mp hd with rfl | hd
        · exact h d List.mem_cons_self
        · exact ih (fun e he => h e (List.mem_cons_of_mem c he)) _ d hd
      · intro d hd
        rw [List.eq_of_mem_replicate hd]
        decide

theorem Blank.take {chars : List Char} (h : Blank chars) (n : Nat) : Blank (chars.take n) :=
  fun c hc => h c (List.mem_of_mem_take hc)

/-- The beginning of a line, taken up to some place among the blanks at its end. Only blanks are
lost by that, and the rest of the line is there. -/
theorem exists_take_eq {line : List Char} {n : Nat} (h : (trimRight line).length ≤ n) :
    ∃ blanks, Blank blanks ∧ line.take n = trimRight line ++ blanks := by
  refine ⟨_, (blank_takeWhile line).take (n - (trimRight line).length), ?_⟩
  conv_lhs => rw [← trimRight_append_takeWhile line]
  rw [List.take_append, List.take_of_length_le h]

/-- A line that fits, blanks at its end apart, loses nothing but such blanks. They are dropped
before anything is cropped. -/
theorem trimRight_fitLine {columns : Nat} {line : List Char}
    (h : width (trimRight line) ≤ columns) :
    trimRight (fitLine columns .fold line) = trimRight line := by
  have hlength := congrArg List.length (trimRight_append_takeWhile line)
  rw [List.length_append, List.length_reverse] at hlength
  have htrim : trimRight (trimRight line) = trimRight line := trimRight_trimRight_append [] line
  have hcut : (trimRight line).length ≤
      line.length - min (line.reverse.takeWhile isBlank).length (line.length - columns) := by
    omega
  obtain ⟨blanks, hblank, hline⟩ := exists_take_eq hcut
  unfold fitLine
  simp only [hline]
  split
  · rw [trimRight_append_blank hblank, htrim]
  · rw [cropped_append h, trimRight_append_blank (blank_cropped hblank _), htrim]

theorem wrapLine_ne_nil (columns : Nat) (overflow : Overflow) (line : List Char) :
    wrapLine columns overflow line ≠ [] := by
  unfold wrapLine
  dsimp only
  split <;> simp

/-- Lines in the making become a wrapping of what was taken when each of them is made to fit, as by
then none of them is too wide. -/
theorem Lines.Hold.wrapping {columns : Nat} {taken : List Char} {lines : Lines}
    (h : lines.Hold columns taken) :
    Wrapping taken ((lines.complete ++ [lines.current]).map (fitLine columns .fold)) := by
  have hkept : (lines.complete ++ [lines.current]).flatten = taken := by
    rw [List.flatten_append, List.flatten_singleton, h.kept]
  refine hkept ▸ (Wrapping.of_flatten _).map fun line hline => trimRight_fitLine ?_
  rcases List.mem_append.mp hline with hline | hline
  · exact h.complete line hline
  · rw [List.mem_singleton.mp hline]
    exact h.current

theorem wrapping_wrapLine {columns : Nat} {line : List Char}
    (hline : ∀ c ∈ expandTabs line, charWidth c ≤ columns) :
    Wrapping (expandTabs line) (wrapLine columns .fold line) := by
  unfold wrapLine
  dsimp only
  split
  · rename_i hnone
    refine (Wrapping.singleton rfl).map fun other hother => trimRight_fitLine ?_
    rw [List.mem_singleton.mp hother, trimRight_of_blank (blank_of_blankedWords hnone)]
    exact Nat.zero_le _
  · rename_i hwords
    rw [← flatten_blankedWords hwords] at hline
    have hheld := (Lines.Hold.empty columns).addWords hline
    rw [List.nil_append, flatten_blankedWords hwords] at hheld
    exact hheld.wrapping

/-- A text with its tabs replaced by spaces, line by line. It is what is folded, so what is shown is
compared with it and not with the text. -/
def untabbed (text : List Char) : List Char :=
  ['\n'].intercalate ((splitLines text).map expandTabs)

/-- Lines show a text if they are folded where no character is too wide for a line. A character that
is would have to be cropped. The lines of the text are wrapped one by one, and the breaks between
them are blank. -/
theorem wrapping_wrap_of_width {columns : Nat} {text : List Char}
    (h : ∀ c ∈ untabbed text, charWidth c ≤ columns) :
    Wrapping (untabbed text) (wrap columns .fold text) := by
  have hbreak : Blank ['\n'] := by
    intro c hc
    rw [List.mem_singleton.mp hc]
    decide
  unfold untabbed at h ⊢
  unfold wrap
  generalize splitLines text = lines at h ⊢
  induction lines with
  | nil => exact .nil
  | cons line lines ih =>
      cases lines with
      | nil =>
          simp only [List.map_cons, List.map_nil, List.intercalate_singleton] at h
          simpa using wrapping_wrapLine h
      | cons next lines =>
          rw [List.map_cons, List.map_cons, List.intercalate_cons_cons] at h ⊢
          rw [List.flatMap_cons]
          have hfits : ∀ c ∈ expandTabs line, charWidth c ≤ columns :=
            fun c hc => h c (by simp [hc])
          have hline := wrapping_wrapLine hfits
          exact (hline.append_blank (wrapLine_ne_nil _ _ _) hbreak).append
            (ih fun c hc => h c (List.mem_append_right _ hc))

theorem wrapping_wrap {columns : Nat} (hcolumns : 2 ≤ columns) (text : List Char) :
    Wrapping (untabbed text) (wrap columns .fold text) :=
  wrapping_wrap_of_width fun c _ => (charWidth_le_two c).trans hcolumns

/-- No line of a text is cut, where lines that are too wide would be: folding gives the same
lines. -/
def Uncut (columns : Nat) (text : List Char) : Prop :=
  (∀ c ∈ untabbed text, charWidth c ≤ columns) ∧
    wrap columns .ellipsis text = wrap columns .fold text

theorem Uncut.wrapping {columns : Nat} {text : List Char} (h : Uncut columns text) :
    Wrapping (untabbed text) (wrap columns .ellipsis text) :=
  h.2 ▸ wrapping_wrap_of_width h.1

end Console

end Reckoner
