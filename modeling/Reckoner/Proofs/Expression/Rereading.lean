import Reckoner.Proofs.Expression.Juxtaposition

/-!
A text that is read as other parts than those it was written from, with the same lexemes. Only
numbers can be written in more than one way, so the parts differ in their numbers, and since none of
them has an exponent, in where one number ends and the next begins. Parts that are linked leave no
choice there.
-/

namespace Reckoner.Expression

/-- A lexeme that is no number consists of certain characters. Only numbers can be written in more
than one way. -/
theorem IsLexeme.slice_eq {lexeme : Lexeme} {slice slice' : List Char} (h : IsLexeme lexeme slice)
    (h' : IsLexeme lexeme slice') (hnumber : lexeme.isNumber = false) : slice = slice' := by
  cases h with
  | number => cases hnumber
  | @name first others =>
      generalize hname : Lexeme.name (String.ofList (first :: others)) = lexeme at h'
      cases h' with
      | @name first' others' =>
          have hchars := congrArg String.toList (Lexeme.name.inj hname)
          rwa [String.toList_ofList, String.toList_ofList] at hchars
      | number | operator | opening | closing => cases hname
  | operator | opening | closing => cases h'; rfl

/-- The numbers among some parts, one after the other, without what stands between them. Only they
can be divided in more than one way. -/
def numberText (parts : List Part) : List Char := textOf (parts.filter (·.lexeme.isNumber))

/-- Parts with the same lexemes differ in their numbers only. Whatever is counted in their texts
differs by as much as it does in the numbers. The induction is on the parts, and those that are no
numbers have the same text in both. -/
theorem countP_textOf {parts parts' : List Part}
    (hlexemes : parts.map Part.lexeme = parts'.map Part.lexeme)
    (h : ∀ part ∈ parts, IsLexeme part.lexeme part.slice)
    (h' : ∀ part ∈ parts', IsLexeme part.lexeme part.slice) (kind : Char → Bool) :
    (textOf parts).countP kind + (numberText parts').countP kind =
      (textOf parts').countP kind + (numberText parts).countP kind := by
  induction parts generalizing parts' with
  | nil =>
      obtain rfl := List.map_eq_nil_iff.mp hlexemes.symm
      rfl
  | cons part rest ih =>
      obtain ⟨part', rest', rfl, hpart, hrest⟩ := List.map_eq_cons_iff.mp hlexemes.symm
      have hih := ih hrest.symm (fun other hin => h other (List.mem_cons_of_mem part hin))
        (fun other hin => h' other (List.mem_cons_of_mem part' hin))
      simp only [textOf, numberText, List.flatMap_cons, List.filter_cons, hpart,
        List.countP_append] at hih ⊢
      cases hnumber : part.lexeme.isNumber with
      | true =>
          simp only [if_true, List.flatMap_cons, List.countP_append]
          omega
      | false =>
          have hslice : part.slice = part'.slice :=
            (h part (by simp)).slice_eq (hpart ▸ h' part' (by simp)) hnumber
          simp only [Bool.false_eq_true, if_false, hslice]
          omega

/-- Numbers have no exponents in one reading if they have none in another with the same lexemes. The
marks in the text are then all in names, and as many as before. So it is enough to count them,
without knowing where the numbers begin and end. -/
theorem proper_of_same {parts parts' : List Part}
    (hlexemes : parts.map Part.lexeme = parts'.map Part.lexeme)
    (htext : textOf parts = textOf parts') (hproper : ∀ part ∈ parts, part.Proper)
    (h' : ∀ part ∈ parts', IsLexeme part.lexeme part.slice) : ∀ part ∈ parts', part.Proper := by
  have hcount := countP_textOf hlexemes (fun part hin => (hproper part hin).isLexeme) h'
    Numeral.isMark
  have hnone : (numberText parts).countP Numeral.isMark = 0 := by
    rw [List.countP_eq_zero]
    intro c hc
    obtain ⟨part, hpart, hc⟩ := List.mem_flatMap.mp hc
    obtain ⟨hpart, hnumber⟩ := List.mem_filter.mp hpart
    rw [(hproper part hpart).unmarked hnumber c hc]
    exact Bool.false_ne_true
  have hnone' : (numberText parts').countP Numeral.isMark = 0 := by
    rw [htext, hnone] at hcount
    omega
  rw [List.countP_eq_zero] at hnone'
  intro part hpart
  refine ⟨h' part hpart, fun hnumber c hc => Bool.eq_false_iff.mpr (hnone' c ?_)⟩
  exact List.mem_flatMap.mpr ⟨part, List.mem_filter.mpr ⟨hpart, hnumber⟩, hc⟩

/-- The numbers that some parts begin with. No other part stands among them, so they are what may be
divided in another way. -/
def leading (parts : List Part) : List Part := parts.takeWhile (·.lexeme.isNumber)

theorem leading_cons_of_number {part : Part} (hnumber : part.lexeme.isNumber = true)
    (rest : List Part) : leading (part :: rest) = part :: leading rest := by
  simp [leading, hnumber]

theorem leading_cons_of_not_number {part : Part} (hnumber : part.lexeme.isNumber = false)
    (rest : List Part) : leading (part :: rest) = [] := by
  simp [leading, hnumber]

theorem length_leading (parts : List Part) :
    (leading parts).length = ((parts.map Part.lexeme).takeWhile Lexeme.isNumber).length := by
  rw [List.takeWhile_map, List.length_map]
  rfl

/-- The numbers that some parts begin with are the digits and points that their text begins with, as
no other lexeme begins with one of those. -/
theorem takeWhile_textOf {parts : List Part} (hproper : ∀ part ∈ parts, part.Proper) :
    (textOf parts).takeWhile isNumberChar = textOf (leading parts) := by
  induction parts with
  | nil => rfl
  | cons part rest ih =>
      have hpart := hproper part (by simp)
      cases hnumber : part.lexeme.isNumber with
      | true =>
          rw [leading_cons_of_number hnumber]
          simp only [textOf, List.flatMap_cons] at ih ⊢
          rw [List.takeWhile_append_of_pos (hpart.number_chars hnumber).1,
            ih fun other hin => hproper other (List.mem_cons_of_mem part hin)]
      | false =>
          obtain ⟨c, others, hslice⟩ := List.exists_cons_of_ne_nil hpart.slice_ne_nil
          have hc := hpart.isLexeme.head_of_not_number hnumber c (by rw [hslice]; rfl)
          rw [leading_cons_of_not_number hnumber]
          simp [textOf, hslice, hc]

theorem count_point_le {parts : List Part} (hproper : ∀ part ∈ parts, part.Proper) :
    (textOf (leading parts)).count '.' ≤ (leading parts).length := by
  induction parts with
  | nil => exact Nat.le_refl _
  | cons part rest ih =>
      cases hnumber : part.lexeme.isNumber with
      | true =>
          have hpart := ((hproper part (by simp)).number_chars hnumber).2
          have hrest := ih fun other hin => hproper other (List.mem_cons_of_mem part hin)
          rw [leading_cons_of_number hnumber]
          simp only [textOf, List.flatMap_cons, List.count_append, List.length_cons] at hrest ⊢
          omega
      | false =>
          rw [leading_cons_of_not_number hnumber]
          exact Nat.le_refl _

/-- In a text that is read as it stands a number can only be followed by a number if it has a point,
and then the number after it begins with one. -/
theorem Standing.next_number {part next : Part} {rest : List Part}
    (h : Standing (part :: next :: rest)) (hpart : part.Proper) (hnext : next.Proper)
    (hnumber : part.lexeme.isNumber = true) (hnextNumber : next.lexeme.isNumber = true) :
    '.' ∈ part.slice ∧ next.slice.head? = some '.' := by
  obtain ⟨hgoes, -⟩ := (standing_cons_iff hpart _).mp h
  obtain ⟨c, others, hslice⟩ := List.exists_cons_of_ne_nil hnext.slice_ne_nil
  have hhead : (textOf (next :: rest)).head? = some c := by rw [head?_textOf hnext, hslice]; rfl
  have hchar := (hnext.number_chars hnextNumber).1 c (by simp [hslice])
  obtain ⟨lexeme, slice⟩ := part
  cases lexeme with
  | number value =>
      simp only [Part.GoesOn, hhead, not_or, Option.mem_some_iff, exists_eq_left', not_and,
        not_not] at hgoes
      obtain ⟨⟨hdigit, hpoint⟩, -⟩ := hgoes
      have hc : c = '.' := by simpa [isNumberChar, hdigit] using hchar
      refine ⟨hpoint hc, ?_⟩
      rw [hslice, hc]
      rfl
  | name | operator | opening | closing => cases hnumber

/-- Numbers that stand next to each other have a point each. Without one the next number would be
taken up by the one before it. So in a row of numbers there are at least as many points as
numbers. -/
theorem Standing.length_leading_le {parts : List Part} (h : Standing parts)
    (hproper : ∀ part ∈ parts, part.Proper)
    (hpoint : ∀ part ∈ parts.head?, part.lexeme.isNumber = true → '.' ∈ part.slice) :
    (leading parts).length ≤ (textOf (leading parts)).count '.' := by
  induction h with
  | nil => exact Nat.le_refl _
  | @cons part rest hlongest hrest ih =>
      cases hnumber : part.lexeme.isNumber with
      | true =>
          have hpart : 0 < part.slice.count '.' := List.count_pos_iff.mpr (hpoint part rfl hnumber)
          have hfollowing :
              ∀ next ∈ rest.head?, next.lexeme.isNumber = true → '.' ∈ next.slice := by
            intro next hnext hnextNumber
            obtain ⟨more, rfl⟩ := List.head?_eq_some_iff.mp hnext
            obtain ⟨-, hhead⟩ := (Standing.cons hlongest hrest).next_number
              (hproper part (by simp)) (hproper next (by simp)) hnumber hnextNumber
            exact List.mem_of_mem_head? hhead
          have hleading := ih (fun other hin => hproper other (List.mem_cons_of_mem part hin))
            hfollowing
          rw [leading_cons_of_number hnumber]
          simp only [textOf, List.flatMap_cons, List.count_append, List.length_cons] at hleading ⊢
          omega
      | false =>
          rw [leading_cons_of_not_number hnumber]
          exact Nat.zero_le _

/-- Of two numbers next to each other the second begins with its point, or one of them has none.
Otherwise digits between the points could belong to either. -/
def Linked (parts : List Part) : Prop :=
  parts.IsChain fun part next =>
    part.lexeme.isNumber = true → next.lexeme.isNumber = true → '.' ∈ part.slice →
      '.' ∈ next.slice → next.slice.head? = some '.'

theorem Standing.linked {parts : List Part} (h : Standing parts)
    (hproper : ∀ part ∈ parts, part.Proper) : Linked parts := by
  induction h with
  | nil => exact .nil
  | @cons part rest hlongest hrest ih =>
      refine List.isChain_cons.mpr
        ⟨?_, ih fun other hin => hproper other (List.mem_cons_of_mem part hin)⟩
      intro next hnext hnumber hnextNumber _ _
      obtain ⟨more, rfl⟩ := List.head?_eq_some_iff.mp hnext
      exact ((Standing.cons hlongest hrest).next_number (hproper part (by simp))
        (hproper next (by simp)) hnumber hnextNumber).2

theorem Standing.slice_prefix {part part' : Part} {rest rest' : List Part}
    (h : Standing (part' :: rest')) (htext : textOf (part :: rest) = textOf (part' :: rest'))
    (hpart : IsLexeme part.lexeme part.slice) : part.slice <+: part'.slice := by
  cases h with
  | cons hlongest _ =>
      have hsplit : part.slice ++ textOf rest = part'.slice ++ textOf rest' := htext
      have hbegins : part.slice <+: part'.slice ++ textOf rest' := hsplit ▸ List.prefix_append _ _
      exact List.prefix_of_prefix_length_le hbegins (List.prefix_append _ _)
        (hlongest.longest _ _ hpart hbegins)

/-- Two numbers have a point each if they can be read as two numbers that stand: the points of the
numbers that follow do not exceed their number. Both are counted in the numbers with which the text
begins, and only the first two could have one too few. -/
theorem points_of_standing {part next part' next' : Part} {rest rest' : List Part}
    (hlexemes : (part :: next :: rest).map Part.lexeme = (part' :: next' :: rest').map Part.lexeme)
    (htext : textOf (part :: next :: rest) = textOf (part' :: next' :: rest'))
    (hproper : ∀ other ∈ part :: next :: rest, other.Proper)
    (hproper' : ∀ other ∈ part' :: next' :: rest', other.Proper)
    (h : Standing (part' :: next' :: rest')) (hnumber : part.lexeme.isNumber = true)
    (hnextNumber : next.lexeme.isNumber = true) : '.' ∈ part.slice ∧ '.' ∈ next.slice := by
  obtain ⟨hpartLexeme, hnextLexeme, -⟩ :
      part.lexeme = part'.lexeme ∧ next.lexeme = next'.lexeme ∧ _ := by
    simpa only [List.map_cons, List.cons.injEq] using hlexemes
  have hpoint := (h.next_number (hproper' part' (by simp)) (hproper' next' (by simp))
    (hpartLexeme ▸ hnumber) (hnextLexeme ▸ hnextNumber)).1
  have hmany := h.length_leading_le hproper' (by rintro _ ⟨⟩ -; exact hpoint)
  have hsame : textOf (leading (part :: next :: rest)) =
      textOf (leading (part' :: next' :: rest')) := by
    rw [← takeWhile_textOf hproper, ← takeWhile_textOf hproper', htext]
  rw [length_leading, ← hlexemes, ← length_leading, ← hsame, leading_cons_of_number hnumber,
    leading_cons_of_number hnextNumber] at hmany
  have hfew := @count_point_le rest fun other hin => hproper other (by simp [hin])
  have hfirst := ((hproper part (by simp)).number_chars hnumber).2
  have hsecond := ((hproper next (by simp)).number_chars hnextNumber).2
  simp only [textOf, List.flatMap_cons, List.count_append, List.length_cons] at hmany hfew
  exact ⟨List.count_pos_iff.mp (by omega), List.count_pos_iff.mp (by omega)⟩

/-- A number of linked parts is not longer in a reading with the same lexemes. What it had more of
would begin the number after it, and being linked that one begins with its point: then the longer
number has two. -/
theorem slice_eq_of_number {part part' : Part} {rest rest' : List Part}
    (hlexemes : (part :: rest).map Part.lexeme = (part' :: rest').map Part.lexeme)
    (htext : textOf (part :: rest) = textOf (part' :: rest'))
    (hproper : ∀ other ∈ part :: rest, other.Proper) (hlinked : Linked (part :: rest))
    (hproper' : ∀ other ∈ part' :: rest', other.Proper) (h : Standing (part' :: rest'))
    (hnumber : part.lexeme.isNumber = true) : part.slice = part'.slice := by
  obtain ⟨hpartLexeme, hrestLexemes⟩ := List.cons.inj hlexemes
  obtain ⟨hchars, htwice⟩ := (hproper' part' (by simp)).number_chars (hpartLexeme ▸ hnumber)
  obtain ⟨more, hmore⟩ := h.slice_prefix htext (hproper part (by simp)).isLexeme
  cases more with
  | nil => rw [← hmore, List.append_nil]
  | cons c more =>
      exfalso
      have hrest : textOf rest = c :: (more ++ textOf rest') := by
        have hsplit : part.slice ++ textOf rest = part'.slice ++ textOf rest' := htext
        rw [← hmore, List.append_assoc] at hsplit
        exact List.append_cancel_left hsplit
      have hc : isNumberChar c = true := hchars c (by simp [← hmore])
      cases rest with
      | nil => cases hrest
      | cons next rest =>
          obtain ⟨next', rest', rfl, -, -⟩ := List.map_eq_cons_iff.mp hrestLexemes.symm
          have hnext := hproper next (by simp)
          have hhead : next.slice.head? = some c := by
            rw [← head?_textOf hnext rest, hrest]
            rfl
          have hnextNumber := hnext.isLexeme.isNumber_of_head hhead hc
          obtain ⟨hpoint, hnextPoint⟩ :=
            points_of_standing hlexemes htext hproper hproper' h hnumber hnextNumber
          have hbegins :=
            (List.isChain_cons_cons.mp hlinked).1 hnumber hnextNumber hpoint hnextPoint
          rw [hhead, Option.some.injEq] at hbegins
          rw [← hmore, hbegins, List.count_append, List.count_cons_self] at htwice
          have := List.count_pos_iff.mpr hpoint
          omega

/-- Linked parts are read as they stand if anything with the same lexemes is. Where one number ends
and the next begins is then settled by the points. The induction is on the parts, and the first of
them has the same text in both readings. -/
theorem eq_of_standing {parts parts' : List Part}
    (hlexemes : parts.map Part.lexeme = parts'.map Part.lexeme)
    (htext : textOf parts = textOf parts') (hproper : ∀ part ∈ parts, part.Proper)
    (hlinked : Linked parts) (hproper' : ∀ part ∈ parts', part.Proper) (h : Standing parts') :
    parts = parts' := by
  induction parts generalizing parts' with
  | nil => exact (List.map_eq_nil_iff.mp hlexemes.symm).symm
  | cons part rest ih =>
      obtain ⟨part', rest', rfl, hpartLexeme, hrestLexemes⟩ :=
        List.map_eq_cons_iff.mp hlexemes.symm
      have hslice : part.slice = part'.slice := by
        cases hnumber : part.lexeme.isNumber with
        | true => exact slice_eq_of_number hlexemes htext hproper hlinked hproper' h hnumber
        | false =>
            exact (hproper part (by simp)).isLexeme.slice_eq
              (hpartLexeme ▸ (hproper' part' (by simp)).isLexeme) hnumber
      have hrest : textOf rest = textOf rest' := by
        have hsplit : part.slice ++ textOf rest = part'.slice ++ textOf rest' := htext
        rw [hslice] at hsplit
        exact List.append_cancel_left hsplit
      have hstanding := ((standing_cons_iff (hproper' part' (by simp)) rest').mp h).2
      have hsame := ih hrestLexemes.symm hrest
        (fun other hin => hproper other (List.mem_cons_of_mem part hin)) hlinked.tail
        (fun other hin => hproper' other (List.mem_cons_of_mem part' hin)) hstanding
      rw [hsame]
      congr 1
      obtain ⟨lexeme, slice⟩ := part
      obtain ⟨lexeme', slice'⟩ := part'
      obtain rfl : lexeme' = lexeme := hpartLexeme
      obtain rfl : slice = slice' := hslice
      rfl

/-- The lexemes of linked blocks, written one after the other, are those of the blocks if and only
if the last part of none goes on in the blocks after it. One direction is by reading the parts, the
other by comparing them with what is read. -/
theorem lexemes_flatten_iff {blocks : List (List Part)} (h : ∀ block ∈ blocks, Block block)
    (hlinked : Linked blocks.flatten)
    (hblank : ∀ c ∈ textOf blocks.flatten, Text.isBlank c = false) (position : Nat) :
    (∃ tokens, tokensFrom position (textOf blocks.flatten) = .ok tokens ∧
      tokens.map Token.lexeme = blocks.flatten.map Part.lexeme) ↔
      ∀ block rest, block :: rest <:+ blocks →
        ∀ last ∈ block.getLast?, ¬ last.GoesOn (textOf rest.flatten) := by
  rw [← standing_flatten_iff h]
  constructor
  · rintro ⟨tokens, htokens, hlexemes⟩
    obtain ⟨parts, hstanding, htext, hparts⟩ := exists_standing hblank htokens
    have hproper : ∀ part ∈ blocks.flatten, part.Proper := by
      intro part hpart
      obtain ⟨block, hblock, hpart⟩ := List.mem_flatten.mp hpart
      exact (h block hblock).proper part hpart
    have hsame := hlexemes.symm.trans hparts.symm
    have hproper' := proper_of_same hsame htext.symm hproper hstanding.isLexeme
    rwa [eq_of_standing hsame htext.symm hproper hlinked hproper' hstanding]
  · intro hstanding
    exact hstanding.exists_tokensFrom hblank position

end Reckoner.Expression
