import Reckoner.Proofs.Expression.Lexing

/-!
Texts written one after the other. A lexeme that a text ends with goes on in the text that follows
under conditions on few characters: a name with a letter or a digit, a number with a digit, with a
point if it has none, or with a whole exponent. Texts stand as they are in a row if and only if none
goes on in those after it.
-/

namespace Reckoner.Expression

def Lexeme.isNumber : Lexeme → Bool
  | .number _ => true
  | _ => false

def Lexeme.isName : Lexeme → Bool
  | .name _ => true
  | _ => false

theorem Lexeme.isName_of_isNumber {lexeme : Lexeme} (h : lexeme.isNumber = true) :
    lexeme.isName = false := by
  cases lexeme <;> first | rfl | cases h

/-- A lexeme and the characters it consists of. A number can be written in several ways, so the
lexeme alone does not tell them. -/
structure Part where
  lexeme : Lexeme
  slice : List Char

namespace Part

/-- The characters form the lexeme, without an exponent if it is a number. An exponent would take up
what follows in more ways than a digit or a point does. -/
structure Proper (part : Part) : Prop where
  isLexeme : IsLexeme part.lexeme part.slice
  unmarked : part.lexeme.isNumber = true → ∀ c ∈ part.slice, Numeral.isMark c = false

/-- The lexeme is longer where the text follows. For a number this takes a digit, a first point or
an exponent, and for a name a letter, a digit or a low line. -/
def GoesOn (part : Part) (rest : List Char) : Prop :=
  match part.lexeme with
  | .number _ =>
    (∃ c ∈ rest.head?, isDigit c = true ∨ c = '.' ∧ '.' ∉ part.slice) ∨
      (Numeral.scanExponent rest).1 ≠ none
  | .name _ => ∃ c ∈ rest.head?, Text.isWordChar c = true
  | _ => False

/-- Symbols do not go on, whatever follows them: each is a lexeme by itself. What goes on is a name
or a number. -/
theorem kind_of_goesOn {part : Part} {rest : List Char} (h : part.GoesOn rest) :
    part.lexeme.isName = true ∨ part.lexeme.isNumber = true := by
  obtain ⟨lexeme, slice⟩ := part
  cases lexeme with
  | number => exact Or.inr rfl
  | name => exact Or.inl rfl
  | operator | opening | closing => cases h

theorem goesOn_numeral_iff {n : Numeral} (h : n.WellFormed) (hexponent : n.exponent = none)
    (rest : List Char) : GoesOn ⟨.number n.value, n.text⟩ rest ↔ n.GoesOn rest := by
  simp only [GoesOn, Numeral.GoesOn, Numeral.point_notMem_iff h hexponent]

/-- A lexeme that goes on is the beginning of a longer one, which stands in the same text and would
be read instead of it. Each kind of lexeme is lengthened in its own way, by a letter, a digit, a
point or an exponent. -/
theorem Proper.exists_longer {part : Part} (h : part.Proper) {rest : List Char}
    (hrest : part.GoesOn rest) :
    ∃ lexeme slice, IsLexeme lexeme slice ∧ slice <+: part.slice ++ rest ∧
      part.slice.length < slice.length := by
  obtain ⟨lexeme, slice⟩ := part
  obtain ⟨hlexeme, hunmarked⟩ := h
  dsimp only at hlexeme hunmarked ⊢
  cases hlexeme with
  | @number n hn hdigits =>
      have hexponent := Numeral.exponent_eq_none_of_unmarked hn (hunmarked rfl)
      rw [goesOn_numeral_iff hn hexponent] at hrest
      obtain ⟨longer, hwell, hsome, hbegins, hlength⟩ :=
        Numeral.exists_longer hn hdigits hexponent hrest
      exact ⟨_, _, .number hwell hsome, hbegins, hlength⟩
  | @name first others hfirst hothers =>
      obtain ⟨c, hc, hword⟩ := hrest
      obtain ⟨more, rfl⟩ := List.head?_eq_some_iff.mp hc
      refine ⟨_, first :: (others ++ [c]), .name hfirst ?_, ⟨more, by simp⟩, by simp⟩
      intro d hd
      rcases List.mem_append.mp hd with hd | hd
      · exact hothers d hd
      · rwa [List.mem_singleton.mp hd]
  | operator | opening | closing => cases hrest

/-- A lexeme that does not go on is what is scanned. Nothing that follows can be added to it, so the
scanner ends where it does. -/
theorem Proper.scanned {part : Part} (h : part.Proper) {rest : List Char}
    (hrest : ¬ part.GoesOn rest) :
    ∃ c others, part.slice = c :: others ∧
      Scanned.ofChars? c (others ++ rest) = some ⟨part.lexeme, part.slice, rest⟩ := by
  obtain ⟨lexeme, slice⟩ := part
  obtain ⟨hlexeme, hunmarked⟩ := h
  dsimp only at hlexeme hunmarked ⊢
  cases hlexeme with
  | @number n hn hdigits =>
      have hexponent := Numeral.exponent_eq_none_of_unmarked hn (hunmarked rfl)
      rw [goesOn_numeral_iff hn hexponent] at hrest
      have hscan := Numeral.scan_of_not_goesOn hn hexponent hrest
      obtain ⟨c, others, htext, -⟩ := Numeral.exists_first hn hdigits
      have hnumeral : startsNumeral c (others ++ rest) = true := by
        apply startsNumeral_of_begins hn hdigits
        rw [htext]
        exact List.prefix_append _ _
      rw [htext, List.cons_append] at hscan
      refine ⟨c, others, htext, ?_⟩
      simp only [Scanned.ofChars?, hnumeral, if_true, hscan]
  | @name first others hfirst hothers =>
      refine ⟨first, others, rfl, ofChars?_name hfirst hothers fun c hc => ?_⟩
      exact Bool.eq_false_iff.mpr fun hword => hrest ⟨c, hc, hword⟩
  | operator op => exact ⟨_, _, rfl, ofChars?_symbol (by cases op <;> rfl) rest⟩
  | opening | closing => exact ⟨_, _, rfl, ofChars?_symbol rfl rest⟩

/-- Before a text a lexeme is the longest that begins there unless it goes on in the text. The
longest match is thus told by looking at what follows only. -/
theorem Proper.longest_iff {part : Part} (h : part.Proper) (rest : List Char) :
    Longest part.lexeme part.slice rest (part.slice ++ rest) ↔ ¬ part.GoesOn rest := by
  constructor
  · rintro ⟨-, -, hlongest⟩ hrest
    obtain ⟨lexeme, slice, hlexeme, hbegins, hlength⟩ := h.exists_longer hrest
    exact absurd (hlongest lexeme slice hlexeme hbegins) (Nat.not_le_of_lt hlength)
  · intro hrest
    obtain ⟨c, others, hslice, hscanned⟩ := h.scanned hrest
    have hlongest := ofChars?_eq_some_iff.mp hscanned
    rwa [← List.cons_append, ← hslice] at hlongest

theorem Proper.slice_ne_nil {part : Part} (h : part.Proper) : part.slice ≠ [] :=
  List.ne_nil_of_length_pos h.isLexeme.length_pos

/-- Only the first character that follows counts, unless it may begin an exponent. Then the digits
after the mark count as well. -/
theorem goesOn_congr {part : Part} {rest rest' : List Char} (hhead : rest.head? = rest'.head?)
    (hmark : part.lexeme.isNumber = true → ∀ c ∈ rest.head?, Numeral.isMark c = false) :
    part.GoesOn rest ↔ part.GoesOn rest' := by
  have hexponent {chars : List Char} (h : ∀ c ∈ chars.head?, Numeral.isMark c = false) :
      (Numeral.scanExponent chars).1 = none := by
    cases chars with
    | nil => rfl
    | cons c more =>
        have hc := h c rfl
        simp only [Numeral.isMark, Bool.or_eq_false_iff, decide_eq_false_iff_not] at hc
        simp [Numeral.scanExponent, hc.1, hc.2]
  obtain ⟨lexeme, slice⟩ := part
  cases lexeme with
  | number value =>
      have hmark := hmark rfl
      simp only [GoesOn, hexponent hmark, hexponent (hhead ▸ hmark), hhead]
  | name name => simp only [GoesOn, hhead]
  | operator | opening | closing => exact Iff.rfl

end Part

/-- The characters of numbers without exponents. A mark of an exponent is a letter, and signs are
symbols. -/
def isNumberChar (c : Char) : Bool := isDigit c || c = '.'

theorem isNumberChar_of_isDigit {c : Char} (h : isDigit c = true) : isNumberChar c = true := by
  simp [isNumberChar, h]

theorem isMark_of_isNumberChar {c : Char} (h : isNumberChar c = true) :
    Numeral.isMark c = false := by
  rw [Bool.eq_false_iff]
  intro hmark
  simp only [Numeral.isMark, Bool.or_eq_true, decide_eq_true_eq] at hmark
  rcases hmark with rfl | rfl <;> cases h

/-- Where no point follows a number with a point, what a lexeme goes on with depends on its kind
only. So it can be told from the first characters of what follows and the kind of the last part. -/
theorem Part.goesOn_iff {part : Part} {rest : List Char}
    (hpoint : '.' ∈ part.slice → rest.head? ≠ some '.') :
    part.GoesOn rest ↔
      part.lexeme.isName = true ∧ rest.head?.any Text.isWordChar = true ∨
      part.lexeme.isNumber = true ∧
        (rest.head?.any isNumberChar = true ∨ (Numeral.scanExponent rest).1 ≠ none) := by
  obtain ⟨lexeme, slice⟩ := part
  cases lexeme with
  | name name => simp [GoesOn, Lexeme.isName, Lexeme.isNumber, Option.any_eq_true]
  | number value =>
      dsimp only at hpoint
      simp only [GoesOn, Lexeme.isName, Lexeme.isNumber, Bool.false_eq_true, false_and, false_or,
        true_and, Option.any_eq_true, isNumberChar, Bool.or_eq_true, decide_eq_true_eq]
      apply or_congr_left
      apply exists_congr
      intro c
      apply and_congr_right
      intro hc
      apply or_congr_right
      refine and_iff_left_of_imp fun heq hin => ?_
      rw [heq] at hc
      exact hpoint hin hc
  | operator | opening | closing => simp [GoesOn, Lexeme.isName, Lexeme.isNumber]

/-- A numeral without exponent consists of digits and at most one point. Counting the points of a
text therefore says something about the numerals in it. -/
theorem numeral_chars {n : Numeral} (h : n.WellFormed) (hexponent : n.exponent = none) :
    (∀ c ∈ n.text, isNumberChar c = true) ∧ n.text.count '.' ≤ 1 := by
  have hcount (digits : List Char) (hdigits : ∀ c ∈ digits, isDigit c = true) :
      digits.count '.' = 0 := by
    rw [List.count_eq_zero]
    intro hpoint
    exact absurd (hdigits '.' hpoint) (by decide)
  have hwhole := hcount n.whole h.whole
  cases hfraction : n.fraction with
  | none =>
      simp only [Numeral.text, hexponent, hfraction, Option.elim_none, List.append_nil]
      exact ⟨fun c hc => isNumberChar_of_isDigit (h.whole c hc), by omega⟩
  | some digits =>
      have hdigits := hcount digits (h.fraction digits hfraction)
      simp only [Numeral.text, hexponent, hfraction, Option.elim_none, Option.elim_some,
        List.append_nil, List.mem_append, List.mem_cons, List.count_append, List.count_cons_self]
      refine ⟨?_, by omega⟩
      rintro c (hc | rfl | hc)
      · exact isNumberChar_of_isDigit (h.whole c hc)
      · rfl
      · exact isNumberChar_of_isDigit (h.fraction digits hfraction c hc)

namespace Part

theorem Proper.number_chars {part : Part} (h : part.Proper)
    (hnumber : part.lexeme.isNumber = true) :
    (∀ c ∈ part.slice, isNumberChar c = true) ∧ part.slice.count '.' ≤ 1 := by
  have hunmarked := h.unmarked hnumber
  have hlexeme := h.isLexeme
  obtain ⟨lexeme, slice⟩ := part
  dsimp only at hnumber hunmarked hlexeme ⊢
  cases hlexeme with
  | number hn => exact numeral_chars hn (Numeral.exponent_eq_none_of_unmarked hn hunmarked)
  | name | operator | opening | closing => cases hnumber

end Part

/-- What is no number does not begin as one. Names begin with a letter or a low line, and symbols
with neither digit nor point. -/
theorem IsLexeme.head_of_not_number {lexeme : Lexeme} {slice : List Char}
    (h : IsLexeme lexeme slice) (hnumber : lexeme.isNumber = false) :
    ∀ c ∈ slice.head?, isNumberChar c = false := by
  intro c hc
  rw [Bool.eq_false_iff]
  intro hchar
  have hfirst := first_of_numeral (c := c) (by simpa [isNumberChar] using hchar)
  cases h with
  | number => cases hnumber
  | name hname =>
      obtain rfl := Option.some.inj hc
      rw [hfirst.1] at hname
      cases hname
  | operator op =>
      obtain rfl := Option.some.inj hc
      exact hfirst.2 (by cases op <;> decide)
  | opening | closing =>
      obtain rfl := Option.some.inj hc
      exact hfirst.2 (by decide)

theorem IsLexeme.isNumber_of_head {lexeme : Lexeme} {slice : List Char} (h : IsLexeme lexeme slice)
    {c : Char} (hhead : slice.head? = some c) (hc : isNumberChar c = true) :
    lexeme.isNumber = true := by
  rw [← Bool.not_eq_false]
  intro hnot
  rw [h.head_of_not_number hnot c hhead] at hc
  cases hc

/-- The characters of some parts, one after the other. Nothing stands between them, so where one
ends and the next begins is not seen in the text. -/
def textOf (parts : List Part) : List Char := parts.flatMap Part.slice

theorem textOf_append (front back : List Part) :
    textOf (front ++ back) = textOf front ++ textOf back :=
  List.flatMap_append

/-- Every part is the longest lexeme that begins where it stands. The text of the parts is then read
as those parts. -/
inductive Standing : List Part → Prop where
  | nil : Standing []
  | cons {part : Part} {rest : List Part}
      (hlongest : Longest part.lexeme part.slice (textOf rest) (part.slice ++ textOf rest))
      (hrest : Standing rest) : Standing (part :: rest)

/-- Parts that stand as they are are read as they are. Nothing in them is blank, so no character is
passed over. The induction is on the parts, each of which is scanned as the longest lexeme. -/
theorem Standing.exists_tokensFrom {parts : List Part} (h : Standing parts)
    (hblank : ∀ c ∈ textOf parts, Text.isBlank c = false) (position : Nat) :
    ∃ tokens, tokensFrom position (textOf parts) = .ok tokens ∧
      tokens.map Token.lexeme = parts.map Part.lexeme := by
  induction h generalizing position with
  | nil => exact ⟨[], tokensFrom_nil position, rfl⟩
  | @cons part rest hlongest hrest ih =>
      obtain ⟨c, others, hslice, -⟩ := hlongest.lexeme.scanned
      have htext : textOf (part :: rest) = c :: (others ++ textOf rest) := by
        rw [← List.cons_append, ← hslice]
        rfl
      rw [htext] at hblank ⊢
      obtain ⟨tokens, htokens, hlexemes⟩ :=
        ih (fun d hd => hblank d (by simp [hd])) (position + part.slice.length)
      have hscanned : Scanned.ofChars? c (others ++ textOf rest) =
          some ⟨part.lexeme, part.slice, textOf rest⟩ := by
        apply ofChars?_eq_some_iff.mpr
        rwa [← List.cons_append, ← hslice]
      refine ⟨⟨part.lexeme, position⟩ :: tokens, ?_, by simp [hlexemes]⟩
      rw [tokensFrom_cons (hblank c (by simp)) hscanned, htokens]
      rfl

/-- What is read stands as it is read. Together with the converse this says that parts and tokens of
a text are one. The parts are collected along the recursion of the reader. -/
theorem exists_standing {chars : List Char} {tokens : List Token} {position : Nat}
    (hblank : ∀ c ∈ chars, Text.isBlank c = false) (h : tokensFrom position chars = .ok tokens) :
    ∃ parts, Standing parts ∧ textOf parts = chars ∧
      parts.map Part.lexeme = tokens.map Token.lexeme := by
  fun_induction tokensFrom position chars generalizing tokens with
  | case1 position =>
      cases h
      exact ⟨[], .nil, rfl, rfl⟩
  | case2 position c rest hc ih =>
      rw [hblank c (by simp)] at hc
      cases hc
  | case3 => cases h
  | case4 position c rest hc scanned hscanned ih =>
      obtain ⟨after, hafter, hrest⟩ := bind_eq_ok_iff.mp h
      cases hrest
      have hlongest := ofChars?_eq_some_iff.mp hscanned
      have hsplit := hlongest.split
      obtain ⟨parts, hparts, htext, hlexemes⟩ := ih
        (fun d hd => hblank d (by rw [← hsplit]; simp [hd])) hafter
      refine ⟨⟨scanned.lexeme, scanned.taken⟩ :: parts, .cons ?_ hparts, ?_, by simp [hlexemes]⟩
      · rwa [htext, hsplit]
      · rw [← hsplit, ← htext]
        rfl

theorem Standing.isLexeme {parts : List Part} (h : Standing parts) :
    ∀ part ∈ parts, IsLexeme part.lexeme part.slice := by
  induction h with
  | nil => simp
  | cons hlongest hrest ih =>
      intro other hin
      rcases List.mem_cons.mp hin with rfl | hin
      · exact hlongest.lexeme
      · exact ih other hin

theorem standing_cons_iff {part : Part} (h : part.Proper) (rest : List Part) :
    Standing (part :: rest) ↔ ¬ part.GoesOn (textOf rest) ∧ Standing rest := by
  rw [← h.longest_iff]
  constructor
  · rintro ⟨⟩
    exact ⟨‹_›, ‹_›⟩
  · rintro ⟨hlongest, hrest⟩
    exact .cons hlongest hrest

theorem not_goesOn_nil (part : Part) : ¬ part.GoesOn [] := by
  obtain ⟨lexeme, slice⟩ := part
  cases lexeme <;> simp [Part.GoesOn, Numeral.scanExponent]

theorem head?_textOf {part : Part} (h : part.Proper) (rest : List Part) :
    (textOf (part :: rest)).head? = part.slice.head? :=
  List.head?_append_of_ne_nil _ h.slice_ne_nil

/-- After a number no exponent begins. It would be read as part of the number, although no digit or
point follows. -/
def Firm (parts : List Part) : Prop :=
  parts.IsChain fun part next =>
    part.lexeme.isNumber = true → ∀ c ∈ next.slice.head?, Numeral.isMark c = false

theorem firm_of_unmarked {parts : List Part}
    (h : ∀ part ∈ parts, ∀ c ∈ part.slice, Numeral.isMark c = false) : Firm parts := by
  induction parts with
  | nil => exact .nil
  | cons part rest ih =>
      refine List.isChain_cons.mpr
        ⟨?_, ih fun other hin => h other (List.mem_cons_of_mem part hin)⟩
      intro next hnext _ c hc
      exact h next (List.mem_cons_of_mem part (List.mem_of_mem_head? hnext)) c
        (List.mem_of_mem_head? hc)

/-- Parts stand as they are before others if they do alone and the last does not go on. All parts
before the last are followed by the same first characters as before. So it is enough to look at the
joint. The induction is on the parts before it. -/
theorem standing_append_iff {front back : List Part} {last : Part}
    (hproper : ∀ part ∈ front ++ [last], part.Proper) (hfirm : Firm (front ++ [last])) :
    Standing (front ++ last :: back) ↔
      Standing (front ++ [last]) ∧ ¬ last.GoesOn (textOf back) ∧ Standing back := by
  induction front with
  | nil =>
      have hlast := hproper last (by simp)
      simp only [List.nil_append, standing_cons_iff hlast, textOf, List.flatMap_nil,
        not_goesOn_nil, not_false_eq_true, Standing.nil, true_and]
  | cons part front ih =>
      have hpart := hproper part (by simp)
      obtain ⟨next, more, hnext⟩ : ∃ next more, front ++ [last] = next :: more :=
        List.exists_cons_of_ne_nil (by simp)
      have hproperNext := hproper next (by rw [List.cons_append, hnext]; simp)
      have hchain : Firm (part :: next :: more) := by
        rw [← hnext]
        exact hfirm
      obtain ⟨hmark, hrest⟩ := List.isChain_cons_cons.mp hchain
      have hhead : (textOf (front ++ last :: back)).head? = (textOf (front ++ [last])).head? := by
        have hsplit : front ++ last :: back = next :: (more ++ back) := by
          rw [← List.cons_append, ← hnext]
          simp
        rw [hsplit, hnext, head?_textOf hproperNext, head?_textOf hproperNext]
      have hsame : part.GoesOn (textOf (front ++ last :: back)) ↔
          part.GoesOn (textOf (front ++ [last])) := by
        apply Part.goesOn_congr hhead
        rwa [hhead, hnext, head?_textOf hproperNext]
      rw [List.cons_append, List.cons_append, standing_cons_iff hpart, standing_cons_iff hpart,
        hsame, ih (fun other hin => hproper other (List.mem_cons_of_mem part hin))
          (hnext ▸ hrest), and_assoc]

/-- Parts that are read alone as they stand. There is at least one, so that every block has a last
part that may go on in the next block. -/
structure Block (parts : List Part) : Prop where
  nonempty : parts ≠ []
  proper : ∀ part ∈ parts, part.Proper
  firm : Firm parts
  standing : Standing parts

/-- Blocks are read one after the other as they stand if and only if the last part of none goes on
in the blocks after it. The joints are looked at one after the other, from the last to the first. -/
theorem standing_flatten_iff {blocks : List (List Part)} (h : ∀ block ∈ blocks, Block block) :
    Standing blocks.flatten ↔ ∀ block rest, block :: rest <:+ blocks →
      ∀ last ∈ block.getLast?, ¬ last.GoesOn (textOf rest.flatten) := by
  induction blocks with
  | nil => simp [Standing.nil]
  | cons block blocks ih =>
      have hblock := h block (by simp)
      have hrest := ih fun other hin => h other (List.mem_cons_of_mem block hin)
      obtain ⟨front, last, rfl⟩ := (List.eq_nil_or_concat' block).resolve_left hblock.nonempty
      rw [List.flatten_cons, List.append_assoc, List.singleton_append,
        standing_append_iff hblock.proper hblock.firm, hrest]
      constructor
      · rintro ⟨-, hlast, hothers⟩ block rest hsuffix
        rcases List.suffix_cons_iff.mp hsuffix with heq | hsuffix
        · obtain ⟨rfl, rfl⟩ := List.cons.inj heq
          intro found hfound
          rw [List.getLast?_concat, Option.mem_some_iff] at hfound
          rwa [← hfound]
        · exact hothers block rest hsuffix
      · intro hall
        refine ⟨hblock.standing, ?_, ?_⟩
        · exact hall _ _ (List.suffix_refl _) last (by simp)
        · intro block rest hsuffix
          exact hall block rest (hsuffix.trans (List.suffix_cons _ _))

end Reckoner.Expression
