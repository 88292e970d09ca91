import Reckoner.Proofs.Binary64.Reading
import Reckoner.Proofs.Expression.Literal

/-!
Tokens by longest match. What a lexeme may consist of is said by `IsLexeme`, without regard to how a
text is read; `Reads` reads a text from the left and takes the longest lexeme at every place that is
not blank. The tokens of a text are those of such a reading to its end. There are none exactly if
the reading comes to a place where no lexeme begins, and that place is the position of the error.
-/

namespace Reckoner.Expression

/-- The characters that a lexeme may consist of. It does not say where lexemes begin and end in a
text, which only the longest match does. -/
inductive IsLexeme : Lexeme → List Char → Prop where
  | number {n : Numeral} (h : n.WellFormed) (hdigits : n.hasDigits = true) :
      IsLexeme (.number n.value) n.text
  | name {first : Char} {others : List Char} (hfirst : startsName first = true)
      (hothers : ∀ c ∈ others, Text.isWordChar c = true) :
      IsLexeme (.name (String.ofList (first :: others))) (first :: others)
  | operator (operator : Operator) : IsLexeme (.operator operator) [operator.char]
  | opening : IsLexeme .opening ['(']
  | closing : IsLexeme .closing [')']

/-- The longest lexeme that begins a text, and what follows it. It is stated by comparison with all
others, and not by the way in which it is found. -/
structure Longest (lexeme : Lexeme) (slice rest chars : List Char) : Prop where
  split : slice ++ rest = chars
  lexeme : IsLexeme lexeme slice
  longest : ∀ other slice', IsLexeme other slice' → slice' <+: chars →
    slice'.length ≤ slice.length

/-- No lexeme begins the text, so reading cannot go on there unless it is blank. This is what is
wrong with a character in the way. -/
def NoLexeme (chars : List Char) : Prop := ∀ lexeme slice, IsLexeme lexeme slice → ¬ slice <+: chars

theorem not_isLetter_of_lt {c : Char} (h : c.toNat < 65) : Text.isLetter c = false := by
  have hranges : Text.letterRanges = (0x41, 0x5A) :: Text.letterRanges.tail := rfl
  rw [Text.isLetter, hranges, Text.inRanges, if_pos (by omega)]
  exact decide_eq_false (by omega)

theorem isDigit_bounds {c : Char} (h : isDigit c = true) : 48 ≤ c.toNat ∧ c.toNat ≤ 57 := by
  simp only [isDigit, Bool.and_eq_true, decide_eq_true_eq] at h
  exact h

/-- What can begin a numeral begins neither a name nor a symbol. So the first character decides
which kind of lexeme is looked for. -/
theorem first_of_numeral {c : Char} (h : isDigit c = true ∨ c = '.') :
    startsName c = false ∧ c ∉ symbolChars := by
  rcases h with h | rfl
  · have hbounds := isDigit_bounds h
    have hline : c ≠ '_' := by
      rintro rfl
      exact absurd h (by decide)
    refine ⟨by simp [startsName, not_isLetter_of_lt (by omega : c.toNat < 65), hline], ?_⟩
    intro hsymbol
    have hnot := (symbolChars_facts hsymbol).1.1
    rw [h] at hnot
    cases hnot
  · exact ⟨by decide, by decide⟩

theorem first_of_startsNumeral {c : Char} {rest : List Char} (h : startsNumeral c rest = true) :
    isDigit c = true ∨ c = '.' := by
  simp only [startsNumeral, Bool.or_eq_true, Bool.and_eq_true, decide_eq_true_eq] at h
  exact h.imp_right And.left

theorem startsNumeral_of_begins {n : Numeral} (h : n.WellFormed) (hdigits : n.hasDigits = true)
    {c : Char} {rest : List Char} (hbegins : n.text <+: c :: rest) :
    startsNumeral c rest = true := by
  obtain ⟨first, others, htext, hfirst⟩ := Numeral.exists_first h hdigits
  rw [htext] at hbegins
  obtain ⟨rfl, hothers⟩ := List.cons_prefix_cons.mp hbegins
  rcases hfirst with hfirst | ⟨rfl, d, more, rfl, hd⟩
  · simp [startsNumeral, hfirst]
  · obtain ⟨after, rfl⟩ := hothers
    simp [startsNumeral, hd]

theorem hasDigits_scan {c : Char} {rest : List Char} (h : startsNumeral c rest = true) :
    (Numeral.scan (c :: rest)).1.hasDigits = true := by
  by_cases hc : isDigit c = true
  · simp [Numeral.scan, Numeral.hasDigits, hc]
  · simp only [startsNumeral, hc, Bool.false_or, Bool.and_eq_true, decide_eq_true_eq] at h
    obtain ⟨rfl, hhead⟩ := h
    cases rest with
    | nil => cases hhead
    | cons d more =>
        have hd : isDigit d = true := hhead
        simp [Numeral.scan, Numeral.hasDigits, Numeral.scanFraction, hc, hd]

/-- The symbols as lexemes, told by their character. Each consists of that character alone, so what
follows makes no difference. -/
theorem isLexeme_of_ofChar? {c : Char} {lexeme : Lexeme} (h : Lexeme.ofChar? c = some lexeme) :
    IsLexeme lexeme [c] := by
  unfold Lexeme.ofChar? at h
  split at h
  case h_1 => cases h; exact .operator .plus
  case h_2 => cases h; exact .operator .minus
  case h_3 => cases h; exact .operator .times
  case h_4 => cases h; exact .operator .divide
  case h_5 => cases h; exact .operator .power
  case h_6 => cases h; exact .operator .bang
  case h_7 => cases h; exact .opening
  case h_8 => cases h; exact .closing
  case h_9 => cases h

/-- A name is scanned up to where no letter or digit follows. It takes all of them, even if a
shorter name is that of a function. -/
theorem ofChars?_name {first : Char} {others rest : List Char} (hfirst : startsName first = true)
    (hothers : ∀ c ∈ others, Text.isWordChar c = true)
    (hrest : ∀ c ∈ rest.head?, Text.isWordChar c = false) :
    Scanned.ofChars? first (others ++ rest) =
      some ⟨.name (String.ofList (first :: others)), first :: others, rest⟩ := by
  have hspan := span_append rest hothers hrest
  have hnumeral : startsNumeral first (others ++ rest) = false := by
    rw [Bool.eq_false_iff]
    intro hnumeral
    rw [(first_of_numeral (first_of_startsNumeral hnumeral)).1] at hfirst
    cases hfirst
  simp only [Scanned.ofChars?, hnumeral, hfirst, if_true, if_false, Bool.false_eq_true, hspan.1,
    hspan.2]

/-- A lexeme that stands alone is scanned whole. What it consists of is therefore enough to know
which lexeme it is. -/
theorem IsLexeme.scanned {lexeme : Lexeme} {slice : List Char} (h : IsLexeme lexeme slice) :
    ∃ c others, slice = c :: others ∧ Scanned.ofChars? c others = some ⟨lexeme, slice, []⟩ := by
  cases h with
  | number h hdigits =>
      obtain ⟨c, others, htext, -⟩ := Numeral.exists_first h hdigits
      have hnumeral : startsNumeral c others = true := by
        apply startsNumeral_of_begins h hdigits
        rw [htext]
      have hscan := Numeral.scan_text_append h Numeral.ends_nil
      rw [List.append_nil, htext] at hscan
      refine ⟨c, others, htext, ?_⟩
      simp only [Scanned.ofChars?, hnumeral, if_true, hscan]
  | @name first others hfirst hothers =>
      have hscanned := @ofChars?_name _ _ [] hfirst hothers (by simp)
      rw [List.append_nil] at hscanned
      exact ⟨first, others, rfl, hscanned⟩
  | operator op => exact ⟨_, _, rfl, ofChars?_symbol (by cases op <;> rfl) []⟩
  | opening => exact ⟨_, _, rfl, ofChars?_symbol rfl []⟩
  | closing => exact ⟨_, _, rfl, ofChars?_symbol rfl []⟩

/-- Characters are at most one lexeme, for each is scanned from them. Which lexeme stands somewhere
is therefore told by its characters. -/
theorem IsLexeme.unique {lexeme lexeme' : Lexeme} {slice : List Char} (h : IsLexeme lexeme slice)
    (h' : IsLexeme lexeme' slice) : lexeme = lexeme' := by
  obtain ⟨c, others, rfl, hscanned⟩ := h.scanned
  obtain ⟨c', others', hslice, hscanned'⟩ := h'.scanned
  obtain ⟨rfl, rfl⟩ := List.cons.inj hslice
  rw [hscanned] at hscanned'
  exact congrArg Scanned.lexeme (Option.some.inj hscanned')

theorem IsLexeme.length_pos {lexeme : Lexeme} {slice : List Char} (h : IsLexeme lexeme slice) :
    0 < slice.length := by
  obtain ⟨c, others, rfl, -⟩ := h.scanned
  exact Nat.succ_pos _

/-- What is scanned is a lexeme, and consists of the characters that were taken. So nothing is read
that the grammar does not know. -/
theorem Scanned.isLexeme {c : Char} {rest : List Char} {scanned : Scanned}
    (h : Scanned.ofChars? c rest = some scanned) : IsLexeme scanned.lexeme scanned.taken := by
  unfold Scanned.ofChars? at h
  split at h
  · rename_i hnumeral
    cases h
    exact .number (Numeral.scan_wellFormed _) (hasDigits_scan hnumeral)
  split at h
  · rename_i hname
    cases h
    exact .name hname fun d hd => List.mem_takeWhile_imp hd
  · obtain ⟨lexeme, hsymbol, rfl⟩ := Option.map_eq_some_iff.mp h
    exact isLexeme_of_ofChar? hsymbol

/-- No lexeme that begins a text is longer than the one scanned there. Numerals and names are taken
as far as they go, and symbols have one character. What begins the text decides which of the three
is tried, and the lexeme is of the same kind. -/
theorem length_le_of_scanned {c : Char} {rest : List Char} {scanned : Scanned}
    (h : Scanned.ofChars? c rest = some scanned) {lexeme : Lexeme} {slice : List Char}
    (hlexeme : IsLexeme lexeme slice) (hbegins : slice <+: c :: rest) :
    slice.length ≤ scanned.taken.length := by
  have hpos := (Scanned.isLexeme h).length_pos
  unfold Scanned.ofChars? at h
  cases hlexeme with
  | @number n hn hdigits =>
      rw [if_pos (startsNumeral_of_begins hn hdigits hbegins)] at h
      cases h
      obtain ⟨after, hafter⟩ := hbegins
      rw [← hafter]
      exact Numeral.length_text_le_scan hn after
  | @name first others hfirst hothers =>
      obtain ⟨rfl, after, rfl⟩ := List.cons_prefix_cons.mp hbegins
      have hnumeral : ¬ startsNumeral first (others ++ after) = true := by
        intro hnumeral
        rw [(first_of_numeral (first_of_startsNumeral hnumeral)).1] at hfirst
        cases hfirst
      rw [if_neg hnumeral, if_pos hfirst] at h
      cases h
      simp only [List.takeWhile_append_of_pos hothers, List.length_cons, List.length_append]
      omega
  | operator | opening | closing => exact hpos

/-- Where nothing is scanned, no lexeme begins. Any lexeme would be told by its first characters,
and those are tried in turn. Together with the lemma before this characterizes the scanner. -/
theorem noLexeme_of_ofChars?_eq_none {c : Char} {rest : List Char}
    (h : Scanned.ofChars? c rest = none) : NoLexeme (c :: rest) := by
  intro lexeme slice hlexeme hbegins
  unfold Scanned.ofChars? at h
  split at h
  · cases h
  rename_i hnumeral
  split at h
  · cases h
  rename_i hname
  have hsymbol : Lexeme.ofChar? c = none := Option.map_eq_none_iff.mp h
  cases hlexeme with
  | number hn hdigits => exact hnumeral (startsNumeral_of_begins hn hdigits hbegins)
  | name hfirst =>
      obtain ⟨rfl, -⟩ := List.cons_prefix_cons.mp hbegins
      exact hname hfirst
  | operator op =>
      obtain ⟨rfl, -⟩ := List.cons_prefix_cons.mp hbegins
      cases op <;> cases hsymbol
  | opening | closing =>
      obtain ⟨rfl, -⟩ := List.cons_prefix_cons.mp hbegins
      cases hsymbol

/-- Scanning finds the longest lexeme, and finds one wherever a lexeme begins. From here on lexemes
need not be scanned to be known. Two longest lexemes at one place have the same length, and so the
same characters. -/
theorem ofChars?_eq_some_iff {c : Char} {rest : List Char} {scanned : Scanned} :
    Scanned.ofChars? c rest = some scanned ↔
      Longest scanned.lexeme scanned.taken scanned.rest (c :: rest) := by
  constructor
  · intro h
    exact ⟨Scanned.taken_append_rest h, Scanned.isLexeme h,
      fun _ _ hlexeme hbegins => length_le_of_scanned h hlexeme hbegins⟩
  · rintro ⟨hsplit, hlexeme, hlongest⟩
    have hbegins : scanned.taken <+: c :: rest := ⟨scanned.rest, hsplit⟩
    cases hfound : Scanned.ofChars? c rest with
    | none => exact absurd hbegins (noLexeme_of_ofChars?_eq_none hfound _ _ hlexeme)
    | some found =>
        have hfoundSplit := Scanned.taken_append_rest hfound
        have hlength : found.taken.length = scanned.taken.length :=
          Nat.le_antisymm (hlongest _ _ (Scanned.isLexeme hfound) ⟨found.rest, hfoundSplit⟩)
            (length_le_of_scanned hfound hlexeme hbegins)
        obtain ⟨htaken, hrest⟩ := List.append_inj (hfoundSplit.trans hsplit.symm) hlength
        have hfoundLexeme := Scanned.isLexeme hfound
        rw [htaken] at hfoundLexeme
        obtain ⟨lexeme, taken, after⟩ := found
        obtain ⟨lexeme', taken', after'⟩ := scanned
        obtain rfl : taken = taken' := htaken
        obtain rfl : after = after' := hrest
        obtain rfl : lexeme = lexeme' := hfoundLexeme.unique hlexeme
        rfl

/-- A part of a text that is read: a blank character, or the characters of a token. The text is made
of these and of what cannot be read. -/
inductive Segment where
  | blank (c : Char)
  | token (token : Token) (slice : List Char)

namespace Segment

def chars : Segment → List Char
  | blank c => [c]
  | token _ slice => slice

def token? : Segment → Option Token
  | blank _ => none
  | token found _ => some found

end Segment

/-- The characters of some segments, one after the other. -/
def written (segments : List Segment) : List Char := segments.flatMap Segment.chars

/-- The tokens of some segments, in order. -/
def tokensOf (segments : List Segment) : List Token := segments.filterMap Segment.token?

/-- Reading a text from a position on, as far as some segments and up to what is left: a blank
character is passed over, and elsewhere the longest lexeme becomes a token. -/
inductive Reads : Nat → List Char → List Segment → List Char → Prop where
  | stop (position : Nat) (left : List Char) : Reads position left [] left
  | blank {position : Nat} {c : Char} {rest left : List Char} {segments : List Segment}
      (hblank : Text.isBlank c = true) (hrest : Reads (position + 1) rest segments left) :
      Reads position (c :: rest) (.blank c :: segments) left
  | token {position : Nat} {c : Char} {chars slice rest left : List Char} {lexeme : Lexeme}
      {segments : List Segment} (hblank : Text.isBlank c = false)
      (hlongest : Longest lexeme slice rest (c :: chars))
      (hrest : Reads (position + slice.length) rest segments left) :
      Reads position (c :: chars) (.token ⟨lexeme, position⟩ slice :: segments) left

/-- A place that is not blank and where no lexeme begins. It is where reading ends, and what the
error about the text points at. -/
def Stuck (c : Char) (rest : List Char) : Prop := Text.isBlank c = false ∧ NoLexeme (c :: rest)

theorem tokensFrom_of_stuck {c : Char} {rest : List Char} (h : Stuck c rest) (position : Nat) :
    tokensFrom position (c :: rest) = .error (.unexpectedCharacter c position) := by
  obtain ⟨hblank, hnone⟩ := h
  rw [tokensFrom, hblank]
  simp only [Bool.false_eq_true, if_false]
  split
  · rfl
  · rename_i scanned hscanned
    exact absurd ⟨scanned.rest, Scanned.taken_append_rest hscanned⟩
      (hnone _ _ (Scanned.isLexeme hscanned))

namespace Reads

variable {position : Nat} {chars left : List Char} {segments : List Segment}

/-- Every text can be read to its end or to a place where no lexeme begins. There is no third way to
end, as some lexeme is always the longest. -/
theorem exists_reads (position : Nat) (chars : List Char) :
    ∃ segments left, Reads position chars segments left ∧
      (left = [] ∨ ∃ c rest, left = c :: rest ∧ Stuck c rest) := by
  fun_induction tokensFrom position chars with
  | case1 position => exact ⟨[], [], .stop position [], .inl rfl⟩
  | case2 position c rest hblank ih =>
      obtain ⟨segments, left, hreads, hleft⟩ := ih
      exact ⟨.blank c :: segments, left, .blank hblank hreads, hleft⟩
  | case3 position c rest hblank hnone =>
      rw [Bool.not_eq_true] at hblank
      exact ⟨[], c :: rest, .stop position _,
        .inr ⟨c, rest, rfl, hblank, noLexeme_of_ofChars?_eq_none hnone⟩⟩
  | case4 position c rest hblank scanned hscanned ih =>
      rw [Bool.not_eq_true] at hblank
      obtain ⟨segments, left, hreads, hleft⟩ := ih
      exact ⟨_, left, .token hblank (ofChars?_eq_some_iff.mp hscanned) hreads, hleft⟩

/-- The tokens of a text are those of a reading and the tokens of what it leaves. An error in the
rest is the error of the whole. The induction is on the reading, and the positions are counted on
with it. -/
theorem tokensFrom_eq (h : Reads position chars segments left) :
    tokensFrom position chars =
      (tokensFrom (position + (written segments).length) left).map (tokensOf segments ++ ·) := by
  induction h with
  | stop position left =>
      simp only [written, tokensOf, List.flatMap_nil, List.filterMap_nil, List.nil_append,
        List.length_nil, Nat.add_zero]
      cases tokensFrom position left <;> rfl
  | @blank position c rest left segments hblank hrest ih =>
      have hplace : position + (written (.blank c :: segments)).length =
          position + 1 + (written segments).length := by
        simp only [written, List.flatMap_cons, Segment.chars, List.length_append, List.length_cons,
          List.length_nil]
        omega
      rw [tokensFrom, if_pos hblank, ih, hplace]
      rfl
  | @token position c chars slice rest left lexeme segments hblank hlongest hrest ih =>
      have hscanned : Scanned.ofChars? c chars = some ⟨lexeme, slice, rest⟩ :=
        ofChars?_eq_some_iff.mpr hlongest
      have hplace : position + (written (.token ⟨lexeme, position⟩ slice :: segments)).length =
          position + slice.length + (written segments).length := by
        simp only [written, List.flatMap_cons, Segment.chars, List.length_append]
        omega
      rw [tokensFrom_cons hblank hscanned, ih, hplace]
      cases tokensFrom (position + slice.length + (written segments).length) left <;> rfl

/-- Nothing of the text is lost: what was read and what was left make it up again, blank characters
included. -/
theorem written_append (h : Reads position chars segments left) :
    written segments ++ left = chars := by
  induction h with
  | stop => rfl
  | blank hblank hrest ih =>
      rw [← ih]
      rfl
  | token hblank hlongest hrest ih =>
      rw [← hlongest.split, ← ih]
      exact List.append_assoc _ _ _

theorem isBlank_of_mem (h : Reads position chars segments left) {c : Char}
    (hc : Segment.blank c ∈ segments) : Text.isBlank c = true := by
  induction h with
  | stop => cases hc
  | blank hblank hrest ih =>
      rcases List.mem_cons.mp hc with heq | hc
      · cases heq
        exact hblank
      · exact ih hc
  | token hblank hlongest hrest ih =>
      rcases List.mem_cons.mp hc with heq | hc
      · cases heq
      · exact ih hc

/-- A token stands at its position and consists of what stands there. The position counts from where
the text is said to begin. The induction is on the reading, with what stands before the token
growing by each segment. -/
theorem token_of_mem (h : Reads position chars segments left) {token : Token} {slice : List Char}
    (htoken : Segment.token token slice ∈ segments) :
    IsLexeme token.lexeme slice ∧
      ∃ before after, chars = before ++ slice ++ after ∧
        token.position = position + before.length := by
  induction h with
  | stop => cases htoken
  | @blank position c rest left segments hblank hrest ih =>
      rcases List.mem_cons.mp htoken with heq | htoken
      · cases heq
      · obtain ⟨hlexeme, before, after, hsplit, hposition⟩ := ih htoken
        refine ⟨hlexeme, c :: before, after, by rw [hsplit]; rfl, ?_⟩
        rw [hposition, List.length_cons]
        omega
  | @token position c chars found rest left lexeme segments hblank hlongest hrest ih =>
      rcases List.mem_cons.mp htoken with heq | htoken
      · cases heq
        exact ⟨hlongest.lexeme, [], rest, hlongest.split.symm, rfl⟩
      · obtain ⟨hlexeme, before, after, hsplit, hposition⟩ := ih htoken
        refine ⟨hlexeme, found ++ before, after, ?_, ?_⟩
        · rw [← hlongest.split, hsplit]
          simp only [List.append_assoc]
        · rw [hposition, List.length_append]
          omega

/-- Every token stands after the one before it. Lexemes are not empty, so no two of them stand at
one place. -/
theorem ascending (h : Reads position chars segments left) :
    (tokensOf segments).Pairwise (fun token later => token.position < later.position) := by
  induction h with
  | stop => exact .nil
  | blank hblank hrest ih => exact ih
  | @token position c chars found rest left lexeme segments hblank hlongest hrest ih =>
      refine .cons ?_ ih
      intro later hlater
      obtain ⟨segment, hsegment, htoken⟩ := List.mem_filterMap.mp hlater
      have hpos := hlongest.lexeme.length_pos
      cases segment with
      | blank => cases htoken
      | token found slice =>
          cases htoken
          obtain ⟨-, before, -, -, hposition⟩ := hrest.token_of_mem hsegment
          dsimp only
          omega

end Reads

/-- A text is read to its end, or to a character that is in the way. In the second case that
character is the error, whatever else the text holds. -/
theorem tokens_cases (text : String) :
    (∃ segments, Reads 0 text.toList segments [] ∧ tokens text = .ok (tokensOf segments)) ∨
      ∃ segments c rest, Reads 0 text.toList segments (c :: rest) ∧ Stuck c rest ∧
        tokens text = .error (.unexpectedCharacter c (written segments).length) := by
  obtain ⟨segments, left, hreads, hleft⟩ := Reads.exists_reads 0 text.toList
  have htokens := hreads.tokensFrom_eq
  rw [Nat.zero_add] at htokens
  rcases hleft with rfl | ⟨c, rest, rfl, hstuck⟩
  · refine Or.inl ⟨segments, hreads, ?_⟩
    rw [tokens, htokens, tokensFrom_nil]
    exact congrArg Except.ok (List.append_nil _)
  · refine Or.inr ⟨segments, c, rest, hreads, hstuck, ?_⟩
    rw [tokens, htokens, tokensFrom_of_stuck hstuck]
    rfl

theorem Reads.tokens_of_stuck {text : String} {segments : List Segment} {c : Char}
    {rest : List Char} (h : Reads 0 text.toList segments (c :: rest)) (hstuck : Stuck c rest) :
    tokens text = .error (.unexpectedCharacter c (written segments).length) := by
  rw [tokens, h.tokensFrom_eq, tokensFrom_of_stuck hstuck, Nat.zero_add]
  rfl

/-- The tokens of a text are those of its reading by longest match, and there are none if and only
if the reading comes to a place, which then is the position of the error, where no lexeme begins.
Whatever is read, blanks and tokens make up the text, tokens stand at ascending positions and
consist of what stands there, and the value of a number is that of the numeral there, rounded
once. -/
theorem tokens_by_longest_match (text : String) :
    (∀ found, tokens text = .ok found ↔
      ∃ segments, Reads 0 text.toList segments [] ∧ found = tokensOf segments) ∧
    (∀ error, tokens text = .error error ↔
      ∃ segments c rest, Reads 0 text.toList segments (c :: rest) ∧ Stuck c rest ∧
        error = .unexpectedCharacter c (written segments).length) ∧
    ∀ segments left, Reads 0 text.toList segments left →
      written segments ++ left = text.toList ∧
      (tokensOf segments).Pairwise (fun token later => token.position < later.position) ∧
      (∀ c, .blank c ∈ segments → Text.isBlank c = true) ∧
      (∀ token slice, .token token slice ∈ segments → IsLexeme token.lexeme slice ∧
        ∃ before after, text.toList = before ++ slice ++ after ∧ token.position = before.length) ∧
      ∀ value position slice, .token ⟨.number value, position⟩ slice ∈ segments →
        Binary64.ofText? slice = some value ∧
        ∃ n : Numeral, n.WellFormed ∧ n.hasDigits = true ∧ n.text = slice ∧
          Binary64.IsRounding n.decimal.value value := by
  obtain ⟨segments, left, hreads, hleft⟩ := Reads.exists_reads 0 text.toList
  have htokens := hreads.tokensFrom_eq
  rw [Nat.zero_add] at htokens
  refine ⟨fun found => ⟨fun hfound => ?_, ?_⟩, fun error => ⟨fun herror => ?_, ?_⟩, ?_⟩
  · rcases hleft with rfl | ⟨c, rest, rfl, hstuck⟩
    · rw [tokens, htokens, tokensFrom_nil] at hfound
      cases hfound
      exact ⟨segments, hreads, List.append_nil _⟩
    · rw [tokens, htokens, tokensFrom_of_stuck hstuck] at hfound
      cases hfound
  · rintro ⟨segments, hreads, rfl⟩
    rw [tokens, hreads.tokensFrom_eq, tokensFrom_nil]
    exact congrArg Except.ok (List.append_nil _)
  · rcases hleft with rfl | ⟨c, rest, rfl, hstuck⟩
    · rw [tokens, htokens, tokensFrom_nil] at herror
      cases herror
    · rw [tokens, htokens, tokensFrom_of_stuck hstuck] at herror
      cases herror
      exact ⟨segments, c, rest, hreads, hstuck, rfl⟩
  · rintro ⟨segments, c, rest, hreads, hstuck, rfl⟩
    rw [tokens, hreads.tokensFrom_eq, tokensFrom_of_stuck hstuck, Nat.zero_add]
    rfl
  · intro segments left hreads
    refine ⟨hreads.written_append, hreads.ascending, fun c => hreads.isBlank_of_mem, ?_, ?_⟩
    · intro token slice htoken
      obtain ⟨hlexeme, before, after, hsplit, hposition⟩ := hreads.token_of_mem htoken
      exact ⟨hlexeme, before, after, hsplit, by rw [hposition, Nat.zero_add]⟩
    · intro value position slice htoken
      obtain ⟨hlexeme, -⟩ := hreads.token_of_mem htoken
      dsimp only at hlexeme
      cases hlexeme with
      | @number n hn hdigits =>
          exact ⟨Binary64.ofText?_numeral hn hdigits, n, hn, hdigits, rfl,
            Binary64.ofDecimal_isRounding n.decimal⟩

/-- A mark without digits is a name, and the one before it is part of the number: longer lexemes
come first. -/
example : tokens "1.e+2e-" =
    .ok [⟨.number 100, 0⟩, ⟨.name "e", 5⟩, ⟨.operator .minus, 6⟩] := by decide +kernel

end Reckoner.Expression
