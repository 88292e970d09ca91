import Reckoner.Proofs.Expression.Interchange
import Reckoner.Proofs.Expression.Rewriting

/-!
Blank characters between tokens. A reading that has come to a place comes there too if the text ends
in that place or goes on after blanks, and what follows blanks is read as it was without them. A
word before an opening bracket is the end of a name, and a name that the scope does not have is a
call without a value there, with or without blanks before the bracket.
-/

namespace Reckoner.Expression

theorem Longest.alone {lexeme : Lexeme} {slice rest chars more : List Char}
    (h : Longest lexeme slice (rest ++ more) (chars ++ more)) :
    Longest lexeme slice rest chars := by
  refine ⟨?_, h.lexeme, ?_⟩
  · have hsplit := h.split
    rw [← List.append_assoc] at hsplit
    exact List.append_cancel_right hsplit
  · intro other slice' hother hbegins
    exact h.longest other slice' hother (hbegins.trans (List.prefix_append chars more))

/-- A name that is a longest lexeme is followed by no character of a name. If it were, the longer
name would have been taken. -/
theorem Longest.eq_nil_of_name {name : String} {slice rest chars : List Char}
    (h : Longest (.name name) slice rest chars) (hrest : ∀ c ∈ rest, Text.isWordChar c = true) :
    rest = [] := by
  obtain ⟨rfl, hlexeme, hlongest⟩ := h
  cases hlexeme with
  | @name first others hfirst hothers =>
      have hall : ∀ c ∈ others ++ rest, Text.isWordChar c = true :=
        List.forall_mem_append.mpr ⟨hothers, hrest⟩
      have hlength := hlongest _ _ (.name hfirst hall) List.prefix_rfl
      simp only [List.length_cons, List.length_append] at hlength
      exact List.length_eq_zero_iff.mp (by omega)

/-- Only a name has characters that belong to words and not to numerals. Such a character is enough
to know the lexeme it stands in. -/
theorem IsLexeme.eq_name {lexeme : Lexeme} {slice : List Char} (h : IsLexeme lexeme slice)
    {c : Char} (hc : c ∈ slice) (hword : Text.isWordChar c = true)
    (hnumeral : ¬ Numeral.Character c) : lexeme = .name (String.ofList slice) := by
  cases h with
  | number hn hdigits => exact absurd (Numeral.character_of_mem_text hn hc) hnumeral
  | name => rfl
  | operator operator =>
      obtain rfl := List.mem_singleton.mp hc
      have hsymbol := (symbolChars_facts (mem_symbolChars (ofChar?_char operator))).2.1
      rw [hsymbol] at hword
      cases hword
  | opening | closing =>
      obtain rfl := List.mem_singleton.mp hc
      exact absurd hword (by decide)

namespace Reads

variable {position : Nat} {chars left : List Char} {segments : List Segment}

/-- What is read is read in the same way if the text ends behind it. A lexeme that was longest
before more text is longest alone. -/
theorem alone (h : Reads position chars segments left) :
    Reads position (written segments) segments [] := by
  induction h with
  | stop => exact .stop _ []
  | blank hblank _ ih => exact .blank hblank ih
  | @token position c chars slice rest left lexeme segments hblank hlongest hrest ih =>
      obtain ⟨d, others, rfl⟩ := List.exists_cons_of_length_pos hlongest.lexeme.length_pos
      obtain ⟨rfl, rfl⟩ := List.cons.inj hlongest.split
      have hwhole : Longest lexeme (d :: others) (written segments ++ left)
          (d :: (others ++ written segments) ++ left) := by
        rw [List.cons_append, List.append_assoc, hrest.written_append]
        exact hlongest
      exact .token hblank hwhole.alone ih

/-- A reading may be broken off between two segments. What is left then begins with the characters
of those that are not read. -/
theorem front {more : List Segment} (h : Reads position chars (segments ++ more) left) :
    Reads position chars segments (written more ++ left) := by
  induction segments generalizing position chars with
  | nil =>
      rw [List.nil_append] at h
      rw [h.written_append]
      exact .stop position chars
  | cons segment segments ih =>
      cases h with
      | blank hblank hrest => exact .blank hblank (ih hrest)
      | token hblank hlongest hrest => exact .token hblank hlongest (ih hrest)

theorem scanned {c : Char} {found : Scanned} (hblank : Text.isBlank c = false)
    (h : Scanned.ofChars? c chars = some found)
    (hrest : Reads (position + found.taken.length) found.rest segments left) :
    Reads position (c :: chars) (.token ⟨found.lexeme, position⟩ found.taken :: segments) left :=
  .token hblank (ofChars?_eq_some_iff.mp h) hrest

/-- A text that ends in a word ends in a name, if the word cannot belong to a numeral. The name may
begin before the word, with letters that stand there. The induction is on the reading, and the last
token is found where the segments end. -/
theorem exists_last_name {before word : List Char} (h : Reads position (before ++ word) segments [])
    (hne : word ≠ []) (hword : ∀ c ∈ word, Text.isWordChar c = true)
    (hnumeral : ∀ c ∈ word.head?, ¬ Numeral.Character c) :
    ∃ earlier part start, before = written earlier ++ part ∧ segments = earlier ++
      [.token ⟨.name (String.ofList (part ++ word)), start⟩ (part ++ word)] := by
  generalize hchars : before ++ word = chars at h
  generalize hleft : ([] : List Char) = left at h
  induction h generalizing before with
  | stop =>
      rw [← hleft] at hchars
      exact absurd (List.append_eq_nil_iff.mp hchars).2 hne
  | @blank position c rest left segments hblank hrest ih =>
      cases before with
      | nil =>
          have hc := hword c (by rw [List.nil_append] at hchars; simp [hchars])
          rw [Text.isWordChar_of_isBlank hblank] at hc
          cases hc
      | cons d before =>
          obtain ⟨rfl, hrest⟩ := List.cons.inj hchars
          obtain ⟨earlier, part, start, rfl, rfl⟩ := ih hrest hleft
          exact ⟨.blank d :: earlier, part, start, rfl, rfl⟩
  | @token position c chars slice rest left lexeme segments hblank hlongest hrest ih =>
      rw [← hlongest.split] at hchars
      have hlater {between : List Char} (hbefore : before = slice ++ between)
          (hrest : rest = between ++ word) :
          ∃ earlier part start, before = written earlier ++ part ∧
            .token ⟨lexeme, position⟩ slice :: segments = earlier ++
              [.token ⟨.name (String.ofList (part ++ word)), start⟩ (part ++ word)] := by
        obtain ⟨earlier, part, start, rfl, rfl⟩ := ih hrest.symm hleft
        refine ⟨.token ⟨lexeme, position⟩ slice :: earlier, part, start, ?_, rfl⟩
        rw [hbefore]
        exact (List.append_assoc slice (written earlier) part).symm
      rcases List.append_eq_append_iff.mp hchars with ⟨inside, hslice, hbehind⟩ |
        ⟨between, hbefore, hbehind⟩
      · cases inside with
        | nil =>
            rw [List.append_nil] at hslice
            rw [List.nil_append] at hbehind
            exact hlater (by rw [hslice, List.append_nil]) (by rw [hbehind, List.nil_append])
        | cons d inside =>
            -- The token begins before the word ends, so it is a name and takes all of the word.
            have hd : d ∈ slice := by simp [hslice]
            have hname := hlongest.lexeme.eq_name hd (hword d (by simp [hbehind]))
              (hnumeral d (by rw [hbehind]; rfl))
            subst hname
            have hgoesOn : ∀ c ∈ rest, Text.isWordChar c = true :=
              fun c hc => hword c (by simp [hbehind, hc])
            obtain rfl := hlongest.eq_nil_of_name hgoesOn
            rw [List.append_nil] at hbehind
            cases hrest
            refine ⟨[], before, position, rfl, ?_⟩
            rw [hbehind, ← hslice]
            rfl
      · exact hlater hbefore hbehind

/-- A text yields what its rest does after the tokens that are read. So two texts can be compared
from where they differ. -/
theorem yields_iff (h : Reads position chars segments left) (scope : Scope) (state : Progress)
    (value : Binary64) :
    state.Yields scope position chars value ↔
      ((tokensOf segments).foldl Progress.read state).Yields scope
        (position + (written segments).length) left value := by
  unfold Progress.Yields
  rw [h.tokensFrom_eq]
  cases tokensFrom (position + (written segments).length) left with
  | error | ok => simp [Except.map]

end Reads

variable {scope : Scope} {state : Progress} {value : Binary64} {blanks : List Char}

theorem reads_blanks (hblanks : ∀ c ∈ blanks, Text.isBlank c = true) (position : Nat)
    (rest : List Char) : Reads position (blanks ++ rest) (blanks.map .blank) rest := by
  induction blanks generalizing position with
  | nil => exact .stop position rest
  | cons c blanks ih =>
      obtain ⟨hc, hblanks⟩ := List.forall_mem_cons.mp hblanks
      exact .blank hc (ih hblanks (position + 1))

theorem yields_blanks_iff (hblanks : ∀ c ∈ blanks, Text.isBlank c = true) (position position' : Nat)
    (rest : List Char) :
    state.Yields scope position (blanks ++ rest) value ↔
      state.Yields scope position' rest value := by
  have htokens : tokensOf (blanks.map .blank) = [] := by
    simp [tokensOf, List.filterMap_map, Function.comp_def, Segment.token?]
  rw [(reads_blanks hblanks position rest).yields_iff, htokens]
  exact (Progress.Alike.refl state).yields_iff _ position' rest

/-- Blanks at a place that the reading comes to make no difference. It comes to the end of every
lexeme, and to no place within one. -/
theorem Reads.yields_spaced_iff {front rest : List Char} {segments : List Segment}
    (h : Reads 0 (front ++ rest) segments rest) (hblanks : ∀ c ∈ blanks, Text.isBlank c = true) :
    state.Yields scope 0 (front ++ rest) value ↔
      state.Yields scope 0 (front ++ (blanks ++ rest)) value := by
  cases hcases : blanks with
  | nil => rfl
  | cons c others =>
      have hwritten : written segments = front := List.append_cancel_right h.written_append
      have hseparates : ∀ d ∈ (blanks ++ rest).head?, Separates d := by
        rw [hcases]
        rintro _ ⟨⟩
        exact separates_of_isBlank (hblanks c (by simp [hcases]))
      have hspaced := h.alone.append hseparates
      rw [hwritten, List.nil_append] at hspaced
      rw [← hcases, h.yields_iff, hspaced.yields_iff, yields_blanks_iff hblanks]

/-- Reading a name leaves the reader at that name, unless it had stopped. It has to wait for the
token after the name. -/
theorem Progress.read_name_cases (state : Progress) (name : String) (position : Nat) :
    (∃ frames, state.read ⟨.name name, position⟩ = .named frames name position) ∨
      ∃ tree, state = .stopped tree := by
  cases state with
  | operand | named | complete => exact Or.inl ⟨_, rfl⟩
  | stopped tree => exact Or.inr ⟨tree, rfl⟩

/-- An expression with a call of a name that the scope does not have has no value. Nothing that
follows the bracket can change that. -/
theorem blocked_unknown_call {name : String} (hname : scope.find? name = none)
    (before : List Token) (position opening : Nat) :
    (((before.foldl Progress.read (.operand [])).read ⟨.name name, position⟩).read
      ⟨.opening, opening⟩).Blocked scope := by
  have hexplains := explains_foldl before
  generalize before.foldl Progress.read (.operand []) = state at *
  rcases state.read_name_cases name position with ⟨frames, hnamed⟩ | ⟨tree, rfl⟩
  · rw [hnamed]
    refine Progress.blocked_enter ⟨_, List.mem_cons_self, ?_⟩
    intro argument value hvalue
    cases hvalue with
    | call _ hfound =>
        rw [hname] at hfound
        cases hfound
  · cases hexplains with
    | stopped hfails => exact .stopped (hfails scope)

theorem Progress.Blocked.not_yields {state : Progress} (h : state.Blocked scope) (position : Nat)
    (chars : List Char) : ¬ state.Yields scope position chars value := by
  rintro ⟨read, -, hvalue⟩
  exact (h.foldl read).finish value hvalue

/-- A text has no value if a bracket is opened after a name that the scope does not have. Blanks
between the two do not make it another thing than a call. Unless the text before the bracket has an
error already, its last token is that name. -/
theorem not_yields_unknown_call {front : List Char}
    (hends : ∀ segments, Reads 0 front segments [] → ∃ before name start slice,
      segments = before ++ [.token ⟨.name name, start⟩ slice] ∧ scope.find? name = none)
    (hblanks : ∀ c ∈ blanks, Text.isBlank c = true) (rest : List Char) :
    ¬ (Progress.operand []).Yields scope 0 (front ++ (blanks ++ '(' :: rest)) value := by
  have hseparates : ∀ d ∈ (blanks ++ '(' :: rest).head?, Separates d := by
    cases blanks with
    | nil =>
        rintro _ ⟨⟩
        exact separates_bracket.1
    | cons c others =>
        rintro _ ⟨⟩
        exact separates_of_isBlank (hblanks c List.mem_cons_self)
  cases hfront : tokensFrom 0 front with
  | error cause =>
      rintro ⟨read, hread, -⟩
      rw [tokensFrom_append_error hfront hseparates] at hread
      cases hread
  | ok read =>
      obtain ⟨segments, left, hreads, hleft⟩ := Reads.exists_reads 0 front
      rcases hleft with rfl | ⟨c, others, rfl, hstuck⟩
      · obtain ⟨before, name, start, slice, rfl, hname⟩ := hends segments hreads
        have htokens : tokensOf (before ++ [.token ⟨.name name, start⟩ slice]) =
            tokensOf before ++ [⟨.name name, start⟩] := by
          simp [tokensOf, Segment.token?]
        have hwhole := hreads.append hseparates
        rw [List.nil_append] at hwhole
        rw [hwhole.yields_iff, yields_blanks_iff hblanks _ 0, Progress.yields_symbol_iff rfl,
          htokens, List.foldl_append]
        exact (blocked_unknown_call hname (tokensOf before) start 0).not_yields _ _
      · rw [hreads.tokensFrom_eq, tokensFrom_of_stuck hstuck] at hfront
        cases hfront

end Reckoner.Expression
