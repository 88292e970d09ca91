import Reckoner.Proofs.Expression.Alike
import Reckoner.Proofs.Expression.Literal

/-!
An operand that is read on. `Progress.Yields` says what becomes of a text that is read from a given
state; it follows the text one lexeme at a time and does not change between alike states. With it,
a bracket around a single operand can be added or dropped before any symbol, and a bracket around an
operand with a sign before every operator that binds less tightly than the sign.
-/

namespace Reckoner.Expression

/-- The places in a text do not matter for its lexemes. They are counted from wherever the text is
said to begin. -/
theorem exists_tokensFrom {position : Nat} {chars : List Char} {tokens : List Token}
    (h : tokensFrom position chars = .ok tokens) (position' : Nat) :
    ∃ others, tokensFrom position' chars = .ok others ∧
      List.Forall₂ (fun other token => other.lexeme = token.lexeme) others tokens := by
  fun_induction tokensFrom position chars generalizing tokens position' with
  | case1 position =>
      cases h
      exact ⟨[], tokensFrom_nil position', .nil⟩
  | case2 position c rest hblank ih =>
      obtain ⟨others, hothers, hlexemes⟩ := ih h (position' + 1)
      exact ⟨others, by rw [tokensFrom, if_pos hblank, hothers], hlexemes⟩
  | case3 => cases h
  | case4 position c rest hblank scanned hscanned ih =>
      obtain ⟨after, hafter, hrest⟩ := bind_eq_ok_iff.mp h
      cases hrest
      obtain ⟨others, hothers, hlexemes⟩ := ih hafter (position' + scanned.taken.length)
      refine ⟨⟨scanned.lexeme, position'⟩ :: others, ?_, .cons rfl hlexemes⟩
      rw [tokensFrom_cons (Bool.not_eq_true _ ▸ hblank) hscanned, hothers]
      rfl

namespace Progress

/-- The characters, read on from the state, form a tree of the value. So a text is read in parts,
and what came before is in the state. -/
def Yields (state : Progress) (scope : Scope) (position : Nat) (chars : List Char)
    (value : Binary64) : Prop :=
  ∃ tokens, tokensFrom position chars = .ok tokens ∧
    (tokens.foldl Progress.read state).finish.Evaluates scope value

variable {state state' : Progress} {scope : Scope} {value : Binary64}

/-- The first lexeme is read, and then the rest, which begins at a later place. Where the text has
no first lexeme there is nothing to go on with. -/
theorem yields_cons_iff {c : Char} {rest : List Char} {scanned : Scanned}
    (hblank : Text.isBlank c = false) (h : Scanned.ofChars? c rest = some scanned)
    (position : Nat) :
    state.Yields scope position (c :: rest) value ↔
      (state.read ⟨scanned.lexeme, position⟩).Yields scope (position + scanned.taken.length)
        scanned.rest value := by
  unfold Yields
  rw [tokensFrom_cons hblank h]
  cases tokensFrom (position + scanned.taken.length) scanned.rest with
  | error cause =>
      constructor
      · rintro ⟨tokens, htokens, -⟩
        cases htokens
      · rintro ⟨tokens, htokens, -⟩
        cases htokens
  | ok after =>
      constructor
      · rintro ⟨tokens, htokens, hvalue⟩
        cases htokens
        exact ⟨after, rfl, hvalue⟩
      · rintro ⟨tokens, htokens, hvalue⟩
        cases htokens
        exact ⟨_, rfl, hvalue⟩

theorem yields_symbol_iff {c : Char} {lexeme : Lexeme} (h : Lexeme.ofChar? c = some lexeme)
    (rest : List Char) (position : Nat) :
    state.Yields scope position (c :: rest) value ↔
      (state.read ⟨lexeme, position⟩).Yields scope (position + 1) rest value := by
  obtain ⟨-, -, -, hblank⟩ := symbolChars_facts (mem_symbolChars h)
  exact yields_cons_iff hblank (ofChars?_symbol h rest) position

/-- Alike states make the same of a text, wherever it stands. Only the places of its tokens differ,
and no value depends on those. -/
theorem Alike.yields_iff (h : state.Alike scope state') (position position' : Nat)
    (chars : List Char) :
    state.Yields scope position chars value ↔ state'.Yields scope position' chars value := by
  constructor
  · rintro ⟨tokens, htokens, hvalue⟩
    obtain ⟨others, hothers, hlexemes⟩ := exists_tokensFrom htokens position'
    have hflipped := hlexemes.flip.imp fun _ _ => Eq.symm
    exact ⟨others, hothers, ((h.foldl hflipped).finish value).mp hvalue⟩
  · rintro ⟨tokens, htokens, hvalue⟩
    obtain ⟨others, hothers, hlexemes⟩ := exists_tokensFrom htokens position
    exact ⟨others, hothers, ((h.foldl hlexemes).finish value).mpr hvalue⟩

theorem enter_of_le {frame : Frame} {frames : List Frame}
    (h : openDepth (frame :: frames) ≤ depthLimit) :
    enter frame frames = .operand (frame :: frames) := by
  simp only [enter, h, if_true]

theorem read_opening {frames : List Frame} (position : Nat)
    (h : openDepth (.group position :: frames) ≤ depthLimit) :
    Progress.read (.operand frames) ⟨.opening, position⟩ =
      .operand (.group position :: frames) :=
  enter_of_le h

theorem read_minus {frames : List Frame} (position : Nat)
    (h : openDepth (.sign true :: frames) ≤ depthLimit) :
    Progress.read (.operand frames) ⟨.operator .minus, position⟩ =
      .operand (.sign true :: frames) :=
  enter_of_le h

end Progress

theorem ofTokens_evaluates_iff {scope : Scope} {tokens : List Token} {value : Binary64} :
    (Tree.ofTokens tokens).Evaluates scope value ↔
      (tokens.foldl Progress.read (.operand [])).finish.Evaluates scope value := by
  cases tokens with
  | nil => exact (fault_fails _).alike (fault_fails _) value
  | cons token rest => exact Iff.rfl

/-- An expression is evaluated to what its text yields from the beginning on, if that is finite.
Blanks at its beginning are read like others. -/
theorem evaluate_eq_ok_iff_yields {scope : Scope} {text : String} {value : Binary64} :
    evaluate scope text = .ok value ↔
      (Progress.operand []).Yields scope 0 text.toList value ∧ value.isFinite = true := by
  rw [evaluate_eq_ok_iff]
  constructor
  · rintro ⟨read, hread, hvalue, hfinite⟩
    exact ⟨⟨read, hread, ofTokens_evaluates_iff.mp hvalue⟩, hfinite⟩
  · rintro ⟨⟨read, hread, hvalue⟩, hfinite⟩
    exact ⟨read, hread, ofTokens_evaluates_iff.mpr hvalue, hfinite⟩

theorem ofChar?_char (operator : Operator) :
    Lexeme.ofChar? operator.char = some (.operator operator) := by
  cases operator <;> rfl

/-- The characters are a numeral or a name, whatever symbol comes next. They can stand before any
operator or bracket without being read together with it. -/
structure Operand (first : Char) (others : List Char) (lexeme : Lexeme) : Prop where
  plain : ∀ c ∈ first :: others, Plain c
  blank : Text.isBlank first = false
  scanned : ∀ symbol ∈ symbolChars, ∀ rest,
    Scanned.ofChars? first (others ++ symbol :: rest) =
      some ⟨lexeme, first :: others, symbol :: rest⟩
  kind : (∃ value, lexeme = .number value) ∨ ∃ name, lexeme = .name name

theorem exists_operand_numeral {n : Numeral} (h : n.WellFormed) (hne : n.whole ≠ []) :
    ∃ first others, n.text = first :: others ∧ Operand first others (.number n.value) := by
  obtain ⟨first, others, htext, hdigit, hscanned⟩ := ofChars?_numeral h hne
  refine ⟨first, others, htext, ?_, isBlank_of_isDigit hdigit, ?_, .inl ⟨_, rfl⟩⟩
  · rw [← htext]
    exact fun c hc => plain_of_character (n.character_of_mem_text h hc)
  · intro symbol hsymbol rest
    rw [hscanned _ (ends_of_symbol hsymbol rest), htext]

theorem operand_name {first : Char} {others : List Char}
    (hplain : ∀ c ∈ first :: others, Plain c) (hblank : Text.isBlank first = false)
    (hdigit : isDigit first = false ∧ first ≠ '.') (hfirst : startsName first = true)
    (hothers : others.all Text.isWordChar = true) :
    Operand first others (.name (String.ofList (first :: others))) := by
  refine ⟨hplain, hblank, ?_, .inr ⟨_, rfl⟩⟩
  intro symbol hsymbol rest
  obtain ⟨-, hword, -, -⟩ := symbolChars_facts hsymbol
  have hspan := span_append (symbol :: rest) (List.all_eq_true.mp hothers)
    (by rintro _ ⟨⟩; exact hword)
  have hnumeral : startsNumeral first (others ++ symbol :: rest) = false := by
    simp [startsNumeral, hdigit]
  simp [Scanned.ofChars?, hnumeral, hfirst, hspan.1, hspan.2]

namespace Operand

open Progress

variable {first : Char} {others : List Char} {lexeme : Lexeme} {scope : Scope} {value : Binary64}

/-- An operand does not begin with a sign. It is a numeral or a name, and these begin with a digit,
a point or a letter. -/
theorem first_ne_minus (h : Operand first others lexeme) : first ≠ '-' := by
  rintro rfl
  have hscanned := h.scanned ')' (by decide) []
  rw [ofChars?_symbol rfl] at hscanned
  obtain rfl : Lexeme.operator .minus = lexeme := congrArg Scanned.lexeme (Option.some.inj hscanned)
  rcases h.kind with ⟨value, hkind⟩ | ⟨name, hkind⟩ <;> cases hkind

/-- The operand is read whole, and then the symbol. Reading a text that begins with one can thus be
followed lexeme by lexeme. -/
theorem yields_iff (h : Operand first others lexeme) {symbol : Char}
    (hsymbol : symbol ∈ symbolChars) {state : Progress} (position : Nat) (rest : List Char) :
    state.Yields scope position (first :: (others ++ symbol :: rest)) value ↔
      (state.read ⟨lexeme, position⟩).Yields scope (position + (first :: others).length)
        (symbol :: rest) value :=
  yields_cons_iff h.blank (h.scanned symbol hsymbol rest) position

/-- The operand becomes a leaf, and leaves at two places are alike. A name is not evaluated until
the token after it has shown that it is no call. -/
theorem exists_holds (h : Operand first others lexeme) (scope : Scope)
    (frames frames' : List Frame) (position position' : Nat) :
    ∃ leaf leaf' : Tree, leaf.Alike scope leaf' ∧
      (Progress.read (.operand frames) ⟨lexeme, position⟩).Holds frames leaf ∧
      (Progress.read (.operand frames') ⟨lexeme, position'⟩).Holds frames' leaf' := by
  rcases h.kind with ⟨value, rfl⟩ | ⟨name, rfl⟩
  · exact ⟨.number value, .number value, .refl _, .complete _ _, .complete _ _⟩
  · exact ⟨.name name position, .name name position', Tree.alike_name _ _ _, .named _ _ _,
      .named _ _ _⟩

/-- Before an operator, an operand may as well stand in brackets. There has to be room for one more
bracket under the depth limit. -/
theorem yields_bracketed_iff (h : Operand first others lexeme) {frames : List Frame}
    {position : Nat} (hopen : openDepth (.group position :: frames) ≤ depthLimit)
    (operator : Operator) (rest : List Char) :
    (Progress.operand frames).Yields scope position
        (first :: (others ++ operator.char :: rest)) value ↔
      (Progress.operand frames).Yields scope position
        ('(' :: first :: (others ++ ')' :: operator.char :: rest)) value := by
  have hsymbol := ofChar?_char operator
  obtain ⟨leaf, leaf', hleaf, hholds, hholds'⟩ :=
    h.exists_holds scope frames (.group position :: frames) position (position + 1)
  have hclosed := (hholds'.pending 1).read_closing rfl (position + 1 + (first :: others).length)
  rw [h.yields_iff (mem_symbolChars hsymbol), yields_symbol_iff hsymbol, hholds.read _ (by simp)]
  rw [yields_symbol_iff rfl, read_opening position hopen, h.yields_iff (by decide),
    yields_symbol_iff rfl, hclosed, yields_symbol_iff hsymbol]
  apply Alike.yields_iff
  exact alike_readAfter frames (hleaf.trans (Tree.alike_group leaf')) rfl

/-- Before an operator that binds less tightly than a sign, an operand with its sign may as well
stand in brackets. -/
theorem yields_minus_bracketed_iff (h : Operand first others lexeme) {operator : Binary}
    (hoperator : operator ≠ .power) (rest : List Char) :
    (Progress.operand []).Yields scope 0
        ('-' :: first :: (others ++ operator.symbol.char :: rest)) value ↔
      (Progress.operand []).Yields scope 0
        ('(' :: '-' :: first :: (others ++ ')' :: operator.symbol.char :: rest)) value := by
  have hsymbol := ofChar?_char operator.symbol
  have hrank : operator.rank ≤ 3 := by
    cases operator with
    | power => exact absurd rfl hoperator
    | add | subtract | multiply | divide => decide
  obtain ⟨leaf, leaf', hleaf, hholds, hholds'⟩ :=
    h.exists_holds scope [.sign true] [.sign true, .group 0] 1 2
  -- On the left the operator closes the sign, on the right the bracket does.
  have hpending : Pending 3 [] (.negate leaf) _ := (hholds.pending 3).close (Nat.le_refl 3)
  have hpending' : Pending 3 [.group 0] (.negate leaf') _ :=
    (hholds'.pending 3).close (Nat.le_refl 3)
  have hread := (hpending.mono hrank).read_binary hoperator (loose_nil _)
    (1 + (first :: others).length)
  have hclosed := (hpending'.mono (by decide)).read_closing rfl (2 + (first :: others).length)
  have hread' := ((Holds.complete [] (.group (.negate leaf'))).pending operator.rank).read_binary
    hoperator (loose_nil _) (2 + (first :: others).length + 1)
  rw [yields_symbol_iff rfl, read_minus 0 (by decide), h.yields_iff (mem_symbolChars hsymbol),
    yields_symbol_iff hsymbol, hread]
  rw [yields_symbol_iff rfl, read_opening 0 (by decide), yields_symbol_iff rfl,
    read_minus 1 (by decide), h.yields_iff (by decide), yields_symbol_iff rfl, hclosed,
    yields_symbol_iff hsymbol, Frame.close, hread']
  have hnegate := hleaf.negate.trans (Tree.alike_group _)
  apply Alike.yields_iff
  exact ⟨.operand (.cons (.binary operator _ _ hnegate) .nil),
    .operand (.cons (.binary operator _ _ hnegate.symm) .nil)⟩

/-- After a sign, the base of a power may as well stand in brackets: the sign is that of the power
in any case. -/
theorem yields_minus_power_iff (h : Operand first others lexeme) (rest : List Char) :
    (Progress.operand []).Yields scope 0 ('-' :: first :: (others ++ '^' :: rest)) value ↔
      (Progress.operand []).Yields scope 0
        ('-' :: '(' :: first :: (others ++ ')' :: '^' :: rest)) value := by
  have hminus : Lexeme.ofChar? '-' = some (.operator .minus) := rfl
  rw [yields_symbol_iff hminus, yields_symbol_iff hminus, read_minus 0 (by decide)]
  exact h.yields_bracketed_iff (by decide) .power rest

end Operand

end Reckoner.Expression
