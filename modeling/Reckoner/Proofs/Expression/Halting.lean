import Reckoner.Proofs.Expression.Parsing

/-!
Where reading comes to its end. The tree of some tokens is their derivation, or the reader has
halted inside some frames: the tokens are used up, a bracket is closed that was never opened, and so
on. `Halts` lists the ways to halt and says of each, in terms of the grammar, which tokens stand
there and what the reader makes of them.
-/

namespace Reckoner.Expression

/-- Where the bracket stands that opened the frame. Other frames are not opened by one, and end
without one. -/
def Frame.opening? : Frame → Option Nat
  | .group opening | .call _ _ opening => some opening
  | .binary .. | .adjoined _ | .sign _ => none

/-- No phrase begins with the token. Where an operand is expected, such a token is what is wrong,
whatever follows it. -/
def BeginsNoPhrase (token : Token) : Prop :=
  ∀ category rest tree, ¬ Derives category (token :: rest) tree

/-- The reading of some tokens halts inside the frames, and the last argument is the tree that is
made of them. Of the tokens that may follow an expression, a number is the only one that neither
continues nor closes it. -/
inductive Halts : List Frame → List Token → Tree → Prop where
  | tooDeep {frames : List Frame} (rest : List Token) (hdeep : depthLimit < openDepth frames) :
      Halts frames rest (.fault .tooDeep)
  | ended (frames : List Frame) : Halts frames [] (.fault .unexpectedEnd)
  | unexpected (frames : List Frame) {token : Token} (rest : List Token)
      (htoken : BeginsNoPhrase token) :
      Halts frames (token :: rest) (.fault (.unexpectedToken token.lexeme token.position))
  | unclosed {bracket : Frame} (frames : List Frame) {opening : Nat} {inner rest : List Token}
      {tree : Tree} (hbracket : bracket.opening? = some opening)
      (hinner : Derives .expression inner tree)
      (hrest : ∀ next ∈ rest.head?, ∃ value, next.lexeme = .number value) :
      Halts (bracket :: frames) (inner ++ rest) (.broken tree (.unclosed opening))
  | unmatched {inner : List Token} {tree : Tree} (position : Nat) (rest : List Token)
      (hinner : Derives .expression inner tree) :
      Halts [] (inner ++ ⟨.closing, position⟩ :: rest) (.broken tree (.unmatchedClosing position))
  | unconsumed {inner : List Token} {tree : Tree} (value : Binary64) (position : Nat)
      (rest : List Token) (hinner : Derives .expression inner tree) :
      Halts [] (inner ++ ⟨.number value, position⟩ :: rest)
        (.broken tree (.unexpectedToken (.number value) position))

/-- Reading the tokens halts somewhere, at the tree: some of them have been read into frames, and
what comes then cannot be read on. -/
def HaltsIn (read : List Token) (tree : Tree) : Prop :=
  ∃ frames before rest stop, Opens none frames before ∧ Halts frames rest stop ∧
    before ++ rest = read ∧ closeAll frames stop = tree

theorem Halts.fails {frames : List Frame} {rest : List Token} {stop : Tree}
    (h : Halts frames rest stop) : stop.Fails := by
  cases h with
  | tooDeep | ended | unexpected => exact fault_fails _
  | unclosed | unmatched | unconsumed => exact broken_fails _ _

theorem loose_bracket {bracket : Frame} {opening : Nat} (h : bracket.opening? = some opening)
    (frames : List Frame) : Loose 1 (bracket :: frames) := by
  apply loose_cons
  cases bracket with
  | binary | adjoined | sign => cases h
  | group | call => exact Nat.one_pos

/-- Nothing is open where nothing has been read. The only way not to have a frame open is to stand
before the first operand. -/
theorem Opens.eq_nil {tokens : List Token} (h : Opens none [] tokens) : tokens = [] := by
  cases h
  rfl

/-- The frame that a bracket opened last is the innermost one. No token has come after the bracket
that could have opened another. -/
theorem Opens.exists_bracket {frames : List Frame} {before : List Token} {opening : Nat}
    (h : Opens none frames (before ++ [⟨.opening, opening⟩])) :
    ∃ bracket outer, frames = bracket :: outer ∧ bracket.opening? = some opening := by
  generalize htokens : before ++ [⟨.opening, opening⟩] = tokens at h
  have hlast : tokens.getLast? = some ⟨.opening, opening⟩ := by simp [← htokens]
  cases h with
  | start => cases hlast
  | group position =>
      obtain rfl : position = opening := by simpa using hlast
      exact ⟨_, _, rfl, rfl⟩
  | call function position opening' =>
      obtain rfl : opening' = opening := by simpa using hlast
      exact ⟨_, _, rfl, rfl⟩
  | sign | power | product | sum => simp at hlast

/-- The last token before an open bracket is the one that opened it. A call has its name before
that, and it is the bracket that counts. -/
theorem Opens.exists_opening {promised : Option Token} {bracket : Frame} {frames : List Frame}
    {tokens : List Token} {opening : Nat} (h : Opens promised (bracket :: frames) tokens)
    (hbracket : bracket.opening? = some opening) :
    ∃ before, tokens = before ++ [⟨.opening, opening⟩] := by
  cases h with
  | group =>
    cases hbracket
    exact ⟨_, rfl⟩
  | @call _ _ before function position =>
    cases hbracket
    exact ⟨before ++ [⟨.name function, position⟩], by simp⟩
  | sign | power | product | adjoined | sum => cases hbracket

/-- May a phrase begin with the lexeme? A sign may begin one as well as stand between two, all other
operators only follow one. -/
def Lexeme.beginsPhrase : Lexeme → Bool
  | .number _ | .name _ | .opening | .operator .plus | .operator .minus => true
  | .operator .times | .operator .divide | .operator .power | .operator .bang | .closing => false

theorem Derives.beginsPhrase {category : Category} {tokens : List Token} {tree : Tree}
    (h : Derives category tokens tree) :
    ∀ token ∈ tokens.head?, token.lexeme.beginsPhrase = true := by
  have happend {before after : List Token} (hbefore : before ≠ [])
      (hfirst : ∀ token ∈ before.head?, token.lexeme.beginsPhrase = true) :
      ∀ token ∈ (before ++ after).head?, token.lexeme.beginsPhrase = true := by
    rwa [List.head?_append_of_ne_nil before hbefore]
  induction h with
  | number | name | call | group =>
      rintro _ ⟨⟩
      rfl
  | sign negative =>
      rintro _ ⟨⟩
      cases negative <;> rfl
  | ofPrimary _ ih | ofFactorial _ ih | ofPower _ ih | ofUnary _ ih | ofTerm _ ih => exact ih
  | factorial _ hleft ih | power _ hleft _ ih _ | product _ _ hleft _ ih _ | sum _ _ hleft _ ih _
  | adjoined _ hleft _ ih _ => exact happend hleft.ne_nil ih

theorem beginsNoPhrase_iff {token : Token} :
    BeginsNoPhrase token ↔ token.lexeme.beginsPhrase = false := by
  constructor
  · intro h
    have hunary : Derives .unary [⟨.number 1, 0⟩] (.number 1) :=
      .ofPower (.ofFactorial (.ofPrimary (.number 1 0)))
    obtain ⟨lexeme, position⟩ := token
    cases lexeme with
    | number value => exact absurd (.number value position) (h .primary [] _)
    | name name => exact absurd (.name name position) (h .primary [] _)
    | opening => exact absurd (.group position 0 (.ofTerm (.ofUnary hunary))) (h .primary _ _)
    | closing => rfl
    | operator operator =>
        cases operator with
        | plus => exact absurd (.sign false position hunary) (h .unary _ _)
        | minus => exact absurd (.sign true position hunary) (h .unary _ _)
        | times | divide | power | bang => rfl
  · intro h category rest tree hderives
    have hbegins := hderives.beginsPhrase token rfl
    rw [h] at hbegins
    cases hbegins

/-- With everything closed that binds, the innermost frame is a bracket, or nothing is open. That is
how it stands where an expression ends. -/
theorem Opens.eq_nil_or_bracket {frames : List Frame} {tokens : List Token}
    (h : Opens none frames tokens) (hloose : Loose 1 frames) :
    frames = [] ∧ tokens = [] ∨
      ∃ bracket outer opening, frames = bracket :: outer ∧ bracket.opening? = some opening := by
  cases h.bracketed hloose with
  | start => exact Or.inl ⟨rfl, rfl⟩
  | group | call => exact Or.inr ⟨_, _, _, rfl, rfl⟩

namespace Progress

/-- If the reader has stopped, reading halts there whatever follows. While it goes on nothing is
said, for tokens to come may still complete a phrase. -/
def Halted (tokens : List Token) : Progress → Prop
  | operand _ | named .. | complete .. => True
  | stopped tree => ∀ rest, HaltsIn (tokens ++ rest) tree

variable {promised : Option Token} {frames : List Frame} {tokens before after : List Token}
  {tree : Tree}

theorem halted_enter {frame : Frame} (hopens : Opens none (frame :: frames) tokens) :
    (enter frame frames).Halted tokens := by
  unfold enter
  split
  · trivial
  · rename_i hdeep
    exact fun rest => ⟨_, tokens, rest, _, hopens, .tooDeep rest (Int.not_le.mp hdeep), rfl, rfl⟩

theorem halted_readOperand (hopens : Opens promised frames tokens) (token : Token)
    (hbegins : Begins promised [token])
    (hpromised : promised = none ∨ token.lexeme = .opening ∨ ∃ name, token.lexeme = .name name) :
    (readOperand frames token).Halted (tokens ++ [token]) := by
  have hunexpected (hnone : promised = none) (hlexeme : token.lexeme.beginsPhrase = false) :
      (fail frames (.unexpectedToken token.lexeme token.position)).Halted (tokens ++ [token]) := by
    subst hnone
    intro rest
    refine ⟨frames, tokens, token :: rest, _, hopens, ?_, by simp, rfl⟩
    exact .unexpected frames rest (beginsNoPhrase_iff.mpr hlexeme)
  obtain ⟨lexeme, position⟩ := token
  cases lexeme with
  | number | name => trivial
  | opening => exact halted_enter (.group position hopens hbegins)
  | closing => exact hunexpected (by simpa using hpromised) rfl
  | operator operator =>
      obtain rfl : promised = none := by simpa using hpromised
      cases operator with
      | plus => exact halted_enter (.sign false position hopens)
      | minus => exact halted_enter (.sign true position hopens)
      | times | divide | power | bang => exact hunexpected rfl rfl

theorem halted_readForeign (hopens : Opens promised frames before)
    (hafter : Derives .unary after tree) (hbegins : Begins promised after) (value : Binary64)
    (position : Nat) :
    (readForeign frames tree (.unexpectedToken (.number value) position)).Halted
      (before ++ after ++ [⟨.number value, position⟩]) := by
  obtain ⟨hloose, before', after', hopens', hexpression, htokens⟩ :=
    hopens.reduce_expression hafter hbegins
  unfold readForeign
  generalize reduce 1 frames tree = reduced at *
  obtain ⟨outer, expression⟩ := reduced
  rw [← htokens]
  obtain ⟨rfl, rfl⟩ | ⟨bracket, outer, opening, rfl, hbracket⟩ := hopens'.eq_nil_or_bracket hloose
  · exact fun rest => ⟨[], [], _, _, .start, .unconsumed value position rest hexpression, by simp,
      rfl⟩
  · have hhalts (rest : List Token) : Halts (bracket :: outer)
        (after' ++ ⟨.number value, position⟩ :: rest) (.broken expression (.unclosed opening)) := by
      apply Halts.unclosed outer hbracket hexpression
      rintro _ ⟨⟩
      exact ⟨value, rfl⟩
    cases bracket with
    | binary | adjoined | sign => cases hbracket
    | group | call =>
        cases hbracket
        exact fun rest => ⟨_, before', _, _, hopens', hhalts rest, by simp, rfl⟩

theorem halted_readClosing (hopens : Opens promised frames before)
    (hafter : Derives .unary after tree) (hbegins : Begins promised after) (position : Nat) :
    (readClosing frames tree position).Halted (before ++ after ++ [⟨.closing, position⟩]) := by
  obtain ⟨hloose, before', after', hopens', hexpression, htokens⟩ :=
    hopens.reduce_expression hafter hbegins
  unfold readClosing
  generalize reduce 1 frames tree = reduced at *
  obtain ⟨outer, expression⟩ := reduced
  rw [← htokens]
  obtain ⟨rfl, rfl⟩ | ⟨bracket, outer, opening, rfl, -⟩ := hopens'.eq_nil_or_bracket hloose
  · exact fun rest => ⟨[], [], _, _, .start, .unmatched position rest hexpression, by simp, rfl⟩
  · trivial

theorem halted_readAfter {last : Token} (hopens : Opens promised frames before)
    (hafter : Derives .factorial (after ++ [last]) tree)
    (hbegins : Begins promised (after ++ [last])) (token : Token)
    (hopening : token.lexeme = .opening → ∀ name, last.lexeme ≠ .name name) :
    (readAfter frames tree token).Halted (before ++ (after ++ [last]) ++ [token]) := by
  have hunary : Derives .unary (after ++ [last]) tree := .ofPower (.ofFactorial hafter)
  have hadjoined (hadjoins : last.adjoins token = true) :=
    halted_readOperand (hopens.adjoin hunary hbegins hadjoins) token (begins_some token)
      (Or.inr (next_of_adjoins hadjoins))
  obtain ⟨lexeme, position⟩ := token
  cases lexeme with
  | number value => exact halted_readForeign hopens hunary hbegins value position
  | closing => exact halted_readClosing hopens hunary hbegins position
  | name name =>
      apply hadjoined
      cases hlast : last.lexeme <;> simp [Token.adjoins, hlast]
  | opening =>
      apply hadjoined
      cases hlast : last.lexeme with
      | name name => exact absurd hlast (hopening rfl name)
      | number | operator | opening | closing => simp [Token.adjoins, hlast]
  | operator operator =>
      cases operator with
      | plus | minus | times | divide | bang => trivial
      | power => exact halted_enter (.power position hopens hbegins hafter)

theorem halted_read {state : Progress} (hexplains : Explains tokens state)
    (h : state.Halted tokens) (token : Token) : (state.read token).Halted (tokens ++ [token]) := by
  cases hexplains with
  | operand hopens => exact halted_readOperand hopens token (begins_none _) (Or.inl rfl)
  | @named promised frames before name position hopens hbegins =>
      by_cases hopening : token.lexeme = .opening
      · obtain ⟨lexeme, opening⟩ := token
        cases hopening
        rw [List.append_assoc]
        exact halted_enter (.call name position opening hopens hbegins)
      · rw [(Holds.named frames name position).read token fun heq => absurd heq hopening]
        have hname : Derives .factorial ([] ++ [⟨.name name, position⟩]) (.name name position) :=
          .ofPrimary (.name name position)
        exact halted_readAfter hopens hname hbegins token fun heq => absurd heq hopening
  | complete after last hopens hafter hbegins hlast =>
      exact halted_readAfter hopens hafter hbegins token fun _ => hlast
  | stopped =>
      intro rest
      rw [List.append_assoc]
      exact h (token :: rest)

theorem halted_foldl {state : Progress} (hexplains : Explains before state)
    (h : state.Halted before) (after : List Token) :
    (after.foldl Progress.read state).Halted (before ++ after) := by
  induction after generalizing before state with
  | nil => simpa using h
  | cons token rest ih =>
      have hnext := ih (hexplains.read token) (halted_read hexplains h token)
      rwa [List.append_assoc, List.singleton_append] at hnext

theorem derives_or_haltsIn_finishValue (hopens : Opens promised frames before)
    (hafter : Derives .unary after tree) (hbegins : Begins promised after) :
    Derives .expression (before ++ after) (finishValue frames tree) ∨
      HaltsIn (before ++ after) (finishValue frames tree) := by
  obtain ⟨hloose, before', after', hopens', hexpression, htokens⟩ :=
    hopens.reduce_expression hafter hbegins
  unfold finishValue
  generalize reduce 1 frames tree = reduced at *
  obtain ⟨outer, expression⟩ := reduced
  rw [← htokens]
  obtain ⟨rfl, rfl⟩ | ⟨bracket, outer, opening, rfl, hbracket⟩ := hopens'.eq_nil_or_bracket hloose
  · exact Or.inl hexpression
  · have hhalts : Halts (bracket :: outer) (after' ++ [])
        (.broken expression (.unclosed opening)) := by
      apply Halts.unclosed outer hbracket hexpression
      rintro _ ⟨⟩
    cases bracket with
    | binary | adjoined | sign => cases hbracket
    | group | call =>
        cases hbracket
        exact Or.inr ⟨_, before', _, _, hopens', hhalts, by simp, rfl⟩

end Progress

open Progress in
/-- The tree of some tokens is their derivation, or reading them halts. The two exclude each other,
since a tree at which reading halts has no value. -/
theorem derives_or_haltsIn_ofTokens {read : List Token} (hread : read ≠ []) :
    Derives .expression read (Tree.ofTokens read) ∨ HaltsIn read (Tree.ofTokens read) := by
  have hexplains := explains_foldl read
  have hhalted : (read.foldl Progress.read (.operand [])).Halted read :=
    halted_foldl (.operand .start) trivial read
  rw [ofTokens_of_ne_nil hread]
  generalize read.foldl Progress.read (.operand []) = state at *
  cases hexplains with
  | operand hopens =>
      exact Or.inr ⟨_, _, [], _, hopens, .ended _, List.append_nil _, rfl⟩
  | named name position hopens hbegins =>
      exact derives_or_haltsIn_finishValue hopens
        (.ofPower (.ofFactorial (.ofPrimary (.name name position)))) hbegins
  | complete after last hopens hafter hbegins =>
      exact derives_or_haltsIn_finishValue hopens (.ofPower (.ofFactorial hafter)) hbegins
  | stopped =>
      have hend := hhalted []
      rw [List.append_nil] at hend
      exact Or.inr hend

end Reckoner.Expression
