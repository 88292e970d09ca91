import Reckoner.Proofs.Expression.Reading

/-!
Every state of the reader is explained by the grammar: the open frames together with the operand
just read spell the tokens read so far, each part as a phrase of its level, or the reader has
stopped at a tree that has no value in any scope. With the reading of phrases this gives the
correctness of parsing: a value is returned exactly for derivable token lists, and the derivation is
unique.
-/

namespace Reckoner.Expression

/-- The tree has no value in any scope. It is stated of all of them, as a fault in the tree is
independent of the names. -/
def Tree.Fails (tree : Tree) : Prop := ∀ scope value, ¬ tree.Evaluates scope value

theorem fault_fails (cause : Error) : (Tree.fault cause).Fails := by
  intro scope value h
  cases h

theorem broken_fails (read : Tree) (cause : Error) : (Tree.broken read cause).Fails := by
  intro scope value h
  cases h

/-- A frame needs the value of its last part. So a tree without a value leaves the whole without
one, whatever is open around it. The rules of evaluation have no premise that could be met without
it. -/
theorem Tree.Fails.close {tree : Tree} (h : tree.Fails) (frame : Frame) :
    (frame.close tree).Fails := by
  intro scope value hvalue
  cases frame with
  | binary operator position left => cases hvalue <;> exact h scope _ ‹_›
  | adjoined left =>
      cases hvalue with
      | adjoined _ hright => exact h scope _ hright
  | sign negative =>
      cases negative with
      | true =>
          cases hvalue with
          | negate hoperand => exact h scope _ hoperand
      | false =>
          cases hvalue with
          | plus hoperand => exact h scope _ hoperand
  | group position =>
      cases hvalue with
      | group hinner => exact h scope _ hinner
  | call function position opening =>
      cases hvalue with
      | call _ _ hargument => exact h scope _ hargument

theorem Tree.Fails.closeAll {tree : Tree} (h : tree.Fails) (frames : List Frame) :
    (closeAll frames tree).Fails := by
  induction frames generalizing tree with
  | nil => exact h
  | cons frame rest ih => exact ih (h.close frame)

/-- What is still to come must begin with the token, if one is promised. A factor without an
operator is opened by the token that it begins with. -/
def Begins (promised : Option Token) (tokens : List Token) : Prop :=
  ∀ token ∈ promised, tokens.head? = some token

theorem begins_none (tokens : List Token) : Begins none tokens := by
  intro token member
  cases member

theorem Begins.append {promised : Option Token} {before : List Token}
    (h : Begins promised before) (hbefore : before ≠ []) (after : List Token) :
    Begins promised (before ++ after) := by
  intro token member
  cases before with
  | nil => exact absurd rfl hbefore
  | cons first rest => exact h token member

/-- The frames are open after the tokens: each one was opened by the end of them, and its left side
is a phrase. A factor without an operator is promised by its first token. -/
inductive Opens : Option Token → List Frame → List Token → Prop where
  | start : Opens none [] []
  | group {promised : Option Token} {frames : List Frame} {tokens : List Token} (position : Nat)
      (houter : Opens promised frames tokens)
      (hbegins : Begins promised [⟨.opening, position⟩]) :
      Opens none (.group position :: frames) (tokens ++ [⟨.opening, position⟩])
  | call {promised : Option Token} {frames : List Frame} {tokens : List Token}
      (function : String) (position opening : Nat) (houter : Opens promised frames tokens)
      (hbegins : Begins promised [⟨.name function, position⟩]) :
      Opens none (.call function position opening :: frames)
        (tokens ++ [⟨.name function, position⟩, ⟨.opening, opening⟩])
  | sign {frames : List Frame} {tokens : List Token} (negative : Bool) (position : Nat)
      (houter : Opens none frames tokens) :
      Opens none (.sign negative :: frames)
        (tokens ++ [⟨.operator (signSymbol negative), position⟩])
  | power {promised : Option Token} {frames : List Frame} {tokens before : List Token}
      {base : Tree} (position : Nat) (houter : Opens promised frames tokens)
      (hbegins : Begins promised before) (hbase : Derives .factorial before base) :
      Opens none (.binary .power position base :: frames)
        (tokens ++ before ++ [⟨.operator .power, position⟩])
  | product {frames : List Frame} {tokens before : List Token} {operator : Binary} {left : Tree}
      (position : Nat) (houter : Opens none frames tokens) (hloose : Loose 2 frames)
      (hoperator : operator = .multiply ∨ operator = .divide)
      (hleft : Derives .term before left) :
      Opens none (.binary operator position left :: frames)
        (tokens ++ before ++ [⟨.operator operator.symbol, position⟩])
  | adjoined {frames : List Frame} {tokens before : List Token} {last next : Token} {left : Tree}
      (houter : Opens none frames tokens) (hloose : Loose 2 frames)
      (hadjoins : last.adjoins next = true) (hleft : Derives .term (before ++ [last]) left) :
      Opens (some next) (.adjoined left :: frames) (tokens ++ (before ++ [last]))
  | sum {frames : List Frame} {tokens before : List Token} {operator : Binary} {left : Tree}
      (position : Nat) (houter : Opens none frames tokens) (hloose : Loose 1 frames)
      (hoperator : operator = .add ∨ operator = .subtract)
      (hleft : Derives .expression before left) :
      Opens none (.binary operator position left :: frames)
        (tokens ++ before ++ [⟨.operator operator.symbol, position⟩])

/-- The frames and the phrase after them spell the tokens, and the frames hold the phrase less
tightly than `rank`. -/
structure Spells (rank : Nat) (category : Category) (tokens : List Token)
    (state : List Frame × Tree) : Prop where
  loose : Loose rank state.1
  split : ∃ before after, Opens none state.1 before ∧ Derives category after state.2 ∧
    before ++ after = tokens

/-- Closing the frames above a sum turns the operand after them into a term. The induction is on the
frames; each of them is one rule of the grammar applied to the phrase so far. -/
theorem Opens.reduce_term {promised : Option Token} {frames : List Frame}
    {before after : List Token} {tree : Tree} (h : Opens promised frames before)
    (hafter : Derives .unary after tree) (hbegins : Begins promised after) :
    Spells 2 .term (before ++ after) (reduce 2 frames tree) := by
  induction h generalizing after tree with
  | start => exact ⟨loose_nil 2, [], after, .start, .ofUnary hafter, rfl⟩
  | group position houter hopening =>
      have hloose : ∀ frames, Loose 2 (.group position :: frames) :=
        fun _ => loose_cons (Nat.succ_pos 1)
      rw [reduce_of_loose (hloose _)]
      exact ⟨hloose _, _, after, .group position houter hopening, .ofUnary hafter, rfl⟩
  | call function position opening houter hname =>
      have hloose : ∀ frames, Loose 2 (.call function position opening :: frames) :=
        fun _ => loose_cons (Nat.succ_pos 1)
      rw [reduce_of_loose (hloose _)]
      exact ⟨hloose _, _, after, .call function position opening houter hname, .ofUnary hafter, rfl⟩
  | sign negative position houter ih =>
      have hclosed := ih (.sign negative position hafter) (begins_none _)
      have hclose : (Frame.sign negative).close tree = signed negative tree := by
        cases negative <;> rfl
      simpa [reduce, Frame.rank, hclose] using hclosed
  | power position houter hpromised hbase ih =>
      have hclosed := ih (.ofPower (.power position hbase hafter))
        (hpromised.append hbase.ne_nil _)
      simpa [reduce, Frame.rank, Frame.close, Binary.rank] using hclosed
  | @product frames tokens before operator left position houter hloose hoperator hleft ih =>
      have hrank : 2 ≤ (Frame.binary operator position left).rank := by
        rcases hoperator with rfl | rfl <;> exact Nat.le_refl 2
      simp only [reduce, hrank, if_true, reduce_of_loose hloose]
      exact ⟨hloose, tokens, _, houter, .product position hoperator hleft hafter, by simp⟩
  | @adjoined frames tokens before last next left houter hloose hadjoins hleft ih =>
      have hhead := hbegins next rfl
      obtain ⟨rest, rfl⟩ : ∃ rest, after = next :: rest := List.head?_eq_some_iff.mp hhead
      have hnext : ∀ operator, next.lexeme ≠ .operator operator := by
        intro operator heq
        rcases next_of_adjoins hadjoins with hopening | ⟨name, hname⟩
        · rw [hopening] at heq
          cases heq
        · rw [hname] at heq
          cases heq
      have hrank : 2 ≤ (Frame.adjoined left).rank := Nat.le_refl 2
      simp only [reduce, hrank, if_true, reduce_of_loose hloose]
      exact ⟨hloose, tokens, _, houter, .adjoined hadjoins hleft (hafter.power_of_unary hnext),
        by simp⟩
  | @sum frames tokens before operator left position houter hloose hoperator hleft ih =>
      have hrank : (Frame.binary operator position left).rank < 2 := by
        rcases hoperator with rfl | rfl <;> exact Nat.lt_succ_self 1
      have hloose' : Loose 2 (.binary operator position left :: frames) := loose_cons hrank
      rw [reduce_of_loose hloose']
      exact ⟨hloose', _, after, .sum position houter hloose hoperator hleft, .ofUnary hafter, rfl⟩

/-- Closing in two steps, the tighter frames first, is closing in one. Phrases of the grammar are
closed level by level, and the reader closes at once. -/
theorem reduce_reduce {rank rank' : Nat} (hle : rank' ≤ rank) (frames : List Frame) (tree : Tree) :
    reduce rank' (reduce rank frames tree).1 (reduce rank frames tree).2 =
      reduce rank' frames tree := by
  induction frames generalizing tree with
  | nil => rfl
  | cons frame rest ih =>
      by_cases hrank : rank ≤ frame.rank
      · simpa only [reduce, hrank, if_true, Nat.le_trans hle hrank] using ih (frame.close tree)
      · simp only [reduce, hrank, if_false]

/-- Closing the frames up to a bracket turns the operand after them into an expression. All that
binds more tightly is a part of it by then. It is done in two steps, first up to the sums and then
up to the bracket, as one may contain the other. -/
theorem Opens.reduce_expression {promised : Option Token} {frames : List Frame}
    {before after : List Token} {tree : Tree} (h : Opens promised frames before)
    (hafter : Derives .unary after tree) (hbegins : Begins promised after) :
    Spells 1 .expression (before ++ after) (reduce 1 frames tree) := by
  rw [← reduce_reduce (Nat.le_succ 1) frames tree]
  obtain ⟨hloose, before', after', hopens, hterm, htokens⟩ := h.reduce_term hafter hbegins
  generalize (reduce 2 frames tree).1 = outer at *
  generalize (reduce 2 frames tree).2 = term at *
  rw [← htokens]
  cases hopens with
  | start => exact ⟨loose_nil 1, [], after', .start, .ofTerm hterm, rfl⟩
  | @group _ _ tokens position houter hopening =>
      refine ⟨loose_cons Nat.one_pos, _, after', .group position houter hopening, .ofTerm hterm,
        rfl⟩
  | @call _ _ tokens function position opening houter hname =>
      refine ⟨loose_cons Nat.one_pos, _, after', .call function position opening houter hname,
        .ofTerm hterm, rfl⟩
  | sign negative position houter => exact absurd (hloose _ rfl) (by simp [Frame.rank])
  | power position houter hpromised hbase =>
      exact absurd (hloose _ rfl) (by simp [Frame.rank, Binary.rank])
  | product position houter _ hoperator hleft =>
      rcases hoperator with rfl | rfl <;> exact absurd (hloose _ rfl) (Nat.lt_irrefl 2)
  | @sum frames tokens before operator left position houter hinner hoperator hleft =>
      have hrank : 1 ≤ (Frame.binary operator position left).rank := by
        rcases hoperator with rfl | rfl <;> exact Nat.le_refl 1
      simp only [reduce, hrank, if_true, reduce_of_loose hinner]
      exact ⟨hinner, tokens, _, houter, .sum position hoperator hleft hterm, by simp⟩

/-- The tokens read so far lead to the state of the reader: frames are open after some of them, and
the rest are a phrase. A reader that has stopped is explained by a tree without a value. -/
inductive Explains : List Token → Progress → Prop where
  | operand {frames : List Frame} {tokens : List Token} (h : Opens none frames tokens) :
      Explains tokens (.operand frames)
  | named {promised : Option Token} {frames : List Frame} {before : List Token} (name : String)
      (position : Nat) (h : Opens promised frames before)
      (hbegins : Begins promised [⟨.name name, position⟩]) :
      Explains (before ++ [⟨.name name, position⟩]) (.named frames name position)
  | complete {promised : Option Token} {frames : List Frame} {before : List Token}
      {tree : Tree} (after : List Token) (last : Token) (h : Opens promised frames before)
      (hafter : Derives .factorial (after ++ [last]) tree)
      (hbegins : Begins promised (after ++ [last])) (hlast : ∀ name, last.lexeme ≠ .name name) :
      Explains (before ++ (after ++ [last])) (.complete frames tree)
  | stopped {tokens : List Token} {tree : Tree} (h : tree.Fails) :
      Explains tokens (.stopped tree)

theorem explains_fail (tokens : List Token) (frames : List Frame) (cause : Error) :
    Explains tokens (Progress.fail frames cause) :=
  .stopped ((fault_fails cause).closeAll frames)

theorem explains_enter {frame : Frame} {frames : List Frame} {tokens : List Token}
    (h : Opens none (frame :: frames) tokens) : Explains tokens (Progress.enter frame frames) := by
  unfold Progress.enter
  split
  · exact .operand h
  · exact explains_fail tokens (frame :: frames) .tooDeep

/-- Reading a token where an operand must come. After a promise only a name or a bracket comes,
because nothing else begins a factor without an operator. -/
theorem Opens.readOperand {promised : Option Token} {frames : List Frame} {tokens : List Token}
    (h : Opens promised frames tokens) (token : Token) (hbegins : Begins promised [token])
    (hpromised : promised = none ∨ token.lexeme = .opening ∨ ∃ name, token.lexeme = .name name) :
    Explains (tokens ++ [token]) (Progress.readOperand frames token) := by
  obtain ⟨lexeme, position⟩ := token
  cases lexeme with
  | name name => exact .named name position h hbegins
  | opening => exact explains_enter (.group position h hbegins)
  | number value =>
      exact .complete [] _ h (.ofPrimary (.number value position)) hbegins (by simp)
  | closing => exact explains_fail _ frames _
  | operator operator =>
      obtain rfl : promised = none := by simpa using hpromised
      cases operator with
      | plus => exact explains_enter (.sign false position h)
      | minus => exact explains_enter (.sign true position h)
      | times | divide | power | bang => exact explains_fail _ frames _

/-- A token that cannot belong to the operand stops the reader at a tree without a value. No tokens
that follow can make up for it. -/
theorem explains_readForeign (tokens : List Token) (frames : List Frame) (tree : Tree)
    (cause : Error) : Explains tokens (Progress.readForeign frames tree cause) := by
  simp only [Progress.readForeign]
  split <;> exact .stopped ((broken_fails _ _).closeAll _)

/-- The innermost open frame is a bracket, or no frame is open at all. That is what closing
everything that binds leaves behind. -/
inductive Bracketed : List Frame → List Token → Prop where
  | start : Bracketed [] []
  | group {promised : Option Token} {frames : List Frame} {tokens : List Token} (position : Nat)
      (houter : Opens promised frames tokens)
      (hbegins : Begins promised [⟨.opening, position⟩]) :
      Bracketed (.group position :: frames) (tokens ++ [⟨.opening, position⟩])
  | call {promised : Option Token} {frames : List Frame} {tokens : List Token}
      (function : String) (position opening : Nat) (houter : Opens promised frames tokens)
      (hbegins : Begins promised [⟨.name function, position⟩]) :
      Bracketed (.call function position opening :: frames)
        (tokens ++ [⟨.name function, position⟩, ⟨.opening, opening⟩])

theorem Opens.bracketed {frames : List Frame} {tokens : List Token}
    (h : Opens none frames tokens) (hloose : Loose 1 frames) : Bracketed frames tokens := by
  cases h with
  | start => exact .start
  | group position houter hbegins => exact .group position houter hbegins
  | call function position opening houter hbegins =>
      exact .call function position opening houter hbegins
  | sign => exact absurd (hloose _ rfl) (by simp [Frame.rank])
  | power => exact absurd (hloose _ rfl) (by simp [Frame.rank, Binary.rank])
  | product position houter _ hoperator | sum position houter _ hoperator =>
      rcases hoperator with rfl | rfl <;>
        exact absurd (hloose _ rfl) (by simp [Frame.rank, Binary.rank])

/-- A closing bracket makes a primary of the innermost bracket, or is one too many. In the second
case the reader stops. What is opened there is a bracket or nothing, as everything tighter has been
closed. -/
theorem Opens.readClosing {promised : Option Token} {frames : List Frame}
    {before after : List Token} {tree : Tree} (h : Opens promised frames before)
    (hafter : Derives .unary after tree) (hbegins : Begins promised after) (position : Nat) :
    Explains (before ++ after ++ [⟨.closing, position⟩])
      (Progress.readClosing frames tree position) := by
  obtain ⟨hloose, before', after', hopens, hexpression, htokens⟩ :=
    h.reduce_expression hafter hbegins
  unfold Progress.readClosing
  generalize reduce 1 frames tree = reduced at *
  obtain ⟨outer, expression⟩ := reduced
  rw [← htokens]
  cases hopens.bracketed hloose with
  | start => exact .stopped (broken_fails _ _)
  | @group promised' outer tokens opening houter hopening =>
      have hprimary := Derives.group opening position hexpression
      have hcomplete := Explains.complete (⟨.opening, opening⟩ :: after') ⟨.closing, position⟩
        houter (.ofPrimary hprimary) (hopening.append (List.cons_ne_nil _ _) _) (by simp)
      simpa [Frame.close] using hcomplete
  | @call promised' outer tokens function start opening houter hname =>
      have hprimary := Derives.call function start opening position hexpression
      have hcomplete := Explains.complete
        (⟨.name function, start⟩ :: ⟨.opening, opening⟩ :: after') ⟨.closing, position⟩
        houter (.ofPrimary hprimary) (hname.append (List.cons_ne_nil _ _) _) (by simp)
      simpa [Frame.close] using hcomplete

/-- An operator waits for its right side after a phrase of its own level. That phrase is closed
first, which makes operators of one level group to the left. For a sum the products before are
closed as well, for a product the sums are left open. -/
theorem Opens.readBinary {promised : Option Token} {frames : List Frame}
    {before after : List Token} {tree : Tree} (h : Opens promised frames before)
    (hafter : Derives .unary after tree) (hbegins : Begins promised after) (operator : Binary)
    (hoperator : operator ≠ .power) (position : Nat) :
    Explains (before ++ after ++ [⟨.operator operator.symbol, position⟩])
      (Progress.readBinary operator frames tree position) := by
  have hsum := h.reduce_expression hafter hbegins
  have hproduct := h.reduce_term hafter hbegins
  unfold Progress.readBinary
  cases operator with
  | power => exact absurd rfl hoperator
  | add =>
      obtain ⟨hloose, before', after', hopens, hleft, htokens⟩ := hsum
      rw [← htokens]
      exact .operand (.sum position hopens hloose (Or.inl rfl) hleft)
  | subtract =>
      obtain ⟨hloose, before', after', hopens, hleft, htokens⟩ := hsum
      rw [← htokens]
      exact .operand (.sum position hopens hloose (Or.inr rfl) hleft)
  | multiply =>
      obtain ⟨hloose, before', after', hopens, hleft, htokens⟩ := hproduct
      rw [← htokens]
      exact .operand (.product position hopens hloose (Or.inl rfl) hleft)
  | divide =>
      obtain ⟨hloose, before', after', hopens, hleft, htokens⟩ := hproduct
      rw [← htokens]
      exact .operand (.product position hopens hloose (Or.inr rfl) hleft)

/-- A factor without an operator is promised directly after the operand. Its first token has come,
but is not read yet. -/
theorem Opens.adjoin {promised : Option Token} {frames : List Frame}
    {before after : List Token} {last next : Token} {tree : Tree} (h : Opens promised frames before)
    (hafter : Derives .unary (after ++ [last]) tree) (hbegins : Begins promised (after ++ [last]))
    (hadjoins : last.adjoins next = true) :
    Opens (some next) (.adjoined (reduce 2 frames tree).2 :: (reduce 2 frames tree).1)
      (before ++ (after ++ [last])) := by
  obtain ⟨hloose, before', after', hopens, hleft, htokens⟩ := h.reduce_term hafter hbegins
  generalize reduce 2 frames tree = reduced at *
  obtain ⟨outer, left⟩ := reduced
  obtain ⟨init, last', rfl⟩ : ∃ init last', after' = init ++ [last'] :=
    ⟨_, _, (List.dropLast_concat_getLast hleft.ne_nil).symm⟩
  obtain rfl : last' = last := by
    have hlast := congrArg List.getLast? htokens
    simpa [List.getLast?_append] using hlast
  rw [← htokens]
  exact .adjoined hopens hloose hadjoins hleft

theorem begins_some (token : Token) : Begins (some token) [token] := by
  intro other member
  cases member
  rfl

/-- A factor without an operator begins directly after the operand. The token that was promised is
read as the beginning of an operand inside the new frame. -/
theorem Opens.readAdjoined {promised : Option Token} {frames : List Frame}
    {before after : List Token} {last next : Token} {tree : Tree} (h : Opens promised frames before)
    (hafter : Derives .unary (after ++ [last]) tree) (hbegins : Begins promised (after ++ [last]))
    (hadjoins : last.adjoins next = true) :
    Explains (before ++ (after ++ [last]) ++ [next])
      (Progress.readOperand (.adjoined (reduce 2 frames tree).2 :: (reduce 2 frames tree).1)
        next) :=
  (h.adjoin hafter hbegins hadjoins).readOperand next (begins_some next)
    (Or.inr (next_of_adjoins hadjoins))

/-- Reading a token after a complete operand. A bracket after a bare name is read elsewhere, for it
makes a call of the name. Every token has a lemma of its own here, which says what becomes of the
operand. -/
theorem Opens.readAfter {promised : Option Token} {frames : List Frame}
    {before after : List Token} {last : Token} {tree : Tree} (h : Opens promised frames before)
    (hafter : Derives .factorial (after ++ [last]) tree)
    (hbegins : Begins promised (after ++ [last]))
    (token : Token) (hopening : token.lexeme = .opening → ∀ name, last.lexeme ≠ .name name) :
    Explains (before ++ (after ++ [last]) ++ [token]) (Progress.readAfter frames tree token) := by
  have hunary : Derives .unary (after ++ [last]) tree := .ofPower (.ofFactorial hafter)
  obtain ⟨lexeme, position⟩ := token
  cases lexeme with
  | number value => exact explains_readForeign _ frames tree _
  | name name =>
      apply h.readAdjoined hunary hbegins
      cases hlast : last.lexeme <;> simp [Token.adjoins, hlast]
  | opening =>
      apply h.readAdjoined hunary hbegins
      cases hlast : last.lexeme with
      | name name => exact absurd hlast (hopening rfl name)
      | number | operator | opening | closing => simp [Token.adjoins, hlast]
  | closing => exact h.readClosing hunary hbegins position
  | operator operator =>
      cases operator with
      | plus => exact h.readBinary hunary hbegins .add (by decide) position
      | minus => exact h.readBinary hunary hbegins .subtract (by decide) position
      | times => exact h.readBinary hunary hbegins .multiply (by decide) position
      | divide => exact h.readBinary hunary hbegins .divide (by decide) position
      | power => exact explains_enter (.power position h hbegins hafter)
      | bang =>
          rw [List.append_assoc]
          exact .complete _ _ h (.factorial position hafter)
            (hbegins.append (by simp) _) (by simp)

/-- One token further, the state of the reader is explained again. There is a case for each kind of
state, and in it one for each kind of token. By induction the state is explained after all the
tokens. -/
theorem Explains.read {tokens : List Token} {state : Progress} (h : Explains tokens state)
    (token : Token) : Explains (tokens ++ [token]) (state.read token) := by
  cases h with
  | operand hopens => exact hopens.readOperand token (begins_none _) (Or.inl rfl)
  | @named promised frames before name position hopens hbegins =>
      have hname : Derives .factorial ([] ++ [⟨.name name, position⟩]) (.name name position) :=
        .ofPrimary (.name name position)
      by_cases hopening : token.lexeme = .opening
      · obtain ⟨lexeme, opening⟩ := token
        cases hopening
        rw [List.append_assoc]
        exact explains_enter (.call name position opening hopens hbegins)
      · have hread : Progress.read (.named frames name position) token =
            Progress.readAfter frames (.name name position) token :=
          (Progress.Holds.named frames name position).read token fun heq => absurd heq hopening
        rw [hread]
        exact hopens.readAfter hname hbegins token fun heq => absurd heq hopening
  | complete after last hopens hafter hbegins hlast =>
      exact hopens.readAfter hafter hbegins token fun _ => hlast
  | stopped hfails => exact .stopped hfails

/-- Whatever tokens follow, the state of the reader stays explained. The induction is on the tokens,
from the left. -/
theorem Explains.foldl {before : List Token} {state : Progress} (h : Explains before state)
    (tokens : List Token) : Explains (before ++ tokens) (tokens.foldl Progress.read state) := by
  induction tokens generalizing before state with
  | nil => simpa using h
  | cons token rest ih =>
      have hread := ih (h.read token)
      rwa [List.append_assoc, List.singleton_append] at hread

theorem explains_foldl (tokens : List Token) :
    Explains tokens (tokens.foldl Progress.read (.operand [])) :=
  (Explains.operand .start).foldl tokens

/-- When the tokens end, an operand is a whole expression unless a bracket is still open. Then the
tree has a fault in it, and no value. -/
theorem Opens.finishValue {promised : Option Token} {frames : List Frame}
    {before after : List Token} {tree : Tree} (h : Opens promised frames before)
    (hafter : Derives .unary after tree) (hbegins : Begins promised after) :
    (Progress.finishValue frames tree).Fails ∨
      Derives .expression (before ++ after) (Progress.finishValue frames tree) := by
  obtain ⟨hloose, before', after', hopens, hexpression, htokens⟩ :=
    h.reduce_expression hafter hbegins
  unfold Progress.finishValue
  generalize reduce 1 frames tree = reduced at *
  obtain ⟨outer, expression⟩ := reduced
  rw [← htokens]
  cases hopens.bracketed hloose with
  | start => exact Or.inr hexpression
  | group | call => exact Or.inl ((broken_fails _ _).closeAll _)

theorem Explains.finish {tokens : List Token} {state : Progress} (h : Explains tokens state) :
    state.finish.Fails ∨ Derives .expression tokens state.finish := by
  cases h with
  | operand hopens => exact Or.inl ((fault_fails _).closeAll _)
  | named name position hopens hbegins =>
      exact hopens.finishValue (.ofPower (.ofFactorial (.ofPrimary (.name name position)))) hbegins
  | complete after last hopens hafter hbegins _ =>
      exact hopens.finishValue (.ofPower (.ofFactorial hafter)) hbegins
  | stopped hfails => exact Or.inl hfails

/-- The tree that the reader makes of tokens has no value, or is their derivation. Nothing is
assumed of the tokens, so reading is sound for all of them. -/
theorem ofTokens_fails_or_derives (tokens : List Token) :
    (Tree.ofTokens tokens).Fails ∨ Derives .expression tokens (Tree.ofTokens tokens) := by
  cases tokens with
  | nil => exact Or.inl (fault_fails .empty)
  | cons token rest => exact (explains_foldl (token :: rest)).finish

theorem ofTokens_of_ne_nil {read : List Token} (h : read ≠ []) :
    Tree.ofTokens read = (read.foldl Progress.read (.operand [])).finish :=
  if_neg (by simpa using h)

theorem Derives.ofTokens_eq {tokens : List Token} {tree : Tree}
    (h : Derives .expression tokens tree) :
    Tree.ofTokens tokens = (tokens.foldl Progress.read (.operand [])).finish :=
  ofTokens_of_ne_nil h.ne_nil

/-- Within the depth limit the reader finds the derivation. It is complete there: whatever the
grammar derives is read, and as the grammar has it. -/
theorem Derives.ofTokens_of_depth_le {tokens : List Token} {tree : Tree}
    (h : Derives .expression tokens tree) (hdepth : tree.depth ≤ depthLimit) :
    Tree.ofTokens tokens = tree := by
  rw [h.ofTokens_eq]
  have hreached := h.reached [] (loose_nil 1) (by decide)
  exact (hreached.pending (by simpa [openDepth] using hdepth)).finish

/-- Beyond the depth limit the reader stops. The phrase is one of the grammar all the same, so this
is where the reader and the grammar part. -/
theorem Derives.stopped_of_lt_depth {tokens : List Token} {tree : Tree}
    (h : Derives .expression tokens tree) (hdepth : depthLimit < tree.depth) :
    ∃ read, tokens.foldl Progress.read (.operand []) = .stopped read := by
  have hreached := h.reached [] (loose_nil 1) (by decide)
  obtain ⟨cut, hstate, -⟩ := hreached.stopped (by simpa [openDepth] using hdepth)
  exact ⟨_, hstate⟩

theorem Derives.ofTokens_fails {tokens : List Token} {tree : Tree}
    (h : Derives .expression tokens tree) (hdepth : depthLimit < tree.depth) :
    (Tree.ofTokens tokens).Fails := by
  obtain ⟨read, hstate⟩ := h.stopped_of_lt_depth hdepth
  have hexplains := explains_foldl tokens
  rw [h.ofTokens_eq]
  rw [hstate] at hexplains ⊢
  cases hexplains with
  | stopped hfails => exact hfails

/-- A derivation within the depth limit is the only one: the reader ends in one state, and at a
deeper derivation it would have stopped. -/
theorem Derives.eq_of_depth_le {tokens : List Token} {tree other : Tree}
    (h : Derives .expression tokens tree) (hdepth : tree.depth ≤ depthLimit)
    (hother : Derives .expression tokens other) : other = tree := by
  rcases Int.lt_or_le depthLimit other.depth with hdeep | hfits
  · obtain ⟨read, hstate⟩ := hother.stopped_of_lt_depth hdeep
    have hreached := h.reached [] (loose_nil 1) (by decide)
    obtain ⟨inner, operand, hholds, -, -⟩ :=
      hreached.pending (by simpa [openDepth] using hdepth)
    rw [hstate] at hholds
    cases hholds
  · rw [← hother.ofTokens_of_depth_le hfits, h.ofTokens_of_depth_le hdepth]

/-- Parsing is correct. A value is returned exactly if the whole token list is derivable, within
the depth limit, and the rules give the derivation that value; in every other case there is an
error. The derivation is unique: no other tree, of any depth, derives the same tokens. -/
theorem value_ofTokens_iff_derives (scope : Scope) (tokens : List Token) :
    (∀ value, (Tree.ofTokens tokens).value scope = .ok value ↔
      ∃ tree, Derives .expression tokens tree ∧ tree.depth ≤ depthLimit ∧
        tree.Evaluates scope value) ∧
    (∀ tree other, Derives .expression tokens tree → tree.depth ≤ depthLimit →
      Derives .expression tokens other → other = tree) ∧
    ((∀ tree value, Derives .expression tokens tree → tree.depth ≤ depthLimit →
        ¬ tree.Evaluates scope value) →
      ∃ cause, (Tree.ofTokens tokens).value scope = .error cause) := by
  have hiff : ∀ value, (Tree.ofTokens tokens).value scope = .ok value ↔
      ∃ tree, Derives .expression tokens tree ∧ tree.depth ≤ depthLimit ∧
        tree.Evaluates scope value := by
    intro value
    rw [Tree.value_eq_ok_iff]
    constructor
    · intro hvalue
      rcases ofTokens_fails_or_derives tokens with hfails | hderives
      · exact absurd hvalue (hfails scope value)
      refine ⟨_, hderives, Int.not_lt.mp ?_, hvalue⟩
      intro hdeep
      exact hderives.ofTokens_fails hdeep scope value hvalue
    · rintro ⟨tree, hderives, hdepth, hvalue⟩
      rwa [hderives.ofTokens_of_depth_le hdepth]
  refine ⟨hiff, ?_, ?_⟩
  · intro tree other htree hdepth hother
    exact htree.eq_of_depth_le hdepth hother
  · intro hnone
    cases hvalue : (Tree.ofTokens tokens).value scope with
    | error cause => exact ⟨cause, rfl⟩
    | ok value =>
        obtain ⟨tree, hderives, hdepth, hevaluates⟩ := (hiff value).mp hvalue
        exact absurd hevaluates (hnone tree value hderives hdepth)

end Reckoner.Expression
