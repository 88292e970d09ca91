import Reckoner.Proofs.Expression.Continuation

/-!
Products without an operator. Where a name or a bracket follows an operand, the reader closes what
it closes at a multiplication sign, and opens a frame for the factor. From there on the reading with
the sign covers the one without it, whatever powers, signs, brackets and calls are open around the
product. A factor after a sign is entered through one rule more, the rule for signs. So only the
product with the sign can meet the depth limit where the other does not, and then it reports it.
-/

namespace Reckoner.Expression

/-- The tokens that an operand can end with. Only after one of them can a factor follow without an
operator. -/
def Lexeme.endsOperand : Lexeme → Bool
  | .number _ | .name _ | .closing | .operator .bang => true
  | .opening | .operator _ => false

namespace Progress

/-- The reader has an operand, or it has stopped. It does not wait for an operand, so the next token
is an operator or multiplies. -/
def Settled (state : Progress) : Prop :=
  (∃ frames tree, state.Holds frames tree) ∨ ∃ tree, state = .stopped tree

theorem settled_complete (frames : List Frame) (tree : Tree) : (complete frames tree).Settled :=
  Or.inl ⟨frames, tree, .complete frames tree⟩

theorem settled_stopped (tree : Tree) : (stopped tree).Settled := Or.inr ⟨tree, rfl⟩

/-- Where an operand must come, a token that can end one is an operand by itself or stops the
reader. -/
theorem settled_readOperand {last : Token} (hlast : last.lexeme.endsOperand = true)
    (frames : List Frame) : (readOperand frames last).Settled := by
  obtain ⟨lexeme, position⟩ := last
  cases lexeme with
  | number value => exact settled_complete frames _
  | name name => exact Or.inl ⟨frames, _, .named frames name position⟩
  | closing => exact settled_stopped _
  | opening => cases hlast
  | operator operator =>
      cases operator with
      | bang => exact settled_stopped _
      | plus | minus | times | divide | power => cases hlast

theorem settled_readAfter {last : Token} (hlast : last.lexeme.endsOperand = true)
    (frames : List Frame) (tree : Tree) : (readAfter frames tree last).Settled := by
  obtain ⟨lexeme, position⟩ := last
  cases lexeme with
  | number value =>
      obtain ⟨result, hresult, -⟩ := exists_readForeign frames tree
        (.unexpectedToken (.number value) position)
      exact Or.inr ⟨result, hresult⟩
  | name name => exact settled_readOperand hlast _
  | closing =>
      simp only [readAfter, readClosing]
      split
      · exact settled_stopped _
      · exact settled_complete _ _
  | opening => cases hlast
  | operator operator =>
      cases operator with
      | bang => exact settled_complete _ _
      | plus | minus | times | divide | power => cases hlast

/-- After the last token of an operand the reader has the operand, or has stopped. What had been
read before makes no difference. -/
theorem settled_read {last : Token} (hlast : last.lexeme.endsOperand = true) (state : Progress) :
    (state.read last).Settled := by
  cases state with
  | operand frames => exact settled_readOperand hlast frames
  | named frames name position =>
      have hread : Progress.read (.named frames name position) last =
          readAfter frames (.name name position) last := by
        apply (Holds.named frames name position).read
        intro hopening
        rw [hopening] at hlast
        cases hlast
      rw [hread]
      exact settled_readAfter hlast frames _
  | complete frames tree => exact settled_readAfter hlast frames tree
  | stopped tree => exact settled_stopped tree

/-- After an operand, a multiplication sign makes no difference before a name or a bracket, but for
the rule for signs that is open after it. -/
theorem Holds.covers_product {state : Progress} {frames : List Frame} {tree : Tree} {next : Token}
    (scope : Scope) (h : state.Holds frames tree)
    (hnext : next.lexeme = .opening ∨ ∃ name, next.lexeme = .name name)
    (hopening : next.lexeme = .opening → ∃ outer operand, state = .complete outer operand)
    (position : Nat) :
    ((state.read ⟨.operator .times, position⟩).read next).Covers scope (state.read next) := by
  rw [h.read _ (by simp), h.read next hopening]
  rcases hnext with hnext | ⟨name, hnext⟩
  all_goals
    simp only [readAfter, hnext]
    exact covers_readOperand rfl (.cons (.product position (.refl _)) (FramesCover.refl _))

end Progress

/-- Wherever an operand ends, the reading with a multiplication sign covers the one without it. With
the sign one rule more is open, so only that reading can meet the limit alone. -/
theorem Progress.covers_product {last next : Token} (scope : Scope)
    (hlast : last.lexeme.endsOperand = true) (hadjoins : last.adjoins next = true)
    (position : Nat) (state : Progress) :
    (((state.read last).read ⟨.operator .times, position⟩).read next).Covers scope
      ((state.read last).read next) := by
  rcases Progress.settled_read hlast state with ⟨frames, tree, hholds⟩ | ⟨tree, hstopped⟩
  · apply hholds.covers_product scope (next_of_adjoins hadjoins)
    have hpending : (([] ++ [last]).foldl Progress.read state).Pending 0 frames tree :=
      hholds.pending 0
    exact complete_of_adjoins hadjoins hpending
  · rw [hstopped]
    exact .stopped (.refl tree)

/-- A product without an operator is the product with one. Where an operand ends and a name or a
bracket follows that does not make a call of it, a multiplication sign may be written or left out:
the tokens have the same value in every scope, or none in both cases, unless they are nested too
deeply with the sign. Without it they nest no deeper, so the limit need not be asked for there. -/
theorem adjoined_as_multiplied (scope : Scope) (before after : List Token) {last next : Token}
    (hlast : last.lexeme.endsOperand = true) (hadjoins : last.adjoins next = true)
    (position : Nat) :
    Coincide
        ((Tree.ofTokens ((before ++ [last]) ++ [⟨.operator .times, position⟩] ++
          (next :: after))).value scope)
        ((Tree.ofTokens ((before ++ [last]) ++ (next :: after))).value scope) ∨
      (Tree.ofTokens ((before ++ [last]) ++ [⟨.operator .times, position⟩] ++
        (next :: after))).value scope = .error .tooDeep := by
  have hsame : List.Forall₂ (fun token token' => token.lexeme = token'.lexeme) after after :=
    List.forall₂_same.mpr fun _ _ => rfl
  have hcovers := (Progress.covers_product scope hlast hadjoins position
    (before.foldl Progress.read (.operand []))).foldl hsame
  refine hcovers.finish.imp (fun halike => coincide_of_iff fun value => ?_) fun hdeep => ?_
  · rw [Tree.value_eq_ok_iff, Tree.value_eq_ok_iff, ofTokens_evaluates_iff, ofTokens_evaluates_iff]
    simpa using halike value
  · rw [List.append_assoc, ofTokens_of_ne_nil (by simp)]
    simpa using hdeep

/-- The sign is that of the first factor either way: `-3(4)!` is `-3*(4)!`. The factorial is taken
of the second factor alone, with the multiplication sign and without. -/
theorem negative_times_factorial :
    (Lexeme.number 3).endsOperand = true ∧
      Token.adjoins ⟨.number 3, 1⟩ ⟨.opening, 2⟩ = true ∧
      (Coincide
          ((Tree.ofTokens (([⟨.operator .minus, 0⟩] ++ [⟨.number 3, 1⟩]) ++
            [⟨.operator .times, 2⟩] ++ (⟨.opening, 2⟩ ::
              [⟨.number 4, 3⟩, ⟨.closing, 4⟩, ⟨.operator .bang, 5⟩]))).value [])
          ((Tree.ofTokens (([⟨.operator .minus, 0⟩] ++ [⟨.number 3, 1⟩]) ++ (⟨.opening, 2⟩ ::
            [⟨.number 4, 3⟩, ⟨.closing, 4⟩, ⟨.operator .bang, 5⟩]))).value []) ∨
        (Tree.ofTokens (([⟨.operator .minus, 0⟩] ++ [⟨.number 3, 1⟩]) ++
          [⟨.operator .times, 2⟩] ++ (⟨.opening, 2⟩ ::
            [⟨.number 4, 3⟩, ⟨.closing, 4⟩, ⟨.operator .bang, 5⟩]))).value [] =
          .error .tooDeep) ∧
      evaluate [] "-3*(4)!" = .ok (-72) ∧ evaluate [] "-3(4)!" = .ok (-72) :=
  ⟨rfl, rfl, adjoined_as_multiplied [] [⟨.operator .minus, 0⟩]
    [⟨.number 4, 3⟩, ⟨.closing, 4⟩, ⟨.operator .bang, 5⟩] rfl rfl 2, by decide +kernel,
    by decide +kernel⟩

end Reckoner.Expression
