import Reckoner.Proofs.Expression.Boundary
import Reckoner.Proofs.Expression.Continuation
import Reckoner.Proofs.Expression.Overflow

/-!
Texts of the same value in brackets. What stands between two brackets is read as it is read alone,
inside the frames that are open there, and leaves nothing but its value. The depth limit is the one
thing that a text may exceed inside frames and not alone; it is reported, unless something outside
the brackets goes wrong whatever stands inside them.
-/

namespace Reckoner.Expression

variable {scope : Scope} {frames : List Frame}

namespace Progress

/-- Reading an opening bracket opens a frame for it, or stops: the reader was stopped before, or the
limit stops it here. -/
theorem read_opening_cases (state : Progress) (position : Nat) :
    (∃ bracket frames, state.read ⟨.opening, position⟩ = .operand (bracket :: frames) ∧
        bracket.rank = 0 ∧ openDepth (bracket :: frames) ≤ depthLimit) ∨
      ∃ tree, state.read ⟨.opening, position⟩ = .stopped tree := by
  have hentered (bracket : Frame) (frames : List Frame) (hrank : bracket.rank = 0) :
      (∃ bracket' frames', enter bracket frames = .operand (bracket' :: frames') ∧
          bracket'.rank = 0 ∧ openDepth (bracket' :: frames') ≤ depthLimit) ∨
        ∃ tree, enter bracket frames = .stopped tree := by
    by_cases hfits : openDepth (bracket :: frames) ≤ depthLimit
    · exact Or.inl ⟨bracket, frames, enter_of_le hfits, hrank, hfits⟩
    · simp only [enter, hfits, if_false]
      exact Or.inr ⟨_, rfl⟩
  cases state with
  | operand frames => exact hentered _ _ rfl
  | named frames name start => exact hentered _ _ rfl
  | complete frames tree => exact hentered _ _ rfl
  | stopped tree => exact Or.inr ⟨tree, rfl⟩

end Progress

open Progress

/-- The tokens of a text that has a value are an expression of that value, wherever it stands. The
places of its tokens are others there, and no value depends on them. -/
theorem exists_derives_of_evaluate {text : String} {value : Binary64}
    (h : evaluate scope text = .ok value) (position : Nat) :
    ∃ read tree, tokensFrom position text.toList = .ok read ∧ Derives .expression read tree ∧
      tree.Evaluates scope value := by
  obtain ⟨hyields, -⟩ := evaluate_eq_ok_iff_yields.mp h
  have halike : (Progress.operand []).Alike scope (.operand []) := .refl _
  obtain ⟨read, hread, hvalue⟩ := (halike.yields_iff 0 position _).mp hyields
  rw [← ofTokens_evaluates_iff] at hvalue
  rcases ofTokens_fails_or_derives read with hfails | hderives
  · exact absurd hvalue (hfails scope value)
  · exact ⟨read, _, hread, hderives, hvalue⟩

/-- After a bracketed expression that has a value, the reader has an operand of that value, or was
cut short, if the frames around it can have a value at all. -/
theorem read_bracketed {read : List Token} {tree : Tree} {value : Binary64} {bracket : Frame}
    (h : Derives .expression read tree) (hvalue : tree.Evaluates scope value)
    (hbracket : bracket.rank = 0) (hopen : openDepth (bracket :: frames) ≤ depthLimit)
    (hfree : ¬ ∃ frame ∈ bracket :: frames, frame.Blocks scope) (position : Nat) :
    (read.foldl Progress.read (.operand (bracket :: frames))).read ⟨.closing, position⟩ =
        .complete frames (bracket.close tree) ∨
      ((read.foldl Progress.read (.operand (bracket :: frames))).read
        ⟨.closing, position⟩).CutShort scope := by
  have hloose : Loose 1 (bracket :: frames) := loose_cons (by omega)
  have hreached := h.reached (bracket :: frames) hloose hopen
  rcases Int.lt_or_le depthLimit (openDepth (bracket :: frames) + tree.depth) with hdeep | hfits
  · obtain ⟨cut, hstate, hcut⟩ := hreached.stopped hdeep
    exact Or.inr ⟨_, by rw [hstate]; rfl,
      (value_closeAll_of_error (hcut scope value hvalue)).resolve_right hfree⟩
  · exact Or.inl ((hreached.pending hfits).read_closing hbracket position)

/-- What the reader makes of bracketed expressions of one value is alike, wherever they stand and
whatever follows them, or one of them was cut short. If a frame outside has no value, neither
reading has one; otherwise both are complete at the closing bracket, or the limit has stopped
one. -/
theorem alike_bracketed {read read' after after' : List Token} {tree tree' : Tree}
    {value : Binary64} (h : Derives .expression read tree) (hvalue : tree.Evaluates scope value)
    (h' : Derives .expression read' tree') (hvalue' : tree'.Evaluates scope value)
    (hafter : List.Forall₂ (fun token token' => token.lexeme = token'.lexeme) after after')
    (state : Progress) (opening closing closing' : Nat) :
    let whole := ((⟨.opening, opening⟩ :: (read ++ ⟨.closing, closing⟩ :: after)).foldl
      Progress.read state).finish
    let whole' := ((⟨.opening, opening⟩ :: (read' ++ ⟨.closing, closing'⟩ :: after')).foldl
      Progress.read state).finish
    whole.Alike scope whole' ∨ whole.value scope = .error .tooDeep ∨
      whole'.value scope = .error .tooDeep := by
  simp only [List.foldl_cons, List.foldl_append]
  rcases state.read_opening_cases opening with
    ⟨bracket, frames, hopening, hbracket, hopen⟩ | ⟨stopped, hopening⟩
  · rw [hopening]
    by_cases hblocks : ∃ frame ∈ bracket :: frames, frame.Blocks scope
    · -- A frame outside has no value, so neither reading comes to one.
      have hnone (read after : List Token) (closing : Nat) :=
        (((Progress.Blocked.operand hblocks).foldl read).read ⟨.closing, closing⟩
          |>.foldl after).finish
      exact Or.inl fun x =>
        iff_of_false (hnone read after closing x) (hnone read' after' closing' x)
    · rcases read_bracketed h hvalue hbracket hopen hblocks closing with hclosed | hshort
      · rcases read_bracketed h' hvalue' hbracket hopen hblocks closing' with hclosed' | hshort'
        · have hoperand : tree.Alike scope tree' := fun x =>
            ⟨fun hx => hx.unique hvalue ▸ hvalue', fun hx => hx.unique hvalue' ▸ hvalue⟩
          rw [hclosed, hclosed']
          have hcomplete := alike_complete frames ((Frame.Covers.refl bracket).close hoperand)
          exact Or.inl (hcomplete.foldl hafter).finish
        · exact Or.inr (Or.inr (hshort'.foldl after').value_finish)
      · exact Or.inr (Or.inl (hshort.foldl after).value_finish)
  · have hstopped (read after : List Token) (closing : Nat) :
        after.foldl Progress.read
          ((read.foldl Progress.read (.stopped stopped)).read ⟨.closing, closing⟩) =
            .stopped stopped := by
      rw [foldl_read_stopped]
      exact foldl_read_stopped after stopped
    rw [hopening, hstopped, hstopped]
    exact Or.inl (.refl stopped)

/-- A text has tokens from one place on if it has from another, and then of the same lexemes. The
error where it has none tells a place, and so differs. -/
theorem tokensFrom_cases (position position' : Nat) (chars : List Char) :
    (∃ cause cause', tokensFrom position chars = .error cause ∧
        tokensFrom position' chars = .error cause') ∨
      ∃ read read', tokensFrom position chars = .ok read ∧ tokensFrom position' chars = .ok read' ∧
        List.Forall₂ (fun token token' => token.lexeme = token'.lexeme) read read' := by
  cases h : tokensFrom position chars with
  | ok read =>
      obtain ⟨read', hread', hlexemes⟩ := exists_tokensFrom h position'
      exact Or.inr ⟨read, read', rfl, hread', hlexemes.flip.imp fun _ _ => Eq.symm⟩
  | error cause =>
      cases h' : tokensFrom position' chars with
      | error cause' => exact Or.inl ⟨cause, cause', rfl, rfl⟩
      | ok read' =>
          obtain ⟨read, hread, -⟩ := exists_tokensFrom h' position
          rw [h] at hread
          cases hread

theorem toList_bracketed (before text after : String) :
    (before ++ "(" ++ text ++ ")" ++ after).toList =
      before.toList ++ '(' :: (text.toList ++ ')' :: after.toList) := by
  simp [String.toList_append]

/-- The tokens of a text with a bracketed part, if the part and what stands before it have any.
Brackets separate lexemes, so the three parts are read one after the other. -/
theorem tokens_bracketed {before text : String} {front read : List Token}
    (hfront : tokens before = .ok front)
    (hread : tokensFrom (before.toList.length + 1) text.toList = .ok read) (after : String) :
    tokens (before ++ "(" ++ text ++ ")" ++ after) =
      (tokensFrom (before.toList.length + 1 + text.toList.length + 1) after.toList).map fun back =>
        front ++ ⟨.opening, before.toList.length⟩ ::
          (read ++ ⟨.closing, before.toList.length + 1 + text.toList.length⟩ :: back) := by
  rw [tokens, toList_bracketed,
    tokensFrom_append hfront (by rintro _ ⟨⟩; exact separates_bracket.1), Nat.zero_add,
    tokensFrom_symbol rfl, tokensFrom_append hread (by rintro _ ⟨⟩; exact separates_bracket.2),
    tokensFrom_symbol rfl]
  cases tokensFrom (before.toList.length + 1 + text.toList.length + 1) after.toList <;> rfl

theorem tokens_bracketed_error {before : String} {cause : Error} (h : tokens before = .error cause)
    (text after : String) : tokens (before ++ "(" ++ text ++ ")" ++ after) = .error cause := by
  rw [tokens, toList_bracketed, tokensFrom_append_error h]
  rintro _ ⟨⟩
  exact separates_bracket.1

theorem ofTokens_append_cons (before after : List Token) (token : Token) :
    Tree.ofTokens (before ++ token :: after) =
      ((token :: after).foldl Progress.read (before.foldl Progress.read (.operand []))).finish := by
  simp [Tree.ofTokens]

theorem coincide_of_alike {text text' : String} {read read' : List Token}
    (h : tokens text = .ok read) (h' : tokens text' = .ok read')
    (halike : (Tree.ofTokens read).Alike scope (Tree.ofTokens read')) :
    Coincide (evaluate scope text) (evaluate scope text') := by
  apply coincide_of_iff
  intro value
  simp only [evaluate_eq_ok_iff, h, h', Except.ok.injEq, exists_eq_left', halike value]

theorem evaluate_of_tokens_error {text : String} {cause : Error} (h : tokens text = .error cause) :
    evaluate scope text = .error cause := by
  rw [evaluate, h]
  rfl

theorem evaluate_of_value_error {text : String} {read : List Token} {cause : Error}
    (h : tokens text = .ok read) (hvalue : (Tree.ofTokens read).value scope = .error cause) :
    evaluate scope text = .error cause := by
  simp only [evaluate, h, bind, Except.bind, hvalue]

/-- Texts of the same value are interchangeable in brackets. In any context, sensible or not, both
give the same value or both an error, unless one of them is nested too deeply there. The context
need not be an expression, so its tokens are looked at first, before and behind the brackets. -/
theorem bracketed_texts_interchangeable {scope : Scope} {text text' : String} {value : Binary64}
    (h : evaluate scope text = .ok value) (h' : evaluate scope text' = .ok value)
    (before after : String) :
    Coincide (evaluate scope (before ++ "(" ++ text ++ ")" ++ after))
        (evaluate scope (before ++ "(" ++ text' ++ ")" ++ after)) ∨
      evaluate scope (before ++ "(" ++ text ++ ")" ++ after) = .error .tooDeep ∨
      evaluate scope (before ++ "(" ++ text' ++ ")" ++ after) = .error .tooDeep := by
  cases hfront : tokens before with
  | error cause =>
      rw [evaluate_of_tokens_error (tokens_bracketed_error hfront text after),
        evaluate_of_tokens_error (tokens_bracketed_error hfront text' after)]
      exact Or.inl (.failure cause cause)
  | ok front =>
      obtain ⟨read, tree, hread, hderives, hvalue⟩ :=
        exists_derives_of_evaluate h (before.toList.length + 1)
      obtain ⟨read', tree', hread', hderives', hvalue'⟩ :=
        exists_derives_of_evaluate h' (before.toList.length + 1)
      have htokens := tokens_bracketed hfront hread after
      have htokens' := tokens_bracketed hfront hread' after
      rcases tokensFrom_cases (before.toList.length + 1 + text.toList.length + 1)
          (before.toList.length + 1 + text'.toList.length + 1) after.toList with
        ⟨cause, cause', hback, hback'⟩ | ⟨back, back', hback, hback', hlexemes⟩
      · rw [hback] at htokens
        rw [hback'] at htokens'
        rw [evaluate_of_tokens_error htokens, evaluate_of_tokens_error htokens']
        exact Or.inl (.failure cause cause')
      · rw [hback] at htokens
        rw [hback'] at htokens'
        have halike := alike_bracketed hderives hvalue hderives' hvalue' hlexemes
          (front.foldl Progress.read (.operand [])) before.toList.length
          (before.toList.length + 1 + text.toList.length)
          (before.toList.length + 1 + text'.toList.length)
        simp only [← ofTokens_append_cons] at halike
        refine halike.imp (coincide_of_alike htokens htokens') (Or.imp ?_ ?_)
        · exact evaluate_of_value_error htokens
        · exact evaluate_of_value_error htokens'

/-- Two spellings of three are one, also in a call that is closed outside the brackets. What stands
around them is no expression by itself on either side. -/
theorem three_as_sum_or_factorial :
    evaluate (.standard .radians) "1+2" = .ok 3 ∧
      evaluate (.standard .radians) "3!-(6)/2" = .ok 3 ∧
      (Coincide (evaluate (.standard .radians) ("abs(2-2" ++ "(" ++ "1+2" ++ ")" ++ "!)"))
          (evaluate (.standard .radians) ("abs(2-2" ++ "(" ++ "3!-(6)/2" ++ ")" ++ "!)")) ∨
        evaluate (.standard .radians) ("abs(2-2" ++ "(" ++ "1+2" ++ ")" ++ "!)") =
          .error .tooDeep ∨
        evaluate (.standard .radians) ("abs(2-2" ++ "(" ++ "3!-(6)/2" ++ ")" ++ "!)") =
          .error .tooDeep) ∧
      evaluate (.standard .radians) "abs(2-2(1+2)!)" = .ok 10 := by
  have hsum : evaluate (.standard .radians) "1+2" = .ok 3 := by decide +kernel
  have hdifference : evaluate (.standard .radians) "3!-(6)/2" = .ok 3 := by decide +kernel
  exact ⟨hsum, hdifference, bracketed_texts_interchangeable hsum hdifference "abs(2-2" "!)",
    by decide +kernel⟩

end Reckoner.Expression
