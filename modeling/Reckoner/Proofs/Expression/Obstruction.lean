import Reckoner.Proofs.Expression.Parsing

/-!
What cannot be mended by reading on. Once an operand has no value, or the function of an open call
does not exist, no value comes of the expression, whatever follows; once the depth limit has stopped
the reader, it stays stopped. Two readings of which only one meets the limit are compared by these
two facts: either the limit is what the one reports, or something before it has no value in either.
-/

namespace Reckoner.Expression

/-- Whatever stands inside it, the frame has no value: its left operand has none, or it calls a
function that does not exist. -/
def Frame.Blocks (scope : Scope) (frame : Frame) : Prop :=
  ∀ tree value, ¬ (frame.close tree).Evaluates scope value

/-- The tree has no value, or one of the frames that it stands in has none. Either way nothing that
is made of them can have one. -/
def Obstructed (scope : Scope) (frames : List Frame) (tree : Tree) : Prop :=
  (∃ frame ∈ frames, frame.Blocks scope) ∨ ∀ value, ¬ tree.Evaluates scope value

variable {scope : Scope} {frames : List Frame} {tree : Tree}

theorem mem_operands_close (frame : Frame) (tree : Tree) : tree ∈ (frame.close tree).operands := by
  cases frame with
  | binary | adjoined => exact List.mem_pair.mpr (Or.inr rfl)
  | sign negative => cases negative <;> exact List.mem_singleton_self tree
  | group | call => exact List.mem_singleton_self tree

/-- An operation on what has no value has none, whatever its other operands are. No operation makes
up for an operand that is missing. -/
theorem not_evaluates_of_operand {operand : Tree} (hoperand : operand ∈ tree.operands)
    (h : ∀ value, ¬ operand.Evaluates scope value) : ∀ value, ¬ tree.Evaluates scope value := by
  intro value hvalue
  obtain ⟨x, hx⟩ := hvalue.operand hoperand
  exact h x hx

theorem Obstructed.close {frame : Frame} (h : Obstructed scope (frame :: frames) tree) :
    Obstructed scope frames (frame.close tree) := by
  rcases h with ⟨blocking, hmem, hblocks⟩ | htree
  · rcases List.mem_cons.mp hmem with rfl | hmem
    · exact Or.inr (hblocks tree)
    · exact Or.inl ⟨blocking, hmem, hblocks⟩
  · exact Or.inr (not_evaluates_of_operand (mem_operands_close frame tree) htree)

theorem Obstructed.reduce (h : Obstructed scope frames tree) (rank : Nat) :
    Obstructed scope (reduce rank frames tree).1 (reduce rank frames tree).2 := by
  induction frames generalizing tree with
  | nil => exact h
  | cons frame frames ih =>
      simp only [Expression.reduce]
      split
      · exact ih h.close
      · exact h

/-- What is read of an obstructed operand stays obstructed: an operation on it has no value if it
has none, and the frames around it are the same. -/
theorem Obstructed.operand {operand : Tree} (h : Obstructed scope frames operand)
    (hoperand : operand ∈ tree.operands) : Obstructed scope frames tree :=
  h.imp_right (not_evaluates_of_operand hoperand)

/-- An obstructed left side obstructs the frame that waits for the right one, whatever operation the
frame is for. -/
theorem Obstructed.left (h : Obstructed scope frames tree) (frame : Frame)
    (hleft : ∀ right, tree ∈ (frame.close right).operands) :
    ∃ blocking ∈ frame :: frames, blocking.Blocks scope := by
  rcases h with ⟨blocking, hmem, hblocks⟩ | htree
  · exact ⟨blocking, List.mem_cons_of_mem _ hmem, hblocks⟩
  · exact ⟨frame, List.mem_cons_self, fun right => not_evaluates_of_operand (hleft right) htree⟩

/-- A left operand that fails leaves its frame without a value. Whatever the right one turns out to
be, it cannot help. -/
theorem Frame.blocks_of_left {frame : Frame} {left : Tree} {cause : Error}
    (hleft : ∀ right, left ∈ (frame.close right).operands)
    (h : left.value scope = .error cause) : frame.Blocks scope := by
  intro right
  apply not_evaluates_of_operand (hleft right)
  intro x hx
  rw [Tree.value_eq_ok_iff.mpr hx] at h
  cases h

/-- An error inside a frame is that of the frame, unless the frame has no value anyway. In that case
what is wrong with the frame comes first. Frames without a left operand pass the error on, but for
calls of what is no function. -/
theorem Frame.value_close_of_error {cause : Error} (h : tree.value scope = .error cause)
    (frame : Frame) : (frame.close tree).value scope = .error cause ∨ frame.Blocks scope := by
  cases frame with
  | binary operator position left =>
      cases hleft : left.value scope with
      | error cause' => exact Or.inr (blocks_of_left (fun _ => List.mem_pair.mpr (.inl rfl)) hleft)
      | ok x =>
          simp only [Frame.close, Tree.value, hleft, h]
          exact Or.inl rfl
  | adjoined left =>
      cases hleft : left.value scope with
      | error cause' => exact Or.inr (blocks_of_left (fun _ => List.mem_pair.mpr (.inl rfl)) hleft)
      | ok x =>
          simp only [Frame.close, Tree.value, hleft, h]
          exact Or.inl rfl
  | sign negative =>
      cases negative with
      | true =>
          simp only [Frame.close, Tree.value, h]
          exact Or.inl rfl
      | false => exact Or.inl h
  | group opening => exact Or.inl h
  | call function position opening =>
      cases hfunction : scope.find? function with
      | none =>
          refine Or.inr fun argument value hvalue => ?_
          cases hvalue with
          | call _ hfound _ _ =>
              rw [hfunction] at hfound
              cases hfound
      | some operation =>
          simp only [Frame.close, Tree.value, hfunction, h]
          exact Or.inl rfl

/-- An error inside frames is the error of the whole, unless one of the frames has no value
anyway. -/
theorem value_closeAll_of_error {cause : Error} (h : tree.value scope = .error cause) :
    (closeAll frames tree).value scope = .error cause ∨ ∃ frame ∈ frames, frame.Blocks scope := by
  induction frames generalizing tree with
  | nil => exact Or.inl h
  | cons frame frames ih =>
      rcases frame.value_close_of_error h with hclosed | hblocks
      · rcases ih hclosed with hvalue | ⟨blocking, hmem, hblocks⟩
        · exact Or.inl hvalue
        · exact Or.inr ⟨blocking, List.mem_cons_of_mem _ hmem, hblocks⟩
      · exact Or.inr ⟨frame, List.mem_cons_self, hblocks⟩

/-- Nothing that is left open is as tight as what was closed. Closing once more with the same rank
therefore closes nothing. -/
theorem loose_reduce (rank : Nat) (frames : List Frame) (tree : Tree) :
    Loose rank (reduce rank frames tree).1 := by
  induction frames generalizing tree with
  | nil => exact loose_nil rank
  | cons frame frames ih =>
      simp only [Expression.reduce]
      split
      · exact ih _
      · exact loose_cons (Nat.lt_of_not_le ‹_›)

namespace Progress

/-- Something that has been read has no value in the scope, so that whatever follows, the whole has
none. -/
inductive Blocked (scope : Scope) : Progress → Prop where
  | operand {frames : List Frame} (h : ∃ frame ∈ frames, frame.Blocks scope) :
      Blocked scope (.operand frames)
  | named {frames : List Frame} (h : ∃ frame ∈ frames, frame.Blocks scope) (name : String)
      (position : Nat) : Blocked scope (.named frames name position)
  | complete {frames : List Frame} {tree : Tree} (h : Obstructed scope frames tree) :
      Blocked scope (.complete frames tree)
  | stopped {tree : Tree} (h : ∀ value, ¬ tree.Evaluates scope value) :
      Blocked scope (.stopped tree)

theorem blocked_fail (frames : List Frame) (cause : Error) : (fail frames cause).Blocked scope :=
  .stopped ((fault_fails cause).closeAll frames scope)

theorem blocked_enter {frame : Frame}
    (h : ∃ blocking ∈ frame :: frames, blocking.Blocks scope) :
    (enter frame frames).Blocked scope := by
  unfold enter
  split
  · exact .operand h
  · exact blocked_fail _ _

theorem blocked_readOperand (h : ∃ frame ∈ frames, frame.Blocks scope) (token : Token) :
    (readOperand frames token).Blocked scope := by
  have hentered (frame : Frame) : (enter frame frames).Blocked scope := by
    obtain ⟨blocking, hmem, hblocks⟩ := h
    exact blocked_enter ⟨blocking, List.mem_cons_of_mem _ hmem, hblocks⟩
  unfold readOperand
  split
  · exact .complete (Or.inl h)
  · exact .named h _ _
  · exact hentered _
  · exact hentered _
  · exact hentered _
  · exact blocked_fail _ _

/-- What cannot stand after an operand leaves no value. The reader has stopped then, and the tree
that it leaves has a fault in it. -/
theorem exists_readForeign (frames : List Frame) (tree : Tree) (cause : Error) :
    ∃ result, readForeign frames tree cause = .stopped result ∧ result.Fails := by
  simp only [readForeign]
  split <;> exact ⟨_, rfl, (broken_fails _ _).closeAll _⟩

theorem blocked_readClosing (h : Obstructed scope frames tree) (position : Nat) :
    (readClosing frames tree position).Blocked scope := by
  have hreduced := h.reduce 1
  unfold readClosing
  generalize reduce 1 frames tree = reduced at *
  obtain ⟨outer, operand⟩ := reduced
  cases outer with
  | nil => exact .stopped (broken_fails _ _ scope)
  | cons frame outer => exact .complete hreduced.close

theorem blocked_readAfter (h : Obstructed scope frames tree) (token : Token) :
    (readAfter frames tree token).Blocked scope := by
  have hbinary (operator : Binary) (position : Nat) :=
    (h.reduce operator.rank).left (.binary operator position _)
      fun _ => List.mem_pair.mpr (Or.inl rfl)
  have hadjoined := (h.reduce Binary.multiply.rank).left (.adjoined _)
    fun _ => List.mem_pair.mpr (Or.inl rfl)
  obtain ⟨lexeme, position⟩ := token
  cases lexeme with
  | number value =>
      obtain ⟨result, hresult, hfails⟩ := exists_readForeign frames tree
        (.unexpectedToken (.number value) position)
      simp only [readAfter, hresult]
      exact .stopped (hfails scope)
  | name name => exact blocked_readOperand hadjoined ⟨.name name, position⟩
  | opening => exact blocked_readOperand hadjoined ⟨.opening, position⟩
  | closing => exact blocked_readClosing h position
  | operator operator =>
      cases operator with
      | plus => exact .operand (hbinary .add position)
      | minus => exact .operand (hbinary .subtract position)
      | times => exact .operand (hbinary .multiply position)
      | divide => exact .operand (hbinary .divide position)
      | power =>
          exact blocked_enter (h.left (.binary .power position tree) fun _ =>
            List.mem_pair.mpr (Or.inl rfl))
      | bang => exact .complete (h.operand (List.mem_singleton_self tree))

/-- Nothing that is read later lifts an obstruction. A frame that was closed has left its lack of a
value to what is read now. -/
theorem Blocked.read {state : Progress} (h : state.Blocked scope) (token : Token) :
    (state.read token).Blocked scope := by
  cases h with
  | operand h => exact blocked_readOperand h token
  | named h name position =>
      simp only [Progress.read]
      split
      · obtain ⟨blocking, hmem, hblocks⟩ := h
        exact blocked_enter ⟨blocking, List.mem_cons_of_mem _ hmem, hblocks⟩
      · exact blocked_readAfter (Or.inl h) token
  | complete h => exact blocked_readAfter h token
  | stopped h => exact .stopped h

theorem Blocked.foldl {state : Progress} (h : state.Blocked scope) (tokens : List Token) :
    (tokens.foldl Progress.read state).Blocked scope := by
  induction tokens generalizing state with
  | nil => exact h
  | cons token rest ih => exact ih (h.read token)

theorem not_evaluates_finishValue (h : Obstructed scope frames tree) :
    ∀ value, ¬ (finishValue frames tree).Evaluates scope value := by
  have hreduced := h.reduce 1
  have hloose := loose_reduce 1 frames tree
  unfold finishValue
  generalize reduce 1 frames tree = reduced at *
  obtain ⟨outer, operand⟩ := reduced
  cases outer with
  | nil => exact hreduced.resolve_left (by simp)
  | cons frame outer =>
      have hrank : frame.rank < 1 := hloose frame rfl
      cases frame with
      | binary operator =>
          cases operator <;> exact absurd hrank (by simp [Frame.rank, Binary.rank])
      | adjoined | sign => exact absurd hrank (by simp [Frame.rank, Binary.rank])
      | group | call => exact (broken_fails _ _).closeAll _ scope

theorem Blocked.finish {state : Progress} (h : state.Blocked scope) :
    ∀ value, ¬ state.finish.Evaluates scope value := by
  cases h with
  | operand => exact (fault_fails _).closeAll _ scope
  | named h name position => exact not_evaluates_finishValue (Or.inl h)
  | complete h => exact not_evaluates_finishValue h
  | stopped h => exact h

/-- The reader stopped at the depth limit, and nothing before that goes wrong: the limit is what an
evaluation reports. -/
def CutShort (scope : Scope) (state : Progress) : Prop :=
  ∃ tree, state = .stopped tree ∧ tree.value scope = .error .tooDeep

theorem CutShort.foldl {state : Progress} (h : state.CutShort scope) (tokens : List Token) :
    (tokens.foldl Progress.read state).CutShort scope := by
  obtain ⟨tree, rfl, hvalue⟩ := h
  exact ⟨tree, foldl_read_stopped tokens tree, hvalue⟩

theorem CutShort.value_finish {state : Progress} (h : state.CutShort scope) :
    state.finish.value scope = .error .tooDeep := by
  obtain ⟨tree, rfl, hvalue⟩ := h
  exact hvalue

/-- Where the limit stops the reader it is the error of the evaluation, unless a frame that is open
there has no value anyway. -/
theorem cutShort_or_blocks (frames : List Frame) :
    (fail frames .tooDeep).CutShort scope ∨ ∃ frame ∈ frames, frame.Blocks scope :=
  (value_closeAll_of_error rfl).imp_left fun hvalue => ⟨_, rfl, hvalue⟩

end Progress

end Reckoner.Expression
