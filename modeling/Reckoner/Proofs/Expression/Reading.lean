import Reckoner.Proofs.Expression.Grammar

/-!
What the reader makes of a phrase of the grammar. While the tokens of a phrase are read, the frames
that were open before it stay untouched below those that the phrase opens; afterwards the frames on
top close to the tree of the phrase. If the phrase needs more open rules than are allowed, the
reader has stopped, and the depth is the first thing wrong with what it made of a phrase that has a
value. Both follow by induction on the derivation, for any frames that the phrase may stand in.
-/

namespace Reckoner.Expression

/-- The innermost frame, if any, holds what follows it less tightly than `rank`. So closing with
that rank leaves everything open. -/
def Loose (rank : Nat) (frames : List Frame) : Prop := ∀ frame ∈ frames.head?, frame.rank < rank

theorem Loose.mono {rank rank' : Nat} {frames : List Frame} (h : Loose rank frames)
    (hle : rank ≤ rank') : Loose rank' frames :=
  fun frame member => Nat.lt_of_lt_of_le (h frame member) hle

theorem loose_nil (rank : Nat) : Loose rank [] := by
  intro frame member
  cases member

theorem loose_cons {rank : Nat} {frame : Frame} {frames : List Frame} (h : frame.rank < rank) :
    Loose rank (frame :: frames) := by
  intro outer member
  cases member
  exact h

/-- No frame holds an operand as tightly as the mark of a factorial does. The mark can therefore be
read without closing anything. -/
theorem loose_five (frames : List Frame) : Loose 5 frames := by
  intro frame _
  cases frame with
  | binary operator => cases operator <;> simp [Frame.rank, Binary.rank]
  | adjoined | sign | group | call => simp [Frame.rank, Binary.rank]

theorem reduce_of_loose {rank : Nat} {frames : List Frame} (h : Loose rank frames) (tree : Tree) :
    reduce rank frames tree = (frames, tree) := by
  cases frames with
  | nil => rfl
  | cons frame rest =>
      have hrank : frame.rank < rank := h frame rfl
      simp [reduce, Nat.not_le_of_lt hrank]

/-- Tight frames on top of loose ones are closed one by one, and the loose ones stay open. It is how
a phrase is closed when the operator after it comes. -/
theorem reduce_append {rank : Nat} {inner frames : List Frame} (tree : Tree)
    (hinner : ∀ frame ∈ inner, rank ≤ frame.rank) (hframes : Loose rank frames) :
    reduce rank (inner ++ frames) tree = (frames, closeAll inner tree) := by
  induction inner generalizing tree with
  | nil => exact reduce_of_loose hframes tree
  | cons frame rest ih =>
      have hrank : rank ≤ frame.rank := hinner frame (by simp)
      simp only [List.cons_append, reduce, hrank, if_true]
      exact ih (frame.close tree) fun other member => hinner other (by simp [member])

/-- What was read of the tree before the depth limit. If the whole tree has a value, nothing in it
goes wrong before the limit does. -/
def Tree.CutsOff (cut tree : Tree) : Prop :=
  ∀ scope value, tree.Evaluates scope value → cut.value scope = .error .tooDeep

namespace Tree.CutsOff

variable {cut tree whole : Tree}

/-- An operand that is cut off cuts off the operation. The limit that stopped the reader in a part
is thus what the whole has stopped at. -/
theorem of_operand (h : cut.CutsOff tree) (htree : tree ∈ whole.operands) :
    cut.CutsOff whole := by
  intro scope value hvalue
  obtain ⟨x, hx⟩ := hvalue.operand htree
  exact h scope x hx

theorem close (h : cut.CutsOff tree) (frame : Frame) :
    (frame.close cut).CutsOff (frame.close tree) := by
  intro scope value hvalue
  cases frame with
  | binary operator position left =>
      obtain ⟨x, hleft⟩ := hvalue.operand (List.mem_pair.mpr (Or.inl rfl))
      obtain ⟨y, hright⟩ := hvalue.operand (List.mem_pair.mpr (Or.inr rfl))
      simp only [Frame.close, Tree.value, Tree.value_eq_ok_iff.mpr hleft, h scope y hright]
      rfl
  | adjoined left =>
      cases hvalue with
      | adjoined hleft hright =>
          simp only [Frame.close, Tree.value, Tree.value_eq_ok_iff.mpr hleft, h scope _ hright]
          rfl
  | sign negative =>
      cases negative with
      | true =>
          cases hvalue with
          | negate hoperand =>
              simp only [Frame.close, Tree.value, h scope _ hoperand]
              rfl
      | false =>
          cases hvalue with
          | plus hoperand => exact h scope _ hoperand
  | group opening =>
      cases hvalue with
      | group hinner => exact h scope _ hinner
  | call function position opening =>
      cases hvalue with
      | call _ hfunction hargument _ =>
          simp only [Frame.close, Tree.value, hfunction, h scope _ hargument]
          rfl

end Tree.CutsOff

namespace Progress

/-- An operand has just been read inside the frames. A bare name counts as one, although a bracket
would still make it the name of a function. -/
inductive Holds : Progress → List Frame → Tree → Prop where
  | complete (frames : List Frame) (tree : Tree) : Holds (.complete frames tree) frames tree
  | named (frames : List Frame) (name : String) (position : Nat) :
      Holds (.named frames name position) frames (.name name position)

theorem Holds.read {state : Progress} {frames : List Frame} {tree : Tree}
    (h : state.Holds frames tree) (token : Token)
    (hopening : token.lexeme = .opening → ∃ outer operand, state = .complete outer operand) :
    state.read token = readAfter frames tree token := by
  cases h with
  | complete => rfl
  | named name position =>
      cases hlexeme : token.lexeme with
      | opening =>
          obtain ⟨outer, operand, hstate⟩ := hopening hlexeme
          cases hstate
      | number | name | operator | closing => simp [Progress.read, hlexeme]

theorem Holds.finish {state : Progress} {frames : List Frame} {tree : Tree}
    (h : state.Holds frames tree) : state.finish = finishValue frames tree := by
  cases h <;> rfl

/-- What was read since the frames were opened forms the tree, once the frames that are still open
above them are closed. Those bind at least as tightly as `rank`. -/
def Pending (rank : Nat) (frames : List Frame) (tree : Tree) (state : Progress) : Prop :=
  ∃ inner operand, state.Holds (inner ++ frames) operand ∧
    (∀ frame ∈ inner, rank ≤ frame.rank) ∧ closeAll inner operand = tree

theorem Pending.mono {rank rank' : Nat} {frames : List Frame} {tree : Tree} {state : Progress}
    (h : state.Pending rank frames tree) (hle : rank' ≤ rank) :
    state.Pending rank' frames tree := by
  obtain ⟨inner, operand, hholds, hinner, htree⟩ := h
  exact ⟨inner, operand, hholds, fun frame member => Nat.le_trans hle (hinner frame member), htree⟩

theorem Holds.pending {state : Progress} {frames : List Frame} {tree : Tree} (rank : Nat)
    (h : state.Holds frames tree) : state.Pending rank frames tree :=
  ⟨[], tree, h, by simp, rfl⟩

/-- No frame is as tight as rank five, so nothing is open above the operand then. The phrase itself
is what the reader holds. -/
theorem Pending.holds {frames : List Frame} {tree : Tree} {state : Progress}
    (h : state.Pending 5 frames tree) : state.Holds frames tree := by
  obtain ⟨inner, operand, hholds, hinner, htree⟩ := h
  cases inner with
  | nil =>
      subst htree
      exact hholds
  | cons frame rest =>
      have htight : 5 ≤ frame.rank := hinner frame (by simp)
      have hloose : frame.rank < 5 := loose_five [frame] frame rfl
      omega

/-- A phrase inside a frame, and the frame itself, form a phrase outside it. Whoever closes the
frame later finds the same tree. -/
theorem Pending.close {rank : Nat} {frame : Frame} {frames : List Frame} {tree : Tree}
    {state : Progress} (h : state.Pending rank (frame :: frames) tree) (hrank : rank ≤ frame.rank) :
    state.Pending rank frames (frame.close tree) := by
  obtain ⟨inner, operand, hholds, hinner, htree⟩ := h
  refine ⟨inner ++ [frame], operand, by simpa using hholds, ?_, ?_⟩
  · intro other member
    rcases List.mem_append.mp member with old | last
    · exact hinner other old
    · obtain rfl := List.mem_singleton.mp last
      exact hrank
  · rw [← htree]
    simp [closeAll]

theorem Pending.reduce {rank : Nat} {frames : List Frame} {tree : Tree} {state : Progress}
    (h : state.Pending rank frames tree) (hloose : Loose rank frames) :
    ∃ opened operand, state.Holds opened operand ∧
      Expression.reduce rank opened operand = (frames, tree) := by
  obtain ⟨inner, operand, hholds, hinner, htree⟩ := h
  exact ⟨inner ++ frames, operand, hholds, htree ▸ reduce_append operand hinner hloose⟩

/-- An operator closes everything that binds at least as tightly, and waits for its right side. A
power closes nothing, and is left out here. -/
theorem Pending.read_binary {operator : Binary} {frames : List Frame} {tree : Tree}
    {state : Progress} (h : state.Pending operator.rank frames tree)
    (hoperator : operator ≠ .power) (hloose : Loose operator.rank frames) (position : Nat) :
    state.read ⟨.operator operator.symbol, position⟩ =
      .operand (.binary operator position tree :: frames) := by
  obtain ⟨opened, operand, hholds, hreduce⟩ := h.reduce hloose
  rw [hholds.read _ (by simp)]
  cases operator with
  | power => exact absurd rfl hoperator
  | add | subtract | multiply | divide =>
      simp only [readAfter, Binary.symbol, readBinary]
      rw [hreduce]

/-- A name or a bracket after a term closes everything that binds at least as tightly as a product,
and is read as the first token of a factor of it. -/
theorem Pending.read_adjoined {frames : List Frame} {tree : Tree} {state : Progress} {next : Token}
    (h : state.Pending 2 frames tree) (hloose : Loose 2 frames)
    (hnext : next.lexeme = .opening ∨ ∃ name, next.lexeme = .name name)
    (hopening : next.lexeme = .opening → ∃ outer operand, state = .complete outer operand) :
    state.read next = Progress.read (.operand (.adjoined tree :: frames)) next := by
  obtain ⟨opened, operand, hholds, hreduce⟩ := h.reduce hloose
  rw [hholds.read next hopening]
  rcases hnext with hnext | ⟨name, hnext⟩
  all_goals
    simp only [readAfter, hnext, Binary.rank]
    rw [hreduce]
    rfl

/-- A closing bracket completes the innermost bracket. Everything inside it binds more tightly and
is closed before. -/
theorem Pending.read_closing {bracket : Frame} {frames : List Frame} {tree : Tree}
    {state : Progress} (h : state.Pending 1 (bracket :: frames) tree) (hbracket : bracket.rank = 0)
    (position : Nat) :
    state.read ⟨.closing, position⟩ = .complete frames (bracket.close tree) := by
  have hloose : Loose 1 (bracket :: frames) := loose_cons (by omega)
  obtain ⟨opened, operand, hholds, hreduce⟩ := h.reduce hloose
  rw [hholds.read _ (by simp)]
  simp only [readAfter, readClosing]
  rw [hreduce]

/-- With no frame left below, the phrase is the whole expression, and ending the tokens gives its
tree. -/
theorem Pending.finish {tree : Tree} {state : Progress} (h : state.Pending 1 [] tree) :
    state.finish = tree := by
  obtain ⟨opened, operand, hholds, hreduce⟩ := h.reduce (loose_nil 1)
  rw [hholds.finish]
  simp only [finishValue]
  rw [hreduce]

/-- The reader is done with a phrase that needs `needed` open rules: it has its tree, or it has
stopped because that is too many. -/
structure Reached (needed : Int) (rank : Nat) (frames : List Frame) (tree : Tree)
    (state : Progress) :
    Prop where
  pending : needed ≤ depthLimit → state.Pending rank frames tree
  stopped : depthLimit < needed →
    ∃ cut, state = .stopped (closeAll frames cut) ∧ cut.CutsOff tree

theorem foldl_read_stopped (tokens : List Token) (tree : Tree) :
    tokens.foldl Progress.read (.stopped tree) = .stopped tree := by
  induction tokens with
  | nil => rfl
  | cons token rest ih => exact ih

theorem Reached.mono {needed : Int} {rank rank' : Nat} {frames : List Frame} {tree : Tree}
    {state : Progress} (h : state.Reached needed rank frames tree) (hle : rank' ≤ rank) :
    state.Reached needed rank' frames tree :=
  ⟨fun hfits => (h.pending hfits).mono hle, h.stopped⟩

/-- Entering a frame costs its depth, and then what is read inside costs its own. If the frame
itself is beyond the limit the reader stops at once. -/
theorem reached_enter {rank : Nat} (frame : Frame) (frames : List Frame) {tree : Tree}
    {tokens : List Token}
    (h : openDepth (frame :: frames) ≤ depthLimit →
      (tokens.foldl Progress.read (.operand (frame :: frames))).Reached
        (openDepth (frame :: frames) + tree.depth) rank (frame :: frames) tree) :
    (tokens.foldl Progress.read (enter frame frames)).Reached
      (openDepth (frame :: frames) + tree.depth) rank (frame :: frames) tree := by
  by_cases hfits : openDepth (frame :: frames) ≤ depthLimit
  · simp only [enter, hfits, if_true]
    exact h hfits
  · have hneeded : openDepth (frame :: frames) ≤ openDepth (frame :: frames) + tree.depth :=
      Int.le_add_of_nonneg_right tree.depth_nonneg
    simp only [enter, hfits, if_false, fail, foldl_read_stopped]
    exact ⟨fun hle => absurd (Int.le_trans hneeded hle) hfits,
      fun _ => ⟨.fault .tooDeep, rfl, fun _ _ _ => rfl⟩⟩

theorem Reached.of_iff {needed needed' : Int} {rank : Nat} {frames : List Frame} {tree : Tree}
    {state : Progress} (h : state.Reached needed rank frames tree)
    (hiff : needed ≤ depthLimit ↔ needed' ≤ depthLimit) :
    state.Reached needed' rank frames tree :=
  ⟨fun hfits => h.pending (hiff.mpr hfits), fun hdeep => h.stopped (by omega)⟩

theorem Reached.close {needed : Int} {rank : Nat} {frame : Frame} {frames : List Frame}
    {tree : Tree} {state : Progress} (h : state.Reached needed rank (frame :: frames) tree)
    (hrank : rank ≤ frame.rank) : state.Reached needed rank frames (frame.close tree) := by
  refine ⟨fun hfits => (h.pending hfits).close hrank, fun hdeep => ?_⟩
  obtain ⟨cut, hstate, hcut⟩ := h.stopped hdeep
  exact ⟨frame.close cut, hstate, hcut.close frame⟩

theorem Reached.read_closing {needed : Int} {bracket : Frame} {frames : List Frame} {tree : Tree}
    {state : Progress} (h : state.Reached needed 1 (bracket :: frames) tree)
    (hbracket : bracket.rank = 0) (position : Nat) :
    (state.read ⟨.closing, position⟩).Reached needed 5 frames (bracket.close tree) := by
  constructor
  · intro hfits
    rw [(h.pending hfits).read_closing hbracket]
    exact (Holds.complete frames _).pending 5
  · intro hdeep
    obtain ⟨cut, hstate, hcut⟩ := h.stopped hdeep
    exact ⟨bracket.close cut, by rw [hstate]; rfl, hcut.close bracket⟩

/-- Reading on after a phrase: what follows matters only if the reader has not stopped in it. A
reader that has stopped reads past all the rest. -/
theorem Reached.andThen {needed needed' : Int} {rank rank' : Nat} {frames : List Frame}
    {tree tree' : Tree} {state : Progress} {tokens : List Token}
    (h : state.Reached needed rank frames tree) (hneeded : needed ≤ needed')
    (htree : tree ∈ tree'.operands)
    (hnext : needed ≤ depthLimit → state.Pending rank frames tree →
      (tokens.foldl Progress.read state).Reached needed' rank' frames tree') :
    (tokens.foldl Progress.read state).Reached needed' rank' frames tree' := by
  by_cases hfits : needed ≤ depthLimit
  · exact hnext hfits (h.pending hfits)
  · obtain ⟨cut, hstate, hcut⟩ := h.stopped (by omega)
    rw [hstate, foldl_read_stopped]
    exact ⟨fun hle => absurd (Int.le_trans hneeded hle) hfits,
      fun _ => ⟨cut, rfl, hcut.of_operand htree⟩⟩

theorem free_depth {operator : Binary} (hoperator : operator ≠ .power) (position : Nat)
    (left : Tree) : (Frame.binary operator position left).depth = 0 := by
  cases operator with
  | power => exact absurd rfl hoperator
  | add | subtract | multiply | divide => rfl

/-- The right side of an operation whose left side has been read within the limit. What the
operation needs is the larger of what its two sides need, the right one inside the frame. -/
theorem Reached.right {rank rank' : Nat} {frame : Frame} {left right : Tree} {frames : List Frame}
    {state : Progress}
    (h : state.Reached (openDepth (frame :: frames) + right.depth) rank (frame :: frames) right)
    (hdepth : (frame.close right).depth = max left.depth (frame.depth + right.depth))
    (hleft : openDepth frames + left.depth ≤ depthLimit) (hrank : rank' ≤ rank)
    (hframe : rank' ≤ frame.rank) :
    state.Reached (openDepth frames + (frame.close right).depth) rank' frames
      (frame.close right) := by
  apply ((h.mono hrank).close hframe).of_iff
  rw [openDepth, hdepth]
  omega

/-- Two sides of an operator that opens no rule of its own. The deeper of them is what counts, since
the left one is complete when the right one is read. If the limit is met on the left, it has stopped
the reader before the operator comes. -/
theorem reached_binary {rank : Nat} {operator : Binary} {position : Nat} {left right : Tree}
    {frames : List Frame} {before after : List Token} (hoperator : operator ≠ .power)
    (hloose : Loose operator.rank frames) (hopen : openDepth frames ≤ depthLimit)
    (hrank : operator.rank ≤ rank)
    (hleft : (before.foldl Progress.read (.operand frames)).Reached
      (openDepth frames + left.depth) operator.rank frames left)
    (hright : openDepth (.binary operator position left :: frames) ≤ depthLimit →
      (after.foldl Progress.read (.operand (.binary operator position left :: frames))).Reached
        (openDepth (.binary operator position left :: frames) + right.depth) rank
        (.binary operator position left :: frames) right) :
    ((before ++ ⟨.operator operator.symbol, position⟩ :: after).foldl Progress.read
      (.operand frames)).Reached
      (openDepth frames + (Tree.binary operator position left right).depth) operator.rank frames
      (.binary operator position left right) := by
  rw [List.foldl_append]
  have hneeded : openDepth frames + left.depth ≤
      openDepth frames + (Tree.binary operator position left right).depth := by
    simp only [Tree.depth]
    omega
  apply hleft.andThen hneeded (List.mem_pair.mpr (Or.inl rfl))
  intro hfits hpending
  rw [List.foldl_cons, hpending.read_binary hoperator hloose]
  have hopen' : openDepth (.binary operator position left :: frames) ≤ depthLimit := by
    simpa only [openDepth, free_depth hoperator, Int.zero_add] using hopen
  exact (hright hopen').right rfl hfits hrank (Nat.le_refl _)

/-- Entering a frame leaves the reader before an operand, or stopped. Only reading a name can leave
it at one. -/
theorem enter_ne_named (frame : Frame) (frames outer : List Frame) (name : String)
    (position : Nat) : enter frame frames ≠ .named outer name position := by
  unfold enter
  split <;> simp [fail]

theorem readOperand_eq_named {token : Token} {frames outer : List Frame} {name : String}
    {position : Nat} (h : readOperand frames token = .named outer name position) :
    token.lexeme = .name name := by
  unfold readOperand at h
  split at h
  case h_2 spelling hlexeme =>
    cases h
    exact hlexeme
  case h_3 | h_4 | h_5 => exact absurd h (enter_ne_named _ _ _ _ _)
  all_goals simp [fail] at h

theorem readAfter_eq_named {token : Token} {frames outer : List Frame} {tree : Tree}
    {name : String} {position : Nat}
    (h : readAfter frames tree token = .named outer name position) : token.lexeme = .name name := by
  unfold readAfter at h
  split at h
  case h_5 => exact absurd h (enter_ne_named _ _ _ _ _)
  case h_7 =>
    simp only [readClosing] at h
    split at h <;> cases h
  case h_8 =>
    simp only [readForeign] at h
    split at h <;> cases h
  case h_9 | h_10 => exact readOperand_eq_named h
  all_goals simp [readBinary] at h

/-- Only a name leaves the reader waiting for what the name means. So a bracket is that of a call
only if a name stands before it. -/
theorem read_eq_named {state : Progress} {token : Token} {frames : List Frame} {name : String}
    {position : Nat} (h : state.read token = .named frames name position) :
    token.lexeme = .name name := by
  cases state with
  | operand outer => exact readOperand_eq_named h
  | named outer spelling start =>
      simp only [Progress.read] at h
      split at h
      · exact absurd h (enter_ne_named _ _ _ _ _)
      · exact readAfter_eq_named h
  | complete outer tree => exact readAfter_eq_named h
  | stopped tree => cases h

end Progress

/-- What may begin a factor without an operator: a bracket or a name. A number does not, nor does a
sign. -/
theorem next_of_adjoins {last next : Token} (h : last.adjoins next = true) :
    next.lexeme = .opening ∨ ∃ name, next.lexeme = .name name := by
  unfold Token.adjoins at h
  split at h
  case h_1 => cases h
  case h_2 hnext => exact Or.inr ⟨_, hnext⟩
  case h_3 hnext _ => exact Or.inl hnext
  case h_4 => cases h

/-- A bracket that begins a factor does not follow a bare name, so the reader has an operand. After
a bare name it would be that of a call. -/
theorem complete_of_adjoins {last next : Token} {before : List Token} {rank : Nat}
    {state : Progress} {frames : List Frame} {tree : Tree} (h : last.adjoins next = true)
    (hpending : ((before ++ [last]).foldl Progress.read state).Pending rank frames tree)
    (hnext : next.lexeme = .opening) :
    ∃ outer operand, (before ++ [last]).foldl Progress.read state = .complete outer operand := by
  obtain ⟨inner, operand, hholds, -, -⟩ := hpending
  rw [List.foldl_append, List.foldl_cons, List.foldl_nil] at hholds ⊢
  cases hstate : (before.foldl Progress.read state).read last with
  | complete outer read => exact ⟨outer, read, rfl⟩
  | named outer name position =>
      have hlast := Progress.read_eq_named hstate
      simp [Token.adjoins, hlast, hnext] at h
  | operand | stopped =>
      rw [hstate] at hholds
      cases hholds

/-- How tightly a phrase of the category binds the operands that stand open at its end. An operator
of at most this rank ends the phrase, and one that binds more tightly takes its last operand. -/
def Category.rank : Category → Nat
  | expression => 1
  | term => 2
  | unary | power => 3
  | factorial | primary => 5

/-- The frames that a phrase may stand in hold it less tightly than this. It differs from the rank
of the phrase for signs and powers, which may stand to the right of a power. -/
def Category.outerRank : Category → Nat
  | expression => 1
  | term => 2
  | unary | power | factorial | primary => 5

open Progress in
/-- Reading a phrase inside frames that it may stand in. The induction is on the derivation, and the
depth of the tree says whether the limit stops the reader. It is generalized over the frames, since
every rule opens its own. -/
theorem Derives.reached {category : Category} {tokens : List Token} {tree : Tree}
    (h : Derives category tokens tree) (frames : List Frame)
    (hloose : Loose category.outerRank frames) (hopen : openDepth frames ≤ depthLimit) :
    (tokens.foldl Progress.read (.operand frames)).Reached (openDepth frames + tree.depth)
      category.rank frames tree := by
  induction h generalizing frames with
  | number value position =>
      rw [Tree.depth, Int.add_zero]
      exact ⟨fun _ => (Holds.complete frames _).pending _,
        fun hdeep => absurd hopen (Int.not_le_of_gt hdeep)⟩
  | name name position =>
      rw [Tree.depth, Int.add_zero]
      exact ⟨fun _ => (Holds.named frames _ _).pending _,
        fun hdeep => absurd hopen (Int.not_le_of_gt hdeep)⟩
  | @call _ argument function position opening closing _ ih =>
      have hinner := reached_enter (.call function position opening) frames
        (fun hfits => ih _ (loose_cons Nat.one_pos) hfits)
      have hclosed := hinner.read_closing rfl closing
      simp only [List.foldl_cons, List.foldl_append, List.foldl_nil]
      apply hclosed.of_iff
      simp only [openDepth, Tree.depth, Frame.depth]
      omega
  | @group _ inner opening closing _ ih =>
      have hinner := reached_enter (.group opening) frames
        (fun hfits => ih _ (loose_cons Nat.one_pos) hfits)
      have hclosed := hinner.read_closing rfl closing
      simp only [List.foldl_cons, List.foldl_append, List.foldl_nil]
      apply hclosed.of_iff
      simp only [openDepth, Tree.depth, Frame.depth]
      omega
  | ofPrimary _ ih => exact ih frames hloose hopen
  | @factorial _ operand position _ ih =>
      rw [List.foldl_append]
      apply (ih frames hloose hopen).andThen (Int.le_refl _) (List.mem_singleton_self _)
      intro hfits hpending
      have hread := hpending.holds.read ⟨.operator .bang, position⟩ (by simp)
      simp only [List.foldl_cons, List.foldl_nil, hread]
      exact ⟨fun _ => (Holds.complete frames _).pending _,
        fun hdeep => absurd hfits (Int.not_le_of_gt hdeep)⟩
  | ofFactorial _ ih => exact (ih frames hloose hopen).mono (by decide)
  | @power _ _ base exponent position _ _ ihbase ihexponent =>
      rw [List.foldl_append]
      have hneeded : openDepth frames + base.depth ≤
          openDepth frames + (Tree.binary .power position base exponent).depth := by
        simp only [Tree.depth]
        omega
      apply (ihbase frames hloose hopen).andThen hneeded (List.mem_pair.mpr (Or.inl rfl))
      intro hfits hpending
      have hread := hpending.holds.read ⟨.operator .power, position⟩ (by simp)
      rw [List.foldl_cons, hread]
      have hinner := reached_enter (.binary .power position base) frames
        (fun hfits => ihexponent _ (loose_five _) hfits)
      exact hinner.right rfl hfits (Nat.le_refl 3) (Nat.le_succ 3)
  | ofPower _ ih => exact ih frames hloose hopen
  | @sign _ operand negative position _ ih =>
      have hinner := reached_enter (.sign negative) frames
        (fun hfits => ih _ (loose_five _) hfits)
      have hread : Progress.read (.operand frames) ⟨.operator (signSymbol negative), position⟩ =
          enter (.sign negative) frames := by
        cases negative <;> rfl
      have hclose : (Frame.sign negative).close operand = signed negative operand := by
        cases negative <;> rfl
      have hdepth : (signed negative operand).depth = 1 + operand.depth := by
        cases negative <;> rfl
      rw [List.foldl_cons, hread, ← hclose]
      apply (hinner.close (Nat.le_refl 3)).of_iff
      simp only [openDepth, Frame.depth, hclose, hdepth]
      omega
  | ofUnary _ ih => exact (ih frames (loose_five frames) hopen).mono (by decide)
  | product position hoperator _ _ ihl ihr =>
      rcases hoperator with rfl | rfl
      · exact reached_binary (by decide) hloose hopen (by decide) (ihl frames hloose hopen)
          fun hfits => ihr _ (loose_five _) hfits
      · exact reached_binary (by decide) hloose hopen (by decide) (ihl frames hloose hopen)
          fun hfits => ihr _ (loose_five _) hfits
  | @adjoined before after last next left right hadjoins _ _ ihl ihr =>
      rw [List.foldl_append]
      have hneeded : openDepth frames + left.depth ≤
          openDepth frames + (Tree.adjoined left right).depth := by
        simp only [Tree.depth]
        omega
      apply (ihl frames hloose hopen).andThen hneeded (List.mem_pair.mpr (Or.inl rfl))
      intro hfits hpending
      have hnext := next_of_adjoins hadjoins
      have hopening := complete_of_adjoins hadjoins hpending
      have hopen' : openDepth (.adjoined left :: frames) ≤ depthLimit := by
        simp only [openDepth, Frame.depth]
        omega
      rw [List.foldl_cons, hpending.read_adjoined hloose hnext hopening, ← List.foldl_cons]
      exact (ihr _ (loose_five _) hopen').right rfl hfits (by decide) (Nat.le_refl 2)
  | ofTerm _ ih => exact (ih frames (hloose.mono (by decide)) hopen).mono (by decide)
  | sum position hoperator _ _ ihl ihr =>
      rcases hoperator with rfl | rfl
      · exact reached_binary (by decide) hloose hopen (by decide) (ihl frames hloose hopen)
          fun hfits => ihr _ (loose_cons (Nat.lt_succ_self 1)) hfits
      · exact reached_binary (by decide) hloose hopen (by decide) (ihl frames hloose hopen)
          fun hfits => ihr _ (loose_cons (Nat.lt_succ_self 1)) hfits

end Reckoner.Expression
