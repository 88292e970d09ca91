import Mathlib.Data.List.Forall2
import Reckoner.Proofs.Expression.Obstruction

/-!
Reading up to values. One state of the reader covers another in a scope if both wait for the same,
what they have read has the same values there, and the second has no more rules open than the first.
The places of tokens and brackets make no difference, and neither does a multiplication sign before
a factor that can do without one. Covering is kept over tokens of the same lexemes, so both readings
end with trees of the same values, unless the depth limit stops the one that nests more deeply.
-/

namespace Reckoner.Expression

/-- Two evaluations come to the same value, or neither comes to one. The causes may differ, as they
hold places, and texts that are compared have their tokens at different ones. -/
inductive Coincide : Except Error Binary64 → Except Error Binary64 → Prop where
  | value (value : Binary64) : Coincide (.ok value) (.ok value)
  | failure (cause cause' : Error) : Coincide (.error cause) (.error cause')

theorem coincide_of_iff {result result' : Except Error Binary64}
    (h : ∀ value, result = .ok value ↔ result' = .ok value) : Coincide result result' := by
  cases result with
  | ok value =>
      rw [(h value).mp rfl]
      exact .value value
  | error cause =>
      cases result' with
      | ok value => cases (h value).mpr rfl
      | error cause' => exact .failure cause cause'

/-- In the scope the trees have the same value, or both have none. Why a tree has none is left out
of account, so trees with different faults are alike. -/
def Tree.Alike (scope : Scope) (tree other : Tree) : Prop :=
  ∀ value, tree.Evaluates scope value ↔ other.Evaluates scope value

variable {scope : Scope}

namespace Tree

theorem Alike.refl (tree : Tree) : tree.Alike scope tree := fun _ => Iff.rfl

theorem Alike.symm {tree other : Tree} (h : tree.Alike scope other) : other.Alike scope tree :=
  fun value => (h value).symm

theorem Alike.trans {tree other third : Tree} (h : tree.Alike scope other)
    (h' : other.Alike scope third) : tree.Alike scope third :=
  fun value => (h value).trans (h' value)

theorem Fails.alike {tree other : Tree} (h : tree.Fails) (h' : other.Fails) :
    tree.Alike scope other :=
  fun value => iff_of_false (h scope value) (h' scope value)

/-- Brackets keep the value of what they enclose, and have none where that has none. They only
matter for what binds to what. -/
theorem alike_group (tree : Tree) : tree.Alike scope (.group tree) := by
  intro value
  constructor
  · exact .group
  · intro h
    cases h with
    | group hinner => exact hinner

theorem alike_name (name : String) (position position' : Nat) :
    (Tree.name name position).Alike scope (.name name position') := by
  intro value
  constructor
  · intro h
    cases h with
    | constant _ hconstant => exact .constant position' hconstant
  · intro h
    cases h with
    | constant _ hconstant => exact .constant position hconstant

/-- A product has the same value with and without its sign. Both forms multiply, and neither can
fail but with an operand. -/
theorem alike_product (position : Nat) (left right : Tree) :
    (Tree.binary .multiply position left right).Alike scope (.adjoined left right) := by
  intro value
  constructor
  · intro h
    cases h with
    | multiply _ hleft hright => exact .adjoined hleft hright
  · intro h
    cases h with
    | adjoined hleft hright => exact .multiply position hleft hright

section Operations

variable {tree other left left' right right' : Tree}

theorem Alike.evaluates_binary (hleft : left.Alike scope left') (hright : right.Alike scope right')
    {operator : Binary} {position : Nat} {value : Binary64}
    (h : (Tree.binary operator position left right).Evaluates scope value) (position' : Nat) :
    (Tree.binary operator position' left' right').Evaluates scope value := by
  cases h with
  | add _ hx hy => exact .add position' ((hleft _).mp hx) ((hright _).mp hy)
  | subtract _ hx hy => exact .subtract position' ((hleft _).mp hx) ((hright _).mp hy)
  | multiply _ hx hy => exact .multiply position' ((hleft _).mp hx) ((hright _).mp hy)
  | divide _ hx hy hzero => exact .divide position' ((hleft _).mp hx) ((hright _).mp hy) hzero
  | power _ hx hy hpower => exact .power position' ((hleft _).mp hx) ((hright _).mp hy) hpower

theorem Alike.binary (hleft : left.Alike scope left') (hright : right.Alike scope right')
    (operator : Binary) (position position' : Nat) :
    (Tree.binary operator position left right).Alike scope
      (.binary operator position' left' right') :=
  fun _ => ⟨fun h => hleft.evaluates_binary hright h position',
    fun h => hleft.symm.evaluates_binary hright.symm h position⟩

theorem Alike.adjoined (hleft : left.Alike scope left') (hright : right.Alike scope right') :
    (Tree.adjoined left right).Alike scope (.adjoined left' right') :=
  (alike_product 0 left right).symm.trans
    ((hleft.binary hright .multiply 0 0).trans (alike_product 0 left' right'))

theorem Alike.negate (h : tree.Alike scope other) :
    (Tree.negate tree).Alike scope (.negate other) := by
  intro value
  constructor
  · intro hvalue
    cases hvalue with
    | negate hoperand => exact .negate ((h _).mp hoperand)
  · intro hvalue
    cases hvalue with
    | negate hoperand => exact .negate ((h _).mpr hoperand)

theorem Alike.plus (h : tree.Alike scope other) : (Tree.plus tree).Alike scope (.plus other) := by
  intro value
  constructor
  · intro hvalue
    cases hvalue with
    | plus hoperand => exact .plus ((h _).mp hoperand)
  · intro hvalue
    cases hvalue with
    | plus hoperand => exact .plus ((h _).mpr hoperand)

theorem Alike.call (h : tree.Alike scope other) (function : String) (position position' : Nat) :
    (Tree.call function position tree).Alike scope (.call function position' other) := by
  intro value
  constructor
  · intro hvalue
    cases hvalue with
    | call _ hfunction hargument hresult =>
        exact .call position' hfunction ((h _).mp hargument) hresult
  · intro hvalue
    cases hvalue with
    | call _ hfunction hargument hresult =>
        exact .call position hfunction ((h _).mpr hargument) hresult

theorem Alike.factorial (h : tree.Alike scope other) :
    (Tree.factorial tree).Alike scope (.factorial other) := by
  intro value
  constructor
  · intro hvalue
    cases hvalue with
    | factorial hoperand hfactorial => exact .factorial ((h _).mp hoperand) hfactorial
  · intro hvalue
    cases hvalue with
    | factorial hoperand hfactorial => exact .factorial ((h _).mpr hoperand) hfactorial

end Operations

end Tree

/-- The frames were opened by the same, after left sides that are alike, or the first by a
multiplication sign and the second without one. The second has no more rules open then, because a
factor that has no sign of its own is read without the rule for signs. -/
inductive Frame.Covers (scope : Scope) : Frame → Frame → Prop where
  | binary (operator : Binary) (position position' : Nat) {left left' : Tree}
      (hleft : left.Alike scope left') :
      Covers scope (.binary operator position left) (.binary operator position' left')
  | adjoined {left left' : Tree} (hleft : left.Alike scope left') :
      Covers scope (.adjoined left) (.adjoined left')
  | product (position : Nat) {left left' : Tree} (hleft : left.Alike scope left') :
      Covers scope (.binary .multiply position left) (.adjoined left')
  | sign (negative : Bool) : Covers scope (.sign negative) (.sign negative)
  | group (opening opening' : Nat) : Covers scope (.group opening) (.group opening')
  | call (function : String) (position opening position' opening' : Nat) :
      Covers scope (.call function position opening) (.call function position' opening')

namespace Frame

variable {frame other : Frame}

theorem Covers.refl (frame : Frame) : frame.Covers scope frame := by
  cases frame with
  | binary operator position left => exact .binary operator _ _ (.refl left)
  | adjoined left => exact .adjoined (.refl left)
  | sign negative => exact .sign negative
  | group opening => exact .group _ _
  | call function position opening => exact .call function _ _ _ _

theorem Covers.rank_eq (h : frame.Covers scope other) : frame.rank = other.rank := by
  cases h <;> rfl

theorem Covers.depth_le (h : frame.Covers scope other) : other.depth ≤ frame.depth := by
  cases h with
  | binary operator => cases operator <;> exact Int.le_refl _
  | adjoined | sign | group | call => exact Int.le_refl _
  | product => exact (by decide : (-1 : Int) ≤ 0)

/-- What stands in frames of which one covers the other is alike if it is alike by itself. The
frames add an operation on the right of the same operands, so this is a congruence. -/
theorem Covers.close {tree tree' : Tree} (h : frame.Covers scope other)
    (htree : tree.Alike scope tree') : (frame.close tree).Alike scope (other.close tree') := by
  cases h with
  | binary operator position position' hleft => exact hleft.binary htree operator _ _
  | adjoined hleft => exact hleft.adjoined htree
  | product position hleft =>
      exact (hleft.binary htree .multiply _ _).trans (Tree.alike_product position _ _)
  | sign negative =>
      cases negative with
      | true => exact htree.negate
      | false => exact htree.plus
  | group opening opening' =>
      exact (Tree.alike_group tree).symm.trans (htree.trans (Tree.alike_group tree'))
  | call function position opening position' opening' => exact htree.call function _ _

theorem Covers.blocks (h : frame.Covers scope other) (hblocks : frame.Blocks scope) :
    other.Blocks scope :=
  fun tree value hvalue => hblocks tree value ((h.close (.refl tree) value).mpr hvalue)

end Frame

/-- The same frames are open, but for places and multiplication signs. It is stated frame by frame,
so that whatever closes or opens one keeps it. -/
abbrev FramesCover (scope : Scope) : List Frame → List Frame → Prop :=
  List.Forall₂ (Frame.Covers scope)

theorem FramesCover.refl (frames : List Frame) : FramesCover scope frames frames :=
  List.forall₂_same.mpr fun frame _ => .refl frame

variable {frames others : List Frame} {tree tree' : Tree}

theorem FramesCover.openDepth_le (h : FramesCover scope frames others) :
    openDepth others ≤ openDepth frames := by
  induction h with
  | nil => exact Int.le_refl _
  | cons hframe _ ih => exact Int.add_le_add hframe.depth_le ih

theorem FramesCover.blocks (h : FramesCover scope frames others)
    (hblocks : ∃ frame ∈ frames, frame.Blocks scope) : ∃ other ∈ others, other.Blocks scope := by
  induction h with
  | nil => exact hblocks
  | cons hframe _ ih =>
      obtain ⟨blocking, hmem, hblocking⟩ := hblocks
      rcases List.mem_cons.mp hmem with rfl | hmem
      · exact ⟨_, List.mem_cons_self, hframe.blocks hblocking⟩
      · obtain ⟨other, hother, hblocked⟩ := ih ⟨blocking, hmem, hblocking⟩
        exact ⟨other, List.mem_cons_of_mem _ hother, hblocked⟩

/-- Frames of which the first cover the second are closed together. They have the same ranks, so
both readings close equally many of them. -/
theorem FramesCover.reduce (h : FramesCover scope frames others) (htree : tree.Alike scope tree')
    (rank : Nat) :
    ∃ outer outer' inner inner', reduce rank frames tree = (outer, inner) ∧
      reduce rank others tree' = (outer', inner') ∧ FramesCover scope outer outer' ∧
      inner.Alike scope inner' := by
  induction h generalizing tree tree' with
  | nil => exact ⟨_, _, _, _, rfl, rfl, .nil, htree⟩
  | cons hframe hframes ih =>
      simp only [Expression.reduce, hframe.rank_eq]
      split
      · exact ih (hframe.close htree)
      · exact ⟨_, _, _, _, rfl, rfl, .cons hframe hframes, htree⟩

namespace Progress

/-- The second state waits for the same as the first, after operands of the same values and with no
more rules open. If the depth limit has stopped the first reading only, that is what it reports; if
it would report something else, an operand before the limit has no value in either reading. -/
inductive Covers (scope : Scope) : Progress → Progress → Prop where
  | operand {frames others : List Frame} (h : FramesCover scope frames others) :
      Covers scope (.operand frames) (.operand others)
  | named {frames others : List Frame} (h : FramesCover scope frames others) (name : String)
      (position position' : Nat) :
      Covers scope (.named frames name position) (.named others name position')
  | complete {frames others : List Frame} {tree tree' : Tree}
      (h : FramesCover scope frames others) (htree : tree.Alike scope tree') :
      Covers scope (.complete frames tree) (.complete others tree')
  | stopped {tree tree' : Tree} (h : tree.Alike scope tree') :
      Covers scope (.stopped tree) (.stopped tree')
  | cutShort {state other : Progress} (h : state.CutShort scope) : Covers scope state other
  | blocked {state other : Progress} (h : state.Blocked scope) (h' : other.Blocked scope) :
      Covers scope state other

theorem Covers.refl (state : Progress) : state.Covers scope state := by
  cases state with
  | operand frames => exact .operand (.refl frames)
  | named frames name position => exact .named (.refl frames) name position position
  | complete frames tree => exact .complete (.refl frames) (.refl tree)
  | stopped tree => exact .stopped (.refl tree)

theorem covers_fail (frames others : List Frame) (cause cause' : Error) :
    (fail frames cause).Covers scope (fail others cause') :=
  .stopped (((fault_fails cause).closeAll frames).alike ((fault_fails cause').closeAll others))

/-- Where one more frame fits in the first reading, it fits in the second. Where it does not, the
limit is what the first reading reports, or neither reading can have a value. -/
theorem covers_enter {frame other : Frame} (hframe : frame.Covers scope other)
    (h : FramesCover scope frames others) :
    (enter frame frames).Covers scope (enter other others) := by
  have hframes : FramesCover scope (frame :: frames) (other :: others) := .cons hframe h
  unfold enter
  by_cases hfits : openDepth (frame :: frames) ≤ depthLimit
  · have hfits' := Int.le_trans hframes.openDepth_le hfits
    rw [if_pos hfits, if_pos hfits']
    exact .operand hframes
  · rw [if_neg hfits]
    rcases cutShort_or_blocks (frame :: frames) with hcut | hblocks
    · exact .cutShort hcut
    · exact .blocked (blocked_fail _ _) (blocked_enter (hframes.blocks hblocks))

theorem covers_readOperand {token next : Token} (hlexeme : token.lexeme = next.lexeme)
    (h : FramesCover scope frames others) :
    (readOperand frames token).Covers scope (readOperand others next) := by
  obtain ⟨lexeme, position⟩ := token
  obtain ⟨_, position'⟩ := next
  obtain rfl : lexeme = _ := hlexeme
  cases lexeme with
  | number value => exact .complete h (.refl _)
  | name name => exact .named h name _ _
  | opening => exact covers_enter (.group _ _) h
  | closing => exact covers_fail _ _ _ _
  | operator operator =>
      cases operator with
      | plus => exact covers_enter (.sign false) h
      | minus => exact covers_enter (.sign true) h
      | times | divide | power | bang => exact covers_fail _ _ _ _

theorem covers_readForeign (frames others : List Frame) (tree tree' : Tree) (cause cause' : Error) :
    (readForeign frames tree cause).Covers scope (readForeign others tree' cause') := by
  obtain ⟨result, hresult, hfails⟩ := exists_readForeign frames tree cause
  obtain ⟨result', hresult', hfails'⟩ := exists_readForeign others tree' cause'
  rw [hresult, hresult']
  exact .stopped (hfails.alike hfails')

theorem covers_readClosing (h : FramesCover scope frames others) (htree : tree.Alike scope tree')
    (position position' : Nat) :
    (readClosing frames tree position).Covers scope (readClosing others tree' position') := by
  obtain ⟨outer, outer', inner, inner', hreduce, hreduce', houter, hinner⟩ := h.reduce htree 1
  simp only [readClosing]
  rw [hreduce, hreduce']
  cases houter with
  | nil => exact .stopped ((broken_fails _ _).alike (broken_fails _ _))
  | cons hframe hframes => exact .complete hframes (hframe.close hinner)

theorem covers_readBinary (operator : Binary) (h : FramesCover scope frames others)
    (htree : tree.Alike scope tree') (position position' : Nat) :
    (readBinary operator frames tree position).Covers scope
      (readBinary operator others tree' position') := by
  obtain ⟨outer, outer', left, left', hreduce, hreduce', houter, hleft⟩ :=
    h.reduce htree operator.rank
  simp only [readBinary]
  rw [hreduce, hreduce']
  exact .operand (.cons (.binary operator _ _ hleft) houter)

theorem covers_readAfter {token next : Token} (hlexeme : token.lexeme = next.lexeme)
    (h : FramesCover scope frames others) (htree : tree.Alike scope tree') :
    (readAfter frames tree token).Covers scope (readAfter others tree' next) := by
  obtain ⟨lexeme, position⟩ := token
  obtain ⟨_, position'⟩ := next
  obtain rfl : lexeme = _ := hlexeme
  cases lexeme with
  | number value => exact covers_readForeign _ _ _ _ _ _
  | name | opening =>
      obtain ⟨outer, outer', left, left', hreduce, hreduce', houter, hleft⟩ :=
        h.reduce htree Binary.multiply.rank
      simp only [readAfter]
      rw [hreduce, hreduce']
      exact covers_readOperand rfl (.cons (.adjoined hleft) houter)
  | closing => exact covers_readClosing h htree _ _
  | operator operator =>
      cases operator with
      | plus => exact covers_readBinary .add h htree _ _
      | minus => exact covers_readBinary .subtract h htree _ _
      | times => exact covers_readBinary .multiply h htree _ _
      | divide => exact covers_readBinary .divide h htree _ _
      | power => exact covers_enter (.binary .power _ _ htree) h
      | bang => exact .complete h htree.factorial

variable {state other : Progress}

/-- A state goes on covering another over a token of the same lexeme. Both readings do the same,
unless the depth limit stops the covering one alone. -/
theorem Covers.read (h : state.Covers scope other) {token next : Token}
    (hlexeme : token.lexeme = next.lexeme) :
    (state.read token).Covers scope (other.read next) := by
  cases h with
  | operand hframes => exact covers_readOperand hlexeme hframes
  | named hframes name position position' =>
      have hafter := covers_readAfter hlexeme hframes (Tree.alike_name name position position')
      simp only [Progress.read]
      rw [hlexeme]
      split
      · exact covers_enter (.call name _ _ _ _) hframes
      · exact hafter
  | complete hframes htree => exact covers_readAfter hlexeme hframes htree
  | stopped htree => exact .stopped htree
  | cutShort hcut => exact .cutShort (hcut.foldl [token])
  | blocked hblocked hblocked' => exact .blocked (hblocked.read token) (hblocked'.read next)

theorem Covers.foldl (h : state.Covers scope other) {tokens nexts : List Token}
    (htokens : List.Forall₂ (fun token next => token.lexeme = next.lexeme) tokens nexts) :
    (tokens.foldl Progress.read state).Covers scope (nexts.foldl Progress.read other) := by
  induction htokens generalizing state other with
  | nil => exact h
  | cons hlexeme _ ih => exact ih (h.read hlexeme)

theorem alike_finishValue (h : FramesCover scope frames others) (htree : tree.Alike scope tree') :
    (finishValue frames tree).Alike scope (finishValue others tree') := by
  obtain ⟨outer, outer', inner, inner', hreduce, hreduce', houter, hinner⟩ := h.reduce htree 1
  simp only [finishValue]
  rw [hreduce, hreduce']
  cases houter with
  | nil => exact hinner
  | cons hframe hframes =>
      cases hframe with
      | binary | adjoined | product | sign => exact hinner
      | group | call =>
          exact ((broken_fails _ _).closeAll _).alike ((broken_fails _ _).closeAll _)

/-- In the end the two readings come to the same value or to none, or the first reports the
limit. -/
theorem Covers.finish (h : state.Covers scope other) :
    state.finish.Alike scope other.finish ∨ state.finish.value scope = .error .tooDeep := by
  cases h with
  | operand hframes =>
      exact Or.inl (((fault_fails _).closeAll _).alike ((fault_fails _).closeAll _))
  | named hframes name position position' =>
      exact Or.inl (alike_finishValue hframes (Tree.alike_name name position position'))
  | complete hframes htree => exact Or.inl (alike_finishValue hframes htree)
  | stopped htree => exact Or.inl htree
  | cutShort hcut => exact Or.inr hcut.value_finish
  | blocked hblocked hblocked' =>
      exact Or.inl fun value => iff_of_false (hblocked.finish value) (hblocked'.finish value)

/-- Each of the states covers the other, so neither reading nests more deeply and the depth limit
makes no difference between them. -/
def Alike (scope : Scope) (state other : Progress) : Prop :=
  state.Covers scope other ∧ other.Covers scope state

theorem Alike.refl (state : Progress) : state.Alike scope state := ⟨.refl state, .refl state⟩

theorem alike_complete (frames : List Frame) (htree : tree.Alike scope tree') :
    (complete frames tree).Alike scope (complete frames tree') :=
  ⟨.complete (.refl frames) htree, .complete (.refl frames) htree.symm⟩

theorem alike_readAfter (frames : List Frame) (htree : tree.Alike scope tree') {token next : Token}
    (hlexeme : token.lexeme = next.lexeme) :
    (readAfter frames tree token).Alike scope (readAfter frames tree' next) :=
  ⟨covers_readAfter hlexeme (.refl frames) htree,
    covers_readAfter hlexeme.symm (.refl frames) htree.symm⟩

theorem Alike.foldl (h : state.Alike scope other) {tokens nexts : List Token}
    (htokens : List.Forall₂ (fun token next => token.lexeme = next.lexeme) tokens nexts) :
    (tokens.foldl Progress.read state).Alike scope (nexts.foldl Progress.read other) :=
  ⟨h.1.foldl htokens, h.2.foldl (htokens.flip.imp fun _ _ => Eq.symm)⟩

theorem Alike.finish (h : state.Alike scope other) : state.finish.Alike scope other.finish := by
  rcases h.1.finish with halike | hcut
  · exact halike
  rcases h.2.finish with halike | hcut'
  · exact halike.symm
  · -- Both readings report the limit, so neither has a value.
    intro value
    rw [← Tree.value_eq_ok_iff, ← Tree.value_eq_ok_iff, hcut, hcut']

end Progress

end Reckoner.Expression
