import Reckoner.Proofs.Expression.Lexing
import Reckoner.Proofs.Expression.Parsing

/-!
Nothing but nesting exhausts the reader. A chain of sums, products or factorials is complete up to
its last operator, so however long it is, it keeps nothing open; only brackets, calls, signs and
exponents do. The depth limit can therefore be met only at a place that lies inside many of these.
The place is described by the grammar, through the frames that are open after the tokens before it,
and not by what the reader made of them.
-/

namespace Reckoner.Expression

/-- Does the frame keep something open around its last part? The left operand of a sum, a product or
a quotient is complete, that of a power still awaits its exponent. -/
def Frame.nests : Frame → Bool
  | .binary operator _ _ => operator = .power
  | .adjoined _ => false
  | .sign _ | .group _ | .call .. => true

/-- How many brackets, calls, signs and exponents are open in the frames. Left operands are
complete, so they do not count however deep they are. -/
def nesting (frames : List Frame) : Nat := frames.countP Frame.nests

theorem nesting_cons (frame : Frame) (frames : List Frame) :
    nesting (frame :: frames) = nesting frames + if frame.nests then 1 else 0 :=
  List.countP_cons

/-- The evaluation comes to the last part of the frame: its left operand has a value, or its
function is known. -/
def Frame.Admits (scope : Scope) : Frame → Prop
  | .binary _ _ left | .adjoined left => ∃ x, left.Evaluates scope x
  | .call function _ _ => ∃ operation, scope.find? function = some operation
  | .sign _ | .group _ => True

/-- On its way through the tokens the parse comes to a place inside the frames: they are open after
some of the tokens, and nothing has gone wrong before. -/
def ComesInside (scope : Scope) (read : List Token) (frames : List Frame) : Prop :=
  ∃ promised before, before <+: read ∧ Opens promised frames before ∧
    ∀ frame ∈ frames, frame.Admits scope

/-- Seven rules are open at most for each thing that nests, and none for what does not. So a bound
on what nests bounds the rules. -/
theorem openDepth_le_nesting (frames : List Frame) : openDepth frames ≤ 7 * nesting frames := by
  induction frames with
  | nil => exact Int.le_refl 0
  | cons frame rest ih =>
      have hframe : frame.depth ≤ 7 * if frame.nests then 1 else 0 := by
        cases frame with
        | binary operator => cases operator <;> simp [Frame.depth, Frame.nests]
        | adjoined | sign | group | call => simp [Frame.depth, Frame.nests]
      rw [openDepth, nesting_cons]
      push_cast
      omega

/-- The depth limit is not what stopped the reading anywhere in the tree. Other faults may be in it,
and nothing is said about its value. -/
def Tree.Uncut : Tree → Prop
  | .number _ | .name .. => True
  | .call _ _ operand | .group operand | .plus operand | .negate operand | .factorial operand =>
    operand.Uncut
  | .binary _ _ left right | .adjoined left right => left.Uncut ∧ right.Uncut
  | .fault cause => cause ≠ .tooDeep
  | .broken read cause => read.Uncut ∧ cause ≠ .tooDeep

def Frame.Uncut : Frame → Prop
  | .binary _ _ left | .adjoined left => left.Uncut
  | .sign _ | .group _ | .call .. => True

theorem bind_eq_error_iff {α β : Type} {step : Except Error α} {next : α → Except Error β}
    {cause : Error} :
    step >>= next = .error cause ↔
      step = .error cause ∨ ∃ a, step = .ok a ∧ next a = .error cause := by
  cases step with
  | error cause => simp [bind, Except.bind]
  | ok a => simp [bind, Except.bind]

theorem mapError_math_ne_tooDeep {α : Type} (step : Except MathError α) :
    step.mapError Error.math ≠ .error .tooDeep := by
  cases step <;> simp [Except.mapError]

theorem factorial_ne_tooDeep (x : Binary64) : factorial x ≠ .error .tooDeep := by
  unfold factorial
  split
  · simp
  · simp
  · split
    · split
      · simp
      · split <;> simp
    · exact mapError_math_ne_tooDeep _

theorem Binary.apply_ne_tooDeep (operator : Binary) (position : Nat) (x y : Binary64) :
    operator.apply position x y ≠ .error .tooDeep := by
  cases operator with
  | add | subtract | multiply => simp [Binary.apply]
  | divide =>
      simp only [Binary.apply]
      split <;> simp
  | power => exact mapError_math_ne_tooDeep _

theorem nameValue_ne_tooDeep (scope : Scope) (name : String) (position : Nat) :
    nameValue scope name position ≠ .error .tooDeep := by
  unfold nameValue
  split
  · simp
  · split <;> simp

/-- No step of an evaluation reports the depth limit of its own, so it must be in the tree if it is
reported. The induction is on the tree, and every operation is asked for the causes it can have. -/
theorem Tree.Uncut.value_ne_tooDeep {tree : Tree} (h : tree.Uncut) (scope : Scope) :
    tree.value scope ≠ .error .tooDeep := by
  induction tree with
  | number => simp [value]
  | name name position => exact nameValue_ne_tooDeep scope name position
  | call function position argument ih =>
      unfold value
      split
      · simp
      · intro hvalue
        rcases bind_eq_error_iff.mp hvalue with hargument | ⟨x, -, hresult⟩
        · exact ih h hargument
        · exact mapError_math_ne_tooDeep _ hresult
  | group inner ih | plus inner ih => exact ih h
  | negate operand ih =>
      intro hvalue
      rcases bind_eq_error_iff.mp hvalue with hoperand | ⟨x, -, hresult⟩
      · exact ih h hoperand
      · cases hresult
  | binary operator position left right ihl ihr =>
      intro hvalue
      rcases bind_eq_error_iff.mp hvalue with hleft | ⟨x, -, hrest⟩
      · exact ihl h.1 hleft
      · rcases bind_eq_error_iff.mp hrest with hright | ⟨y, -, hresult⟩
        · exact ihr h.2 hright
        · exact operator.apply_ne_tooDeep position x y hresult
  | adjoined left right ihl ihr =>
      intro hvalue
      rcases bind_eq_error_iff.mp hvalue with hleft | ⟨x, -, hrest⟩
      · exact ihl h.1 hleft
      · rcases bind_eq_error_iff.mp hrest with hright | ⟨y, -, hresult⟩
        · exact ihr h.2 hright
        · cases hresult
  | factorial operand ih =>
      intro hvalue
      rcases bind_eq_error_iff.mp hvalue with hoperand | ⟨x, -, hresult⟩
      · exact ih h hoperand
      · exact factorial_ne_tooDeep x hresult
  | fault cause => exact fun hvalue => h (Except.error.inj hvalue)
  | broken read cause ih =>
      intro hvalue
      rcases bind_eq_error_iff.mp hvalue with hread | ⟨x, -, hresult⟩
      · exact ih h.1 hread
      · exact h.2 (Except.error.inj hresult)

theorem Tree.Uncut.close {tree : Tree} (h : tree.Uncut) {frame : Frame} (hframe : frame.Uncut) :
    (frame.close tree).Uncut := by
  cases frame with
  | binary | adjoined => exact ⟨hframe, h⟩
  | sign negative => cases negative <;> exact h
  | group | call => exact h

/-- Where the limit is reported for a frame, it is reported for its last part, and the evaluation
has come to that. The left operand has a value then, and the function of a call exists. -/
theorem Frame.Uncut.tooDeep_inside {frame : Frame} (h : frame.Uncut) {scope : Scope} {tree : Tree}
    (hvalue : (frame.close tree).value scope = .error .tooDeep) :
    tree.value scope = .error .tooDeep ∧ frame.Admits scope := by
  cases frame with
  | binary operator position left =>
      rcases bind_eq_error_iff.mp hvalue with hleft | ⟨x, hleft, hrest⟩
      · exact absurd hleft (Tree.Uncut.value_ne_tooDeep h scope)
      · rcases bind_eq_error_iff.mp hrest with hright | ⟨y, -, hresult⟩
        · exact ⟨hright, x, Tree.value_eq_ok_iff.mp hleft⟩
        · exact absurd hresult (operator.apply_ne_tooDeep position x y)
  | adjoined left =>
      rcases bind_eq_error_iff.mp hvalue with hleft | ⟨x, hleft, hrest⟩
      · exact absurd hleft (Tree.Uncut.value_ne_tooDeep h scope)
      · rcases bind_eq_error_iff.mp hrest with hright | ⟨y, -, hresult⟩
        · exact ⟨hright, x, Tree.value_eq_ok_iff.mp hleft⟩
        · cases hresult
  | sign negative =>
      cases negative with
      | true =>
          rcases bind_eq_error_iff.mp hvalue with hoperand | ⟨x, -, hresult⟩
          · exact ⟨hoperand, trivial⟩
          · cases hresult
      | false => exact ⟨hvalue, trivial⟩
  | group opening => exact ⟨hvalue, trivial⟩
  | call function position opening =>
      simp only [close, Tree.value] at hvalue
      split at hvalue
      · cases hvalue
      · rename_i operation hfunction
        rcases bind_eq_error_iff.mp hvalue with hargument | ⟨x, -, hresult⟩
        · exact ⟨hargument, operation, hfunction⟩
        · exact absurd hresult (mapError_math_ne_tooDeep _)

section Frames

variable {frames : List Frame} {tree : Tree} (hframes : ∀ frame ∈ frames, frame.Uncut)

include hframes

theorem admits_of_tooDeep {scope : Scope}
    (hvalue : (closeAll frames tree).value scope = .error .tooDeep) :
    tree.value scope = .error .tooDeep ∧ ∀ frame ∈ frames, frame.Admits scope := by
  induction frames generalizing tree with
  | nil => exact ⟨hvalue, by simp⟩
  | cons frame rest ih =>
      obtain ⟨hframe, hrest⟩ := List.forall_mem_cons.mp hframes
      obtain ⟨hclosed, hadmits⟩ := ih hrest hvalue
      obtain ⟨htree, hhead⟩ := hframe.tooDeep_inside hclosed
      exact ⟨htree, List.forall_mem_cons.mpr ⟨hhead, hadmits⟩⟩

theorem uncut_closeAll (htree : tree.Uncut) : (closeAll frames tree).Uncut := by
  induction frames generalizing tree with
  | nil => exact htree
  | cons frame rest ih =>
      obtain ⟨hframe, hrest⟩ := List.forall_mem_cons.mp hframes
      exact ih hrest (htree.close hframe)

theorem uncut_reduce (rank : Nat) (htree : tree.Uncut) :
    (∀ frame ∈ (reduce rank frames tree).1, frame.Uncut) ∧ (reduce rank frames tree).2.Uncut := by
  induction frames generalizing tree with
  | nil => exact ⟨hframes, htree⟩
  | cons frame rest ih =>
      obtain ⟨hframe, hrest⟩ := List.forall_mem_cons.mp hframes
      rw [reduce]
      split
      · exact ih hrest (htree.close hframe)
      · exact ⟨hframes, htree⟩

end Frames

/-- The reader was stopped by the limit when it opened the innermost of the frames, after some of
the tokens. -/
def CutOpening (tokens : List Token) (tree : Tree) : Prop :=
  ∃ frames before, before <+: tokens ∧ Opens none frames before ∧
    (∀ frame ∈ frames, frame.Uncut) ∧ depthLimit < openDepth frames ∧
    tree = closeAll frames (.fault .tooDeep)

theorem CutOpening.append {before : List Token} {tree : Tree} (h : CutOpening before tree)
    (after : List Token) : CutOpening (before ++ after) tree := by
  obtain ⟨frames, opened, hprefix, hopens⟩ := h
  exact ⟨frames, opened, hprefix.trans (List.prefix_append before after), hopens⟩

namespace Progress

/-- Nothing has been cut by the limit, unless the reader has stopped there. Then it has stopped at
the opening of a frame, and the tokens say where. -/
def Sound (tokens : List Token) : Progress → Prop
  | operand frames | named frames _ _ => ∀ frame ∈ frames, frame.Uncut
  | complete frames tree => (∀ frame ∈ frames, frame.Uncut) ∧ tree.Uncut
  | stopped tree => tree.Uncut ∨ CutOpening tokens tree

variable {frames : List Frame} {tokens : List Token} {tree : Tree}

theorem sound_fail (h : ∀ frame ∈ frames, frame.Uncut) {cause : Error} (hcause : cause ≠ .tooDeep) :
    (fail frames cause).Sound tokens :=
  Or.inl (uncut_closeAll h hcause)

theorem sound_enter {frame : Frame} (hopens : Opens none (frame :: frames) tokens)
    (hframe : frame.Uncut) (h : ∀ frame ∈ frames, frame.Uncut) :
    (enter frame frames).Sound tokens := by
  have hall := List.forall_mem_cons.mpr ⟨hframe, h⟩
  unfold enter
  split
  · exact hall
  · exact Or.inr ⟨_, tokens, List.prefix_rfl, hopens, hall, Int.not_le.mp ‹_›, rfl⟩

theorem sound_readOperand {promised : Option Token} (hopens : Opens promised frames tokens)
    (h : ∀ frame ∈ frames, frame.Uncut) (token : Token) (hbegins : Begins promised [token])
    (hpromised : promised = none ∨ token.lexeme = .opening ∨ ∃ name, token.lexeme = .name name) :
    (readOperand frames token).Sound (tokens ++ [token]) := by
  obtain ⟨lexeme, position⟩ := token
  cases lexeme with
  | number value => exact ⟨h, trivial⟩
  | name name => exact h
  | opening => exact sound_enter (.group position hopens hbegins) trivial h
  | closing => exact sound_fail h (by simp)
  | operator operator =>
      obtain rfl : promised = none := by simpa using hpromised
      cases operator with
      | plus => exact sound_enter (.sign false position hopens) trivial h
      | minus => exact sound_enter (.sign true position hopens) trivial h
      | times | divide | power | bang => exact sound_fail h (by simp)

theorem sound_readForeign (h : ∀ frame ∈ frames, frame.Uncut) (htree : tree.Uncut) {cause : Error}
    (hcause : cause ≠ .tooDeep) : (readForeign frames tree cause).Sound tokens := by
  obtain ⟨houter, hread⟩ := uncut_reduce h 1 htree
  unfold readForeign
  generalize reduce 1 frames tree = reduced at *
  obtain ⟨outer, read⟩ := reduced
  dsimp only
  split
  · exact Or.inl (uncut_closeAll houter ⟨hread, by simp⟩)
  · exact Or.inl (uncut_closeAll houter ⟨hread, by simp⟩)
  · exact Or.inl (uncut_closeAll houter ⟨hread, hcause⟩)

theorem sound_readClosing (h : ∀ frame ∈ frames, frame.Uncut) (htree : tree.Uncut)
    (position : Nat) : (readClosing frames tree position).Sound tokens := by
  obtain ⟨houter, hread⟩ := uncut_reduce h 1 htree
  unfold readClosing
  generalize reduce 1 frames tree = reduced at *
  obtain ⟨outer, read⟩ := reduced
  cases outer with
  | nil => exact Or.inl ⟨hread, by simp⟩
  | cons frame outer =>
      obtain ⟨hframe, houter⟩ := List.forall_mem_cons.mp houter
      exact ⟨houter, hread.close hframe⟩

theorem sound_readBinary (h : ∀ frame ∈ frames, frame.Uncut) (htree : tree.Uncut)
    (operator : Binary) (position : Nat) :
    (readBinary operator frames tree position).Sound tokens := by
  obtain ⟨houter, hread⟩ := uncut_reduce h operator.rank htree
  exact List.forall_mem_cons.mpr ⟨hread, houter⟩

theorem sound_readAfter {promised : Option Token} {before after : List Token} {last : Token}
    (hopens : Opens promised frames before) (hafter : Derives .factorial (after ++ [last]) tree)
    (hbegins : Begins promised (after ++ [last])) (h : ∀ frame ∈ frames, frame.Uncut)
    (htree : tree.Uncut) (token : Token)
    (hopening : token.lexeme = .opening → ∀ name, last.lexeme ≠ .name name) :
    (readAfter frames tree token).Sound (before ++ (after ++ [last]) ++ [token]) := by
  have hadjoined (hadjoins : last.adjoins token = true) :
      (readOperand (.adjoined (reduce 2 frames tree).2 :: (reduce 2 frames tree).1) token).Sound
        (before ++ (after ++ [last]) ++ [token]) := by
    have hfactor := hopens.adjoin (.ofPower (.ofFactorial hafter)) hbegins hadjoins
    obtain ⟨houter, hleft⟩ := uncut_reduce h 2 htree
    exact sound_readOperand hfactor (List.forall_mem_cons.mpr ⟨hleft, houter⟩) token
      (begins_some token) (Or.inr (next_of_adjoins hadjoins))
  obtain ⟨lexeme, position⟩ := token
  cases lexeme with
  | number value => exact sound_readForeign h htree (by simp)
  | closing => exact sound_readClosing h htree position
  | name name =>
      apply hadjoined
      cases hlast : last.lexeme <;> simp [Token.adjoins, hlast]
  | opening =>
      apply hadjoined
      cases hlast : last.lexeme with
      | name name => exact absurd hlast (hopening rfl name)
      | number | operator | opening | closing => simp [Token.adjoins, hlast]
  | operator operator =>
      cases operator with
      | plus | minus | times | divide => exact sound_readBinary h htree _ position
      | power => exact sound_enter (.power position hopens hbegins hafter) htree h
      | bang => exact ⟨h, htree⟩

/-- One token further, the limit has cut nothing, or it has just now, or it had before. A token
opens one frame at most, and only that can meet the limit. -/
theorem sound_read {state : Progress} (hexplains : Explains tokens state)
    (h : state.Sound tokens) (token : Token) : (state.read token).Sound (tokens ++ [token]) := by
  cases hexplains with
  | operand hopens => exact sound_readOperand hopens h token (begins_none _) (Or.inl rfl)
  | @named promised frames before name position hopens hbegins =>
      by_cases hopening : token.lexeme = .opening
      · obtain ⟨lexeme, opening⟩ := token
        cases hopening
        rw [List.append_assoc]
        exact sound_enter (.call name position opening hopens hbegins) trivial h
      · rw [(Holds.named frames name position).read token fun heq => absurd heq hopening]
        have hname : Derives .factorial ([] ++ [⟨.name name, position⟩]) (.name name position) :=
          .ofPrimary (.name name position)
        exact sound_readAfter hopens hname hbegins h trivial token fun heq => absurd heq hopening
  | complete after last hopens hafter hbegins hlast =>
      exact sound_readAfter hopens hafter hbegins h.1 h.2 token fun _ => hlast
  | stopped => exact Or.imp_right (·.append [token]) h

theorem sound_foldl {before : List Token} {state : Progress} (hexplains : Explains before state)
    (h : state.Sound before) (after : List Token) :
    (after.foldl Progress.read state).Sound (before ++ after) := by
  induction after generalizing before state with
  | nil => simpa using h
  | cons token rest ih =>
      have hnext := ih (hexplains.read token) (sound_read hexplains h token)
      rwa [List.append_assoc, List.singleton_append] at hnext

theorem uncut_finishValue (h : ∀ frame ∈ frames, frame.Uncut) (htree : tree.Uncut) :
    (finishValue frames tree).Uncut := by
  obtain ⟨houter, hread⟩ := uncut_reduce h 1 htree
  unfold finishValue
  generalize reduce 1 frames tree = reduced at *
  obtain ⟨outer, read⟩ := reduced
  dsimp only
  split
  · exact uncut_closeAll houter ⟨hread, by simp⟩
  · exact uncut_closeAll houter ⟨hread, by simp⟩
  · exact hread

theorem Sound.finish {state : Progress} (h : state.Sound tokens) :
    state.finish.Uncut ∨ CutOpening tokens state.finish := by
  cases state with
  | operand frames => exact Or.inl (uncut_closeAll h (by simp [Tree.Uncut]))
  | named frames name position => exact Or.inl (uncut_finishValue h trivial)
  | complete frames tree => exact Or.inl (uncut_finishValue h.1 h.2)
  | stopped tree => exact h

end Progress

theorem uncut_or_cutOpening_ofTokens (read : List Token) :
    (Tree.ofTokens read).Uncut ∨ CutOpening read (Tree.ofTokens read) := by
  cases read with
  | nil => exact Or.inl (by simp [Tree.ofTokens, Tree.Uncut])
  | cons token rest =>
      have hstart : (Progress.operand []).Sound [] := by simp [Progress.Sound]
      exact (Progress.sound_foldl (.operand .start) hstart (token :: rest)).finish

theorem tokens_ne_tooDeep (text : String) : tokens text ≠ .error .tooDeep := by
  obtain ⟨segments, left, hreads, hleft⟩ := Reads.exists_reads 0 text.toList
  rw [tokens, hreads.tokensFrom_eq]
  rcases hleft with rfl | ⟨c, rest, rfl, hstuck⟩
  · rw [tokensFrom_nil]
    rintro ⟨⟩
  · rw [tokensFrom_of_stuck hstuck]
    rintro ⟨⟩

/-- Where the limit is reported, the parse comes to a place with more open rules than it allows. The
place is that of the frame that could not be opened. -/
theorem exists_deep_of_tooDeep {scope : Scope} {text : String}
    (h : evaluate scope text = .error .tooDeep) :
    ∃ read frames, tokens text = .ok read ∧ ComesInside scope read frames ∧
      depthLimit < openDepth frames := by
  rcases bind_eq_error_iff.mp h with hread | ⟨read, hread, hrest⟩
  · exact absurd hread (tokens_ne_tooDeep text)
  rcases bind_eq_error_iff.mp hrest with hvalue | ⟨value, -, hfinite⟩
  · rcases uncut_or_cutOpening_ofTokens read with huncut | hcut
    · exact absurd hvalue (huncut.value_ne_tooDeep scope)
    · obtain ⟨frames, before, hprefix, hopens, hframes, hdeep, htree⟩ := hcut
      rw [htree] at hvalue
      exact ⟨read, frames, hread,
        ⟨none, before, hprefix, hopens, (admits_of_tooDeep hframes hvalue).2⟩, hdeep⟩
  · split at hfinite <;> cases hfinite

/-- Does an operand come next, so that a plus or a minus is a sign? It depends on the lexeme before
only. -/
def awaitsOperand : Option Lexeme → Bool
  | none | some .opening => true
  | some (.operator operator) => operator ≠ .bang
  | some _ => false

/-- Does the lexeme open something that nests, after the one before it? A plus or minus does only
where an operand comes next. -/
def opensAfter (previous : Option Lexeme) : Lexeme → Bool
  | .opening | .operator .power => true
  | .operator .plus | .operator .minus => awaitsOperand previous
  | _ => false

/-- How many of the tokens open something that nests. This can be counted without parsing, and so it
is easy to compute. -/
def openers (previous : Option Lexeme) : List Token → Nat
  | [] => 0
  | token :: rest =>
    (if opensAfter previous token.lexeme then 1 else 0) + openers (some token.lexeme) rest

theorem opensAfter_sign {previous : Option Lexeme} (h : awaitsOperand previous = true)
    (negative : Bool) : opensAfter previous (.operator (signSymbol negative)) = true := by
  cases negative <;> exact h

/-- The last of the lexemes, or the one before them. Counting on over further tokens has to know
what they follow. -/
def lastLexeme (previous : Option Lexeme) (tokens : List Token) : Option Lexeme :=
  (tokens.getLast?.map Token.lexeme).or previous

theorem openers_append (previous : Option Lexeme) (before after : List Token) :
    openers previous (before ++ after) =
      openers previous before + openers (lastLexeme previous before) after := by
  induction before generalizing previous with
  | nil => simp [openers, lastLexeme]
  | cons token rest ih =>
      have hlast : lastLexeme previous (token :: rest) = lastLexeme (some token.lexeme) rest := by
        cases rest <;> simp [lastLexeme, List.getLast?_cons]
      rw [List.cons_append, openers, openers, ih, hlast, Nat.add_assoc]

theorem openers_le_append (before after : List Token) :
    openers none before ≤ openers none (before ++ after) := by
  rw [openers_append]
  exact Nat.le_add_right _ _

/-- After the tokens by which frames were opened, an operand comes next. The last of them is a
bracket, a sign or another operator. -/
theorem Opens.awaitsOperand {frames : List Frame} {tokens : List Token}
    (h : Opens none frames tokens) : awaitsOperand (lastLexeme none tokens) = true := by
  cases h with
  | start => rfl
  | group | power | call => simp [lastLexeme, Expression.awaitsOperand]
  | sign negative => cases negative <;> simp [lastLexeme, Expression.awaitsOperand, signSymbol]
  | product _ _ _ hoperator | sum _ _ _ hoperator =>
      rcases hoperator with rfl | rfl <;>
        simp [lastLexeme, Expression.awaitsOperand, Binary.symbol]

/-- Each thing that nests was opened by a token of its own. So there are no more of them than such
tokens, which bounds what is open by what is written. The induction is on how the frames were
opened, and the tokens of operands in between only add to the count. -/
theorem Opens.nesting_le {promised : Option Token} {frames : List Frame} {tokens : List Token}
    (h : Opens promised frames tokens) : nesting frames ≤ openers none tokens := by
  induction h with
  | start => exact Nat.le_refl 0
  | group position houter _ ih =>
      rw [nesting_cons, openers_append]
      exact Nat.add_le_add ih (by simp [Frame.nests, openers, opensAfter])
  | call function position opening houter _ ih =>
      rw [nesting_cons, openers_append]
      exact Nat.add_le_add ih (by simp [Frame.nests, openers, opensAfter])
  | sign negative position houter ih =>
      rw [nesting_cons, openers_append]
      exact Nat.add_le_add ih (by
        simp [Frame.nests, openers, opensAfter_sign houter.awaitsOperand negative])
  | @power _ _ tokens before base position houter _ _ ih =>
      rw [nesting_cons, openers_append]
      exact Nat.add_le_add (ih.trans (openers_le_append tokens before))
        (by simp [Frame.nests, openers, opensAfter])
  | @product _ tokens before operator _ position houter _ hoperator _ ih
  | @sum _ tokens before operator _ position houter _ hoperator _ ih =>
      have hfree : operator ≠ .power := by rcases hoperator with rfl | rfl <;> simp
      rw [nesting_cons, List.append_assoc]
      simpa [Frame.nests, hfree] using ih.trans (openers_le_append _ _)
  | @adjoined _ tokens before last next left houter _ _ _ ih =>
      rw [nesting_cons]
      simpa [Frame.nests] using ih.trans (openers_le_append _ _)

theorem ComesInside.nesting_le {scope : Scope} {read : List Token} {frames : List Frame}
    (h : ComesInside scope read frames) : nesting frames ≤ openers none read := by
  obtain ⟨promised, before, ⟨after, rfl⟩, hopens, -⟩ := h
  exact hopens.nesting_le.trans (openers_le_append before after)

/-- An expression of any length is never nested too deeply if the parse comes to no place with more
than 60 brackets, calls, signs and exponents around it. -/
theorem not_tooDeep_of_nesting_le {scope : Scope} {text : String}
    (h : ∀ read frames, tokens text = .ok read → ComesInside scope read frames →
      nesting frames ≤ 60) : evaluate scope text ≠ .error .tooDeep := by
  intro hdeep
  obtain ⟨read, frames, hread, hcomes, hlimit⟩ := exists_deep_of_tooDeep hdeep
  have hnesting := h read frames hread hcomes
  have hdepth := openDepth_le_nesting frames
  unfold depthLimit at hlimit
  omega

/-- Signs, an exponent, a call and a bracket in a text that is no expression. What nests in it is
counted, although it cannot be parsed. -/
theorem not_tooDeep_of_unclosed :
    (∀ read frames, tokens "-2^+sqrt(4)!(3+1+1" = .ok read →
      ComesInside (.standard .radians) read frames → nesting frames ≤ 60) ∧
      evaluate (.standard .radians) "-2^+sqrt(4)!(3+1+1" ≠ .error .tooDeep := by
  have hopeners : ((tokens "-2^+sqrt(4)!(3+1+1").toOption.all fun read =>
      openers none read ≤ 60) = true := by decide +kernel
  have hnesting : ∀ read frames, tokens "-2^+sqrt(4)!(3+1+1" = .ok read →
      ComesInside (.standard .radians) read frames → nesting frames ≤ 60 := by
    intro read frames hread hcomes
    rw [hread] at hopeners
    exact hcomes.nesting_le.trans (of_decide_eq_true hopeners)
  exact ⟨hnesting, not_tooDeep_of_nesting_le hnesting⟩

end Reckoner.Expression
