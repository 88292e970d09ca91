import Reckoner.Proofs.Expression.Interchange
import Reckoner.Proofs.Expression.Nesting

/-!
The first thing wrong with the tokens read so far. Operands are evaluated in reading order, so an
error in what has been read comes before any error in what follows: it stays the first one at every
step of the reader, and in the end it is the error of the expression. Frames that admit their last
part have none.
-/

namespace Reckoner.Expression

/-- The error of a computation that fails. Values are dropped by it, so that errors can be compared
without them. -/
def failure? {α : Type} : Except Error α → Option Error
  | .error cause => some cause
  | .ok _ => none

@[simp]
theorem failure?_ok {α : Type} (a : α) : failure? (.ok a) = none := rfl

@[simp]
theorem failure?_error {α : Type} (cause : Error) :
    failure? (.error cause : Except Error α) = some cause := rfl

theorem failure?_eq_some {α : Type} {step : Except Error α} {cause : Error} :
    failure? step = some cause ↔ step = .error cause := by
  cases step <;> simp

/-- What is wrong with the frame, whatever its last part is: its left operand has no value, or its
function is unknown. -/
def Frame.error? (scope : Scope) : Frame → Option Error
  | .binary _ _ left | .adjoined left => failure? (left.value scope)
  | .call function position _ =>
    match scope.find? function with
    | none => some (.unknownFunction function position)
    | some _ => none
  | .sign _ | .group _ => none

/-- The first thing wrong with the frames, from the outermost on. That is also the order in which
they were read, so what is found first comes first. -/
def framesError? (scope : Scope) : List Frame → Option Error
  | [] => none
  | frame :: outer => (framesError? scope outer).or (frame.error? scope)

/-- The first thing wrong with an operand inside frames. The frames come first, as they were opened
before the operand was read. -/
def operandError? (scope : Scope) (frames : List Frame) (tree : Tree) : Option Error :=
  (framesError? scope frames).or (failure? (tree.value scope))

variable {scope : Scope} {cause : Error} {frame : Frame} {frames : List Frame} {tree : Tree}

theorem Frame.error?_eq_none (h : frame.Admits scope) : frame.error? scope = none := by
  cases frame with
  | binary _ _ left | adjoined left =>
      obtain ⟨x, hx⟩ := h
      simp [error?, Tree.value_eq_ok_iff.mpr hx]
  | call function position opening =>
      obtain ⟨operation, hfunction⟩ := h
      simp [error?, hfunction]
  | sign | group => rfl

theorem framesError?_eq_none (h : ∀ frame ∈ frames, frame.Admits scope) :
    framesError? scope frames = none := by
  induction frames with
  | nil => rfl
  | cons frame outer ih =>
      obtain ⟨hframe, houter⟩ := List.forall_mem_cons.mp h
      rw [framesError?, ih houter, frame.error?_eq_none hframe]
      rfl

/-- Inside frames that admit it, the error of an operand is the first. Such frames have values on
their left and functions that are known. -/
theorem operandError?_of_admits (h : ∀ frame ∈ frames, frame.Admits scope)
    (htree : tree.value scope = .error cause) : operandError? scope frames tree = some cause := by
  rw [operandError?, framesError?_eq_none h, htree]
  rfl

/-- A frame fails with what is wrong with it, or else with its last part. That is the order in which
the evaluation comes to the two. A left operand comes before a right one, and the function of a call
before its argument. -/
theorem Frame.value_close (h : (frame.error? scope).or (failure? (tree.value scope)) = some cause) :
    (frame.close tree).value scope = .error cause := by
  cases frame with
  | binary _ _ left | adjoined left =>
      cases hleft : left.value scope with
      | error error =>
          obtain rfl : error = cause := by simpa [error?, hleft] using h
          simp only [close, Tree.value, hleft]
          rfl
      | ok x =>
          have htree : tree.value scope = .error cause := by
            simpa [error?, hleft, failure?_eq_some] using h
          simp only [close, Tree.value, hleft, htree]
          rfl
  | call function position opening =>
      cases hfunction : scope.find? function with
      | none =>
          obtain rfl : .unknownFunction function position = cause := by
            simpa [error?, hfunction] using h
          simp only [close, Tree.value, hfunction]
      | some operation =>
          have htree : tree.value scope = .error cause := by
            simpa [error?, hfunction, failure?_eq_some] using h
          simp only [close, Tree.value, hfunction, htree]
          rfl
  | sign negative =>
      have htree := failure?_eq_some.mp h
      cases negative with
      | false => exact htree
      | true =>
          simp only [close, Tree.value, htree]
          rfl
  | group => exact failure?_eq_some.mp h

theorem operandError?_close (h : operandError? scope (frame :: frames) tree = some cause) :
    operandError? scope frames (frame.close tree) = some cause := by
  rw [operandError?, framesError?, Option.or_assoc] at h
  rw [operandError?]
  cases houter : framesError? scope frames with
  | some error => simpa [houter] using h
  | none =>
      rw [houter, Option.none_or] at h
      rw [Option.none_or]
      exact failure?_eq_some.mpr (Frame.value_close h)

theorem operandError?_reduce (h : operandError? scope frames tree = some cause) (rank : Nat) :
    operandError? scope (reduce rank frames tree).1 (reduce rank frames tree).2 = some cause := by
  induction frames generalizing tree with
  | nil => exact h
  | cons frame outer ih =>
      rw [reduce]
      split
      · exact ih (operandError?_close h)
      · exact h

theorem value_closeAll (h : operandError? scope frames tree = some cause) :
    (closeAll frames tree).value scope = .error cause := by
  induction frames generalizing tree with
  | nil => exact failure?_eq_some.mp h
  | cons frame outer ih => exact ih (operandError?_close h)

theorem framesError?_cons (h : framesError? scope frames = some cause) :
    framesError? scope (frame :: frames) = some cause := by
  rw [framesError?, h]
  rfl

/-- Frames with an error have it whatever stands inside them. So the reader may go on, and what it
reads makes no difference. -/
theorem operandError?_of_frames (h : framesError? scope frames = some cause) (tree : Tree) :
    operandError? scope frames tree = some cause := by
  rw [operandError?, h]
  rfl

/-- What fails first in an operand fails first in an operation on it. The operation is only
evaluated once its operand has a value. -/
theorem operandError?_of_value {whole : Tree} (h : operandError? scope frames tree = some cause)
    (hwhole : ∀ error, tree.value scope = .error error → whole.value scope = .error error) :
    operandError? scope frames whole = some cause := by
  rw [operandError?] at h ⊢
  cases houter : framesError? scope frames with
  | some error => simpa [houter] using h
  | none =>
      rw [houter, Option.none_or, failure?_eq_some] at h
      rw [Option.none_or, failure?_eq_some]
      exact hwhole cause h

theorem operandError?_broken (h : operandError? scope frames tree = some cause) (error : Error) :
    operandError? scope frames (.broken tree error) = some cause := by
  apply operandError?_of_value h
  intro error' htree
  simp only [Tree.value, htree]
  rfl

namespace Progress

/-- What is wrong with the tokens read so far, whatever follows them. A name may still turn out to
be a function. -/
def error? (scope : Scope) : Progress → Option Error
  | operand frames | named frames _ _ => framesError? scope frames
  | complete frames tree => operandError? scope frames tree
  | stopped tree => failure? (tree.value scope)

theorem error?_fail {error : Error}
    (h : operandError? scope frames (.fault error) = some cause) :
    (fail frames error).error? scope = some cause :=
  failure?_eq_some.mpr (value_closeAll h)

theorem error?_enter (h : framesError? scope (frame :: frames) = some cause) :
    (enter frame frames).error? scope = some cause := by
  unfold enter
  split
  · exact h
  · exact error?_fail (operandError?_of_frames h _)

theorem error?_readOperand (h : framesError? scope frames = some cause) (token : Token) :
    (readOperand frames token).error? scope = some cause := by
  unfold readOperand
  split
  · exact operandError?_of_frames h _
  · exact h
  · exact error?_enter (framesError?_cons h)
  · exact error?_enter (framesError?_cons h)
  · exact error?_enter (framesError?_cons h)
  · exact error?_fail (operandError?_of_frames h _)

theorem error?_readForeign (h : operandError? scope frames tree = some cause) (foreign : Error) :
    (readForeign frames tree foreign).error? scope = some cause := by
  have hbroken := operandError?_broken (operandError?_reduce h 1)
  unfold readForeign
  generalize reduce 1 frames tree = reduced at *
  obtain ⟨outer, operand⟩ := reduced
  dsimp only
  split <;> exact failure?_eq_some.mpr (value_closeAll (hbroken _))

theorem error?_readClosing (h : operandError? scope frames tree = some cause) (position : Nat) :
    (readClosing frames tree position).error? scope = some cause := by
  have hreduced := operandError?_reduce h 1
  unfold readClosing
  generalize reduce 1 frames tree = reduced at *
  obtain ⟨outer, operand⟩ := reduced
  cases outer with
  | nil =>
      have hoperand := failure?_eq_some.mp hreduced
      simp only [error?, Tree.value, hoperand]
      rfl
  | cons bracket outer => exact operandError?_close hreduced

/-- What is wrong with an operand is wrong with an operation that waits for another one. Closing
frames for it does not change what comes first. -/
theorem error?_readBinary (h : operandError? scope frames tree = some cause) (operator : Binary)
    (position : Nat) : (readBinary operator frames tree position).error? scope = some cause :=
  operandError?_reduce h operator.rank

theorem error?_readAfter (h : operandError? scope frames tree = some cause) (token : Token) :
    (readAfter frames tree token).error? scope = some cause := by
  have hfactor : framesError? scope
      (.adjoined (reduce 2 frames tree).2 :: (reduce 2 frames tree).1) = some cause :=
    operandError?_reduce h 2
  obtain ⟨lexeme, position⟩ := token
  cases lexeme with
  | number value => exact error?_readForeign h _
  | closing => exact error?_readClosing h position
  | name name => exact error?_readOperand hfactor ⟨.name name, position⟩
  | opening => exact error?_readOperand hfactor ⟨.opening, position⟩
  | operator operator =>
      cases operator with
      | plus | minus | times | divide => exact error?_readBinary h _ position
      | power => exact error?_enter h
      | bang =>
          apply operandError?_of_value h
          intro error htree
          simp only [Tree.value, htree]
          rfl

/-- Nothing that is read later comes before an error that is certain. Every step closes or opens
frames on the right of what has been read. -/
theorem error?_read {state : Progress} (h : state.error? scope = some cause) (token : Token) :
    (state.read token).error? scope = some cause := by
  cases state with
  | operand frames => exact error?_readOperand h token
  | named frames name position =>
      simp only [Progress.read]
      split
      · exact error?_enter (framesError?_cons h)
      · exact error?_readAfter (operandError?_of_frames h _) token
  | complete frames tree => exact error?_readAfter h token
  | stopped tree => exact h

theorem error?_foldl {state : Progress} (h : state.error? scope = some cause)
    (tokens : List Token) : (tokens.foldl Progress.read state).error? scope = some cause := by
  induction tokens generalizing state with
  | nil => exact h
  | cons token rest ih => exact ih (error?_read h token)

theorem value_finishValue (h : operandError? scope frames tree = some cause) :
    (finishValue frames tree).value scope = .error cause := by
  have hreduced := operandError?_reduce h 1
  have hloose := loose_reduce 1 frames tree
  unfold finishValue
  generalize reduce 1 frames tree = reduced at *
  obtain ⟨outer, operand⟩ := reduced
  cases outer with
  | nil => exact failure?_eq_some.mp hreduced
  | cons frame outer =>
      have hrank : frame.rank < 1 := hloose frame rfl
      cases frame with
      | binary operator =>
          cases operator <;> exact absurd hrank (by simp [Frame.rank, Binary.rank])
      | adjoined | sign => exact absurd hrank (by simp [Frame.rank, Binary.rank])
      | group | call => exact value_closeAll (operandError?_broken hreduced _)

theorem value_finish {state : Progress} (h : state.error? scope = some cause) :
    state.finish.value scope = .error cause := by
  cases state with
  | operand frames => exact value_closeAll (operandError?_of_frames h _)
  | named frames name position => exact value_finishValue (operandError?_of_frames h _)
  | complete frames tree => exact value_finishValue h
  | stopped tree => exact failure?_eq_some.mp h

/-- An error that is certain is reported, whatever the remaining tokens are and wherever reading
ends. -/
theorem value_finish_foldl {state : Progress} (h : state.error? scope = some cause)
    (tokens : List Token) : (tokens.foldl Progress.read state).finish.value scope = .error cause :=
  value_finish (error?_foldl h tokens)

end Progress

end Reckoner.Expression
