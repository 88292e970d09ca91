import Mathlib.Data.List.Induction
import Reckoner.Proofs.Expression.Parsing

/-!
The functions that an expression calls. They are names that stand directly before an opening
bracket. Apart from them an expression depends on its scope only in which names there are: in two
scopes with the same names, and the same functions under the names called, it has the same value or
fails for the same cause.
-/

namespace Reckoner.Expression

/-- The functions called in a tree, in reading order. A name without a bracket is no call, even if
it is the name of a function. -/
def Tree.calls : Tree → List String
  | .number _ | .name .. | .fault _ => []
  | .call function _ argument => function :: argument.calls
  | .group operand | .plus operand | .negate operand | .factorial operand
  | .broken operand _ => operand.calls
  | .binary _ _ left right | .adjoined left right => left.calls ++ right.calls

/-- The name stands directly before an opening bracket. That is all one sees of a call in the
tokens, whatever stands in the bracket. -/
def Called (name : String) (read : List Token) : Prop :=
  ∃ position opening, ([⟨.name name, position⟩, ⟨.opening, opening⟩] : List Token) <:+: read

theorem Called.append {name : String} {read : List Token} (h : Called name read)
    (after : List Token) : Called name (read ++ after) := by
  obtain ⟨position, opening, hinfix⟩ := h
  exact ⟨position, opening, hinfix.trans (List.prefix_append read after).isInfix⟩

theorem called_cons {name : String} {token : Token} {rest : List Token} :
    Called name (token :: rest) ↔
      (token.lexeme = .name name ∧ rest.head?.any (·.lexeme = .opening) = true) ∨
        Called name rest := by
  constructor
  · rintro ⟨position, opening, hinfix⟩
    rcases List.infix_cons_iff.mp hinfix with ⟨after, hprefix⟩ | hinfix
    · cases hprefix
      exact Or.inl ⟨rfl, by simp⟩
    · exact Or.inr ⟨position, opening, hinfix⟩
  · rintro (⟨hname, hopening⟩ | ⟨position, opening, hinfix⟩)
    · obtain ⟨_, position⟩ := token
      cases hname
      cases rest with
      | nil => cases hopening
      | cons next rest =>
          obtain ⟨_, opening⟩ := next
          obtain rfl : _ = Lexeme.opening := by simpa using hopening
          exact ⟨position, opening, [], rest, rfl⟩
    · exact ⟨position, opening, List.infix_cons hinfix⟩

instance decidableCalled (name : String) : (read : List Token) → Decidable (Called name read)
  | [] => isFalse fun ⟨_, _, hinfix⟩ => List.cons_ne_nil _ _ (List.infix_nil.mp hinfix)
  | token :: rest =>
    have := decidableCalled name rest
    decidable_of_iff _ (@called_cons name token rest).symm

def Frame.calls : Frame → List String
  | .binary _ _ left | .adjoined left => left.calls
  | .call function _ _ => [function]
  | .sign _ | .group _ => []

theorem Frame.calls_close (frame : Frame) (tree : Tree) :
    (frame.close tree).calls = frame.calls ++ tree.calls := by
  cases frame with
  | binary | adjoined | group | call => rfl
  | sign negative => cases negative <;> rfl

/-- The functions called in what has been read before the frames' last parts. They stand in the left
operands, and in the names before open brackets. -/
def callsOf (frames : List Frame) : List String := frames.reverse.flatMap Frame.calls

theorem callsOf_cons (frame : Frame) (frames : List Frame) :
    callsOf (frame :: frames) = callsOf frames ++ frame.calls := by
  simp [callsOf]

theorem calls_closeAll (frames : List Frame) (tree : Tree) :
    (closeAll frames tree).calls = callsOf frames ++ tree.calls := by
  induction frames generalizing tree with
  | nil => rfl
  | cons frame rest ih =>
      rw [callsOf_cons, List.append_assoc, ← Frame.calls_close]
      exact ih (frame.close tree)

/-- Closing some of the frames closes them as closing all does. So whatever an operator closes does
not change the tree that results in the end. -/
theorem closeAll_reduce (rank : Nat) (frames : List Frame) (tree : Tree) :
    closeAll (reduce rank frames tree).1 (reduce rank frames tree).2 = closeAll frames tree := by
  induction frames generalizing tree with
  | nil => rfl
  | cons frame rest ih =>
      rw [reduce]
      split
      · exact ih (frame.close tree)
      · rfl

theorem calls_reduce (rank : Nat) (frames : List Frame) (tree : Tree) :
    callsOf (reduce rank frames tree).1 ++ (reduce rank frames tree).2.calls =
      callsOf frames ++ tree.calls := by
  rw [← calls_closeAll, closeAll_reduce, calls_closeAll]

namespace Progress

def calls : Progress → List String
  | operand frames | named frames _ _ => callsOf frames
  | complete frames tree => callsOf frames ++ tree.calls
  | stopped tree => tree.calls

theorem calls_fail (frames : List Frame) (cause : Error) :
    (fail frames cause).calls = callsOf frames := by
  simp [fail, calls, calls_closeAll, Tree.calls]

theorem calls_enter (frame : Frame) (frames : List Frame) :
    (enter frame frames).calls = callsOf frames ++ frame.calls := by
  rw [enter]
  split
  · exact callsOf_cons frame frames
  · rw [calls_fail, callsOf_cons]

theorem calls_readOperand (frames : List Frame) (token : Token) :
    (readOperand frames token).calls = callsOf frames := by
  obtain ⟨lexeme, position⟩ := token
  cases lexeme with
  | number => simp [readOperand, calls, Tree.calls]
  | name => rfl
  | opening => simp [readOperand, calls_enter, Frame.calls]
  | closing => exact calls_fail _ _
  | operator operator =>
      cases operator with
      | plus | minus => simp [readOperand, calls_enter, Frame.calls]
      | times | divide | power | bang => exact calls_fail _ _

theorem calls_readForeign (frames : List Frame) (tree : Tree) (cause : Error) :
    (readForeign frames tree cause).calls = callsOf frames ++ tree.calls := by
  unfold readForeign
  rw [← calls_reduce 1]
  generalize reduce 1 frames tree = reduced
  obtain ⟨outer, operand⟩ := reduced
  dsimp only
  split <;> simp [calls, calls_closeAll, Tree.calls]

theorem calls_readClosing (frames : List Frame) (tree : Tree) (position : Nat) :
    (readClosing frames tree position).calls = callsOf frames ++ tree.calls := by
  unfold readClosing
  rw [← calls_reduce 1]
  generalize reduce 1 frames tree = reduced
  obtain ⟨outer, operand⟩ := reduced
  cases outer with
  | nil => rfl
  | cons frame outer => simp [calls, callsOf_cons, Frame.calls_close]

theorem calls_readBinary (operator : Binary) (frames : List Frame) (tree : Tree) (position : Nat) :
    (readBinary operator frames tree position).calls = callsOf frames ++ tree.calls := by
  rw [readBinary, ← calls_reduce operator.rank]
  exact callsOf_cons _ _

theorem calls_readAfter (frames : List Frame) (tree : Tree) (token : Token) :
    (readAfter frames tree token).calls = callsOf frames ++ tree.calls := by
  obtain ⟨lexeme, position⟩ := token
  cases lexeme with
  | number => exact calls_readForeign _ _ _
  | closing => exact calls_readClosing _ _ _
  | name | opening =>
      rw [readAfter, calls_readOperand, callsOf_cons]
      exact calls_reduce _ _ _
  | operator operator =>
      cases operator with
      | plus | minus | times | divide => exact calls_readBinary _ _ _ _
      | power => exact calls_enter _ _
      | bang => rfl

/-- The one thing that adds a call is a bracket after a name. Every other token leaves the calls as
they are, whatever it opens or closes. -/
theorem calls_read (state : Progress) (token : Token) :
    (state.read token).calls = state.calls ∨
      ∃ frames name position, state = .named frames name position ∧ token.lexeme = .opening ∧
        (state.read token).calls = state.calls ++ [name] := by
  cases state with
  | operand frames => exact Or.inl (calls_readOperand frames token)
  | complete frames tree => exact Or.inl (calls_readAfter frames tree token)
  | stopped tree => exact Or.inl rfl
  | named frames name position =>
      by_cases hopening : token.lexeme = .opening
      · refine Or.inr ⟨frames, name, position, rfl, hopening, ?_⟩
        simp only [read, hopening]
        exact calls_enter _ _
      · rw [(Holds.named frames name position).read token fun h => absurd h hopening,
          calls_readAfter, Tree.calls, List.append_nil]
        exact Or.inl rfl

theorem calls_finishValue (frames : List Frame) (tree : Tree) :
    (finishValue frames tree).calls ⊆ callsOf frames ++ tree.calls := by
  unfold finishValue
  rw [← calls_reduce 1]
  generalize reduce 1 frames tree = reduced
  obtain ⟨outer, operand⟩ := reduced
  dsimp only
  split
  · simp [calls_closeAll, Tree.calls]
  · simp [calls_closeAll, Tree.calls]
  · exact List.subset_append_right _ _

theorem calls_finish (state : Progress) : state.finish.calls ⊆ state.calls := by
  cases state with
  | operand frames => simp [finish, calls, calls_closeAll, Tree.calls]
  | named frames name position =>
      have hcalls := calls_finishValue frames (.name name position)
      rwa [Tree.calls, List.append_nil] at hcalls
  | complete frames tree => exact calls_finishValue frames tree
  | stopped tree => exact List.Subset.refl _

end Progress

/-- What the reader takes for a call stands before a bracket. The converse fails where the reader
stopped before it came to the name. The induction is from the end of the tokens, where the bracket
comes that makes a call of a name. -/
theorem called_of_mem_calls {name : String} (read : List Token)
    (h : name ∈ (read.foldl Progress.read (.operand [])).calls) : Called name read := by
  induction read using List.reverseRecOn with
  | nil => cases h
  | append_singleton read token ih =>
      rw [List.foldl_append, List.foldl_cons, List.foldl_nil] at h
      rcases (read.foldl Progress.read (.operand [])).calls_read token with
        hcalls | ⟨frames, called, position, hstate, hopening, hcalls⟩
      · rw [hcalls] at h
        exact (ih h).append [token]
      · rw [hcalls] at h
        rcases List.mem_append.mp h with h | h
        · exact (ih h).append [token]
        · obtain rfl := List.mem_singleton.mp h
          have hexplains := explains_foldl read
          rw [hstate] at hexplains
          cases hexplains with
          | @named _ _ before =>
              obtain ⟨_, opening⟩ := token
              cases hopening
              exact ⟨position, opening, before, [], by simp⟩

theorem called_of_mem_calls_ofTokens {name : String} {read : List Token}
    (h : name ∈ (Tree.ofTokens read).calls) : Called name read := by
  rw [Tree.ofTokens] at h
  split at h
  · cases h
  · exact called_of_mem_calls read (Progress.calls_finish _ h)

/-- The scopes have functions of the same names. Without that a name could be unknown in one of
them, and fail with another cause. -/
def SameNames (scope other : Scope) : Prop :=
  ∀ name, (scope.find? name).isSome = (other.find? name).isSome

variable {scope other : Scope}

theorem isSome_find?_iff {name : String} :
    (scope.find? name).isSome = true ↔ name ∈ scope.map Prod.fst := by
  simp [Scope.find?, List.lookup_isSome_iff]

theorem find?_eq_none {name : String} (h : name ∉ scope.map Prod.fst) :
    scope.find? name = none :=
  Option.not_isSome_iff_eq_none.mp fun hsome => h (isSome_find?_iff.mp hsome)

theorem sameNames_of_keys (h : scope.map Prod.fst = other.map Prod.fst) :
    SameNames scope other := by
  intro name
  rw [Bool.eq_iff_iff, isSome_find?_iff, isSome_find?_iff, h]

/-- Of the functions of a scope, a tree depends on those that it calls. The names of others matter
as well, as one that is not called is told from an unknown one. -/
theorem Tree.value_congr (hnames : SameNames scope other) (tree : Tree)
    (hcalls : ∀ name ∈ tree.calls, scope.find? name = other.find? name) :
    tree.value scope = tree.value other := by
  induction tree with
  | number | fault => rfl
  | name name position => simp only [value, nameValue, hnames name]
  | call function position argument ih =>
      have hargument := ih fun name h => hcalls name (List.mem_cons_of_mem _ h)
      simp only [value, hcalls function List.mem_cons_self, hargument]
  | group operand ih | plus operand ih | negate operand ih | factorial operand ih =>
      simp only [value, ih hcalls]
  | broken operand cause ih => simp only [value, ih hcalls]
  | binary _ _ left right ihl ihr | adjoined left right ihl ihr =>
      have hleft := ihl fun name h => hcalls name (List.mem_append_left _ h)
      have hright := ihr fun name h => hcalls name (List.mem_append_right _ h)
      simp only [value, hleft, hright]

/-- An expression is evaluated alike in scopes with the same names and the same functions under the
names that it calls. -/
theorem evaluate_congr (hnames : SameNames scope other) {text : String}
    (hcalls : ∀ read, tokens text = .ok read → ∀ name, Called name read →
      scope.find? name = other.find? name) :
    evaluate scope text = evaluate other text := by
  cases hread : tokens text with
  | error cause => simp only [evaluate, hread, bind, Except.bind]
  | ok read =>
      have hvalue := (Tree.ofTokens read).value_congr hnames fun name h =>
        hcalls read hread name (called_of_mem_calls_ofTokens h)
      simp only [evaluate, hread, bind, Except.bind, hvalue]

end Reckoner.Expression
