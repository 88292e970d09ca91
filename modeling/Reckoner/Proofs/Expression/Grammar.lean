import Mathlib.Data.List.Basic
import Reckoner.Expression.Value

/-!
The grammar of expressions as a relation between token lists and trees, apart from the reader that
recognizes it. An unbounded chain of one level is read from the left:

    expression := term | expression ("+" | "-") term
    term       := unary | term ("*" | "/") unary | term power
    unary      := power | ("-" | "+") unary
    power      := factorial | factorial "^" unary
    factorial  := primary | factorial "!"
    primary    := NUMBER | NAME | NAME "(" expression ")" | "(" expression ")"

The third form of a term is a product without an operator. It is restricted by `Token.adjoins`: the
factor begins with a name or a bracket, and a name directly before a bracket is always a call. Trees
keep brackets and signs, so a tree records every rule of its derivation that the levels do not
force.
-/

namespace Reckoner.Expression

/-- The levels of the grammar, from the loosest on. A phrase of an inner level may stand where one
of an outer level is expected. -/
inductive Category where
  | expression | term | unary | power | factorial | primary
deriving DecidableEq, Repr

/-- The character that stands for a binary operator. Implicit multiplication has none, and so it is
not among them. -/
def Binary.symbol : Binary → Operator
  | add => .plus
  | subtract => .minus
  | multiply => .times
  | divide => .divide
  | power => .power

/-- The sign that negates or does not. Both are also binary operators, and only the place where they
stand tells the two apart. -/
def signSymbol (negative : Bool) : Operator := if negative then .minus else .plus

/-- The tree of an operand under a sign. A plus keeps its own node, although it changes nothing
about the value. -/
def signed (negative : Bool) (operand : Tree) : Tree :=
  if negative then .negate operand else .plus operand

/-- May a factor that begins with `next` follow an operand that ends with `last`, without an
operator between them? A bracket after a name opens the argument of a call. -/
def Token.adjoins (last next : Token) : Bool :=
  match last.lexeme, next.lexeme with
  | .name _, .opening => false
  | _, .name _ | _, .opening => true
  | _, _ => false

/-- The tokens form a phrase of the category, and the tree is its derivation. There is one rule for
each way to form a phrase, and none for closing brackets implicitly. -/
inductive Derives : Category → List Token → Tree → Prop where
  | number (value : Binary64) (position : Nat) :
      Derives .primary [⟨.number value, position⟩] (.number value)
  | name (name : String) (position : Nat) :
      Derives .primary [⟨.name name, position⟩] (.name name position)
  | call {tokens : List Token} {argument : Tree} (function : String)
      (position opening closing : Nat) (hargument : Derives .expression tokens argument) :
      Derives .primary
        (⟨.name function, position⟩ :: ⟨.opening, opening⟩ :: (tokens ++ [⟨.closing, closing⟩]))
        (.call function position argument)
  | group {tokens : List Token} {inner : Tree} (opening closing : Nat)
      (hinner : Derives .expression tokens inner) :
      Derives .primary (⟨.opening, opening⟩ :: (tokens ++ [⟨.closing, closing⟩])) (.group inner)
  | ofPrimary {tokens : List Token} {tree : Tree} (h : Derives .primary tokens tree) :
      Derives .factorial tokens tree
  | factorial {tokens : List Token} {operand : Tree} (position : Nat)
      (hoperand : Derives .factorial tokens operand) :
      Derives .factorial (tokens ++ [⟨.operator .bang, position⟩]) (.factorial operand)
  | ofFactorial {tokens : List Token} {tree : Tree} (h : Derives .factorial tokens tree) :
      Derives .power tokens tree
  | power {before after : List Token} {base exponent : Tree} (position : Nat)
      (hbase : Derives .factorial before base) (hexponent : Derives .unary after exponent) :
      Derives .power (before ++ ⟨.operator .power, position⟩ :: after)
        (.binary .power position base exponent)
  | ofPower {tokens : List Token} {tree : Tree} (h : Derives .power tokens tree) :
      Derives .unary tokens tree
  | sign {tokens : List Token} {operand : Tree} (negative : Bool) (position : Nat)
      (hoperand : Derives .unary tokens operand) :
      Derives .unary (⟨.operator (signSymbol negative), position⟩ :: tokens)
        (signed negative operand)
  | ofUnary {tokens : List Token} {tree : Tree} (h : Derives .unary tokens tree) :
      Derives .term tokens tree
  | product {before after : List Token} {left right : Tree} {operator : Binary} (position : Nat)
      (hoperator : operator = .multiply ∨ operator = .divide)
      (hleft : Derives .term before left) (hright : Derives .unary after right) :
      Derives .term (before ++ ⟨.operator operator.symbol, position⟩ :: after)
        (.binary operator position left right)
  | adjoined {before after : List Token} {last next : Token} {left right : Tree}
      (hadjoins : last.adjoins next = true) (hleft : Derives .term (before ++ [last]) left)
      (hright : Derives .power (next :: after) right) :
      Derives .term (before ++ [last] ++ next :: after)
        (.adjoined left right)
  | ofTerm {tokens : List Token} {tree : Tree} (h : Derives .term tokens tree) :
      Derives .expression tokens tree
  | sum {before after : List Token} {left right : Tree} {operator : Binary} (position : Nat)
      (hoperator : operator = .add ∨ operator = .subtract)
      (hleft : Derives .expression before left) (hright : Derives .term after right) :
      Derives .expression (before ++ ⟨.operator operator.symbol, position⟩ :: after)
        (.binary operator position left right)

/-- Every phrase has a token. So whatever is expected cannot be empty, and an empty expression is
none. -/
theorem Derives.ne_nil {category : Category} {tokens : List Token} {tree : Tree}
    (h : Derives category tokens tree) : tokens ≠ [] := by
  induction h with
  | number | name | call | group | sign => exact List.cons_ne_nil _ _
  | ofPrimary _ ih | ofFactorial _ ih | ofPower _ ih | ofUnary _ ih | ofTerm _ ih => exact ih
  | factorial | power | product | adjoined | sum => simp

/-- A phrase of the unary level that begins with no sign is a power. Its first token decides, as no
other rule of that level applies. -/
theorem Derives.power_of_unary {next : Token} {after : List Token} {tree : Tree}
    (h : Derives .unary (next :: after) tree)
    (hnext : ∀ operator, next.lexeme ≠ .operator operator) :
    Derives .power (next :: after) tree := by
  cases h with
  | ofPower h => exact h
  | sign negative position _ => exact absurd rfl (hnext (signSymbol negative))

/-- How many rules of the grammar are open at once, at most, while the tree is read. As in the
frames, the rules around its first operand are not counted, so a number by itself has depth zero. -/
def Tree.depth : Tree → Int
  | .number _ | .name .. | .fault _ => 0
  | .call function position argument => (Frame.call function position 0).depth + argument.depth
  | .group inner => (Frame.group 0).depth + inner.depth
  | .plus operand | .negate operand => (Frame.sign true).depth + operand.depth
  | .binary operator position left right =>
    max left.depth ((Frame.binary operator position left).depth + right.depth)
  | .adjoined left right => max left.depth ((Frame.adjoined left).depth + right.depth)
  | .factorial operand => operand.depth
  | .broken read _ => read.depth

theorem Tree.depth_nonneg (tree : Tree) : 0 ≤ tree.depth := by
  induction tree with
  | number | name | fault => exact Int.le_refl 0
  | call _ _ _ ih | group _ ih | plus _ ih | negate _ ih =>
      simp only [depth, Frame.depth]
      omega
  | binary _ _ _ _ ihl _ | adjoined _ _ ihl _ => exact Int.le_trans ihl (Int.le_max_left _ _)
  | factorial _ ih | broken _ _ ih => exact ih

/-- The value of a tree by rules: operands first, then the operation, and no step may fail. A tree
with a fault in it has none, so there is no rule for faults. -/
inductive Tree.Evaluates (scope : Scope) : Tree → Binary64 → Prop where
  | number (value : Binary64) : Evaluates scope (.number value) value
  | constant {name : String} {value : Binary64} (position : Nat)
      (h : constant? name = some value) : Evaluates scope (.name name position) value
  | call {function : String} {operation : Operation} {argument : Tree} {x y : Binary64}
      (position : Nat) (hfunction : scope.find? function = some operation)
      (hargument : Evaluates scope argument x) (h : operation x = .ok y) :
      Evaluates scope (.call function position argument) y
  | group {inner : Tree} {x : Binary64} (h : Evaluates scope inner x) :
      Evaluates scope (.group inner) x
  | plus {operand : Tree} {x : Binary64} (h : Evaluates scope operand x) :
      Evaluates scope (.plus operand) x
  | negate {operand : Tree} {x : Binary64} (h : Evaluates scope operand x) :
      Evaluates scope (.negate operand) (-x)
  | add {left right : Tree} {x y : Binary64} (position : Nat)
      (hleft : Evaluates scope left x) (hright : Evaluates scope right y) :
      Evaluates scope (.binary .add position left right) (x + y)
  | subtract {left right : Tree} {x y : Binary64} (position : Nat)
      (hleft : Evaluates scope left x) (hright : Evaluates scope right y) :
      Evaluates scope (.binary .subtract position left right) (x - y)
  | multiply {left right : Tree} {x y : Binary64} (position : Nat)
      (hleft : Evaluates scope left x) (hright : Evaluates scope right y) :
      Evaluates scope (.binary .multiply position left right) (x * y)
  | adjoined {left right : Tree} {x y : Binary64} (hleft : Evaluates scope left x)
      (hright : Evaluates scope right y) : Evaluates scope (.adjoined left right) (x * y)
  | divide {left right : Tree} {x y : Binary64} (position : Nat)
      (hleft : Evaluates scope left x) (hright : Evaluates scope right y)
      (h : y.isZero = false) :
      Evaluates scope (.binary .divide position left right) (x / y)
  | power {base exponent : Tree} {x y z : Binary64} (position : Nat)
      (hbase : Evaluates scope base x) (hexponent : Evaluates scope exponent y)
      (h : x.pow y = .ok z) :
      Evaluates scope (.binary .power position base exponent) z
  | factorial {operand : Tree} {x y : Binary64} (hoperand : Evaluates scope operand x)
      (h : Expression.factorial x = .ok y) :
      Evaluates scope (.factorial operand) y

/-- The operands of the outermost operation of a tree. A tree that is broken off has one, which is
evaluated although the tree has no value. -/
def Tree.operands : Tree → List Tree
  | .number _ | .name .. | .fault _ => []
  | .call _ _ operand | .group operand | .plus operand | .negate operand | .factorial operand
  | .broken operand _ => [operand]
  | .binary _ _ left right | .adjoined left right => [left, right]

/-- What has a value has been evaluated operand by operand. One of them without a value is therefore
enough for a tree to have none. -/
theorem Tree.Evaluates.operand {scope : Scope} {tree operand : Tree} {value : Binary64}
    (h : tree.Evaluates scope value) (hoperand : operand ∈ tree.operands) :
    ∃ x, operand.Evaluates scope x := by
  cases h with
  | number | constant => cases hoperand
  | call _ _ h _ | group h | plus h | negate h | factorial h _ =>
      obtain rfl := List.mem_singleton.mp hoperand
      exact ⟨_, h⟩
  | add _ hleft hright | subtract _ hleft hright | multiply _ hleft hright
  | adjoined hleft hright | divide _ hleft hright _ | power _ hleft hright _ =>
      rcases List.mem_pair.mp hoperand with rfl | rfl
      · exact ⟨_, hleft⟩
      · exact ⟨_, hright⟩

/-- A computation in two steps succeeds when both steps do, and the second is given what the first
one comes to. -/
theorem bind_eq_ok_iff {α β : Type} {step : Except Error α} {next : α → Except Error β} {b : β} :
    step >>= next = .ok b ↔ ∃ a, step = .ok a ∧ next a = .ok b := by
  cases step with
  | error cause => simp [bind, Except.bind]
  | ok a => simp [bind, Except.bind]

theorem mapError_eq_ok_iff {α : Type} {step : Except MathError α} {a : α} :
    step.mapError Error.math = .ok a ↔ step = .ok a := by
  cases step with
  | error cause => constructor <;> intro h <;> cases h
  | ok value => constructor <;> intro h <;> cases h <;> rfl

theorem nameValue_eq_ok_iff {scope : Scope} {name : String} {position : Nat} {value : Binary64} :
    nameValue scope name position = .ok value ↔ constant? name = some value := by
  cases hname : constant? name with
  | some x => simp [nameValue, hname]
  | none =>
      simp only [nameValue, hname]
      split <;> simp

/-- The evaluator computes exactly the values that the rules give. Errors do not show in the rules,
so what remains open is only why there is no value. One direction is by induction on the tree, the
other on the rules. -/
theorem Tree.value_eq_ok_iff {scope : Scope} {tree : Tree} {value : Binary64} :
    tree.value scope = .ok value ↔ tree.Evaluates scope value := by
  constructor
  · intro h
    induction tree generalizing value with
    | number x =>
        cases h
        exact .number x
    | name name position => exact .constant position (nameValue_eq_ok_iff.mp h)
    | call function position argument ih =>
        unfold Tree.value at h
        split at h
        · cases h
        · rename_i operation hfunction
          obtain ⟨x, hx, hy⟩ := bind_eq_ok_iff.mp h
          exact .call position hfunction (ih hx) (mapError_eq_ok_iff.mp hy)
    | group inner ih => exact .group (ih h)
    | plus operand ih => exact .plus (ih h)
    | negate operand ih =>
        obtain ⟨x, hx, hy⟩ := bind_eq_ok_iff.mp h
        cases hy
        exact .negate (ih hx)
    | binary operator position left right ihl ihr =>
        obtain ⟨x, hx, hrest⟩ := bind_eq_ok_iff.mp h
        obtain ⟨y, hy, happly⟩ := bind_eq_ok_iff.mp hrest
        cases operator with
        | add =>
            cases happly
            exact .add position (ihl hx) (ihr hy)
        | subtract =>
            cases happly
            exact .subtract position (ihl hx) (ihr hy)
        | multiply =>
            cases happly
            exact .multiply position (ihl hx) (ihr hy)
        | divide =>
            simp only [Binary.apply] at happly
            split at happly
            · cases happly
            · rename_i hzero
              cases happly
              exact .divide position (ihl hx) (ihr hy) (Bool.not_eq_true _ ▸ hzero)
        | power => exact .power position (ihl hx) (ihr hy) (mapError_eq_ok_iff.mp happly)
    | adjoined left right ihl ihr =>
        obtain ⟨x, hx, hrest⟩ := bind_eq_ok_iff.mp h
        obtain ⟨y, hy, hproduct⟩ := bind_eq_ok_iff.mp hrest
        cases hproduct
        exact .adjoined (ihl hx) (ihr hy)
    | factorial operand ih =>
        obtain ⟨x, hx, hy⟩ := bind_eq_ok_iff.mp h
        exact .factorial (ih hx) hy
    | fault cause => cases h
    | broken read cause _ =>
        obtain ⟨x, _, hcause⟩ := bind_eq_ok_iff.mp h
        cases hcause
  · intro h
    induction h with
    | number x => rfl
    | constant position h => exact nameValue_eq_ok_iff.mpr h
    | call position hfunction _ h ih =>
        simp only [Tree.value, hfunction]
        exact bind_eq_ok_iff.mpr ⟨_, ih, mapError_eq_ok_iff.mpr h⟩
    | group _ ih => exact ih
    | plus _ ih => exact ih
    | negate _ ih => exact bind_eq_ok_iff.mpr ⟨_, ih, rfl⟩
    | add position _ _ ihl ihr | subtract position _ _ ihl ihr | multiply position _ _ ihl ihr =>
        exact bind_eq_ok_iff.mpr ⟨_, ihl, bind_eq_ok_iff.mpr ⟨_, ihr, rfl⟩⟩
    | adjoined _ _ ihl ihr =>
        exact bind_eq_ok_iff.mpr ⟨_, ihl, bind_eq_ok_iff.mpr ⟨_, ihr, rfl⟩⟩
    | divide position _ _ h ihl ihr =>
        refine bind_eq_ok_iff.mpr ⟨_, ihl, bind_eq_ok_iff.mpr ⟨_, ihr, ?_⟩⟩
        simp [Binary.apply, h]
    | power position _ _ h ihl ihr =>
        refine bind_eq_ok_iff.mpr ⟨_, ihl, bind_eq_ok_iff.mpr ⟨_, ihr, ?_⟩⟩
        exact mapError_eq_ok_iff.mpr h
    | factorial _ h ih => exact bind_eq_ok_iff.mpr ⟨_, ih, h⟩

/-- An expression is evaluated to the value of its tree, and only if that is finite. The tree is
that of its tokens, and a text without tokens has none. -/
theorem evaluate_eq_ok_iff {scope : Scope} {text : String} {value : Binary64} :
    evaluate scope text = .ok value ↔
      ∃ read, tokens text = .ok read ∧ (Tree.ofTokens read).Evaluates scope value ∧
        value.isFinite = true := by
  constructor
  · intro h
    obtain ⟨read, hread, hrest⟩ := bind_eq_ok_iff.mp h
    obtain ⟨x, hx, hchecked⟩ := bind_eq_ok_iff.mp hrest
    split at hchecked
    · rename_i hfinite
      cases hchecked
      exact ⟨read, hread, Tree.value_eq_ok_iff.mp hx, hfinite⟩
    · cases hchecked
  · rintro ⟨read, hread, hvalue, hfinite⟩
    have hx := Tree.value_eq_ok_iff.mpr hvalue
    refine bind_eq_ok_iff.mpr ⟨read, hread, bind_eq_ok_iff.mpr ⟨value, hx, ?_⟩⟩
    rw [if_pos hfinite]
    rfl

end Reckoner.Expression
