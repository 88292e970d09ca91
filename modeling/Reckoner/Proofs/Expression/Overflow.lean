import Reckoner.Proofs.Binary64.Finite
import Reckoner.Proofs.Expression.Grammar

/-!
Overflow inside expressions. Only the value of a whole expression is checked to be finite, so a
numeral, sum, product or quotient that overflows goes unnoticed when a later operation makes a
finite number of it. Signs, sums, differences, products and factorials never do that; a quotient by
an infinity does, and so do some powers and the functions that have a value there. An expression
reports every overflow exactly as long as none of its parts is such an operation.
-/

namespace Reckoner.Expression

open Binary64

/-- A part of a tree: the whole of it, or a part of an operand. Parts are what is evaluated on the
way to the value of the tree. -/
inductive Tree.Part (part : Tree) : Tree → Prop where
  | whole : Part part part
  | within {operand tree : Tree} (hoperand : operand ∈ tree.operands) (h : Part part operand) :
      Part part tree

/-- A part of the expression that a text spells. A text that has no tokens has no part, and neither
an overflow. -/
def Tree.PartOf (part : Tree) (text : String) : Prop :=
  ∃ read, tokens text = .ok read ∧ part.Part (Tree.ofTokens read)

/-- A numeral, or an operation of arithmetic on finite operands, whose value is not finite. A
product without an operator is an operation of arithmetic like any other. -/
inductive Tree.Overflows (scope : Scope) : Tree → Prop where
  | numeral {value : Binary64} (h : value.isFinite = false) : Overflows scope (.number value)
  | arithmetic {operator : Binary} {position : Nat} {left right : Tree} {x y z : Binary64}
      (hoperator : operator ≠ .power) (hleft : left.Evaluates scope x)
      (hright : right.Evaluates scope y) (hx : x.isFinite = true) (hy : y.isFinite = true)
      (hvalue : operator.apply position x y = .ok z) (hz : z.isFinite = false) :
      Overflows scope (.binary operator position left right)
  | adjoined {left right : Tree} {x y : Binary64} (hleft : left.Evaluates scope x)
      (hright : right.Evaluates scope y) (hx : x.isFinite = true) (hy : y.isFinite = true)
      (hz : (x * y).isFinite = false) : Overflows scope (.adjoined left right)

/-- An operation that makes a finite number of an operand that is not finite. They are listed one by
one, so that nothing else can hide an overflow. -/
inductive Tree.Absorbs (scope : Scope) : Tree → Prop where
  | quotient {position : Nat} {left right : Tree} {x : Binary64} {negative : Bool}
      (hleft : left.Evaluates scope x) (hx : x.isFinite = true)
      (hright : right.Evaluates scope (.infinity negative)) :
      Absorbs scope (.binary .divide position left right)
  | power {position : Nat} {base exponent : Tree} {x y : Binary64}
      (hbase : base.Evaluates scope x) (hexponent : exponent.Evaluates scope y)
      (h : Flattens x y) : Absorbs scope (.binary .power position base exponent)
  | call {function : String} {position : Nat} {argument : Tree} {operation : Operation}
      {x y : Binary64} (hfunction : scope.find? function = some operation)
      (hargument : argument.Evaluates scope x) (hx : x.isFinite = false)
      (hvalue : operation x = .ok y) (hy : y.isFinite = true) :
      Absorbs scope (.call function position argument)

theorem Tree.Evaluates.unique {scope : Scope} {tree : Tree} {x y : Binary64}
    (hx : tree.Evaluates scope x) (hy : tree.Evaluates scope y) : x = y := by
  have hvalue := Tree.value_eq_ok_iff.mpr hx
  rw [Tree.value_eq_ok_iff.mpr hy] at hvalue
  exact (Except.ok.inj hvalue).symm

theorem isFinite_of_factorial {x y : Binary64} (h : factorial x = .ok y) : x.isFinite = true := by
  cases x with
  | nan | infinity => cases h
  | finite => rfl

theorem flattens_of_pow {x y z : Binary64} (h : x.pow y = .ok z) (hz : z.isFinite = true)
    (hfinite : (x.isFinite && y.isFinite) = false) : Flattens x y := by
  simp only [pow, hfinite] at h
  cases h
  exact (specialPow_isFinite_iff hfinite).mp hz

theorem isFinite_of_operands {scope : Scope} {left right operand : Tree} {x y z : Binary64}
    (hleft : left.Evaluates scope x) (hright : right.Evaluates scope y)
    (hboth : x.isFinite = true ∧ y.isFinite = true) (hoperand : operand ∈ [left, right])
    (hz : operand.Evaluates scope z) : z.isFinite = true := by
  rcases List.mem_pair.mp hoperand with rfl | rfl
  · rw [hz.unique hleft]
    exact hboth.1
  · rw [hz.unique hright]
    exact hboth.2

/-- A finite value that came from an operand that is not finite has been made by an absorbing
operation: there is no other step at which finiteness can come back. All operations are gone
through, and those that keep what is not finite are ruled out by the value. -/
theorem Tree.Evaluates.absorbs {scope : Scope} {tree operand : Tree} {value x : Binary64}
    (h : tree.Evaluates scope value) (hfinite : value.isFinite = true)
    (hoperand : operand ∈ tree.operands) (hx : operand.Evaluates scope x)
    (hinfinite : x.isFinite = false) : tree.Absorbs scope := by
  cases h with
  | number | constant => cases hoperand
  | call position hfunction hargument hvalue =>
      obtain rfl := List.mem_singleton.mp hoperand
      obtain rfl := hx.unique hargument
      exact .call hfunction hargument hinfinite hvalue hfinite
  | group hinner | plus hinner =>
      obtain rfl := List.mem_singleton.mp hoperand
      obtain rfl := hx.unique hinner
      simp [hfinite] at hinfinite
  | negate hinner =>
      obtain rfl := List.mem_singleton.mp hoperand
      obtain rfl := hx.unique hinner
      simp [hinfinite] at hfinite
  | factorial hinner hvalue =>
      obtain rfl := List.mem_singleton.mp hoperand
      obtain rfl := hx.unique hinner
      simp [isFinite_of_factorial hvalue] at hinfinite
  | add position hleft hright =>
      have hboth := isFinite_of_add hfinite
      simp [isFinite_of_operands hleft hright hboth hoperand hx] at hinfinite
  | subtract position hleft hright =>
      have hboth := isFinite_of_sub hfinite
      simp [isFinite_of_operands hleft hright hboth hoperand hx] at hinfinite
  | multiply _ hleft hright | adjoined hleft hright =>
      have hboth := isFinite_of_mul hfinite
      simp [isFinite_of_operands hleft hright hboth hoperand hx] at hinfinite
  | divide position hleft hright _ =>
      obtain ⟨hdividend, hdivisor⟩ := isFinite_of_div hfinite
      rcases List.mem_pair.mp hoperand with rfl | rfl
      · obtain rfl := hx.unique hleft
        simp [hdividend] at hinfinite
      · obtain rfl := hx.unique hright
        rcases hdivisor with hdivisor | ⟨negative, rfl⟩
        · simp [hdivisor] at hinfinite
        · exact .quotient hleft hdividend hright
  | power position hbase hexponent hvalue =>
      rcases List.mem_pair.mp hoperand with rfl | rfl
      · obtain rfl := hx.unique hbase
        exact .power hbase hexponent (flattens_of_pow hvalue hfinite (by simp [hinfinite]))
      · obtain rfl := hx.unique hexponent
        exact .power hbase hexponent (flattens_of_pow hvalue hfinite (by simp [hinfinite]))

/-- An absorbing operation has an operand that is not finite. The operand is its own, so the
operation stands directly around what it hides. -/
theorem Tree.Absorbs.operand {scope : Scope} {tree : Tree} (h : tree.Absorbs scope) :
    ∃ operand ∈ tree.operands, ∃ x, operand.Evaluates scope x ∧ x.isFinite = false := by
  cases h with
  | quotient _ _ hright =>
      exact ⟨_, List.mem_pair.mpr (Or.inr rfl), _, hright, rfl⟩
  | power hbase hexponent hflattens =>
      rcases hflattens.not_finite with hx | hy
      · exact ⟨_, List.mem_pair.mpr (Or.inl rfl), _, hbase, hx⟩
      · exact ⟨_, List.mem_pair.mpr (Or.inr rfl), _, hexponent, hy⟩
  | call _ hargument hx _ _ => exact ⟨_, List.mem_singleton_self _, _, hargument, hx⟩

/-- On the way from a part that is not finite up to a finite value stands an absorbing operation.
Somewhere on that way a finite value is made of one that is not. -/
theorem Tree.Part.exists_absorbs {scope : Scope} {tree part : Tree} {value x : Binary64}
    (hpart : part.Part tree) (hvalue : tree.Evaluates scope value)
    (hfinite : value.isFinite = true) (hx : part.Evaluates scope x)
    (hinfinite : x.isFinite = false) :
    ∃ absorbing : Tree, absorbing.Part tree ∧ absorbing.Absorbs scope := by
  induction hpart generalizing value with
  | whole =>
      simp [hx.unique hvalue, hfinite] at hinfinite
  | @within operand tree hoperand hpart ih =>
      obtain ⟨y, hy⟩ := hvalue.operand hoperand
      cases hyfinite : y.isFinite with
      | true =>
          obtain ⟨absorbing, hwithin, habsorbs⟩ := ih hy hyfinite
          exact ⟨absorbing, .within hoperand hwithin, habsorbs⟩
      | false => exact ⟨tree, .whole, hvalue.absorbs hfinite hoperand hy hyfinite⟩

theorem Tree.Part.trans {first second third : Tree} (h : first.Part second)
    (h' : second.Part third) : first.Part third := by
  induction h' with
  | whole => exact h
  | within hoperand _ ih => exact .within hoperand ih

/-- The value of an expression comes from finite values alone, if nothing is absorbed in it. It is
then as good as the operations in it are. -/
theorem isFinite_of_partOf {scope : Scope} {text : String} {value x : Binary64} {part : Tree}
    (hvalue : evaluate scope text = .ok value)
    (hnone : ∀ absorbing : Tree, absorbing.PartOf text → ¬ absorbing.Absorbs scope)
    (hpart : part.PartOf text) (hx : part.Evaluates scope x) : x.isFinite = true := by
  obtain ⟨read, hread, htree, hfinite⟩ := evaluate_eq_ok_iff.mp hvalue
  obtain ⟨read', hread', hwithin⟩ := hpart
  obtain rfl := Except.ok.inj (hread.symm.trans hread')
  rw [← Bool.not_eq_false]
  intro hinfinite
  obtain ⟨absorbing, habsorbing, habsorbs⟩ := hwithin.exists_absorbs htree hfinite hx hinfinite
  exact hnone absorbing ⟨read, hread, habsorbing⟩ habsorbs

/-- A part that overflows has a value, which is not finite. It is not refused there, but only if the
whole expression has no finite value. -/
theorem Tree.Overflows.exists_value {scope : Scope} {tree : Tree} (h : tree.Overflows scope) :
    ∃ x, tree.Evaluates scope x ∧ x.isFinite = false := by
  cases h with
  | numeral hinfinite => exact ⟨_, .number _, hinfinite⟩
  | arithmetic _ hleft hright _ _ hvalue hz =>
      refine ⟨_, Tree.value_eq_ok_iff.mp ?_, hz⟩
      have hx := Tree.value_eq_ok_iff.mpr hleft
      have hy := Tree.value_eq_ok_iff.mpr hright
      exact bind_eq_ok_iff.mpr ⟨_, hx, bind_eq_ok_iff.mpr ⟨_, hy, hvalue⟩⟩
  | adjoined hleft hright _ _ hz => exact ⟨_, .adjoined hleft hright, hz⟩

/-- Every overflow in an expression is an error, and a value is given only when all values on the
way to it are finite, exactly as long as no part of the expression that has a value makes a finite
number of an operand that is not finite. -/
theorem overflow_reported_iff (scope : Scope) (text : String) :
    ((∀ part : Tree, part.PartOf text → part.Overflows scope →
        ∃ cause, evaluate scope text = .error cause) ∧
      (∀ value, evaluate scope text = .ok value → ∀ (part : Tree) (x : Binary64),
        part.PartOf text → part.Evaluates scope x → x.isFinite = true)) ↔
    ∀ value, evaluate scope text = .ok value →
      ∀ part : Tree, part.PartOf text → ¬ part.Absorbs scope := by
  constructor
  · rintro ⟨-, hthroughout⟩ value hvalue part ⟨read, hread, hpart⟩ habsorbs
    obtain ⟨operand, hoperand, x, hx, hinfinite⟩ := habsorbs.operand
    have hwithin : operand.PartOf text :=
      ⟨read, hread, Tree.Part.trans (.within hoperand .whole) hpart⟩
    rw [hthroughout value hvalue operand x hwithin hx] at hinfinite
    cases hinfinite
  · intro hnone
    refine ⟨?_, fun value hvalue part x => isFinite_of_partOf hvalue (hnone value hvalue)⟩
    intro part hpart hoverflows
    obtain ⟨x, hx, hinfinite⟩ := hoverflows.exists_value
    cases hresult : evaluate scope text with
    | error cause => exact ⟨cause, rfl⟩
    | ok value =>
        rw [isFinite_of_partOf hresult (hnone value hresult) hpart hx] at hinfinite
        cases hinfinite

/-- One over a numeral that is infinite is zero, and nothing tells that the numeral overflowed: the
value of the whole is finite. -/
theorem quotient_hides_overflow :
    (Tree.number (.infinity false)).PartOf "1/1e999" ∧
      (Tree.number (.infinity false)).Overflows (.standard .radians) ∧
      evaluate (.standard .radians) "1/1e999" = .ok (.zero false) := by
  refine ⟨?_, .numeral rfl, by decide +kernel⟩
  have hread : tokens "1/1e999" =
      .ok [⟨.number 1, 0⟩, ⟨.operator .divide, 1⟩, ⟨.number (.infinity false), 2⟩] := by
    decide +kernel
  exact ⟨_, hread, .within (List.mem_pair.mpr (Or.inr rfl)) .whole⟩

end Reckoner.Expression
