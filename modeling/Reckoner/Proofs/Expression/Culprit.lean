import Reckoner.Proofs.Expression.Halting
import Reckoner.Proofs.Expression.Nesting

/-!
What an error points at. An error with a position is reported for one token of the expression, or
for one character where no token begins. `Blames` says for each error which token that is: in terms
of the grammar, of the tokens around it and of the values of what has been read before, and not of
what the reader did. An evaluation that comes to such a token has found nothing wrong before it.
-/

namespace Reckoner.Expression

/-- On its way through the tokens the evaluation comes to the end of them: the frames are open
there, and nothing has gone wrong before. -/
structure ComesTo (scope : Scope) (promised : Option Token) (frames : List Frame)
    (before : List Token) : Prop where
  opens : Opens promised frames before
  admits : ∀ frame ∈ frames, frame.Admits scope

/-- A phrase of the category ends with the tokens, whatever else follows it: what comes next is
neither the bracket of a call nor, for a phrase that may end with a power, a mark of a factorial or
of a power. -/
structure Category.Ends (category : Category) (tokens rest : List Token) : Prop where
  uncalled : ∀ last ∈ tokens.getLast?, ∀ next ∈ rest.head?, next.lexeme = .opening →
    ∀ name, last.lexeme ≠ .name name
  unmarked : category.rank < 5 → ∀ next ∈ rest.head?,
    next.lexeme ≠ .operator .bang ∧ next.lexeme ≠ .operator .power

/-- The evaluation of some tokens fails at one of them, which stands between those before and those
after it. -/
inductive Blames (scope : Scope) : List Token → Token → List Token → Error → Prop where
  /-- An operand must come, and none begins with the token. -/
  | unexpected {frames : List Frame} {before : List Token} {token : Token} (after : List Token)
      (hcomes : ComesTo scope none frames before) (htoken : BeginsNoPhrase token) :
      Blames scope before token after (.unexpectedToken token.lexeme token.position)
  /-- A whole expression has been read, and a number follows it. -/
  | unconsumed {before : List Token} {tree : Tree} {x : Binary64} (value : Binary64)
      (position : Nat) (after : List Token) (hread : Derives .expression before tree)
      (hvalue : tree.Evaluates scope x) :
      Blames scope before ⟨.number value, position⟩ after
        (.unexpectedToken (.number value) position)
  /-- A whole expression has been read, and a bracket is closed after it. -/
  | unmatched {before : List Token} {tree : Tree} {x : Binary64} (position : Nat)
      (after : List Token) (hread : Derives .expression before tree)
      (hvalue : tree.Evaluates scope x) :
      Blames scope before ⟨.closing, position⟩ after (.unmatchedClosing position)
  /-- The expression in the innermost bracket has been read, and the tokens end or a number
  follows. -/
  | unclosed {bracket : Frame} {frames : List Frame} {before inner rest : List Token} {tree : Tree}
      {x : Binary64} {position : Nat}
      (hcomes : ComesTo scope none (bracket :: frames) (before ++ [⟨.opening, position⟩]))
      (hinner : Derives .expression inner tree) (hvalue : tree.Evaluates scope x)
      (hrest : ∀ next ∈ rest.head?, ∃ value, next.lexeme = .number value) :
      Blames scope before ⟨.opening, position⟩ (inner ++ rest) (.unclosed position)
  /-- A name is called that is no function. -/
  | unknownFunction {promised : Option Token} {frames : List Frame} {before : List Token}
      {name : String} {position : Nat} (opening : Nat) (after : List Token)
      (hcomes : ComesTo scope promised frames before)
      (hbegins : Begins promised [⟨.name name, position⟩]) (hfunction : scope.find? name = none) :
      Blames scope before ⟨.name name, position⟩ (⟨.opening, opening⟩ :: after)
        (.unknownFunction name position)
  /-- A function is not called. -/
  | uncalledFunction {promised : Option Token} {frames : List Frame} {before after : List Token}
      {name : String} {position : Nat} (hcomes : ComesTo scope promised frames before)
      (hbegins : Begins promised [⟨.name name, position⟩])
      (hafter : ∀ next ∈ after.head?, next.lexeme ≠ .opening) (hconstant : constant? name = none)
      (hfunction : (scope.find? name).isSome = true) :
      Blames scope before ⟨.name name, position⟩ after (.uncalledFunction name position)
  /-- A name means nothing. -/
  | unknownName {promised : Option Token} {frames : List Frame} {before after : List Token}
      {name : String} {position : Nat} (hcomes : ComesTo scope promised frames before)
      (hbegins : Begins promised [⟨.name name, position⟩])
      (hafter : ∀ next ∈ after.head?, next.lexeme ≠ .opening) (hconstant : constant? name = none)
      (hfunction : scope.find? name = none) :
      Blames scope before ⟨.name name, position⟩ after (.unknownName name position)
  /-- The dividend has a value, and the divisor is zero. -/
  | division {frames : List Frame} {before divisor rest : List Token} {left right : Tree}
      {y : Binary64} {position : Nat}
      (hcomes : ComesTo scope none (.binary .divide position left :: frames)
        (before ++ [⟨.operator .divide, position⟩]))
      (hdivisor : Derives .unary divisor right) (hends : Category.unary.Ends divisor rest)
      (hvalue : right.Evaluates scope y) (hzero : y.isZero = true) :
      Blames scope before ⟨.operator .divide, position⟩ (divisor ++ rest) (.divisionByZero position)

/-- The evaluation of the tokens fails at one of them. Which one depends on those before it, and on
as many after it as are needed to see what is wrong. -/
def Blamed (scope : Scope) (read : List Token) (cause : Error) : Prop :=
  ∃ before token after, before ++ token :: after = read ∧ Blames scope before token after cause

theorem Blames.position_eq {scope : Scope} {before after : List Token} {token : Token}
    {cause : Error} (h : Blames scope before token after cause) :
    cause.position? = some token.position := by
  cases h <;> rfl

/-- What comes first is promised, whatever follows it. A promise is about the first token of what is
to come, so any beginning keeps it. -/
theorem Begins.left {promised : Option Token} {before after : List Token}
    (h : Begins promised (before ++ after)) (hbefore : before ≠ []) : Begins promised before := by
  intro token htoken
  rw [← List.head?_append_of_ne_nil before hbefore]
  exact h token htoken

theorem Begins.first {promised : Option Token} {token : Token} {after : List Token}
    (h : Begins promised (token :: after)) : Begins promised [token] :=
  h.left (List.cons_ne_nil token [])

theorem ComesTo.start (scope : Scope) : ComesTo scope none [] [] := ⟨.start, by simp⟩

theorem ComesTo.enter {scope : Scope} {promised promised' : Option Token} {frame : Frame}
    {frames : List Frame} {before before' : List Token} (h : ComesTo scope promised frames before)
    (hopens : Opens promised' (frame :: frames) before') (hframe : frame.Admits scope) :
    ComesTo scope promised' (frame :: frames) before' :=
  ⟨hopens, List.forall_mem_cons.mpr ⟨hframe, h.admits⟩⟩

theorem position_of_math {α : Type} {step : Except MathError α} {cause : Error}
    (h : step.mapError Error.math = .error cause) : cause.position? = none := by
  cases step with
  | ok value => cases h
  | error error =>
      cases h
      rfl

theorem position_of_factorial {x : Binary64} {cause : Error} (h : factorial x = .error cause) :
    cause.position? = none := by
  unfold factorial at h
  split at h
  · cases h
    rfl
  · cases h
    rfl
  · split at h
    · split at h
      · cases h
        rfl
      · split at h
        · cases h
          rfl
        · cases h
    · exact position_of_math h

/-- Of the operations on two values, only a division reports where it stands. The others have a
value whatever their operands are, or fail without a place. -/
theorem Binary.position_of_apply {operator : Binary} {position : Nat} {x y : Binary64}
    {cause : Error} (h : operator.apply position x y = .error cause) :
    cause.position? = none ∨
      operator = .divide ∧ y.isZero = true ∧ cause = .divisionByZero position := by
  cases operator with
  | add | subtract | multiply => cases h
  | divide =>
      simp only [Binary.apply] at h
      split at h
      · cases h
        exact Or.inr ⟨rfl, ‹_›, rfl⟩
      · cases h
  | power => exact Or.inl (position_of_math h)

theorem error_of_nameValue {scope : Scope} {name : String} {position : Nat} {cause : Error}
    (h : nameValue scope name position = .error cause) :
    constant? name = none ∧
      ((scope.find? name).isSome = true ∧ cause = .uncalledFunction name position ∨
        scope.find? name = none ∧ cause = .unknownName name position) := by
  unfold nameValue at h
  split at h
  · cases h
  · rename_i hconstant
    refine ⟨hconstant, ?_⟩
    split at h
    · cases h
      exact Or.inl ⟨‹_›, rfl⟩
    · cases h
      exact Or.inr ⟨Option.not_isSome_iff_eq_none.mp ‹_›, rfl⟩

/-- A sign fails with its operand, since negating always has a result. The same holds of a sign that
does nothing. -/
theorem error_of_sign {scope : Scope} {negative : Bool} {operand : Tree} {cause : Error}
    (h : ((Frame.sign negative).close operand).value scope = .error cause) :
    operand.value scope = .error cause := by
  cases negative with
  | false => exact h
  | true =>
      rcases bind_eq_error_iff.mp h with hoperand | ⟨x, -, hresult⟩
      · exact hoperand
      · cases hresult

/-- A product fails with one of its operands, since multiplying always has a result. -/
theorem error_of_adjoined {scope : Scope} {left right : Tree} {cause : Error}
    (h : (Tree.adjoined left right).value scope = .error cause) :
    left.value scope = .error cause ∨
      (∃ x, left.Evaluates scope x) ∧ right.value scope = .error cause := by
  rcases bind_eq_error_iff.mp h with hleft | ⟨x, hleft, hrest⟩
  · exact Or.inl hleft
  · rcases bind_eq_error_iff.mp hrest with hright | ⟨y, -, hresult⟩
    · exact Or.inr ⟨⟨x, Tree.value_eq_ok_iff.mp hleft⟩, hright⟩
    · cases hresult

theorem suffix_append_cons (before after : List Token) (token : Token) :
    after <:+ before ++ token :: after :=
  (List.suffix_cons token after).trans (List.suffix_append before (token :: after))

namespace Category.Ends

variable {category category' : Category} {tokens before after rest : List Token}

theorem mono (h : category.Ends tokens rest) (hrank : category'.rank < 5 → category.rank < 5) :
    category'.Ends tokens rest :=
  ⟨h.uncalled, fun hlt => h.unmarked (hrank hlt)⟩

/-- A phrase at the end of a phrase ends where that does. What follows the whole follows its last
part as well, and is allowed after it if the ranks allow it. -/
theorem suffix (h : category.Ends tokens rest) (hsuffix : after <:+ tokens) (hafter : after ≠ [])
    (hrank : category'.rank < 5 → category.rank < 5) : category'.Ends after rest := by
  obtain ⟨before, rfl⟩ := hsuffix
  refine ⟨?_, fun hlt => h.unmarked (hrank hlt)⟩
  rw [← List.getLast?_append_of_ne_nil before hafter]
  exact h.uncalled

/-- An operand of rank five may be followed by a mark, and every phrase by the other operators. A
mark after a phrase of a lower rank would belong to its last part. -/
theorem of_operator (operator : Operator) (position : Nat) (rest : List Token)
    (hoperator : category.rank < 5 → operator ≠ .bang ∧ operator ≠ .power) :
    category.Ends tokens (⟨.operator operator, position⟩ :: rest) := by
  constructor
  · rintro last - _ ⟨⟩ hopening
    cases hopening
  · rintro hlt _ ⟨⟩
    simpa using hoperator hlt

theorem of_symbol {operator : Binary} (hoperator : operator ≠ .power) (position : Nat)
    (rest : List Token) :
    category.Ends tokens (⟨.operator operator.symbol, position⟩ :: rest) := by
  refine .of_operator _ position rest fun _ => ?_
  cases operator with
  | power => exact absurd rfl hoperator
  | add | subtract | multiply | divide => simp [Binary.symbol]

theorem of_closing (position : Nat) (rest : List Token) :
    category.Ends tokens (⟨.closing, position⟩ :: rest) := by
  constructor
  · rintro last - _ ⟨⟩ hopening
    cases hopening
  · rintro - _ ⟨⟩
    simp

theorem of_numbers (h : ∀ next ∈ rest.head?, ∃ value, next.lexeme = .number value) :
    category.Ends tokens rest := by
  constructor
  · intro last _ next hnext hopening
    obtain ⟨value, hvalue⟩ := h next hnext
    rw [hvalue] at hopening
    cases hopening
  · intro _ next hnext
    obtain ⟨value, hvalue⟩ := h next hnext
    simp [hvalue]

theorem of_adjoins {last next : Token} (h : last.adjoins next = true) (rest : List Token) :
    category.Ends (before ++ [last]) (next :: rest) := by
  constructor
  · rintro last' hlast _ ⟨⟩ hopening name hname
    obtain rfl : last = last' := by simpa using hlast
    simp [Token.adjoins, hopening, hname] at h
  · rintro - _ ⟨⟩
    rcases next_of_adjoins h with hnext | ⟨name, hnext⟩ <;> simp [hnext]

end Category.Ends

/-- Only a power, and what it consists of, is promised by its first token. The other categories may
begin with a sign, and a sign after an operand is an operator. -/
def Category.mayAdjoin : Category → Bool
  | power | factorial | primary => true
  | expression | term | unary => false

section Phrases

variable {scope : Scope} {cause : Error} (hpoints : cause.position? ≠ none)

include hpoints

/-- The ways in which an operation with two operands fails: with the left one, with the right one if
the left has a value, or as a division by zero. -/
theorem error_of_binary {operator : Binary} {position : Nat} {left right : Tree}
    (h : (Tree.binary operator position left right).value scope = .error cause) :
    left.value scope = .error cause ∨ ∃ x, left.Evaluates scope x ∧
      (right.value scope = .error cause ∨ ∃ y, right.Evaluates scope y ∧ operator = .divide ∧
        y.isZero = true ∧ cause = .divisionByZero position) := by
  rcases bind_eq_error_iff.mp h with hleft | ⟨x, hleft, hrest⟩
  · exact Or.inl hleft
  refine Or.inr ⟨x, Tree.value_eq_ok_iff.mp hleft, ?_⟩
  rcases bind_eq_error_iff.mp hrest with hright | ⟨y, hright, hresult⟩
  · exact Or.inl hright
  · rcases Binary.position_of_apply hresult with hnone | hdivision
    · exact absurd hnone hpoints
    · exact Or.inr ⟨y, Tree.value_eq_ok_iff.mp hright, hdivision⟩

/-- If a phrase fails at some place, one of its tokens is to blame. The induction is on the
derivation, for all frames that the phrase may stand in: each operand is a phrase inside one frame
more, and that frame admits it as soon as the operand to its left has a value. -/
theorem Derives.blamed {category : Category} {tokens : List Token} {tree : Tree}
    (h : Derives category tokens tree) {promised : Option Token} {frames : List Frame}
    {before rest : List Token} (hcomes : ComesTo scope promised frames before)
    (hbegins : Begins promised tokens) (hpromised : promised = none ∨ category.mayAdjoin = true)
    (hloose : Loose category.outerRank frames) (hends : category.Ends tokens rest)
    (herror : tree.value scope = .error cause) :
    Blamed scope (before ++ tokens ++ rest) cause := by
  induction h generalizing promised frames before rest with
  | number => cases herror
  | name name position =>
      have hafter : ∀ next ∈ rest.head?, next.lexeme ≠ .opening := fun next hnext hopening =>
        hends.uncalled _ rfl next hnext hopening name rfl
      refine ⟨before, ⟨.name name, position⟩, rest, by simp, ?_⟩
      obtain ⟨hconstant, ⟨hfunction, rfl⟩ | ⟨hfunction, rfl⟩⟩ := error_of_nameValue herror
      · exact .uncalledFunction hcomes hbegins hafter hconstant hfunction
      · exact .unknownName hcomes hbegins hafter hconstant hfunction
  | @call inner argument function position opening closing _ ih =>
      unfold Tree.value at herror
      split at herror
      · rename_i hfunction
        cases herror
        refine ⟨before, _, _, ?_, .unknownFunction opening (inner ++ ⟨.closing, closing⟩ :: rest)
          hcomes hbegins.first hfunction⟩
        simp
      · rename_i operation hfunction
        rcases bind_eq_error_iff.mp herror with hinner | ⟨x, -, hresult⟩
        · have hopens := Opens.call function position opening hcomes.opens hbegins.first
          have hblamed := ih (hcomes.enter hopens ⟨operation, hfunction⟩) (begins_none _)
            (Or.inl rfl) (loose_cons Nat.one_pos) (.of_closing closing rest) hinner
          simpa using hblamed
        · exact absurd (position_of_math hresult) hpoints
  | @group inner tree opening closing _ ih =>
      have hopens := Opens.group opening hcomes.opens hbegins.first
      have hblamed := ih (hcomes.enter hopens trivial) (begins_none _) (Or.inl rfl)
        (loose_cons Nat.one_pos) (.of_closing closing rest) herror
      simpa using hblamed
  | ofPrimary _ ih => exact ih hcomes hbegins (Or.inr rfl) hloose (hends.mono id) herror
  | @factorial inner operand position hoperand ih =>
      rcases bind_eq_error_iff.mp herror with hinner | ⟨x, -, hresult⟩
      · have hblamed := ih hcomes (hbegins.left hoperand.ne_nil) (Or.inr rfl) hloose
          (.of_operator .bang position rest (by simp [Category.rank])) hinner
        simpa using hblamed
      · exact absurd (position_of_factorial hresult) hpoints
  | ofFactorial _ ih =>
      exact ih hcomes hbegins (Or.inr rfl) hloose (hends.mono (by simp [Category.rank])) herror
  | @power front back base exponent position hbase hexponent ihbase ihexponent =>
      rcases error_of_binary hpoints herror with hleft | ⟨x, hx, hright | ⟨y, -, hoperator, -⟩⟩
      · have hblamed := ihbase hcomes (hbegins.left hbase.ne_nil) (Or.inr rfl) hloose
          (.of_operator .power position (back ++ rest) (by simp [Category.rank])) hleft
        simpa using hblamed
      · have hopens := Opens.power position hcomes.opens (hbegins.left hbase.ne_nil) hbase
        have hright' := ihexponent (hcomes.enter hopens ⟨x, hx⟩) (begins_none _) (Or.inl rfl)
          (loose_five _) (hends.suffix (suffix_append_cons front back _) hexponent.ne_nil id) hright
        simpa using hright'
      · cases hoperator
  | ofPower _ ih => exact ih hcomes hbegins (Or.inr rfl) hloose (hends.mono id) herror
  | @sign inner operand negative position hoperand ih =>
      obtain rfl : promised = none := by simpa [Category.mayAdjoin] using hpromised
      have hclose : (Frame.sign negative).close operand = signed negative operand := by
        cases negative <;> rfl
      rw [← hclose] at herror
      have hblamed := ih (hcomes.enter (.sign negative position hcomes.opens) trivial)
        (begins_none _) (Or.inl rfl) (loose_five _)
        (hends.suffix ⟨[_], rfl⟩ hoperand.ne_nil id) (error_of_sign herror)
      simpa using hblamed
  | ofUnary _ ih =>
      exact ih hcomes hbegins (hpromised.imp_right (absurd · (by decide))) (loose_five _)
        (hends.mono (by simp [Category.rank])) herror
  | @product front back left right operator position hoperator hleft hright ihl ihr =>
      obtain rfl : promised = none := by simpa [Category.mayAdjoin] using hpromised
      have hfree : operator ≠ .power := by rcases hoperator with rfl | rfl <;> simp
      rcases error_of_binary hpoints herror with hfirst | ⟨x, hx, hsecond⟩
      · have hblamed := ihl hcomes (begins_none _) (Or.inl rfl) hloose
          (.of_symbol hfree position (back ++ rest)) hfirst
        simpa using hblamed
      · have hopens := Opens.product position hcomes.opens hloose hoperator hleft
        have hcomes' := hcomes.enter hopens ⟨x, hx⟩
        have hends' : Category.unary.Ends back rest :=
          hends.suffix (suffix_append_cons front back _) hright.ne_nil (by simp [Category.rank])
        rcases hsecond with herror' | ⟨y, hy, rfl, hzero, rfl⟩
        · have hblamed := ihr hcomes' (begins_none _) (Or.inl rfl) (loose_five _) hends' herror'
          simpa using hblamed
        · exact ⟨before ++ front, _, back ++ rest, by simp [Binary.symbol],
            .division hcomes' hright hends' hy hzero⟩
  | @adjoined front back last next left right hadjoins hleft hright ihl ihr =>
      obtain rfl : promised = none := by simpa [Category.mayAdjoin] using hpromised
      rcases error_of_adjoined herror with hfirst | ⟨hx, hsecond⟩
      · have hblamed := ihl hcomes (begins_none _) (Or.inl rfl) hloose
          (.of_adjoins hadjoins (back ++ rest)) hfirst
        simpa using hblamed
      · have hopens := Opens.adjoined hcomes.opens hloose hadjoins hleft
        have hbegins' := (begins_some next).append (List.cons_ne_nil _ _) back
        have hblamed := ihr (hcomes.enter hopens hx) hbegins' (Or.inr rfl) (loose_five _)
          (hends.suffix ⟨front ++ [last], rfl⟩ hright.ne_nil (by simp [Category.rank])) hsecond
        simpa using hblamed
  | ofTerm _ ih =>
      exact ih hcomes hbegins (hpromised.imp_right (absurd · (by decide)))
        (hloose.mono (by decide)) (hends.mono (by simp [Category.rank])) herror
  | @sum front back left right operator position hoperator hleft hright ihl ihr =>
      obtain rfl : promised = none := by simpa [Category.mayAdjoin] using hpromised
      have hfree : operator ≠ .power := by rcases hoperator with rfl | rfl <;> simp
      rcases error_of_binary hpoints herror with hfirst | ⟨x, hx, hsecond | ⟨y, -, rfl, -⟩⟩
      · have hblamed := ihl hcomes (begins_none _) (Or.inl rfl) hloose
          (.of_symbol hfree position (back ++ rest)) hfirst
        simpa using hblamed
      · have hopens := Opens.sum position hcomes.opens hloose hoperator hleft
        have hloose' : Loose 2 (.binary operator position left :: frames) := by
          apply loose_cons
          rcases hoperator with rfl | rfl <;> exact Nat.lt_succ_self 1
        have hblamed := ihr (hcomes.enter hopens ⟨x, hx⟩) (begins_none _) (Or.inl rfl) hloose'
          (hends.suffix (suffix_append_cons front back _) hright.ne_nil (by simp [Category.rank]))
          hsecond
        simpa using hblamed
      · rcases hoperator with hoperator | hoperator <;> cases hoperator

/-- An operation whose right operand has no value fails with its left operand, or it comes to the
right one and fails with that. -/
theorem error_of_right_fails {operator : Binary} {position : Nat} {left stop : Tree}
    (hfails : stop.Fails)
    (h : (Tree.binary operator position left stop).value scope = .error cause) :
    left.value scope = .error cause ∨
      (∃ x, left.Evaluates scope x) ∧ stop.value scope = .error cause := by
  rcases error_of_binary hpoints h with hfirst | ⟨x, hx, hsecond | ⟨y, hy, -⟩⟩
  · exact Or.inl hfirst
  · exact Or.inr ⟨⟨x, hx⟩, hsecond⟩
  · exact absurd hy (hfails scope y)

/-- If the evaluation comes to an operation that fails with one of its operands, then it comes to
the right one, or a token of the left one is to blame. -/
theorem comesTo_or_blamed_left {category : Category} {frame : Frame} {left stop : Tree}
    {promised promised' : Option Token} {frames : List Frame}
    {before before' front rest : List Token} (hleft : Derives category front left)
    (hbegins : Begins promised front) (hpromised : promised = none ∨ category.mayAdjoin = true)
    (hloose : Loose category.outerRank frames) (hends : category.Ends front rest)
    (hopens : Opens promised' (frame :: frames) before')
    (hframe : (frame.close stop).value scope = .error cause →
      left.value scope = .error cause ∨ frame.Admits scope ∧ stop.value scope = .error cause)
    (h : (frame.close stop).value scope = .error cause ∧ ComesTo scope promised frames before ∨
      Blamed scope (before ++ (front ++ rest)) cause) :
    stop.value scope = .error cause ∧ ComesTo scope promised' (frame :: frames) before' ∨
      Blamed scope (before ++ (front ++ rest)) cause := by
  rcases h with ⟨herror, hcomes⟩ | hblamed
  · rcases hframe herror with hfirst | ⟨hadmits, hsecond⟩
    · right
      rw [← List.append_assoc]
      exact hleft.blamed hpoints hcomes hbegins hpromised hloose hends hfirst
    · exact Or.inl ⟨hsecond, hcomes.enter hopens hadmits⟩
  · exact Or.inr hblamed

/-- If something without a value fails inside frames, the evaluation has come to it, or a token
before it is to blame. The frames are gone through from the outside, and each is left for the one
within it if its own operands are not at fault. -/
theorem Opens.comesTo_or_blamed {promised : Option Token} {frames : List Frame}
    {before rest : List Token} {stop : Tree} (h : Opens promised frames before)
    (hbegins : Begins promised rest) (hfails : stop.Fails)
    (herror : (closeAll frames stop).value scope = .error cause) :
    stop.value scope = .error cause ∧ ComesTo scope promised frames before ∨
      Blamed scope (before ++ rest) cause := by
  induction h generalizing stop rest with
  | start => exact Or.inl ⟨herror, .start scope⟩
  | @group promised frames before position houter hopening ih =>
      have hbegins' := hopening.append (List.cons_ne_nil _ _) rest
      rcases ih hbegins' (hfails.close (.group position)) herror with ⟨hstop, hcomes⟩ | hblamed
      · exact Or.inl ⟨hstop, hcomes.enter (.group position houter hopening) trivial⟩
      · exact Or.inr (by simpa using hblamed)
  | @call promised frames before function position opening houter hname ih =>
      have hbegins' := hname.append (List.cons_ne_nil _ _) (⟨.opening, opening⟩ :: rest)
      rcases ih hbegins' (hfails.close (.call function position opening)) herror with
        ⟨hstop, hcomes⟩ | hblamed
      · simp only [Frame.close, Tree.value] at hstop
        split at hstop
        · rename_i hfunction
          cases hstop
          refine Or.inr ⟨before, _, _, ?_, .unknownFunction opening rest hcomes hname hfunction⟩
          simp
        · rename_i operation hfunction
          rcases bind_eq_error_iff.mp hstop with hinner | ⟨x, hx, -⟩
          · have hopens := Opens.call function position opening houter hname
            exact Or.inl ⟨hinner, hcomes.enter hopens ⟨operation, hfunction⟩⟩
          · exact absurd (Tree.value_eq_ok_iff.mp hx) (hfails scope x)
      · exact Or.inr (by simpa using hblamed)
  | @sign frames before negative position houter ih =>
      rcases ih (begins_none _) (hfails.close (.sign negative)) herror with
        ⟨hstop, hcomes⟩ | hblamed
      · have hopens := Opens.sign negative position houter
        exact Or.inl ⟨error_of_sign hstop, hcomes.enter hopens trivial⟩
      · exact Or.inr (by simpa using hblamed)
  | @power promised frames before front base position houter hpromised hbase ih =>
      have hopens := Opens.power position houter hpromised hbase
      have hends : Category.factorial.Ends front (⟨.operator .power, position⟩ :: rest) :=
        .of_operator .power position rest (by simp [Category.rank])
      have hcomes := ih (hpromised.append hbase.ne_nil (⟨.operator .power, position⟩ :: rest))
        (hfails.close (.binary .power position base)) herror
      simpa using comesTo_or_blamed_left hpoints hbase hpromised (Or.inr rfl) (loose_five _)
        hends hopens (error_of_right_fails hpoints hfails) hcomes
  | @product frames before front operator left position houter hloose hoperator hleft ih =>
      have hopens := Opens.product position houter hloose hoperator hleft
      have hfree : operator ≠ .power := by rcases hoperator with rfl | rfl <;> simp
      have hcomes := ih (begins_none (front ++ ⟨.operator operator.symbol, position⟩ :: rest))
        (hfails.close (.binary operator position left)) herror
      simpa using comesTo_or_blamed_left hpoints hleft (begins_none _) (Or.inl rfl) hloose
        (.of_symbol hfree position rest) hopens (error_of_right_fails hpoints hfails) hcomes
  | @adjoined frames before front last next left houter hloose hadjoins hleft ih =>
      obtain ⟨rest, rfl⟩ := List.head?_eq_some_iff.mp (hbegins next rfl)
      have hopens := Opens.adjoined houter hloose hadjoins hleft
      have hcomes := ih (begins_none (front ++ [last] ++ next :: rest))
        (hfails.close (.adjoined left)) herror
      simpa using comesTo_or_blamed_left hpoints hleft (begins_none _) (Or.inl rfl) hloose
        (.of_adjoins hadjoins rest) hopens error_of_adjoined hcomes
  | @sum frames before front operator left position houter hloose hoperator hleft ih =>
      have hopens := Opens.sum position houter hloose hoperator hleft
      have hfree : operator ≠ .power := by rcases hoperator with rfl | rfl <;> simp
      have hcomes := ih (begins_none (front ++ ⟨.operator operator.symbol, position⟩ :: rest))
        (hfails.close (.binary operator position left)) herror
      simpa using comesTo_or_blamed_left hpoints hleft (begins_none _) (Or.inl rfl) hloose
        (.of_symbol hfree position rest) hopens (error_of_right_fails hpoints hfails) hcomes

/-- Where reading halts, a token is to blame if anything with a position is reported. It is the
token where it halts, or the bracket that was not closed there. Every way in which reading halts has
its own token, and the two that report no position are excluded. -/
theorem Halts.blamed {frames : List Frame} {before rest : List Token} {stop : Tree}
    (h : Halts frames rest stop) (hcomes : ComesTo scope none frames before)
    (herror : stop.value scope = .error cause) : Blamed scope (before ++ rest) cause := by
  have hinside {inner after : List Token} {tree : Tree} (hinner : Derives .expression inner tree)
      (hloose : Loose 1 frames) (hafter : Category.expression.Ends inner after)
      (hvalue : tree.value scope = .error cause) :
      Blamed scope (before ++ (inner ++ after)) cause := by
    rw [← List.append_assoc]
    exact hinner.blamed hpoints hcomes (begins_none _) (Or.inl rfl) hloose hafter hvalue
  cases h with
  | tooDeep | ended =>
      cases herror
      exact absurd rfl hpoints
  | @unexpected _ token rest htoken =>
      cases herror
      exact ⟨before, token, rest, rfl, .unexpected rest hcomes htoken⟩
  | @unclosed bracket frames opening inner rest tree hbracket hinner hrest =>
      rcases bind_eq_error_iff.mp herror with hvalue | ⟨x, hvalue, hcause⟩
      · exact hinside hinner (loose_bracket hbracket frames) (.of_numbers hrest) hvalue
      · cases hcause
        obtain ⟨front, rfl⟩ := hcomes.opens.exists_opening hbracket
        exact ⟨front, _, inner ++ rest, by simp,
          .unclosed hcomes hinner (Tree.value_eq_ok_iff.mp hvalue) hrest⟩
  | @unmatched inner tree position rest hinner =>
      obtain rfl := hcomes.opens.eq_nil
      rcases bind_eq_error_iff.mp herror with hvalue | ⟨x, hvalue, hcause⟩
      · exact hinside hinner (loose_nil 1) (.of_closing position rest) hvalue
      · cases hcause
        have hevaluates := Tree.value_eq_ok_iff.mp hvalue
        exact ⟨inner, _, rest, rfl, .unmatched position rest hinner hevaluates⟩
  | @unconsumed inner tree value position rest hinner =>
      obtain rfl := hcomes.opens.eq_nil
      rcases bind_eq_error_iff.mp herror with hvalue | ⟨x, hvalue, hcause⟩
      · refine hinside hinner (loose_nil 1) (.of_numbers ?_) hvalue
        rintro _ ⟨⟩
        exact ⟨value, rfl⟩
      · cases hcause
        exact ⟨inner, _, rest, rfl,
          .unconsumed value position rest hinner (Tree.value_eq_ok_iff.mp hvalue)⟩

/-- If the evaluation of some tokens fails with a position, one of them is to blame. Either they are
a phrase that fails, or reading them halts somewhere. -/
theorem blamed_of_value {read : List Token}
    (herror : (Tree.ofTokens read).value scope = .error cause) : Blamed scope read cause := by
  have hread : read ≠ [] := by
    rintro rfl
    cases herror
    exact hpoints rfl
  rcases derives_or_haltsIn_ofTokens hread with hderives | ⟨frames, before, rest, stop, hopens,
    hhalts, rfl, hstop⟩
  · have hends : Category.expression.Ends read [] := .of_numbers (by rintro _ ⟨⟩)
    simpa using hderives.blamed hpoints (.start scope) (begins_none _) (Or.inl rfl) (loose_nil 1)
      hends herror
  · rw [← hstop] at herror
    rcases hopens.comesTo_or_blamed hpoints (begins_none rest) hhalts.fails herror with
      ⟨hvalue, hcomes⟩ | hblamed
    · exact hhalts.blamed hpoints hcomes hvalue
    · exact hblamed

end Phrases

end Reckoner.Expression
