import Reckoner.Proofs.Expression.Culprit
import Reckoner.Proofs.Expression.FirstError

/-!
Positions point at culprits. An evaluation that comes to a culprit reports it: what stands before it
has brought the reader into the frames that the culprit stands in, and there the culprit is the
first thing wrong. With the converse this says exactly when an error is reported with a position,
and where. Only the depth limit may come before a culprit unnoticed by the grammar.
-/

namespace Reckoner.Expression

variable {scope : Scope} {cause : Error} {frame : Frame} {frames : List Frame} {tree : Tree}

open Progress

/-- After a phrase that has a value, inside frames that admit it, the reader has its tree or was cut
short. -/
theorem Derives.cutShort_or_pending {category : Category} {tokens : List Token} {x : Binary64}
    (h : Derives category tokens tree) (hvalue : tree.Evaluates scope x)
    (hloose : Loose category.outerRank frames) (hopen : openDepth frames ≤ depthLimit)
    (hadmits : ∀ frame ∈ frames, frame.Admits scope) :
    (tokens.foldl Progress.read (.operand frames)).CutShort scope ∨
      (tokens.foldl Progress.read (.operand frames)).Pending category.rank frames tree := by
  have hreached := h.reached frames hloose hopen
  rcases Int.lt_or_le depthLimit (openDepth frames + tree.depth) with hdeep | hfits
  · obtain ⟨cut, hstate, hcut⟩ := hreached.stopped hdeep
    exact Or.inl ⟨_, hstate, value_closeAll (operandError?_of_admits hadmits (hcut scope x hvalue))⟩
  · exact Or.inr (hreached.pending hfits)

/-- The reader stands before an operand inside the frames, whether it has noticed that yet or not,
or it was cut short. A factor without an operator is noticed at its first token only. -/
def Progress.StandsBefore (scope : Scope) (promised : Option Token) (frames : List Frame)
    (state : Progress) : Prop :=
  state.CutShort scope ∨ openDepth frames ≤ depthLimit ∧ ∀ rest, Begins promised rest →
    rest.foldl Progress.read state = rest.foldl Progress.read (.operand frames)

theorem standsBefore_enter (h : ∀ outer ∈ frame :: frames, outer.Admits scope) :
    (enter frame frames).StandsBefore scope none (frame :: frames) := by
  unfold enter
  split
  · rename_i hopen
    exact Or.inr ⟨hopen, fun _ _ => rfl⟩
  · exact Or.inl ⟨_, rfl, value_closeAll (operandError?_of_admits h rfl)⟩

/-- What is read from there on is read inside the frames. If the limit has been exceeded before, it
stays so. -/
theorem Progress.StandsBefore.foldl {promised promised' : Option Token} {frames' : List Frame}
    {state : Progress} {tokens : List Token} (h : state.StandsBefore scope promised frames)
    (hbegins : Begins promised tokens)
    (hnext : openDepth frames ≤ depthLimit →
      (tokens.foldl Progress.read (.operand frames)).StandsBefore scope promised' frames') :
    (tokens.foldl Progress.read state).StandsBefore scope promised' frames' := by
  rcases h with hcut | ⟨hopen, hread⟩
  · exact Or.inl (hcut.foldl tokens)
  · rw [hread tokens hbegins]
    exact hnext hopen

/-- After the left operand of a sum or a product comes the right one. The left one is closed, as are
the frames that bind more tightly. -/
theorem standsBefore_binary {category : Category} {operator : Binary} {position : Nat}
    {left : Tree} {front : List Token} (hleft : Derives category front left)
    (hadmits : ∀ outer ∈ .binary operator position left :: frames, outer.Admits scope)
    (hloose : Loose operator.rank frames) (hcategory : category.outerRank = operator.rank)
    (hrank : operator.rank ≤ category.rank) (hoperator : operator ≠ .power)
    (hopen : openDepth frames ≤ depthLimit) :
    ((front ++ [(⟨.operator operator.symbol, position⟩ : Token)]).foldl Progress.read
      (.operand frames)).StandsBefore scope none (.binary operator position left :: frames) := by
  obtain ⟨⟨x, hx⟩, houter⟩ := List.forall_mem_cons.mp hadmits
  rw [List.foldl_append]
  rcases hleft.cutShort_or_pending hx (hcategory ▸ hloose) hopen houter with hcut | hpending
  · exact Or.inl (hcut.foldl _)
  · have hread := (hpending.mono hrank).read_binary hoperator hloose position
    rw [List.foldl_cons, List.foldl_nil, hread]
    refine Or.inr ⟨?_, fun _ _ => rfl⟩
    simpa only [openDepth, free_depth hoperator, Int.zero_add] using hopen

/-- Where frames that admit their last parts are open, the reader has come to the innermost of them.
The induction is on how the frames were opened, and the operands in between have values, since their
frames admit what follows. -/
theorem Opens.standsBefore {promised : Option Token} {before : List Token}
    (h : Opens promised frames before) (hadmits : ∀ frame ∈ frames, frame.Admits scope) :
    (before.foldl Progress.read (.operand [])).StandsBefore scope promised frames := by
  induction h with
  | start => exact Or.inr ⟨by decide, fun _ _ => rfl⟩
  | group position _ hbegins ih =>
      rw [List.foldl_append]
      apply (ih (List.forall_mem_cons.mp hadmits).2).foldl hbegins
      exact fun _ => standsBefore_enter hadmits
  | call function position opening _ hbegins ih =>
      have hbegins' := hbegins.append (List.cons_ne_nil _ _) [⟨.opening, opening⟩]
      rw [List.foldl_append]
      apply (ih (List.forall_mem_cons.mp hadmits).2).foldl hbegins'
      exact fun _ => standsBefore_enter hadmits
  | sign negative position _ ih =>
      rw [List.foldl_append]
      apply (ih (List.forall_mem_cons.mp hadmits).2).foldl (begins_none _)
      cases negative <;> exact fun _ => standsBefore_enter hadmits
  | @power promised frames before front base position _ hbegins hbase ih =>
      obtain ⟨⟨x, hx⟩, houter⟩ := List.forall_mem_cons.mp hadmits
      rw [List.append_assoc, List.foldl_append]
      apply (ih houter).foldl (hbegins.append hbase.ne_nil _)
      intro hopen
      rw [List.foldl_append]
      rcases hbase.cutShort_or_pending hx (loose_five _) hopen houter with hcut | hpending
      · exact Or.inl (hcut.foldl _)
      · have hread := hpending.holds.read ⟨.operator .power, position⟩ (by simp)
        rw [List.foldl_cons, List.foldl_nil, hread]
        exact standsBefore_enter hadmits
  | product position _ hloose hoperator hleft ih =>
      rw [List.append_assoc, List.foldl_append]
      apply (ih (List.forall_mem_cons.mp hadmits).2).foldl (begins_none _)
      intro hopen
      rcases hoperator with rfl | rfl
      · exact standsBefore_binary hleft hadmits hloose rfl (by decide) (by simp) hopen
      · exact standsBefore_binary hleft hadmits hloose rfl (by decide) (by simp) hopen
  | sum position _ hloose hoperator hleft ih =>
      rw [List.append_assoc, List.foldl_append]
      apply (ih (List.forall_mem_cons.mp hadmits).2).foldl (begins_none _)
      intro hopen
      rcases hoperator with rfl | rfl
      · exact standsBefore_binary hleft hadmits hloose rfl (by decide) (by simp) hopen
      · exact standsBefore_binary hleft hadmits hloose rfl (by decide) (by simp) hopen
  | @adjoined frames before front last next left _ hloose hadjoins hleft ih =>
      obtain ⟨⟨x, hx⟩, houter⟩ := List.forall_mem_cons.mp hadmits
      rw [List.foldl_append]
      apply (ih houter).foldl (begins_none _)
      intro hopen
      rcases hleft.cutShort_or_pending hx hloose hopen houter with hcut | hpending
      · exact Or.inl hcut
      · have hopening := complete_of_adjoins hadjoins hpending
        have hread := hpending.read_adjoined hloose (next_of_adjoins hadjoins) hopening
        have hopen' : openDepth (.adjoined left :: frames) ≤ depthLimit := by
          simp only [openDepth, Frame.depth]
          omega
        refine Or.inr ⟨hopen', fun rest hbegins => ?_⟩
        obtain ⟨others, rfl⟩ := List.head?_eq_some_iff.mp (hbegins next rfl)
        rw [List.foldl_cons, hread, ← List.foldl_cons]

namespace Progress

/-- If the tokens end here, the error is reported, unless the limit was exceeded before. The limit
may stop the reader anywhere, so it is the one other thing that can be reported. -/
def Reports (scope : Scope) (cause : Error) (state : Progress) : Prop :=
  state.finish.value scope = .error cause ∨ state.finish.value scope = .error .tooDeep

theorem CutShort.reports {state : Progress} (h : state.CutShort scope) (tokens : List Token) :
    (tokens.foldl Progress.read state).Reports scope cause := by
  exact Or.inr (h.foldl tokens).value_finish

theorem reports_foldl {state : Progress} (h : state.error? scope = some cause)
    (tokens : List Token) : (tokens.foldl Progress.read state).Reports scope cause :=
  Or.inl (value_finish_foldl h tokens)

theorem StandsBefore.reports {promised : Option Token} {state : Progress} {tokens : List Token}
    (h : state.StandsBefore scope promised frames) (hbegins : Begins promised tokens)
    (hnext : openDepth frames ≤ depthLimit →
      (tokens.foldl Progress.read (.operand frames)).Reports scope cause) :
    (tokens.foldl Progress.read state).Reports scope cause := by
  rcases h with hcut | ⟨hopen, hread⟩
  · exact hcut.reports tokens
  · rw [hread tokens hbegins]
    exact hnext hopen

end Progress

theorem readOperand_unexpected {token : Token} (h : BeginsNoPhrase token) (frames : List Frame) :
    readOperand frames token = fail frames (.unexpectedToken token.lexeme token.position) := by
  have hlexeme := beginsNoPhrase_iff.mp h
  obtain ⟨lexeme, position⟩ := token
  cases lexeme with
  | number | name | opening => cases hlexeme
  | closing => rfl
  | operator operator =>
      cases operator with
      | plus | minus => cases hlexeme
      | times | divide | power | bang => rfl

theorem value_broken {x : Binary64} (h : tree.Evaluates scope x) (error : Error) :
    (Tree.broken tree error).value scope = .error error := by
  simp only [Tree.value, Tree.value_eq_ok_iff.mpr h]
  rfl

/-- Frames that bind more tightly than a sum or a product are closed before any token but a mark.
Closing them beforehand makes no difference to such a token. -/
theorem readAfter_reduce {token : Token}
    (h : token.lexeme ≠ .operator .bang ∧ token.lexeme ≠ .operator .power) :
    readAfter (reduce 2 frames tree).1 (reduce 2 frames tree).2 token =
      readAfter frames tree token := by
  obtain ⟨lexeme, position⟩ := token
  cases lexeme with
  | number | closing =>
      simp only [readAfter, readForeign, readClosing, reduce_reduce (Nat.le_succ 1)]
  | name | opening => simp only [readAfter, Binary.rank, reduce_reduce (Nat.le_refl 2)]
  | operator operator =>
      cases operator with
      | plus | minus | times | divide => simp [readAfter, readBinary, Binary.rank, reduce_reduce]
      | power => exact absurd rfl h.2
      | bang => exact absurd rfl h.1

theorem finishValue_reduce (frames : List Frame) (tree : Tree) :
    finishValue (reduce 2 frames tree).1 (reduce 2 frames tree).2 = finishValue frames tree := by
  simp only [finishValue, reduce_reduce (Nat.le_succ 1)]

section Bracket

variable {bracket : Frame} {outer : List Frame} {opening : Nat} {inner : Tree}
  (hbracket : bracket.opening? = some opening)

include hbracket

/-- A number after the expression in a bracket stops the reader, and the bracket is reported. The
number itself would be, were there no bracket. -/
theorem readForeign_bracket (h : reduce 1 frames tree = (bracket :: outer, inner))
    (foreign : Error) :
    readForeign frames tree foreign =
      .stopped (closeAll (bracket :: outer) (.broken inner (.unclosed opening))) := by
  unfold readForeign
  rw [h]
  cases bracket with
  | binary | adjoined | sign => cases hbracket
  | group | call =>
      cases hbracket
      rfl

theorem finishValue_bracket (h : reduce 1 frames tree = (bracket :: outer, inner)) :
    finishValue frames tree = closeAll (bracket :: outer) (.broken inner (.unclosed opening)) := by
  unfold finishValue
  rw [h]
  cases bracket with
  | binary | adjoined | sign => cases hbracket
  | group | call =>
      cases hbracket
      rfl

end Bracket

/-- A name without a value is reported, unless the bracket of a call follows. Until then it might be
a function that is called. -/
theorem reports_named {name : String} {position : Nat} {after : List Token}
    (h : nameValue scope name position = .error cause)
    (hadmits : ∀ frame ∈ frames, frame.Admits scope)
    (hafter : ∀ next ∈ after.head?, next.lexeme ≠ .opening) :
    (after.foldl Progress.read (.named frames name position)).Reports scope cause := by
  have herror : operandError? scope frames (.name name position) = some cause :=
    operandError?_of_admits hadmits h
  cases after with
  | nil => exact Or.inl (value_finishValue herror)
  | cons next rest =>
      have hread := (Holds.named frames name position).read next fun h => absurd h (hafter next rfl)
      rw [List.foldl_cons, hread]
      exact reports_foldl (error?_readAfter herror next) rest

/-- After an expression that has a value, inside frames that admit it, nothing but the frames is
open once all that binds has been closed, or the reader was cut short. -/
theorem Derives.cutShort_or_reduced {tokens : List Token} {x : Binary64}
    (h : Derives .expression tokens tree) (hvalue : tree.Evaluates scope x)
    (hloose : Loose 1 frames) (hopen : openDepth frames ≤ depthLimit)
    (hadmits : ∀ frame ∈ frames, frame.Admits scope) :
    (tokens.foldl Progress.read (.operand frames)).CutShort scope ∨ ∃ opened operand,
      (tokens.foldl Progress.read (.operand frames)).Holds opened operand ∧
        reduce 1 opened operand = (frames, tree) :=
  (h.cutShort_or_pending hvalue hloose hopen hadmits).imp_right fun hpending =>
    hpending.reduce hloose

/-- The left operand of a division stands in frames that do not bind more tightly. Those that do
were closed before it was complete. -/
theorem Opens.loose_of_division {promised : Option Token} {position : Nat} {left : Tree}
    {tokens : List Token} (h : Opens promised (.binary .divide position left :: frames) tokens) :
    Loose 2 frames := by
  cases h with
  | product _ _ hloose _ _ => exact hloose
  | sum _ _ _ hoperator _ => rcases hoperator with hoperator | hoperator <;> cases hoperator

/-- A divisor that is zero is reported, if it ends where the tokens do, or where another token than
a mark follows. The operand is closed by what follows, and that is when the division is made. -/
theorem reports_division {position : Nat} {left right : Tree} {divisor rest : List Token}
    {y : Binary64} (hdivisor : Derives .unary divisor right)
    (hends : Category.unary.Ends divisor rest) (hvalue : right.Evaluates scope y)
    (hzero : y.isZero = true) (hloose : Loose 2 frames)
    (hopen : openDepth (.binary .divide position left :: frames) ≤ depthLimit)
    (hadmits : ∀ frame ∈ .binary .divide position left :: frames, frame.Admits scope) :
    ((divisor ++ rest).foldl Progress.read
      (.operand (.binary .divide position left :: frames))).Reports scope
        (.divisionByZero position) := by
  obtain ⟨⟨x, hx⟩, houter⟩ := List.forall_mem_cons.mp hadmits
  have herror : (Tree.binary .divide position left right).value scope =
      .error (.divisionByZero position) := by
    simp only [Tree.value, Tree.value_eq_ok_iff.mpr hx, Tree.value_eq_ok_iff.mpr hvalue]
    exact if_pos hzero
  rw [List.foldl_append]
  rcases hdivisor.cutShort_or_pending hvalue (loose_five _) hopen hadmits with hcut | hpending
  · exact hcut.reports rest
  have hclosed := (hpending.mono (Nat.le_succ 2)).close (Nat.le_refl 2)
  obtain ⟨opened, operand, hholds, hreduce⟩ := hclosed.reduce hloose
  have hreduced : operandError? scope (reduce 2 opened operand).1 (reduce 2 opened operand).2 =
      some (.divisionByZero position) := by
    rw [hreduce]
    exact operandError?_of_admits houter herror
  cases rest with
  | nil =>
      left
      rw [List.foldl_nil, hholds.finish, ← finishValue_reduce]
      exact value_finishValue hreduced
  | cons next rest =>
      obtain ⟨front, last, rfl⟩ : ∃ front last, divisor = front ++ [last] :=
        ⟨_, _, (List.dropLast_concat_getLast hdivisor.ne_nil).symm⟩
      have hopening (hnext : next.lexeme = .opening) := by
        have hadjoins : last.adjoins next = true := by
          have hlast := hends.uncalled last (by simp) next rfl hnext
          cases hlexeme : last.lexeme with
          | name name => exact absurd hlexeme (hlast name)
          | number | operator | opening | closing => simp [Token.adjoins, hlexeme, hnext]
        exact complete_of_adjoins hadjoins hpending hnext
      have hmark := hends.unmarked (by decide) next rfl
      rw [List.foldl_cons, hholds.read next hopening, ← readAfter_reduce hmark]
      exact reports_foldl (error?_readAfter hreduced next) rest

/-- A bracket is reported if the tokens end after the expression in it, or a number follows. No
other token can stand there without belonging to the expression. -/
theorem reports_unclosed {bracket : Frame} {position : Nat} {inner rest : List Token}
    {x : Binary64} (hbracket : bracket.opening? = some position)
    (hinner : Derives .expression inner tree) (hvalue : tree.Evaluates scope x)
    (hrest : ∀ next ∈ rest.head?, ∃ value, next.lexeme = .number value)
    (hopen : openDepth (bracket :: frames) ≤ depthLimit)
    (hadmits : ∀ frame ∈ bracket :: frames, frame.Admits scope) :
    ((inner ++ rest).foldl Progress.read (.operand (bracket :: frames))).Reports scope
      (.unclosed position) := by
  have hbroken := value_closeAll
    (operandError?_of_admits hadmits (value_broken hvalue (.unclosed position)))
  rw [List.foldl_append]
  rcases hinner.cutShort_or_reduced hvalue (loose_bracket hbracket frames) hopen hadmits with
    hcut | ⟨opened, operand, hholds, hreduce⟩
  · exact hcut.reports rest
  cases rest with
  | nil =>
      left
      rw [List.foldl_nil, hholds.finish, finishValue_bracket hbracket hreduce]
      exact hbroken
  | cons next rest =>
      obtain ⟨value, hnext⟩ := hrest next rfl
      have hread := hholds.read next (by simp [hnext])
      simp only [readAfter, hnext] at hread
      rw [List.foldl_cons, hread, readForeign_bracket hbracket hreduce]
      apply reports_foldl
      exact failure?_eq_some.mpr hbroken

/-- What stops the reader after a whole expression is reported. The expression has a value, so no
error comes before. -/
theorem reports_after_expression {before : List Token} {token : Token} {x : Binary64}
    (hread : Derives .expression before tree) (hvalue : tree.Evaluates scope x)
    (htoken : token.lexeme ≠ .opening)
    (hstop : ∀ opened operand, reduce 1 opened operand = ([], tree) →
      readAfter opened operand token = .stopped (.broken tree cause)) (after : List Token) :
    ((before ++ token :: after).foldl Progress.read (.operand [])).Reports scope cause := by
  rw [List.foldl_append]
  rcases hread.cutShort_or_reduced hvalue (loose_nil 1) (by decide) (by simp) with
    hcut | ⟨opened, operand, hholds, hreduce⟩
  · exact hcut.reports (token :: after)
  · rw [List.foldl_cons, hholds.read token fun h => absurd h htoken, hstop opened operand hreduce]
    apply reports_foldl
    exact failure?_eq_some.mpr (value_broken hvalue cause)

/-- An evaluation that comes to a culprit reports it. There is one case for each kind of culprit,
and what comes before it is the same in all of them. -/
theorem Blames.reports {before after : List Token} {token : Token}
    (h : Blames scope before token after cause) :
    ((before ++ token :: after).foldl Progress.read (.operand [])).Reports scope cause := by
  cases h with
  | @unexpected frames _ _ _ hcomes htoken =>
      rw [List.foldl_append]
      apply (hcomes.opens.standsBefore hcomes.admits).reports (begins_none _)
      intro _
      have hread : Progress.read (.operand frames) token =
          fail frames (.unexpectedToken token.lexeme token.position) :=
        readOperand_unexpected htoken frames
      rw [List.foldl_cons, hread]
      exact reports_foldl (error?_fail (operandError?_of_admits hcomes.admits rfl)) after
  | unconsumed value position after hread hvalue =>
      apply reports_after_expression hread hvalue (by simp)
      intro opened operand hreduce
      simp only [readAfter, readForeign]
      rw [hreduce]
      rfl
  | unmatched position after hread hvalue =>
      apply reports_after_expression hread hvalue (by simp)
      intro opened operand hreduce
      simp only [readAfter, readClosing]
      rw [hreduce]
  | unclosed hcomes hinner hvalue hrest =>
      obtain ⟨_, _, heq, hbracket⟩ := hcomes.opens.exists_bracket
      cases heq
      rw [List.append_cons, List.foldl_append]
      apply (hcomes.opens.standsBefore hcomes.admits).reports (begins_none _)
      exact fun hopen => reports_unclosed hbracket hinner hvalue hrest hopen hcomes.admits
  | @unknownFunction promised frames before name position opening after hcomes hbegins
      hfunction =>
      have hbegins' := hbegins.append (List.cons_ne_nil _ _) (⟨.opening, opening⟩ :: after)
      have herror : framesError? scope (.call name position opening :: frames) =
          some (.unknownFunction name position) := by
        simp [framesError?, framesError?_eq_none hcomes.admits, Frame.error?, hfunction]
      rw [List.foldl_append]
      apply (hcomes.opens.standsBefore hcomes.admits).reports hbegins'
      exact fun _ => reports_foldl (error?_enter herror) after
  | uncalledFunction hcomes hbegins hafter hconstant hfunction =>
      have hbegins' := hbegins.append (List.cons_ne_nil _ _) after
      rw [List.foldl_append]
      apply (hcomes.opens.standsBefore hcomes.admits).reports hbegins'
      intro _
      exact reports_named (by simp [nameValue, hconstant, hfunction]) hcomes.admits hafter
  | unknownName hcomes hbegins hafter hconstant hfunction =>
      have hbegins' := hbegins.append (List.cons_ne_nil _ _) after
      rw [List.foldl_append]
      apply (hcomes.opens.standsBefore hcomes.admits).reports hbegins'
      intro _
      exact reports_named (by simp [nameValue, hconstant, hfunction]) hcomes.admits hafter
  | division hcomes hdivisor hends hvalue hzero =>
      have hloose := hcomes.opens.loose_of_division
      rw [List.append_cons, List.foldl_append]
      apply (hcomes.opens.standsBefore hcomes.admits).reports (begins_none _)
      exact fun hopen => reports_division hdivisor hends hvalue hzero hloose hopen hcomes.admits

/-- The token consists of the characters that stand in the text at its position. So a position in an
error points at characters, and not at a number of tokens. -/
def Token.StandsIn (token : Token) (text : String) : Prop :=
  ∃ before slice after, text.toList = before ++ slice ++ after ∧
    before.length = token.position ∧ IsLexeme token.lexeme slice

/-- What an error points at, and where that stands in the text: the first character that is not
blank and begins no lexeme, or if there is none, the token that is to blame. -/
inductive Culprit (scope : Scope) (text : String) : Error → Nat → Prop where
  | character {segments : List Segment} {c : Char} {rest : List Char}
      (hreads : Reads 0 text.toList segments (c :: rest)) (hstuck : Stuck c rest) :
      Culprit scope text (.unexpectedCharacter c (written segments).length)
        (written segments).length
  | token {before after : List Token} {token : Token} {cause : Error}
      (hread : tokens text = .ok (before ++ token :: after)) (hstands : token.StandsIn text)
      (hblames : Blames scope before token after cause) :
      Culprit scope text cause token.position

theorem standsIn_of_tokens {text : String} {read : List Token} (h : tokens text = .ok read)
    {token : Token} (htoken : token ∈ read) : token.StandsIn text := by
  rcases tokens_cases text with ⟨segments, hreads, hread⟩ | ⟨segments, c, rest, -, -, hread⟩
  · obtain rfl := Except.ok.inj (hread.symm.trans h)
    obtain ⟨segment, hsegment, hfound⟩ := List.mem_filterMap.mp htoken
    cases segment with
    | blank => cases hfound
    | token found slice =>
        obtain rfl : found = token := Option.some.inj hfound
        obtain ⟨hlexeme, before, after, hsplit, hposition⟩ := hreads.token_of_mem hsegment
        exact ⟨before, slice, after, hsplit, by omega, hlexeme⟩
  · rw [h] at hread
    cases hread

theorem Token.StandsIn.position_lt {token : Token} {text : String} (h : token.StandsIn text) :
    token.position < text.length := by
  obtain ⟨before, slice, after, hsplit, hposition, hlexeme⟩ := h
  have hlength := congrArg List.length hsplit
  have hpos := hlexeme.length_pos
  rw [String.length_toList, List.length_append, List.length_append] at hlength
  omega

theorem Culprit.position_lt {text : String} {position : Nat}
    (h : Culprit scope text cause position) :
    position < text.length := by
  cases h with
  | token _ hstands _ => exact hstands.position_lt
  | character hreads _ =>
      have hlength := congrArg List.length hreads.written_append
      rw [String.length_toList, List.length_append, List.length_cons] at hlength
      omega

theorem culprit_of_evaluate {text : String} {position : Nat}
    (h : evaluate scope text = .error cause) (hposition : cause.position? = some position) :
    Culprit scope text cause position := by
  have hpoints : cause.position? ≠ none := by simp [hposition]
  rcases bind_eq_error_iff.mp h with hread | ⟨read, hread, hrest⟩
  · rcases tokens_cases text with ⟨segments, -, hread'⟩ | ⟨segments, c, rest, hreads, hstuck,
      hread'⟩
    · rw [hread] at hread'
      cases hread'
    · obtain rfl := Except.error.inj (hread'.symm.trans hread)
      cases hposition
      exact .character hreads hstuck
  · rcases bind_eq_error_iff.mp hrest with hvalue | ⟨x, -, hfinite⟩
    · obtain ⟨before, token, after, rfl, hblames⟩ := blamed_of_value hpoints hvalue
      obtain rfl := Option.some.inj (hposition.symm.trans hblames.position_eq)
      have hstands := standsIn_of_tokens hread (List.mem_append_right before List.mem_cons_self)
      exact .token hread hstands hblames
    · split at hfinite
      · cases hfinite
      · cases hfinite
        exact absurd rfl hpoints

theorem Culprit.evaluate {text : String} {position : Nat} (h : Culprit scope text cause position) :
    cause.position? = some position ∧ (Expression.evaluate scope text = .error cause ∨
      Expression.evaluate scope text = .error .tooDeep) := by
  cases h with
  | character hreads hstuck =>
      exact ⟨rfl, Or.inl (evaluate_of_tokens_error (hreads.tokens_of_stuck hstuck))⟩
  | @token before after _ _ hread _ hblames =>
      have hreports := hblames.reports
      rw [Reports, ← ofTokens_of_ne_nil (by simp)] at hreports
      exact ⟨hblames.position_eq,
        hreports.imp (evaluate_of_value_error hread) (evaluate_of_value_error hread)⟩

/-- Positions point at culprits. An error with a position is reported exactly if its culprit stands
there in the text, unless the expression is nested too deeply. -/
theorem error_position_iff_culprit (scope : Scope) (text : String) (cause : Error)
    (position : Nat) :
    evaluate scope text = .error cause ∧ cause.position? = some position ↔
      position < text.length ∧ Culprit scope text cause position ∧
        evaluate scope text ≠ .error .tooDeep := by
  constructor
  · rintro ⟨h, hposition⟩
    have hculprit := culprit_of_evaluate h hposition
    refine ⟨hculprit.position_lt, hculprit, ?_⟩
    intro hdeep
    rw [h] at hdeep
    cases hdeep
    cases hposition
  · rintro ⟨-, hculprit, hfits⟩
    obtain ⟨hposition, hreported⟩ := hculprit.evaluate
    exact ⟨hreported.resolve_right hfits, hposition⟩

/-- The quotient fails before the bracket around it is missed. Both errors are there, and the one
that was read first is reported. -/
example : evaluate (.standard .radians) "2(1/(3-3!/2) 5" = .error (.divisionByZero 3) := by
  decide +kernel

end Reckoner.Expression
