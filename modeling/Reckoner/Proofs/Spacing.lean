import Mathlib.Logic.Relation
import Reckoner.Proofs.Continuation
import Reckoner.Proofs.Expression.Spacing

/-!
Blanks in an input. They may be added wherever one token of the rewritten input ends and another
begins, without changing the outcome. The exception is the place before the bracket of a logarithm:
the display writes the logarithms as symbols that end in a bracket, so the name alone is not
rewritten, and no scope has it.
-/

namespace Reckoner

open Expression

/-- The rewritten input is read up to some token, and what is left is what becomes of the input
after the cut. -/
def Cut (before after : String) : Prop :=
  ∃ segments, Reads 0 (replaceSymbols (before ++ after)).toList segments
    (replaceSymbols after).toList

/-- The cut is before the bracket of a logarithm, the name of which is a token of its own. If it is
the end of a longer name, there is no logarithm to be lost. -/
def CutsLogarithm (before after : String) : Prop :=
  ∃ logarithm ∈ logarithms, ∃ front rest, before = front ++ logarithm.1 ∧ after = "(" ++ rest ∧
    Cut front (logarithm.1 ++ after)

/-- Blanks are added to an input between two tokens, before the first one or after the last one.
Tokens are those of the rewritten input. -/
inductive Spaced : String → String → Prop where
  | insert {before after : String} (blanks : String) (hcut : Cut before after)
      (hlogarithm : ¬ CutsLogarithm before after)
      (hblanks : ∀ c ∈ blanks.toList, Text.isBlank c = true) :
      Spaced (before ++ after) (before ++ blanks ++ after)

theorem Agree.trans {result result' result'' : Except FormatError Outcome}
    (h : Agree result result') (h' : Agree result' result'') : Agree result result'' := by
  cases h with
  | same => exact h'
  | rejected cause cause' =>
      cases h' with
      | same => exact .rejected cause cause'
      | rejected _ cause'' => exact .rejected cause cause''

def functionNames : List String :=
  ["sin", "cos", "tan", "asin", "acos", "atan", "sqrt", "log", "log10", "exp", "abs"]

theorem keys_standard (mode : AngleMode) : (Scope.standard mode).map Prod.fst = functionNames := by
  cases mode <;> rfl

theorem find?_standard {name : String} (h : name ∉ functionNames) (mode : AngleMode) :
    (Scope.standard mode).find? name = none := by
  rw [Scope.find?, List.lookup_eq_none_iff]
  intro key hkey
  rw [bne_iff_ne]
  rintro rfl
  apply h
  rw [← keys_standard mode]
  exact List.mem_map_of_mem hkey

/-- No function has a name that ends in that of a logarithm on the keypad. So such a name that is
left as it is stands for nothing. -/
theorem unknown_of_logarithm {logarithm : String × String} (h : logarithm ∈ logarithms)
    (part : List Char) : String.ofList (part ++ logarithm.1.toList) ∉ functionNames := by
  have hnames : ∀ logarithm ∈ logarithms, ∀ name ∈ functionNames,
      ¬ logarithm.1.toList <:+ name.toList := by
    decide
  intro hmem
  apply hnames logarithm h _ hmem
  rw [String.toList_ofList]
  exact List.suffix_append part logarithm.1.toList

/-- No function has a name that ends in that of a logarithm, other than the logarithm itself. So
letters before a logarithm make it an unknown name. -/
theorem unknown_of_rewritten {logarithm : String × String} (h : logarithm ∈ logarithms)
    {part : List Char} (hpart : part ≠ []) :
    String.ofList (part ++ logarithm.2.toList) ∉ functionNames := by
  have hnames : ∀ logarithm ∈ logarithms, ∀ name ∈ functionNames,
      logarithm.2.toList <:+ name.toList → name.toList = logarithm.2.toList := by
    decide
  intro hmem
  have hname := hnames logarithm h _ hmem
  rw [String.toList_ofList] at hname
  exact hpart (List.append_left_eq_self.mp (hname (List.suffix_append part _)))

theorem wordChars_logarithm {logarithm : String × String} (h : logarithm ∈ logarithms) :
    ∀ word ∈ [logarithm.1.toList, logarithm.2.toList], word ≠ [] ∧
      (∀ c ∈ word, Text.isWordChar c = true) ∧ ∀ c ∈ word.head?, ¬ Numeral.Character c := by
  have hall : ∀ logarithm ∈ logarithms, ∀ word ∈ [logarithm.1.toList, logarithm.2.toList],
      word ≠ [] ∧ word.all Text.isWordChar = true ∧
        word.head?.all (fun c => decide (¬ Numeral.Character c)) = true := by
    unfold Numeral.Character
    decide
  intro word hword
  obtain ⟨hne, hletters, hfirst⟩ := hall logarithm h word hword
  refine ⟨hne, List.all_eq_true.mp hletters, fun c hc => ?_⟩
  rw [Option.mem_def.mp hc] at hfirst
  exact of_decide_eq_true hfirst

theorem toList_replaceSymbols (text : String) :
    (replaceSymbols text).toList = symbolTable.foldl replaceSymbol text.toList := by
  rw [replaceSymbols, String.toList_ofList]

/-- Blanks are kept, and what stands before and after them is rewritten in parts. No symbol has a
blank in it, so none stands across them. -/
theorem foldl_replaceSymbol_spaced {blanks : List Char} (hne : blanks ≠ [])
    (hblanks : ∀ c ∈ blanks, Text.isBlank c = true) (chars rest : List Char) :
    symbolTable.foldl replaceSymbol (chars ++ (blanks ++ rest)) =
      symbolTable.foldl replaceSymbol chars ++
        (blanks ++ symbolTable.foldl replaceSymbol rest) := by
  have hsymbols : ∀ symbol ∈ symbolTable,
      symbol.1.toList.all (fun c => !Text.isBlank c) = true := by
    decide
  have hnot {c : Char} (hc : Text.isBlank c = true) {symbol : String × String}
      (hsymbol : symbol ∈ symbolTable) : c ∉ symbol.1.toList := by
    intro hmem
    have hsolid := List.all_eq_true.mp (hsymbols symbol hsymbol) c hmem
    rw [hc] at hsolid
    cases hsolid
  rw [foldl_replaceSymbol_parts, foldl_replaceSymbol_append (fun _ => id)]
  · intro c hc symbol hsymbol hhead
    exact hnot (hblanks c hc) hsymbol (List.mem_of_head? hhead)
  · intro symbol hsymbol hstraddles
    obtain ⟨c, hhead, hmem⟩ := hstraddles.head
    obtain ⟨d, others, rfl⟩ := List.exists_cons_of_ne_nil hne
    obtain rfl := Option.mem_some.mp hhead
    exact hnot (hblanks _ List.mem_cons_self) hsymbol hmem

/-- No cut is within the name of a logarithm. The name is rewritten with the bracket that follows,
so no token ends between its letters. -/
theorem Cut.not_within {before after : String} (h : Cut before after) {logarithm : String × String}
    (hlogarithm : logarithm ∈ logarithms) {front rest : List Char} {first last : Char}
    (hname : logarithm.1.toList = [first, last]) (hbefore : before.toList = front ++ [first])
    (hafter : after.toList = last :: '(' :: rest) : False := by
  have hlast : ∀ logarithm ∈ logarithms, logarithm.1.toList.getLast? ≠ logarithm.2.toList.getLast? ∧
      logarithm.2.toList ≠ [] ∧
      logarithm.1.toList.tail.all (fun c => decide (Plain c)) = true := by
    decide
  obtain ⟨hdiffer, hne, hplain⟩ := hlast logarithm hlogarithm
  obtain ⟨segments, hreads⟩ := h
  have hwhole : before.toList ++ after.toList = front ++ (logarithm.1.toList ++ '(' :: rest) := by
    simp [hbefore, hafter, hname]
  have hkept : symbolTable.foldl replaceSymbol after.toList =
      [last, '('] ++ symbolTable.foldl replaceSymbol rest := by
    have hchars : after.toList = [last, '('] ++ rest := hafter
    rw [hchars]
    apply foldl_replaceSymbol_append fun _ => id
    rw [hname] at hplain
    have hbracket : Plain '(' := by decide
    have hlastPlain : Plain last := plain_of_all hplain last (by simp)
    exact List.forall_mem_cons.mpr ⟨hlastPlain, List.forall_mem_singleton.mpr hbracket⟩
  have hsplit := hreads.written_append
  rw [toList_replaceSymbols, toList_replaceSymbols, String.toList_append, hwhole,
    foldl_replaceSymbol_logarithm hlogarithm, hkept] at hsplit
  have hends : written segments ++ [last] =
      symbolTable.foldl replaceSymbol front ++ logarithm.2.toList := by
    have hbracketed : written segments ++ [last] ++ '(' :: symbolTable.foldl replaceSymbol rest =
        symbolTable.foldl replaceSymbol front ++ logarithm.2.toList ++
          '(' :: symbolTable.foldl replaceSymbol rest := by
      simpa using hsplit
    exact List.append_cancel_right hbracketed
  apply hdiffer
  have hlasts := congrArg List.getLast? hends
  rw [List.getLast?_append_of_ne_nil _ hne, List.getLast?_concat] at hlasts
  rw [← hlasts, hname]
  rfl

variable (mode : AngleMode) {logarithm : String × String}

/-- With blanks before its bracket, a logarithm is no function. Its name is not rewritten then, and
the names in scope are those of the rewritten input. -/
theorem not_yields_spaced_logarithm (h : logarithm ∈ logarithms) {blanks : List Char}
    (hne : blanks ≠ []) (hblanks : ∀ c ∈ blanks, Text.isBlank c = true) (front rest : List Char)
    (value : Binary64) :
    ¬ (Progress.operand []).Yields (.standard mode) 0
      (symbolTable.foldl replaceSymbol (front ++ logarithm.1.toList ++ (blanks ++ '(' :: rest)))
      value := by
  obtain ⟨hname, hword, hnumeral⟩ := wordChars_logarithm h _ List.mem_cons_self
  have hbracket : symbolTable.foldl replaceSymbol ('(' :: rest) =
      '(' :: symbolTable.foldl replaceSymbol rest :=
    foldl_replaceSymbol_cons (fun _ => id) (by decide) rest
  rw [foldl_replaceSymbol_spaced hne hblanks, foldl_replaceSymbol_name h, hbracket]
  refine not_yields_unknown_call (fun segments hreads => ?_) hblanks _
  obtain ⟨earlier, part, start, -, rfl⟩ := hreads.exists_last_name hname hword hnumeral
  exact ⟨earlier, _, start, _, rfl, find?_standard (unknown_of_logarithm h part) mode⟩

/-- A logarithm that is the end of a longer name is no function either. So there the input is
rejected with blanks and without them. -/
theorem not_yields_joined_logarithm (h : logarithm ∈ logarithms) {front rest : String}
    (hjoined : ¬ Cut front (logarithm.1 ++ ("(" ++ rest))) (value : Binary64) :
    ¬ (Progress.operand []).Yields (.standard mode) 0
      (symbolTable.foldl replaceSymbol (front.toList ++ (logarithm.1.toList ++ '(' :: rest.toList)))
      value := by
  obtain ⟨hname, hword, hnumeral⟩ :=
    wordChars_logarithm h logarithm.2.toList (List.mem_cons_of_mem _ List.mem_cons_self)
  rw [foldl_replaceSymbol_logarithm h, ← List.append_assoc]
  change ¬ (Progress.operand []).Yields _ 0 (_ ++ ([] ++ '(' :: _)) value
  refine not_yields_unknown_call (fun segments hreads => ?_) (by simp) _
  obtain ⟨earlier, part, start, hfront, rfl⟩ := hreads.exists_last_name hname hword hnumeral
  refine ⟨earlier, _, start, _, rfl, find?_standard (unknown_of_rewritten h ?_) mode⟩
  rintro rfl
  apply hjoined
  have hcall := foldl_replaceSymbol_logarithm h [] rest.toList
  have hnil : symbolTable.foldl replaceSymbol [] = [] := by decide
  have hbracket : ∀ d ∈ ('(' :: symbolTable.foldl replaceSymbol rest.toList).head?,
      Separates d := by
    rintro _ ⟨⟩
    exact separates_bracket.1
  have hwhole := hreads.append hbracket
  refine ⟨earlier, ?_⟩
  simp only [toList_replaceSymbols, String.toList_append, String.reduceToList, List.cons_append,
    List.nil_append, hnil] at hcall ⊢
  rw [foldl_replaceSymbol_logarithm h, hcall, ← List.append_assoc]
  simpa [written, Segment.chars] using hwhole.front

/-- Blanks between two tokens do not change the outcome. Where no symbol stands across the cut, the
texts before and after it are rewritten alike. -/
theorem Spaced.agree {raw spaced : String} (h : Spaced raw spaced) (mode : AngleMode)
    (places : Int) :
    Agree (evaluatePrimary mode places raw) (evaluatePrimary mode places spaced) := by
  cases h with
  | @insert before after blanks hcut hlogarithm hblanks =>
      by_cases hempty : blanks.toList = []
      · obtain rfl := String.toList_eq_nil_iff.mp hempty
        rw [String.append_empty]
        exact .same _
      apply agree_of_evaluate
      intro value
      rw [evaluate_eq_ok_iff_yields, evaluate_eq_ok_iff_yields]
      apply and_congr_left'
      by_cases hstraddles : ∃ symbol ∈ symbolTable,
          Text.Straddles symbol.1.toList before.toList after.toList
      · obtain ⟨symbol, hsymbol, hstraddles⟩ := hstraddles
        obtain ⟨logarithm, hmem, ⟨front, rest, hbefore, hafter⟩ |
          ⟨front, rest, first, last, hname, hbefore, hafter⟩⟩ := straddles_cases hsymbol hstraddles
        · -- The name is not that of a function, whether it is rewritten or not.
          obtain ⟨front, rfl⟩ : ∃ text : String, front = text.toList :=
            ⟨String.ofList front, String.toList_ofList.symm⟩
          obtain ⟨rest, rfl⟩ : ∃ text : String, rest = text.toList :=
            ⟨String.ofList rest, String.toList_ofList.symm⟩
          obtain rfl : before = front ++ logarithm.1 :=
            String.toList_inj.mp (by rw [hbefore, String.toList_append])
          obtain rfl : after = "(" ++ rest :=
            String.toList_inj.mp (by rw [hafter, String.toList_append]; rfl)
          have hjoined : ¬ Cut front (logarithm.1 ++ ("(" ++ rest)) := fun hfront =>
            hlogarithm ⟨logarithm, hmem, front, rest, rfl, rfl, hfront⟩
          have hraw := not_yields_joined_logarithm mode hmem hjoined value
          have hspaced := not_yields_spaced_logarithm mode hmem hempty hblanks
            front.toList rest.toList value
          apply iff_of_false
          · simpa [toList_replaceSymbols] using hraw
          · simpa [toList_replaceSymbols] using hspaced
        · exact (hcut.not_within hmem hname hbefore hafter).elim
      · simp only [not_exists, not_and] at hstraddles
        obtain ⟨segments, hreads⟩ := hcut
        simp only [toList_replaceSymbols, String.toList_append] at hreads ⊢
        rw [foldl_replaceSymbol_parts hstraddles] at hreads ⊢
        rw [List.append_assoc, foldl_replaceSymbol_spaced hempty hblanks]
        exact hreads.yields_spaced_iff hblanks

/-- Blanks between tokens, as many as there are and wherever they stand, do not change the outcome.
Only before the bracket of a logarithm they do: there its name is not rewritten, and the input is
rejected. -/
theorem evaluatePrimary_spaced (mode : AngleMode) (places : Int) :
    (∀ raw spaced, Relation.ReflTransGen Spaced raw spaced →
      Agree (evaluatePrimary mode places raw) (evaluatePrimary mode places spaced)) ∧
    ∀ before blanks after, CutsLogarithm before after → blanks ≠ "" →
      (∀ c ∈ blanks.toList, Text.isBlank c = true) →
      ∃ cause, evaluatePrimary mode places (before ++ blanks ++ after) = .ok (.rejected cause) := by
  constructor
  · intro raw spaced h
    induction h with
    | refl => exact .same _
    | tail _ hstep ih => exact ih.trans (hstep.agree mode places)
  · rintro before blanks after ⟨logarithm, hmem, front, rest, rfl, rfl, -⟩ hne hblanks
    have hempty : blanks.toList ≠ [] := fun h => hne (String.toList_eq_nil_iff.mp h)
    have hnot := not_yields_spaced_logarithm mode hmem hempty hblanks front.toList
      rest.toList
    cases hvalue : evaluate (.standard mode)
        (replaceSymbols (front ++ logarithm.1 ++ blanks ++ ("(" ++ rest))) with
    | ok value =>
        refine absurd (evaluate_eq_ok_iff_yields.mp hvalue).1 ?_
        simpa [toList_replaceSymbols] using hnot value
    | error cause => exact ⟨cause, by rw [evaluatePrimary, hvalue]⟩

/-- A blank before a logarithm is passed over, and one before its bracket is an error. -/
theorem two_logarithms_spaced :
    Relation.ReflTransGen Spaced ("2" ++ "ln(1)") ("2" ++ " " ++ "ln(1)") ∧
      CutsLogarithm "2ln" "(1)" ∧ (" " : String) ≠ "" ∧
      (∀ c ∈ (" " : String).toList, Text.isBlank c = true) ∧
      Agree (evaluatePrimary .radians 10 ("2" ++ "ln(1)"))
        (evaluatePrimary .radians 10 ("2" ++ " " ++ "ln(1)")) ∧
      ∃ cause, evaluatePrimary .radians 10 ("2ln" ++ " " ++ "(1)") = .ok (.rejected cause) := by
  have hwhole : (replaceSymbols ("2" ++ "ln(1)")).toList = '2' :: "log(1)".toList := by
    decide +kernel
  have hrest : (replaceSymbols "ln(1)").toList = "log(1)".toList := by decide +kernel
  have hcut : Cut "2" "ln(1)" := by
    unfold Cut
    rw [hwhole, hrest]
    exact ⟨_, .scanned (by decide +kernel) rfl (.stop _ _)⟩
  have hbefore : ¬ CutsLogarithm "2" "ln(1)" := by
    rintro ⟨-, -, -, rest, -, hafter, -⟩
    have hfirst := congrArg (·.toList.head?) hafter
    simp at hfirst
  have hlogarithm : CutsLogarithm "2ln" "(1)" :=
    ⟨("ln", "log"), by decide, "2", "1)", by decide, by decide, hcut⟩
  have hblank : ∀ c ∈ (" " : String).toList, Text.isBlank c = true :=
    List.all_eq_true.mp (by decide +kernel)
  have hspaced : Relation.ReflTransGen Spaced ("2" ++ "ln(1)") ("2" ++ " " ++ "ln(1)") :=
    .single (.insert " " hcut hbefore hblank)
  obtain ⟨hagree, hrejected⟩ := evaluatePrimary_spaced .radians 10
  exact ⟨hspaced, hlogarithm, by decide, hblank, hagree _ _ hspaced,
    hrejected "2ln" " " "(1)" hlogarithm (by decide) hblank⟩

/-- The logarithm of what is not a number is some value, and a power zero of that and infinity is
one. -/
theorem evaluate_power_of_logarithm :
    evaluate (.standard .radians) "(log(1e999-1e999)+1e999)^0" = .ok 1 := by
  let read : List Token := [⟨.opening, 0⟩, ⟨.name "log", 1⟩, ⟨.opening, 4⟩,
    ⟨.number (.infinity false), 5⟩, ⟨.operator .minus, 10⟩, ⟨.number (.infinity false), 11⟩,
    ⟨.closing, 16⟩, ⟨.operator .plus, 17⟩, ⟨.number (.infinity false), 18⟩, ⟨.closing, 23⟩,
    ⟨.operator .power, 24⟩, ⟨.number 0, 25⟩]
  have htokens : tokens "(log(1e999-1e999)+1e999)^0" = .ok read := by decide +kernel
  have htree : Tree.ofTokens read = .binary .power 24
      (.group (.binary .add 17 (.call "log" 1 (.binary .subtract 10 (.number (.infinity false))
        (.number (.infinity false)))) (.number (.infinity false)))) (.number 0) := rfl
  obtain ⟨x, hlog⟩ := Binary64.exists_log_nan
  have hsum : (x + .infinity false).isFinite = false := by
    rw [Bool.eq_false_iff]
    intro hfinite
    cases (Binary64.isFinite_of_add hfinite).2
  rw [evaluate_eq_ok_iff]
  refine ⟨read, htokens, ?_, by decide +kernel⟩
  rw [htree]
  exact .power 24 (.group (.add 17 (.call 1 rfl (.subtract 10 (.number _) (.number _)) hlog)
    (.number _))) (.number 0) (Binary64.pow_zero_of_not_finite hsum)

/-- Between the name of a logarithm and its bracket there are two tokens, and a blank there makes a
failure of a success. -/
theorem logarithm_apart_from_bracket :
    Cut "(ln" "(1e999-1e999)+1e999)^0" ∧
      (tokens (replaceSymbols ("(ln" ++ "(1e999-1e999)+1e999)^0"))).toOption.isSome = true ∧
      Text.isBlank ' ' = true ∧
      evaluatePrimary .radians 10 ("(ln" ++ "(1e999-1e999)+1e999)^0") =
        .ok (.success "1" false) ∧
      evaluatePrimary .radians 10 ("(ln" ++ " " ++ "(1e999-1e999)+1e999)^0") =
        .ok (.rejected (.unknownFunction "ln" 1)) := by
  have hwhole : replaceSymbols ("(ln" ++ "(1e999-1e999)+1e999)^0") =
      "(log(1e999-1e999)+1e999)^0" := by
    decide +kernel
  have hrest : replaceSymbols "(1e999-1e999)+1e999)^0" = "(1e999-1e999)+1e999)^0" := by
    decide +kernel
  have hshown : formatResult 1 10 = .ok "1" := by decide +kernel
  refine ⟨?_, by decide +kernel, by decide +kernel, ?_, by decide +kernel⟩
  · unfold Cut
    rw [hwhole, hrest]
    exact ⟨_, .scanned (by decide +kernel) rfl (.scanned (by decide +kernel) rfl (.stop _ _))⟩
  · rw [evaluatePrimary, hwhole, evaluate_power_of_logarithm]
    dsimp only
    rw [hshown]
    rfl

end Reckoner
