import Reckoner.Proofs.Expression.Symbols
import Reckoner.Proofs.Text.Rewriting

/-!
The display's symbols are replaced one after the other, which comes to replacing them all at once.
So a text may be rewritten in parts, as long as no symbol stands across a cut. Only the logarithms
are symbols of several characters, and the cut in them that the rewritten text keeps is the one
before the bracket.
-/

namespace Reckoner.Expression

open Text

variable {chars others out : List Char}

theorem rewrites_foldl {symbols : List (String × String)}
    (hne : ∀ symbol ∈ symbols, symbol.1.toList ≠ []) (h : symbols.Pairwise Independent)
    (chars : List Char) : Rewrites symbols chars (symbols.foldl replaceSymbol chars) := by
  induction symbols using List.reverseRecOn with
  | nil =>
      induction chars with
      | nil => exact .nil
      | cons c rest ih => exact .keep (by simp) ih
  | append_singleton symbols symbol ih =>
      obtain ⟨hbefore, -, hsymbol⟩ := List.pairwise_append.mp h
      have hlast : symbol.1.toList ≠ [] := hne symbol (by simp)
      have hmiddle := ih (fun other hother => hne other (List.mem_append_left _ hother)) hbefore
      rw [List.foldl_append]
      apply hmiddle.snoc (rewrites_replaceAll hlast _) hlast
      exact fun other hother => hsymbol other hother symbol (List.mem_singleton_self symbol)

/-- Whichever of two symbols is replaced first, the other one is found as before. It is checked for
every pair of the table, and for no text. -/
theorem independent_symbols :
    ∀ symbol ∈ symbolTable, ∀ other ∈ symbolTable, symbol ≠ other → Independent symbol other := by
  decide

/-- The symbols may be replaced in any order. What each of them does to a text is independent of
what the others have done. -/
theorem rewrites_foldl_of_perm {table : List (String × String)} (htable : table.Perm symbolTable)
    (chars : List Char) : Rewrites symbolTable chars (table.foldl replaceSymbol chars) := by
  have hdistinct : table.Nodup := htable.nodup_iff.mpr (by decide)
  have hpairwise : table.Pairwise Independent := by
    refine hdistinct.imp_of_mem fun hsymbol hother hne => ?_
    exact independent_symbols _ (htable.mem_iff.mp hsymbol) _ (htable.mem_iff.mp hother) hne
  have hne : ∀ symbol ∈ table, symbol.1.toList ≠ [] := fun symbol hsymbol =>
    symbol_ne_nil symbol (htable.mem_iff.mp hsymbol)
  exact (rewrites_foldl hne hpairwise chars).of_mem_iff fun _ => htable.mem_iff

theorem rewrites_symbols (chars : List Char) :
    Rewrites symbolTable chars (symbolTable.foldl replaceSymbol chars) :=
  rewrites_foldl_of_perm (.refl symbolTable) chars

/-- Whatever replaces the symbols all at once gives the rewritten text. There is only one way to do
that, so one description of it is enough. -/
theorem foldl_replaceSymbol_eq (h : Rewrites symbolTable chars out) :
    symbolTable.foldl replaceSymbol chars = out :=
  (rewrites_symbols chars).unique h (by decide) symbol_ne_nil

/-- A rewritten text has nothing left to be replaced. No replacement holds a symbol, and none
completes one with what stands around it. -/
theorem foldl_replaceSymbol_again (chars : List Char) :
    symbolTable.foldl replaceSymbol (symbolTable.foldl replaceSymbol chars) =
      symbolTable.foldl replaceSymbol chars :=
  foldl_replaceSymbol_eq ((rewrites_symbols chars).again (by decide))

/-- The symbols are replaced in whichever order, or all in one pass from left to right, with the
same result; and replacing them again changes nothing. -/
theorem replaceSymbols_simultaneous {table : List (String × String)}
    (htable : table.Perm symbolTable) (text : String) :
    String.ofList (table.foldl replaceSymbol text.toList) = replaceSymbols text ∧
      String.ofList (replaceAny table text.toList) = replaceSymbols text ∧
      replaceSymbols (replaceSymbols text) = replaceSymbols text := by
  have hne : ∀ symbol ∈ table, symbol.1.toList ≠ [] := fun symbol hsymbol =>
    symbol_ne_nil symbol (htable.mem_iff.mp hsymbol)
  have hsequence := foldl_replaceSymbol_eq (rewrites_foldl_of_perm htable text.toList)
  have hpass := foldl_replaceSymbol_eq
    ((rewrites_replaceAny hne text.toList).of_mem_iff fun _ => htable.mem_iff)
  refine ⟨?_, ?_, ?_⟩
  · rw [replaceSymbols, hsequence]
  · rw [replaceSymbols, hpass]
  · rw [replaceSymbols, replaceSymbols, String.toList_ofList, foldl_replaceSymbol_again]

/-- What is written for one logarithm ends as the symbol for another one does. Still nothing is
replaced twice, whichever of the two comes first. -/
theorem logarithms_from_last_to_first :
    symbolTable.reverse.Perm symbolTable ∧
      String.ofList (symbolTable.reverse.foldl replaceSymbol "2πlln(llg(−3".toList) =
        replaceSymbols "2πlln(llg(−3" ∧
      String.ofList (replaceAny symbolTable.reverse "2πlln(llg(−3".toList) =
        replaceSymbols "2πlln(llg(−3" ∧
      replaceSymbols (replaceSymbols "2πlln(llg(−3") = replaceSymbols "2πlln(llg(−3" ∧
      replaceSymbols "2πlln(llg(−3" = "2pillog(llog10(-3" := by
  obtain ⟨hsequence, hpass, hagain⟩ :=
    replaceSymbols_simultaneous (List.reverse_perm symbolTable) "2πlln(llg(−3"
  exact ⟨List.reverse_perm symbolTable, hsequence, hpass, hagain, by decide⟩

/-- Between two texts that no symbol joins, a text is rewritten in parts. What a symbol is replaced
by joins nothing either. -/
theorem foldl_replaceSymbol_parts
    (h : ∀ symbol ∈ symbolTable, ¬ Straddles symbol.1.toList chars others) :
    symbolTable.foldl replaceSymbol (chars ++ others) =
      symbolTable.foldl replaceSymbol chars ++ symbolTable.foldl replaceSymbol others :=
  foldl_replaceSymbol_eq ((rewrites_symbols chars).append (rewrites_symbols others) h)

/-- The names of the logarithms on the keypad, with those of the grammar. They are replaced only
together with the bracket after them. -/
def logarithms : List (String × String) := [("lg", "log10"), ("ln", "log")]

/-- The symbol for a logarithm is its name with the bracket after it. The bracket stands in what
replaces it as well. -/
theorem mem_symbolTable_of_logarithm :
    ∀ logarithm ∈ logarithms, (logarithm.1 ++ "(", logarithm.2 ++ "(") ∈ symbolTable := by
  decide

/-- No symbol goes on with the name of a logarithm. So what stands before such a name is rewritten
apart from it. -/
theorem not_straddles_logarithm {logarithm symbol : String × String}
    (hlogarithm : logarithm ∈ logarithms) (hsymbol : symbol ∈ symbolTable)
    (chars rest : List Char) : ¬ Straddles symbol.1.toList chars (logarithm.1.toList ++ rest) := by
  have hdiverge : ∀ logarithm ∈ logarithms, ∀ symbol ∈ symbolTable,
      ∀ part ∈ symbol.1.toList.tail.tails, part ≠ [] → Diverge part logarithm.1.toList := by
    decide
  rintro ⟨front, back, hpattern, hfront, hback, -, hbegins, heq⟩
  refine (hdiverge _ hlogarithm _ hsymbol back ?_ hback).append_ne hbegins rest heq
  obtain ⟨c, front, rfl⟩ := List.exists_cons_of_ne_nil hfront
  rw [hpattern, List.cons_append, List.tail_cons]
  exact (List.mem_tails _ _).mpr (List.suffix_append front back)

/-- A logarithm is rewritten with its bracket, whatever stands before it. Even a letter before its
name does not keep it from that. -/
theorem foldl_replaceSymbol_logarithm {logarithm : String × String}
    (hlogarithm : logarithm ∈ logarithms) (chars rest : List Char) :
    symbolTable.foldl replaceSymbol (chars ++ (logarithm.1.toList ++ '(' :: rest)) =
      symbolTable.foldl replaceSymbol chars ++
        (logarithm.2.toList ++ '(' :: symbolTable.foldl replaceSymbol rest) := by
  have hcall := Rewrites.replace (mem_symbolTable_of_logarithm _ hlogarithm) (rewrites_symbols rest)
  simp only [String.toList_append, String.reduceToList, List.append_assoc, List.cons_append,
    List.nil_append] at hcall
  apply foldl_replaceSymbol_eq
  exact (rewrites_symbols chars).append hcall fun symbol hsymbol =>
    not_straddles_logarithm hlogarithm hsymbol chars ('(' :: rest)

/-- Without a bracket after it, the name of a logarithm stays. It is not a name of the grammar then,
and will not be found. -/
theorem foldl_replaceSymbol_name {logarithm : String × String} (hlogarithm : logarithm ∈ logarithms)
    (chars : List Char) :
    symbolTable.foldl replaceSymbol (chars ++ logarithm.1.toList) =
      symbolTable.foldl replaceSymbol chars ++ logarithm.1.toList := by
  have hkept : ∀ logarithm ∈ logarithms,
      symbolTable.foldl replaceSymbol logarithm.1.toList = logarithm.1.toList := by
    decide
  rw [foldl_replaceSymbol_parts fun symbol hsymbol => ?_, hkept _ hlogarithm]
  simpa using not_straddles_logarithm hlogarithm hsymbol chars []

/-- A symbol that stands across a cut is a logarithm, cut before its bracket or in its name. All
other symbols have one character, so nothing can stand in the midst of them. The logarithms have
names of two letters, so there are just these two places. -/
theorem straddles_cases {symbol : String × String} (hsymbol : symbol ∈ symbolTable)
    (h : Straddles symbol.1.toList chars others) :
    ∃ logarithm ∈ logarithms,
      (∃ front rest, chars = front ++ logarithm.1.toList ∧ others = '(' :: rest) ∨
      ∃ front rest first last, logarithm.1.toList = [first, last] ∧ chars = front ++ [first] ∧
        others = last :: '(' :: rest := by
  obtain ⟨front, back, hpattern, hfront, hback, ⟨before, rfl⟩, after, rfl⟩ := h
  have htable : ∀ symbol ∈ symbolTable, symbol.1.toList.length = 1 ∨
      ∃ logarithm ∈ logarithms, symbol.1 = logarithm.1 ++ "(" := by
    decide
  have hnames : ∀ logarithm ∈ logarithms, ∃ first last, logarithm.1.toList = [first, last] := by
    intro logarithm hlogarithm
    exact List.length_eq_two.mp (by revert logarithm; decide)
  obtain ⟨c, front, rfl⟩ := List.exists_cons_of_ne_nil hfront
  obtain ⟨d, back, rfl⟩ := List.exists_cons_of_ne_nil hback
  rcases htable symbol hsymbol with hlength | ⟨logarithm, hlogarithm, hsymbol⟩
  · rw [hpattern] at hlength
    simp at hlength
  · obtain ⟨first, last, hname⟩ := hnames logarithm hlogarithm
    rw [hsymbol, String.toList_append, hname] at hpattern
    refine ⟨logarithm, hlogarithm, ?_⟩
    match front with
    | [] =>
        obtain ⟨rfl, rfl, rfl⟩ : first = c ∧ last = d ∧ ['('] = back := by simpa using hpattern
        exact Or.inr ⟨before, after, first, last, hname, rfl, rfl⟩
    | [e] =>
        obtain ⟨rfl, rfl, rfl, rfl⟩ : first = c ∧ last = e ∧ '(' = d ∧ [] = back := by
          simpa using hpattern
        exact Or.inl ⟨before, after, by rw [hname], rfl⟩
    | e :: f :: front => simp at hpattern

end Reckoner.Expression
