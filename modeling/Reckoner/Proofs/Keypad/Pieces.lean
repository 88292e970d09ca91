import Mathlib.Data.List.SplitBy
import Reckoner.Keypad
import Reckoner.Proofs.Expression.Rereading

/-!
Texts composed on the keypad. What is inserted key by key falls into pieces: the digits and points
typed in a row are one, and every other insertion is a piece of its own.
-/

namespace Reckoner.Keypad

open Expression

def numericKeys : List String := ["0", "1", "2", "3", "4", "5", "6", "7", "8", "9", "."]

def operatorKeys : List String := ["+", "-", "×", "÷", "^"]

/-- What is inserted other than digits and points: operators, and the texts of the function keys and
literal keys under either modifier. -/
def wholeInsertions : List String :=
  operatorKeys ++ functionKeys.flatMap (fun key => [key.2.primary, key.2.second]) ++
    literalKeys.map (·.2)

def isNumeric (text : String) : Bool := numericKeys.contains text

/-- Do two texts inserted one after the other belong to one piece? Digits and points do, for a
number is typed key by key. -/
def together (text next : String) : Bool := isNumeric text && isNumeric next

/-- The texts inserted, with those of digit keys and point keys in a row taken together. Joined, the
pieces are the same text as before. -/
def pieces (texts : List String) : List String :=
  (texts.splitBy together).map String.join

/-- Digits and points, and at least one of them. It need not be a number: points may stand in it
where none belongs. -/
def IsRun (piece : String) : Prop :=
  piece ≠ "" ∧ ∀ c ∈ piece.toList, isNumberChar c = true

instance : DecidablePred IsRun := fun piece =>
  decidable_of_iff (piece ≠ "" ∧ piece.toList.all isNumberChar = true)
    (and_congr_right fun _ => List.all_eq_true)

/-- The kinds of pieces. They exclude one another, since no whole insertion is made of digits and
points. -/
def IsPiece (piece : String) : Prop := IsRun piece ∨ piece ∈ wholeInsertions

theorem isRun_of_mem_numericKeys : ∀ text ∈ numericKeys, IsRun text := by decide

theorem not_isRun_of_mem_wholeInsertions : ∀ piece ∈ wholeInsertions, ¬ IsRun piece := by
  decide

theorem isRun_append {front back : String} (hfront : IsRun front)
    (hback : ∀ c ∈ back.toList, isNumberChar c = true) : IsRun (front ++ back) := by
  refine ⟨fun hempty => hfront.1 (String.append_eq_empty_iff.mp hempty).1, ?_⟩
  intro c hc
  rw [String.toList_append, List.mem_append] at hc
  exact hc.elim (hfront.2 c) (hback c)

theorem isRun_join {texts : List String} (hne : texts ≠ [])
    (h : ∀ text ∈ texts, isNumeric text = true) : IsRun (String.join texts) := by
  induction texts with
  | nil => exact absurd rfl hne
  | cons text texts ih =>
      have hrun := isRun_of_mem_numericKeys text (List.contains_iff_mem.mp (h text (by simp)))
      rw [String.join_cons]
      apply isRun_append hrun
      cases texts with
      | nil => simp
      | cons next texts =>
          exact (ih (by simp) fun other hin => h other (List.mem_cons_of_mem text hin)).2

theorem isNumeric_of_together {text next : String} {texts : List String}
    (h : (text :: next :: texts).IsChain fun text next => together text next = true) :
    ∀ other ∈ text :: next :: texts, isNumeric other = true := by
  induction texts generalizing text next with
  | nil =>
      simpa [together] using h
  | cons third texts ih =>
      obtain ⟨hfirst, hrest⟩ := List.isChain_cons_cons.mp h
      have hnumeric : isNumeric text = true := by
        simp only [together, Bool.and_eq_true] at hfirst
        exact hfirst.1
      intro other hin
      rcases List.mem_cons.mp hin with rfl | hin
      · exact hnumeric
      · exact ih hrest other hin

section Pieces

variable {texts : List String} (h : ∀ text ∈ texts, text ∈ numericKeys ∨ text ∈ wholeInsertions)

include h

/-- A group of texts that form a piece is one whole insertion, or digits and points. For a group of
more than one is made of neighbours that belong together. So a group with a whole insertion in it
has nothing else. -/
theorem group_cases {group : List String} (hgroup : group ∈ texts.splitBy together) :
    (group ≠ [] ∧ ∀ text ∈ group, isNumeric text = true) ∨
      ∃ text ∈ wholeInsertions, group = [text] := by
  have hne : group ≠ [] := by
    rintro rfl
    exact List.nil_notMem_splitBy _ _ hgroup
  have hmem : ∀ text ∈ group, text ∈ texts := by
    intro text hin
    rw [← List.flatten_splitBy together texts]
    exact List.mem_flatten.mpr ⟨group, hgroup, hin⟩
  have hchain := List.isChain_of_mem_splitBy hgroup
  cases group with
  | nil => exact absurd rfl hne
  | cons text group =>
      cases group with
      | nil =>
          rcases h text (hmem text (by simp)) with hnumeric | hwhole
          · refine Or.inl ⟨hne, fun other hin => ?_⟩
            rw [List.mem_singleton.mp hin]
            exact List.contains_iff_mem.mpr hnumeric
          · exact Or.inr ⟨text, hwhole, rfl⟩
      | cons next group => exact Or.inl ⟨hne, isNumeric_of_together hchain⟩

theorem isPiece_of_mem {piece : String} (hpiece : piece ∈ pieces texts) : IsPiece piece := by
  obtain ⟨group, hgroup, rfl⟩ := List.mem_map.mp hpiece
  rcases group_cases h hgroup with ⟨hne, hnumeric⟩ | ⟨text, hwhole, rfl⟩
  · exact Or.inl (isRun_join hne hnumeric)
  · right
    rwa [String.join_cons, String.join_nil, String.append_empty]

/-- Runs are maximal: what is next to a run is no run, or the two would be one piece. -/
theorem pieces_apart :
    (pieces texts).IsChain fun piece next => IsRun piece → ¬ IsRun next := by
  have hchain := List.isChain_getLast_head_splitBy together texts
  have hnumeric {group : List String} (hgroup : group ∈ texts.splitBy together)
      (hrun : IsRun (String.join group)) : ∀ text ∈ group, isNumeric text = true := by
    rcases group_cases h hgroup with ⟨-, hnumeric⟩ | ⟨text, hwhole, rfl⟩
    · exact hnumeric
    · rw [String.join_cons, String.join_nil, String.append_empty] at hrun
      exact absurd hrun (not_isRun_of_mem_wholeInsertions text hwhole)
  rw [pieces, List.isChain_map]
  apply hchain.imp_of_mem_imp
  rintro group next hgroup hnext ⟨hne, hnextNe, hapart⟩ hrun hnextRun
  have hlast := hnumeric hgroup hrun _ (List.getLast_mem hne)
  have hhead := hnumeric hnext hnextRun _ (List.head_mem hnextNe)
  rw [together, hlast, hhead] at hapart
  cases hapart

end Pieces

theorem join_pieces (texts : List String) : String.join (pieces texts) = String.join texts := by
  have hgroups (groups : List (List String)) :
      String.join (groups.map String.join) = String.join groups.flatten := by
    apply String.toList_injective
    rw [String.toList_join, String.toList_join, List.flatMap_map, List.flatten_eq_flatMap,
      List.flatMap_assoc]
    simp only [String.toList_join, id_eq]
  rw [pieces, hgroups, List.flatten_splitBy]

/-- Whatever follows, the text is rewritten as it is alone. So a row of such texts may be rewritten
one after the other. -/
def Detached (chars : List Char) : Prop := ∀ rest : List Char,
  symbolTable.foldl replaceSymbol (chars ++ rest) =
    symbolTable.foldl replaceSymbol chars ++ symbolTable.foldl replaceSymbol rest

theorem foldl_replaceSymbol_plain {chars : List Char} (h : ∀ c ∈ chars, Plain c) :
    symbolTable.foldl replaceSymbol chars = chars := by
  have hkept := foldl_replaceSymbol_append (fun _ => id) h []
  rw [List.append_nil] at hkept
  rw [hkept]
  exact List.append_nil chars

theorem detached_of_plain {chars : List Char} (h : ∀ c ∈ chars, Plain c) : Detached chars := by
  intro rest
  rw [foldl_replaceSymbol_append (fun _ => id) h, foldl_replaceSymbol_plain h]

/-- The insertions that are rewritten. Each is a symbol of the table as a whole, so nothing that
comes after it is needed to find it. -/
def rewrittenInsertions : List String := ["×", "÷", "π", "lg(", "ln("]

theorem plain_of_mem_wholeInsertions : ∀ piece ∈ wholeInsertions,
    piece ∈ rewrittenInsertions ∨ piece.toList.all (fun c => decide (Plain c)) = true := by
  decide

theorem plain_of_isNumberChar {c : Char} (h : isNumberChar c = true) : Plain c := by
  simp only [isNumberChar, Bool.or_eq_true, decide_eq_true_eq] at h
  apply plain_of_character
  rcases h with h | rfl
  · exact Or.inl h
  · exact Or.inr (by simp)

theorem IsRun.replaceSymbols {piece : String} (h : IsRun piece) :
    (replaceSymbols piece).toList = piece.toList := by
  rw [Expression.replaceSymbols, String.toList_ofList]
  apply foldl_replaceSymbol_plain
  exact fun c hc => plain_of_isNumberChar (h.2 c hc)

theorem detached_of_isPiece {piece : String} (h : IsPiece piece) : Detached piece.toList := by
  rcases h with hrun | hwhole
  · apply detached_of_plain
    exact fun c hc => plain_of_isNumberChar (hrun.2 c hc)
  rcases plain_of_mem_wholeInsertions piece hwhole with hrewritten | hplain
  · intro rest
    simp only [rewrittenInsertions, List.mem_cons, List.not_mem_nil, or_false] at hrewritten
    rcases hrewritten with rfl | rfl | rfl | rfl | rfl <;>
      simp [symbolTable, replaceSymbol, Text.replaceAll, Text.replaceFrom, List.isPrefixOf]
  · exact detached_of_plain (plain_of_all hplain)

/-- What the evaluator reads of some pieces: since every piece is detached, this is the rewriting of
their whole text. -/
def rewritten (pieces : List String) : List Char :=
  pieces.flatMap fun piece => (replaceSymbols piece).toList

theorem toList_replaceSymbols_join {pieces : List String} (h : ∀ piece ∈ pieces, IsPiece piece) :
    (replaceSymbols (String.join pieces)).toList = rewritten pieces := by
  rw [replaceSymbols, String.toList_ofList, String.toList_join]
  induction pieces with
  | nil => decide
  | cons piece pieces ih =>
      have hpiece := detached_of_isPiece (h piece (by simp))
      have hrest := ih fun other hin => h other (List.mem_cons_of_mem piece hin)
      rw [List.flatMap_cons, hpiece, hrest]
      simp only [rewritten, List.flatMap_cons, replaceSymbols, String.toList_ofList]

theorem first_of_mem_wholeInsertions : ∀ piece ∈ wholeInsertions,
    (replaceSymbols piece).toList.head?.any (fun c => decide (c ≠ '.' ∧
      (Numeral.isMark c = true → piece = "e" ∨ piece = "e^") ∧
      (c = '+' ∨ c = '-' → piece = "+" ∨ piece = "-"))) = true := by
  decide

/-- The first characters that an exponent may begin with belong to few pieces. So whether a number
goes on in what follows is told by the pieces and need not be read off the text. -/
theorem exists_first {piece : String} (h : IsPiece piece) :
    ∃ c others, (replaceSymbols piece).toList = c :: others ∧ (c = '.' → IsRun piece) ∧
      (Numeral.isMark c = true → piece = "e" ∨ piece = "e^") ∧
      (c = '+' ∨ c = '-' → piece = "+" ∨ piece = "-") := by
  rcases h with hrun | hwhole
  · obtain ⟨c, others, hchars⟩ :=
      List.exists_cons_of_ne_nil fun hnil => hrun.1 (String.toList_eq_nil_iff.mp hnil)
    have hc := hrun.2 c (by simp [hchars])
    refine ⟨c, others, by rw [hrun.replaceSymbols, hchars], fun _ => hrun, ?_, ?_⟩
    · intro hmark
      rw [isMark_of_isNumberChar hc] at hmark
      cases hmark
    · rintro (rfl | rfl) <;> cases hc
  · obtain ⟨c, hc, hfirst⟩ :=
      (Option.any_eq_true _ _).mp (first_of_mem_wholeInsertions piece hwhole)
    obtain ⟨hpoint, hmark, hsign⟩ := of_decide_eq_true hfirst
    obtain ⟨others, hchars⟩ := List.head?_eq_some_iff.mp hc
    exact ⟨c, others, hchars, fun heq => absurd heq hpoint, hmark, hsign⟩

theorem all_solid_of_mem_wholeInsertions : ∀ piece ∈ wholeInsertions,
    (replaceSymbols piece).toList.all (fun c => !Text.isBlank c) = true := by
  decide

theorem isBlank_of_isPiece {piece : String} (h : IsPiece piece) :
    ∀ c ∈ (replaceSymbols piece).toList, Text.isBlank c = false := by
  rcases h with hrun | hwhole
  · intro c hc
    rw [hrun.replaceSymbols] at hc
    have hc := hrun.2 c hc
    simp only [isNumberChar, Bool.or_eq_true, decide_eq_true_eq] at hc
    rcases hc with hdigit | rfl
    · exact isBlank_of_isDigit hdigit
    · decide
  · intro c hc
    have hsolid := List.all_eq_true.mp (all_solid_of_mem_wholeInsertions piece hwhole) c hc
    rwa [Bool.not_eq_true'] at hsolid

end Reckoner.Keypad
