import Reckoner.Proofs.Keypad.Pieces

/-!
Where the pieces of a text composed on the keypad fuse. Alone, every insertion other than digits and
points is read as the lexemes it is spelled from. In a row the pieces keep their lexemes if and only
if no name and no number at the end of one goes on in what follows.
-/

namespace Reckoner.Keypad

open Expression

/-- A lexeme as the keypad inserts it. Its letters or digits are given, so that what a whole
insertion is read as can be written down and checked. -/
inductive Spelling where
  | symbol (c : Char)
  | name (letters : String)
  | number (digits : String)

namespace Spelling

def part : Spelling → Part
  | symbol c => ⟨(Lexeme.ofChar? c).getD .opening, [c]⟩
  | name letters => ⟨.name letters, letters.toList⟩
  | number digits => ⟨.number (Numeral.value ⟨digits.toList, none, none⟩), digits.toList⟩

def isSymbol : Spelling → Bool
  | symbol _ => true
  | _ => false

/-- Is the lexeme spelled as a lexeme of its kind can be? This is decided, so that the table of
insertions is checked by computation. -/
def isSound : Spelling → Bool
  | symbol c => symbolChars.contains c
  | name letters => letters.toList.head?.any startsName && letters.toList.all Text.isWordChar
  | number digits => !digits.isEmpty && digits.toList.all isDigit

end Spelling

/-- The lexemes of every whole insertion, after its symbols are rewritten. Of two neighbours one is
always a symbol, so within an insertion nothing fuses. -/
def readings : List (String × List Spelling) := [
  ("+", [.symbol '+']),
  ("-", [.symbol '-']),
  ("×", [.symbol '*']),
  ("÷", [.symbol '/']),
  ("^", [.symbol '^']),
  ("sin(", [.name "sin", .symbol '(']),
  ("asin(", [.name "asin", .symbol '(']),
  ("cos(", [.name "cos", .symbol '(']),
  ("acos(", [.name "acos", .symbol '(']),
  ("tan(", [.name "tan", .symbol '(']),
  ("atan(", [.name "atan", .symbol '(']),
  ("lg(", [.name "log10", .symbol '(']),
  ("10^", [.number "10", .symbol '^']),
  ("ln(", [.name "log", .symbol '(']),
  ("e^", [.name "e", .symbol '^']),
  ("sqrt(", [.name "sqrt", .symbol '(']),
  ("^2", [.symbol '^', .number "2"]),
  ("(", [.symbol '(']),
  (")", [.symbol ')']),
  ("!", [.symbol '!']),
  ("1/", [.number "1", .symbol '/']),
  ("e", [.name "e"]),
  ("π", [.name "pi"])]

theorem mem_readings : ∀ piece ∈ wholeInsertions, ∃ reading ∈ readings, reading.1 = piece := by
  decide

theorem readings_sound : ∀ reading ∈ readings,
    (replaceSymbols reading.1).toList = reading.2.flatMap (fun spelling => spelling.part.slice) ∧
      reading.2 ≠ [] ∧ (∀ spelling ∈ reading.2, spelling.isSound = true) ∧
      reading.2.IsChain (fun spelling next => (spelling.isSymbol || next.isSymbol) = true) := by
  decide

namespace Spelling

theorem part_symbol {c : Char} (h : (symbol c).isSound = true) :
    c ∈ symbolChars ∧ Lexeme.ofChar? c = some (symbol c).part.lexeme ∧
      (symbol c).part.lexeme.isName = false ∧ (symbol c).part.lexeme.isNumber = false := by
  have hc : c ∈ symbolChars := List.contains_iff_mem.mp h
  refine ⟨hc, ?_⟩
  simp only [symbolChars, List.mem_cons, List.not_mem_nil, or_false] at hc
  rcases hc with rfl | rfl | rfl | rfl | rfl | rfl | rfl | rfl <;> exact ⟨rfl, rfl, rfl⟩

theorem proper {spelling : Spelling} (h : spelling.isSound = true) : spelling.part.Proper := by
  cases spelling with
  | symbol c =>
      obtain ⟨-, hlexeme, -, hnumber⟩ := part_symbol h
      refine ⟨isLexeme_of_ofChar? hlexeme, fun hnot => ?_⟩
      rw [hnumber] at hnot
      cases hnot
  | name letters =>
      simp only [isSound, Bool.and_eq_true, List.all_eq_true] at h
      obtain ⟨hfirst, hall⟩ := h
      cases hletters : letters.toList with
      | nil =>
          rw [hletters] at hfirst
          cases hfirst
      | cons first others =>
          rw [hletters] at hfirst hall
          have hspelled : String.ofList (first :: others) = letters := by
            rw [← hletters, String.ofList_toList]
          have hlexeme := IsLexeme.name hfirst fun c hc => hall c (List.mem_cons_of_mem first hc)
          rw [hspelled, ← hletters] at hlexeme
          exact ⟨hlexeme, by simp [part, Lexeme.isNumber]⟩
  | number digits =>
      simp only [isSound, Bool.and_eq_true, List.all_eq_true, Bool.not_eq_true',
        String.isEmpty_eq_false_iff] at h
      obtain ⟨hne, hdigits⟩ := h
      have hwell : Numeral.WellFormed ⟨digits.toList, none, none⟩ := ⟨hdigits, by simp, by simp⟩
      have hlexeme := IsLexeme.number hwell (by simp [Numeral.hasDigits, hne])
      have htext : Numeral.text ⟨digits.toList, none, none⟩ = digits.toList := by
        simp [Numeral.text]
      rw [htext] at hlexeme
      refine ⟨hlexeme, fun _ c hc => ?_⟩
      exact isMark_of_isNumberChar (isNumberChar_of_isDigit (hdigits c hc))

end Spelling

/-- Nothing goes on with a symbol: no name and no number has one in it, but for the signs of
exponents, which come after a letter. -/
theorem not_goesOn_symbol {c : Char} (hc : c ∈ symbolChars) (part : Part) (rest : List Char) :
    ¬ part.GoesOn (c :: rest) := by
  obtain ⟨⟨hdigit, hpoint⟩, hword, -, -⟩ := symbolChars_facts hc
  obtain ⟨lexeme, slice⟩ := part
  have hexponent : (Numeral.scanExponent (c :: rest)).1 = none := by
    rw [Numeral.scanExponent_of_ends (ends_of_symbol hc rest)]
  have hc : c ≠ '.' := fun heq => hpoint (by simp [heq])
  cases lexeme <;> simp [Part.GoesOn, hdigit, hword, hexponent, hc]

section Spellings

variable {spellings : List Spelling} (hsound : ∀ spelling ∈ spellings, spelling.isSound = true)
  (hchain : spellings.IsChain fun spelling next => (spelling.isSymbol || next.isSymbol) = true)

include hsound hchain

theorem firm_of_spellings : Firm (spellings.map Spelling.part) := by
  rw [Firm, List.isChain_map]
  apply hchain.imp_of_mem_imp
  intro spelling next hspelling hnext hsymbol hnumber
  cases spelling with
  | symbol c =>
      rw [(Spelling.part_symbol (hsound _ hspelling)).2.2.2] at hnumber
      cases hnumber
  | name letters => cases hnumber
  | number digits =>
      cases next with
      | symbol c =>
          rintro _ ⟨⟩
          have hc := (symbolChars_facts (Spelling.part_symbol (hsound _ hnext)).1).1.2
          simp only [List.mem_cons, List.not_mem_nil, or_false, not_or] at hc
          simp [Numeral.isMark, hc.2.1, hc.2.2]
      | name | number => cases hsymbol

theorem standing_of_spellings : Standing (spellings.map Spelling.part) := by
  induction spellings with
  | nil => exact .nil
  | cons spelling rest ih =>
      have hspelling := hsound spelling (by simp)
      have hrest :=
        ih (fun other hin => hsound other (List.mem_cons_of_mem spelling hin)) hchain.tail
      refine (standing_cons_iff (Spelling.proper hspelling) _).mpr ⟨?_, hrest⟩
      cases rest with
      | nil => exact not_goesOn_nil _
      | cons next rest =>
          have hsymbol := (List.isChain_cons_cons.mp hchain).1
          rw [Bool.or_eq_true] at hsymbol
          rcases hsymbol with hfirst | hsecond
          · cases spelling with
            | symbol c =>
                obtain ⟨-, -, hname, hnumber⟩ := Spelling.part_symbol hspelling
                intro hgoes
                rcases Part.kind_of_goesOn hgoes with hkind | hkind
                · exact absurd hkind (Bool.eq_false_iff.mp hname)
                · exact absurd hkind (Bool.eq_false_iff.mp hnumber)
            | name | number => cases hfirst
          · cases next with
            | symbol c =>
                exact not_goesOn_symbol (Spelling.part_symbol (hsound _ (by simp))).1 _ _
            | name | number => cases hsecond

end Spellings

/-- The lexemes that are read of a composed text. Their places in the text are left out, since those
change when something is inserted before. -/
def lexemes (text : String) : Except Error (List Lexeme) :=
  (tokens (replaceSymbols text)).map (·.map Token.lexeme)

/-- Does a piece end with a name? Only the two constants do; every function comes with its
bracket. -/
def endsName (piece : String) : Bool := piece = "e" || piece = "π"

/-- Does a piece end with a number? Beside the runs of digits only the square does. -/
def endsNumber (piece : String) : Bool := decide (IsRun piece) || piece = "^2"

/-- A piece is read as a block of parts. How the last of them ends is all that what follows can
depend on, so it is kept here. -/
structure ReadAs (piece : String) (block : List Part) : Prop where
  isBlock : Block block
  text : textOf block = (replaceSymbols piece).toList
  name : ∀ last ∈ block.getLast?, last.lexeme.isName = endsName piece
  number : ∀ last ∈ block.getLast?, last.lexeme.isNumber = endsNumber piece

theorem readings_ends : ∀ reading ∈ readings, ∀ last ∈ reading.2.getLast?,
    last.part.lexeme.isName = endsName reading.1 ∧
      last.part.lexeme.isNumber = endsNumber reading.1 := by
  decide

theorem exists_readAs_insertion {piece : String} (h : piece ∈ wholeInsertions) :
    ∃ block, ReadAs piece block := by
  obtain ⟨⟨piece, spellings⟩, hreading, rfl⟩ := mem_readings piece h
  obtain ⟨htext, hne, hsound, hchain⟩ := readings_sound _ hreading
  have hends := readings_ends _ hreading
  have hlast {last : Part} (hlast : last ∈ (spellings.map Spelling.part).getLast?) :
      ∃ spelling ∈ spellings.getLast?, spelling.part = last := by
    rwa [List.getLast?_map, Option.mem_def, Option.map_eq_some_iff] at hlast
  refine ⟨spellings.map Spelling.part, ⟨?_, ?_, ?_, ?_⟩, ?_, ?_, ?_⟩
  · simpa using hne
  · intro part hpart
    obtain ⟨spelling, hspelling, rfl⟩ := List.mem_map.mp hpart
    exact Spelling.proper (hsound spelling hspelling)
  · exact firm_of_spellings hsound hchain
  · exact standing_of_spellings hsound hchain
  · rw [htext, textOf, List.flatMap_map]
  · intro last hin
    obtain ⟨spelling, hspelling, rfl⟩ := hlast hin
    exact (hends spelling hspelling).1
  · intro last hin
    obtain ⟨spelling, hspelling, rfl⟩ := hlast hin
    exact (hends spelling hspelling).2

theorem lexemes_eq_ok_iff {text : String} {found : List Lexeme} :
    lexemes text = .ok found ↔ ∃ tokens, tokensFrom 0 (replaceSymbols text).toList = .ok tokens ∧
      tokens.map Token.lexeme = found := by
  rw [lexemes, tokens]
  cases tokensFrom 0 (replaceSymbols text).toList <;> simp [Except.map]

theorem IsRun.ends {piece : String} (h : IsRun piece) :
    endsName piece = false ∧ endsNumber piece = true := by
  refine ⟨?_, by simp [endsNumber, h]⟩
  rw [Bool.eq_false_iff]
  intro hname
  simp only [endsName, Bool.or_eq_true, decide_eq_true_eq] at hname
  rcases hname with rfl | rfl <;> exact absurd h (by decide)

theorem exists_readAs_run {piece : String} (h : IsRun piece) {found : List Lexeme}
    (hfound : lexemes piece = .ok found) : ∃ block, ReadAs piece block := by
  obtain ⟨tokens, htokens, -⟩ := lexemes_eq_ok_iff.mp hfound
  obtain ⟨parts, hstanding, htext, -⟩ := exists_standing (isBlank_of_isPiece (.inl h)) htokens
  have hchars : ∀ part ∈ parts, ∀ c ∈ part.slice, isNumberChar c = true := by
    intro part hpart c hc
    apply h.2
    rw [← h.replaceSymbols, ← htext]
    exact List.mem_flatMap.mpr ⟨part, hpart, hc⟩
  have hunmarked : ∀ part ∈ parts, ∀ c ∈ part.slice, Numeral.isMark c = false :=
    fun part hpart c hc => isMark_of_isNumberChar (hchars part hpart c hc)
  have hnumber : ∀ part ∈ parts, part.lexeme.isNumber = true := by
    intro part hpart
    have hlexeme := hstanding.isLexeme part hpart
    obtain ⟨c, others, hslice⟩ :=
      List.exists_cons_of_ne_nil (List.ne_nil_of_length_pos hlexeme.length_pos)
    have hhead : part.slice.head? = some c := by rw [hslice]; rfl
    exact hlexeme.isNumber_of_head hhead (hchars part hpart c (List.mem_of_mem_head? hhead))
  refine ⟨parts, ⟨?_, ?_, ?_, hstanding⟩, htext, ?_, ?_⟩
  · rintro rfl
    apply h.1
    rw [← String.toList_eq_nil_iff, ← h.replaceSymbols, ← htext]
    rfl
  · exact fun part hpart => ⟨hstanding.isLexeme part hpart, fun _ => hunmarked part hpart⟩
  · exact firm_of_unmarked hunmarked
  · intro last hlast
    rw [h.ends.1, Lexeme.isName_of_isNumber (hnumber last (List.mem_of_getLast? hlast))]
  · intro last hlast
    rw [h.ends.2, hnumber last (List.mem_of_getLast? hlast)]

theorem ReadAs.lexemes {piece : String} {block : List Part} (h : ReadAs piece block)
    (hpiece : IsPiece piece) : lexemes piece = .ok (block.map Part.lexeme) := by
  apply lexemes_eq_ok_iff.mpr
  rw [← h.text]
  exact h.isBlock.standing.exists_tokensFrom (h.text ▸ isBlank_of_isPiece hpiece) 0

/-- A piece that is read alone is read as a block. Only a run may fail to be read, if there is a
point in it that no digit belongs to. -/
theorem exists_readAs {piece : String} (h : IsPiece piece) {found : List Lexeme}
    (hfound : lexemes piece = .ok found) :
    ∃ block, ReadAs piece block ∧ block.map Part.lexeme = found := by
  obtain ⟨block, hblock⟩ : ∃ block, ReadAs piece block := by
    rcases h with hrun | hwhole
    · exact exists_readAs_run hrun hfound
    · exact exists_readAs_insertion hwhole
  refine ⟨block, hblock, ?_⟩
  rw [hblock.lexemes h] at hfound
  exact Except.ok.inj hfound

/-- Does the text of the pieces begin with a character of a kind? What is meant is the text that is
evaluated, after the rewriting. -/
def begins (kind : Char → Bool) (pieces : List String) : Bool := (rewritten pieces).head?.any kind

def withoutSign : List String → List String
  | [] => []
  | piece :: rest => if piece = "+" ∨ piece = "-" then rest else piece :: rest

/-- Do the pieces begin as an exponent, with the letter, perhaps a sign, and a digit? The sign is a
piece of its own, so the digit may be in the third. -/
def beginsExponent : List String → Bool
  | [] => false
  | piece :: rest => piece = "e" && begins isDigit (withoutSign rest)

/-- Does what a piece ends with go on in the pieces after it? A name goes on with a letter or a
digit, a number with a digit, a point or an exponent. -/
def fuses (piece : String) (rest : List String) : Bool :=
  (endsName piece && begins Text.isWordChar rest) ||
    (endsNumber piece && (begins isNumberChar rest || beginsExponent rest))

/-- Is every piece apart from those after it? If so, no name and no number reaches beyond the piece
that it begins in. -/
def separate : List String → Bool
  | [] => true
  | piece :: rest => !fuses piece rest && separate rest

theorem rewritten_cons (piece : String) (rest : List String) :
    rewritten (piece :: rest) = (replaceSymbols piece).toList ++ rewritten rest := List.flatMap_cons

theorem scanSign_rewritten {pieces : List String} (h : ∀ piece ∈ pieces, IsPiece piece) :
    (Numeral.scanSign (rewritten pieces)).2 = rewritten (withoutSign pieces) := by
  cases pieces with
  | nil => rfl
  | cons piece rest =>
      by_cases hsign : piece = "+" ∨ piece = "-"
      · rw [withoutSign, if_pos hsign, rewritten_cons]
        rcases hsign with rfl | rfl
        · have hplus : (replaceSymbols "+").toList = ['+'] := by decide
          rw [hplus]
          rfl
        · have hminus : (replaceSymbols "-").toList = ['-'] := by decide
          rw [hminus]
          rfl
      · obtain ⟨c, others, hchars, -, -, hc⟩ := exists_first (h piece (by simp))
        have hc := mt hc hsign
        rw [withoutSign, if_neg hsign, rewritten_cons, hchars]
        simp only [not_or] at hc
        simp [Numeral.scanSign, hc.1, hc.2]

/-- An exponent begins only with the key of the letter. The key of its powers inserts the letter
too, but neither a sign nor a digit follows it there. The sign and the digit are then looked for in
the pieces behind the letter. -/
theorem scanExponent_rewritten {pieces : List String} (h : ∀ piece ∈ pieces, IsPiece piece) :
    (Numeral.scanExponent (rewritten pieces)).1 ≠ none ↔ beginsExponent pieces = true := by
  cases pieces with
  | nil => simp [rewritten, Numeral.scanExponent, beginsExponent]
  | cons piece rest =>
      have hrest := scanSign_rewritten fun other hin => h other (List.mem_cons_of_mem piece hin)
      obtain ⟨c, others, hchars, -, hmark, -⟩ := exists_first (h piece (by simp))
      by_cases hletter : piece = "e"
      · subst hletter
        have hletter : (replaceSymbols "e").toList = ['e'] := by decide
        rw [rewritten_cons, hletter, List.singleton_append, Numeral.scanExponent_ne_none_iff, hrest]
        simp [beginsExponent, begins, Numeral.isMark]
      · have hnone : (Numeral.scanExponent (rewritten (piece :: rest))).1 = none := by
          rw [← not_ne_iff, rewritten_cons, hchars, List.cons_append,
            Numeral.scanExponent_ne_none_iff]
          rintro ⟨hc, hdigit⟩
          obtain rfl := (hmark hc).resolve_left hletter
          have hpower : (replaceSymbols "e^").toList = ['e', '^'] := by decide
          rw [hpower, List.cons.injEq] at hchars
          rw [← hchars.2] at hdigit
          cases hdigit
        simp [hnone, beginsExponent, hletter]

theorem point_notMem_of_mem_wholeInsertions : ∀ piece ∈ wholeInsertions,
    '.' ∉ (replaceSymbols piece).toList := by
  decide

theorem ReadAs.isRun_of_point {piece : String} {block : List Part} (h : ReadAs piece block)
    (hpiece : IsPiece piece) {part : Part} (hpart : part ∈ block) (hpoint : '.' ∈ part.slice) :
    IsRun piece := by
  apply hpiece.resolve_right
  intro hwhole
  apply point_notMem_of_mem_wholeInsertions piece hwhole
  rw [← h.text]
  exact List.mem_flatMap.mpr ⟨part, hpart, hpoint⟩

/-- What a piece ends with goes on in pieces that it fuses with. A number that has a point does not
go on with another; but then its piece is a run, and no other run follows it. -/
theorem ReadAs.goesOn_iff {piece : String} {block : List Part} (h : ReadAs piece block)
    {rest : List String} (hpieces : ∀ other ∈ piece :: rest, IsPiece other)
    (hapart : ∀ next ∈ rest.head?, IsRun piece → ¬ IsRun next) {last : Part}
    (hlast : last ∈ block.getLast?) :
    last.GoesOn (rewritten rest) ↔ fuses piece rest = true := by
  have hrest := fun other hin => hpieces other (List.mem_cons_of_mem piece hin)
  have hpoint : '.' ∈ last.slice → (rewritten rest).head? ≠ some '.' := by
    intro hpoint hhead
    have hrun := h.isRun_of_point (hpieces piece (by simp)) (List.mem_of_getLast? hlast) hpoint
    cases rest with
    | nil => cases hhead
    | cons next rest =>
        obtain ⟨c, others, hchars, hnext, -⟩ := exists_first (hrest next (by simp))
        rw [rewritten_cons, hchars] at hhead
        exact hapart next rfl hrun (hnext (Option.some.inj hhead))
  rw [Part.goesOn_iff hpoint, scanExponent_rewritten hrest, h.name last hlast, h.number last hlast]
  simp only [fuses, begins, Bool.or_eq_true, Bool.and_eq_true]

theorem exists_blocks {pieces : List String} (hpieces : ∀ piece ∈ pieces, IsPiece piece)
    {found : List (List Lexeme)} (hfound : pieces.map lexemes = found.map .ok) :
    ∃ blocks, List.Forall₂ ReadAs pieces blocks ∧ blocks.map (·.map Part.lexeme) = found := by
  induction pieces generalizing found with
  | nil =>
      obtain rfl := List.map_eq_nil_iff.mp hfound.symm
      exact ⟨[], .nil, rfl⟩
  | cons piece rest ih =>
      obtain ⟨first, others, rfl, hfirst, hothers⟩ := List.map_eq_cons_iff.mp hfound.symm
      obtain ⟨block, hblock, rfl⟩ := exists_readAs (hpieces piece (by simp)) hfirst.symm
      obtain ⟨blocks, hblocks, rfl⟩ :=
        ih (fun other hin => hpieces other (List.mem_cons_of_mem piece hin)) hothers.symm
      exact ⟨block :: blocks, .cons hblock hblocks, rfl⟩

section Row

variable {pieces : List String} {blocks : List (List Part)} (h : List.Forall₂ ReadAs pieces blocks)

include h

theorem textOf_flatten : textOf blocks.flatten = rewritten pieces := by
  induction h with
  | nil => rfl
  | cons hblock _ ih =>
      rw [List.flatten_cons, textOf_append, hblock.text, ih, rewritten_cons]

theorem isBlock_of_mem : ∀ block ∈ blocks, Block block := by
  induction h with
  | nil => simp
  | cons hblock _ ih => exact List.forall_mem_cons.mpr ⟨hblock.isBlock, ih⟩

variable (hpieces : ∀ piece ∈ pieces, IsPiece piece)
  (hapart : pieces.IsChain fun piece next => IsRun piece → ¬ IsRun next)

include hpieces hapart

/-- Numbers of different pieces do not have a point each, if they follow on one another. A point is
only in a run, and runs do not follow on runs. -/
theorem linked_flatten : Linked blocks.flatten := by
  have hnil : [] ∉ blocks := fun hin => (isBlock_of_mem h [] hin).nonempty rfl
  refine (List.isChain_flatten hnil).mpr ⟨fun block hin => ?_, ?_⟩
  · have hblock := isBlock_of_mem h block hin
    exact hblock.standing.linked hblock.proper
  · induction h with
    | nil => exact .nil
    | @cons piece block pieces blocks hblock hrest ih =>
        refine List.isChain_cons.mpr ⟨?_, ih
          (fun other hin => hpieces other (List.mem_cons_of_mem piece hin)) hapart.tail
          (fun hin => hnil (List.mem_cons_of_mem block hin))⟩
        intro nextBlock hnext part hpart other hother _ _ hpoint hotherPoint
        cases hrest with
        | nil => cases hnext
        | cons hnextBlock _ =>
            obtain rfl := Option.some.inj hnext
            have hrun := hblock.isRun_of_point (hpieces piece (by simp))
              (List.mem_of_getLast? hpart) hpoint
            have hnextRun := hnextBlock.isRun_of_point (hpieces _ (by simp))
              (List.mem_of_mem_head? hother) hotherPoint
            exact absurd hnextRun ((List.isChain_cons_cons.mp hapart).1 hrun)

theorem goesOn_iff_separate :
    (∀ block rest, block :: rest <:+ blocks →
      ∀ last ∈ block.getLast?, ¬ last.GoesOn (textOf rest.flatten)) ↔ separate pieces = true := by
  induction h with
  | nil => simp [separate]
  | @cons piece block pieces blocks hblock hrest ih =>
      have hothers :=
        ih (fun other hin => hpieces other (List.mem_cons_of_mem piece hin)) hapart.tail
      have hfuses {last : Part} (hlast : last ∈ block.getLast?) :=
        hblock.goesOn_iff hpieces (List.isChain_cons.mp hapart).1 hlast
      rw [← textOf_flatten hrest] at hfuses
      simp only [separate, Bool.and_eq_true, Bool.not_eq_true', ← hothers]
      constructor
      · intro hall
        obtain ⟨last, hlast⟩ :=
          Option.ne_none_iff_exists'.mp (mt List.getLast?_eq_none_iff.mp hblock.isBlock.nonempty)
        refine ⟨?_, fun other rest hsuffix => ?_⟩
        · rw [Bool.eq_false_iff, ne_eq, ← hfuses hlast]
          exact hall block blocks (List.suffix_refl _) last hlast
        · exact hall other rest (hsuffix.trans (List.suffix_cons _ _))
      · rintro ⟨hfirst, hall⟩ other rest hsuffix last hlast
        rcases List.suffix_cons_iff.mp hsuffix with heq | hsuffix
        · obtain ⟨rfl, rfl⟩ := List.cons.inj heq
          rw [hfuses hlast, hfirst]
          exact Bool.false_ne_true
        · exact hall other rest hsuffix last hlast

end Row

/-- Pieces that are read alone are read in a row as their lexemes one after the other if and only if
none fuses with those after it. -/
theorem lexemes_join_iff {pieces : List String} (hpieces : ∀ piece ∈ pieces, IsPiece piece)
    (hapart : pieces.IsChain fun piece next => IsRun piece → ¬ IsRun next)
    {found : List (List Lexeme)} (hfound : pieces.map lexemes = found.map .ok) :
    lexemes (String.join pieces) = .ok found.flatten ↔ separate pieces = true := by
  obtain ⟨blocks, hblocks, rfl⟩ := exists_blocks hpieces hfound
  have htext := textOf_flatten hblocks
  have hblank : ∀ c ∈ textOf blocks.flatten, Text.isBlank c = false := by
    intro c hc
    rw [htext] at hc
    obtain ⟨piece, hpiece, hc⟩ := List.mem_flatMap.mp hc
    exact isBlank_of_isPiece (hpieces piece hpiece) c hc
  rw [lexemes_eq_ok_iff, toList_replaceSymbols_join hpieces, ← htext, ← List.map_flatten,
    lexemes_flatten_iff (isBlock_of_mem hblocks) (linked_flatten hblocks hpieces hapart) hblank,
    goesOn_iff_separate hblocks hpieces hapart]

end Reckoner.Keypad
