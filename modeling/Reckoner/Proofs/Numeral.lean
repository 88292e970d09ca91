import Mathlib.Data.List.TakeWhile
import Reckoner.Numeral

/-!
Scanning inverts writing: the text of a numeral is scanned as that numeral, whole, and what follows
it is left, if no numeral goes on with it. Whatever follows, no longer numeral begins where one is
scanned. A numeral is one if its parts are digits where digits are meant and its exponent has a
mark, perhaps a sign, and at least one digit.
-/

namespace Reckoner

theorem digitsValue_eq (digits : List Char) :
    digitsValue digits = Nat.ofDigitChars 10 digits 0 := by
  simp [digitsValue, Nat.ofDigitChars_eq_foldl, Nat.mul_comm]

theorem digitsValue_append (front back : List Char) :
    digitsValue (front ++ back) =
      digitsValue front * Nat.pow 10 back.length + digitsValue back := by
  rw [digitsValue_eq, Nat.ofDigitChars_append, Nat.ofDigitChars_eq_ofDigitChars_zero,
    digitsValue_eq, digitsValue_eq, Nat.pow_eq, Nat.mul_comm]

theorem digitsValue_replicate (n : Nat) : digitsValue (List.replicate n '0') = 0 := by
  simp [digitsValue_eq]

theorem digitsValue_toDigits (n : Nat) : digitsValue (Nat.toDigits 10 n) = n := by
  rw [digitsValue_eq, Nat.ofDigitChars_toDigits (by decide) (by decide)]

theorem isDigit_eq (c : Char) : isDigit c = c.isDigit := rfl

theorem isDigit_of_mem_toDigits {c : Char} {n : Nat} (h : c ∈ Nat.toDigits 10 n) :
    isDigit c = true :=
  Nat.isDigit_of_mem_toDigits (by decide) (by decide) h

/-- Characters of a kind are taken up to the first that is none of it. Every part of a numeral is
scanned in this way, and only its end has to be looked at. -/
theorem span_append {kind : Char → Bool} {front : List Char} (rest : List Char)
    (hfront : ∀ c ∈ front, kind c = true) (hrest : ∀ c ∈ rest.head?, kind c = false) :
    (front ++ rest).takeWhile kind = front ∧ (front ++ rest).dropWhile kind = rest := by
  rw [List.takeWhile_append_of_pos hfront, List.dropWhile_append_of_pos hfront]
  cases rest with
  | nil => simp
  | cons c rest =>
      have hc : kind c = false := hrest c rfl
      simp [hc]

namespace Numeral

/-- An exponent as it can be written: a mark, perhaps a sign, and at least one digit. Without a
digit the mark does not belong to the numeral. -/
structure Exponent.WellFormed (e : Exponent) : Prop where
  mark : e.mark = 'e' ∨ e.mark = 'E'
  sign : ∀ c ∈ e.sign, c = '+' ∨ c = '-'
  nonempty : e.digits ≠ []
  digits : ∀ c ∈ e.digits, isDigit c = true

/-- A numeral as it can be written. Its whole part and its fraction may be empty, even both, so a
digit is asked for where it matters. -/
structure WellFormed (n : Numeral) : Prop where
  whole : ∀ c ∈ n.whole, isDigit c = true
  fraction : ∀ fraction ∈ n.fraction, ∀ c ∈ fraction, isDigit c = true
  exponent : ∀ e ∈ n.exponent, e.WellFormed

theorem Exponent.WellFormed.mark_facts {e : Exponent} (h : e.WellFormed) :
    isDigit e.mark = false ∧ e.mark ≠ '.' := by
  rcases h.mark with hmark | hmark <;> rw [hmark] <;> decide

/-- No numeral goes on with what follows. A digit, a point or the mark of an exponent would be taken
for a part of it. -/
def Ends (rest : List Char) : Prop := ∀ c ∈ rest.head?, isDigit c = false ∧ c ∉ ['.', 'e', 'E']

theorem ends_nil : Ends [] := by
  intro c hc
  cases hc

theorem head_exponent {exponent : Option Exponent} {rest : List Char}
    (h : ∀ e ∈ exponent, e.WellFormed) (hrest : Ends rest) :
    ∀ c ∈ (exponent.elim [] Exponent.text ++ rest).head?, isDigit c = false ∧ c ≠ '.' := by
  intro c hc
  cases exponent with
  | none =>
      obtain ⟨hdigit, hnot⟩ := hrest c hc
      exact ⟨hdigit, fun heq => hnot (by simp [heq])⟩
  | some e =>
      obtain rfl : e.mark = c := Option.some.inj hc
      exact (h e rfl).mark_facts

theorem scanSign_append {e : Exponent} (h : e.WellFormed) (rest : List Char) :
    scanSign (e.sign.toList ++ (e.digits ++ rest)) = (e.sign, e.digits ++ rest) := by
  cases hsign : e.sign with
  | none =>
      cases hdigits : e.digits with
      | nil => exact absurd hdigits h.nonempty
      | cons c others =>
          have hc : isDigit c = true := h.digits c (by simp [hdigits])
          simp only [Option.toList_none, List.nil_append, List.cons_append]
          unfold scanSign
          split
          · rename_i heq
            obtain ⟨rfl, -⟩ := List.cons.inj heq
            exact absurd hc (by decide)
          · rename_i heq
            obtain ⟨rfl, -⟩ := List.cons.inj heq
            exact absurd hc (by decide)
          · rfl
  | some c =>
      rcases h.sign c hsign with rfl | rfl <;> rfl

theorem scanExponent_of_ends {rest : List Char} (h : Ends rest) :
    scanExponent rest = (none, rest) := by
  cases rest with
  | nil => rfl
  | cons c others =>
      have hc := (h c rfl).2
      have hmark : ¬ (c = 'e' ∨ c = 'E') := by
        rintro (rfl | rfl) <;> exact hc (by decide)
      simp [scanExponent, hmark]

theorem scanExponent_exponent {exponent : Option Exponent} {rest : List Char}
    (h : ∀ e ∈ exponent, e.WellFormed) (hrest : Ends rest) :
    scanExponent (exponent.elim [] Exponent.text ++ rest) = (exponent, rest) := by
  cases exponent with
  | none => exact scanExponent_of_ends hrest
  | some e =>
      have hwell := h e rfl
      have hspan := span_append rest hwell.digits fun c hc => (hrest c hc).1
      have hhead : (e.digits ++ rest).head?.any isDigit = true := by
        cases hdigits : e.digits with
        | nil => exact absurd hdigits hwell.nonempty
        | cons c others => exact hwell.digits c (by simp [hdigits])
      simp only [Option.elim_some, Exponent.text, List.cons_append, List.append_assoc, scanExponent,
        scanSign_append hwell, hwell.mark, hhead, and_self, if_true, hspan.1, hspan.2]

/-- Scanning the text of a numeral gives the numeral and leaves what follows it. So a numeral that
is written somewhere is found again if nothing after it belongs to it. Each part is scanned up to a
character that it cannot hold, and there the next part begins. -/
theorem scan_text_append {n : Numeral} {rest : List Char} (h : n.WellFormed) (hrest : Ends rest) :
    scan (n.text ++ rest) = (n, rest) := by
  have hexponent := head_exponent h.exponent hrest
  have hscanned := scanExponent_exponent h.exponent hrest
  obtain ⟨whole, fraction, exponent⟩ := n
  cases fraction with
  | none =>
      have hspan := span_append _ h.whole fun c hc => (hexponent c hc).1
      have hfraction : scanFraction (exponent.elim [] Exponent.text ++ rest) =
          (none, exponent.elim [] Exponent.text ++ rest) := by
        unfold scanFraction
        split
        · rename_i heq
          exact absurd rfl (hexponent '.' (by rw [heq]; rfl)).2
        · rfl
      simp only [text, Option.elim_none, List.nil_append, List.append_assoc, scan, hspan.1, hspan.2,
        hfraction, hscanned]
  | some digits =>
      have hspan := span_append ('.' :: (digits ++ (exponent.elim [] Exponent.text ++ rest)))
        h.whole (by rintro c ⟨⟩; decide)
      have hdigits := span_append _ (h.fraction digits rfl) fun c hc => (hexponent c hc).1
      simp only [text, Option.elim_some, List.cons_append, List.append_assoc, scan, hspan.1,
        hspan.2, scanFraction, hdigits.1, hdigits.2, hscanned]

/-- A mark, a sign and digits are read on to the last of the digits there. What follows can only add
digits, so the scanned exponent is at least as long. -/
theorem length_le_scanExponent {exponent : Option Exponent}
    (h : ∀ e ∈ exponent, e.WellFormed) (rest : List Char) :
    (exponent.elim [] Exponent.text).length ≤
      ((scanExponent (exponent.elim [] Exponent.text ++ rest)).1.elim [] Exponent.text).length := by
  cases exponent with
  | none => exact Nat.zero_le _
  | some e =>
      have hwell := h e rfl
      have hhead : (e.digits ++ rest).head?.any isDigit = true := by
        cases hdigits : e.digits with
        | nil => exact absurd hdigits hwell.nonempty
        | cons c others => exact hwell.digits c (by simp [hdigits])
      simp only [Option.elim_some, Exponent.text, List.cons_append, List.append_assoc, scanExponent,
        scanSign_append hwell, hwell.mark, hhead, and_self, if_true,
        List.takeWhile_append_of_pos hwell.digits, List.length_cons, List.length_append]
      omega

theorem length_le_scanFraction {fraction : Option (List Char)} {exponent : Option Exponent}
    (hfraction : ∀ digits ∈ fraction, ∀ c ∈ digits, isDigit c = true)
    (hexponent : ∀ e ∈ exponent, e.WellFormed) (rest : List Char) :
    let scanned := scanFraction (fraction.elim [] ('.' :: ·) ++
      (exponent.elim [] Exponent.text ++ rest))
    (fraction.elim [] ('.' :: ·)).length + (exponent.elim [] Exponent.text).length ≤
      (scanned.1.elim [] ('.' :: ·)).length +
        ((scanExponent scanned.2).1.elim [] Exponent.text).length := by
  have hlast := length_le_scanExponent hexponent rest
  cases exponent with
  | none =>
      cases fraction with
      | none => simp
      | some digits =>
          have hrun := @List.takeWhile_append_of_pos _ isDigit _ rest (hfraction digits rfl)
          simp only [Option.elim_some, Option.elim_none, List.nil_append, List.cons_append,
            scanFraction, hrun, List.length_cons, List.length_append, List.length_nil]
          omega
  | some e =>
      obtain ⟨hdigit, hpoint⟩ := (hexponent e rfl).mark_facts
      simp only [Option.elim_some] at hlast ⊢
      have hhead : (e.text ++ rest).head? = some e.mark := rfl
      cases fraction with
      | none =>
          have hnone : scanFraction (e.text ++ rest) = (none, e.text ++ rest) := by
            unfold scanFraction
            split
            · rename_i heq
              rw [heq] at hhead
              exact absurd (Option.some.inj hhead).symm hpoint
            · rfl
          simp only [Option.elim_none, List.nil_append, hnone]
          exact Nat.add_le_add_left hlast _
      | some digits =>
          have hspan := span_append (e.text ++ rest) (hfraction digits rfl) (by
            intro c hc
            rw [hhead] at hc
            cases hc
            exact hdigit)
          simpa only [Option.elim_some, List.cons_append, scanFraction, hspan.1, hspan.2] using
            Nat.add_le_add_left hlast _

/-- The numeral that is scanned is the longest that begins there. Whatever numeral the text begins
with, scanning goes at least as far. What follows can only lengthen the last part that the numeral
has. -/
theorem length_text_le_scan {n : Numeral} (h : n.WellFormed) (rest : List Char) :
    n.text.length ≤ (scan (n.text ++ rest)).1.text.length := by
  have hlast := length_le_scanFraction h.fraction h.exponent rest
  obtain ⟨whole, fraction, exponent⟩ := n
  have hwhole : ∀ c ∈ whole, isDigit c = true := h.whole
  by_cases hbare : fraction = none ∧ exponent = none
  · obtain ⟨rfl, rfl⟩ := hbare
    have hrun := @List.takeWhile_append_of_pos _ isDigit _ rest hwhole
    simp only [text, scan, Option.elim_none, List.append_nil, hrun, List.length_append]
    omega
  · have hhead : ∀ c ∈ (fraction.elim [] ('.' :: ·) ++
        (exponent.elim [] Exponent.text ++ rest)).head?, isDigit c = false := by
      intro c hc
      cases fraction with
      | some digits =>
          cases hc
          decide
      | none =>
          cases exponent with
          | none => exact absurd ⟨rfl, rfl⟩ hbare
          | some e =>
              cases hc
              exact (h.exponent e rfl).mark_facts.1
    have hspan := span_append _ hwhole hhead
    simp only [text, scan, List.append_assoc, hspan.1, hspan.2, List.length_append]
    dsimp only at hlast
    omega

theorem scanExponent_wellFormed (chars : List Char) :
    ∀ e ∈ (scanExponent chars).1, e.WellFormed := by
  intro e he
  unfold scanExponent at he
  split at he
  case h_2 => cases he
  rename_i mark rest
  dsimp only at he
  split at he
  case isFalse => cases he
  rename_i hmark
  cases he
  obtain ⟨hmark, hdigit⟩ := hmark
  refine ⟨hmark, ?_, ?_, fun c hc => List.mem_takeWhile_imp hc⟩
  · intro c hc
    dsimp only at hc
    unfold scanSign at hc
    split at hc
    · exact Or.inl (Option.some.inj hc).symm
    · exact Or.inr (Option.some.inj hc).symm
    · cases hc
  · dsimp only
    cases hdigits : (scanSign rest).2 with
    | nil =>
        rw [hdigits] at hdigit
        cases hdigit
    | cons c others =>
        rw [hdigits] at hdigit
        have hc : isDigit c = true := hdigit
        simp [hc]

/-- Whatever is scanned is a numeral, from any text. It may be the empty one, where the text does
not begin with any. -/
theorem scan_wellFormed (chars : List Char) : (scan chars).1.WellFormed := by
  refine ⟨fun c hc => List.mem_takeWhile_imp hc, ?_, scanExponent_wellFormed _⟩
  intro digits hdigits c hc
  dsimp only [scan] at hdigits
  unfold scanFraction at hdigits
  split at hdigits
  · cases hdigits
    exact List.mem_takeWhile_imp hc
  · cases hdigits

/-- A numeral with a digit begins with it, or with a point and then a digit. By its first characters
a numeral is thus told from every other lexeme. -/
theorem exists_first {n : Numeral} (h : n.WellFormed) (hdigits : n.hasDigits = true) :
    ∃ c others, n.text = c :: others ∧
      (isDigit c = true ∨ c = '.' ∧ ∃ d more, others = d :: more ∧ isDigit d = true) := by
  obtain ⟨whole, fraction, exponent⟩ := n
  cases whole with
  | cons c others => exact ⟨c, _, rfl, Or.inl (h.whole c (by simp))⟩
  | nil =>
      cases fraction with
      | none => cases hdigits
      | some digits =>
          cases digits with
          | nil => cases hdigits
          | cons d more =>
              have hd : isDigit d = true := h.fraction (d :: more) rfl d (by simp)
              exact ⟨'.', _, rfl, Or.inr ⟨rfl, d, _, rfl, hd⟩⟩

theorem hasDigits_of_whole {n : Numeral} (h : n.whole ≠ []) : n.hasDigits = true := by
  simp [hasDigits, h]

def isMark (c : Char) : Bool := c = 'e' || c = 'E'

theorem scanExponent_ne_none_iff {c : Char} {rest : List Char} :
    (scanExponent (c :: rest)).1 ≠ none ↔
      isMark c = true ∧ (scanSign rest).2.head?.any isDigit = true := by
  simp only [scanExponent, isMark, Bool.or_eq_true, decide_eq_true_eq]
  split <;> simp_all

theorem exponent_eq_none_of_unmarked {n : Numeral} (h : n.WellFormed)
    (hunmarked : ∀ c ∈ n.text, isMark c = false) : n.exponent = none := by
  cases hexponent : n.exponent with
  | none => rfl
  | some e =>
      have hmark := hunmarked e.mark (by simp [text, hexponent, Exponent.text])
      rcases (h.exponent e hexponent).mark with heq | heq <;> simp [isMark, heq] at hmark

theorem point_notMem_iff {n : Numeral} (h : n.WellFormed) (hexponent : n.exponent = none) :
    '.' ∉ n.text ↔ n.fraction = none := by
  have hwhole : '.' ∉ n.whole := by
    intro hpoint
    exact absurd (h.whole '.' hpoint) (by decide)
  cases hfraction : n.fraction with
  | none => simp [text, hexponent, hfraction, hwhole]
  | some digits => simp [text, hfraction]

/-- A numeral without exponent is longer where the text follows: a digit goes on with it, a point if
it has none, or an exponent. -/
def GoesOn (n : Numeral) (rest : List Char) : Prop :=
  (∃ c ∈ rest.head?, isDigit c = true ∨ c = '.' ∧ n.fraction = none) ∨ (scanExponent rest).1 ≠ none

theorem scan_of_not_goesOn {n : Numeral} {rest : List Char} (h : n.WellFormed)
    (hexponent : n.exponent = none) (hrest : ¬ n.GoesOn rest) :
    scan (n.text ++ rest) = (n, rest) := by
  simp only [GoesOn, not_or, not_exists, not_and, not_not] at hrest
  obtain ⟨hhead, hnone⟩ := hrest
  have hscanned : scanExponent rest = (none, rest) := by
    have htext := scanExponent_text rest
    rw [hnone] at htext
    exact Prod.ext hnone htext
  obtain ⟨whole, fraction, exponent⟩ := n
  obtain rfl : exponent = none := hexponent
  have hdigit : ∀ c ∈ rest.head?, isDigit c = false := by
    intro c hc
    exact Bool.eq_false_iff.mpr (hhead c hc).1
  cases fraction with
  | none =>
      have hspan := span_append rest h.whole hdigit
      have hfraction : scanFraction rest = (none, rest) := by
        unfold scanFraction
        split
        · exact absurd rfl ((hhead '.' rfl).2 rfl)
        · rfl
      simp only [text, Option.elim_none, List.append_nil, scan, hspan.1, hspan.2, hfraction,
        hscanned]
  | some digits =>
      have hspan := span_append ('.' :: (digits ++ rest)) h.whole (by rintro c ⟨⟩; decide)
      have hdigits := span_append rest (h.fraction digits rfl) hdigit
      simp only [text, Option.elim_some, Option.elim_none, List.append_nil, List.cons_append,
        List.append_assoc, scan, hspan.1, hspan.2, scanFraction, hdigits.1, hdigits.2, hscanned]

/-- A numeral that goes on is the beginning of a longer one. So it is not what is scanned, and no
reading by the longest match ends with it there. Either one more digit or the point is taken in, or
a whole exponent is. -/
theorem exists_longer {n : Numeral} {rest : List Char} (h : n.WellFormed)
    (hdigits : n.hasDigits = true) (hexponent : n.exponent = none) (hrest : n.GoesOn rest) :
    ∃ longer : Numeral, longer.WellFormed ∧ longer.hasDigits = true ∧
      longer.text <+: n.text ++ rest ∧ n.text.length < longer.text.length := by
  obtain ⟨whole, fraction, exponent⟩ := n
  obtain rfl : exponent = none := hexponent
  rcases hrest with ⟨c, hc, hgoes⟩ | hmark
  · obtain ⟨more, rfl⟩ : ∃ more, rest = c :: more := by
      cases rest with
      | nil => cases hc
      | cons d more => exact ⟨more, by rw [Option.some.inj hc]⟩
    have hlonger (longer : Numeral) (hwell : longer.WellFormed) (hsome : longer.hasDigits = true)
        (htext : longer.text = text ⟨whole, fraction, none⟩ ++ [c]) :
        ∃ longer : Numeral, longer.WellFormed ∧ longer.hasDigits = true ∧
          longer.text <+: text ⟨whole, fraction, none⟩ ++ c :: more ∧
          (text ⟨whole, fraction, none⟩).length < longer.text.length := by
      refine ⟨longer, hwell, hsome, ⟨more, ?_⟩, ?_⟩
      · rw [htext, List.append_assoc]
        rfl
      · rw [htext, List.length_append]
        exact Nat.lt_succ_self _
    rcases hgoes with hdigit | ⟨rfl, hfraction⟩
    · cases fraction with
      | none =>
          refine hlonger ⟨whole ++ [c], none, none⟩ ⟨?_, by simp, by simp⟩ (by simp [hasDigits])
            (by simp [text])
          intro d hd
          rcases List.mem_append.mp hd with hd | hd
          · exact h.whole d hd
          · rwa [List.mem_singleton.mp hd]
      | some digits =>
          refine hlonger ⟨whole, some (digits ++ [c]), none⟩ ⟨h.whole, ?_, by simp⟩
            (by simp [hasDigits]) (by simp [text])
          rintro _ ⟨⟩ d hd
          rcases List.mem_append.mp hd with hd | hd
          · exact h.fraction digits rfl d hd
          · rwa [List.mem_singleton.mp hd]
    · obtain rfl : fraction = none := hfraction
      exact hlonger ⟨whole, some [], none⟩ ⟨h.whole, by simp, by simp⟩
        (by simpa [hasDigits] using hdigits)
        (by simp [text])
  · obtain ⟨e, he⟩ := Option.ne_none_iff_exists'.mp hmark
    have htext := scanExponent_text rest
    rw [he, Option.elim_some] at htext
    have hwell := scanExponent_wellFormed rest e he
    generalize (scanExponent rest).2 = after at htext
    subst htext
    refine ⟨⟨whole, fraction, some e⟩, ⟨h.whole, h.fraction, ?_⟩, hdigits,
      ⟨after, by simp [text]⟩, ?_⟩
    · rintro _ ⟨⟩
      exact hwell
    · simp [text, Exponent.text]

end Numeral

namespace Binary64

/-- The text of a numeral is no word, and is read as the number it denotes. The words begin with a
letter, and a numeral does not. So the scan is what decides, and it takes the numeral whole. -/
theorem magnitudeOfText?_numeral {n : Numeral} (h : n.WellFormed) (hdigits : n.hasDigits = true) :
    magnitudeOfText? n.text = some n.value := by
  obtain ⟨c, others, htext, hc⟩ := Numeral.exists_first h hdigits
  have hscan := Numeral.scan_text_append h Numeral.ends_nil
  have hfirst : lowerLetter c = c ∧ (isDigit c || c = '.') = true := by
    rcases hc with hc | ⟨rfl, -⟩
    · refine ⟨if_neg ?_, by simp [hc]⟩
      rintro ⟨habove, -⟩
      simp only [isDigit, Bool.and_eq_true, decide_eq_true_eq] at hc
      exact absurd (Char.le_trans habove hc.2) (by decide)
    · exact ⟨rfl, rfl⟩
  have hword : ∀ word : String, word.toList.head?.any (fun c => isDigit c || c = '.') = false →
      String.ofList (n.text.map lowerLetter) ≠ word := by
    rintro word hhead rfl
    simp only [String.toList_ofList, htext, List.map_cons, List.head?_cons, Option.any_some,
      hfirst.1, hfirst.2] at hhead
    cases hhead
  rw [List.append_nil] at hscan
  simp [magnitudeOfText?, hscan, hdigits, hword "inf" (by decide), hword "infinity" (by decide),
    hword "nan" (by decide)]

theorem ofText?_numeral {n : Numeral} (h : n.WellFormed) (hdigits : n.hasDigits = true) :
    ofText? n.text = some n.value := by
  have hread := magnitudeOfText?_numeral h hdigits
  obtain ⟨c, others, htext, hc⟩ := Numeral.exists_first h hdigits
  have hsign : c ≠ '+' ∧ c ≠ '-' := by
    rcases hc with hc | ⟨rfl, -⟩
    · constructor <;> rintro rfl <;> exact absurd hc (by decide)
    · decide
  rw [htext] at hread ⊢
  unfold ofText?
  split
  · rename_i heq
    exact absurd (List.cons.inj heq).1 hsign.1
  · rename_i heq
    exact absurd (List.cons.inj heq).1 hsign.2
  · exact hread

end Binary64

end Reckoner
