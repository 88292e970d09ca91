import Mathlib.Data.Bool.AllAny
import Reckoner.Proofs.Json.Grammar

/-!
The reader of JSON reads every text of the grammar to its end, and as the value that it spells.
-/

namespace Reckoner.Json

theorem skipSpace_append {blank rest : List Char} (hblank : Blank blank)
    (hrest : ∀ c ∈ rest.head?, isSpace c = false) : skipSpace (blank ++ rest) = rest :=
  (span_append rest hblank hrest).2

theorem skipSpace_mark {blank : List Char} (hblank : Blank blank) {mark : Char}
    (hmark : isSpace mark = false) (rest : List Char) :
    skipSpace (blank ++ mark :: rest) = mark :: rest :=
  skipSpace_append hblank (by rintro _ ⟨⟩; exact hmark)

theorem readHex4_append {digits : List Char} {code : Nat} (h : readHex4 digits = some (code, []))
    (rest : List Char) :
    digits.length = 4 ∧ readHex4 (digits ++ rest) = some (code, rest) := by
  match digits with
  | [a, b, c, d] =>
      simp only [readHex4, Option.bind_eq_bind, Option.bind_eq_some_iff] at h
      obtain ⟨a', ha, b', hb, c', hc, d', hd, hcode⟩ := h
      cases hcode
      exact ⟨rfl, by simp [readHex4, ha, hb, hc, hd]⟩
  | a :: b :: c :: d :: e :: more =>
      simp only [readHex4, Option.bind_eq_bind, Option.bind_eq_some_iff] at h
      obtain ⟨a', ha, b', hb, c', hc, d', hd, hcode⟩ := h
      cases hcode
  | [] | [_] | [_, _] | [_, _, _] => cases h

/-- The code of a character is no half of one. So a code that spells a character is never taken for
the first of two. -/
theorem not_surrogate (c : Char) :
    isHighSurrogate c.toNat = false ∧ isLowSurrogate c.toNat = false := by
  have hvalid : c.toNat < 0xD800 ∨ 0xDFFF < c.toNat ∧ c.toNat < 0x110000 := c.valid
  simp only [isHighSurrogate, isLowSurrogate, Bool.and_eq_false_iff, decide_eq_false_iff_not]
  omega

theorem readUnicode_code {digits more : List Char} {c : Char}
    (h : readHex4 digits = some (c.toNat, [])) (hmore : more ≠ []) :
    readUnicode ('u' :: (digits ++ more)) = .ok (some c, more) := by
  obtain ⟨hlength, hread⟩ := readHex4_append h more
  have hdrop : (('u' :: (digits ++ more)).drop 5).isEmpty = false := by
    simp [hlength, hmore]
  obtain ⟨hhigh, hlow⟩ := not_surrogate c
  rw [readUnicode, hdrop]
  simp [hread, hhigh, hlow]

theorem readUnicode_halves {digits digits' more : List Char} {high low : Nat} {c : Char}
    (h : readHex4 digits = some (high, [])) (h' : readHex4 digits' = some (low, []))
    (hhigh : isHighSurrogate high = true) (hlow : isLowSurrogate low = true)
    (hc : c.toNat = 0x10000 + (high - 0xD800) * 0x400 + (low - 0xDC00)) (hmore : more ≠ []) :
    readUnicode ('u' :: (digits ++ '\\' :: 'u' :: (digits' ++ more))) = .ok (some c, more) := by
  obtain ⟨hlength, hread⟩ := readHex4_append h ('\\' :: 'u' :: (digits' ++ more))
  obtain ⟨hlength', hread'⟩ := readHex4_append h' more
  have hdrop : (('u' :: (digits ++ '\\' :: 'u' :: (digits' ++ more))).drop 5).isEmpty = false := by
    simp [hlength]
  have hdrop' : ((digits' ++ more).drop 4).isEmpty = false := by
    simp [hlength', hmore]
  have hnot : isLowSurrogate high = false := by
    simp only [isHighSurrogate, isLowSurrogate, Bool.and_eq_true, decide_eq_true_eq,
      Bool.and_eq_false_iff, decide_eq_false_iff_not] at *
    omega
  rw [readUnicode, hdrop]
  simp only [List.tail_cons, hread, hnot, hhigh, hdrop', hread', hlow, ← hc, Char.ofNat_toNat,
    Bool.false_eq_true, if_false, if_true, Bool.not_true]

/-- The reader takes one character of a string after the other, however it is spelled. At least the
closing quote follows, so that an escape is never cut off by the end of the text. -/
theorem readString_char {slice more : List Char} {c : Char} (h : SpellsChar slice c)
    (hmore : more ≠ []) (halves : Halves) (start : List Char) (fuel : Nat) (whole : Bool)
    (done : List Char) :
    readString halves start (fuel + 1) whole done (slice ++ more) =
      readString halves start fuel whole (c :: done) more := by
  cases h with
  | plain hquote hbackslash hcontrol =>
      simp [readString, hbackslash, Nat.not_lt.mpr hcontrol]
  | @escape letter c h =>
      have hletter : letter ≠ 'u' := by
        rintro rfl
        cases h
      simp [readString, h]
  | code h => simp [readString, readUnicode_code h hmore]
  | halves h h' hhigh hlow hc => simp [readString, readUnicode_halves h h' hhigh hlow hc hmore]

theorem SpellsChar.length_pos {slice : List Char} {c : Char} (h : SpellsChar slice c) :
    0 < slice.length := by
  cases h <;> exact Nat.succ_pos _

theorem readString_spelled {chars spelled : List Char} (h : SpellsChars chars spelled)
    (halves : Halves) (start : List Char) {fuel : Nat} (hfuel : chars.length < fuel)
    (done rest : List Char) :
    readString halves start fuel true done (chars ++ '"' :: rest) =
      .ok (⟨String.ofList (done.reverse ++ spelled), true⟩, rest) := by
  induction h generalizing fuel done with
  | nil =>
      obtain ⟨fuel, rfl⟩ := Nat.exists_eq_add_of_lt hfuel
      simp [readString]
  | @cons slice chars spelled c hchar _ ih =>
      have hpos := hchar.length_pos
      rw [List.length_append] at hfuel
      obtain ⟨fuel, rfl⟩ := Nat.exists_eq_add_one.mpr (by omega : 0 < fuel)
      rw [List.append_assoc, readString_char hchar (by simp), ih (by omega)]
      simp

theorem readStringAt_spelled {chars : List Char} {s : String} (h : SpellsString chars s)
    (halves : Halves) (rest : List Char) :
    readStringAt halves (chars ++ rest) = .ok (⟨s, true⟩, rest) := by
  cases h with
  | @quoted chars spelled h =>
      have hfuel : chars.length < ('"' :: (chars ++ ['"']) ++ rest).length := by
        simp only [List.length_append, List.length_cons]
        omega
      have hread := readString_spelled h halves ('"' :: (chars ++ ['"']) ++ rest) hfuel [] rest
      simpa [readStringAt] using hread

theorem readWhole_eq {chars : List Char} (hne : chars.takeWhile isDigit ≠ [])
    (hleading : (chars.takeWhile isDigit).head? = some '0' → chars.takeWhile isDigit = ['0']) :
    readWhole chars = some (chars.takeWhile isDigit, chars.dropWhile isDigit) := by
  cases chars with
  | nil => exact absurd rfl hne
  | cons c rest =>
      have hc : isDigit c = true := by
        rw [← Bool.not_eq_false]
        intro hnot
        exact hne (by simp [hnot])
      rw [List.takeWhile_cons_of_pos hc] at hleading ⊢
      rw [List.dropWhile_cons_of_pos hc]
      by_cases hzero : c = '0'
      · subst hzero
        have hnone : rest.takeWhile isDigit = [] := by simpa using hleading rfl
        have hall := @List.takeWhile_append_dropWhile _ isDigit rest
        rw [hnone, List.nil_append] at hall
        rw [readWhole, hnone, hall]
      · simp [readWhole, hc]

theorem IsNumber.exists_first {n : Numeral} (h : IsNumber n) :
    ∃ c others, n.text = c :: others ∧ isDigit c = true := by
  obtain ⟨c, digits, hwhole⟩ := List.exists_cons_of_ne_nil h.whole
  refine ⟨c, _, by rw [Numeral.text, hwhole]; rfl, h.wellFormed.whole c (by simp [hwhole])⟩

/-- The value of a number: a whole number if neither point nor exponent is written. Otherwise it is
rounded, even if a whole number is meant. -/
def numberValue (negative : Bool) (n : Numeral) : Json :=
  if n.fraction.isNone && n.exponent.isNone then
    .integer (if negative then -(digitsValue n.whole : Int) else digitsValue n.whole)
  else .number (Binary64.ofDecimal negative n.decimal)

/-- A fraction counts if it has digits, and is not there otherwise. In a number of the grammar no
point stands without them, so the case between does not occur. -/
theorem scanned_fraction {chars left : List Char} {fraction : Option (List Char)}
    (h : Numeral.scanFraction chars = (fraction, left)) (hfraction : fraction ≠ some []) :
    (∃ d digits, fraction = some (d :: digits)) ∨ fraction = none ∧ left = chars := by
  have htext := Numeral.scanFraction_text chars
  rw [h] at htext
  match fraction with
  | none => exact Or.inr ⟨rfl, htext⟩
  | some [] => exact absurd rfl hfraction
  | some (d :: digits) => exact Or.inl ⟨d, digits, rfl⟩

theorem readNumber_spelled {n : Numeral} (h : IsNumber n) (negative : Bool) {rest : List Char}
    (hrest : Numeral.Ends rest) :
    readNumber (signed negative n ++ rest) = .ok (numberValue negative n, rest) := by
  have hscan := Numeral.scan_text_append h.wellFormed hrest
  have hread : readWhole (n.text ++ rest) =
      some (n.whole, (n.text ++ rest).dropWhile isDigit) := by
    have hdigits : (n.text ++ rest).takeWhile isDigit = n.whole :=
      congrArg (·.1.whole) hscan
    rw [readWhole_eq (by rw [hdigits]; exact h.whole) (by rw [hdigits]; exact h.leading), hdigits]
  obtain ⟨left, hpoint⟩ : ∃ left,
      Numeral.scanFraction ((n.text ++ rest).dropWhile isDigit) = (n.fraction, left) :=
    ⟨_, Prod.ext (congrArg (·.1.fraction) hscan) rfl⟩
  have hexponent : Numeral.scanExponent left = (n.exponent, rest) := by
    have hbehind : Numeral.scanExponent
        (Numeral.scanFraction ((n.text ++ rest).dropWhile isDigit)).2 = (n.exponent, rest) :=
      Prod.ext (congrArg (·.1.exponent) hscan) (congrArg (·.2) hscan)
    rwa [hpoint] at hbehind
  have hvalue : readNumber ('-' :: (n.text ++ rest)) = .ok (numberValue true n, rest) ∧
      readNumber (n.text ++ rest) = .ok (numberValue false n, rest) := by
    obtain ⟨first, others, htext, hfirst⟩ := h.exists_first
    have hsign : first ≠ '-' := by
      rintro rfl
      cases hfirst
    rw [htext, List.cons_append] at hread hpoint ⊢
    have hfractions := scanned_fraction hpoint h.fraction
    obtain ⟨whole, fraction, exponent⟩ := n
    unfold readNumber numberValue
    -- The rounding is the same on both sides and must not be evaluated.
    generalize Binary64.ofDecimal = ofDecimal
    rcases hfractions with ⟨d, digits, rfl⟩ | ⟨rfl, rfl⟩
    · simp [hsign, hread, hpoint, hexponent]
    · cases exponent <;> simp [hsign, hread, hpoint, hexponent]
  cases negative with
  | true => exact hvalue.1
  | false => exact hvalue.2

theorem readLiteral_word {word : String} {value : Json} (h : (word, value) ∈ words)
    (rest : List Char) : readLiteral (word.toList ++ rest) = some (value, rest) := by
  simp only [words, List.mem_cons, Prod.mk.injEq, List.not_mem_nil, or_false] at h
  rcases h with ⟨rfl, rfl⟩ | ⟨rfl, rfl⟩ | ⟨rfl, rfl⟩ <;> rfl

/-- Does the text begin with a digit, perhaps after a minus sign? That tells numbers from words, one
of which begins with a minus sign too. -/
def startsNumber : List Char → Bool
  | '-' :: c :: _ => isDigit c
  | c :: _ => isDigit c
  | [] => false

theorem IsNumber.startsNumber {n : Numeral} (h : IsNumber n) (negative : Bool) (rest : List Char) :
    startsNumber (signed negative n ++ rest) = true := by
  obtain ⟨first, others, htext, hfirst⟩ := h.exists_first
  have hsign : first ≠ '-' := by
    rintro rfl
    cases hfirst
  cases negative <;> simp [Json.startsNumber, signed, htext, hsign, hfirst]

/-- No number begins with a word. The words are tried first, so this is why a number reaches the
reader of numbers. One of the words begins with a minus sign, but a letter follows it and no
digit. -/
theorem readLiteral_signed {n : Numeral} (h : IsNumber n) (negative : Bool) (rest : List Char) :
    readLiteral (signed negative n ++ rest) = none := by
  have hwords : ∀ literal ∈ literals, literal.1.toList.length ≠ 0 ∧
      literal.1.toList.length ≠ 1 ∧ startsNumber literal.1.toList = false := by
    decide
  have hstarts := h.startsNumber negative rest
  rw [readLiteral, List.findSome?_eq_none_iff]
  rintro ⟨word, value⟩ hmem
  obtain ⟨hne, hlong, hnot⟩ := hwords _ hmem
  dsimp only at hne hlong hnot ⊢
  rw [if_neg]
  rw [List.isPrefixOf_iff_prefix]
  rintro ⟨more, heq⟩
  rw [← heq] at hstarts
  match hchars : word.toList with
  | [] | [_] => simp [hchars] at hne hlong
  | c :: d :: others =>
      have hsame : startsNumber (c :: d :: (others ++ more)) = startsNumber (c :: d :: others) := by
        by_cases hc : c = '-'
        · subst hc
          rfl
        · simp [startsNumber, hc]
      rw [hchars] at hstarts hnot
      rw [List.cons_append, List.cons_append, hsame, hnot] at hstarts
      cases hstarts

theorem readValue_scalar {chars : List Char} (h : ∀ c ∈ ['"', '{', '['], chars.head? ≠ some c)
    (halves : Halves) (fuel : Nat) :
    readValue halves (fuel + 1) chars = (readLiteral chars).elim (readNumber chars) .ok := by
  simp only [List.forall_mem_cons, List.not_mem_nil, false_implies, implies_true, and_true] at h
  obtain ⟨hquote, hbrace, hbracket⟩ := h
  unfold readValue
  split
  · exact absurd rfl hquote
  · exact absurd rfl hbrace
  · exact absurd rfl hbracket
  · cases readLiteral chars <;> rfl

theorem readValue_word {word : String} {value : Json} (h : (word, value) ∈ words) (halves : Halves)
    (fuel : Nat) (rest : List Char) :
    readValue halves (fuel + 1) (word.toList ++ rest) = .ok (value, rest) := by
  have hread := readLiteral_word h rest
  rw [readValue_scalar, hread, Option.elim_some]
  simp only [words, List.mem_cons, Prod.mk.injEq, List.not_mem_nil, or_false] at h
  rcases h with ⟨rfl, -⟩ | ⟨rfl, -⟩ | ⟨rfl, -⟩ <;> simp

theorem readValue_signed {n : Numeral} (h : IsNumber n) (negative : Bool) {rest : List Char}
    (hrest : Numeral.Ends rest) (halves : Halves) (fuel : Nat) :
    readValue halves (fuel + 1) (signed negative n ++ rest) =
      .ok (numberValue negative n, rest) := by
  rw [readValue_scalar, readLiteral_signed h, Option.elim_none, readNumber_spelled h negative hrest]
  obtain ⟨first, others, htext, hfirst⟩ := h.exists_first
  intro c hc hhead
  cases negative with
  | true =>
      obtain rfl : '-' = c := Option.some.inj hhead
      revert hc
      decide
  | false =>
      rw [signed, if_neg (by decide), htext] at hhead
      obtain rfl : first = c := Option.some.inj hhead
      have hnone : ∀ c ∈ ['"', '{', '['], isDigit c = false :=
        List.all_iff_forall_prop.mp (by decide)
      rw [hnone first hc] at hfirst
      cases hfirst

theorem isSpace_iff {c : Char} : isSpace c = true ↔ c ∈ [' ', '\t', '\n', '\r'] := by
  simp [isSpace, or_assoc]

/-- No number goes on with a blank or a mark. What follows a value of an array or object begins with
one, so the number before it is read to its end and no further. -/
theorem ends_of_head {rest : List Char}
    (h : ∀ c ∈ rest.head?, isSpace c = true ∨ c ∈ [',', ']', '}']) : Numeral.Ends rest := by
  have hall : ∀ c ∈ [' ', '\t', '\n', '\r', ',', ']', '}'],
      isDigit c = false ∧ c ∉ ['.', 'e', 'E'] :=
    List.all_iff_forall_prop.mp (by decide)
  intro c hc
  apply hall
  rcases h c hc with hspace | hmark
  · exact List.mem_append_left [',', ']', '}'] (isSpace_iff.mp hspace)
  · exact List.mem_append_right [' ', '\t', '\n', '\r'] hmark

theorem ends_blank {blank rest : List Char} {mark : Char} (hblank : Blank blank)
    (hmark : mark ∈ [',', ']', '}']) : Numeral.Ends (blank ++ mark :: rest) := by
  apply ends_of_head
  cases blank with
  | nil =>
      rintro _ ⟨⟩
      exact Or.inr hmark
  | cons d blank =>
      rintro _ ⟨⟩
      exact Or.inl (hblank d List.mem_cons_self)

/-- A phrase begins with a character that neither is blank nor ends anything. So the blanks before
it are skipped just up to it, and what it belongs to is not over. -/
def Begins (chars : List Char) : Prop :=
  ∃ c others, chars = c :: others ∧ isSpace c = false ∧ c ≠ ']' ∧ c ≠ '}'

theorem Begins.append {chars : List Char} (h : Begins chars) (rest : List Char) :
    Begins (chars ++ rest) := by
  obtain ⟨c, others, rfl, hc⟩ := h
  exact ⟨c, others ++ rest, rfl, hc⟩

theorem Begins.skipSpace {blank chars : List Char} (h : Begins chars) (hblank : Blank blank) :
    skipSpace (blank ++ chars) = chars := by
  obtain ⟨c, others, rfl, hc, -⟩ := h
  exact skipSpace_mark hblank hc others

theorem IsNumber.begins {n : Numeral} (h : IsNumber n) (negative : Bool) :
    Begins (signed negative n) := by
  obtain ⟨first, others, htext, hfirst⟩ := h.exists_first
  have hmarks : ∀ c ∈ [' ', '\t', '\n', '\r', ']', '}'], first ≠ c := by
    rintro c hc rfl
    have hnone : ∀ c ∈ [' ', '\t', '\n', '\r', ']', '}'], isDigit c = false :=
      List.all_iff_forall_prop.mp (by decide)
    rw [hnone _ hc] at hfirst
    cases hfirst
  cases negative with
  | true => exact ⟨'-', n.text, rfl, by decide⟩
  | false =>
      refine ⟨first, others, htext, ?_, hmarks _ (by simp), hmarks _ (by simp)⟩
      rw [Bool.eq_false_iff, ne_eq, isSpace_iff]
      exact fun hspace => hmarks first (List.mem_append_left [']', '}'] hspace) rfl

theorem SpellsString.begins {chars : List Char} {s : String} (h : SpellsString chars s) :
    Begins chars := by
  cases h with
  | quoted => exact ⟨'"', _, rfl, by decide⟩

theorem Spells.begins {phrase : Phrase} {depth : Nat} {chars : List Char} {value : Json}
    (h : Spells phrase depth chars value) : Begins chars := by
  induction h with
  | word depth h =>
      simp only [words, List.mem_cons, Prod.mk.injEq, List.not_mem_nil, or_false] at h
      rcases h with ⟨rfl, -⟩ | ⟨rfl, -⟩ | ⟨rfl, -⟩ <;> exact ⟨_, _, rfl, by decide⟩
  | integer depth negative h => exact h.begins negative
  | number depth negative h => exact h.begins negative
  | string depth h => exact h.begins
  | emptyArray | array | emptyObject | object => exact ⟨_, _, rfl, by decide⟩
  | lastElement _ _ ih | element _ _ _ _ ih => exact ih.append _
  | lastMember hkey | member hkey => exact hkey.begins.append _

/-- The reader, with enough fuel, reads the text as the value and leaves what follows it. For the
rest of an array or object that holds with anything done already, as the induction needs it. -/
def Phrase.ReadAs (halves : Halves) (chars : List Char) (value : Json) : Phrase → Prop
  | .value => ∀ fuel rest, chars.length < fuel → Numeral.Ends rest →
      readValue halves fuel (chars ++ rest) = .ok (value, rest)
  | .elements => ∃ elements, value = .array elements ∧
      ∀ fuel done rest, chars.length < fuel →
        readElements halves fuel done (chars ++ rest) =
          .ok (.array (done.reverse ++ elements), rest)
  | .members => ∃ written, value = .object written ∧
      ∀ fuel done rest, chars.length < fuel →
        readMembers halves fuel done (chars ++ rest) = .ok (.object (setMembers written done), rest)

/-- What begins a value closes nothing. So an array or object in which something stands is not
mistaken for an empty one, and its elements or members are read from the first of them on. -/
theorem readValue_opening (halves : Halves) (fuel : Nat) {blank chars : List Char}
    (hblank : Blank blank) (hbegins : Begins chars) (rest : List Char) :
    readValue halves (fuel + 1) ('[' :: (blank ++ chars) ++ rest) =
        readElements halves fuel [] (chars ++ rest) ∧
      readValue halves (fuel + 1) ('{' :: (blank ++ chars) ++ rest) =
        readMembers halves fuel [] (chars ++ rest) := by
  have hskip := (hbegins.append rest).skipSpace hblank
  obtain ⟨c, others, rfl, -, hbracket, hbrace⟩ := hbegins
  simp only [List.cons_append, List.append_assoc] at hskip ⊢
  simp [readValue, hskip, hbracket, hbrace]

/-- After its key, its colon and its value, a member is kept. What happens next depends on the mark
that follows, be it the last member or not. -/
theorem readMembers_member {halves : Halves} {keyChars blank blank' chars : List Char}
    {key : String} {value : Json} (hkey : SpellsString keyChars key) (hblank : Blank blank)
    (hblank' : Blank blank') (hbegins : Begins chars) {fuel : Nat} {rest : List Char}
    (h : readValue halves fuel (chars ++ rest) = .ok (value, rest))
    (done : List (String × Json)) :
    readMembers halves (fuel + 1) done (keyChars ++ (blank ++ ':' :: (blank' ++ (chars ++ rest)))) =
      match skipSpace rest with
      | '}' :: after => .ok (.object (setMember key value done), after)
      | ',' :: after => readMembers halves fuel (setMember key value done) (skipSpace after)
      | other => failAt .commaExpected other := by
  have hread := readStringAt_spelled hkey halves (blank ++ ':' :: (blank' ++ (chars ++ rest)))
  have hcolon : skipSpace (blank ++ ':' :: (blank' ++ (chars ++ rest))) =
      ':' :: (blank' ++ (chars ++ rest)) :=
    skipSpace_mark hblank (by decide) _
  have hskip := (hbegins.append rest).skipSpace hblank'
  cases hkey with
  | quoted =>
      simp only [List.cons_append] at hread ⊢
      simp only [readMembers, hread, bind, Except.bind, hcolon, hskip, h]
      rfl

/-- Before its closing bracket, the last element ends the array, with the elements that are done
before it. -/
theorem readElements_last {halves : Halves} {blank chars rest : List Char} {value : Json}
    {fuel : Nat} (h : readValue halves fuel (chars ++ (blank ++ ']' :: rest)) =
      .ok (value, blank ++ ']' :: rest))
    (hblank : Blank blank) (done : List Json) :
    readElements halves (fuel + 1) done (chars ++ (blank ++ ']' :: rest)) =
      .ok (.array (done.reverse ++ [value]), rest) := by
  have hskip : skipSpace (blank ++ ']' :: rest) = ']' :: rest :=
    skipSpace_mark hblank (by decide) _
  simp [readElements, h, hskip, bind, Except.bind, pure, Except.pure]

/-- Before a comma, an element is followed by others: it joins those that are done, and the reader
goes on behind the blanks. -/
theorem readElements_next {halves : Halves} {blank blank' chars rest : List Char} {value : Json}
    {fuel : Nat}
    (h : readValue halves fuel (chars ++ (blank ++ ',' :: (blank' ++ rest))) =
      .ok (value, blank ++ ',' :: (blank' ++ rest)))
    (hblank : Blank blank) (hblank' : Blank blank') (hbegins : Begins rest) (done : List Json) :
    readElements halves (fuel + 1) done (chars ++ (blank ++ ',' :: (blank' ++ rest))) =
      readElements halves fuel (value :: done) rest := by
  have hskip : skipSpace (blank ++ ',' :: (blank' ++ rest)) = ',' :: (blank' ++ rest) :=
    skipSpace_mark hblank (by decide) _
  simp [readElements, h, hskip, hbegins.skipSpace hblank', bind, Except.bind]

theorem Spells.readAs {phrase : Phrase} {depth : Nat} {chars : List Char} {value : Json}
    (h : Spells phrase depth chars value) (halves : Halves) :
    phrase.ReadAs halves chars value := by
  induction h with
  | @word depth word value h =>
      intro fuel rest hfuel _
      obtain ⟨fuel, rfl⟩ := Nat.exists_eq_add_one.mpr (Nat.zero_lt_of_lt hfuel)
      exact readValue_word h halves fuel rest
  | @integer depth negative n h hfraction hexponent =>
      intro fuel rest hfuel hrest
      obtain ⟨fuel, rfl⟩ := Nat.exists_eq_add_one.mpr (Nat.zero_lt_of_lt hfuel)
      rw [readValue_signed h negative hrest, numberValue, hfraction, hexponent]
      rfl
  | @number depth negative n h hmarked =>
      intro fuel rest hfuel hrest
      obtain ⟨fuel, rfl⟩ := Nat.exists_eq_add_one.mpr (Nat.zero_lt_of_lt hfuel)
      have hwhole : (n.fraction.isNone && n.exponent.isNone) = false := by
        rw [Bool.and_eq_false_iff]
        exact hmarked.imp (Option.isNone_eq_false_iff.mpr ∘ Option.isSome_iff_ne_none.mpr)
          (Option.isNone_eq_false_iff.mpr ∘ Option.isSome_iff_ne_none.mpr)
      rw [readValue_signed h negative hrest, numberValue, if_neg (by rw [hwhole]; decide)]
  | string depth h =>
      intro fuel rest hfuel _
      obtain ⟨fuel, rfl⟩ := Nat.exists_eq_add_one.mpr (Nat.zero_lt_of_lt hfuel)
      have hread := readStringAt_spelled h halves rest
      cases h with
      | quoted =>
          simp only [List.cons_append] at hread ⊢
          simp only [readValue, hread]
          rfl
  | emptyArray depth hblank =>
      intro fuel rest hfuel _
      obtain ⟨fuel, rfl⟩ := Nat.exists_eq_add_one.mpr (Nat.zero_lt_of_lt hfuel)
      have hskip := skipSpace_mark hblank (by decide : isSpace ']' = false) rest
      simp [readValue, hskip]
  | array hblank h ih =>
      obtain ⟨elements, heq, hread⟩ := ih
      cases heq
      intro fuel rest hfuel _
      obtain ⟨fuel, rfl⟩ := Nat.exists_eq_add_one.mpr (Nat.zero_lt_of_lt hfuel)
      simp only [List.length_cons, List.length_append] at hfuel
      rw [(readValue_opening halves fuel hblank h.begins rest).1]
      exact hread fuel [] rest (by omega)
  | lastElement h hblank ih =>
      refine ⟨_, rfl, fun fuel done rest hfuel => ?_⟩
      obtain ⟨fuel, rfl⟩ := Nat.exists_eq_add_one.mpr (Nat.zero_lt_of_lt hfuel)
      simp only [List.length_append, List.length_singleton] at hfuel
      simp only [List.append_assoc, List.singleton_append]
      exact readElements_last (ih fuel _ (by omega) (ends_blank hblank (by simp))) hblank done
  | @element depth blank blank' chars more value elements h hblank hblank' hmore ih ihmore =>
      obtain ⟨elements', heq, hread⟩ := ihmore
      cases heq
      refine ⟨_, rfl, fun fuel done rest hfuel => ?_⟩
      obtain ⟨fuel, rfl⟩ := Nat.exists_eq_add_one.mpr (Nat.zero_lt_of_lt hfuel)
      simp only [List.length_append, List.length_cons] at hfuel
      have hvalue := ih fuel (blank ++ ',' :: (blank' ++ (more ++ rest))) (by omega)
        (ends_blank hblank (by simp))
      simp only [List.append_assoc, List.cons_append]
      rw [readElements_next hvalue hblank hblank' (hmore.begins.append rest),
        hread fuel (value :: done) rest (by omega)]
      simp
  | emptyObject depth hblank =>
      intro fuel rest hfuel _
      obtain ⟨fuel, rfl⟩ := Nat.exists_eq_add_one.mpr (Nat.zero_lt_of_lt hfuel)
      have hskip := skipSpace_mark hblank (by decide : isSpace '}' = false) rest
      simp [readValue, hskip]
  | object hblank h ih =>
      obtain ⟨written, heq, hread⟩ := ih
      cases heq
      intro fuel rest hfuel _
      obtain ⟨fuel, rfl⟩ := Nat.exists_eq_add_one.mpr (Nat.zero_lt_of_lt hfuel)
      simp only [List.length_cons, List.length_append] at hfuel
      rw [(readValue_opening halves fuel hblank h.begins rest).2]
      exact hread fuel [] rest (by omega)
  | @lastMember depth keyChars blank blank' blank'' chars key value hkey hblank hblank' h hblank''
      ih =>
      refine ⟨_, rfl, fun fuel done rest hfuel => ?_⟩
      obtain ⟨fuel, rfl⟩ := Nat.exists_eq_add_one.mpr (Nat.zero_lt_of_lt hfuel)
      simp only [List.length_append, List.length_cons, List.length_nil] at hfuel
      have hvalue := ih fuel (blank'' ++ '}' :: rest) (by omega) (ends_blank hblank'' (by simp))
      have hskip : skipSpace (blank'' ++ '}' :: rest) = '}' :: rest :=
        skipSpace_mark hblank'' (by decide) _
      simp only [List.append_assoc, List.cons_append, List.nil_append]
      rw [readMembers_member hkey hblank hblank' h.begins hvalue, hskip]
      rfl
  | @member depth keyChars blank blank' blank'' gap chars more key value written hkey hblank
      hblank' h hblank'' hgap hmore ih ihmore =>
      obtain ⟨written', heq, hread⟩ := ihmore
      cases heq
      refine ⟨_, rfl, fun fuel done rest hfuel => ?_⟩
      obtain ⟨fuel, rfl⟩ := Nat.exists_eq_add_one.mpr (Nat.zero_lt_of_lt hfuel)
      simp only [List.length_append, List.length_cons] at hfuel
      have hvalue := ih fuel (blank'' ++ ',' :: (gap ++ (more ++ rest))) (by omega)
        (ends_blank hblank'' (by simp))
      have hskip : skipSpace (blank'' ++ ',' :: (gap ++ (more ++ rest))) =
          ',' :: (gap ++ (more ++ rest)) :=
        skipSpace_mark hblank'' (by decide) _
      simp only [List.append_assoc, List.cons_append]
      rw [readMembers_member hkey hblank hblank' h.begins hvalue, hskip]
      simp only [(hmore.begins.append rest).skipSpace hgap, hread fuel _ rest (by omega)]
      rfl

/-- A text of the grammar is read as the value that it spells. Whatever the reader does with halves
of characters, none stands alone in such a text. -/
theorem SpellsText.ofChars_eq {depth : Nat} {chars : List Char} {value : Json}
    (h : SpellsText depth chars value) (halves : Halves) : ofChars halves chars = .ok value := by
  cases h with
  | @within blank blank' chars value hblank h hblank' =>
      have hends : Numeral.Ends blank' :=
        ends_of_head fun c hc => Or.inl (hblank' c (List.mem_of_head? hc))
      have hread := h.readAs halves ((blank ++ (chars ++ blank')).length + 1) blank'
        (by simp only [List.length_append]; omega) hends
      have hskip : skipSpace blank' = [] := by
        have hnone : skipSpace (blank' ++ []) = [] := skipSpace_append hblank' (by simp)
        rwa [List.append_nil] at hnone
      rw [ofChars, (h.begins.append blank').skipSpace hblank]
      simp only [hread, hskip, bind, Except.bind]
      rfl

end Reckoner.Json
