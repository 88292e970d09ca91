import Mathlib.Data.List.Forall2
import Reckoner.Json.Reader
import Reckoner.Proofs.Numeral

/-!
The grammar of JSON, without regard to how a text is read. Blank characters may stand around every
value and every mark; a string may hold any character as it is or as an escape; and an object has
for each of its keys the value that was written last. Beside its value, a text has a depth: how many
arrays and objects stand inside one another in it.
-/

namespace Reckoner.Json

/-- A character of a string: as it is, by an escape of one letter, by its code, or by two codes that
are halves of it. -/
inductive SpellsChar : List Char → Char → Prop where
  | plain {c : Char} (hquote : c ≠ '"') (hbackslash : c ≠ '\\') (hcontrol : 32 ≤ c.toNat) :
      SpellsChar [c] c
  | escape {letter c : Char} (h : simpleEscape? letter = some c) : SpellsChar ['\\', letter] c
  | code {digits : List Char} {c : Char} (h : readHex4 digits = some (c.toNat, [])) :
      SpellsChar ('\\' :: 'u' :: digits) c
  | halves {digits digits' : List Char} {high low : Nat} {c : Char}
      (h : readHex4 digits = some (high, [])) (h' : readHex4 digits' = some (low, []))
      (hhigh : isHighSurrogate high = true) (hlow : isLowSurrogate low = true)
      (hc : c.toNat = 0x10000 + (high - 0xD800) * 0x400 + (low - 0xDC00)) :
      SpellsChar ('\\' :: 'u' :: (digits ++ '\\' :: 'u' :: digits')) c

/-- The inside of a string, character by character. What is written for one character is a slice of
the text, and the slices follow one another without gaps. -/
inductive SpellsChars : List Char → List Char → Prop where
  | nil : SpellsChars [] []
  | cons {slice chars spelled : List Char} {c : Char} (h : SpellsChar slice c)
      (hrest : SpellsChars chars spelled) : SpellsChars (slice ++ chars) (c :: spelled)

/-- A string in its quotes. Between them a quote stands only escaped, so the string ends at the
first one that is not. -/
inductive SpellsString : List Char → String → Prop where
  | quoted {chars spelled : List Char} (h : SpellsChars chars spelled) :
      SpellsString ('"' :: (chars ++ ['"'])) (String.ofList spelled)

/-- Characters that need no escape spell themselves. So a text is its own spelling where neither
quotes, backslashes nor control characters are in it. -/
theorem SpellsChars.unescaped {chars : List Char}
    (h : chars.all (fun c => decide (c ≠ '"' ∧ c ≠ '\\' ∧ 32 ≤ c.toNat)) = true) :
    SpellsChars chars chars := by
  induction chars with
  | nil => exact .nil
  | cons c chars ih =>
      rw [List.all_cons, Bool.and_eq_true, decide_eq_true_eq] at h
      obtain ⟨⟨hquote, hbackslash, hcontrol⟩, hchars⟩ := h
      exact .cons (.plain hquote hbackslash hcontrol) (ih hchars)

theorem SpellsString.unescaped {s : String}
    (h : s.toList.all (fun c => decide (c ≠ '"' ∧ c ≠ '\\' ∧ 32 ≤ c.toNat)) = true) :
    SpellsString ('"' :: (s.toList ++ ['"'])) s := by
  simpa using SpellsString.quoted (SpellsChars.unescaped h)

/-- The numerals of JSON have digits before the point and behind it, and do not begin with a zero
that could be left out. -/
structure IsNumber (n : Numeral) : Prop where
  wellFormed : n.WellFormed
  whole : n.whole ≠ []
  leading : n.whole.head? = some '0' → n.whole = ['0']
  fraction : n.fraction ≠ some []

/-- A number with its sign. A plus sign is never written before it, and nothing stands between a
minus sign and the digits. -/
def signed (negative : Bool) (n : Numeral) : List Char :=
  if negative then '-' :: n.text else n.text

def Blank (chars : List Char) : Prop := ∀ c ∈ chars, isSpace c = true

/-- The members of an object as they are written, as a dictionary. A key written again keeps its
place among the others and takes the value written last. -/
def setMembers (written : List (String × Json)) (members : List (String × Json)) :
    List (String × Json) :=
  written.foldl (fun members member => setMember member.1 member.2 members) members

/-- The words that are values. The reader knows others besides, for numbers that are not finite;
they are no part of the grammar. -/
def words : List (String × Json) := [("null", .null), ("true", .bool true), ("false", .bool false)]

/-- What a text is a phrase for: a value, or the rest of an array or an object up to its closing
bracket. -/
inductive Phrase where
  | value
  | elements
  | members

/-- The texts of a phrase of JSON of at most some depth, with the value that they spell. The value
of the rest of an array or an object holds what is written in it. -/
inductive Spells : Phrase → Nat → List Char → Json → Prop where
  | word (depth : Nat) {word : String} {value : Json} (h : (word, value) ∈ words) :
      Spells .value depth word.toList value
  | integer (depth : Nat) (negative : Bool) {n : Numeral} (h : IsNumber n)
      (hfraction : n.fraction = none) (hexponent : n.exponent = none) :
      Spells .value depth (signed negative n)
        (.integer (if negative then -(digitsValue n.whole : Int) else digitsValue n.whole))
  | number (depth : Nat) (negative : Bool) {n : Numeral} (h : IsNumber n)
      (hmarked : n.fraction ≠ none ∨ n.exponent ≠ none) :
      Spells .value depth (signed negative n) (.number (Binary64.ofDecimal negative n.decimal))
  | string (depth : Nat) {chars : List Char} {s : String} (h : SpellsString chars s) :
      Spells .value depth chars (.string s)
  | emptyArray (depth : Nat) {blank : List Char} (hblank : Blank blank) :
      Spells .value (depth + 1) ('[' :: (blank ++ [']'])) (.array [])
  | array {depth : Nat} {blank chars : List Char} {elements : List Json} (hblank : Blank blank)
      (h : Spells .elements depth chars (.array elements)) :
      Spells .value (depth + 1) ('[' :: (blank ++ chars)) (.array elements)
  | lastElement {depth : Nat} {blank chars : List Char} {value : Json}
      (h : Spells .value depth chars value) (hblank : Blank blank) :
      Spells .elements depth (chars ++ (blank ++ [']'])) (.array [value])
  | element {depth : Nat} {blank blank' chars more : List Char} {value : Json}
      {elements : List Json} (h : Spells .value depth chars value) (hblank : Blank blank)
      (hblank' : Blank blank') (hmore : Spells .elements depth more (.array elements)) :
      Spells .elements depth (chars ++ (blank ++ ',' :: (blank' ++ more)))
        (.array (value :: elements))
  | emptyObject (depth : Nat) {blank : List Char} (hblank : Blank blank) :
      Spells .value (depth + 1) ('{' :: (blank ++ ['}'])) (.object [])
  | object {depth : Nat} {blank chars : List Char} {written : List (String × Json)}
      (hblank : Blank blank) (h : Spells .members depth chars (.object written)) :
      Spells .value (depth + 1) ('{' :: (blank ++ chars)) (.object (setMembers written []))
  | lastMember {depth : Nat} {keyChars blank blank' blank'' chars : List Char} {key : String}
      {value : Json} (hkey : SpellsString keyChars key) (hblank : Blank blank)
      (hblank' : Blank blank') (h : Spells .value depth chars value) (hblank'' : Blank blank'') :
      Spells .members depth
        (keyChars ++ (blank ++ ':' :: (blank' ++ (chars ++ (blank'' ++ ['}'])))))
        (.object [(key, value)])
  | member {depth : Nat} {keyChars blank blank' blank'' gap chars more : List Char}
      {key : String} {value : Json} {written : List (String × Json)}
      (hkey : SpellsString keyChars key) (hblank : Blank blank) (hblank' : Blank blank')
      (h : Spells .value depth chars value) (hblank'' : Blank blank'') (hgap : Blank gap)
      (hmore : Spells .members depth more (.object written)) :
      Spells .members depth
        (keyChars ++ (blank ++ ':' :: (blank' ++
          (chars ++ (blank'' ++ ',' :: (gap ++ more))))))
        (.object ((key, value) :: written))

/-- A text of JSON is a value, perhaps with blanks around it. Nothing else may stand there, neither
a second value nor a mark. -/
inductive SpellsText (depth : Nat) : List Char → Json → Prop where
  | within {blank blank' chars : List Char} {value : Json} (hblank : Blank blank)
      (h : Spells .value depth chars value) (hblank' : Blank blank') :
      SpellsText depth (blank ++ (chars ++ blank')) value

/-- Values are the same if they differ at most in the order of members, and in whether whole numbers
are kept as such. -/
inductive Same : Json → Json → Prop where
  | refl (value : Json) : Same value value
  | integer {n : Int} {x : Binary64} (h : x.toInt? = some n) : Same (.integer n) (.number x)
  | number {n : Int} {x : Binary64} (h : x.toInt? = some n) : Same (.number x) (.integer n)
  | array {elements others : List Json} (h : List.Forall₂ Same elements others) :
      Same (.array elements) (.array others)
  | object {members others : List (String × Json)}
      (h : ∀ key, Option.Rel Same (members.lookup key) (others.lookup key)) :
      Same (.object members) (.object others)

theorem depthOfMembers_setMember (key : String) (value : Json) (members : List (String × Json)) :
    depthOfMembers (setMember key value members) ≤ max value.depth (depthOfMembers members) := by
  induction members with
  | nil => simp [setMember, depthOfMembers]
  | cons member rest ih =>
      obtain ⟨other, old⟩ := member
      rw [setMember]
      split
      · simp only [depthOfMembers]
        omega
      · simp only [depthOfMembers]
        omega

theorem depthOfMembers_setMembers (written members : List (String × Json)) :
    depthOfMembers (setMembers written members) ≤
      max (depthOfMembers written) (depthOfMembers members) := by
  induction written generalizing members with
  | nil => simp [setMembers, depthOfMembers]
  | cons member rest ih =>
      obtain ⟨key, value⟩ := member
      have hrest := ih (setMember key value members)
      have hset := depthOfMembers_setMember key value members
      simp only [setMembers, List.foldl_cons, depthOfMembers] at hrest ⊢
      omega

/-- The value of a phrase is no deeper than the text may be. The rest of an array or object stands
inside it already, so its value may be one deeper. -/
def Phrase.Fits (depth : Nat) (value : Json) : Phrase → Prop
  | .value => value.depth ≤ depth
  | .elements | .members => value.depth ≤ depth + 1

theorem Spells.fits {phrase : Phrase} {depth : Nat} {chars : List Char} {value : Json}
    (h : Spells phrase depth chars value) : phrase.Fits depth value := by
  induction h with
  | word depth h =>
      simp only [words, List.mem_cons, Prod.mk.injEq, List.not_mem_nil, or_false] at h
      rcases h with ⟨-, rfl⟩ | ⟨-, rfl⟩ | ⟨-, rfl⟩ <;> exact Nat.zero_le _
  | integer | number | string => exact Nat.zero_le _
  | emptyArray | emptyObject => exact Nat.succ_le_succ (Nat.zero_le _)
  | array _ _ ih => exact ih
  | @object depth blank chars written _ _ ih =>
      have hset := depthOfMembers_setMembers written []
      simp only [Phrase.Fits, Json.depth, depthOfMembers] at hset ih ⊢
      omega
  | lastElement _ _ ih | lastMember _ _ _ _ _ ih =>
      simp only [Phrase.Fits, Json.depth, depthOfElements, depthOfMembers] at ih ⊢
      omega
  | element _ _ _ _ ih ihmore | member _ _ _ _ _ _ _ ih ihmore =>
      simp only [Phrase.Fits, Json.depth, depthOfElements, depthOfMembers] at ih ihmore ⊢
      omega

end Reckoner.Json
