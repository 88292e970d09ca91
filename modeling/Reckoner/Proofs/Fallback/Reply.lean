import Reckoner.Fallback.Reply
import Reckoner.Proofs.Json.Reading

/-!
Replies in the midst of other text. What stands around an object does not matter, if no brace opens
before it and none closes after it, whatever braces the object itself has: the reply is what it is
if the object is given decoded.
-/

namespace Reckoner

namespace Text

theorem dropWhile_append_stop {kind : Char → Bool} {c : Char} (hc : kind c = false)
    (front rest : List Char) :
    (front ++ c :: rest).dropWhile kind = front.dropWhile kind ++ c :: rest := by
  rw [List.dropWhile_append]
  split
  · rename_i hempty
    rw [List.isEmpty_iff.mp hempty, List.dropWhile_cons_of_neg (by simp [hc]), List.nil_append]
  · rfl

/-- Between two characters that are not blank nothing is trimmed. What is left outside them is part
of what stood outside before, so it has no brace that was not there. -/
theorem exists_trim_around {first last : Char} (hfirst : isBlank first = false)
    (hlast : isBlank last = false) (before inside after : List Char) :
    ∃ before' after', trim (before ++ first :: (inside ++ last :: after)) =
        before' ++ first :: (inside ++ last :: after') ∧ before' ⊆ before ∧ after' ⊆ after := by
  refine ⟨before.dropWhile isBlank, (after.reverse.dropWhile isBlank).reverse, ?_,
    List.dropWhile_subset isBlank, ?_⟩
  · have hreverse : (before.dropWhile isBlank ++ first :: (inside ++ last :: after)).reverse =
        after.reverse ++ last :: (before.dropWhile isBlank ++ first :: inside).reverse := by
      simp
    rw [trim, trimLeft, trimLeft, dropWhile_append_stop hfirst, hreverse,
      dropWhile_append_stop hlast]
    simp
  · intro c hc
    exact List.mem_reverse.mp (List.dropWhile_subset isBlank (List.mem_reverse.mp hc))

theorem trim_eq_nil_iff (chars : List Char) :
    trim chars = [] ↔ ∀ c ∈ chars, isBlank c = true := by
  have hleft : trimLeft chars = [] ↔ ∀ c ∈ chars, isBlank c = true := by simp [trimLeft]
  constructor
  · intro h
    have hrest : ∀ c ∈ trimLeft chars, isBlank c = true := by simpa [trim, trimLeft] using h
    intro c hc
    rw [← List.takeWhile_append_dropWhile (p := isBlank) (l := chars)] at hc
    rcases List.mem_append.mp hc with hc | hc
    · exact List.mem_takeWhile_imp hc
    · exact hrest c hc
  · intro h
    rw [trim, hleft.mpr h]
    rfl

end Text

namespace Json

theorem Spells.closing_suffix {phrase : Phrase} {depth : Nat} {chars : List Char} {value : Json}
    (h : Spells phrase depth chars value) (hphrase : phrase = .members) : ['}'] <:+ chars := by
  induction h with
  | @lastMember _ keyChars blank blank' blank'' chars =>
      exact ⟨keyChars ++ (blank ++ ':' :: (blank' ++ (chars ++ blank''))), by simp⟩
  | @member _ keyChars blank blank' blank'' gap chars _ _ _ _ _ _ _ _ _ _ _ _ ih =>
      obtain ⟨front, rfl⟩ := ih rfl
      exact ⟨keyChars ++ (blank ++ ':' :: (blank' ++ (chars ++ (blank'' ++ ',' ::
        (gap ++ front))))), by simp⟩
  | word | integer | number | string | emptyArray | array | emptyObject | object | lastElement
  | element => cases hphrase

/-- An object stands in braces, the first and the last of its characters. So a search for the first
brace that opens and the last that closes finds its ends, if no others stand around it. -/
theorem Spells.exists_braced {depth : Nat} {chars : List Char} {members : List (String × Json)}
    (h : Spells .value depth chars (.object members)) :
    ∃ inside, chars = '{' :: (inside ++ ['}']) := by
  cases h with
  | word _ h => simp [words] at h
  | emptyObject => exact ⟨_, rfl⟩
  | object _ h =>
      obtain ⟨front, rfl⟩ := h.closing_suffix rfl
      exact ⟨_, by rw [List.append_assoc]⟩

end Json

namespace Fallback

open Json

/-- Where no brace opens before and none closes after, the braces are found. What stands between
them does not matter, for the search comes from both ends of the text. -/
theorem bracedPart?_around {before after : List Char} (hbefore : '{' ∉ before)
    (hafter : '}' ∉ after) (inside : List Char) :
    bracedPart? (before ++ '{' :: (inside ++ '}' :: after)) =
      some ('{' :: (inside ++ ['}'])) := by
  have hopening : (before ++ '{' :: (inside ++ '}' :: after)).dropWhile (· ≠ '{') =
      '{' :: (inside ++ '}' :: after) := by
    rw [Text.dropWhile_append_stop (by decide), List.append_left_eq_self, List.dropWhile_eq_nil_iff]
    intro c hc
    exact decide_eq_true (ne_of_mem_of_not_mem hc hbefore)
  have hclosing : ('{' :: (inside ++ '}' :: after)).reverse.dropWhile (· ≠ '}') =
      '}' :: ('{' :: inside).reverse := by
    have hreverse : ('{' :: (inside ++ '}' :: after)).reverse =
        after.reverse ++ '}' :: ('{' :: inside).reverse := by simp
    rw [hreverse, Text.dropWhile_append_stop (by decide), List.append_left_eq_self,
      List.dropWhile_eq_nil_iff]
    intro c hc
    exact decide_eq_true (ne_of_mem_of_not_mem (List.mem_reverse.mp hc) hafter)
  rw [bracedPart?, hopening, hclosing]
  simp

theorem resultOf_same {members others : List (String × Json)}
    (h : Same (.object members) (.object others)) :
    resultOf (.object members) = resultOf (.object others) := by
  cases h with
  | refl => rfl
  | object h =>
      have hresult := h resultKey
      simp only [resultOf, member?]
      generalize members.lookup resultKey = found at *
      generalize others.lookup resultKey = found' at *
      cases hresult with
      | none => rfl
      | some hsame =>
          cases hsame <;> rfl

/-- A reply is the same decoded and as a text in the midst of other text. Blanks around the written
object count to what is around it; they hold no braces. The braces that are found are those of the
written object, and between them the reader finds that object again. -/
theorem resultOfPayload_around {text : String} {written members : List (String × Json)}
    (htext : SpellsText depthLimit text.toList (.object written))
    (hsame : Same (.object members) (.object written)) {before after : String}
    (hbefore : '{' ∉ before.toList) (hafter : '}' ∉ after.toList) :
    resultOfPayload (.string (before ++ text ++ after)) = resultOfPayload (.object members) := by
  generalize hchars : text.toList = chars at htext
  cases htext with
  | @within blank blank' chars _ hblank hspells hblank' =>
      obtain ⟨inside, rfl⟩ := hspells.exists_braced
      have hopening : '{' ∉ before.toList ++ blank := by
        rw [List.mem_append, not_or]
        exact ⟨hbefore, fun hmem => absurd (hblank _ hmem) (by decide)⟩
      have hclosing : '}' ∉ blank' ++ after.toList := by
        rw [List.mem_append, not_or]
        exact ⟨fun hmem => absurd (hblank' _ hmem) (by decide), hafter⟩
      have hwhole : (before ++ text ++ after).toList =
          before.toList ++ blank ++ '{' :: (inside ++ '}' :: (blank' ++ after.toList)) := by
        simp [hchars]
      have hfirst : Text.isBlank '{' = false := by decide
      have hlast : Text.isBlank '}' = false := by decide
      obtain ⟨before', after', htrim, hsubset, hsubset'⟩ :=
        Text.exists_trim_around hfirst hlast (before.toList ++ blank) inside
          (blank' ++ after.toList)
      have hpart := bracedPart?_around (fun h => hopening (hsubset h))
        (fun h => hclosing (hsubset' h)) inside
      have hread : ofChars .refused ('{' :: (inside ++ ['}'])) = .ok (.object written) := by
        have htext : SpellsText depthLimit ([] ++ ('{' :: (inside ++ ['}']) ++ [])) _ :=
          .within (by simp [Blank]) hspells (by simp [Blank])
        simpa using htext.ofChars_eq .refused
      have hdepth : ¬ depthLimit < (Json.object written).depth := Nat.not_lt.mpr hspells.fits
      rw [resultOfPayload, resultOfText, hwhole, htrim, hpart]
      simp only [hread, if_neg hdepth]
      exact (resultOf_same hsame).symm

theorem resultOf_object_iff {members : List (String × Json)} {result : String} :
    resultOf (.object members) = .ok result ↔
      ∃ s, members.lookup resultKey = some (.string s) ∧
        (∃ c ∈ s.toList, Text.isBlank c = false) ∧ result = String.ofList (Text.trim s.toList) := by
  simp only [resultOf, member?]
  split
  · rename_i s hfound
    have hblank : (∃ c ∈ s.toList, Text.isBlank c = false) ↔ Text.trim s.toList ≠ [] := by
      simp [Text.trim_eq_nil_iff]
    simp only [hfound, Option.some.injEq, Json.string.injEq, exists_eq_left', hblank]
    split
    · rename_i hempty
      simp [List.isEmpty_iff.mp hempty]
    · rename_i hnonempty
      have htrim : Text.trim s.toList ≠ [] := fun h => hnonempty (List.isEmpty_iff.mpr h)
      rw [Except.ok.injEq, and_iff_right htrim]
      exact eq_comm
  · rename_i hnone
    simp only [reduceCtorEq, false_iff, not_exists, not_and]
    intro s hfound
    exact absurd hfound (hnone s)

/-- A reply means the same decoded and as a text in the midst of other text, however it is spelled.
It is the result without the blanks around it, if that is a string that is not blank, and an error
otherwise. -/
theorem resultOfPayload_serialized {text : String} {written members : List (String × Json)}
    (htext : SpellsText depthLimit text.toList (.object written))
    (hsame : Same (.object members) (.object written)) {before after : String}
    (hbefore : '{' ∉ before.toList) (hafter : '}' ∉ after.toList) :
    resultOfPayload (.string (before ++ text ++ after)) = resultOfPayload (.object members) ∧
    ∀ result, resultOfPayload (.object members) = .ok result ↔
      ∃ s, members.lookup resultKey = some (.string s) ∧
        (∃ c ∈ s.toList, Text.isBlank c = false) ∧ result = String.ofList (Text.trim s.toList) :=
  ⟨resultOfPayload_around htext hsame hbefore hafter, fun _ => resultOf_object_iff⟩

/-- Braces inside an object and in its strings do not end it, and a character given by its code is
the character. -/
theorem reply_in_prose :
    ('{' ∉ "Sure: ".toList ∧ '}' ∉ ". Bye".toList) ∧
      resultOfPayload (.string
        ("Sure: " ++ "\x7b\"n\":\x7b\x7d, \"result\": \" \\u0034\x7d\"\x7d" ++ ". Bye")) =
        .ok "4\x7d" := by
  have hbefore : '{' ∉ "Sure: ".toList := by decide
  have hafter : '}' ∉ ". Bye".toList := by decide
  have hnone : Blank [] := by simp [Blank]
  have hspace : Blank [' '] := by simp [Blank]; decide
  have hkey : SpellsString _ "n" := .unescaped (by decide)
  have hresultKey : SpellsString _ resultKey := .unescaped (by decide)
  have hcode : SpellsChar ['\\', 'u', '0', '0', '3', '4'] '4' := .code (by decide)
  have hspelled : SpellsChars " \\u0034\x7d".toList [' ', '4', '\x7d'] :=
    .cons (.plain (by decide) (by decide) (by decide))
      (.cons hcode (.unescaped (by decide)))
  have hresult : SpellsString _ " 4\x7d" := .quoted hspelled
  have hmembers : Spells .members 199 _ _ :=
    .member hkey hnone hnone (.emptyObject 198 hnone) hnone hspace
      (.lastMember hresultKey hnone hspace (.string 199 hresult) hnone)
  have htext : SpellsText depthLimit "\x7b\"n\":\x7b\x7d, \"result\": \" \\u0034\x7d\"\x7d".toList
      (.object [("n", .object []), (resultKey, .string " 4\x7d")]) :=
    .within hnone (.object hnone hmembers) hnone
  obtain ⟨hsame, hresult⟩ := resultOfPayload_serialized htext (Same.refl _) hbefore hafter
  refine ⟨⟨hbefore, hafter⟩, hsame.trans ((hresult _).mpr ⟨_, rfl, ?_, ?_⟩)⟩
  · exact ⟨'4', by decide, by decide +kernel⟩
  · decide +kernel

end Fallback

end Reckoner
