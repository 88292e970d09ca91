import Reckoner.Proofs.Console.Tag
import Mathlib.Data.List.Find

/-!
Texts that the console shows as they are, apart from tags. Codes of pictures are found within a
stretch as they are found in the whole text, so that a text without a code of a picture has none in
any part.
-/

namespace Reckoner.Console

/-- A code goes up to a colon, and has a length. What comes after the colon is not looked at, so it
may be anything. -/
theorem codeFrom_eq_some {name chars : List Char} {code : PictureCode}
    (h : codeFrom name chars = some code) : ':' ∈ chars ∧ 0 < code.length := by
  fun_induction codeFrom name chars with
  | case1 => cases h
  | case2 name c rest ending selector hfound =>
      have hcolon : ∀ entry ∈ variants, ':' ∈ entry.1 := by decide
      have hbegins := List.find?_some hfound
      rw [List.isPrefixOf_iff_prefix] at hbegins
      rw [← Option.some.inj h]
      exact ⟨hbegins.subset (hcolon _ (List.mem_of_find?_eq_some hfound)), Nat.succ_pos _⟩
  | case3 name rest hfound =>
      rw [← Option.some.inj h]
      exact ⟨List.mem_cons_self, Nat.succ_pos _⟩
  | case4 => cases h
  | case5 name c rest hfound hc hblank ih =>
      obtain ⟨hcolon, hlength⟩ := ih h
      exact ⟨List.mem_cons_of_mem c hcolon, hlength⟩

/-- Whether a way to draw a picture is selected is settled at the next colon, where the ending of a
name is compared. -/
theorem isPrefixOf_variant_append {entry : List Char × Char} (hentry : entry ∈ variants)
    {chars : List Char} (hcolon : ':' ∈ chars) (rest : List Char) :
    entry.1.isPrefixOf (chars ++ rest) = entry.1.isPrefixOf chars := by
  rw [Bool.eq_iff_iff, List.isPrefixOf_iff_prefix, List.isPrefixOf_iff_prefix]
  refine ⟨fun h => ?_, fun h => h.trans (List.prefix_append chars rest)⟩
  rcases List.prefix_or_prefix_of_prefix h (List.prefix_append chars rest) with h | ⟨more, hmore⟩
  · exact h
  · have hlast : ∀ entry ∈ variants, ':' ∉ entry.1.dropLast := by decide
    cases more using List.reverseRecOn with
    | nil => exact ⟨[], by rw [← hmore, List.append_nil, List.append_nil]⟩
    | append_singleton more c =>
        refine absurd ?_ (hlast entry hentry)
        rw [← hmore, ← List.append_assoc, List.dropLast_concat]
        exact List.mem_append_left more hcolon

theorem codeFrom_append {name chars : List Char} {code : PictureCode}
    (h : codeFrom name chars = some code) (rest : List Char) :
    codeFrom name (chars ++ rest) = some code := by
  induction chars generalizing name with
  | nil => cases h
  | cons c chars ih =>
      have hfind : (variants.find? fun entry => entry.1.isPrefixOf (c :: (chars ++ rest))) =
          variants.find? fun entry => entry.1.isPrefixOf (c :: chars) :=
        List.find?_congr fun entry hentry =>
          isPrefixOf_variant_append hentry (codeFrom_eq_some h).1 rest
      rw [codeFrom] at h
      rw [List.cons_append, codeFrom, hfind]
      revert h
      split
      · exact id
      · split_ifs
        · exact id
        · exact id
        · exact ih

theorem codeAt?_append {chars : List Char} {code : PictureCode} (h : codeAt? chars = some code)
    (rest : List Char) : codeAt? (chars ++ rest) = some code := by
  unfold codeAt? at h
  split at h
  · exact codeFrom_append h rest
  · cases h

theorem length_pos_of_codeAt? {chars : List Char} {code : PictureCode}
    (h : codeAt? chars = some code) : 0 < code.length := by
  unfold codeAt? at h
  split at h
  · exact (codeFrom_eq_some h).2
  · cases h

/-- A text that the console shows as it is, tags apart: it has no controls that move the cursor, no
code of a picture that exists, and no backslash before a bracket that opens no tag. -/
structure Verbatim (chars : List Char) : Prop where
  noControl : ∀ c ∈ chars, visible.isCursorControl c = false
  noPicture : ∀ suffix, suffix <:+ chars → ∀ code, codeAt? suffix = some code → code.picture? = none
  noEscape : ∀ rest, '\\' :: '[' :: rest <:+ chars → tagAt? ('[' :: rest) ≠ none

theorem Verbatim.of_suffix {chars suffix : List Char} (h : Verbatim chars)
    (hsuffix : suffix <:+ chars) : Verbatim suffix where
  noControl c hc := h.noControl c (hsuffix.mem hc)
  noPicture _ hinner := h.noPicture _ (hinner.trans hsuffix)
  noEscape _ hinner := h.noEscape _ (hinner.trans hsuffix)

theorem withoutEscapes_eq {chars : List Char} (h : ∀ rest, ¬ '\\' :: '[' :: rest <:+ chars) :
    visible.withoutEscapes chars = chars := by
  induction chars with
  | nil => rfl
  | cons c chars ih =>
      have htail := ih fun rest hrest => h rest (hrest.trans (List.suffix_cons c chars))
      unfold visible.withoutEscapes
      split
      · rename_i rest hsame
        exact absurd (hsame ▸ List.suffix_refl _) (h rest)
      · rename_i hsame
        obtain ⟨rfl, rfl⟩ := List.cons.inj hsame
        rw [htail]
      · rename_i hsame
        cases hsame

/-- Pictures are not replaced in a text without a code of one. Codes that name no picture stay as
they are, so they do not have to be excluded. The characters to be skipped are those of such a
code. -/
theorem replacePicturesFrom_eq_drop {chars : List Char}
    (h : ∀ suffix, suffix <:+ chars → ∀ code, codeAt? suffix = some code → code.picture? = none)
    (skip : Nat) : replacePicturesFrom skip chars = chars.drop skip := by
  induction chars generalizing skip with
  | nil => cases skip <;> rfl
  | cons c chars ih =>
      have htail := ih fun suffix hsuffix => h suffix (hsuffix.trans (List.suffix_cons c chars))
      cases skip with
      | succ skip => rw [replacePicturesFrom, htail, List.drop_succ_cons]
      | zero =>
          rw [replacePicturesFrom]
          cases hcode : codeAt? (c :: chars) with
          | none => simp [htail]
          | some code =>
              dsimp only
              have hpositive := length_pos_of_codeAt? hcode
              rw [h _ (List.suffix_refl _) code hcode, Option.getD_none, htail, List.drop_zero]
              obtain ⟨length, hlength⟩ := Nat.exists_eq_succ_of_ne_zero hpositive.ne'
              rw [hlength, List.take_succ_cons, Nat.succ_sub_one, List.cons_append,
                List.take_append_drop]

/-- The beginning of a text that is shown as it is. A backslash before a bracket would be dropped in
any case, so there must be none. -/
theorem visible_eq {chars rest : List Char} (h : Verbatim (chars ++ rest))
    (hescape : ∀ after, ¬ '\\' :: '[' :: after <:+ chars) : visible chars = chars := by
  have hpictures : replacePictures chars = chars := by
    refine (replacePicturesFrom_eq_drop ?_ 0).trans List.drop_zero
    intro suffix hsuffix code hcode
    exact h.noPicture _ (suffix_append_append hsuffix rest) code (codeAt?_append hcode rest)
  rw [visible, withoutEscapes_eq hescape, hpictures, List.filter_eq_self]
  intro c hc
  rw [h.noControl c (List.mem_append_left rest hc), Bool.not_false]

/-- The parts of a stretch before a tag, where it is shown as it is. A bracket after a backslash
would have to begin a tag, and none begins in the stretch. -/
theorem visible_stretch {chars : List Char} {m : TagMatch} {rest : List Char}
    (h : Verbatim (chars ++ (m.written ++ rest))) (huntagged : Untagged chars)
    (hclosed : Closed chars) : visible chars = chars := by
  refine visible_eq h fun after hafter => ?_
  obtain ⟨front, rfl⟩ := hafter
  refine h.noEscape (after ++ (m.written ++ rest)) ⟨front, by simp⟩ ?_
  have hsuffix : '[' :: after <:+ front ++ '\\' :: '[' :: after := ⟨front ++ ['\\'], by simp⟩
  exact tagAt?_append_written (List.cons_ne_nil _ _)
    (hclosed.of_suffix (List.cons_ne_nil _ _) hsuffix)
    (huntagged _ hsuffix) rest

/-- A stretch before a text that completes no tag. A bracket after a backslash would have to begin a
tag, and nothing after the stretch ends one. -/
theorem visible_untagged_append {chars rest : List Char} (h : Verbatim (chars ++ rest))
    (huntagged : Untagged chars) (hrest : ']' ∉ rest) : visible chars = chars := by
  refine visible_eq h fun after hafter => ?_
  exact h.noEscape (after ++ rest) (suffix_append_append hafter rest)
    (tagAt?_append (huntagged _ ((List.suffix_cons '\\' _).trans hafter)) hrest)

theorem visible_untagged {chars : List Char} (h : Verbatim chars) (huntagged : Untagged chars) :
    visible chars = chars := by
  rw [← List.append_nil chars] at h
  exact visible_untagged_append h huntagged List.not_mem_nil

theorem visible_bracketed {inside rest : List Char} (h : Verbatim (bracketed inside ++ rest))
    (hinside : '[' ∉ inside) : visible (bracketed inside) = bracketed inside := by
  refine visible_eq h fun after hafter => hinside ?_
  rcases List.suffix_cons_iff.mp hafter with hsame | hafter
  · cases hsame
  · have hmem : '[' ∈ inside ++ [']'] := hafter.mem (by simp)
    simpa using hmem

/-- A text without backslashes, controls and codes is shown as it is. The three conditions can be
computed, which settles any fixed text. -/
theorem verbatim_of_plain {chars : List Char} (hbackslash : '\\' ∉ chars)
    (hcontrol : chars.all (!visible.isCursorControl ·) = true)
    (hcode : ∀ suffix ∈ chars.tails, codeAt? suffix = none) : Verbatim chars where
  noControl c hc := by simpa using List.all_eq_true.mp hcontrol c hc
  noPicture suffix hsuffix code hfound := by
    have hnone := hcode suffix ((List.mem_tails suffix chars).mpr hsuffix)
    rw [hfound] at hnone
    cases hnone
  noEscape rest hrest := absurd (hrest.mem List.mem_cons_self) hbackslash

/-- Letters, digits and spaces, which mean nothing to the console. The markers of failure and the
names of modes are made of nothing else. -/
def Bland (chars : List Char) : Prop := ∀ c ∈ chars, (c.isAlphanum || c = ' ') = true

instance (chars : List Char) : Decidable (Bland chars) :=
  List.decidableBAll (fun c => (c.isAlphanum || c = ' ') = true) chars

theorem Bland.not_mem {chars : List Char} (h : Bland chars) {c : Char}
    (hc : (c.isAlphanum || c = ' ') = false) : c ∉ chars := by
  intro hmem
  rw [h c hmem] at hc
  cases hc

theorem Bland.untagged {chars : List Char} (h : Bland chars) : Untagged chars :=
  untagged_of_not_mem (h.not_mem (by decide))

theorem Bland.closed {chars : List Char} (h : Bland chars) : Closed chars := fun hlast =>
  h.not_mem (c := '\\') (by decide) (List.mem_of_getLast? hlast)

theorem Bland.verbatim {chars : List Char} (h : Bland chars) : Verbatim chars := by
  refine verbatim_of_plain (h.not_mem (by decide)) ?_ fun suffix hsuffix => ?_
  · refine List.all_eq_true.mpr fun c hc => ?_
    have hbland := h c hc
    simp only [visible.isCursorControl, Bool.not_eq_true', Bool.or_eq_false_iff,
      decide_eq_false_iff_not]
    refine ⟨⟨⟨⟨?_, ?_⟩, ?_⟩, ?_⟩, ?_⟩ <;> rintro rfl <;> revert hbland <;> decide
  · cases suffix with
    | nil => rfl
    | cons c rest =>
        have hmem : c ∈ chars := ((List.mem_tails _ _).mp hsuffix).mem List.mem_cons_self
        have hcolon : c ≠ ':' := by
          rintro rfl
          exact h.not_mem (by decide) hmem
        simp [codeAt?, hcolon]

theorem Verbatim.of_append_backslashes {chars : List Char} {n : Nat}
    (h : Verbatim (chars ++ List.replicate n '\\')) : Verbatim chars where
  noControl c hc := h.noControl c (List.mem_append_left _ hc)
  noPicture _ hsuffix code hcode :=
    h.noPicture _ (suffix_append_append hsuffix _) code (codeAt?_append hcode _)
  noEscape after hafter hnone :=
    h.noEscape (after ++ List.replicate n '\\') (suffix_append_append hafter _)
      (tagAt?_append hnone (by simp))

end Reckoner.Console
