import Reckoner.Console.Markup
import Mathlib.Data.List.Infix
import Mathlib.Data.List.TakeWhile

/-!
Tags in texts with markup. A text is made of stretches without a tag and of tags between them, and
no tag reaches from one into the other: what is read of a stretch does not depend on what follows
it, as long as no backslash at its end could escape that.
-/

namespace Reckoner.Console

namespace TagMatch

def written (m : TagMatch) : List Char := List.replicate m.backslashes '\\' ++ bracketed m.inside

/-- A tag begins with a character that a tag can begin with, and holds no bracket. Whatever is
matched has this form, so tags can be put together from it. -/
inductive Proper : TagMatch → Prop where
  | intro (backslashes : Nat) {c : Char} {inside : List Char} (hstart : isTagStart c = true)
      (hinside : ∀ d ∈ inside, d ≠ '[' ∧ d ≠ ']') : Proper ⟨backslashes, c :: inside⟩

theorem length_written (m : TagMatch) : m.written.length = m.length := by
  simp only [written, bracketed, TagMatch.length, List.length_append, List.length_replicate,
    List.length_cons, List.length_nil]
  omega

theorem getLast?_written (m : TagMatch) : m.written.getLast? = some ']' := by
  rw [written, bracketed, ← List.cons_append, ← List.append_assoc, List.getLast?_concat]

end TagMatch

theorem isTagStart_ne {c : Char} (h : isTagStart c = true) : c ≠ '[' ∧ c ≠ ']' := by
  refine ⟨?_, ?_⟩ <;> rintro rfl <;> revert h <;> decide

theorem TagMatch.Proper.inside_ne {m : TagMatch} (h : m.Proper) :
    ∀ d ∈ m.inside, d ≠ '[' ∧ d ≠ ']' := by
  obtain ⟨backslashes, hstart, hinside⟩ := h
  intro d hd
  rcases List.mem_cons.mp hd with rfl | hd
  · exact isTagStart_ne hstart
  · exact hinside d hd

theorem TagMatch.Proper.escaped {m : TagMatch} (h : m.Proper) (backslashes : Nat) :
    TagMatch.Proper ⟨backslashes, m.inside⟩ := by
  obtain ⟨_, hstart, hinside⟩ := h
  exact .intro backslashes hstart hinside

theorem tagAt?_written {m : TagMatch} (h : m.Proper) (rest : List Char) :
    tagAt? (m.written ++ rest) = some m := by
  obtain @⟨backslashes, c, inside, hstart, hinside⟩ := h
  have hrun : ((TagMatch.mk backslashes (c :: inside)).written ++ rest).takeWhile (· = '\\') =
      List.replicate backslashes '\\' := by
    simp [TagMatch.written, bracketed, List.takeWhile_append_of_pos]
  have hinner : (inside ++ ']' :: rest).takeWhile (fun c => c ≠ '[' && c ≠ ']') = inside := by
    rw [List.takeWhile_append_of_pos (by simpa using hinside)]
    simp
  unfold tagAt?
  rw [hrun]
  simp only [TagMatch.written, bracketed, List.length_replicate, List.append_assoc,
    List.cons_append, List.nil_append, List.drop_left', hinner, hstart, List.head?_cons,
    decide_true, Bool.and_self, if_true]

theorem tagAt?_eq_some {chars : List Char} {m : TagMatch} (h : tagAt? chars = some m) :
    m.Proper ∧ ∃ rest, chars = m.written ++ rest := by
  have hrun : chars.takeWhile (· = '\\') =
      List.replicate (chars.takeWhile (· = '\\')).length '\\' :=
    List.eq_replicate_of_mem fun c hc => by simpa using List.mem_takeWhile_imp hc
  have hchars := List.prefix_append_drop (chars.takeWhile_prefix (· = '\\'))
  unfold tagAt? at h
  dsimp only at h
  split at h
  · rename_i c rest hbracket
    split at h
    · rename_i hclosed
      rw [Bool.and_eq_true, decide_eq_true_eq] at hclosed
      obtain ⟨hstart, hclosed⟩ := hclosed
      obtain ⟨after, hafter⟩ := List.head?_eq_some_iff.mp hclosed
      have hrest := List.prefix_append_drop (rest.takeWhile_prefix fun c => c ≠ '[' && c ≠ ']')
      rw [hafter] at hrest
      rw [← Option.some.inj h]
      refine ⟨.intro _ hstart fun d hd => by simpa using List.mem_takeWhile_imp hd, after, ?_⟩
      rw [hbracket, hrun] at hchars
      rw [TagMatch.written, bracketed]
      conv_lhs => rw [hchars, hrest]
      simp
    · cases h
  · cases h

theorem suffix_append_append {suffix chars : List Char} (h : suffix <:+ chars) (rest : List Char) :
    suffix ++ rest <:+ chars ++ rest := by
  obtain ⟨front, rfl⟩ := h
  exact ⟨front, (List.append_assoc ..).symm⟩

/-- No tag begins anywhere in a text. It is stated of all ends of the text, so that it passes to
each of them. -/
def Untagged (chars : List Char) : Prop := ∀ suffix, suffix <:+ chars → tagAt? suffix = none

/-- No backslash at the end of a text could escape what follows it, and so what follows is read as
if it stood alone. -/
def Closed (chars : List Char) : Prop := chars.getLast? ≠ some '\\'

theorem Untagged.tail {c : Char} {chars : List Char} (h : Untagged (c :: chars)) : Untagged chars :=
  fun suffix hsuffix => h suffix (hsuffix.trans (List.suffix_cons c chars))

theorem untagged_nil : Untagged [] := by
  intro suffix hsuffix
  rw [List.suffix_nil.mp hsuffix]
  rfl

theorem Untagged.cons {c : Char} {chars : List Char} (h : Untagged chars)
    (hnone : tagAt? (c :: chars) = none) : Untagged (c :: chars) := by
  intro suffix hsuffix
  rcases List.suffix_cons_iff.mp hsuffix with rfl | hsuffix
  · exact hnone
  · exact h suffix hsuffix

theorem Closed.tail {c : Char} {chars : List Char} (h : Closed (c :: chars)) : Closed chars := by
  cases chars with
  | nil => simp [Closed]
  | cons d rest => simpa [Closed] using h

theorem Closed.replicate_ne {chars : List Char} (hclosed : Closed chars) (hne : chars ≠ [])
    (n : Nat) (rest : List Char) : List.replicate n '\\' ≠ chars ++ rest := by
  intro hsame
  refine hclosed ?_
  rw [List.getLast?_eq_some_getLast hne, Option.some.injEq]
  exact List.eq_of_mem_replicate (hsame ▸ List.mem_append_left rest (List.getLast_mem hne))

/-- A tag that begins in a text and ends after it has its closing bracket after it, and no opening
one. -/
theorem brackets_after {m : TagMatch} (hm : m.Proper) {chars across : List Char} (hne : chars ≠ [])
    (hclosed : Closed chars) (hacross : across ≠ []) (h : m.written = chars ++ across) :
    '[' ∉ across ∧ ']' ∈ across := by
  rcases List.append_eq_append_iff.mp h with ⟨front, rfl, hbracketed⟩ | ⟨more, hrun, -⟩
  · cases front with
    | nil =>
        rw [List.append_nil] at hne hclosed
        exact absurd (List.append_nil _).symm (hclosed.replicate_ne hne _ [])
    | cons c front =>
        simp only [bracketed, List.cons_append, List.cons.injEq] at hbracketed
        refine ⟨fun hmem => ?_, ?_⟩
        · have hmem : '[' ∈ m.inside ++ [']'] := hbracketed.2 ▸ List.mem_append_right front hmem
          rcases List.mem_append.mp hmem with hmem | hmem
          · exact (hm.inside_ne '[' hmem).1 rfl
          · simp at hmem
        · have hlast := congrArg List.getLast? hbracketed.2
          rw [List.getLast?_append_of_ne_nil _ hacross] at hlast
          exact List.mem_of_getLast? (by simpa using hlast.symm)
  · exact absurd hrun (hclosed.replicate_ne hne _ more)

/-- The opening bracket of a tag comes before its closing one. What reaches across a tag up to its
end holds both of them, and no tag does. -/
theorem opening_before {m : TagMatch} {rest across after : List Char}
    (h : m.written ++ rest = across ++ after) (hclosing : ']' ∈ across) : '[' ∈ across := by
  have hopening : List.replicate m.backslashes '\\' ++ ['['] ++ (m.inside ++ [']'] ++ rest) =
      across ++ after := by simpa [TagMatch.written, bracketed] using h
  rcases List.append_eq_append_iff.mp hopening with ⟨more, rfl, -⟩ | ⟨more, hrun, -⟩
  · simp
  · have hmem : ']' ∈ List.replicate m.backslashes '\\' ++ ['['] :=
      hrun ▸ List.mem_append_left more hclosing
    simp at hmem

theorem Closed.of_suffix {chars suffix : List Char} (h : Closed chars) (hne : suffix ≠ [])
    (hsuffix : suffix <:+ chars) : Closed suffix := by
  obtain ⟨front, rfl⟩ := hsuffix
  rwa [Closed, List.getLast?_append_of_ne_nil front hne] at h

theorem Closed.append {chars rest : List Char} (h : Closed chars) (hrest : Closed rest) :
    Closed (chars ++ rest) := by
  cases rest with
  | nil => rwa [List.append_nil]
  | cons c rest => rwa [Closed, List.getLast?_append_of_ne_nil chars (List.cons_ne_nil c rest)]

theorem Closed.right {chars rest : List Char} (h : Closed (chars ++ rest)) : Closed rest := by
  cases rest with
  | nil => simp [Closed]
  | cons c rest => exact h.of_suffix (List.cons_ne_nil c rest) (List.suffix_append chars _)

/-- A text that does not end in a backslash takes no part in a tag that follows it. Backslashes are
the only thing of a tag that may stand before its bracket. -/
theorem tagAt?_append_written {chars : List Char} {m : TagMatch} (hne : chars ≠ [])
    (hclosed : Closed chars) (hnone : tagAt? chars = none) (rest : List Char) :
    tagAt? (chars ++ (m.written ++ rest)) = none := by
  rw [Option.eq_none_iff_forall_ne_some]
  intro found hfound
  obtain ⟨hproper, after, hafter⟩ := tagAt?_eq_some hfound
  rcases List.append_eq_append_iff.mp hafter with ⟨across, hacross, hshared⟩ | ⟨more, rfl, -⟩
  · by_cases hempty : across = []
    · rw [hempty, List.append_nil] at hacross
      rw [← hacross, ← List.append_nil found.written, tagAt?_written hproper] at hnone
      cases hnone
    · obtain ⟨hopening, hclosing⟩ := brackets_after hproper hne hclosed hempty hacross
      exact hopening (opening_before hshared hclosing)
  · rw [tagAt?_written hproper] at hnone
    cases hnone

/-- A text has no tag, or a first one. In the second case the text is made of a stretch without a
tag, the tag, and a shorter text. This is what the induction over markup goes by. -/
theorem untagged_or_first_tag (chars : List Char) :
    Untagged chars ∨ ∃ front m rest, Untagged front ∧ Closed front ∧ TagMatch.Proper m ∧
      chars = front ++ (m.written ++ rest) := by
  induction chars with
  | nil => exact Or.inl untagged_nil
  | cons c chars ih =>
      cases hfound : tagAt? (c :: chars) with
      | some m =>
          obtain ⟨hproper, rest, hrest⟩ := tagAt?_eq_some hfound
          exact Or.inr ⟨[], m, rest, untagged_nil, by simp [Closed], hproper, hrest⟩
      | none =>
          rcases ih with huntagged | ⟨front, m, rest, huntagged, hclosed, hproper, rfl⟩
          · exact Or.inl (huntagged.cons hfound)
          · refine Or.inr ⟨c :: front, m, rest, huntagged.cons ?_, ?_, hproper, rfl⟩
            · rw [Option.eq_none_iff_forall_ne_some]
              intro found hfront
              obtain ⟨hfoundProper, after, hafter⟩ := tagAt?_eq_some hfront
              rw [← List.cons_append, hafter, List.append_assoc, tagAt?_written hfoundProper]
                at hfound
              cases hfound
            · cases front with
              | nil =>
                  -- A backslash before the tag would belong to it.
                  intro hbackslash
                  obtain rfl : c = '\\' := by simpa using hbackslash
                  have hlonger : '\\' :: ([] ++ (m.written ++ rest)) =
                      (TagMatch.mk (m.backslashes + 1) m.inside).written ++ rest := by
                    simp [TagMatch.written, List.replicate_succ]
                  rw [hlonger, tagAt?_written (hproper.escaped _)] at hfound
                  cases hfound
              | cons d front => simpa [Closed] using hclosed

/-- To prove something of every text, prove it of stretches without a tag, and of a tag after such a
stretch and before a text that it holds of. -/
theorem markup_induction {motive : List Char → Prop}
    (stretch : ∀ chars, Untagged chars → motive chars)
    (tag : ∀ front m rest, Untagged front → Closed front → TagMatch.Proper m → motive rest →
      motive (front ++ (m.written ++ rest))) (chars : List Char) : motive chars := by
  rcases untagged_or_first_tag chars with
    huntagged | ⟨front, m, rest, huntagged, hclosed, hproper, hchars⟩
  · exact stretch chars huntagged
  · have hshorter : rest.length < chars.length := by
      have hlength := m.length_written
      rw [TagMatch.length] at hlength
      rw [hchars, List.length_append, List.length_append]
      omega
    rw [hchars]
    exact tag front m rest huntagged hclosed hproper (markup_induction stretch tag rest)
termination_by chars.length

/-- A text without an opening bracket has no tag. Most texts that are printed are of this kind,
whatever else stands in them. -/
theorem untagged_of_not_mem {chars : List Char} (h : '[' ∉ chars) : Untagged chars := by
  intro suffix hsuffix
  rw [Option.eq_none_iff_forall_ne_some]
  intro m hm
  obtain ⟨-, after, rfl⟩ := tagAt?_eq_some hm
  exact h (hsuffix.mem (by simp [TagMatch.written, bracketed]))

theorem exists_backslashes (chars : List Char) :
    ∃ body n, Closed body ∧ chars = body ++ List.replicate n '\\' := by
  induction chars using List.reverseRecOn with
  | nil => exact ⟨[], 0, by simp [Closed], rfl⟩
  | append_singleton chars c ih =>
      obtain ⟨body, n, hclosed, rfl⟩ := ih
      by_cases hc : c = '\\'
      · subst hc
        exact ⟨body, n + 1, hclosed, by rw [List.replicate_succ', List.append_assoc]⟩
      · exact ⟨body ++ List.replicate n '\\' ++ [c], 0, by simpa [Closed] using hc, by simp⟩

/-- No tag is completed after a text without a closing bracket. So what has no tag has none either
when such a text follows it. -/
theorem tagAt?_append {chars more : List Char} (h : tagAt? chars = none) (hmore : ']' ∉ more) :
    tagAt? (chars ++ more) = none := by
  rw [Option.eq_none_iff_forall_ne_some]
  intro m hm
  obtain ⟨hproper, after, hafter⟩ := tagAt?_eq_some hm
  rcases List.append_eq_append_iff.mp hafter with ⟨across, hacross, rfl⟩ | ⟨more, rfl, -⟩
  · cases across using List.reverseRecOn with
    | nil =>
        rw [← List.append_nil chars, ← hacross, ← List.append_nil m.written, tagAt?_written hproper]
          at h
        cases h
    | append_singleton across c =>
        have hlast := congrArg List.getLast? hacross
        rw [m.getLast?_written, ← List.append_assoc, List.getLast?_concat] at hlast
        obtain rfl := Option.some.inj hlast
        exact hmore (by simp)
  · rw [tagAt?_written hproper] at h
    cases h

theorem Untagged.append {chars more : List Char} (h : Untagged chars) (hmore : Untagged more)
    (hclosing : ']' ∉ more) : Untagged (chars ++ more) := by
  induction chars with
  | nil => exact hmore
  | cons c chars ih =>
      exact (ih h.tail).cons (tagAt?_append (h _ (List.suffix_refl _)) hclosing)

theorem Untagged.append_backslashes {chars : List Char} (h : Untagged chars) (n : Nat) :
    Untagged (chars ++ List.replicate n '\\') :=
  h.append (untagged_of_not_mem (by simp)) (by simp)

theorem Untagged.of_append {chars rest : List Char} (h : Untagged (chars ++ rest)) :
    Untagged chars := by
  intro suffix hsuffix
  rw [Option.eq_none_iff_forall_ne_some]
  intro m hm
  obtain ⟨hproper, after, rfl⟩ := tagAt?_eq_some hm
  have hnone := h _ (suffix_append_append hsuffix rest)
  rw [List.append_assoc, tagAt?_written hproper] at hnone
  cases hnone

end Reckoner.Console
