import Reckoner.Proofs.Console.Verbatim

/-!
Showing texts with markup. What comes before a tag is shown in the same way whatever follows it, so
that texts are shown piece by piece. An escaped text applies no tag: showing it never fails, and
what is seen is the text itself. A text that is not escaped is shown without fail only if it has no
tag of its own.
-/

namespace Reckoner.Console

/-- The parts of a stretch without a tag: none if it is empty. No part is empty, so an empty stretch
leaves no trace between two tags. -/
def stretchParts (chars : List Char) : List Part := if chars = [] then [] else [.plain chars]

theorem consPlain_stretchParts (c : Char) (chars : List Char) :
    consPlain c (stretchParts chars) = stretchParts (c :: chars) := by
  cases chars <;> rfl

theorem consPlain_stretchParts_tagged (c : Char) (chars : List Char) (m : TagMatch) (position : Nat)
    (rest : List Part) :
    consPlain c (stretchParts chars ++ .tagged m position :: rest) =
      stretchParts (c :: chars) ++ .tagged m position :: rest := by
  cases chars <;> rfl

theorem partsFrom_skip (position : Nat) (chars rest : List Char) :
    partsFrom position chars.length (chars ++ rest) =
      partsFrom (position + chars.length) 0 rest := by
  induction chars generalizing position with
  | nil => rfl
  | cons c chars ih =>
      rw [List.length_cons, List.cons_append, partsFrom, ih]
      congr 1
      omega

theorem partsFrom_untagged {chars : List Char} (h : Untagged chars) (position : Nat) :
    partsFrom position 0 chars = stretchParts chars := by
  induction chars generalizing position with
  | nil => rfl
  | cons c chars ih =>
      rw [partsFrom, h _ (List.suffix_refl _)]
      dsimp only
      rw [ih h.tail, consPlain_stretchParts]

theorem partsFrom_written {m : TagMatch} (hm : m.Proper) (position : Nat) (rest : List Char) :
    partsFrom position 0 (m.written ++ rest) =
      .tagged m position :: partsFrom (position + m.length) 0 rest := by
  have htag := tagAt?_written hm rest
  have hlength := m.length_written
  cases hwritten : m.written with
  | nil =>
      rw [hwritten, TagMatch.length, List.length_nil] at hlength
      omega
  | cons c inside =>
      rw [hwritten, List.cons_append] at htag
      rw [hwritten, List.length_cons] at hlength
      rw [List.cons_append, partsFrom, htag]
      dsimp only
      rw [← hlength, Nat.add_sub_cancel, partsFrom_skip]
      congr 2
      omega

/-- The parts of a stretch, a tag and what follows it. Positions go on through the stretch, which is
the only thing that the rest knows of it. -/
theorem partsFrom_append_written {chars : List Char} (hchars : Untagged chars)
    (hclosed : Closed chars) {m : TagMatch} (hm : m.Proper) (position : Nat) (rest : List Char) :
    partsFrom position 0 (chars ++ (m.written ++ rest)) =
      stretchParts chars ++ partsFrom (position + chars.length) 0 (m.written ++ rest) := by
  induction chars generalizing position with
  | nil => rfl
  | cons c chars ih =>
      have hnone := tagAt?_append_written (m := m) (List.cons_ne_nil c chars) hclosed
        (hchars _ (List.suffix_refl _)) rest
      rw [List.cons_append] at hnone ⊢
      rw [partsFrom, hnone]
      dsimp only
      rw [ih hchars.tail hclosed.tail, partsFrom_written hm, partsFrom_written hm,
        consPlain_stretchParts_tagged, List.length_cons]
      have hposition : position + 1 + chars.length = position + (chars.length + 1) := by omega
      rw [hposition]

/-- What is shown of a text from a position on, while styles are open. It fails where a tag closes
what is not open. -/
def renderFrom (opened : List String) (position : Nat) (chars : List Char) :
    Except MarkupError (List Char) := renderParts opened (partsFrom position 0 chars)

theorem renderParts_stretchParts (opened : List String) (chars : List Char) (rest : List Part) :
    renderParts opened (stretchParts chars ++ rest) =
      (visible chars ++ ·) <$> renderParts opened rest := by
  cases chars with
  | nil => exact (id_map (renderParts opened rest)).symm
  | cons c chars => rfl

theorem renderFrom_untagged {chars : List Char} (h : Untagged chars) (opened : List String)
    (position : Nat) : renderFrom opened position chars = .ok (visible chars) := by
  rw [renderFrom, partsFrom_untagged h, ← List.append_nil (stretchParts chars),
    renderParts_stretchParts]
  simp [renderParts, Functor.map, Except.map]

/-- What follows a text without taking part in its tags: nothing, or a tag that no backslash at the
end of the text could escape. -/
inductive Apart (chars : List Char) : List Char → Prop where
  | nothing : Apart chars []
  | tag (hclosed : Closed chars) {m : TagMatch} (hm : m.Proper) (after : List Char) :
      Apart chars (m.written ++ after)

/-- A text is shown in this way whatever follows it, and changes nothing about the styles. What
follows must only not take part in its tags. -/
def ShowsAs (chars shown : List Char) : Prop :=
  ∀ opened position rest, Apart chars rest →
    renderFrom opened position (chars ++ rest) =
      (shown ++ ·) <$> renderFrom opened (position + chars.length) rest

theorem showsAs_untagged {chars : List Char} (h : Untagged chars) :
    ShowsAs chars (visible chars) := by
  intro opened position rest happart
  cases happart with
  | nothing =>
      rw [List.append_nil, renderFrom_untagged h]
      simp [renderFrom, partsFrom, renderParts, Functor.map, Except.map]
  | tag hclosed hm after =>
      rw [renderFrom, partsFrom_append_written h hclosed hm, renderParts_stretchParts, renderFrom]

/-- A tag after an odd number of backslashes is shown. The last of them escapes it, and of the
others half are shown. -/
theorem renderFrom_escaped {inside : List Char} {backslashes : Nat}
    (hm : TagMatch.Proper ⟨2 * backslashes + 1, inside⟩) (opened : List String) (position : Nat)
    (rest : List Char) :
    renderFrom opened position ((TagMatch.mk (2 * backslashes + 1) inside).written ++ rest) =
      (List.replicate backslashes '\\' ++ visible (bracketed inside) ++ ·) <$>
        renderFrom opened (position + (2 * backslashes + 1 + inside.length + 2)) rest := by
  have hodd : (2 * backslashes + 1) % 2 = 1 := by omega
  have hhalf : (2 * backslashes + 1) / 2 = backslashes := by omega
  rw [renderFrom, partsFrom_written hm]
  simp only [renderParts, hodd, hhalf, if_true]
  rfl

/-- A tag after an even number of backslashes is applied, and half of the backslashes are shown.
With none before it that is an ordinary tag. -/
theorem renderFrom_applied {inside : List Char} {backslashes : Nat}
    (hm : TagMatch.Proper ⟨2 * backslashes, inside⟩) {opened after : List String} {position : Nat}
    (happly : applyTag (.ofInside inside) (position + 2 * backslashes) opened = .ok after)
    (rest : List Char) :
    renderFrom opened position ((TagMatch.mk (2 * backslashes) inside).written ++ rest) =
      (List.replicate backslashes '\\' ++ ·) <$>
        renderFrom after (position + (2 * backslashes + inside.length + 2)) rest := by
  have heven : ¬ (2 * backslashes) % 2 = 1 := by omega
  have hhalf : 2 * backslashes / 2 = backslashes := by omega
  rw [renderFrom, partsFrom_written hm]
  simp only [renderParts, heven, hhalf, if_false, happly]
  rfl

/-- A text is shown in this way whichever styles are open, so it closes only what it opens
itself. -/
def Renders (chars shown : List Char) : Prop :=
  ∀ opened position, renderFrom opened position chars = .ok shown

theorem ShowsAs.renders {chars shown rest after : List Char} (h : ShowsAs chars shown)
    (happart : Apart chars rest) (hrest : Renders rest after) :
    Renders (chars ++ rest) (shown ++ after) := by
  intro opened position
  rw [h opened position rest happart, hrest]
  rfl

theorem renders_nil : Renders [] [] := fun _ _ => rfl

def Part.escaped : Part → List Char
  | .plain chars => chars
  | .tagged m _ => (TagMatch.mk (2 * m.backslashes + 1) m.inside).written

/-- The escaped form of a text, but for a backslash at its end. That one is looked at once the whole
text has been escaped. -/
def escapedFrom (position : Nat) (chars : List Char) : List Char :=
  (partsFrom position 0 chars).flatMap Part.escaped

theorem flatMap_escaped_stretchParts (chars : List Char) :
    (stretchParts chars).flatMap Part.escaped = chars := by
  cases chars with
  | nil => rfl
  | cons c chars => exact List.append_nil _

theorem escapedFrom_untagged {chars : List Char} (h : Untagged chars) (position : Nat) :
    escapedFrom position chars = chars := by
  rw [escapedFrom, partsFrom_untagged h, flatMap_escaped_stretchParts]

theorem escapedFrom_append_written {chars : List Char} (hchars : Untagged chars)
    (hclosed : Closed chars) {m : TagMatch} (hm : m.Proper) (position : Nat) (rest : List Char) :
    escapedFrom position (chars ++ (m.written ++ rest)) =
      chars ++ ((TagMatch.mk (2 * m.backslashes + 1) m.inside).written ++
        escapedFrom (position + chars.length + m.length) rest) := by
  rw [escapedFrom, partsFrom_append_written hchars hclosed hm, List.flatMap_append,
    flatMap_escaped_stretchParts, partsFrom_written hm, List.flatMap_cons]
  rfl

/-- An escaped text shows something whatever follows it, and applies no tag. What it shows is the
text as it is, where the console changes nothing else about it. The induction goes from tag to tag,
over the stretches between them. -/
theorem exists_showsAs_escapedFrom (position : Nat) (chars : List Char) :
    ∃ shown, ShowsAs (escapedFrom position chars) shown ∧ (Verbatim chars → shown = chars) := by
  induction chars using markup_induction generalizing position with
  | stretch chars huntagged =>
      rw [escapedFrom_untagged huntagged]
      exact ⟨visible chars, showsAs_untagged huntagged, (visible_untagged · huntagged)⟩
  | tag front m rest huntagged hclosed hm ih =>
      obtain ⟨shown, hshown, hsame⟩ := ih (position + front.length + m.length)
      have hescaped := hm.escaped (2 * m.backslashes + 1)
      rw [escapedFrom_append_written huntagged hclosed hm]
      refine ⟨visible front ++ (List.replicate m.backslashes '\\' ++ visible (bracketed m.inside) ++
        shown), ?_, fun hverbatim => ?_⟩
      · intro opened start after happart
        have hrest : Apart (escapedFrom (position + front.length + m.length) rest) after := by
          cases happart with
          | nothing => exact .nothing
          | tag hclosed hm after => exact .tag hclosed.right.right hm after
        simp only [List.append_assoc]
        rw [showsAs_untagged huntagged _ _ _ (.tag hclosed hescaped _), renderFrom_escaped hescaped,
          hshown _ _ _ hrest]
        simp only [Functor.map_map, List.append_assoc, List.length_append, TagMatch.length_written,
          TagMatch.length]
        congr 2
        omega
      · have htag : Verbatim (bracketed m.inside ++ rest) := hverbatim.of_suffix
          ⟨front ++ List.replicate m.backslashes '\\', by simp [TagMatch.written]⟩
        rw [visible_stretch hverbatim huntagged hclosed,
          visible_bracketed htag fun hmem => (hm.inside_ne '[' hmem).1 rfl,
          hsame (htag.of_suffix (List.suffix_append _ _)), TagMatch.written]

theorem escapedFrom_append_backslashes {chars : List Char} (hclosed : Closed chars)
    (n position : Nat) :
    escapedFrom position (chars ++ List.replicate n '\\') =
      escapedFrom position chars ++ List.replicate n '\\' := by
  induction chars using markup_induction generalizing position with
  | stretch chars huntagged =>
      rw [escapedFrom_untagged huntagged, escapedFrom_untagged (huntagged.append_backslashes n)]
  | tag front m rest huntagged hfront hm ih =>
      simp only [List.append_assoc]
      rw [escapedFrom_append_written huntagged hfront hm,
        escapedFrom_append_written huntagged hfront hm, ih hclosed.right.right]
      simp only [List.append_assoc]

theorem closed_escapedFrom {chars : List Char} (hclosed : Closed chars) (position : Nat) :
    Closed (escapedFrom position chars) := by
  induction chars using markup_induction generalizing position with
  | stretch chars huntagged => rwa [escapedFrom_untagged huntagged]
  | tag front m rest huntagged hfront hm ih =>
      rw [escapedFrom_append_written huntagged hfront hm]
      refine hfront.append (Closed.append ?_ (ih hclosed.right.right _))
      rw [Closed, TagMatch.getLast?_written]
      decide

/-- A single backslash at the end of a text is doubled, since it would otherwise escape a tag that
is put after the text. More than one are left as they are. -/
def doubled (chars : List Char) : List Char :=
  if chars.getLast? = some '\\' && chars.dropLast.getLast? ≠ some '\\' then chars ++ ['\\']
  else chars

theorem escape_eq (text : String) :
    escape text = String.ofList (doubled (escapedFrom 0 text.toList)) := by
  have hescaped : Part.escaped = fun
      | .plain chars => chars
      | .tagged m _ => List.replicate (2 * m.backslashes) '\\' ++ '\\' :: bracketed m.inside := by
    funext part
    cases part with
    | plain chars => rfl
    | tagged m position => simp [Part.escaped, TagMatch.written, List.replicate_succ']
  rw [escapedFrom, hescaped]
  rfl

/-- How many backslashes stand at the end of an escaped text for so many at the end of the text.
Only a single one is doubled. -/
def endingOf (n : Nat) : Nat := if n = 1 then 2 else n

theorem doubled_append_backslashes {chars : List Char} (hclosed : Closed chars) (n : Nat) :
    doubled (chars ++ List.replicate n '\\') = chars ++ List.replicate (endingOf n) '\\' := by
  have hlast : chars.getLast? ≠ some '\\' := hclosed
  rcases n with _ | _ | n
  · simp [doubled, endingOf, hlast]
  · simp [doubled, endingOf, hlast]
  · simp [doubled, endingOf, List.replicate_succ', ← List.append_assoc]

theorem toList_escape {text : String} {body : List Char} {n : Nat} (hclosed : Closed body)
    (htext : text.toList = body ++ List.replicate n '\\') :
    (escape text).toList = escapedFrom 0 body ++ List.replicate (endingOf n) '\\' := by
  rw [escape_eq, String.toList_ofList, htext, escapedFrom_append_backslashes hclosed,
    doubled_append_backslashes (closed_escapedFrom hclosed 0)]

theorem length_le_escapedFrom (position : Nat) (chars : List Char) :
    chars.length ≤ (escapedFrom position chars).length := by
  induction chars using markup_induction generalizing position with
  | stretch chars huntagged => rw [escapedFrom_untagged huntagged]
  | tag front m rest huntagged hclosed hm ih =>
      have hrest := ih (position + front.length + m.length)
      rw [escapedFrom_append_written huntagged hclosed hm]
      simp only [List.length_append, TagMatch.length_written, TagMatch.length] at hrest ⊢
      omega

theorem isEmpty_escape (text : String) : (escape text).isEmpty = text.isEmpty := by
  have hlength : text.toList.length ≤ (escape text).toList.length := by
    have hescaped := length_le_escapedFrom 0 text.toList
    rw [escape_eq, String.toList_ofList, doubled]
    split
    · rw [List.length_append]
      omega
    · exact hescaped
  rw [Bool.eq_iff_iff, String.isEmpty_iff, String.isEmpty_iff]
  refine ⟨fun hempty => ?_, ?_⟩
  rotate_left
  · rintro rfl
    decide
  rw [hempty] at hlength
  exact String.toList_eq_nil_iff.mp (List.length_eq_zero_iff.mp (Nat.le_zero.mp hlength))

/-- The inside of a tag that opens a style. A slash at its beginning would close one, and brackets
are not held by any tag. -/
def opensStyle : List Char → Bool
  | [] => false
  | c :: inside => isTagStart c && c ≠ '/' && inside.all fun d => d ≠ '[' && d ≠ ']'

theorem proper_of_opensStyle {style : List Char} (h : opensStyle style = true) (n : Nat) :
    TagMatch.Proper ⟨n, style⟩ := by
  cases style with
  | nil => cases h
  | cons c inside =>
      simp only [opensStyle, Bool.and_eq_true, List.all_eq_true, decide_eq_true_eq] at h
      exact .intro n h.1.1 h.2

theorem exists_applyTag_of_opensStyle {style : List Char} (h : opensStyle style = true)
    (position : Nat) (opened : List String) :
    ∃ normal, applyTag (.ofInside style) position opened = .ok (normal :: opened) := by
  cases style with
  | nil => cases h
  | cons c inside =>
      simp only [opensStyle, Bool.and_eq_true, decide_eq_true_eq] at h
      obtain ⟨⟨hstart, hslash⟩, -⟩ := h
      have hequals : c ≠ '=' := by
        rintro rfl
        revert hstart
        decide
      have hname : (c :: inside).takeWhile (· ≠ '=') = c :: inside.takeWhile (· ≠ '=') := by
        simp [hequals]
      unfold applyTag
      simp only [Tag.ofInside, hname]
      split
      · rename_i hsame
        exact absurd (List.cons.inj hsame).1 hslash
      · exact ⟨_, rfl⟩

theorem proper_closing (n : Nat) : TagMatch.Proper ⟨n, ['/']⟩ :=
  .intro n (by decide) (by simp)

/-- What is shown of the end of a style after some backslashes. They are halved, and with an odd
number of them the tag is shown too and closes nothing. -/
def closingShown (n : Nat) : List Char :=
  List.replicate (n / 2) '\\' ++ if n % 2 = 1 then visible (bracketed ['/']) else []

theorem renderFrom_closing (style : String) (opened : List String) (position n : Nat)
    {rest after : List Char} (hrest : Renders rest after) :
    renderFrom (style :: opened) position ((TagMatch.mk n ['/']).written ++ rest) =
      .ok (closingShown n ++ after) := by
  obtain ⟨half, rfl | rfl⟩ : ∃ half, n = 2 * half ∨ n = 2 * half + 1 := ⟨n / 2, by omega⟩
  · rw [renderFrom_applied (proper_closing _) (rfl : applyTag _ _ (style :: opened) = .ok opened),
      hrest]
    simp [closingShown, Functor.map, Except.map]
  · rw [renderFrom_escaped (proper_closing _), hrest]
    have hhalf : (2 * half + 1) / 2 = half := by omega
    simp [closingShown, Functor.map, Except.map, hhalf]

/-- A text between the tags that open and close a style is shown, whatever follows it is. The
backslashes at the end of the text belong to the closing tag, and are shown with it. -/
theorem renders_styled {style : List Char} (hstyle : opensStyle style = true)
    {body shown : List Char} (hbody : ShowsAs body shown) (hclosed : Closed body) (n : Nat)
    {rest after : List Char} (hrest : Renders rest after) :
    Renders (bracketed style ++ (body ++ ((TagMatch.mk n ['/']).written ++ rest)))
      (shown ++ (closingShown n ++ after)) := by
  intro opened position
  obtain ⟨normal, hnormal⟩ := exists_applyTag_of_opensStyle hstyle (position + 2 * 0) opened
  have hopening : bracketed style = (TagMatch.mk (2 * 0) style).written := rfl
  rw [hopening, renderFrom_applied (proper_of_opensStyle hstyle _) hnormal,
    hbody _ _ _ (.tag hclosed (proper_closing n) rest), renderFrom_closing _ _ _ _ hrest]
  rfl

/-- A stretch before a style is shown as it is shown alone. Without a backslash at its end it takes
no part in the tag of the style. -/
theorem renders_before_style {chars : List Char} (h : Untagged chars) (hclosed : Closed chars)
    {style : List Char} (hstyle : opensStyle style = true) {rest shown : List Char}
    (hrest : Renders (bracketed style ++ rest) shown) :
    Renders (chars ++ (bracketed style ++ rest)) (visible chars ++ shown) :=
  (showsAs_untagged h).renders (.tag hclosed (proper_of_opensStyle hstyle 0) rest) hrest

/-- An escaped text in a style is shown, and as it is unless it ends in two backslashes. Of these,
which are not doubled, the closing tag takes one. -/
theorem exists_renders_escaped {style : List Char} (hstyle : opensStyle style = true)
    (text : String) {rest after : List Char} (hrest : Renders rest after) :
    ∃ shown, Renders (bracketed style ++ ((escape text).toList ++ (bracketed ['/'] ++ rest)))
        (shown ++ after) ∧
      (Verbatim text.toList → ¬ ['\\', '\\'] <:+ text.toList → shown = text.toList) := by
  obtain ⟨body, n, hclosed, htext⟩ := exists_backslashes text.toList
  obtain ⟨shown, hshown, hsame⟩ := exists_showsAs_escapedFrom 0 body
  refine ⟨shown ++ closingShown (endingOf n), ?_, fun hverbatim hending => ?_⟩
  · have hrenders := renders_styled hstyle hshown (closed_escapedFrom hclosed 0) (endingOf n) hrest
    rw [toList_escape hclosed htext]
    simpa [TagMatch.written] using hrenders
  · rw [htext] at hverbatim hending ⊢
    rw [hsame hverbatim.of_append_backslashes]
    rcases n with _ | _ | n
    · rfl
    · rfl
    · refine absurd ⟨body ++ List.replicate n '\\', ?_⟩ hending
      simp [List.replicate_succ']

/-- A text without tags in a style is shown, and as it is unless it ends in a backslash. That one
belongs to the closing tag, and may escape it. -/
theorem exists_renders_bare {style : List Char} (hstyle : opensStyle style = true)
    {chars : List Char} (huntagged : Untagged chars) {rest after : List Char}
    (hrest : Renders rest after) :
    ∃ shown, Renders (bracketed style ++ (chars ++ (bracketed ['/'] ++ rest))) (shown ++ after) ∧
      (Verbatim chars → Closed chars → shown = chars) := by
  obtain ⟨body, n, hclosed, rfl⟩ := exists_backslashes chars
  have hbody := huntagged.of_append
  refine ⟨visible body ++ closingShown n, ?_, fun hverbatim hending => ?_⟩
  · simpa [TagMatch.written] using renders_styled hstyle (showsAs_untagged hbody) hclosed n hrest
  · cases n with
    | zero =>
        rw [visible_untagged hverbatim.of_append_backslashes hbody]
        rfl
    | succ n => simp [Closed, List.replicate_succ', ← List.append_assoc] at hending

theorem renders_bland_styled {style : List Char} (hstyle : opensStyle style = true)
    {chars : List Char} (h : Bland chars) {rest after : List Char} (hrest : Renders rest after) :
    Renders (bracketed style ++ (chars ++ (bracketed ['/'] ++ rest))) (chars ++ after) := by
  obtain ⟨shown, hshown, hsame⟩ := exists_renders_bare hstyle h.untagged hrest
  rwa [hsame h.verbatim h.closed] at hshown

/-- An escaped text alone is shown, and as it is unless it ends in a single backslash, for which two
are shown. -/
theorem exists_renders_cell (text : String) :
    ∃ shown, Renders (escape text).toList shown ∧
      (Verbatim text.toList → doubled text.toList = text.toList → shown = text.toList) := by
  obtain ⟨body, n, hclosed, htext⟩ := exists_backslashes text.toList
  obtain ⟨shown, hshown, hsame⟩ :=
    exists_showsAs_escapedFrom 0 (body ++ List.replicate (endingOf n) '\\')
  refine ⟨shown, ?_, fun hverbatim hending => ?_⟩
  · rw [toList_escape hclosed htext, ← escapedFrom_append_backslashes hclosed]
    simpa using hshown.renders .nothing renders_nil
  · rw [htext, doubled_append_backslashes hclosed] at hending
    rw [hending, ← htext] at hsame
    exact hsame hverbatim

end Reckoner.Console
