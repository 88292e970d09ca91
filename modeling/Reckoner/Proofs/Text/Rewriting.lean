import Mathlib.Data.List.Infix
import Reckoner.Text.Substitution

/-!
Replacing several symbols at once. `Rewrites` goes over a text from the left and replaces at every
place the symbol that begins there, whichever it is. If no symbol runs into another one or into what
replaces it, replacing the symbols one after the other comes to the same.
-/

namespace Reckoner.Text

/-- Neither text begins with the other. So they differ at some place, whatever follows them. -/
def Diverge (chars others : List Char) : Prop := ¬ chars <+: others ∧ ¬ others <+: chars

instance (chars others : List Char) : Decidable (Diverge chars others) :=
  inferInstanceAs (Decidable (¬ _ ∧ ¬ _))

theorem Diverge.append_ne {chars others : List Char} (h : Diverge chars others)
    (rest rest' : List Char) : chars ++ rest ≠ others ++ rest' := by
  intro heq
  have hothers : others <+: chars ++ rest := heq ▸ List.prefix_append others rest'
  exact (List.prefix_or_prefix_of_prefix (List.prefix_append chars rest) hothers).elim h.1 h.2

/-- Nowhere in the text does the other one begin, not even if it may go on behind the text. This is
decided, so the symbols of a table are checked by computation. -/
def Avoids (chars other : List Char) : Prop :=
  ∀ part ∈ chars.tails, part ≠ [] → Diverge part other

instance (chars other : List Char) : Decidable (Avoids chars other) :=
  inferInstanceAs (Decidable (∀ part ∈ chars.tails, part ≠ [] → Diverge part other))

theorem Avoids.diverge {chars other : List Char} (h : Avoids chars other) (hne : chars ≠ []) :
    Diverge chars other :=
  h chars ((List.mem_tails _ _).mpr List.suffix_rfl) hne

theorem Avoids.tail {c : Char} {chars other : List Char} (h : Avoids (c :: chars) other) :
    Avoids chars other := by
  intro part hpart
  have hsuffix := ((List.mem_tails _ _).mp hpart).trans (List.suffix_cons c chars)
  exact h part ((List.mem_tails _ _).mpr hsuffix)

/-- A text and what becomes of it if at each place the symbol that begins there is replaced. Where
several begin, any of them may be. -/
inductive Rewrites (symbols : List (String × String)) : List Char → List Char → Prop where
  | nil : Rewrites symbols [] []
  | keep {c : Char} {rest out : List Char}
      (hnone : ∀ symbol ∈ symbols, ¬ symbol.1.toList <+: c :: rest)
      (hrest : Rewrites symbols rest out) : Rewrites symbols (c :: rest) (c :: out)
  | replace {symbol : String × String} {rest out : List Char} (hsymbol : symbol ∈ symbols)
      (hrest : Rewrites symbols rest out) :
      Rewrites symbols (symbol.1.toList ++ rest) (symbol.2.toList ++ out)

namespace Rewrites

variable {symbols : List (String × String)} {chars out : List Char}

/-- Where no symbol begins, the text stays, and what follows it is rewritten as if it stood
alone. -/
theorem of_avoids {front rest : List Char} (h : Rewrites symbols (front ++ rest) out)
    (havoids : ∀ symbol ∈ symbols, Avoids front symbol.1.toList) :
    ∃ out', out = front ++ out' ∧ Rewrites symbols rest out' := by
  induction front generalizing out with
  | nil => exact ⟨out, rfl, h⟩
  | cons c front ih =>
      generalize hchars : c :: front ++ rest = chars at h
      cases h with
      | nil => cases hchars
      | keep hnone hrest =>
          obtain ⟨rfl, rfl⟩ := List.cons.inj hchars
          obtain ⟨out', rfl, hout⟩ := ih hrest fun symbol hsymbol => (havoids symbol hsymbol).tail
          exact ⟨out', rfl, hout⟩
      | replace hsymbol =>
          have hdiverge := (havoids _ hsymbol).diverge (List.cons_ne_nil c front)
          exact absurd hchars (hdiverge.append_ne _ _)

/-- What no replacement writes stood in the text. So a text found in the result is found in the
source as well. -/
theorem source {front out : List Char} (h : Rewrites symbols chars (front ++ out))
    (havoids : ∀ symbol ∈ symbols, Avoids front symbol.2.toList) :
    ∃ rest, chars = front ++ rest ∧ Rewrites symbols rest out := by
  induction front generalizing chars with
  | nil => exact ⟨chars, rfl, h⟩
  | cons c front ih =>
      generalize hresult : c :: front ++ out = result at h
      cases h with
      | nil => cases hresult
      | keep hnone hrest =>
          obtain ⟨rfl, rfl⟩ := List.cons.inj hresult
          obtain ⟨rest, rfl, hbehind⟩ :=
            ih hrest fun symbol hsymbol => (havoids symbol hsymbol).tail
          exact ⟨rest, rfl, hbehind⟩
      | replace hsymbol =>
          have hdiverge := (havoids _ hsymbol).diverge (List.cons_ne_nil c front)
          exact absurd hresult (hdiverge.append_ne _ _)

/-- The result is determined if no symbol begins with another one. Then at most one of them begins
at each place. The induction is on one of the two rewritings, and the other is split to match it. -/
theorem unique {out' : List Char} (h : Rewrites symbols chars out)
    (h' : Rewrites symbols chars out')
    (hsymbols : ∀ symbol ∈ symbols, ∀ other ∈ symbols,
      symbol = other ∨ Diverge symbol.1.toList other.1.toList)
    (hne : ∀ symbol ∈ symbols, symbol.1.toList ≠ []) : out = out' := by
  induction h generalizing out' with
  | nil =>
      generalize hchars : ([] : List Char) = chars at h'
      cases h' with
      | nil => rfl
      | keep => cases hchars
      | replace hsymbol =>
          exact absurd (List.append_eq_nil_iff.mp hchars.symm).1 (hne _ hsymbol)
  | @keep c rest out hnone hrest ih =>
      generalize hchars : c :: rest = chars at h'
      cases h' with
      | nil => cases hchars
      | keep hnone' hrest' =>
          obtain ⟨rfl, rfl⟩ := List.cons.inj hchars
          rw [ih hrest']
      | replace hsymbol => exact absurd ⟨_, hchars.symm⟩ (hnone _ hsymbol)
  | @replace symbol rest out hsymbol hrest ih =>
      generalize hchars : symbol.1.toList ++ rest = chars at h'
      cases h' with
      | nil => exact absurd (List.append_eq_nil_iff.mp hchars).1 (hne _ hsymbol)
      | keep hnone' => exact absurd ⟨rest, hchars⟩ (hnone' _ hsymbol)
      | @replace other rest' out' hother hrest' =>
          rcases hsymbols _ hsymbol _ hother with rfl | hdiverge
          · obtain rfl := List.append_cancel_left hchars
            rw [ih hrest']
          · exact absurd hchars (hdiverge.append_ne _ _)

/-- It does not matter in which order the symbols are listed, for they are asked only whether they
begin at a place. -/
theorem of_mem_iff {others : List (String × String)} (h : Rewrites symbols chars out)
    (hmem : ∀ symbol, symbol ∈ symbols ↔ symbol ∈ others) : Rewrites others chars out := by
  induction h with
  | nil => exact .nil
  | keep hnone _ ih =>
      exact .keep (fun symbol hsymbol => hnone symbol ((hmem symbol).mpr hsymbol)) ih
  | replace hsymbol _ ih => exact .replace ((hmem _).mp hsymbol) ih

/-- A text in which no symbol begins is kept before whatever is rewritten. None may begin in it and
go on behind it either. -/
theorem keep_front {front : List Char} (h : Rewrites symbols chars out)
    (havoids : ∀ symbol ∈ symbols, Avoids front symbol.1.toList) :
    Rewrites symbols (front ++ chars) (front ++ out) := by
  induction front with
  | nil => exact h
  | cons c front ih =>
      refine .keep ?_ (ih fun symbol hsymbol => (havoids symbol hsymbol).tail)
      rintro symbol hsymbol ⟨rest, hrest⟩
      have hdiverge := (havoids symbol hsymbol).diverge (List.cons_ne_nil c front)
      exact hdiverge.append_ne chars rest hrest.symm

/-- A rewritten text has no symbol in it, if no symbol runs into what replaces one. So rewriting it
again leaves it alone. -/
theorem again (h : Rewrites symbols chars out)
    (hwritten : ∀ symbol ∈ symbols, ∀ other ∈ symbols,
      Avoids symbol.1.toList other.2.toList ∧ Avoids other.2.toList symbol.1.toList) :
    Rewrites symbols out out := by
  induction h with
  | nil => exact .nil
  | @keep c rest out hnone hrest ih =>
      refine .keep ?_ ih
      rintro symbol hsymbol ⟨after, hafter⟩
      -- What the rewritten text begins with was there before.
      have hkept := Rewrites.keep hnone hrest
      rw [← hafter] at hkept
      obtain ⟨rest', hrest', -⟩ := hkept.source fun other hother => (hwritten _ hsymbol _ hother).1
      exact hnone symbol hsymbol ⟨rest', hrest'.symm⟩
  | replace hsymbol _ ih => exact ih.keep_front fun other hother => (hwritten _ hother _ hsymbol).2

end Rewrites

/-- The pattern begins at the end of one text and ends at the beginning of the next. It is in
neither of them, but in both together. -/
def Straddles (pattern chars others : List Char) : Prop :=
  ∃ front back, pattern = front ++ back ∧ front ≠ [] ∧ back ≠ [] ∧ front <:+ chars ∧ back <+: others

theorem Straddles.head {pattern chars others : List Char} (h : Straddles pattern chars others) :
    ∃ c ∈ others.head?, c ∈ pattern := by
  obtain ⟨front, back, rfl, -, hback, -, rest, rfl⟩ := h
  obtain ⟨c, back, rfl⟩ := List.exists_cons_of_ne_nil hback
  exact ⟨c, rfl, by simp⟩

/-- Texts between which no symbol stands are rewritten each for itself, and the results follow one
another as the texts do. -/
theorem Rewrites.append {symbols : List (String × String)} {chars others out out' : List Char}
    (h : Rewrites symbols chars out) (h' : Rewrites symbols others out')
    (hstraddles : ∀ symbol ∈ symbols, ¬ Straddles symbol.1.toList chars others) :
    Rewrites symbols (chars ++ others) (out ++ out') := by
  induction h with
  | nil => exact h'
  | @keep c rest out hnone hrest ih =>
      have hsuffix : ∀ symbol ∈ symbols, ¬ Straddles symbol.1.toList rest others := by
        rintro symbol hsymbol ⟨front, back, hpattern, hfront, hback, hends, hbegins⟩
        exact hstraddles symbol hsymbol
          ⟨front, back, hpattern, hfront, hback, hends.trans (List.suffix_cons c rest), hbegins⟩
      refine .keep ?_ (ih hsuffix)
      intro symbol hsymbol hbegins
      rcases List.prefix_or_prefix_of_prefix hbegins (List.prefix_append (c :: rest) others) with
        hinside | ⟨back, hpattern⟩
      · exact hnone symbol hsymbol hinside
      · apply hstraddles symbol hsymbol
        refine ⟨c :: rest, back, hpattern.symm, List.cons_ne_nil c rest, ?_, List.suffix_rfl, ?_⟩
        · rintro rfl
          rw [List.append_nil] at hpattern
          exact hnone symbol hsymbol (hpattern ▸ List.prefix_rfl)
        · rw [← hpattern] at hbegins
          exact (List.prefix_append_right_inj (c :: rest)).mp hbegins
  | @replace symbol rest out hsymbol hrest ih =>
      have hsuffix : ∀ other ∈ symbols, ¬ Straddles other.1.toList rest others := by
        rintro other hother ⟨front, back, hpattern, hfront, hback, hends, hbegins⟩
        exact hstraddles other hother
          ⟨front, back, hpattern, hfront, hback, hends.trans (List.suffix_append _ _), hbegins⟩
      rw [List.append_assoc, List.append_assoc]
      exact .replace hsymbol (ih hsuffix)

/-- Replace at each place the symbol that begins there, in a text of which the first `skip`
characters are already replaced. -/
def replaceAnyFrom (symbols : List (String × String)) : Nat → List Char → List Char
  | _, [] => []
  | skip + 1, _ :: rest => replaceAnyFrom symbols skip rest
  | 0, c :: rest =>
    match symbols.find? fun symbol => symbol.1.toList.isPrefixOf (c :: rest) with
    | some symbol => symbol.2.toList ++ replaceAnyFrom symbols (symbol.1.toList.length - 1) rest
    | none => c :: replaceAnyFrom symbols 0 rest

/-- Replace all symbols in a single pass from left to right. Where several begin, the first in the
list is replaced. -/
def replaceAny (symbols : List (String × String)) (chars : List Char) : List Char :=
  replaceAnyFrom symbols 0 chars

theorem replaceAnyFrom_eq_drop (symbols : List (String × String)) (skip : Nat)
    (chars : List Char) :
    replaceAnyFrom symbols skip chars = replaceAny symbols (chars.drop skip) := by
  induction skip generalizing chars with
  | zero => rfl
  | succ skip ih =>
      cases chars with
      | nil => rfl
      | cons c rest => exact ih rest

theorem rewrites_replaceAny {symbols : List (String × String)}
    (hne : ∀ symbol ∈ symbols, symbol.1.toList ≠ []) (chars : List Char) :
    Rewrites symbols chars (replaceAny symbols chars) := by
  induction hlength : chars.length using Nat.strong_induction_on generalizing chars with
  | _ length ih =>
      subst hlength
      cases chars with
      | nil => exact .nil
      | cons c rest =>
          rw [replaceAny, replaceAnyFrom]
          split
          · rename_i symbol hfound
            have hsymbol := List.mem_of_find?_eq_some hfound
            have hbegins : symbol.1.toList.isPrefixOf (c :: rest) = true := by
              simpa using List.find?_some hfound
            obtain ⟨after, hafter⟩ := List.isPrefixOf_iff_prefix.mp hbegins
            obtain ⟨d, pattern, hpattern⟩ := List.exists_cons_of_ne_nil (hne symbol hsymbol)
            have hrest : rest.drop (symbol.1.toList.length - 1) = after := by
              rw [hpattern] at hafter ⊢
              obtain ⟨-, rfl⟩ := List.cons.inj hafter
              exact List.drop_left
            have hshort : after.length < (c :: rest).length := by
              rw [← hafter, hpattern, List.length_append, List.length_cons]
              omega
            rw [replaceAnyFrom_eq_drop, hrest, ← hafter]
            exact .replace hsymbol (ih _ hshort after rfl)
          · rename_i hnone
            refine .keep ?_ (ih _ (Nat.lt_succ_self _) rest rfl)
            intro symbol hsymbol hbegins
            exact List.find?_eq_none.mp hnone symbol hsymbol
              (List.isPrefixOf_iff_prefix.mpr hbegins)

theorem replaceFrom_eq_replaceAnyFrom (symbol : String × String) (skip : Nat) (chars : List Char) :
    replaceFrom symbol.1.toList symbol.2.toList skip chars =
      replaceAnyFrom [symbol] skip chars := by
  induction chars generalizing skip with
  | nil => rw [replaceFrom, replaceAnyFrom]
  | cons c rest ih =>
      cases skip with
      | succ skip => exact ih skip
      | zero =>
          rw [replaceFrom, replaceAnyFrom, List.find?_cons]
          cases symbol.1.toList.isPrefixOf (c :: rest) with
          | true => simp [ih]
          | false => simp [ih]

theorem rewrites_replaceAll {symbol : String × String} (hne : symbol.1.toList ≠ [])
    (chars : List Char) :
    Rewrites [symbol] chars (replaceAll symbol.1.toList symbol.2.toList chars) := by
  rw [replaceAll, replaceFrom_eq_replaceAnyFrom]
  exact rewrites_replaceAny (List.forall_mem_singleton.mpr hne) chars

/-- A symbol runs neither into another one nor into what replaces that, whatever stands around. So
it is found in a text just where it was before the other was replaced. -/
def Independent (other symbol : String × String) : Prop :=
  Avoids symbol.1.toList other.1.toList ∧ Avoids symbol.1.toList other.2.toList ∧
    Avoids other.2.toList symbol.1.toList

instance (other symbol : String × String) : Decidable (Independent other symbol) :=
  inferInstanceAs (Decidable (_ ∧ _ ∧ _))

/-- Replacing one more symbol afterwards is replacing it at once. By induction a row of replacements
is a single pass. -/
theorem Rewrites.snoc {symbols : List (String × String)} {symbol : String × String}
    {chars middle out : List Char} (h : Rewrites symbols chars middle)
    (h' : Rewrites [symbol] middle out) (hne : symbol.1.toList ≠ [])
    (hsymbols : ∀ other ∈ symbols, Independent other symbol) :
    Rewrites (symbols ++ [symbol]) chars out := by
  have hmem : symbol ∈ symbols ++ [symbol] := List.mem_append_right _ (List.mem_singleton_self _)
  induction hlength : chars.length using Nat.strong_induction_on generalizing chars middle out with
  | _ length ih =>
      subst hlength
      cases h with
      | nil =>
          generalize hmiddle : ([] : List Char) = middle at h'
          cases h' with
          | nil => exact .nil
          | keep => cases hmiddle
          | replace hsymbol =>
              obtain rfl := List.mem_singleton.mp hsymbol
              exact absurd (List.append_eq_nil_iff.mp hmiddle.symm).1 hne
      | @keep c rest middle hnone hrest =>
          have hkept := Rewrites.keep hnone hrest
          generalize hmiddle : c :: middle = kept at h' hkept
          cases h' with
          | nil => cases hmiddle
          | keep hnone' hrest' =>
              obtain ⟨rfl, rfl⟩ := List.cons.inj hmiddle
              refine .keep ?_ (ih _ (Nat.lt_succ_self _) hrest hrest' rfl)
              intro other hother hbegins
              rcases List.mem_append.mp hother with hother | hother
              · exact hnone other hother hbegins
              · obtain rfl := List.mem_singleton.mp hother
                -- An occurrence in the text would still be there after the others are replaced.
                obtain ⟨after, hafter⟩ := hbegins
                rw [← hafter] at hkept
                obtain ⟨out', hout, -⟩ :=
                  hkept.of_avoids fun other hother => (hsymbols other hother).1
                exact hnone' other (List.mem_singleton_self other) ⟨out', hout.symm⟩
          | replace hsymbol hrest' =>
              obtain rfl := List.mem_singleton.mp hsymbol
              -- What is found after the others are replaced stood in the text.
              obtain ⟨after, hafter, hrewrites⟩ :=
                hkept.source fun other hother => (hsymbols other hother).2.1
              have hshort : after.length < (c :: rest).length := by
                have hpos := List.length_pos_iff.mpr hne
                rw [hafter, List.length_append]
                omega
              rw [hafter]
              exact .replace hmem (ih _ hshort hrewrites hrest' rfl)
      | @replace other rest middle hother hrest =>
          obtain ⟨hpattern, -, hwritten⟩ := hsymbols other hother
          obtain ⟨out', rfl, hrest'⟩ := h'.of_avoids (by simpa using hwritten)
          have hpos : 0 < other.1.toList.length := by
            apply List.length_pos_iff.mpr
            intro hempty
            exact (hpattern.diverge hne).2 (hempty ▸ List.nil_prefix)
          have hshort : rest.length < (other.1.toList ++ rest).length := by
            rw [List.length_append]
            omega
          exact .replace (List.mem_append_left _ hother) (ih _ hshort hrest hrest' rfl)

end Reckoner.Text
