import Reckoner.Text.Lowercase

/-!
Text in lower case is its own lower case. Lowering writes no capital of the table: a row of capitals
is moved as a whole, and what it is moved to lies before or after each other row, or on the places
that the other row skips.
-/

namespace Reckoner.Text

/-- A row of capitals: the first, the last, the step between them, and the distance to lower
case. -/
abbrev Row := Nat × Nat × Nat × Int

/-- The code point is that of a capital of the row. In a row with a step of two, every second code
point is passed over. -/
def Holds (code : Nat) : Row → Prop
  | (first, last, step, _) => first ≤ code ∧ code ≤ last ∧ (code - first) % step = 0

/-- A code point is left alone, or it is that of a capital and moved as its row says. No other row
is asked after that, so a capital is moved once. -/
theorem lowerCode_cases (code : Nat) (rows : List Row) :
    lowerCode code rows = code ∨
      ∃ row ∈ rows, Holds code row ∧ lowerCode code rows = (code + row.2.2.2).toNat := by
  induction rows with
  | nil => exact Or.inl rfl
  | cons row rest ih =>
      obtain ⟨first, last, step, distance⟩ := row
      simp only [lowerCode]
      split
      · rename_i hlast
        split
        · rename_i hcapital
          exact Or.inr ⟨_, List.mem_cons_self, ⟨hcapital.1, hlast, hcapital.2⟩, rfl⟩
        · exact Or.inl rfl
      · rcases ih with hsame | ⟨row, hrow, hmoved⟩
        · exact Or.inl hsame
        · exact Or.inr ⟨row, List.mem_cons_of_mem _ hrow, hmoved⟩

/-- Are the code points from `low` to `high`, every second one of them if `skips`, no capitals of
these rows? Behind a row that begins after them nothing is looked at. -/
def avoids (low high : Nat) (skips : Bool) : List Row → Bool
  | [] => true
  | (first, last, step, _) :: rest =>
    bif Nat.blt high first && Nat.ble first last then true
    else bif Nat.blt last low then avoids low high skips rest
    else skips && Nat.beq step 2 && !Nat.beq (low % 2) (first % 2) && avoids low high skips rest

theorem lowerCode_of_avoids {low high : Nat} {skips : Bool} {rows : List Row}
    (h : avoids low high skips rows = true) {code : Nat} (hlow : low ≤ code) (hhigh : code ≤ high)
    (hskips : skips = true → (code - low) % 2 = 0) : lowerCode code rows = code := by
  induction rows with
  | nil => rfl
  | cons row rest ih =>
      obtain ⟨first, last, step, distance⟩ := row
      simp only [avoids, cond_eq_ite, Bool.and_eq_true, Nat.blt_eq, Nat.ble_eq] at h
      simp only [lowerCode]
      split at h
      · rename_i hbefore
        rw [if_pos (by omega), if_neg (by omega)]
      split at h
      · rename_i hafter
        rw [if_neg (by omega)]
        exact ih h
      · simp only [Bool.and_eq_true, Nat.beq_eq, Bool.not_eq_true'] at h
        obtain ⟨⟨⟨hskip, rfl⟩, hodd⟩, hrest⟩ := h
        have heven := hskips hskip
        have hparity := Nat.ne_of_beq_eq_false hodd
        have hnot : ¬ (first ≤ code ∧ (code - first) % 2 = 0) := by omega
        rw [if_neg hnot, ih hrest, ite_self]

/-- Do the capitals of a row become characters that are no capitals of the other rows, and none of
them the capital I with a dot? -/
def movesOut (rows : List Row) : Row → Bool
  | (first, last, step, distance) =>
    let low := (first + distance).toNat
    let high := (last + distance).toNat
    avoids low high (Nat.beq step 2 || Nat.beq first last) rows &&
      Nat.blt 0 low && (Nat.blt high 0xD800 || Nat.blt 0xDFFF low && Nat.blt high 0x110000) &&
      (Nat.blt high 0x130 || Nat.blt 0x130 low)

theorem capitalRows_moveOut : capitalRows.all (movesOut capitalRows) = true := by
  decide +kernel

/-- The character is its own lower case. Two capitals have rules of their own, so they are excluded
by themselves. -/
structure IsSmall (c : Char) : Prop where
  sigma : c ≠ 'Σ'
  dotted : c ≠ 'İ'
  code : lowerCode c.toNat capitalRows = c.toNat

/-- What a row moves its capitals to is its own lower case. The whole table is checked by
computation, row against row and not character by character. -/
theorem isSmall_of_holds {row : Row} (hrow : row ∈ capitalRows) {code : Nat}
    (hcode : Holds code row) : IsSmall (Char.ofNat (code + row.2.2.2).toNat) := by
  have hout := List.all_eq_true.mp capitalRows_moveOut row hrow
  obtain ⟨first, last, step, distance⟩ := row
  obtain ⟨hfirst, hlast, hstep⟩ := hcode
  simp only [movesOut, Bool.and_eq_true, Bool.or_eq_true, Nat.blt_eq] at hout
  obtain ⟨⟨⟨havoids, hpositive⟩, hcharacter⟩, hdotted⟩ := hout
  have hnat : (Char.ofNat (code + distance).toNat).toNat = (code + distance).toNat := by
    have hvalid : (code + distance).toNat.isValidChar := by
      unfold Nat.isValidChar
      omega
    rw [Char.ofNat, dif_pos hvalid]
    rfl
  have hsame : lowerCode (code + distance).toNat capitalRows = (code + distance).toNat := by
    refine lowerCode_of_avoids havoids (by omega) (by omega) ?_
    simp only [Bool.or_eq_true, Nat.beq_eq]
    rintro (rfl | rfl) <;> omega
  refine ⟨?_, ?_, ?_⟩
  · intro hsigma
    rw [← hnat, hsigma] at hsame
    exact absurd hsame (by decide)
  · intro heq
    have : (code + distance).toNat = 0x130 := by rw [← hnat, heq]; rfl
    omega
  · rw [hnat]
    exact hsame

/-- A character that is not lowered by a rule of its own is lowered to one that is its own lower
case. -/
theorem isSmall_lowerCode {c : Char} (hsigma : c ≠ 'Σ') (hdotted : c ≠ 'İ') :
    IsSmall (Char.ofNat (lowerCode c.toNat capitalRows)) := by
  rcases lowerCode_cases c.toNat capitalRows with hsame | ⟨row, hrow, hholds, hmoved⟩
  · rw [hsame, Char.ofNat_toNat]
    exact ⟨hsigma, hdotted, hsame⟩
  · rw [hmoved]
    exact isSmall_of_holds hrow hholds

theorem isSmall_of_mem_lowerFrom {before chars : List Char} {c : Char}
    (h : c ∈ lowerFrom before chars) : IsSmall c := by
  induction chars generalizing before with
  | nil => cases h
  | cons first rest ih =>
      simp only [lowerFrom, List.mem_append] at h
      rcases h with hfirst | hrest
      · split at hfirst
        · rw [List.mem_singleton.mp hfirst]
          split <;> exact ⟨by decide, by decide, by decide⟩
        split at hfirst
        · simp only [List.mem_cons, List.not_mem_nil, or_false] at hfirst
          rcases hfirst with rfl | rfl <;> exact ⟨by decide, by decide, by decide⟩
        · rw [List.mem_singleton.mp hfirst]
          exact isSmall_lowerCode ‹_› ‹_›
      · exact ih hrest

theorem lowerFrom_of_isSmall {before chars : List Char} (h : ∀ c ∈ chars, IsSmall c) :
    lowerFrom before chars = chars := by
  induction chars generalizing before with
  | nil => rfl
  | cons c rest ih =>
      have hc := h c List.mem_cons_self
      have hrest : lowerFrom (c :: before) rest = rest :=
        ih fun other hother => h other (List.mem_cons_of_mem _ hother)
      simp only [lowerFrom, hc.sigma, hc.dotted, if_false, hc.code, Char.ofNat_toNat, hrest]
      rfl

/-- Text in lower case is its own lower case, although the lower case of a character may depend on
those around it. -/
theorem lower_lower (chars : List Char) : lower (lower chars) = lower chars :=
  lowerFrom_of_isSmall fun _ => isSmall_of_mem_lowerFrom

end Reckoner.Text
