/-!
Sets of characters as ascending ranges of code points. A table lists them in order, so looking a
character up stops at the first range that ends at or after it.
-/

namespace Reckoner.Text

/-- Is the code point in one of the ranges? They ascend and do not overlap, so that the first range
that ends at or after the code point is the only one that can hold it. -/
def inRanges (code : Nat) : List (Nat × Nat) → Bool
  | [] => false
  | (low, high) :: rest => if code ≤ high then decide (low ≤ code) else inRanges code rest

theorem exists_of_inRanges {code : Nat} {ranges : List (Nat × Nat)}
    (h : inRanges code ranges = true) : ∃ r ∈ ranges, r.1 ≤ code ∧ code ≤ r.2 := by
  induction ranges with
  | nil => cases h
  | cons r rest ih =>
      obtain ⟨low, high⟩ := r
      simp only [inRanges] at h
      split at h
      · exact ⟨(low, high), by simp, of_decide_eq_true h, by assumption⟩
      · obtain ⟨s, hs, hbounds⟩ := ih h
        exact ⟨s, List.mem_cons_of_mem _ hs, hbounds⟩

theorem not_inRanges_of_disjoint {code : Nat} {ranges others : List (Nat × Nat)}
    (hdisjoint : ∀ r ∈ ranges, ∀ s ∈ others, r.2 < s.1 ∨ s.2 < r.1)
    (h : inRanges code ranges = true) : inRanges code others = false := by
  rw [Bool.eq_false_iff]
  intro hother
  obtain ⟨r, hr, hlow, hhigh⟩ := exists_of_inRanges h
  obtain ⟨s, hs, hlow', hhigh'⟩ := exists_of_inRanges hother
  have hapart := hdisjoint r hr s hs
  omega

end Reckoner.Text
