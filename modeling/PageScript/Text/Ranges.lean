/-!
# Classes of characters

A property of characters is written as the ranges of code points that have it, in increasing order.
Looking a character up stops at the first range beyond it, so the common scripts, which come first,
are found at once.
-/
namespace PageScript.Text

/-- Whether one of the ranges, which are listed in increasing order, holds `n`. -/
def inRanges : List (Nat × Nat) → Nat → Bool
  | [], _ => false
  | (first, last) :: ranges, n =>
    if n < first then false else if n ≤ last then true else inRanges ranges n

/-- A range found is a range listed, whatever the order of the list. -/
theorem exists_mem_of_inRanges {ranges : List (Nat × Nat)} {n : Nat} (h : inRanges ranges n = true) :
    ∃ r ∈ ranges, r.1 ≤ n ∧ n ≤ r.2 := by
  induction ranges with
  | nil => simp [inRanges] at h
  | cons r ranges ih =>
    obtain ⟨first, last⟩ := r
    simp only [inRanges] at h
    split at h
    · contradiction
    · split at h
      · exact ⟨_, List.mem_cons_self, by simp; omega⟩
      · obtain ⟨r, hr, hn⟩ := ih h
        exact ⟨r, List.mem_cons_of_mem _ hr, hn⟩

end PageScript.Text
