set_option autoImplicit false

/-! # Ranges of code points

Character classes beyond ASCII are given by tables of sorted closed ranges. -/

namespace ApiScan.Text

/-- Whether `n` lies in one of the ranges of a table sorted by lower end. -/
def inRanges (n : Nat) : List (Nat × Nat) → Bool
  | [] => false
  | (low, high) :: more => if n < low then false else n ≤ high || inRanges n more

theorem exists_of_inRanges {n : Nat} {table : List (Nat × Nat)} (h : inRanges n table = true) :
    ∃ range ∈ table, range.1 ≤ n ∧ n ≤ range.2 := by
  induction table with
  | nil => simp [inRanges] at h
  | cons range more ih =>
    obtain ⟨low, high⟩ := range
    simp only [inRanges] at h
    split at h
    · simp at h
    · simp only [Bool.or_eq_true, decide_eq_true_eq] at h
      rcases h with h | h
      · exact ⟨(low, high), by simp, by simp only; omega⟩
      · obtain ⟨r, hr, h⟩ := ih h
        exact ⟨r, by simp [hr], h⟩

end ApiScan.Text
