/-!
# Ranges of code points

A property of characters is given by the ranges of code points that have it. `inRanges` reads such
a table, `mem_of_inRanges` says what a hit means.
-/

namespace StoredSql.Text

/-- Whether `n` lies in one of the ranges, both ends included. -/
def inRanges : List (Nat × Nat) → Nat → Bool
  | [], _ => false
  | (lo, hi) :: rest, n => (decide (lo ≤ n) && decide (n ≤ hi)) || inRanges rest n

theorem mem_of_inRanges {rs : List (Nat × Nat)} {n : Nat} :
    inRanges rs n = true ↔ ∃ r ∈ rs, r.1 ≤ n ∧ n ≤ r.2 := by
  induction rs with
  | nil => simp [inRanges]
  | cons r rs ih => simp [inRanges, ih]

end StoredSql.Text
