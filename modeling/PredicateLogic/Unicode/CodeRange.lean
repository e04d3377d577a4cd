/-!
# Ranges of code points

A property of characters is written down as the closed ranges of code points
that have it, in ascending order. A search may therefore stop at the first range
that begins beyond the code point it looks for.
-/

namespace PredicateLogic.Unicode

/-- Whether `n` lies in one of the closed ranges, which are listed in ascending
order. -/
def inRanges (n : Nat) : List (Nat × Nat) → Bool
  | [] => false
  | (first, last) :: ranges =>
    if n < first then false else if n ≤ last then true else inRanges n ranges

/-- A code point that is found lies between the ends of a listed range. -/
theorem exists_range_of_inRanges {n : Nat} {ranges : List (Nat × Nat)}
    (h : inRanges n ranges = true) : ∃ r ∈ ranges, r.1 ≤ n ∧ n ≤ r.2 := by
  induction ranges with
  | nil => simp [inRanges] at h
  | cons r ranges ih =>
    obtain ⟨first, last⟩ := r
    unfold inRanges at h
    split at h
    · simp at h
    · split at h
      · exact ⟨(first, last), by simp, by omega⟩
      · obtain ⟨r, hr, hb⟩ := ih h
        exact ⟨r, by simp [hr], hb⟩

end PredicateLogic.Unicode
