/-
This file represents a property of characters by the ranges of code points that have it.
-/

namespace TraceCalc.Unicode

/-- A code point set lists its disjoint ranges in increasing order, each with both ends. -/
abbrev CodePointSet := List (Nat × Nat)

/-- The search stops at the first range that ends at or after the code point. -/
def CodePointSet.contains : CodePointSet → Nat → Bool
  | [], _ => false
  | range :: rest, codePoint =>
      if codePoint < range.1 then false
      else if codePoint ≤ range.2 then true
      else contains rest codePoint

theorem CodePointSet.exists_range_of_contains {ranges : CodePointSet} {codePoint : Nat}
    (member : ranges.contains codePoint = true) :
    ∃ range ∈ ranges, range.1 ≤ codePoint ∧ codePoint ≤ range.2 := by
  induction ranges with
  | nil => simp [contains] at member
  | cons range rest inductionHypothesis =>
      unfold contains at member
      split at member
      · simp at member
      · split at member
        · exact ⟨range, by simp, by omega, by omega⟩
        · obtain ⟨found, foundMember, bounds⟩ := inductionHypothesis member
          exact ⟨found, by simp [foundMember], bounds⟩

end TraceCalc.Unicode
