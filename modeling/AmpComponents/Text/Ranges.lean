/-
Sets of code points given by closed ranges.

The property tables of this library are lists of pairs `(first, last)`, and a code point has
the property when one pair encloses it.
-/
namespace AmpComponents
namespace Text

/-- Whether one of the closed ranges holds `n`. -/
def inRanges (ranges : List (Nat × Nat)) (n : Nat) : Bool :=
  ranges.any fun r => decide (r.1 ≤ n) && decide (n ≤ r.2)

theorem inRanges_iff {ranges : List (Nat × Nat)} {n : Nat} :
    inRanges ranges n = true ↔ ∃ r ∈ ranges, r.1 ≤ n ∧ n ≤ r.2 := by
  simp [inRanges, List.any_eq_true]

end Text
end AmpComponents
