/-!
# Code-point ranges

A character class given by data is a list of closed ranges of code points.
-/

namespace OrmMapping.Text

/-- Closed ranges of code points, each written as first and last. -/
abbrev Ranges := List (Nat × Nat)

/-- Whether one of the ranges holds the character. -/
def Ranges.has (ranges : Ranges) (c : Char) : Bool :=
  ranges.any fun (first, last) => first ≤ c.toNat && c.toNat ≤ last

/-- `has` as a statement about the ranges. -/
theorem Ranges.has_iff (ranges : Ranges) (c : Char) :
    ranges.has c = true ↔ ∃ r ∈ ranges, r.1 ≤ c.toNat ∧ c.toNat ≤ r.2 := by
  simp [Ranges.has]

end OrmMapping.Text
