/-!
# Ranges of code points

A property of characters given by a standard is kept as the list of the closed ranges of code
points that have it, in increasing order.  `CodeRange.covers` is the membership test.
-/

namespace SharedTables

/-- A closed range of code points, first and last. -/
abbrev CodeRange := Nat × Nat

namespace CodeRange

/-- Whether one of the ranges holds the code point of `c`. -/
def covers (ranges : List CodeRange) (c : Char) : Bool :=
  ranges.any fun r => r.1 ≤ c.toNat && c.toNat ≤ r.2

theorem covers_iff {ranges : List CodeRange} {c : Char} :
    covers ranges c = true ↔ ∃ r ∈ ranges, r.1 ≤ c.toNat ∧ c.toNat ≤ r.2 := by
  simp [covers]

end CodeRange

end SharedTables
