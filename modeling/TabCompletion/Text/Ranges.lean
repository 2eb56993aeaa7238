/-!
# Ranges of code points

A character property is a table of closed ranges of code points.
-/

namespace TabCompletion.Text

/-- Closed ranges of code points. -/
abbrev Ranges := List (Nat × Nat)

/-- Whether a code point lies in one of the ranges. -/
def Ranges.has (table : Ranges) (n : Nat) : Bool :=
  table.any fun r => r.1 ≤ n && n ≤ r.2

theorem Ranges.has_iff {table : Ranges} {n : Nat} :
    table.has n = true ↔ ∃ r ∈ table, r.1 ≤ n ∧ n ≤ r.2 := by
  simp [Ranges.has]

end TabCompletion.Text
