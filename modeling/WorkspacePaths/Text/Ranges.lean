import WorkspacePaths.Text.CodePoint

/-!
# `Text.Ranges` — character classes as tables of ranges

A character class of the Unicode standard is a list of ranges of code point numbers. `inRanges`
reads such a table; the classes themselves stand in the modules named for them.
-/

namespace WorkspacePaths

/-- The number lies in one of the ranges, whose ends both belong to them. -/
def inRanges (table : List (Nat × Nat)) (n : Nat) : Bool :=
  table.any (fun r => r.1 ≤ n && n ≤ r.2)

theorem inRanges_iff {table : List (Nat × Nat)} {n : Nat} :
    inRanges table n = true ↔ ∃ r ∈ table, r.1 ≤ n ∧ n ≤ r.2 := by
  simp [inRanges]

end WorkspacePaths
