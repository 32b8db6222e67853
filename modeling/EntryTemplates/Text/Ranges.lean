/-
**Membership in a table of closed ranges.**

Main definitions:

* `EntryTemplates.Text.inRanges` — whether a code point lies in one of the ranges.
-/

set_option relaxedAutoImplicit false
set_option autoImplicit false

namespace EntryTemplates.Text

/-- Whether `n` lies in one of the closed ranges of the table. -/
def inRanges (table : List (Nat × Nat)) (n : Nat) : Bool :=
  table.any fun row => row.1 ≤ n && n ≤ row.2

@[simp] theorem inRanges_nil (n : Nat) : inRanges [] n = false := rfl

theorem inRanges_iff (table : List (Nat × Nat)) (n : Nat) :
    inRanges table n = true ↔ ∃ row ∈ table, row.1 ≤ n ∧ n ≤ row.2 := by
  simp [inRanges]

end EntryTemplates.Text
