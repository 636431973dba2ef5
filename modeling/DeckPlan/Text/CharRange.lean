/-!
# Sets of characters

A property of characters is given by a list of code point ranges, both ends included.
-/

namespace DeckPlan.Text

/-- Whether the character lies in the range, both ends included. -/
def within (c : Char) (range : Nat × Nat) : Bool :=
  range.1 ≤ c.toNat && c.toNat ≤ range.2

/-- Whether the character lies in one of the ranges. -/
def inRanges (ranges : List (Nat × Nat)) (c : Char) : Bool :=
  ranges.any (within c)

theorem within_iff {c : Char} {range : Nat × Nat} :
    within c range = true ↔ range.1 ≤ c.toNat ∧ c.toNat ≤ range.2 := by
  simp [within]

/-- A character is in a table if one of the ranges holds it. -/
theorem inRanges_iff {ranges : List (Nat × Nat)} {c : Char} :
    inRanges ranges c = true ↔ ∃ range ∈ ranges, range.1 ≤ c.toNat ∧ c.toNat ≤ range.2 := by
  simp [inRanges, within_iff]

end DeckPlan.Text
