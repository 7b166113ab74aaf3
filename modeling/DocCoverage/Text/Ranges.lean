/-
Membership of a character in a set given as ranges of code points: the form in which the Unicode
properties of this library are written down.
-/

set_option autoImplicit false

namespace DocCoverage.Text

/-- Some range, ends included, holds the character's code point. -/
def inRanges (ranges : List (Nat × Nat)) (c : Char) : Bool :=
  ranges.any fun r => r.1 ≤ c.toNat && c.toNat ≤ r.2

/-- Membership, said without the search. -/
theorem inRanges_iff {ranges : List (Nat × Nat)} {c : Char} :
    inRanges ranges c = true ↔ ∃ r ∈ ranges, r.1 ≤ c.toNat ∧ c.toNat ≤ r.2 := by
  simp [inRanges]

end DocCoverage.Text
