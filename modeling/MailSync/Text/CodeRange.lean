/-!
# Ranges of characters

Classes of characters are given by ranges of code points, each by its first
and its last one.
-/

namespace MailSync

/-- Whether a character lies in one of the ranges. -/
def inCodeRanges (ranges : List (Nat × Nat)) (c : Char) : Bool :=
  ranges.any fun (low, high) => low ≤ c.toNat && c.toNat ≤ high

theorem inCodeRanges_iff {ranges : List (Nat × Nat)} {c : Char} :
    inCodeRanges ranges c = true ↔ ∃ r ∈ ranges, r.1 ≤ c.toNat ∧ c.toNat ≤ r.2 := by
  simp [inCodeRanges]

end MailSync
