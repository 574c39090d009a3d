/-!
# Tables of character ranges

A property of characters is given as a list of ranges of code points, both ends
included, the way the Unicode tables list them.
-/

namespace ButtonCombo
namespace Text

/-- Whether a character lies in one of the ranges. -/
def inRanges
    (ranges : List (Nat × Nat))
    (c : Char) : Bool :=
  ranges.any fun (first, last) => first ≤ c.toNat && c.toNat ≤ last

theorem inRanges_iff
    {ranges : List (Nat × Nat)}
    {c : Char} :
    inRanges ranges c = true ↔
      ∃ r ∈ ranges, r.1 ≤ c.toNat ∧ c.toNat ≤ r.2 := by
  simp [inRanges]

end Text
end ButtonCombo
