/-!
# Ranges: sets of characters by their code points
-/

namespace Intake

/-- Whether the code point of a character lies in one of some inclusive ranges. -/
def inRanges (ranges : Array (Nat × Nat)) (c : Char) : Bool :=
  ranges.any fun r => decide (r.1 ≤ c.toNat) && decide (c.toNat ≤ r.2)

end Intake
