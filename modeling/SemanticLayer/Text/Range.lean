/-!
Sets of characters as tables of closed ranges.
-/
namespace SemanticLayer.Text

/-- Whether a character lies in one of the closed ranges. -/
def inRanges (ranges : List (Nat × Nat)) (c : Char) : Bool :=
  ranges.any fun r => r.1 ≤ c.toNat && c.toNat ≤ r.2

end SemanticLayer.Text
