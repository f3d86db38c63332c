/-! Sets of characters given as inclusive ranges of code points. -/
namespace ClusterHealth.Text

/-- Membership in a set of inclusive code point ranges. -/
def inRanges (ranges : List (Nat × Nat)) (c : Char) : Bool :=
  ranges.any fun (low, high) => low ≤ c.toNat && c.toNat ≤ high

end ClusterHealth.Text
