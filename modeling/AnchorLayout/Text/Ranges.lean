/-!
# Sets of characters by ranges of code points
-/

namespace AnchorLayout.Text

/-- A set of code points: ranges with both ends, in ascending order. -/
abbrev Ranges := List (Nat × Nat)

/-- Whether a character lies in one of the ranges. -/
def Ranges.contains (ranges : Ranges) (c : Char) : Bool :=
  ranges.any fun (first, last) => first ≤ c.toNat && c.toNat ≤ last

end AnchorLayout.Text
