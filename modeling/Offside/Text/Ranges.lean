/-! Sets of characters given by inclusive ranges of code points. Tables of the Unicode character
database are written this way. -/

namespace Offside.Text

/-- Inclusive ranges of code points, in increasing order. -/
abbrev Ranges := List (Nat × Nat)

namespace Ranges

def contains (ranges : Ranges) (c : Char) : Bool :=
  ranges.any fun (low, high) => low ≤ c.toNat && c.toNat ≤ high

end Ranges

end Offside.Text
