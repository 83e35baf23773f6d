/-
SchedPlane/Text/Ranges.lean

Classes of characters as closed ranges of code points.
-/

namespace SchedPlane.Text

/-- Closed ranges of code points. -/
abbrev Ranges := List (Nat × Nat)

namespace Ranges

/-- Whether a character lies in one of the ranges. -/
def contains (rs : Ranges) (c : Char) : Bool :=
  rs.any fun r => decide (r.1 ≤ c.toNat) && decide (c.toNat ≤ r.2)

end Ranges

end SchedPlane.Text
