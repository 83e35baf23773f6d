/-
SchedPlane/Json/Magnitude.lean

Which decimals lie in the range of doubles.  A decimal is taken as a significand times a
power of ten.  The significand holds the leading digits while it stays below `2 ^ 64`
(`gather`); the power makes up for the digits left over and for the point.  Both factors
are rounded to doubles before they are multiplied, so the range ends where the product
of the rounded factors does (`timesPowerFits`), a little beside the largest double.
-/

namespace SchedPlane.Json

/-! ### Rounding -/

/-- The nearest number of 53 significant binary digits; a half goes to the even one. -/
def round53 (n : Nat) : Nat :=
  let unit := Nat.pow 2 (n.log2 - 52)
  let q := n / unit
  let r := n % unit
  if unit < 2 * r || (2 * r = unit && q % 2 = 1) then (q + 1) * unit else q * unit

/-- The least natural that rounds to no finite double. -/
def overflow : Nat := Nat.pow 2 1024 - Nat.pow 2 970

/-- Whether a significand times a power of ten is a finite double, each factor rounded first. -/
def timesPowerFits (significand : Nat) (e : Int) : Bool :=
  significand = 0 || decide (e ≤ 0) ||
    (decide (e ≤ 308) && decide (round53 significand * round53 (Nat.pow 10 e.toNat) < overflow))

/-! ### Significands -/

/-- The bound of a significand. -/
def significandBound : Nat := UInt64.size

/-- A number with the digits after it taken in while it stays below the bound, and how many
digits are left over. -/
def gather (n : Nat) : List Nat → Nat × Nat
  | [] => (n, 0)
  | d :: ds =>
    if 10 * n + d < significandBound then gather (10 * n + d) ds else (n, ds.length + 1)

/-- Whether the decimal with the given digits before and after the point and the given
exponent lies in the range of doubles. -/
def decimalFits (whole fraction : List Nat) (exponent : Int) : Bool :=
  let (n, dropped) := gather 0 whole
  let (significand, left) := gather n fraction
  timesPowerFits significand (exponent + dropped - (fraction.length - left : Nat))

end SchedPlane.Json
