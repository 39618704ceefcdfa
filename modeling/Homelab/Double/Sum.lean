import Homelab.Double

/-!
# Sums and products

The sum and the product of two numbers: the exact result rounded to the nearest
number.  An infinity and its opposite have no sum, and an infinity and zero no product.
-/

namespace Homelab
namespace Double

/-- The size of a finite number as a fraction. -/
def ratio (x : Double) : Nat × Nat :=
  let (m, q) := x.mantissaExponent
  (m * Nat.pow 2 q.toNat, Nat.pow 2 (-q).toNat)

/-- A finite number as a fraction with its sign above. -/
def signedRatio (x : Double) : Int × Nat :=
  ((if x.negative then -1 else 1) * (x.ratio.1 : Int), x.ratio.2)

/-- The number with the opposite sign. -/
def negate (x : Double) : Double := ofParts (!x.negative) x.magnitude

/-- The product of two numbers. -/
def times (x y : Double) : Double :=
  let negative := x.negative != y.negative
  if x.isNaN || y.isNaN then notANumber
  else if x.isInfinite || y.isInfinite then
    if x.isZero || y.isZero then notANumber else infinity negative
  else ofRatio negative (x.ratio.1 * y.ratio.1) (x.ratio.2 * y.ratio.2)

/-- The sum of two numbers. -/
def plus (x y : Double) : Double :=
  if x.isNaN || y.isNaN then notANumber
  else if x.isInfinite then
    if y.isInfinite && x.negative != y.negative then notANumber else x
  else if y.isInfinite then y
  else
    let (a, b) := x.signedRatio
    let (c, d) := y.signedRatio
    let n := a * (d : Int) + c * (b : Int)
    if n = 0 then zero (x.negative && y.negative) else ofRatio (n < 0) n.natAbs (b * d)

end Double
end Homelab
