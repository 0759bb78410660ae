import Mathlib.Algebra.Order.Field.Rat
import Mathlib.Algebra.Order.Group.Unbundled.Abs
import PointForce.Scalar

-- Exact arithmetic, in which no operation rounds and every number is finite. A direction has a norm
-- only if there is a root, so what takes roots is stated for any choice of them.

namespace PointForce

instance exactScalar : Scalar ℚ where
  abs x      := |x|
  isFinite _ := true
  decLE      := inferInstance
  decLT      := inferInstance

namespace Exact

-- Numbers whose root is no fraction get the root of the squares below their numerator and
-- denominator.
scoped instance elementary : Elementary ℚ where
  sqrt x := Nat.sqrt x.num.toNat / Nat.sqrt x.den
  log _  := 0

end Exact
end PointForce
