-- Everything that is computed is written once, over any `Scalar`. A program runs it in binary64,
-- and a law can be stated wherever the properties that it needs hold.

namespace PointForce

-- No law is asked of the operations. In particular `≤` does not have to be reflexive, as a number
-- that is no number compares with nothing.
class Scalar (α : Type) extends
    Zero α, One α, Add α, Sub α, Mul α, Div α, LE α, LT α, BEq α, OfScientific α where
  abs      : α → α
  isFinite : α → Bool
  decLE    : DecidableLE α
  decLT    : DecidableLT α

instance Scalar.decidableLE {α : Type} [Scalar α] : DecidableLE α :=
  Scalar.decLE

instance Scalar.decidableLT {α : Type} [Scalar α] : DecidableLT α :=
  Scalar.decLT

class Elementary (α : Type) where
  sqrt : α → α
  log  : α → α

class Extended (α : Type) where
  infinity    : α
  negInfinity : α

instance : Scalar Float where
  abs      := Float.abs
  isFinite := Float.isFinite
  decLE    := Float.decLe
  decLT    := Float.decLt

instance : Elementary Float where
  sqrt := Float.sqrt
  log  := Float.log

instance : Extended Float where
  infinity    := 1 / 0
  negInfinity := -1 / 0

end PointForce
