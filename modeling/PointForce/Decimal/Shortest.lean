-- The shortest decimal that still tells a binary64 number from its neighbours.

namespace PointForce

structure Decimal where
  significand : Nat
  exponent    : Int
  deriving DecidableEq, Repr

-- Below a power of two the next number is only half as far.
structure Binary where
  significand : Nat
  exponent    : Int
  narrowBelow : Bool
  deriving DecidableEq, Repr

inductive Tie
  | up
  | even
  deriving DecidableEq, Repr

def Binary.ofFloat (x : Float) : Binary :=
  let fraction := (x.toBits &&& 0xfffffffffffff).toNat
  let scale    := (x.toBits >>> 52 &&& 0x7ff).toNat
  if scale = 0 then
    { significand := fraction
      exponent    := -1074
      narrowBelow := false }
  else
    { significand := 0x10000000000000 + fraction
      exponent    := scale - 1075
      narrowBelow := fraction = 0 ∧ 1 < scale }

namespace Decimal

def numerator (base : Nat) (exponent : Int) : Nat :=
  Nat.pow base exponent.toNat

def denominator (base : Nat) (exponent : Int) : Nat :=
  Nat.pow base (-exponent).toNat

-- Distances are in quarters of the unit of the number, over a common denominator. The ends of the
-- interval round to the number if its significand is even.
def onGrid? (tie : Tie) (b : Binary) (grid : Int) : Option Nat :=
  let unit   := numerator 2 (b.exponent - 2) * denominator 10 grid
  let step   := denominator 2 (b.exponent - 2) * numerator 10 grid
  let value  := 4 * b.significand * unit
  let low    := value - (if b.narrowBelow then 1 else 2) * unit
  let high   := value + 2 * unit
  let closed := b.significand % 2 = 0
  let hits c := 0 < c ∧ (low < c * step ∨ closed ∧ low = c * step) ∧
    (c * step < high ∨ closed ∧ c * step = high)
  let below  := value / step
  let above  := below + 1
  let nearer :=
    match compare (2 * value) ((below + above) * step), tie with
    | .lt, _     => below
    | .gt, _     => above
    | .eq, .up   => above
    | .eq, .even => if below % 2 = 0 then below else above
  if hits below then
    if hits above then some nearer else some below
  else
    if hits above then some above else none

-- The factor is a little more than `log 2`.
def topGrid (b : Binary) : Int :=
  (b.significand.log2 + b.exponent + 1) * 30103 / 100000 + 1

-- Seventeen digits always suffice.
def shortest (tie : Tie) (b : Binary) : Decimal :=
  let found := (List.range 20).findSome? fun (i : Nat) =>
    (onGrid? tie b (topGrid b - i)).map fun c => { significand := c, exponent := topGrid b - i }
  found.getD { significand := 0, exponent := 0 }

end Decimal
end PointForce
