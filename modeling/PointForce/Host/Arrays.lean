import PointForce.Actuator.Basic
import PointForce.Matrix.Csr

-- The arrays that a host lends for an answer. A missing one is a null pointer.

namespace PointForce.Host

structure RowArrays where
  rows     : Option (List Nat)
  dofs     : Option (List Nat)
  values   : Option (List Float)
  count    : Option Nat
  rowCount : Option Nat

namespace RowArrays

-- Without any triplet, no array is needed.
def write? (out : RowArrays) (ts : List (Triplet Float)) : Option RowArrays :=
  match out.rows, out.dofs, out.values with
  | some rows, some dofs, some values =>
    some
      { out with
        rows   := some (Buffer.overwrite (ts.map Triplet.row) rows)
        dofs   := some (Buffer.overwrite (ts.map Triplet.dof) dofs)
        values := some (Buffer.overwrite (ts.map Triplet.value) values) }
  | _, _, _ => if ts.isEmpty then some out else none

end RowArrays

structure BoundArrays where
  lower    : Option (List Float)
  upper    : Option (List Float)
  guess    : Option (List Float)
  hasLower : Option Bool
  hasUpper : Option Bool
  hasGuess : Option Bool
  penalty  : Option Float

namespace BoundArrays

def complete (out : BoundArrays) : Bool :=
  out.lower.isSome && out.upper.isSome && out.guess.isSome && out.hasLower.isSome &&
    out.hasUpper.isSome && out.hasGuess.isSome && out.penalty.isSome

def fill? (dimension : Nat) (inactive : Float) (bound : Option (List Float)) (cells : List Float) :
    Option (List Float) :=
  match bound with
  | none        => some (Buffer.overwrite (List.replicate dimension inactive) cells)
  | some values =>
    if dimension ≤ values.length then
      some (Buffer.overwrite (values.take dimension) cells)
    else
      none

def write? (out : BoundArrays) (dimension : Nat) (b : Bounds Float) : Option BoundArrays := do
  let lower ← out.lower.mapM (fill? dimension Extended.negInfinity b.lower)
  let upper ← out.upper.mapM (fill? dimension Extended.infinity b.upper)
  let guess ← out.guess.mapM (fill? dimension 0 b.guess)
  return {
    lower
    upper
    guess
    hasLower := out.hasLower.map fun _ => b.lower.isSome
    hasUpper := out.hasUpper.map fun _ => b.upper.isSome
    hasGuess := out.hasGuess.map fun _ => b.guess.isSome
    penalty  := out.penalty.map fun _ => b.penalty.getD (0 / 0) }

end BoundArrays
end PointForce.Host
