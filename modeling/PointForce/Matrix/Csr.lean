import PointForce.Matrix.Basic

-- Point `p` owns the columns `3 * p`, `3 * p + 1` and `3 * p + 2`.

namespace PointForce

@[ext]
structure Triplet (α : Type) where
  row   : Nat
  dof   : Nat
  value : α
  deriving DecidableEq, Repr

@[ext]
structure Csr (α : Type) where
  rows    : Nat
  columns : Nat
  entries : List (Triplet α)
  deriving DecidableEq, Repr

variable {α : Type} [Scalar α]

namespace Block

-- What is zero is left out, and so is a block on a point that the body does not have.
def columns (b : Block α) (points : Nat) : List (Nat × α) :=
  if b.point < points then
    [(3 * b.point,     b.coefficients.x),
     (3 * b.point + 1, b.coefficients.y),
     (3 * b.point + 2, b.coefficients.z)].filter (·.2 != 0)
  else
    []

end Block

namespace ConstraintMatrix

def triplets (m : ConstraintMatrix α) (points : Nat) : List (Triplet α) :=
  m.rows.flatMap fun (row, blocks) =>
    blocks.flatMap fun b => (b.columns points).map fun (dof, value) => { row, dof, value }

-- A sum that comes out as zero is kept.
def compress (columns : List (Nat × α)) : SortedMap α :=
  columns.foldl (fun line (dof, value) => line.alter dof (·.elim value (· + value))) .empty

def toCsr (m : ConstraintMatrix α) (points : Nat) : Csr α where
  rows    := m.numRows
  columns := 3 * points
  entries := m.rows.flatMap fun (row, blocks) =>
    (compress (blocks.flatMap (·.columns points))).toList.map fun (dof, value) =>
      { row, dof, value }

end ConstraintMatrix
end PointForce
