import PointForce.Matrix.Csr

-- The matrix in words of 64 bits. A row or a column whose number does not fit wraps around; as long
-- as all of them fit, this is the matrix itself.

namespace PointForce

def word (n : Nat) : Nat :=
  n.toUInt64.toNat

theorem word_of_lt {n : Nat} (h : n < UInt64.size) : word n = n :=
  UInt64.toNat_ofNat_of_lt h

theorem word_eq_iff {n : Nat} : word n = n ↔ n < UInt64.size :=
  ⟨fun eq => eq ▸ n.toUInt64.toNat_lt_size, word_of_lt⟩

def Block.wordColumns {α : Type} [Scalar α] (b : Block α) (points : Nat) : List (Nat × α) :=
  (b.columns points).map fun (dof, value) => (word dof, value)

namespace ConstraintMatrix

variable {α : Type}

def wordRows (m : ConstraintMatrix α) : Nat :=
  word m.numRows

def wrapped (m : ConstraintMatrix α) : ConstraintMatrix α :=
  m.rows.foldl (fun m (row, blocks) => m.write (word row) blocks) .empty

variable [Scalar α]

def wordTriplets (m : ConstraintMatrix α) (points : Nat) : List (Triplet α) :=
  (m.triplets points).map fun t => { t with dof := word t.dof }

-- There is none if its shape wraps around to one that does not hold all coefficients.
def wordCsr? (m : ConstraintMatrix α) (points : Nat) : Option (Csr α) :=
  let columns := word (3 * points)
  if ∀ t ∈ m.wordTriplets points, t.row < m.wordRows ∧ t.dof < columns then
    some {
      rows    := m.wordRows
      columns
      entries := m.rows.flatMap fun (row, blocks) =>
        (compress (blocks.flatMap (·.wordColumns points))).toList.map fun (dof, value) =>
          { row, dof, value } }
  else
    none

end ConstraintMatrix
end PointForce
