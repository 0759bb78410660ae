import PointForce.SortedMap
import PointForce.Vec3

-- The constraint matrix, row by row. Rows are counted without bound here, and in words by
-- `Matrix.Word`.

namespace PointForce

@[ext]
structure Block (α : Type) where
  point        : Nat
  coefficients : Vec3 α
  deriving DecidableEq, Repr

@[ext]
structure ConstraintMatrix (α : Type) where
  lines : SortedMap (List (Block α))
  deriving DecidableEq, Repr

namespace ConstraintMatrix

variable {α : Type}

def empty : ConstraintMatrix α :=
  ⟨.empty⟩

-- A row stays open even if nothing is ever added to it.
def write (m : ConstraintMatrix α) (row : Nat) (blocks : List (Block α)) : ConstraintMatrix α :=
  ⟨m.lines.alter row fun written => written.getD [] ++ blocks⟩

def row? (m : ConstraintMatrix α) (row : Nat) : Option (List (Block α)) :=
  m.lines.get? row

def rows (m : ConstraintMatrix α) : List (Nat × List (Block α)) :=
  m.lines.toList

def emittedRows (m : ConstraintMatrix α) : Nat :=
  m.lines.size

def numRows (m : ConstraintMatrix α) : Nat :=
  m.lines.bound

def blocks (m : ConstraintMatrix α) : List (Block α) :=
  m.rows.flatMap Prod.snd

theorem row?_empty (row : Nat) : (empty : ConstraintMatrix α).row? row = none :=
  rfl

theorem row?_write_self (m : ConstraintMatrix α) (row : Nat) (blocks : List (Block α)) :
    (m.write row blocks).row? row = some ((m.row? row).getD [] ++ blocks) := by
  simp [row?, write, SortedMap.get?_alter]

theorem row?_write_of_ne (m : ConstraintMatrix α) {row other : Nat} (blocks : List (Block α))
    (h : other ≠ row) : (m.write row blocks).row? other = m.row? other := by
  simp [row?, write, SortedMap.get?_alter, h]

end ConstraintMatrix
end PointForce
