import PointForce.Matrix.Basic
import PointForce.Table

namespace PointForce

variable {α : Type} [Scalar α]

def Vec3.addDot (sum : α) (u v : Vec3 α) : α :=
  sum + u.x * v.x + u.y * v.y + u.z * v.z

def Vec3.addScaled (sum v : Vec3 α) (factor : α) : Vec3 α :=
  ⟨sum.x + v.x * factor, sum.y + v.y * factor, sum.z + v.z * factor⟩

namespace Block

def addMotion (motion : List (Vec3 α)) (sum : α) (b : Block α) : α :=
  match motion[b.point]? with
  | some d => Vec3.addDot sum b.coefficients d
  | none   => sum

def addForce (point : Nat) (multiplier : α) (sum : Vec3 α) (b : Block α) : Vec3 α :=
  if b.point = point then Vec3.addScaled sum b.coefficients multiplier else sum

end Block

namespace ConstraintMatrix

def project (m : ConstraintMatrix α) (motion : List (Vec3 α)) : List α :=
  (List.range m.numRows).map fun row =>
    ((m.row? row).getD []).foldl (Block.addMotion motion) 0

-- The table has to be three columns wide as soon as a block looks into it.
def projectTable? (m : ConstraintMatrix α) (t : Table α) : Option (List α) :=
  if t.columns < 3 ∧ ∃ b ∈ m.blocks, b.point < t.rows.length then
    none
  else
    some (m.project t.vectors)

def applyTranspose (m : ConstraintMatrix α) (multipliers : List α) (points : Nat) :
    List (Vec3 α) :=
  (List.range points).map fun point =>
    m.rows.foldl (fun sum (row, blocks) =>
      match multipliers[row]? with
      | some l => blocks.foldl (Block.addForce point l) sum
      | none   => sum) 0

end ConstraintMatrix
end PointForce
