import PointForce.Scalar

namespace PointForce

@[ext]
structure Vec3 (α : Type) where
  x : α
  y : α
  z : α
  deriving DecidableEq, Repr

namespace Vec3

variable {α : Type}

def toList (v : Vec3 α) : List α :=
  [v.x, v.y, v.z]

def ofList? : List α → Option (Vec3 α)
  | x :: y :: z :: _ => some ⟨x, y, z⟩
  | _                => none

def map {β : Type} (f : α → β) (v : Vec3 α) : Vec3 β :=
  ⟨f v.x, f v.y, f v.z⟩

instance [Zero α] : Zero (Vec3 α) where
  zero := ⟨0, 0, 0⟩

def axes [Zero α] [One α] : List (Vec3 α) :=
  [⟨1, 0, 0⟩, ⟨0, 1, 0⟩, ⟨0, 0, 1⟩]

def isFinite [Scalar α] (v : Vec3 α) : Bool :=
  v.toList.all Scalar.isFinite

-- The squares are added from the left, which fixes the rounding.
def norm [Scalar α] [Elementary α] (v : Vec3 α) : α :=
  Elementary.sqrt (v.x * v.x + v.y * v.y + v.z * v.z)

end Vec3
end PointForce
