import PointForce.Shape
import PointForce.Table

namespace PointForce

-- A host may count a point without knowing its position, and know the position of one that it does
-- not count.
structure Body (α : Type) where
  size     : Nat
  position : Nat → Option (Vec3 α)

namespace Body

variable {α : Type}

def ofPoints (size : Nat) (points : List (Vec3 α)) : Body α where
  size
  position i := points[i]?

end Body

@[ext]
structure PointCloud (α : Type) where
  points : List (Vec3 α)
  deriving DecidableEq, Repr

namespace PointCloud

variable {α : Type}

def empty : PointCloud α :=
  ⟨[]⟩

def size (cloud : PointCloud α) : Nat :=
  cloud.points.length

def position (cloud : PointCloud α) (i : Nat) : Option (Vec3 α) :=
  cloud.points[i]?

def body (cloud : PointCloud α) : Body α where
  size     := cloud.size
  position := cloud.position

def flat (cloud : PointCloud α) : List α :=
  cloud.points.flatMap Vec3.toList

def pointsOfFlat : List α → List (Vec3 α)
  | x :: y :: z :: rest => ⟨x, y, z⟩ :: pointsOfFlat rest
  | _                   => []

theorem pointsOfFlat_flat (cloud : PointCloud α) : pointsOfFlat cloud.flat = cloud.points := by
  obtain ⟨points⟩ := cloud
  induction points
  case nil            => rfl
  case cons p rest ih => exact congrArg (p :: ·) ih

def ofFlat (coords : List α) : Except ShapeFault (PointCloud α) :=
  if coords.length % 3 = 0 then .ok ⟨pointsOfFlat coords⟩ else .error (.flatLength coords.length)

def ofTable (t : Table α) : Except ShapeFault (PointCloud α) :=
  if t.columns = 3 then .ok ⟨t.vectors⟩ else .error (.columns t.columns)

end PointCloud
end PointForce
