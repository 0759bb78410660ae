import PointForce.Vec3

namespace PointForce

structure Color where
  red   : Float32
  green : Float32
  blue  : Float32
  alpha : Float32

def Color.force : Color where
  red   := 0
  green := 0
  blue  := 0.8
  alpha := 1

structure Arrow (α : Type) where
  start        : Vec3 α
  tip          : Vec3 α
  radius       : α
  color        : Color
  subdivisions : Nat

namespace Arrow

variable {α : Type} [Scalar α] [Elementary α]

def radiusRatio : α :=
  0.05

def startOf (tip axis : Vec3 α) (length : α) : Vec3 α :=
  ⟨tip.x - axis.x * length, tip.y - axis.y * length, tip.z - axis.z * length⟩

def radiusOf (axis : Vec3 α) (length : α) : α :=
  axis.norm * Scalar.abs length * radiusRatio

-- There is none whose start or radius is not finite.
def endingAt? (tip axis : Vec3 α) (length : α) : Option (Arrow α) :=
  if (startOf tip axis length).isFinite ∧ Scalar.isFinite (radiusOf axis length) then
    some
      { start        := startOf tip axis length
        tip
        radius       := radiusOf axis length
        color        := .force
        subdivisions := 4 }
  else
    none

end Arrow
end PointForce
