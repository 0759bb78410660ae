import PointForce.Actuator.Basic
import PointForce.Drawing.Recorder

namespace PointForce.Actuator

variable {α : Type} [Scalar α] [Elementary α]

-- A fixed force is drawn along its direction, with the logarithm of its size.
def arrowShape (a : Actuator α) : Vec3 α × α :=
  let component (axis : Nat) := a.force[axis]?.getD 0
  match a.mode with
  | .free    => (⟨component 0, component 1, component 2⟩, a.config.visuScale)
  | .fixed d => (d, Elementary.log (component 0 + 1) * a.config.visuScale)

def arrows (a : Actuator α) (body : Body α) : List (Arrow α) :=
  (a.points body).filterMap fun point => do
    let tip ← body.position point
    Arrow.endingAt? tip a.arrowShape.1 a.arrowShape.2

def draw (a : Actuator α) (body : Body α) (showForces : Bool) : List (DrawCall α) :=
  if showForces ∧ a.config.showForce then
    [.lighting true] ++ (a.arrows body).map .arrow ++ [.restore]
  else
    []

end PointForce.Actuator
