import PointForce.Drawing.Arrow

-- What a drawing tool is asked to do, and a tool that keeps it instead of showing it.

namespace PointForce

inductive DrawCall (α : Type)
  | lighting (enabled : Bool)
  | arrow (a : Arrow α)
  | restore

structure Recorder (α : Type) where
  arrows   : List (Arrow α) := []
  lighting : Bool           := false
  saved    : List Bool      := []

namespace Recorder

variable {α : Type}

def setLighting (r : Recorder α) (enabled : Bool) : Recorder α :=
  { r with lighting := enabled, saved := r.lighting :: r.saved }

def drawArrow (r : Recorder α) (a : Arrow α) : Recorder α :=
  { r with arrows := r.arrows ++ [a] }

def restoreLighting (r : Recorder α) : Recorder α :=
  match r.saved with
  | []               => r
  | previous :: rest => { r with lighting := previous, saved := rest }

def perform (r : Recorder α) : DrawCall α → Recorder α
  | .lighting enabled => r.setLighting enabled
  | .arrow a          => r.drawArrow a
  | .restore          => r.restoreLighting

def performAll (r : Recorder α) : List (DrawCall α) → List (Recorder α)
  | []            => []
  | call :: calls => r.perform call :: (r.perform call).performAll calls

def run (r : Recorder α) (calls : List (DrawCall α)) : Recorder α :=
  calls.foldl perform r

end Recorder
end PointForce
