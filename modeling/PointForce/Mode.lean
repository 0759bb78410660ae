import PointForce.Config.Basic

namespace PointForce

inductive Mode (α : Type)
  | free
  | fixed (direction : Vec3 α)
  deriving DecidableEq, Repr

namespace Mode

variable {α : Type} [Scalar α]

def dimension : Mode α → Nat
  | free    => 3
  | fixed _ => 1

def rowDirections : Mode α → List (Vec3 α)
  | free    => Vec3.axes
  | fixed d => [d]

@[simp]
theorem length_rowDirections (m : Mode α) : m.rowDirections.length = m.dimension := by
  cases m <;> rfl

-- A fixed direction answers for every axis. A free one has no axis but the three of space.
def rowDirection? : Mode α → Nat → Option (Vec3 α)
  | free,    axis => Vec3.axes[axis]?
  | fixed d, _    => some d

theorem rowDirection?_eq_getElem? {m : Mode α} {axis : Nat} (h : axis < m.dimension) :
    m.rowDirection? axis = m.rowDirections[axis]? := by
  cases m
  case free    => rfl
  case fixed d =>
    have : axis = 0 := by simpa [dimension] using h
    simp [rowDirection?, rowDirections, this]

end Mode

namespace Config

variable {α : Type} [Scalar α] [Elementary α]

def freeTolerance : α :=
  1e-10

def mode (c : Config α) : Mode α :=
  let n := c.direction.norm
  if n < freeTolerance then .free else .fixed (c.direction.map (· / n))

def dimension (c : Config α) : Nat :=
  c.mode.dimension

end Config
end PointForce
