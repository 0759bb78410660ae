import PointForce.Body
import PointForce.Config.Validity
import PointForce.Limits
import PointForce.Matrix.Basic

-- A force at points of a body: one scalar along a fixed direction, or three along the axes.

namespace PointForce

@[ext]
structure History (α : Type) where
  iterations  : Nat    := 0
  multipliers : List α := []
  deltas      : List α := []
  deriving DecidableEq, Repr

def History.record {α : Type} (h : History α) (multipliers deltas : List α) : History α where
  iterations := h.iterations + 1
  multipliers
  deltas

@[ext]
structure Actuator (α : Type) where
  name    : String
  config  : Config α
  state   : State α
  active  : Bool
  history : History α
  deriving DecidableEq, Repr

namespace Actuator

variable {α : Type} [Scalar α]

def new (name : String) (config : Config α) : Actuator α where
  name
  config
  state   := .unresolved
  active  := false
  history := {}

def dimension (a : Actuator α) : Nat :=
  a.state.dimension

-- In units of the solver: an impulse for each time step.
def force (a : Actuator α) : List α :=
  a.state.force

def physicalForce (a : Actuator α) (timeStep : α) : List α :=
  a.force.map (· / timeStep)

def bounds (a : Actuator α) : Bounds α :=
  a.state.bounds

def updateLimits (a : Actuator α) : Logged (Actuator α) :=
  (a.state.updateLimits a.config).map fun state => { a with state }

-- A slice that is too short leaves the force on the further axes as it was.
def store (a : Actuator α) (multipliers deltas : List α) : Logged (Actuator α) :=
  let short : List Event := if multipliers.length < a.force.length then [.shortMultipliers] else []
  let state :=
    { a.state with
      displacement := deltas.head?.getD a.state.displacement
      force        := Buffer.overwrite multipliers a.force }
  let stored := { a with state }.updateLimits
  { value  := { stored.value with history := a.history.record multipliers deltas }
    events := short ++ stored.events }

-- The violation is not known while the rows are written, so each own row reports zero.
def violation (a : Actuator α) (violations : List α) : List α :=
  Buffer.fillRange a.state.firstRow (a.state.firstRow + a.state.dimension) 0 violations

variable [Elementary α]

def mode (a : Actuator α) : Mode α :=
  a.config.mode

def reinit (a : Actuator α) : Logged (Actuator α) :=
  ((a.state.resolve a.config).initLimits a.config).map fun state =>
    { a with state, history := {} }

-- That there is no body is no fault, but worth an error message.
def init (a : Actuator α) (body : Option (Body α)) :
    Except (ConfigFault α) Unit × Logged (Actuator α) :=
  match a.config.fault? with
  | some fault => (.error fault, { value := { a with active := false } })
  | none       =>
    let missing : List Event := if body.isNone then [.missingBody a.name] else []
    (.ok (), (a.reinit.map fun a => { a with active := body.isSome }).noting missing)

def setConfig (a : Actuator α) (config : Config α) :
    Except (ConfigFault α) (Logged (Actuator α)) :=
  match config.fault? with
  | some fault => .error fault
  | none       => .ok { a with config }.reinit

def points (a : Actuator α) (body : Body α) : List Nat :=
  a.config.indices.filter (· < body.size)

def writeRows (points : List Nat) :
    List (Vec3 α) → Nat → ConstraintMatrix α → ConstraintMatrix α
  | [],      _,   m => m
  | d :: ds, row, m => writeRows points ds (row + 1) (m.write row (points.map (⟨·, d⟩)))

def build (a : Actuator α) (body : Body α) (m : ConstraintMatrix α) (firstRow : Nat) :
    Actuator α × ConstraintMatrix α :=
  ({ a with state := { a.state with firstRow, rowCount := a.mode.dimension } },
    writeRows (a.points body) a.mode.rowDirections firstRow m)

end Actuator
end PointForce
