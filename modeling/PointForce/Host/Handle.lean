import PointForce.Document.Config
import PointForce.Host.Arrays
import PointForce.Matrix.Word

namespace PointForce.Host

structure Handle where
  actuator : Actuator Float
  cloud    : Option (PointCloud Float) := none
  matrix   : ConstraintMatrix Float    := .empty

namespace Handle

def terminated (bytes : List UInt8) : List UInt8 :=
  bytes.takeWhile (· ≠ 0)

def create (name config : Option (List UInt8)) : Except Error Handle :=
  match name, config with
  | none,      _           => .error (.nullPointer .name)
  | some _,    none        => .error (.nullPointer .config)
  | some name, some config =>
    match Text.decode? (terminated config) with
    | .error fault => .error (.configEncoding fault)
    | .ok text     =>
      (Config.ofDocument text).map fun c =>
        { actuator := .new (Text.decodeLossy (terminated name)) c }

-- Nothing is read from an array of length zero, so it may be missing.
def array? (argument : Argument) (values : Option (List Float)) (length : Nat) :
    Except Error (List Float) :=
  match values, length with
  | _,           0 => .ok []
  | none,        _ => .error (.nullPointer argument)
  | some values, n => .ok (values.take n)

def setPositions (h : Handle) (coords : Option (List Float)) (points : Nat) :
    Except Error (Logged Handle) := do
  let coords ← array? .positions coords (3 * points)
  match PointCloud.ofFlat coords with
  | .error fault => .error (.shape fault)
  | .ok cloud    => .ok { value := { h with cloud := some cloud } }

def store (h : Handle) (multipliers : Option (List Float)) (multiplierCount : Nat)
    (deltas : Option (List Float)) (deltaCount : Nat) : Except Error (Logged Handle) := do
  let multipliers ← array? .multipliers multipliers multiplierCount
  let deltas      ← array? .deltas deltas deltaCount
  .ok ((h.actuator.store multipliers deltas).map fun actuator => { h with actuator })

def reinit (h : Handle) : Logged Handle :=
  h.actuator.reinit.map fun actuator => { h with actuator }

def init (h : Handle) : Except (ConfigFault Float) Unit × Logged Handle :=
  let (result, logged) := h.actuator.init (h.cloud.map PointCloud.body)
  (result, logged.map fun actuator => { h with actuator })

def points (h : Handle) : PointCloud Float :=
  h.cloud.getD .empty

def build (h : Handle) (firstRow : Nat) : Handle :=
  let (actuator, matrix) := h.actuator.build h.points.body .empty firstRow
  { h with actuator, matrix := matrix.wrapped }

def triplets (h : Handle) : List (Triplet Float) :=
  h.matrix.triplets h.points.size

end Handle
end PointForce.Host
