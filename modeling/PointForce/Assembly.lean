import PointForce.Actuator.Draw
import PointForce.Matrix.Csr

-- Several actuators in one constraint system. The solving is left to others.

namespace PointForce

-- The rows from `start` up to, but not including, `stop`.
@[ext]
structure RowRange where
  start : Nat := 0
  stop  : Nat := 0
  deriving DecidableEq, Repr

namespace RowRange

def length (r : RowRange) : Nat :=
  r.stop - r.start

def isEmpty (r : RowRange) : Bool :=
  r.stop ≤ r.start

def slice {α : Type} (r : RowRange) (xs : List α) : List α :=
  Buffer.slice r.start r.stop xs

end RowRange

@[ext]
structure Member (α : Type) where
  actuator : Actuator α
  rows     : RowRange := {}
  deriving DecidableEq, Repr

@[ext]
structure SystemBounds (α : Type) where
  lower        : List α
  upper        : List α
  initialGuess : List α
  penalties    : List (Option α)
  deriving DecidableEq, Repr

@[ext]
structure Assembly (α : Type) where
  members : List (Member α)
  matrix  : ConstraintMatrix α
  numRows : Nat
  deriving DecidableEq, Repr

namespace Member

variable {α : Type} [Scalar α]

def side (m : Member α) (bound : Bounds α → Option (List α)) (axis : Nat) : Option α :=
  (bound m.actuator.bounds).bind (·[axis]?)

def patch {β : Type} (cell : Member α → Nat → Option β) (column : List β) (m : Member α) : List β :=
  Buffer.patch m.rows.start m.rows.stop (cell m) column

def store (m : Member α) (multipliers deltas : List α) : Logged (Member α) :=
  if m.rows.isEmpty then
    { value := m }
  else
    (m.actuator.store (m.rows.slice multipliers) (m.rows.slice deltas)).map fun actuator =>
      { m with actuator }

variable [Elementary α]

def init (m : Member α) (body : Option (Body α)) :
    Option (ConfigFault α) × Logged (Member α) :=
  let (result, logged) := m.actuator.init body
  let logged := logged.map fun actuator => { m with actuator }
  match result with
  | .ok ()        => (none, logged)
  | .error fault  => (some fault, logged.noting [.leftInactive m.actuator.name])

end Member

namespace Assembly

variable {α : Type} [Scalar α]

def empty : Assembly α where
  members := []
  matrix  := .empty
  numRows := 0

def add (s : Assembly α) (actuator : Actuator α) : Assembly α :=
  { s with members := s.members ++ [{ actuator }] }

def actuator? (s : Assembly α) (id : Nat) : Option (Actuator α) :=
  s.members[id]?.map Member.actuator

def rowsOf? (s : Assembly α) (id : Nat) : Option RowRange :=
  s.members[id]?.map Member.rows

def jacobian (s : Assembly α) (points : Nat) : Csr α :=
  s.matrix.toCsr points

def violations (s : Assembly α) : List α :=
  s.members.foldl
    (fun res m => if m.rows.isEmpty then res else m.actuator.violation res)
    (List.replicate s.numRows 0)

def gather {β : Type} (cell : Member α → Nat → Option β) (missing : β) (s : Assembly α) : List β :=
  s.members.foldl (Member.patch cell) (List.replicate s.numRows missing)

def bounds [Extended α] (s : Assembly α) : SystemBounds α where
  lower        := s.gather (·.side Bounds.lower) Extended.negInfinity
  upper        := s.gather (·.side Bounds.upper) Extended.infinity
  initialGuess := s.gather (·.side Bounds.guess) 0
  penalties    := s.gather (fun m _ => some m.actuator.bounds.penalty) none

def storeAll (multipliers deltas : List α) : List (Member α) → Logged (List (Member α))
  | []      => { value := [] }
  | m :: ms =>
    (m.store multipliers deltas).andThen fun m =>
      (storeAll multipliers deltas ms).map (m :: ·)

def store (s : Assembly α) (multipliers deltas : List α) :
    Except ShapeFault (Logged (Assembly α)) :=
  if multipliers.length = s.numRows ∧ deltas.length = s.numRows then
    .ok ((storeAll multipliers deltas s.members).map fun members => { s with members })
  else
    .error (.solutionLength s.numRows multipliers.length deltas.length)

variable [Elementary α]

def initMembers (body : Option (Body α)) :
    List (Member α) → Option (ConfigFault α) × Logged (List (Member α))
  | []      => (none, { value := [] })
  | m :: ms =>
    let (fault, first) := m.init body
    let (later, rest)  := initMembers body ms
    (fault.or later, first.andThen fun m => rest.map (m :: ·))

-- A member that fails does not keep the others from being initialised. The first fault is returned.
def init (s : Assembly α) (body : Option (Body α)) :
    Option (ConfigFault α) × Logged (Assembly α) :=
  let (fault, logged) := initMembers body s.members
  (fault, logged.map fun members => { s with members })

-- The members that are not active get an empty range between the others.
def layOut (body : Body α) :
    List (Member α) → Nat → ConstraintMatrix α → List (Member α) × Nat × ConstraintMatrix α
  | [],      offset, matrix => ([], offset, matrix)
  | m :: ms, offset, matrix =>
    if m.actuator.active then
      let (actuator, matrix) := m.actuator.build body matrix offset
      let stop               := offset + actuator.state.rowCount
      let (ms, rest)         := layOut body ms stop matrix
      ({ actuator, rows := ⟨offset, stop⟩ } :: ms, rest)
    else
      let (ms, rest) := layOut body ms offset matrix
      ({ m with rows := ⟨offset, offset⟩ } :: ms, rest)

def build (s : Assembly α) (body : Body α) : Assembly α :=
  let (members, numRows, matrix) := layOut body s.members 0 .empty
  { members, matrix, numRows }

def draw (s : Assembly α) (body : Body α) (showForces : Bool) : List (DrawCall α) :=
  (s.members.filter (·.actuator.active)).flatMap (·.actuator.draw body showForces)

end Assembly
end PointForce
