import PointForce.Event
import PointForce.State

-- The box of forces that the solver may choose from.

namespace PointForce.State

variable {α : Type} [Scalar α]

-- A side without an absolute limit always follows the force. One with a limit does so only at
-- `delta` or more from it.
def recentreAxis (delta : α) (floor ceiling : Option α) (force lo hi : α) : α × α :=
  (if Scalar.abs (lo - force) ≥ delta ∨ floor.isNone then force - delta else lo,
    if Scalar.abs (hi - force) ≥ delta ∨ ceiling.isNone then force + delta else hi)

def recentre (delta : α) (floor ceiling : Option α) : List α → List α → List α → List α × List α
  | f :: fs, lo :: los, hi :: his =>
    let (lo, hi)   := recentreAxis delta floor ceiling f lo hi
    let (los, his) := recentre delta floor ceiling fs los his
    (lo :: los, hi :: his)
  | _, los, his => (los, his)

theorem length_recentre (delta : α) (floor ceiling : Option α) : ∀ fs los his : List α,
    (recentre delta floor ceiling fs los his).1.length = los.length ∧
    (recentre delta floor ceiling fs los his).2.length = his.length
  | _ :: fs, _ :: los, _ :: his => by
    simp [recentre, length_recentre delta floor ceiling fs los his]
  | [],     _,      _      => by simp [recentre]
  | _ :: _, [],     _      => by simp [recentre]
  | _ :: _, _ :: _, []     => by simp [recentre]

def broadcast (limit : Option α) (values : List α) : List α :=
  match limit with
  | some v => values.map fun _ => v
  | none   => values

-- The absolute limits come first, so the band of an earlier force does not survive them.
def limit (c : Config α) (s : State α) : State α :=
  let lower := broadcast c.minForce s.lower.values
  let upper := broadcast c.maxForce s.upper.values
  let sides :=
    match c.maxForceVariation with
    | some delta => recentre delta c.minForce c.maxForce s.force lower upper
    | none       => (lower, upper)
  { s with
    lower := { s.lower with values := sides.1 }
    upper := { s.upper with values := sides.2 } }

-- A band needs both sides, so a maximal variation turns both on.
def activate (c : Config α) (s : State α) : State α :=
  { s with
    lower := { s.lower with active := c.minForce.isSome || c.maxForceVariation.isSome }
    upper := { s.upper with active := c.maxForce.isSome || c.maxForceVariation.isSome } }

def reportCrossing (s : State α) : Logged (State α) where
  value  := s
  events := if s.Ordered then [] else [.crossedBounds]

def updateLimits (c : Config α) (s : State α) : Logged (State α) :=
  (s.limit c).reportCrossing

def initLimits (c : Config α) (s : State α) : Logged (State α) :=
  (s.activate c).updateLimits c

end PointForce.State
