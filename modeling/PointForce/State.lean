import PointForce.Buffer
import PointForce.Mode

namespace PointForce

@[ext]
structure Bound (α : Type) where
  values : List α := []
  active : Bool   := false
  deriving DecidableEq, Repr

def Bound.exposed {α : Type} (b : Bound α) : Option (List α) :=
  if b.active then some b.values else none

@[ext]
structure Bounds (α : Type) where
  lower   : Option (List α)
  upper   : Option (List α)
  guess   : Option (List α)
  penalty : Option α
  deriving DecidableEq, Repr

@[ext]
structure State (α : Type) where
  dimension    : Nat
  force        : List α
  displacement : α
  lower        : Bound α
  upper        : Bound α
  guess        : Bound α
  penalty      : Option α
  firstRow     : Nat
  rowCount     : Nat
  deriving DecidableEq, Repr

namespace State

variable {α : Type} [Scalar α]

def unresolved : State α where
  dimension    := 0
  force        := []
  displacement := 0
  lower        := {}
  upper        := {}
  guess        := {}
  penalty      := none
  firstRow     := 0
  rowCount     := 0

def bounds (s : State α) : Bounds α where
  lower   := s.lower.exposed
  upper   := s.upper.exposed
  guess   := s.guess.exposed
  penalty := s.penalty

-- This holds trivially where one of the sides is missing.
def Ordered (s : State α) : Prop :=
  s.lower.active → s.upper.active → ∀ p ∈ s.lower.values.zip s.upper.values, p.1 ≤ p.2

instance (s : State α) : Decidable s.Ordered :=
  inferInstanceAs (Decidable (_ → _ → _))

-- Only the first axis takes the initial force as its guess.
def seed (init : Option α) (values : List α) : List α :=
  match init with
  | some v => values.set 0 v
  | none   => values

variable [Elementary α]

-- The bounds get their lengths only; `Limits` computes their values. Displacement and first row are
-- results of the solve, not of the configuration, and stay.
def resolve (c : Config α) (s : State α) : State α where
  dimension    := c.dimension
  force        := List.replicate c.dimension (c.initForce.getD 0)
  displacement := s.displacement
  lower        := { s.lower with values := Buffer.resize c.dimension 0 s.lower.values }
  upper        := { s.upper with values := Buffer.resize c.dimension 0 s.upper.values }
  guess        :=
    { values := seed c.initForce (Buffer.resize c.dimension 0 s.guess.values)
      active := c.initForce.isSome }
  penalty      := c.penalty
  firstRow     := s.firstRow
  rowCount     := c.dimension

end State
end PointForce
