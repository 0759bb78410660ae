import PointForce.Vec3

namespace PointForce

inductive Parameter
  | indices
  | direction
  | maxForce
  | minForce
  | initForce
  | maxForceVariation
  | penalty
  | showForce
  | visuScale
  deriving DecidableEq, Repr

namespace Parameter

-- The order of declaration, which is that of a configuration that is given by position.
def all : List Parameter :=
  [indices, direction, maxForce, minForce, initForce, maxForceVariation, penalty, showForce,
    visuScale]

theorem mem_all (p : Parameter) : p ∈ all := by
  cases p <;> decide

theorem nodup_all : all.Nodup := by
  decide

def key : Parameter → String
  | indices           => "indices"
  | direction         => "direction"
  | maxForce          => "maxForce"
  | minForce          => "minForce"
  | initForce         => "initForce"
  | maxForceVariation => "maxForceVariation"
  | penalty           => "penalty"
  | showForce         => "showForce"
  | visuScale         => "visuScale"

theorem key_injective {p q : Parameter} (h : p.key = q.key) : p = q := by
  cases p <;> cases q <;> simp [key] at h ⊢

def ofKey? (k : String) : Option Parameter :=
  all.find? (·.key = k)

theorem ofKey?_eq_some_iff {k : String} {p : Parameter} : ofKey? k = some p ↔ p.key = k where
  mp h  := by simpa using List.find?_some h
  mpr h := by
    subst h
    cases p <;> decide

end Parameter

-- Whether a limit was given at all changes how the bounds are computed. So a parameter without a
-- value is not one with the value zero.
@[ext]
structure Config (α : Type) where
  indices           : List Nat
  direction         : Vec3 α
  maxForce          : Option α
  minForce          : Option α
  initForce         : Option α
  maxForceVariation : Option α
  penalty           : Option α
  showForce         : Bool
  visuScale         : α
  deriving DecidableEq, Repr

namespace Config

variable {α : Type} [Scalar α]

def unset : Config α where
  indices           := []
  direction         := 0
  maxForce          := none
  minForce          := none
  initForce         := none
  maxForceVariation := none
  penalty           := none
  showForce         := false
  visuScale         := 0.1

def optional (c : Config α) : List (Parameter × Option α) :=
  [(.maxForce, c.maxForce), (.minForce, c.minForce), (.initForce, c.initForce),
    (.maxForceVariation, c.maxForceVariation), (.penalty, c.penalty)]

end Config
end PointForce
