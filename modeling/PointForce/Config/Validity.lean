import PointForce.Config.Basic

-- The indices are not looked at: a point that the body does not have is skipped when the rows are
-- written.

namespace PointForce

inductive ConfigFault (α : Type)
  | directionNotFinite (direction : Vec3 α)
  | notFinite (parameter : Parameter) (value : α)
  | crossedForces (min max : α)
  | negative (parameter : Parameter) (value : α)
  | unusableScale (scale : α)
  deriving DecidableEq, Repr

namespace Config

variable {α : Type} [Scalar α]

def faults (c : Config α) : List (ConfigFault α) :=
  direction ++ finite ++ crossed ++ negative .maxForceVariation c.maxForceVariation ++
    negative .penalty c.penalty ++ scale
where
  direction :=
    if c.direction.isFinite then [] else [.directionNotFinite c.direction]
  finite :=
    c.optional.filterMap fun (p, value) =>
      value.bind fun v => if Scalar.isFinite v then none else some (.notFinite p v)
  crossed :=
    match c.minForce, c.maxForce with
    | some lo, some hi => if lo > hi then [.crossedForces lo hi] else []
    | _,       _       => []
  negative (p : Parameter) : Option α → List (ConfigFault α)
    | some v => if v < 0 then [.negative p v] else []
    | none   => []
  scale :=
    if Scalar.isFinite c.visuScale ∧ c.visuScale ≥ 0 then [] else [.unusableScale c.visuScale]

def Valid (c : Config α) : Prop :=
  c.faults = []

def fault? (c : Config α) : Option (ConfigFault α) :=
  c.faults.head?

theorem fault?_eq_none_iff {c : Config α} : c.fault? = none ↔ c.Valid := by
  simp [fault?, Valid]

instance (c : Config α) : Decidable c.Valid :=
  decidable_of_iff _ (Option.isNone_iff_eq_none.trans fault?_eq_none_iff)

def validate (c : Config α) : Except (ConfigFault α) Unit :=
  match c.fault? with
  | none       => .ok ()
  | some fault => .error fault

theorem validate_eq_ok_iff {c : Config α} : c.validate = .ok () ↔ c.Valid := by
  rw [← fault?_eq_none_iff, validate]
  split <;> simp_all

theorem validate_eq_error_iff {c : Config α} {fault : ConfigFault α} :
    c.validate = .error fault ↔ c.fault? = some fault := by
  rw [validate]
  split <;> simp_all

end Config
end PointForce
