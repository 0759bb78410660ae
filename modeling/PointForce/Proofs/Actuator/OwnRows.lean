import PointForce.Proofs.Actuator.Operations

namespace PointForce

theorem Buffer.getElem?_fillRange {α : Type} (start stop : Nat) (value : α) (xs : List α)
    (i : Nat) :
    (fillRange start stop value xs)[i]? =
      xs[i]?.map fun x => if start ≤ i ∧ i < stop then value else x := by
  simp [fillRange, patch]

namespace Actuator

section Write

variable {α : Type} {points : List Nat}

-- Writing goes down from the first row.
theorem row?_writeRows_of_not_mem : ∀ {ds : List (Vec3 α)} {row other : Nat}
    {m : ConstraintMatrix α}, ¬ (row ≤ other ∧ other < row + ds.length) →
    (writeRows points ds row m).row? other = m.row? other
  | [],      _,   _,     _, _ => rfl
  | d :: ds, row, other, m, h => by
    rw [List.length_cons] at h
    have ne : other ≠ row := by omega
    have outside : ¬ (row + 1 ≤ other ∧ other < row + 1 + ds.length) := by omega
    rw [writeRows, row?_writeRows_of_not_mem outside, ConstraintMatrix.row?_write_of_ne _ _ ne]

theorem row?_writeRows : ∀ {ds : List (Vec3 α)} {row axis : Nat} {d : Vec3 α}
    {m : ConstraintMatrix α}, ds[axis]? = some d →
    (writeRows points ds row m).row? (row + axis) =
      some ((m.row? (row + axis)).getD [] ++ points.map (⟨·, d⟩))
  | _ :: ds, row, 0,        _, m, rfl => by
    have outside : ¬ (row + 1 ≤ row ∧ row < row + 1 + ds.length) := by omega
    rw [Nat.add_zero, writeRows, row?_writeRows_of_not_mem outside, ConstraintMatrix.row?_write_self]
  | e :: ds, row, axis + 1, d, m, h => by
    have ne : row + 1 + axis ≠ row := by omega
    rw [writeRows, Nat.add_comm axis, ← Nat.add_assoc,
      row?_writeRows (List.getElem?_cons_succ.symm.trans h), ConstraintMatrix.row?_write_of_ne _ _ ne]

end Write

variable {α : Type} [Scalar α] [Elementary α]

-- Each own row is open afterwards, with a block for each configured point of the body behind what
-- it held before, and each reports zero.
structure WritesOwn (a : Actuator α) (body : Body α) (before : ConstraintMatrix α) (row : Nat)
    (built : Actuator α × ConstraintMatrix α) : Prop where
  count     : built.1.state.rowCount = a.dimension
  own       : ∀ axis, axis < a.dimension → ∃ d, a.mode.rowDirection? axis = some d ∧
    built.2.row? (row + axis) =
      some ((before.row? (row + axis)).getD [] ++
        (a.config.indices.filter (· < body.size)).map (⟨·, d⟩))
  others    : ∀ other, ¬ (row ≤ other ∧ other < row + a.dimension) →
    built.2.row? other = before.row? other
  violation : ∀ (violations : List α) (r : Nat), (built.1.violation violations)[r]? =
    violations[r]?.map fun v => if row ≤ r ∧ r < row + a.dimension then 0 else v

-- The rows come from the configuration, the zeros from the state, and both are the same rows.
theorem writesOwn_build {a : Actuator α} (resolved : a.dimension = a.config.dimension)
    (body : Body α) (m : ConstraintMatrix α) (row : Nat) :
    a.WritesOwn body m row (a.build body m row) := by
  have axes : a.mode.rowDirections.length = a.dimension :=
    a.mode.length_rowDirections.trans resolved.symm
  constructor
  case count => exact resolved.symm
  case own =>
    intro axis lt
    have within : axis < a.mode.dimension := resolved.subst lt
    have listed := List.getElem?_eq_getElem (axes ▸ lt)
    exact ⟨_, (Mode.rowDirection?_eq_getElem? within).trans listed, row?_writeRows listed⟩
  case others    => exact fun _ outside => row?_writeRows_of_not_mem (axes ▸ outside)
  case violation => exact fun violations r => Buffer.getElem?_fillRange ..

def repeatingConfig : Config Float :=
  { Config.unset with indices := [3, 0, 3, 7] }

theorem writesOwn_build_of_repeating :
    let a := ((new "wander" repeatingConfig).init none).2.value
    let body : Body Float := .ofPoints 4 []
    let before := (ConstraintMatrix.empty.write 3 [⟨9, ⟨5, 5, 5⟩⟩]).write 8 [⟨1, ⟨5, 5, 5⟩⟩]
    let built := a.build body before 2
    a.dimension = a.config.dimension ∧ a.WritesOwn body before 2 built ∧
      built.2.row? 3 =
        some [⟨9, ⟨5, 5, 5⟩⟩, ⟨3, ⟨0, 1, 0⟩⟩, ⟨0, ⟨0, 1, 0⟩⟩, ⟨3, ⟨0, 1, 0⟩⟩] ∧
      built.1.violation [7, 7, 7, 7] = [7, 7, 0, 0] := by
  intro a body before built
  have resolved : a.dimension = a.config.dimension := by decide +kernel
  exact ⟨resolved, writesOwn_build resolved body before 2, by decide +kernel, by decide +kernel⟩

end Actuator
end PointForce
