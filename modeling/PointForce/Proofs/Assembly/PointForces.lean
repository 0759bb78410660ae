import Mathlib.Algebra.BigOperators.Group.List.Basic
import Mathlib.Algebra.Order.Ring.Rat
import PointForce.Proofs.Assembly.Exchange
import PointForce.Proofs.Assembly.Written
import PointForce.Proofs.Matrix.Products

-- In exact arithmetic, the forces that the matrix makes of the multipliers are those that the
-- members took from them.

namespace PointForce

namespace Actuator

variable [Elementary ℚ]

def forceVector (a : Actuator ℚ) : Vec3 ℚ :=
  match a.mode with
  | .free    => ⟨a.force.getD 0 0, a.force.getD 1 0, a.force.getD 2 0⟩
  | .fixed d => d.scale (a.force.getD 0 0)

-- A point that is given several times is pulled as often, and one that the body lacks not at all.
def pull (size point : Nat) (a : Actuator ℚ) : Vec3 ℚ :=
  (if point < size then a.config.indices.count point else 0) • a.forceVector

omit [Elementary ℚ] in
theorem count_points (a : Actuator ℚ) (body : Body ℚ) (point : Nat) :
    (a.points body).count point =
      if point < body.size then a.config.indices.count point else 0 := by
  rw [points]
  split
  case isTrue lt  => exact List.count_filter (by simpa using lt)
  case isFalse ge =>
    exact List.count_eq_zero.mpr fun mem => ge (by simpa using (List.mem_filter.mp mem).right)

theorem sum_zipWith_rowDirections {a : Actuator ℚ} (h : a.force.length = a.mode.dimension) :
    (List.zipWith Vec3.scale a.mode.rowDirections a.force).sum = a.forceVector := by
  rw [forceVector]
  cases mode : a.mode
  case free =>
    obtain ⟨x, y, z, eq⟩ := List.length_eq_three.mp (h.trans (congrArg Mode.dimension mode))
    rw [eq]
    exact Vec3.sum_axes x y z
  case fixed d =>
    obtain ⟨f, eq⟩ := List.length_eq_one_iff.mp (h.trans (congrArg Mode.dimension mode))
    simp [eq, Mode.rowDirections]

end Actuator

namespace ConstraintMatrix

theorem foldl_addForce (point : Nat) (l : ℚ) (d : Vec3 ℚ) : ∀ (points : List Nat) (sum : Vec3 ℚ),
    (points.map (Block.mk · d)).foldl (Block.addForce point l) sum =
      sum + points.count point • d.scale l
  | [],      sum => by simp
  | p :: ps, sum => by
    rw [List.map_cons, List.foldl_cons, foldl_addForce point l d ps, Block.addForce]
    by_cases eq : p = point
    case pos =>
      rw [if_pos eq, eq, List.count_cons_self, succ_nsmul', ← add_assoc, Vec3.addScaled_eq]
    case neg =>
      rw [if_neg eq, List.count_cons_of_ne eq]

theorem foldl_lines {multipliers : List ℚ} (points : List Nat) (point : Nat) :
    ∀ {ds : List (Vec3 ℚ)} {forces : List ℚ} {row : Nat} (sum : Vec3 ℚ),
      forces.length = ds.length →
      (∀ axis, axis < ds.length → multipliers[row + axis]? = forces[axis]?) →
      (Actuator.lines points ds row).foldl (addLine multipliers point) sum =
        sum + points.count point • (List.zipWith Vec3.scale ds forces).sum
  | [],      _,       _,   sum, _,      _     => by simp [Actuator.lines]
  | d :: ds, f :: fs, row, sum, length, owned => by
    have first : multipliers[row]? = some f := owned 0 (Nat.succ_pos _)
    have later : ∀ axis, axis < ds.length → multipliers[row + 1 + axis]? = fs[axis]? := by
      intro axis lt
      have := owned (axis + 1) (Nat.succ_lt_succ lt)
      rwa [← Nat.add_assoc, Nat.add_right_comm, List.getElem?_cons_succ] at this
    have head : addLine multipliers point sum (row, points.map (Block.mk · d)) =
        sum + points.count point • d.scale f := by
      simp only [addLine, first, foldl_addForce]
    rw [Actuator.lines, List.foldl_cons, head,
      foldl_lines points point _ (Nat.succ.inj length) later, List.zipWith_cons_cons,
      List.sum_cons, nsmul_add, add_assoc]

end ConstraintMatrix

namespace Member

variable [Elementary ℚ] {m : Member ℚ}

def pull (size point : Nat) (m : Member ℚ) : Vec3 ℚ :=
  if m.rows.isEmpty then 0 else m.actuator.pull size point

theorem WellFormed.foldl_ownLines (h : m.WellFormed) {multipliers : List ℚ}
    (fits : ¬ m.rows.isEmpty → m.rows.stop ≤ multipliers.length) (deltas : List ℚ) (body : Body ℚ)
    (point : Nat) (sum : Vec3 ℚ) :
    (m.ownLines body).foldl (ConstraintMatrix.addLine multipliers point) sum =
      sum + (m.store multipliers deltas).value.pull body.size point := by
  by_cases empty : m.rows.isEmpty
  case pos => simp [ownLines, store_of_isEmpty, pull, empty]
  case neg =>
    have force := h.force_store empty (fits empty) deltas
    obtain ⟨resolved, _⟩ := h.owner empty
    have length : m.rows.length = m.actuator.mode.dimension :=
      (h.length_rows empty).trans resolved.dimension
    have slice : (m.rows.slice multipliers).length = m.actuator.mode.dimension :=
      (RowRange.length_slice fits).trans length
    rw [actuator_store empty] at force
    have vector := Actuator.sum_zipWith_rowDirections (force ▸ slice)
    rw [ownLines, if_neg empty, pull, rows_store, if_neg empty, actuator_store empty,
      Actuator.pull, ← Actuator.count_points, ← vector, force]
    refine ConstraintMatrix.foldl_lines _ _ _ ?_ fun axis lt => ?_
    · rwa [Mode.length_rowDirections]
    · rw [Mode.length_rowDirections, ← length] at lt
      exact (Buffer.getElem?_slice lt).symm

end Member

namespace Assembly

section

variable [Elementary ℚ]

theorem foldl_flatMap_ownLines {multipliers : List ℚ} (deltas : List ℚ) (body : Body ℚ)
    (point : Nat) : ∀ {ms : List (Member ℚ)} (sum : Vec3 ℚ), (∀ m ∈ ms, m.WellFormed) →
      (∀ m ∈ ms, ¬ m.rows.isEmpty → m.rows.stop ≤ multipliers.length) →
      (ms.flatMap (Member.ownLines body)).foldl (ConstraintMatrix.addLine multipliers point) sum =
        sum + (ms.map fun m => (m.store multipliers deltas).value.pull body.size point).sum
  | [],      sum, _,  _    => by simp
  | m :: ms, sum, wf, fits => by
    have ⟨hm, wf⟩ := List.forall_mem_cons.mp wf
    have ⟨fit, fits⟩ := List.forall_mem_cons.mp fits
    rw [List.flatMap_cons, List.foldl_append, hm.foldl_ownLines fit deltas,
      foldl_flatMap_ownLines deltas body point _ wf fits, List.map_cons, List.sum_cons, add_assoc]

theorem applyTranspose_of_run (calls : List (Call ℚ)) {multipliers deltas : List ℚ}
    (hm : multipliers.length = (empty.run calls).numRows)
    (hd : deltas.length = (empty.run calls).numRows) :
    ∃ t, (empty.run calls).store multipliers deltas = .ok t ∧
      ∀ {points point : Nat}, point < points →
        (t.value.matrix.applyTranspose multipliers points)[point]? =
          some ((t.value.members.map (·.pull (lastBody calls).size point)).sum) := by
  refine ⟨_, store_of_length hm hd, fun {_ point} lt => ?_⟩
  have h := WellFormed.run calls
  have written : (empty.run calls).matrix.rows = _ := Written.run calls
  have fits {m : Member ℚ} (mem : m ∈ (empty.run calls).members) (ne : ¬ m.rows.isEmpty) :=
    hm ▸ (h.consecutive.within mem ne).right
  have pulled := foldl_flatMap_ownLines deltas (lastBody calls) point 0 h.members fun _ => fits
  rw [ConstraintMatrix.getElem?_applyTranspose _ _ lt, written, pulled, zero_add, List.map_map]
  rfl

end

def pullers : List (String × Config ℚ) :=
  [("grab", { Config.unset with indices := [1, 7, 1] }),
    ("push", { Config.unset with indices := [2, 1, 4], direction := ⟨0, 3, 4⟩ })]

def pullingRun : List (Call ℚ) :=
  let body : Body ℚ := .ofPoints 4 []
  (pullers.map fun p => .add p.1 p.2) ++ [.init (some body), .build (.ofPoints 9 []), .build body]

open scoped Exact in
theorem applyTranspose_of_pullingRun :
    (empty.run pullingRun).numRows = 4 ∧
    ∃ t, (empty.run pullingRun).store [1, -2, 1 / 2, 5] [0, 0, 0, 0] = .ok t ∧
      (t.value.matrix.applyTranspose [1, -2, 1 / 2, 5] 4)[1]? =
        some ((t.value.members.map (·.pull 4 1)).sum) := by
  have rows : (empty.run pullingRun).numRows = 4 := by decide +kernel
  have ⟨t, stored, pulled⟩ :=
    @applyTranspose_of_run _ pullingRun [1, -2, 1 / 2, 5] [0, 0, 0, 0] rows.symm rows.symm
  exact ⟨rows, t, stored, pulled (by decide)⟩

-- The fixed direction has length 5, and the free force counts twice.
open scoped Exact in
example : ((empty.run pullingRun).matrix.applyTranspose [1, -2, 1 / 2, 5] 4)[1]? =
    some ⟨2, -1, 5⟩ := by
  decide +kernel

end Assembly
end PointForce
