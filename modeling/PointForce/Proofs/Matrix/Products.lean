import Mathlib.Algebra.BigOperators.Group.List.Basic
import Mathlib.Algebra.BigOperators.Ring.Finset
import PointForce.Proofs.Matrix.Exports
import PointForce.Proofs.Matrix.Filled

-- The two products of the matrix. In exact arithmetic they are the products of the matrix that is
-- exported, and each is the transpose of the other.

namespace PointForce

namespace SortedMap

variable {ν : Type}

theorem Entries.sum_map (f : Nat → ν → ℚ) (n : Nat) {l : List (Nat × ν)}
    (h : l.Pairwise (·.1 < ·.1)) : (∀ e ∈ l, e.1 < n) →
    (l.map fun e => f e.1 e.2).sum = ∑ k ∈ Finset.range n, (get? k l).elim 0 (f k) := by
  induction h
  case nil => simp [get?]
  case cons e rest first later ih =>
    intro bounded
    obtain ⟨here, there⟩ := List.forall_mem_cons.mp bounded
    have absent : get? e.1 rest = none := get?_eq_none fun e mem eq => by grind
    have split (k : Nat) : (get? k (e :: rest)).elim 0 (f k) =
        (if k = e.1 then f k e.2 else 0) + (get? k rest).elim 0 (f k) := by
      rw [get?]
      split
      case isTrue eq  => rw [eq, absent]; exact (add_zero _).symm
      case isFalse ne => exact (zero_add _).symm
    simp only [split, Finset.sum_add_distrib, Finset.sum_ite_eq', Finset.mem_range, if_pos here]
    rw [List.map_cons, List.sum_cons, ih there]

theorem sum_map (m : SortedMap ν) (f : Nat → ν → ℚ) :
    (m.toList.map fun e => f e.1 e.2).sum = ∑ k ∈ Finset.range m.bound, (m.get? k).elim 0 (f k) :=
  Entries.sum_map f m.bound m.sorted fun _ mem => lt_bound mem

end SortedMap

namespace Block

def moved (motion : List (Vec3 ℚ)) (b : Block ℚ) : ℚ :=
  b.coefficients.dot (motion.getD b.point 0)

theorem moved_of_le {motion : List (Vec3 ℚ)} {b : Block ℚ} (h : motion.length ≤ b.point) :
    b.moved motion = 0 := by
  rw [moved, List.getD_eq_getElem?_getD, List.getElem?_eq_none h]
  exact Vec3.dot_zero _

theorem addMotion_eq (motion : List (Vec3 ℚ)) (sum : ℚ) (b : Block ℚ) :
    addMotion motion sum b = sum + b.moved motion := by
  rw [addMotion, moved, List.getD_eq_getElem?_getD]
  cases motion[b.point]?
  case none   => exact (Vec3.dot_zero _ ▸ add_zero sum).symm
  case some d => exact Vec3.addDot_eq ..

theorem foldl_addMotion (motion : List (Vec3 ℚ)) (blocks : List (Block ℚ)) (sum : ℚ) :
    blocks.foldl (addMotion motion) sum = sum + (blocks.map (moved motion)).sum := by
  induction blocks generalizing sum
  case nil              => exact (add_zero sum).symm
  case cons b blocks ih =>
    rw [List.foldl_cons, ih, addMotion_eq, List.map_cons, List.sum_cons, add_assoc]

end Block

namespace ConstraintMatrix

def addLine {α : Type} [Scalar α] (multipliers : List α) (point : Nat) (sum : Vec3 α)
    (line : Line α) : Vec3 α :=
  match multipliers[line.1]? with
  | some l => line.2.foldl (Block.addForce point l) sum
  | none   => sum

theorem getElem?_applyTranspose {α : Type} [Scalar α] (m : ConstraintMatrix α)
    (multipliers : List α) {points point : Nat} (h : point < points) :
    (m.applyTranspose multipliers points)[point]? =
      some (m.rows.foldl (addLine multipliers point) 0) := by
  rw [applyTranspose, List.getElem?_map, List.getElem?_range h]
  rfl

variable (m : ConstraintMatrix ℚ) (motion : List (Vec3 ℚ))

theorem length_project : (m.project motion).length = m.numRows := by
  rw [project, List.length_map, List.length_range]

theorem getElem?_project {row : Nat} (h : row < m.numRows) :
    (m.project motion)[row]? = some ((((m.row? row).getD []).map (Block.moved motion)).sum) := by
  rw [project, List.getElem?_map, List.getElem?_range h, Option.map_some, Block.foldl_addMotion,
    zero_add]

section Work

variable (multipliers : List ℚ)

def work (force : Nat → Vec3 ℚ) : ℚ :=
  ∑ point ∈ Finset.range motion.length, (force point).dot (motion.getD point 0)

theorem work_addForce (l : ℚ) (b : Block ℚ) (force : Nat → Vec3 ℚ) :
    work motion (fun point => b.addForce point l (force point)) =
      work motion force + l * b.moved motion := by
  have split (point : Nat) : (b.addForce point l (force point)).dot (motion.getD point 0) =
      (force point).dot (motion.getD point 0) +
        if b.point = point then l * b.coefficients.dot (motion.getD point 0) else 0 := by
    rw [Block.addForce]
    split
    case isTrue  => rw [Vec3.addScaled_eq, Vec3.add_dot, Vec3.scale_dot]
    case isFalse => exact (add_zero _).symm
  simp only [work, split, Finset.sum_add_distrib, Finset.sum_ite_eq, Finset.mem_range]
  split
  case isTrue         => rfl
  case isFalse beyond => rw [Block.moved_of_le (Nat.le_of_not_lt beyond), mul_zero]

theorem work_foldl_addForce (l : ℚ) (blocks : List (Block ℚ)) (force : Nat → Vec3 ℚ) :
    work motion (fun point => blocks.foldl (Block.addForce point l) (force point)) =
      work motion force + l * (blocks.map (Block.moved motion)).sum := by
  induction blocks generalizing force
  case nil              => simp
  case cons b blocks ih =>
    simp only [List.foldl_cons]
    rw [ih, work_addForce, List.map_cons, List.sum_cons, mul_add, add_assoc]

theorem work_addLine (line : Line ℚ) (force : Nat → Vec3 ℚ) :
    work motion (fun point => addLine multipliers point (force point) line) =
      work motion force +
        multipliers.getD line.1 0 * (line.2.map (Block.moved motion)).sum := by
  simp only [addLine, List.getD_eq_getElem?_getD]
  cases multipliers[line.1]?
  case none   => simp
  case some l => exact work_foldl_addForce ..

theorem work_foldl_addLine (lines : List (Line ℚ)) (force : Nat → Vec3 ℚ) :
    work motion (fun point => lines.foldl (addLine multipliers point) (force point)) =
      work motion force + (lines.map fun line =>
        multipliers.getD line.1 0 * (line.2.map (Block.moved motion)).sum).sum := by
  induction lines generalizing force
  case nil                => exact (add_zero _).symm
  case cons line lines ih =>
    simp only [List.foldl_cons]
    rw [ih, work_addLine, List.map_cons, List.sum_cons, add_assoc]

end Work

-- A row without a multiplier does no work, and neither does one that was never opened.
theorem sum_project (multipliers : List ℚ) :
    ∑ row ∈ Finset.range (min multipliers.length m.numRows),
      multipliers.getD row 0 * (m.project motion).getD row 0 =
    (m.rows.map fun line =>
      multipliers.getD line.1 0 * (line.2.map (Block.moved motion)).sum).sum := by
  have rows : (m.rows.map fun line =>
        multipliers.getD line.1 0 * (line.2.map (Block.moved motion)).sum).sum =
      ∑ row ∈ Finset.range m.numRows, (m.row? row).elim 0 fun blocks =>
        multipliers.getD row 0 * (blocks.map (Block.moved motion)).sum :=
    m.lines.sum_map fun row blocks =>
      multipliers.getD row 0 * (blocks.map (Block.moved motion)).sum
  rw [rows]
  refine Finset.sum_subset_zero_on_sdiff (Finset.range_subset_range.mpr (min_le_right ..)) ?_ ?_
  case refine_1 =>
    intro row mem
    have beyond : multipliers.length ≤ row := by
      simp only [Finset.mem_sdiff, Finset.mem_range] at mem
      omega
    rw [List.getD_eq_getElem?_getD, List.getElem?_eq_none beyond, Option.getD_none]
    cases m.row? row <;> simp
  case refine_2 =>
    intro row mem
    have within : row < m.numRows := by
      rw [Finset.mem_range] at mem
      omega
    rw [(m.project motion).getD_eq_getElem?_getD, m.getElem?_project motion within,
      Option.getD_some]
    cases m.row? row <;> simp

-- The work of the rows along their motion is the work of the points along theirs.
theorem project_adjoint (multipliers : List ℚ) :
    ∑ row ∈ Finset.range (min multipliers.length m.numRows),
      multipliers.getD row 0 * (m.project motion).getD row 0 =
    ∑ point ∈ Finset.range motion.length, ∑ axis,
      ((m.applyTranspose multipliers motion.length).getD point 0).component axis *
        (motion.getD point 0).component axis := by
  have forces : ∀ point ∈ Finset.range motion.length,
      (m.applyTranspose multipliers motion.length).getD point 0 =
        m.rows.foldl (addLine multipliers point) 0 := by
    intro point mem
    rw [List.getD_eq_getElem?_getD,
      m.getElem?_applyTranspose multipliers (Finset.mem_range.mp mem), Option.getD_some]
  have rest : work motion (fun _ => 0) = 0 := Finset.sum_eq_zero fun _ _ => Vec3.zero_dot _
  calc
    _ = (m.rows.map fun line =>
          multipliers.getD line.1 0 * (line.2.map (Block.moved motion)).sum).sum :=
      m.sum_project motion multipliers
    _ = work motion fun point => m.rows.foldl (addLine multipliers point) 0 := by
      rw [work_foldl_addLine motion multipliers m.rows, rest, zero_add]
    _ = _ := Finset.sum_congr rfl fun point mem => by rw [forces point mem]; rfl

end ConstraintMatrix

def dofMotion (motion : List (Vec3 ℚ)) (dof : Nat) : ℚ :=
  (motion.getD (dof / 3) 0).component ⟨dof % 3, Nat.mod_lt dof (Nat.succ_pos 2)⟩

theorem dofMotion_eq (motion : List (Vec3 ℚ)) (point : Nat) (axis : Fin 3) :
    dofMotion motion (3 * point + axis) = (motion.getD point 0).component axis := by
  have quotient : (3 * point + axis.val) / 3 = point := by omega
  have remainder : (⟨(3 * point + axis.val) % 3, Nat.mod_lt _ (Nat.succ_pos 2)⟩ : Fin 3) = axis :=
    Fin.ext (by simp)
  rw [dofMotion, quotient, remainder]

def columnMotion (motion : List (Vec3 ℚ)) (columns : List (Nat × ℚ)) : ℚ :=
  (columns.map fun c => c.2 * dofMotion motion c.1).sum

def Triplet.rowMotion (motion : List (Vec3 ℚ)) (row : Nat) (ts : List (Triplet ℚ)) : ℚ :=
  ((ts.filter (·.row = row)).map fun t => t.value * dofMotion motion t.dof).sum

section Columns

variable (motion : List (Vec3 ℚ))

theorem columnMotion_cons (c : Nat × ℚ) (columns : List (Nat × ℚ)) :
    columnMotion motion (c :: columns) =
      c.2 * dofMotion motion c.1 + columnMotion motion columns :=
  rfl

theorem columnMotion_append (front rest : List (Nat × ℚ)) :
    columnMotion motion (front ++ rest) = columnMotion motion front + columnMotion motion rest := by
  rw [columnMotion, List.map_append, List.sum_append]
  rfl

theorem columnMotion_filter (columns : List (Nat × ℚ)) :
    columnMotion motion (columns.filter (·.2 != 0)) = columnMotion motion columns := by
  induction columns
  case nil => rfl
  case cons c columns ih =>
    by_cases zero : c.2 = 0
    case pos =>
      rw [List.filter_cons_of_neg (by simp [zero]), ih, columnMotion_cons, zero, zero_mul, zero_add]
    case neg =>
      rw [List.filter_cons_of_pos (by simp [zero]), columnMotion_cons, columnMotion_cons, ih]

theorem columnMotion_columns (b : Block ℚ) :
    columnMotion motion (b.columns motion.length) = b.moved motion := by
  rw [Block.columns_eq]
  split
  case isTrue =>
    rw [columnMotion_filter, columnMotion, List.map_map, Block.moved, Vec3.dot, Fin.sum_univ_def]
    simp only [Function.comp_def, dofMotion_eq]
  case isFalse beyond => exact (Block.moved_of_le (Nat.le_of_not_lt beyond)).symm

theorem columnMotion_flatMap (blocks : List (Block ℚ)) :
    columnMotion motion (blocks.flatMap (·.columns motion.length)) =
      (blocks.map (Block.moved motion)).sum := by
  induction blocks
  case nil              => rfl
  case cons b blocks ih =>
    rw [List.flatMap_cons, columnMotion_append, columnMotion_columns, ih, List.map_cons,
      List.sum_cons]

theorem columnMotion_alter (c : Nat × ℚ) (columns : List (Nat × ℚ)) :
    columnMotion motion (SortedMap.Entries.alter c.1 (·.elim c.2 (· + c.2)) columns) =
      columnMotion motion columns + c.2 * dofMotion motion c.1 := by
  induction columns
  case nil => exact add_comm ..
  case cons d columns ih =>
    rw [SortedMap.Entries.alter]
    split
    case isTrue => exact add_comm ..
    case isFalse =>
      split
      case isTrue eq =>
        simp only [columnMotion_cons, eq, Option.elim_some]
        ring
      case isFalse => rw [columnMotion_cons, ih, columnMotion_cons, add_assoc]

theorem columnMotion_compress (columns : List (Nat × ℚ)) :
    columnMotion motion (ConstraintMatrix.compress columns).toList =
      columnMotion motion columns := by
  induction columns using List.reverseRecOn
  case nil => rfl
  case append_singleton columns c ih =>
    rw [columnMotion_append, ← ih, ConstraintMatrix.compress, List.foldl_append]
    exact (columnMotion_alter motion c _).trans (congrArg _ (add_zero _).symm)

end Columns

def Table.ofVectors {α : Type} (vectors : List (Vec3 α)) : Table α where
  columns := 3
  rows    := vectors.map Vec3.toList
  uniform := List.forall_mem_map.mpr fun _ _ => rfl

theorem Table.vectors_ofVectors {α : Type} (vectors : List (Vec3 α)) :
    (ofVectors vectors).vectors = vectors := by
  rw [Table.vectors, ofVectors, List.filterMap_map]
  exact List.filterMap_some

namespace ConstraintMatrix

variable (m : ConstraintMatrix ℚ) (motion : List (Vec3 ℚ))

structure Projects (out : List ℚ) : Prop where
  length   : out.length = m.numRows
  triplets : ∀ row, row < m.numRows →
    out[row]? = some (Triplet.rowMotion motion row (m.triplets motion.length))
  entries  : ∀ row, row < m.numRows →
    out[row]? = some (Triplet.rowMotion motion row (m.toCsr motion.length).entries)
  unopened : ∀ row, row < m.numRows → m.row? row = none → out[row]? = some 0

theorem rowMotion_triplets (row : Nat) :
    Triplet.rowMotion motion row (m.triplets motion.length) =
      columnMotion motion (m.columns row motion.length) := by
  rw [Triplet.rowMotion, filter_triplets, List.map_map]
  rfl

theorem rowMotion_entries (row : Nat) :
    Triplet.rowMotion motion row (m.toCsr motion.length).entries =
      columnMotion motion (m.columns row motion.length) := by
  rw [Triplet.rowMotion, filter_entries, List.map_map, ← columnMotion_compress]
  rfl

theorem projects_project : m.Projects motion (m.project motion) where
  length := m.length_project motion
  triplets row within := by
    rw [m.getElem?_project motion within, rowMotion_triplets, columns, columnMotion_flatMap]
  entries row within := by
    rw [m.getElem?_project motion within, rowMotion_entries, columns, columnMotion_flatMap]
  unopened row within closed := by
    rw [m.getElem?_project motion within, closed]
    rfl

theorem project_exports : m.projectTable? (.ofVectors motion) = some (m.project motion) ∧
    m.Projects motion (m.project motion) := by
  refine ⟨?_, m.projects_project motion⟩
  rw [projectTable?, if_neg fun narrow => absurd narrow.left (lt_irrefl 3),
    Table.vectors_ofVectors]

end ConstraintMatrix
end PointForce
