import Mathlib.Data.List.Basic
import Mathlib.Data.List.Induction
import PointForce.Matrix.Word
import PointForce.Proofs.SortedMap
import PointForce.Proofs.Vec3

-- The two forms in which the matrix leaves the library. The triplets hold each coefficient that is
-- not zero, and the compressed rows hold their sums.

namespace PointForce

variable {α : Type}

namespace Triplet

def ofColumn (row : Nat) : Nat × α → Triplet α
  | (dof, value) => { row, dof, value }

end Triplet

section

variable [Scalar α]

namespace Block

theorem columns_eq (b : Block α) (points : Nat) : b.columns points =
    if b.point < points then
      ((List.finRange 3).map fun axis =>
        (3 * b.point + axis.val, b.coefficients.component axis)).filter (·.2 != 0)
    else
      [] :=
  rfl

theorem mem_columns_iff {b : Block α} {points dof : Nat} {value : α} :
    (dof, value) ∈ b.columns points ↔ b.point < points ∧ (value != 0) ∧
      ∃ axis : Fin 3, dof = 3 * b.point + axis ∧ value = b.coefficients.component axis := by
  rw [columns_eq]
  split <;> grind

end Block

namespace ConstraintMatrix

variable {m : ConstraintMatrix α} {points : Nat}

def columns (m : ConstraintMatrix α) (row points : Nat) : List (Nat × α) :=
  ((m.row? row).getD []).flatMap (·.columns points)

theorem filter_triplets (m : ConstraintMatrix α) (row points : Nat) :
    (m.triplets points).filter (·.row = row) =
      (m.columns row points).map (Triplet.ofColumn row) := by
  rw [triplets, rows, SortedMap.filter_flatMap (by grind), columns, row?]
  cases m.lines.get? row
  case none        => rfl
  case some blocks => rw [Option.elim_some, Option.getD_some, List.map_flatMap]; rfl

theorem filter_entries (m : ConstraintMatrix α) (row points : Nat) :
    (m.toCsr points).entries.filter (·.row = row) =
      (compress (m.columns row points)).toList.map (Triplet.ofColumn row) := by
  rw [toCsr, rows, SortedMap.filter_flatMap (by grind), columns, row?]
  cases m.lines.get? row <;> rfl

theorem mem_triplets_iff {t : Triplet α} :
    t ∈ m.triplets points ↔ (t.dof, t.value) ∈ m.columns t.row points := by
  have own : t ∈ m.triplets points ↔ t ∈ (m.triplets points).filter (·.row = t.row) := by simp
  rw [own, filter_triplets, List.mem_map]
  exact ⟨fun ⟨_, mem, eq⟩ => eq ▸ mem, fun mem => ⟨_, mem, rfl⟩⟩

theorem mem_columns_iff {row dof : Nat} {value : α} : (dof, value) ∈ m.columns row points ↔
    ∃ blocks, m.row? row = some blocks ∧ ∃ b ∈ blocks, (dof, value) ∈ b.columns points := by
  rw [columns, List.mem_flatMap]
  cases m.row? row <;> simp

theorem triplets_ne_nil_iff : m.triplets points ≠ [] ↔
    ∃ row blocks, m.row? row = some blocks ∧ ∃ b ∈ blocks, b.point < points ∧
      ∃ axis, (b.coefficients.component axis != 0) := by
  constructor
  case mp =>
    intro ne
    obtain ⟨t, mem⟩ := List.exists_mem_of_ne_nil _ ne
    obtain ⟨blocks, opened, b, written, column⟩ := mem_columns_iff.mp (mem_triplets_iff.mp mem)
    obtain ⟨within, nonzero, axis, _, eq⟩ := Block.mem_columns_iff.mp column
    exact ⟨t.row, blocks, opened, b, written, within, axis, eq ▸ nonzero⟩
  case mpr =>
    rintro ⟨row, blocks, opened, b, written, within, axis, nonzero⟩
    have column := Block.mem_columns_iff.mpr ⟨within, nonzero, axis, rfl, rfl⟩
    have mem : ⟨row, _, _⟩ ∈ m.triplets points :=
      mem_triplets_iff.mpr (mem_columns_iff.mpr ⟨blocks, opened, b, written, column⟩)
    exact List.ne_nil_of_mem mem

theorem sorted_triplets (m : ConstraintMatrix α) (points : Nat) :
    (m.triplets points).Pairwise (·.row ≤ ·.row) := by
  have row {l : Nat × List (Block α)} {t : Triplet α} (mem : t ∈ l.2.flatMap fun b =>
      (b.columns points).map (Triplet.ofColumn l.1)) : t.row = l.1 := by
    obtain ⟨b, _, mem⟩ := List.mem_flatMap.mp mem
    obtain ⟨_, _, rfl⟩ := List.mem_map.mp mem
    rfl
  rw [triplets, List.pairwise_flatMap]
  constructor
  case left =>
    intro l _
    exact List.pairwise_of_forall_mem_list fun s hs t ht => ((row hs).trans (row ht).symm).le
  case right =>
    refine m.lines.sorted.imp fun lt s hs t ht => ?_
    exact (row hs).trans_le (lt.le.trans (row ht).ge)

section Fits

end Fits

-- Opposite coefficients in one column leave a zero that is stored.
example :
    let m : ConstraintMatrix ℚ := empty.write 0 [⟨0, ⟨1, 0, 0⟩⟩, ⟨0, ⟨-1, 0, 0⟩⟩]
    m.triplets 1 = [⟨0, 0, 1⟩, ⟨0, 0, -1⟩] ∧ (m.toCsr 1).entries = [⟨0, 0, 0⟩] := by
  decide +kernel

end ConstraintMatrix

end
end PointForce
