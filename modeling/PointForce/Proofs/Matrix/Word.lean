import Mathlib.Data.List.Basic
import PointForce.Matrix.Word
import PointForce.Proofs.Matrix.Filled

-- A matrix whose rows all fit into words is not changed by wrapping them around.

namespace PointForce

variable {α : Type}

namespace ConstraintMatrix

variable {m : ConstraintMatrix α}

theorem rows_foldl_write : ∀ {ls : List (Line α)} {m : ConstraintMatrix α},
    (m.rows ++ ls).Pairwise (·.1 < ·.1) →
      (ls.foldl (fun m l => m.write l.1 l.2) m).rows = m.rows ++ ls
  | [],      _, _      => (List.append_nil _).symm
  | l :: ls, m, sorted => by
    have behind : ∀ e ∈ m.rows, e.1 < l.1 := fun e mem =>
      (List.pairwise_append.mp sorted).right.right e mem l List.mem_cons_self
    have first : (m.write l.1 l.2).rows = m.rows ++ [l] := SortedMap.toList_alter_of_lt behind
    have later : ((m.write l.1 l.2).rows ++ ls).Pairwise (·.1 < ·.1) := by
      rwa [first, List.append_assoc]
    rw [List.foldl_cons, rows_foldl_write later, first, List.append_assoc, List.singleton_append]

theorem wrapped_of_lt (fits : ∀ l ∈ m.rows, l.1 < UInt64.size) : m.wrapped = m := by
  have same : m.wrapped = m.rows.foldl (fun m l => m.write l.1 l.2) .empty :=
    List.foldl_ext _ _ _ fun m l mem => congrArg (m.write · l.2) (word_of_lt (fits l mem))
  rw [same]
  exact ConstraintMatrix.ext (SortedMap.ext (rows_foldl_write m.lines.sorted))

end ConstraintMatrix

namespace Actuator

variable [Scalar α] [Elementary α] {a : Actuator α} {firstRow : Nat}

theorem wrapped_build (fits : firstRow + a.config.dimension ≤ UInt64.size) (body : Body α) :
    (a.build body .empty firstRow).2.wrapped = (a.build body .empty firstRow).2 := by
  refine ConstraintMatrix.wrapped_of_lt fun l mem => ?_
  rw [rows_build] at mem
  have ⟨_, high⟩ := mem_lines mem
  rw [Mode.length_rowDirections] at high
  exact Nat.lt_of_lt_of_le high fits

end Actuator
end PointForce
