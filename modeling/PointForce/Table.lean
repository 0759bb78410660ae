import PointForce.Vec3

-- Tables of numbers: rows that all have the same width, also where there is no row to show it.

namespace PointForce

structure Table (α : Type) where
  columns : Nat
  rows    : List (List α)
  uniform : ∀ row ∈ rows, row.length = columns

namespace Table

variable {α : Type}

def ofRows? (columns : Nat) (rows : List (List α)) : Option (Table α) :=
  if h : ∀ row ∈ rows, row.length = columns then
    some { columns, rows, uniform := h }
  else
    none

def vectors (t : Table α) : List (Vec3 α) :=
  t.rows.filterMap Vec3.ofList?

theorem isSome_ofList? {row : List α} (h : 3 ≤ row.length) : (Vec3.ofList? row).isSome := by
  match row, h with
  | _ :: _ :: _ :: _, _ => rfl

theorem length_vectors {t : Table α} (h : 3 ≤ t.columns) : t.vectors.length = t.rows.length := by
  rw [vectors, List.length_filterMap_eq_countP, List.countP_eq_length]
  intro row mem
  exact isSome_ofList? (t.uniform row mem ▸ h)

end Table
end PointForce
