import PointForce.Actuator.Basic

-- Matrices that are written from the top, without a gap: each new row stands behind all others, so
-- writing one changes nothing that was there.

namespace PointForce

namespace SortedMap

variable {ν : Type}

theorem Entries.alter_of_lt {k : Nat} {f : Option ν → ν} : ∀ {l : List (Nat × ν)},
    (∀ e ∈ l, e.1 < k) → alter k f l = l ++ [(k, f none)]
  | [],             _ => rfl
  | (i, v) :: rest, h => by
    have ⟨first, later⟩ := List.forall_mem_cons.mp h
    have hlt : ¬ k < i := Nat.lt_asymm first
    have hne : ¬ k = i := Nat.ne_of_gt first
    rw [alter, if_neg hlt, if_neg hne, alter_of_lt later, List.cons_append]

theorem toList_alter_of_lt {m : SortedMap ν} {k : Nat} {f : Option ν → ν}
    (h : ∀ e ∈ m.toList, e.1 < k) : (m.alter k f).toList = m.toList ++ [(k, f none)] :=
  Entries.alter_of_lt h

theorem bound_eq (m : SortedMap ν) : m.bound = (m.toList.map Prod.fst).getLast?.elim 0 (· + 1) := by
  rw [bound, List.getLast?_map]
  cases m.toList.getLast? <;> rfl

end SortedMap

abbrev Line (α : Type) :=
  Nat × List (Block α)

namespace Line

variable {α : Type}

def shift (offset : Nat) (l : Line α) : Line α :=
  (offset + l.1, l.2)

end Line

namespace ConstraintMatrix

variable {α : Type} {m : ConstraintMatrix α} {n : Nat}

def Filled (m : ConstraintMatrix α) (n : Nat) : Prop :=
  m.rows.map Prod.fst = List.range n

namespace Filled

theorem empty : (empty : ConstraintMatrix α).Filled 0 :=
  rfl

theorem lt_of_mem (h : m.Filled n) {l : Line α} (mem : l ∈ m.rows) : l.1 < n := by
  have : l.1 ∈ m.rows.map Prod.fst := List.mem_map_of_mem mem
  rw [h] at this
  exact List.mem_range.mp this

theorem numRows_eq (h : m.Filled n) : m.numRows = n := by
  rw [numRows, SortedMap.bound_eq]
  change ((m.rows.map Prod.fst).getLast?).elim 0 (· + 1) = n
  rw [h, List.getLast?_range]
  cases n <;> rfl

theorem rows_write (h : m.Filled n) (blocks : List (Block α)) :
    (m.write n blocks).rows = m.rows ++ [(n, blocks)] :=
  SortedMap.toList_alter_of_lt fun _ mem => h.lt_of_mem mem

theorem write (h : m.Filled n) (blocks : List (Block α)) : (m.write n blocks).Filled (n + 1) := by
  rw [Filled, h.rows_write, List.map_append, h, List.range_succ]
  rfl

end Filled
end ConstraintMatrix

namespace Actuator

variable {α : Type}

def lines (points : List Nat) : List (Vec3 α) → Nat → List (Line α)
  | [],      _   => []
  | d :: ds, row => (row, points.map (⟨·, d⟩)) :: lines points ds (row + 1)

theorem lines_shift (points : List Nat) (offset : Nat) : ∀ (ds : List (Vec3 α)) (row : Nat),
    lines points ds (offset + row) = (lines points ds row).map (Line.shift offset)
  | [],      _   => rfl
  | d :: ds, row => by
    rw [lines, lines, List.map_cons, Nat.add_assoc, lines_shift points offset ds]
    rfl

theorem mem_lines {points : List Nat} {l : Line α} : ∀ {ds : List (Vec3 α)} {row : Nat},
    l ∈ lines points ds row → row ≤ l.1 ∧ l.1 < row + ds.length
  | d :: ds, row, h => by
    cases h
    case head   => simp
    case tail h =>
      have := mem_lines h
      simp
      omega

theorem rows_writeRows (points : List Nat) : ∀ (ds : List (Vec3 α)) {row : Nat}
    {m : ConstraintMatrix α}, (∀ l ∈ m.rows, l.1 < row) →
    (writeRows points ds row m).rows = m.rows ++ lines points ds row
  | [],      _,   _, _ => (List.append_nil _).symm
  | d :: ds, row, m, h => by
    have first : (m.write row (points.map (⟨·, d⟩))).rows = m.rows ++ [(row, points.map (⟨·, d⟩))] :=
      SortedMap.toList_alter_of_lt h
    have behind : ∀ l ∈ (m.write row (points.map (⟨·, d⟩))).rows, l.1 < row + 1 := by
      rw [first, List.forall_mem_append, List.forall_mem_singleton]
      exact ⟨fun l mem => Nat.lt_succ_of_lt (h l mem), Nat.lt_succ_self row⟩
    rw [writeRows, rows_writeRows points ds behind, first, lines, List.append_assoc,
      List.singleton_append]

theorem filled_writeRows (points : List Nat) : ∀ (ds : List (Vec3 α)) {row : Nat}
    {m : ConstraintMatrix α}, m.Filled row → (writeRows points ds row m).Filled (row + ds.length)
  | [],      _,   _, h => h
  | d :: ds, row, m, h => by
    rw [writeRows, List.length_cons, Nat.add_comm ds.length, ← Nat.add_assoc]
    exact filled_writeRows points ds (h.write _)

theorem rows_build [Scalar α] [Elementary α] (a : Actuator α) (body : Body α) (row : Nat) :
    (a.build body .empty row).2.rows = lines (a.points body) a.mode.rowDirections row :=
  (rows_writeRows (a.points body) a.mode.rowDirections (m := .empty) nofun).trans (List.nil_append _)

end Actuator
end PointForce
