import Mathlib.Data.List.Basic
import PointForce.Proofs.Actuator.Operations
import PointForce.Proofs.Assembly.Run
import PointForce.Proofs.Matrix.Filled

-- A build gives the rows out one behind the other, and nothing that happens afterwards takes them
-- away or moves them before the next build.

namespace PointForce

namespace Buffer

variable {α : Type} {xs : List α} {start stop : Nat}

theorem length_slice (h : stop ≤ xs.length) : (slice start stop xs).length = stop - start := by
  rw [slice, List.length_take, List.length_drop]
  omega

theorem getElem?_slice {i : Nat} (h : i < stop - start) :
    (slice start stop xs)[i]? = xs[start + i]? := by
  rw [slice, List.getElem?_take_of_lt h, List.getElem?_drop]

end Buffer

namespace RowRange

instance : Membership Nat RowRange where
  mem r row := r.start ≤ row ∧ row < r.stop

variable {r : RowRange} {row : Nat}

theorem mem_iff : row ∈ r ↔ r.start ≤ row ∧ row < r.stop :=
  Iff.rfl

instance : Decidable (row ∈ r) :=
  decidable_of_iff _ mem_iff.symm

theorem isEmpty_iff : r.isEmpty ↔ r.stop ≤ r.start :=
  decide_eq_true_iff

theorem not_isEmpty_iff : ¬ r.isEmpty ↔ r.start < r.stop :=
  isEmpty_iff.not.trans Nat.not_le

theorem not_isEmpty_of_mem (h : row ∈ r) : ¬ r.isEmpty :=
  not_isEmpty_iff.mpr (Nat.lt_of_le_of_lt h.left h.right)

theorem isEmpty_iff_length_eq_zero : r.isEmpty ↔ r.length = 0 :=
  isEmpty_iff.trans Nat.sub_eq_zero_iff_le.symm

theorem length_eq_zero (h : r.isEmpty) : r.length = 0 :=
  isEmpty_iff_length_eq_zero.mp h

theorem not_isEmpty_of_lt_length {axis : Nat} (h : axis < r.length) : ¬ r.isEmpty :=
  fun e => absurd h (length_eq_zero e ▸ Nat.not_lt_zero axis)

theorem length_slice {α : Type} {xs : List α} (h : ¬ r.isEmpty → r.stop ≤ xs.length) :
    (r.slice xs).length = r.length := by
  by_cases he : r.isEmpty
  case pos => simp [slice, Buffer.slice, isEmpty_iff.mp he, length_eq_zero he]
  case neg => exact Buffer.length_slice (h he)

end RowRange

namespace Assembly

variable {α : Type} {ms : List (Member α)} {m n : Member α} {start stop : Nat}

-- An empty range may lie anywhere, as a member that was added after the build starts out with one.
inductive Consecutive : List (Member α) → Nat → Nat → Prop
  | nil (row : Nat) : Consecutive [] row row
  | skip {m : Member α} {ms : List (Member α)} {start stop : Nat} :
    m.rows.isEmpty → Consecutive ms start stop → Consecutive (m :: ms) start stop
  | place {m : Member α} {ms : List (Member α)} {stop : Nat} :
    ¬ m.rows.isEmpty → Consecutive ms m.rows.stop stop → Consecutive (m :: ms) m.rows.start stop

namespace Consecutive

theorem le (t : Consecutive ms start stop) : start ≤ stop := by
  induction t
  case nil           => exact Nat.le_refl _
  case skip ih       => exact ih
  case place h _ ih  => exact Nat.le_trans (Nat.le_of_lt (RowRange.not_isEmpty_iff.mp h)) ih

theorem of_singleton (t : Consecutive [m] 0 stop) :
    stop = m.rows.length ∧ (¬ m.rows.isEmpty → m.rows = ⟨0, stop⟩) := by
  generalize hs : 0 = start at t
  cases t
  case skip e t =>
    cases t
    exact ⟨hs.symm.trans (RowRange.length_eq_zero e).symm, absurd e⟩
  case place t =>
    cases t
    rw [RowRange.length, ← hs]
    exact ⟨rfl, fun _ => RowRange.ext hs.symm rfl⟩

theorem snoc (t : Consecutive ms start stop) (h : m.rows.isEmpty) :
    Consecutive (ms ++ [m]) start stop := by
  induction t
  case nil            => exact .skip h (.nil _)
  case skip e _ ih    => exact .skip e ih
  case place ne _ ih  => exact .place ne ih

theorem map {f : Member α → Member α} (hf : ∀ m, (f m).rows = m.rows)
    (t : Consecutive ms start stop) : Consecutive (ms.map f) start stop := by
  induction t
  case nil           => exact .nil _
  case skip e _ ih   => exact .skip (by rwa [hf]) ih
  case place ne _ ih =>
    rw [List.map_cons, ← hf]
    exact .place (by rwa [hf]) (by rwa [hf])

theorem within (t : Consecutive ms start stop) (mem : m ∈ ms) (h : ¬ m.rows.isEmpty) :
    start ≤ m.rows.start ∧ m.rows.stop ≤ stop := by
  induction t
  case nil => cases mem
  case skip e _ ih =>
    cases mem
    case head     => exact absurd e h
    case tail mem => exact ih mem
  case place ne t ih =>
    cases mem
    case head     => exact ⟨Nat.le_refl _, t.le⟩
    case tail mem =>
      have := RowRange.not_isEmpty_iff.mp ne
      have := ih mem
      omega

theorem exists_mem_iff (t : Consecutive ms start stop) {row : Nat} :
    (∃ m ∈ ms, row ∈ m.rows) ↔ start ≤ row ∧ row < stop := by
  induction t
  case nil => simp
  case skip m _ _ _ e _ ih =>
    have : row ∉ m.rows := fun mem => RowRange.not_isEmpty_of_mem mem e
    rw [List.exists_mem_cons_iff, ih, or_iff_right this]
  case place m _ _ ne t ih =>
    have := RowRange.not_isEmpty_iff.mp ne
    have := t.le
    rw [List.exists_mem_cons_iff, ih, RowRange.mem_iff]
    omega

theorem pairwise (t : Consecutive ms start stop) :
    (ms.filter (!·.rows.isEmpty)).Pairwise (·.rows.stop ≤ ·.rows.start) := by
  induction t
  case nil           => exact .nil
  case skip e _ ih   => simpa [e] using ih
  case place ne t ih =>
    rw [List.filter_cons_of_pos (by simpa using ne)]
    refine .cons (fun n mem => ?_) ih
    have ⟨mem, hn⟩ := List.mem_filter.mp mem
    exact (t.within mem (by simpa using hn)).left

theorem owner_unique (t : Consecutive ms start stop) {i j row : Nat} (hi : ms[i]? = some m)
    (hj : ms[j]? = some n) (hm : row ∈ m.rows) (hn : row ∈ n.rows) : i = j := by
  induction t generalizing i j
  case nil => cases hi
  case skip e _ ih =>
    cases i <;> cases j <;> simp at hi hj
    case zero.zero => rfl
    case zero.succ => exact absurd (hi ▸ e) (RowRange.not_isEmpty_of_mem hm)
    case succ.zero => exact absurd (hj ▸ e) (RowRange.not_isEmpty_of_mem hn)
    case succ.succ => exact congrArg _ (ih hi hj)
  case place t ih =>
    cases i <;> cases j <;> simp at hi hj
    case zero.zero => rfl
    case zero.succ =>
      have := t.within (List.mem_of_getElem? hj) (RowRange.not_isEmpty_of_mem hn)
      exact absurd (hi ▸ hm.right) (Nat.not_lt.mpr (Nat.le_trans this.left hn.left))
    case succ.zero =>
      have := t.within (List.mem_of_getElem? hi) (RowRange.not_isEmpty_of_mem hm)
      exact absurd (hj ▸ hn.right) (Nat.not_lt.mpr (Nat.le_trans this.left hm.left))
    case succ.succ => exact congrArg _ (ih hi hj)

end Consecutive
end Assembly

namespace Actuator

variable {α : Type} [Scalar α] {a : Actuator α}

def ownRows (a : Actuator α) : RowRange where
  start := a.state.firstRow
  stop  := a.state.firstRow + a.state.rowCount

theorem ownRows_store (a : Actuator α) (multipliers deltas : List α) :
    (a.store multipliers deltas).value.ownRows = a.ownRows := by
  rw [ownRows, firstRow_store, rowCount_store, ownRows]

-- The configuration is the one that the rows were given for, so their number stays right.
theorem ownRows_reinit [Elementary α] (h : a.Resolved) : a.reinit.value.ownRows = a.ownRows := by
  rw [ownRows, firstRow_reinit, rowCount_reinit, ← h.dimension, ← h.rowCount, ownRows]

end Actuator

namespace Member

variable {α : Type} [Scalar α] [Elementary α] {m : Member α}

def width (m : Member α) : Nat :=
  if m.actuator.active then m.actuator.mode.dimension else 0

def place (row : Nat) (m : Member α) : Member α where
  actuator := if m.actuator.active then m.actuator.takeRows row else m.actuator
  rows     := ⟨row, row + m.width⟩

def lines (body : Body α) (row : Nat) (m : Member α) : List (Line α) :=
  if m.actuator.active then
    Actuator.lines (m.actuator.points body) m.actuator.mode.rowDirections row
  else
    []

theorem length_rows_place (m : Member α) (row : Nat) : (m.place row).rows.length = m.width :=
  Nat.add_sub_cancel_left row m.width

theorem place_of_active (h : m.actuator.active) (row : Nat) :
    m.place row = ⟨m.actuator.takeRows row, row, row + m.actuator.mode.dimension⟩ := by
  rw [place, width, if_pos h, if_pos h]

theorem place_of_inactive (h : ¬ m.actuator.active) (row : Nat) :
    m.place row = ⟨m.actuator, row, row⟩ := by
  rw [place, width, if_neg h, if_neg h, Nat.add_zero]

theorem active_place (m : Member α) (row : Nat) :
    (m.place row).actuator.active = m.actuator.active := by
  by_cases h : m.actuator.active
  case pos => rw [place_of_active h]; rfl
  case neg => rw [place_of_inactive h]

theorem not_isEmpty_place_iff (row : Nat) : ¬ (m.place row).rows.isEmpty ↔ m.actuator.active := by
  rw [RowRange.not_isEmpty_iff, place]
  change row < row + m.width ↔ _
  rw [Nat.lt_add_right_iff_pos, width]
  split
  case isTrue h  => exact iff_of_true (Mode.dimension_pos _) h
  case isFalse h => exact iff_of_false (Nat.lt_irrefl 0) h

end Member

namespace Assembly

variable {α : Type} [Scalar α] [Elementary α]

def starts : List (Member α) → Nat → List (Nat × Member α)
  | [],      _   => []
  | m :: ms, row => (row, m) :: starts ms (row + m.width)

def width : List (Member α) → Nat
  | []      => 0
  | m :: ms => m.width + width ms

theorem getElem?_starts : ∀ (ms : List (Member α)) (row i : Nat),
    (starts ms row)[i]? = ms[i]?.map (row + width (ms.take i), ·)
  | [],      _,   _     => by simp [starts]
  | _ :: _,  _,   0     => by simp [starts, width]
  | m :: ms, row, i + 1 => by
    rw [starts, List.getElem?_cons_succ, getElem?_starts ms, List.getElem?_cons_succ,
      List.take_succ_cons, width, Nat.add_assoc]

theorem consecutive_starts : ∀ (ms : List (Member α)) (row : Nat),
    Consecutive ((starts ms row).map fun p => p.2.place p.1) row (row + width ms)
  | [],      row => .nil row
  | m :: ms, row => by
    have ih := consecutive_starts ms (row + m.width)
    rw [width, ← Nat.add_assoc]
    by_cases h : m.actuator.active
    case pos => exact .place (Member.not_isEmpty_place_iff row |>.mpr h) ih
    case neg =>
      have hw : m.width = 0 := if_neg h
      refine .skip (not_not.mp (h <| Member.not_isEmpty_place_iff row |>.mp ·)) ?_
      simpa [hw] using ih

theorem layOut_fst (body : Body α) : ∀ (ms : List (Member α)) (row : Nat) (m : ConstraintMatrix α),
    (layOut body ms row m).1 = (starts ms row).map (fun p => p.2.place p.1) ∧
    (layOut body ms row m).2.1 = row + width ms
  | [],      _,   _ => ⟨rfl, rfl⟩
  | m :: ms, row, matrix => by
    by_cases h : m.actuator.active
    case pos =>
      have hw : m.width = m.actuator.mode.dimension := if_pos h
      have ⟨members, stop⟩ := layOut_fst body ms (row + m.actuator.mode.dimension)
        (Actuator.writeRows (m.actuator.points body) m.actuator.mode.rowDirections row matrix)
      rw [layOut, if_pos h, Actuator.build_eq, starts, List.map_cons, Member.place_of_active h,
        width, hw, ← Nat.add_assoc]
      exact ⟨congrArg _ members, stop⟩
    case neg =>
      have hw : m.width = 0 := if_neg h
      have ⟨members, stop⟩ := layOut_fst body ms row matrix
      rw [layOut, if_neg h, starts, List.map_cons, Member.place_of_inactive h, width, hw,
        Nat.add_zero, Nat.zero_add]
      exact ⟨congrArg _ members, stop⟩

-- The lines are added in the order of the members, so no line lands on another one.
theorem rows_layOut (body : Body α) : ∀ (ms : List (Member α)) {row : Nat}
    {matrix : ConstraintMatrix α}, matrix.Filled row →
    (layOut body ms row matrix).2.2.rows =
      matrix.rows ++ (starts ms row).flatMap (fun p => p.2.lines body p.1) ∧
    (layOut body ms row matrix).2.2.Filled (row + width ms)
  | [],      _,   _,      h => ⟨(List.append_nil _).symm, h⟩
  | m :: ms, row, matrix, h => by
    by_cases ha : m.actuator.active
    case pos =>
      have own := Actuator.rows_writeRows (m.actuator.points body) m.actuator.mode.rowDirections
        fun _ => h.lt_of_mem
      have filled :=
        Actuator.filled_writeRows (m.actuator.points body) m.actuator.mode.rowDirections h
      rw [Mode.length_rowDirections] at filled
      have ⟨rows, filled⟩ := rows_layOut body ms filled
      have hw : m.width = m.actuator.mode.dimension := if_pos ha
      rw [layOut, if_pos ha, Actuator.build_eq, starts, List.flatMap_cons, width, hw,
        ← Nat.add_assoc, Member.lines, if_pos ha, ← List.append_assoc, ← own]
      exact ⟨rows, filled⟩
    case neg =>
      have hw : m.width = 0 := if_neg ha
      rw [layOut, if_neg ha, starts, List.flatMap_cons, width, hw, Nat.add_zero, Nat.zero_add,
        Member.lines, if_neg ha, List.nil_append]
      exact rows_layOut body ms h

section Build

variable (s : Assembly α) (body : Body α)

theorem members_build :
    (s.build body).members = (starts s.members 0).map fun p => p.2.place p.1 :=
  (layOut_fst body s.members 0 .empty).left

theorem numRows_build : (s.build body).numRows = width s.members :=
  (layOut_fst body s.members 0 .empty).right.trans (Nat.zero_add _)

theorem rows_build :
    (s.build body).matrix.rows = (starts s.members 0).flatMap fun p => p.2.lines body p.1 :=
  (rows_layOut body s.members .empty).left

theorem filled_build : (s.build body).matrix.Filled (s.build body).numRows := by
  rw [numRows_build, ← Nat.zero_add (width s.members)]
  exact (rows_layOut body s.members .empty).right

theorem getElem?_members_build (i : Nat) :
    (s.build body).members[i]? = s.members[i]?.map (·.place (width (s.members.take i))) := by
  rw [members_build, List.getElem?_map, getElem?_starts, Option.map_map, Nat.zero_add]
  rfl

end Build
end Assembly
end PointForce
