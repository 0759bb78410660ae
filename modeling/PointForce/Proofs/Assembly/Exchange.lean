import Mathlib.Logic.ExistsUnique
import PointForce.Proofs.Assembly.Invariant

-- What an assembly exchanges with a solver: the bounds of all members are gathered row by row, and
-- a solution is scattered to the members by the same rows.

namespace PointForce

theorem Bound.length_of_exposed {α : Type} {b : Bound α} {n : Nat} (h : b.values.length = n)
    (values : List α) (he : b.exposed = some values) : values.length = n := by
  rw [exposed] at he
  split at he
  case isTrue  => cases he; exact h
  case isFalse => cases he

namespace Actuator

variable {α : Type} [Scalar α] {a : Actuator α}

theorem displacement_store (a : Actuator α) (multipliers deltas : List α) :
    (a.store multipliers deltas).value.state.displacement =
      deltas.head?.getD a.state.displacement :=
  rfl

theorem history_store (a : Actuator α) (multipliers deltas : List α) :
    (a.store multipliers deltas).value.history = a.history.record multipliers deltas :=
  rfl

theorem shortMultipliers_not_mem_store {multipliers : List α}
    (h : a.force.length ≤ multipliers.length) (deltas : List α) :
    .shortMultipliers ∉ (a.store multipliers deltas).events := by
  have : ¬ multipliers.length < a.force.length := Nat.not_lt.mpr h
  simp only [store, if_neg this, List.nil_append, updateLimits, Logged.map, State.updateLimits,
    State.reportCrossing]
  split <;> simp

end Actuator

namespace Member

variable {α : Type} {m : Member α}

def entry (side : Option (List α)) (missing : α) (axis : Nat) : Option α :=
  side.elim (some missing) (·[axis]?)

theorem entry_eq {bound : Bounds α → Option (List α)} (missing : α)
    (len : ∀ values, bound m.actuator.bounds = some values → values.length = m.rows.length)
    {axis : Nat} (h : axis < m.rows.length) :
    entry (bound m.actuator.bounds) missing axis = some ((m.side bound axis).getD missing) := by
  rw [entry, side]
  cases hb : bound m.actuator.bounds
  case none        => rfl
  case some values =>
    have : axis < values.length := len values hb ▸ h
    simp [this]

section Patch

variable {β : Type} (cell : Member α → Nat → Option β) (column : List β) {row : Nat}

theorem length_patch (m : Member α) : (m.patch cell column).length = column.length :=
  Buffer.length_patch ..

theorem getElem?_patch_of_mem (h : row ∈ m.rows) :
    (m.patch cell column)[row]? = column[row]?.map (cell m (row - m.rows.start)).getD := by
  have own := RowRange.mem_iff.mp h
  simp only [patch, Buffer.patch, List.getElem?_mapIdx, if_pos own]

theorem getElem?_patch_of_not_mem (h : row ∉ m.rows) :
    (m.patch cell column)[row]? = column[row]? := by
  have other := mt RowRange.mem_iff.mpr h
  simp only [patch, Buffer.patch, List.getElem?_mapIdx, if_neg other, Option.map_id']

end Patch

variable [Scalar α]

theorem displacement_store (ne : ¬ m.rows.isEmpty) (multipliers : List α) {deltas : List α}
    (fits : m.rows.stop ≤ deltas.length) :
    some (m.store multipliers deltas).value.actuator.state.displacement =
      deltas[m.rows.start]? := by
  have lt := RowRange.not_isEmpty_iff.mp ne
  have head : (m.rows.slice deltas).head? = deltas[m.rows.start]? := by
    rw [List.head?_eq_getElem?]
    exact Buffer.getElem?_slice (Nat.sub_pos_of_lt lt)
  rw [actuator_store ne, Actuator.displacement_store, head,
    List.getElem?_eq_getElem (Nat.lt_of_lt_of_le lt fits), Option.getD_some]

variable [Elementary α]

namespace WellFormed

theorem length_rows (h : m.WellFormed) (ne : ¬ m.rows.isEmpty) :
    m.rows.length = m.actuator.dimension := by
  have ⟨resolved, rows⟩ := h.owner ne
  rw [rows, RowRange.length, Actuator.ownRows, Nat.add_sub_cancel_left, resolved.rowCount]

theorem length_rows_of_lt (h : m.WellFormed) {axis : Nat} (lt : axis < m.rows.length) :
    m.rows.length = m.actuator.dimension :=
  h.length_rows (RowRange.not_isEmpty_of_lt_length lt)

theorem length_slice (h : m.WellFormed) (ne : ¬ m.rows.isEmpty) {multipliers : List α}
    (fits : m.rows.stop ≤ multipliers.length) :
    (m.rows.slice multipliers).length = m.actuator.force.length :=
  calc (m.rows.slice multipliers).length
    _ = m.rows.length           := RowRange.length_slice fun _ => fits
    _ = m.actuator.dimension    := h.length_rows ne
    _ = m.actuator.force.length := h.actuator.shaped.force.symm

theorem force_store (h : m.WellFormed) (ne : ¬ m.rows.isEmpty) {multipliers : List α}
    (fits : m.rows.stop ≤ multipliers.length) (deltas : List α) :
    (m.store multipliers deltas).value.actuator.force = m.rows.slice multipliers := by
  rw [actuator_store ne]
  exact Actuator.force_store (h.length_slice ne fits) _

theorem shortMultipliers_not_mem_store (h : m.WellFormed) {multipliers : List α}
    (fits : ¬ m.rows.isEmpty → m.rows.stop ≤ multipliers.length) (deltas : List α) :
    .shortMultipliers ∉ (m.store multipliers deltas).events := by
  by_cases he : m.rows.isEmpty
  case pos =>
    rw [store_of_isEmpty he]
    exact List.not_mem_nil
  case neg =>
    have le := Nat.le_of_eq (h.length_slice he (fits he)).symm
    rw [store_of_not_isEmpty he]
    exact Actuator.shortMultipliers_not_mem_store le _

end WellFormed
end Member

namespace Assembly

variable {α : Type}

section Patch

variable {β : Type} {cell : Member α → Nat → Option β} {row : Nat}

theorem length_foldl_patch : ∀ (ms : List (Member α)) (column : List β),
    (ms.foldl (Member.patch cell) column).length = column.length
  | [],      _      => rfl
  | m :: ms, column => (length_foldl_patch ms _).trans (Member.length_patch cell column m)

theorem getElem?_foldl_patch_of_not_mem : ∀ {ms : List (Member α)} (column : List β),
    (∀ m ∈ ms, row ∉ m.rows) → (ms.foldl (Member.patch cell) column)[row]? = column[row]?
  | [],      _,      _ => rfl
  | m :: ms, column, h => by
    have ⟨first, later⟩ := List.forall_mem_cons.mp h
    rw [List.foldl_cons, getElem?_foldl_patch_of_not_mem _ later,
      Member.getElem?_patch_of_not_mem cell column first]

-- What a row's owner writes is not written over, as no other member has that row.
theorem Consecutive.getElem?_foldl_patch {ms : List (Member α)} {m : Member α} {start stop : Nat}
    (c : Consecutive ms start stop) (mem : m ∈ ms) (own : row ∈ m.rows) (column : List β) :
    (ms.foldl (Member.patch cell) column)[row]? =
      column[row]?.map (cell m (row - m.rows.start)).getD := by
  have ne := RowRange.not_isEmpty_of_mem own
  induction c generalizing column
  case nil => cases mem
  case skip n _ _ _ e _ ih =>
    cases mem
    case head     => exact absurd e ne
    case tail mem =>
      have other : row ∉ n.rows := fun own => RowRange.not_isEmpty_of_mem own e
      rw [List.foldl_cons, ih mem, Member.getElem?_patch_of_not_mem cell column other]
  case place n ms _ _ c ih =>
    cases mem
    case head =>
      have later : ∀ m ∈ ms, row ∉ m.rows := fun m mem own' =>
        have ⟨le, _⟩ := c.within mem (RowRange.not_isEmpty_of_mem own')
        Nat.not_lt.mpr (Nat.le_trans le own'.left) own.right
      rw [List.foldl_cons, getElem?_foldl_patch_of_not_mem _ later,
        Member.getElem?_patch_of_mem cell column own]
    case tail mem =>
      have ⟨le, _⟩ := c.within mem ne
      have other : row ∉ n.rows := fun own' =>
        Nat.not_lt.mpr (Nat.le_trans le own.left) own'.right
      rw [List.foldl_cons, ih mem, Member.getElem?_patch_of_not_mem cell column other]

end Patch

variable [Scalar α] [Elementary α] {s : Assembly α}

def Owns (s : Assembly α) (i axis row : Nat) : Prop :=
  ∃ m, s.members[i]? = some m ∧ axis < m.rows.length ∧ row = m.rows.start + axis

structure Gathered {β : Type} (s : Assembly α) (column : List β)
    (entry : Member α → Nat → Option β) : Prop where
  length  : column.length = s.numRows
  getElem : ∀ {m : Member α} {axis : Nat}, m ∈ s.members → axis < m.rows.length →
    column[m.rows.start + axis]? = entry m axis

structure Gathers [Extended α] (s : Assembly α) : Prop where
  owner        : ∀ {row : Nat}, row < s.numRows → ∃! p : Nat × Nat, s.Owns p.1 p.2 row
  lower        : s.Gathered s.bounds.lower fun m =>
    Member.entry m.actuator.bounds.lower Extended.negInfinity
  upper        : s.Gathered s.bounds.upper fun m =>
    Member.entry m.actuator.bounds.upper Extended.infinity
  initialGuess : s.Gathered s.bounds.initialGuess fun m => Member.entry m.actuator.bounds.guess 0
  penalties    : s.Gathered s.bounds.penalties fun m _ => some m.actuator.bounds.penalty

structure Scatters (s : Assembly α) (multipliers deltas : List α) (t : Assembly α) : Prop where
  layout       : t.members.map Member.rows = s.members.map Member.rows ∧
    t.matrix = s.matrix ∧ t.numRows = s.numRows
  force        : ∀ {i axis row : Nat}, s.Owns i axis row →
    (t.actuator? i).bind (·.force[axis]?) = multipliers[row]?
  displacement : ∀ {i : Nat} {m : Member α}, s.members[i]? = some m → ¬ m.rows.isEmpty →
    (t.actuator? i).map (·.state.displacement) = deltas[m.rows.start]?
  history      : ∀ {i : Nat} {m : Member α}, s.members[i]? = some m → ¬ m.rows.isEmpty →
    (t.actuator? i).map (·.history.iterations) = some (m.actuator.history.iterations + 1)
  untouched    : ∀ {i : Nat} {m : Member α}, s.members[i]? = some m → m.rows.isEmpty →
    t.members[i]? = some m

theorem WellFormed.exists_owner (h : s.WellFormed) {row : Nat} (lt : row < s.numRows) :
    ∃! p : Nat × Nat, s.Owns p.1 p.2 row := by
  have ⟨m, mem, own⟩ := h.consecutive.exists_mem_iff.mpr ⟨row.zero_le, lt⟩
  have ⟨i, hi⟩ := List.mem_iff_getElem?.mp mem
  have ⟨le, lt⟩ := RowRange.mem_iff.mp own
  have axis : row - m.rows.start < m.rows.length := Nat.sub_lt_sub_right le lt
  refine ⟨(i, row - m.rows.start), ⟨m, hi, axis, (Nat.add_sub_cancel' le).symm⟩, ?_⟩
  rintro ⟨j, k⟩ ⟨n, hj, hk, rfl⟩
  have own' : n.rows.start + k ∈ n.rows := ⟨Nat.le_add_right .., Nat.add_lt_of_lt_sub' hk⟩
  cases h.consecutive.owner_unique hi hj own own'
  cases hi.symm.trans hj
  rw [Nat.add_sub_cancel_left]

theorem WellFormed.gathered (h : s.WellFormed) {β : Type} {cell : Member α → Nat → Option β}
    {missing : β} {entry : Member α → Nat → Option β}
    (eq : ∀ {m : Member α} {axis : Nat}, m.WellFormed → axis < m.rows.length →
      entry m axis = some ((cell m axis).getD missing)) :
    s.Gathered (s.gather cell missing) entry where
  length         := (length_foldl_patch _ _).trans List.length_replicate
  getElem {m axis} mem lt := by
    have own : m.rows.start + axis ∈ m.rows := ⟨Nat.le_add_right .., Nat.add_lt_of_lt_sub' lt⟩
    have ⟨_, le⟩ := h.consecutive.within mem (RowRange.not_isEmpty_of_mem own)
    rw [gather, h.consecutive.getElem?_foldl_patch mem own, Nat.add_sub_cancel_left,
      List.getElem?_replicate_of_lt (Nat.lt_of_lt_of_le own.right le), eq (h.members m mem) lt]
    rfl

theorem WellFormed.gathers [Extended α] (h : s.WellFormed) : s.Gathers where
  owner        := h.exists_owner
  lower        := h.gathered fun hm lt => Member.entry_eq _ (Bound.length_of_exposed
    (hm.actuator.shaped.lower.trans (hm.length_rows_of_lt lt).symm)) lt
  upper        := h.gathered fun hm lt => Member.entry_eq _ (Bound.length_of_exposed
    (hm.actuator.shaped.upper.trans (hm.length_rows_of_lt lt).symm)) lt
  initialGuess := h.gathered fun hm lt => Member.entry_eq _ (Bound.length_of_exposed
    (hm.actuator.shaped.guess.trans (hm.length_rows_of_lt lt).symm)) lt
  penalties    := h.gathered fun _ _ => rfl

section Store

variable {multipliers deltas : List α}

theorem WellFormed.scatters (h : s.WellFormed) (hm : multipliers.length = s.numRows)
    (hd : deltas.length = s.numRows) :
    s.Scatters multipliers deltas
      { s with members := s.members.map fun m => (m.store multipliers deltas).value } where
  layout := by
    refine ⟨?_, rfl, rfl⟩
    rw [List.map_map]
    exact List.map_congr_left fun m _ => m.rows_store multipliers deltas
  force {i axis row} own := by
    obtain ⟨m, hi, lt, rfl⟩ := own
    have ne := RowRange.not_isEmpty_of_lt_length lt
    have mem := List.mem_of_getElem? hi
    have fits := hm ▸ (h.consecutive.within mem ne).right
    rw [actuator?, List.getElem?_map, hi]
    change (m.store multipliers deltas).value.actuator.force[axis]? = _
    rw [(h.members m mem).force_store ne fits]
    exact Buffer.getElem?_slice lt
  displacement {i m} hi ne := by
    have fits := hd ▸ (h.consecutive.within (List.mem_of_getElem? hi) ne).right
    rw [actuator?, List.getElem?_map, hi]
    exact Member.displacement_store ne multipliers fits
  history {i m} hi ne := by
    rw [actuator?, List.getElem?_map, hi, Option.map_some, Option.map_some, Option.map_some,
      Member.actuator_store ne, Actuator.history_store]
    rfl
  untouched {i m} hi he := by
    rw [List.getElem?_map, hi, Option.map_some, Member.store_of_isEmpty he]

theorem WellFormed.exists_store (h : s.WellFormed) (hm : multipliers.length = s.numRows)
    (hd : deltas.length = s.numRows) :
    ∃ t, s.store multipliers deltas = .ok t ∧ .shortMultipliers ∉ t.events ∧
      s.Scatters multipliers deltas t.value := by
  refine ⟨_, store_of_length hm hd, fun mem => ?_, h.scatters hm hd⟩
  have ⟨m, mem, short⟩ := List.mem_flatMap.mp mem
  have fits (ne : ¬ m.rows.isEmpty) := hm ▸ (h.consecutive.within mem ne).right
  exact (h.members m mem).shortMultipliers_not_mem_store fits deltas short

end Store

theorem gathers_and_scatters_of_run [Extended α] (calls : List (Call α)) :
    (empty.run calls).Gathers ∧
    (∀ multipliers deltas : List α, multipliers.length = (empty.run calls).numRows →
      deltas.length = (empty.run calls).numRows →
      ∃ t, (empty.run calls).store multipliers deltas = .ok t ∧ .shortMultipliers ∉ t.events ∧
        (empty.run calls).Scatters multipliers deltas t.value) ∧
    (∀ multipliers deltas : List α, ¬(multipliers.length = (empty.run calls).numRows ∧
        deltas.length = (empty.run calls).numRows) →
      (empty.run calls).store multipliers deltas = .error
        (.solutionLength (empty.run calls).numRows multipliers.length deltas.length) ∧
      (empty.run calls).call (.store multipliers deltas) = empty.run calls) := by
  have h := WellFormed.run calls
  refine ⟨h.gathers, fun _ _ hm hd => h.exists_store hm hd, fun _ _ hl => ?_⟩
  exact ⟨store_of_not_length hl, call_store_of_not_length hl⟩

theorem gathers_and_scatters_of_sample :
    (∃ t, (empty.run sampleRun).store [1, 2, 3, 4] [0, 0, 0, 0] = .ok t ∧
      (empty.run sampleRun).Scatters [1, 2, 3, 4] [0, 0, 0, 0] t.value) ∧
    (empty.run sampleRun).call (.store [1, 2, 3, 4] [0]) = empty.run sampleRun := by
  have ⟨_, fitting, refused⟩ := gathers_and_scatters_of_run sampleRun
  have rows : (empty.run sampleRun).numRows = 4 := by decide +kernel
  have ⟨t, stored, _, scatters⟩ := fitting [1, 2, 3, 4] [0, 0, 0, 0] rows.symm rows.symm
  have ⟨_, kept⟩ := refused [1, 2, 3, 4] [0] (by rw [rows]; decide)
  exact ⟨⟨t, stored, scatters⟩, kept⟩

end Assembly
end PointForce
