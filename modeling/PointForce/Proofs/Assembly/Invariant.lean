import PointForce.Proofs.Assembly.Layout

namespace PointForce

namespace Member

variable {α : Type} [Scalar α] [Elementary α] {m : Member α}

-- A member with rows has a state for them, and the state knows which they are.
structure WellFormed (m : Member α) : Prop where
  actuator : m.actuator.WellFormed
  owner    : ¬ m.rows.isEmpty → m.actuator.Resolved ∧ m.rows = m.actuator.ownRows

namespace WellFormed

theorem new (name : String) (config : Config α) :
    WellFormed { actuator := .new name config } where
  actuator := .new name config
  owner h  := absurd rfl h

theorem init (h : m.WellFormed) (body : Option (Body α)) : (m.init body).2.value.WellFormed := by
  rw [init_value]
  refine ⟨h.actuator.init body, fun ne => ?_⟩
  have ⟨resolved, rows⟩ := h.owner ne
  cases hf : m.actuator.config.fault?
  case some fault =>
    rw [Actuator.init_of_fault hf]
    exact ⟨⟨resolved.dimension, resolved.rowCount⟩, rows⟩
  case none =>
    have ⟨_, value⟩ := Actuator.init_of_valid (Config.fault?_eq_none_iff.mp hf) body
    rw [value]
    exact ⟨.reinit _ _, rows.trans (Actuator.ownRows_reinit resolved).symm⟩

theorem store (h : m.WellFormed) (multipliers deltas : List α) :
    (m.store multipliers deltas).value.WellFormed := by
  by_cases he : m.rows.isEmpty
  case pos => rwa [store_of_isEmpty he]
  case neg =>
    rw [store_of_not_isEmpty he]
    have ⟨resolved, rows⟩ := h.owner he
    exact ⟨h.actuator.store _ _, fun _ =>
      ⟨resolved.store _ _, rows.trans (Actuator.ownRows_store ..).symm⟩⟩

theorem place (h : m.WellFormed) (row : Nat) : (m.place row).WellFormed := by
  by_cases ha : m.actuator.active
  case pos =>
    rw [place_of_active ha]
    exact ⟨h.actuator.takeRows row, fun _ => ⟨(h.actuator.resolved ha).takeRows row, rfl⟩⟩
  case neg =>
    have he := mt (not_isEmpty_place_iff row).mp ha
    rw [place_of_inactive ha] at he ⊢
    exact ⟨h.actuator, fun ne => absurd ne he⟩

end WellFormed
end Member

namespace Assembly

variable {α : Type} [Scalar α] [Elementary α] {s : Assembly α}

structure WellFormed (s : Assembly α) : Prop where
  members     : ∀ m ∈ s.members, m.WellFormed
  consecutive : Consecutive s.members 0 s.numRows
  filled      : s.matrix.Filled s.numRows

namespace WellFormed

theorem empty : (empty : Assembly α).WellFormed where
  members _ h := absurd h List.not_mem_nil
  consecutive := .nil 0
  filled      := .empty

theorem add (h : s.WellFormed) (name : String) (config : Config α) :
    (s.add (.new name config)).WellFormed where
  members m mem := by
    cases List.mem_append.mp mem
    case inl mem => exact h.members m mem
    case inr mem => exact List.mem_singleton.mp mem ▸ .new name config
  consecutive := h.consecutive.snoc rfl
  filled      := h.filled

theorem map (h : s.WellFormed) {f : Member α → Member α} (rows : ∀ m, (f m).rows = m.rows)
    (wf : ∀ {m}, m.WellFormed → (f m).WellFormed) :
    WellFormed { s with members := s.members.map f } where
  members m mem := by
    have ⟨n, mem, eq⟩ := List.mem_map.mp mem
    exact eq ▸ wf (h.members n mem)
  consecutive := h.consecutive.map rows
  filled      := h.filled

theorem init (h : s.WellFormed) (body : Option (Body α)) : (s.init body).2.value.WellFormed := by
  rw [init_value]
  exact h.map (fun m => by rw [Member.init_value]) fun h => h.init body

theorem build (h : s.WellFormed) (body : Body α) : (s.build body).WellFormed where
  members m mem := by
    have ⟨i, hi⟩ := List.mem_iff_getElem?.mp mem
    rw [getElem?_members_build] at hi
    have ⟨n, hn, eq⟩ := Option.map_eq_some_iff.mp hi
    exact eq ▸ (h.members n (List.mem_of_getElem? hn)).place _
  consecutive := by
    have := consecutive_starts s.members 0
    rwa [members_build, numRows_build, ← Nat.zero_add (width s.members)]
  filled := filled_build s body

theorem call (h : s.WellFormed) : ∀ c : Call α, (s.call c).WellFormed
  | .add name config          => h.add name config
  | .init body                => h.init body
  | .build body               => h.build body
  | .store multipliers deltas => by
    by_cases hl : multipliers.length = s.numRows ∧ deltas.length = s.numRows
    case pos =>
      rw [call_store_of_length hl.left hl.right]
      exact h.map (Member.rows_store · _ _) fun h => h.store _ _
    case neg => rwa [call_store_of_not_length hl]

theorem run (calls : List (Call α)) : (Assembly.empty.run calls).WellFormed :=
  run_preserves (fun c h => h.call c) calls .empty

end WellFormed

structure LaidOut (s : Assembly α) : Prop where
  increasing : (s.members.filter (!·.rows.isEmpty)).Pairwise (·.rows.stop ≤ ·.rows.start)
  disjoint   : ∀ {i j row : Nat} {m n : Member α}, s.members[i]? = some m →
    s.members[j]? = some n → row ∈ m.rows → row ∈ n.rows → i = j
  covered    : ∀ row, (∃ m ∈ s.members, row ∈ m.rows) ↔ row < s.numRows
  emitted    : s.matrix.rows.map Prod.fst = List.range s.numRows
  numRows    : s.matrix.numRows = s.numRows
  jacobian   : ∀ points, (s.jacobian points).rows = s.numRows
  owned      : ∀ m ∈ s.members, ¬ m.rows.isEmpty → m.rows = m.actuator.ownRows ∧
    m.actuator.state.rowCount = m.actuator.dimension ∧
    m.actuator.dimension = m.actuator.force.length

theorem WellFormed.laidOut (h : s.WellFormed) : s.LaidOut where
  increasing  := h.consecutive.pairwise
  disjoint    := h.consecutive.owner_unique
  covered row := h.consecutive.exists_mem_iff.trans (and_iff_right row.zero_le)
  emitted     := h.filled
  numRows     := h.filled.numRows_eq
  jacobian _  := h.filled.numRows_eq
  owned m mem ne := by
    have hm := h.members m mem
    have ⟨resolved, rows⟩ := hm.owner ne
    exact ⟨rows, resolved.rowCount, hm.actuator.shaped.force.symm⟩

-- There are no gaps, and rows for the active members only.
structure Packed (s : Assembly α) : Prop where
  active : ∀ m ∈ s.members, ¬ m.rows.isEmpty ↔ m.actuator.active
  first  : ∀ {m : Member α}, s.members[0]? = some m → m.rows.start = 0
  next   : ∀ {i : Nat} {m n : Member α}, s.members[i]? = some m →
    s.members[i + 1]? = some n → n.rows.start = m.rows.stop

theorem width_take_succ {ms : List (Member α)} {i : Nat} {m : Member α} (h : ms[i]? = some m) :
    width (ms.take (i + 1)) = width (ms.take i) + m.width := by
  induction ms generalizing i
  case nil => simp at h
  case cons n ms ih =>
    cases i
    case zero =>
      have : n = m := by simpa using h
      simp [width, this]
    case succ i =>
      rw [List.take_succ_cons, List.take_succ_cons, width, width, ih (by simpa using h),
        Nat.add_assoc]

theorem packed_build (s : Assembly α) (body : Body α) : (s.build body).Packed where
  active m mem := by
    have ⟨i, hi⟩ := List.mem_iff_getElem?.mp mem
    rw [getElem?_members_build] at hi
    have ⟨n, _, eq⟩ := Option.map_eq_some_iff.mp hi
    rw [← eq, Member.not_isEmpty_place_iff, Member.active_place]
  first h := by
    rw [getElem?_members_build] at h
    have ⟨n, _, eq⟩ := Option.map_eq_some_iff.mp h
    exact eq ▸ rfl
  next hi hj := by
    rw [getElem?_members_build] at hi hj
    have ⟨_, hm, eqm⟩ := Option.map_eq_some_iff.mp hi
    have ⟨_, _, eqn⟩ := Option.map_eq_some_iff.mp hj
    rw [← eqm, ← eqn]
    exact width_take_succ hm

theorem laidOut_run_and_packed_build (calls : List (Call α)) :
    (empty.run calls).LaidOut ∧ ∀ body, ((empty.run calls).build body).Packed :=
  ⟨(WellFormed.run calls).laidOut, packed_build _⟩

-- Neither the inadmissible member nor the one that came after the build has rows.
example : (empty.run sampleRun).members.map Member.rows = [⟨0, 0⟩, ⟨0, 3⟩, ⟨3, 4⟩, ⟨0, 0⟩] := by
  decide +kernel

end Assembly
end PointForce
