import PointForce.Proofs.Assembly.Invariant

-- A run of an assembly goes side by side with a run of one that has no other member, and that gets
-- the member's own slices of each solution.

namespace PointForce

namespace Actuator

variable {α : Type}

def moveTo (row : Nat) (a : Actuator α) : Actuator α :=
  { a with state := { a.state with firstRow := row } }

structure Alike (a b : Actuator α) : Prop where
  active       : a.active = b.active
  force        : a.force = b.force
  displacement : a.state.displacement = b.state.displacement
  bounds       : a.bounds = b.bounds
  dimension    : a.dimension = b.dimension
  history      : a.history = b.history

theorem alike_moveTo (row : Nat) (a : Actuator α) : (a.moveTo row).Alike a where
  active       := rfl
  force        := rfl
  displacement := rfl
  bounds       := rfl
  dimension    := rfl
  history      := rfl

variable [Scalar α]

theorem store_moveTo (row : Nat) (a : Actuator α) (multipliers deltas : List α) :
    ((a.moveTo row).store multipliers deltas).value =
      (a.store multipliers deltas).value.moveTo row :=
  rfl

variable [Elementary α]

theorem reinit_moveTo (row : Nat) (a : Actuator α) :
    (a.moveTo row).reinit.value = a.reinit.value.moveTo row :=
  rfl

theorem init_moveTo (row : Nat) (a : Actuator α) (body : Option (Body α)) :
    ((a.moveTo row).init body).2.value = (a.init body).2.value.moveTo row := by
  cases hf : a.config.fault?
  case some fault =>
    have hm : (a.moveTo row).config.fault? = some fault := hf
    rw [init_of_fault hf, init_of_fault hm]
    rfl
  case none =>
    have valid := Config.fault?_eq_none_iff.mp hf
    have ⟨_, value⟩ := init_of_valid valid body
    have ⟨_, moved⟩ := init_of_valid (a := a.moveTo row) valid body
    rw [value, moved, reinit_moveTo]
    rfl

theorem takeRows_moveTo (row first : Nat) (a : Actuator α) :
    (a.moveTo row).takeRows first = (a.takeRows 0).moveTo first :=
  rfl

end Actuator

namespace Member

variable {α : Type} [Scalar α] [Elementary α] {m : Member α}

theorem mem_lines {body : Body α} {row : Nat} {l : Line α} (h : l ∈ m.lines body row) :
    row ≤ l.1 ∧ l.1 < row + m.width := by
  rw [lines] at h
  rw [width]
  split at h
  case isTrue ha =>
    rw [if_pos ha, ← Mode.length_rowDirections]
    exact Actuator.mem_lines h
  case isFalse => cases h

theorem lines_shift (body : Body α) (offset row : Nat) (m : Member α) :
    m.lines body (offset + row) = (m.lines body row).map (Line.shift offset) := by
  rw [lines, lines]
  split
  case isTrue  => exact Actuator.lines_shift ..
  case isFalse => rfl

section Moved

variable {n : Member α} {row : Nat} (h : m.actuator = n.actuator.moveTo row)
include h

theorem width_of_moved : m.width = n.width := by
  rw [width, width, h]
  rfl

theorem lines_of_moved (body : Body α) (first : Nat) : m.lines body first = n.lines body first := by
  rw [lines, lines, h]
  rfl

theorem place_of_moved (first : Nat) :
    ∃ row, (m.place first).actuator = (n.place 0).actuator.moveTo row := by
  have same : m.actuator.active = n.actuator.active := by rw [h]; rfl
  by_cases ha : m.actuator.active
  case pos =>
    rw [place_of_active ha, place_of_active (same ▸ ha), h]
    exact ⟨first, Actuator.takeRows_moveTo ..⟩
  case neg =>
    rw [place_of_inactive ha, place_of_inactive (same ▸ ha)]
    exact ⟨row, h⟩

omit [Elementary α] in
theorem store_of_moved {multipliers deltas own own' : List α}
    (he : m.rows.isEmpty ↔ n.rows.isEmpty)
    (hm : ¬ n.rows.isEmpty → n.rows.slice own = m.rows.slice multipliers)
    (hd : ¬ n.rows.isEmpty → n.rows.slice own' = m.rows.slice deltas) :
    (m.store multipliers deltas).value.actuator =
      (n.store own own').value.actuator.moveTo row := by
  by_cases hn : n.rows.isEmpty
  case pos =>
    rw [store_of_isEmpty hn, store_of_isEmpty (he.mpr hn)]
    exact h
  case neg =>
    rw [actuator_store hn, actuator_store (mt he.mp hn), hm hn, hd hn, h]
    exact Actuator.store_moveTo ..

end Moved
end Member

namespace Assembly

variable {α : Type} [Scalar α] [Elementary α]

theorem le_of_mem_lines {body : Body α} {l : Line α} : ∀ {ms : List (Member α)} {row : Nat},
    l ∈ (starts ms row).flatMap (fun p => p.2.lines body p.1) → row ≤ l.1
  | m :: ms, row, h => by
    rw [starts, List.flatMap_cons] at h
    cases List.mem_append.mp h
    case inl h => exact (Member.mem_lines h).left
    case inr h => exact Nat.le_trans (Nat.le_add_right ..) (le_of_mem_lines h)

theorem filter_lines (body : Body α) {ms : List (Member α)} {m : Member α} {i : Nat}
    (h : ms[i]? = some m) (row : Nat) :
    ((starts ms row).flatMap fun p => p.2.lines body p.1).filter
      (·.1 ∈ (m.place (row + width (ms.take i))).rows) =
      m.lines body (row + width (ms.take i)) := by
  induction ms generalizing row i
  case nil => simp at h
  case cons n ms ih =>
    rw [starts, List.flatMap_cons, List.filter_append]
    cases i
    case zero =>
      cases Option.some.inj (List.getElem?_cons_zero ▸ h)
      rw [List.take_zero, width, Nat.add_zero]
      have own : ∀ l ∈ m.lines body row, l.1 ∈ (m.place row).rows := fun _ => Member.mem_lines
      have later : ∀ l ∈ (starts ms (row + m.width)).flatMap (fun p => p.2.lines body p.1),
          l.1 ∉ (m.place row).rows := fun _ hl mem =>
        Nat.not_lt.mpr (le_of_mem_lines hl) mem.right
      rw [List.filter_eq_self.mpr (by simpa using own),
        List.filter_eq_nil_iff.mpr (by simpa using later), List.append_nil]
    case succ i =>
      rw [List.take_succ_cons, width, ← Nat.add_assoc, ih (List.getElem?_cons_succ ▸ h)]
      have earlier : ∀ l ∈ n.lines body row,
          l.1 ∉ (m.place (row + n.width + width (ms.take i))).rows := fun _ hl mem =>
        Nat.not_lt.mpr (Nat.le_trans (Nat.le_add_right ..) mem.left) (Member.mem_lines hl).right
      rw [List.filter_eq_nil_iff.mpr (by simpa using earlier), List.nil_append]

def Call.Fits (s : Assembly α) : Call α → Prop
  | .store multipliers deltas => multipliers.length = s.numRows ∧ deltas.length = s.numRows
  | _                         => True

instance (s : Assembly α) : ∀ c : Call α, Decidable (c.Fits s)
  | .add ..                   => inferInstanceAs (Decidable True)
  | .init ..                  => inferInstanceAs (Decidable True)
  | .build ..                 => inferInstanceAs (Decidable True)
  | .store multipliers deltas =>
    inferInstanceAs (Decidable (multipliers.length = s.numRows ∧ deltas.length = s.numRows))

def Fits : Assembly α → List (Call α) → Prop
  | _, []         => True
  | s, c :: calls => c.Fits s ∧ (s.call c).Fits calls

instance decidableFits : ∀ (s : Assembly α) (calls : List (Call α)), Decidable (s.Fits calls)
  | _, []         => inferInstanceAs (Decidable True)
  | s, c :: calls =>
    have := decidableFits (s.call c) calls
    inferInstanceAs (Decidable (c.Fits s ∧ (s.call c).Fits calls))

def Call.own (rows : RowRange) : Call α → List (Call α)
  | .add _ _                  => []
  | .init body                => [.init body]
  | .build body               => [.build body]
  | .store multipliers deltas => [.store (rows.slice multipliers) (rows.slice deltas)]

-- What a whole run means for one member, which may get other rows by each build.
def ownCalls (i : Nat) : Assembly α → List (Call α) → List (Call α)
  | _, []         => []
  | s, c :: calls => c.own ((s.rowsOf? i).getD {}) ++ ownCalls i (s.call c) calls

-- The member `i` of one assembly is the only member of the other one: they are the same but for
-- the place of their rows.
inductive Mirrors (i : Nat) (s t : Assembly α) : Prop
  | intro {m n : Member α} {row : Nat}
    (member   : s.members[i]? = some m)
    (only     : t.members = [n])
    (actuator : m.actuator = n.actuator.moveTo row)
    (length   : m.rows.length = n.rows.length)
    (lines    : s.matrix.rows.filter (·.1 ∈ m.rows) = t.matrix.rows.map (Line.shift m.rows.start))

namespace Mirrors

variable {i : Nat} {s t : Assembly α}

theorem registered {configs : List (String × Config α)} {name : String} {config : Config α}
    (h : configs[i]? = some (name, config)) :
    Mirrors i (registered configs) (registered [(name, config)]) := by
  rw [Assembly.registered, Assembly.registered, run_add, run_add]
  have still : Actuator.new name config = (Actuator.new name config).moveTo 0 := rfl
  refine .intro (m := { actuator := .new name config }) ?_ rfl still rfl rfl
  exact (List.getElem?_map ..).trans (congrArg _ h)

omit [Scalar α] [Elementary α] in
theorem add (r : Mirrors i s t) (a : Actuator α) : Mirrors i (s.add a) t := by
  obtain ⟨member, only, actuator, length, lines⟩ := r
  have lt : i < s.members.length := (List.getElem?_eq_some_iff.mp member).1
  exact .intro ((List.getElem?_append_left lt).trans member) only actuator length lines

omit [Scalar α] [Elementary α] in
theorem map (r : Mirrors i s t) {f g : Member α → Member α} (rows : ∀ m, (f m).rows = m.rows)
    (rows' : ∀ n, (g n).rows = n.rows)
    (eq : ∀ {m n : Member α} {row : Nat}, s.members[i]? = some m → t.members = [n] →
      m.actuator = n.actuator.moveTo row → m.rows.length = n.rows.length →
      (f m).actuator = (g n).actuator.moveTo row) :
    Mirrors i { s with members := s.members.map f } { t with members := t.members.map g } := by
  obtain @⟨m, n, row, member, only, actuator, length, lines⟩ := r
  refine .intro (m := f m) (n := g n) ?_ ?_ (eq member only actuator length) ?_ ?_
  · exact (List.getElem?_map ..).trans (congrArg _ member)
  · exact congrArg _ only
  · rw [rows, rows', length]
  · rw [rows, lines]

theorem init (r : Mirrors i s t) (body : Option (Body α)) :
    Mirrors i (s.init body).2.value (t.init body).2.value := by
  rw [init_value, init_value]
  refine r.map (fun _ => by rw [Member.init_value]) (fun _ => by rw [Member.init_value]) ?_
  intro m n row _ _ actuator _
  rw [Member.init_value, Member.init_value, actuator, Actuator.init_moveTo]

theorem build (r : Mirrors i s t) (body : Body α) : Mirrors i (s.build body) (t.build body) := by
  obtain @⟨m, n, row, member, only, actuator, length, lines⟩ := r
  have ⟨row, moved⟩ := Member.place_of_moved actuator (width (s.members.take i))
  refine .intro (n := n.place 0) ?member ?only moved ?length ?lines
  case member => rw [getElem?_members_build, member, Option.map_some]
  case only   => rw [members_build, only]; rfl
  case length =>
    rw [Member.length_rows_place, Member.length_rows_place, Member.width_of_moved actuator]
  case lines =>
    have own := filter_lines body member 0
    rw [Nat.zero_add] at own
    have alone : (t.build body).matrix.rows = n.lines body 0 := by
      rw [rows_build, only]
      exact List.append_nil _
    rw [rows_build, own, alone, Member.lines_of_moved actuator]
    exact Member.lines_shift body _ 0 n

section Store

variable {rows : RowRange} {multipliers deltas : List α}

theorem length_slice (r : Mirrors i s t) (hs : s.WellFormed) (ht : t.WellFormed)
    (hr : s.rowsOf? i = some rows) (h : multipliers.length = s.numRows) :
    (rows.slice multipliers).length = t.numRows := by
  obtain @⟨m, n, _, member, only, _, length, _⟩ := r
  cases Option.some.inj (hr.symm.trans (congrArg (Option.map Member.rows) member))
  have ⟨count, _⟩ := Consecutive.of_singleton (m := n) (only ▸ ht.consecutive)
  rw [count, ← length]
  exact RowRange.length_slice fun ne =>
    h ▸ (hs.consecutive.within (List.mem_of_getElem? member) ne).right

theorem store (r : Mirrors i s t) (hs : s.WellFormed) (ht : t.WellFormed)
    (hr : s.rowsOf? i = some rows) (hm : multipliers.length = s.numRows)
    (hd : deltas.length = s.numRows) :
    Mirrors i (s.call (.store multipliers deltas))
      (t.call (.store (rows.slice multipliers) (rows.slice deltas))) := by
  have hm' := r.length_slice hs ht hr hm
  have hd' := r.length_slice hs ht hr hd
  rw [call_store_of_length hm hd, call_store_of_length hm' hd']
  refine r.map (Member.rows_store · _ _) (Member.rows_store · _ _) ?_
  intro m n row member only actuator length
  cases Option.some.inj (hr.symm.trans (congrArg (Option.map Member.rows) member))
  have whole {own : List α} (h : own.length = t.numRows) (ne : ¬ n.rows.isEmpty) :
      n.rows.slice own = own := by
    have ⟨_, rows⟩ := Consecutive.of_singleton (m := n) (only ▸ ht.consecutive)
    rw [rows ne, ← h]
    exact List.take_length
  refine Member.store_of_moved actuator ?_ (whole hm') (whole hd')
  rw [RowRange.isEmpty_iff_length_eq_zero, RowRange.isEmpty_iff_length_eq_zero, length]

end Store

theorem run (r : Mirrors i s t) (hs : s.WellFormed) (ht : t.WellFormed) {calls : List (Call α)}
    (fits : s.Fits calls) :
    t.Fits (ownCalls i s calls) ∧ Mirrors i (s.run calls) (t.run (ownCalls i s calls)) := by
  induction calls generalizing s t
  case nil => exact ⟨trivial, r⟩
  case cons c calls ih =>
    have later {t : Assembly α} (r : Mirrors i (s.call c) t) (ht : t.WellFormed) :=
      ih r (hs.call c) ht fits.right
    cases c
    case add name config => exact later (r.add _) ht
    case init body =>
      have ⟨fits, r⟩ := later (r.init body) (ht.init body)
      exact ⟨⟨trivial, fits⟩, r⟩
    case build body =>
      have ⟨fits, r⟩ := later (r.build body) (ht.build body)
      exact ⟨⟨trivial, fits⟩, r⟩
    case store multipliers deltas =>
      have ⟨rows, hr⟩ : ∃ rows, s.rowsOf? i = some rows := by
        obtain ⟨member, _, _, _, _⟩ := r
        exact ⟨_, congrArg (Option.map Member.rows) member⟩
      have ⟨hm, hd⟩ := fits.left
      have fit := And.intro (r.length_slice hs ht hr hm) (r.length_slice hs ht hr hd)
      have ⟨fits, r⟩ := later (r.store hs ht hr hm hd) (ht.call _)
      rw [ownCalls, hr]
      exact ⟨⟨fit, fits⟩, r⟩

end Mirrors

-- This holds after each step, as the beginning of a run is itself a run.
theorem run_as_if_alone {configs : List (String × Config α)} {i : Nat} {name : String}
    {config : Config α} (h : configs[i]? = some (name, config)) {calls : List (Call α)}
    (fits : (registered configs).Fits calls) :
    (registered [(name, config)]).Fits (ownCalls i (registered configs) calls) ∧
    ∃ m n : Member α,
      ((registered configs).run calls).members[i]? = some m ∧
      ((registered [(name, config)]).run (ownCalls i (registered configs) calls)).members = [n] ∧
      m.actuator.Alike n.actuator ∧
      m.rows.length = n.rows.length ∧
      ((registered configs).run calls).matrix.rows.filter (·.1 ∈ m.rows) =
        ((registered [(name, config)]).run
          (ownCalls i (registered configs) calls)).matrix.rows.map (Line.shift m.rows.start) := by
  have ⟨fits, r⟩ := (Mirrors.registered h).run (.run _) (.run _) fits
  obtain ⟨member, only, actuator, length, lines⟩ := r
  exact ⟨fits, _, _, member, only, actuator ▸ Actuator.alike_moveTo .., length, lines⟩

theorem run_as_if_alone_beside_others : ∃ config m n,
    sampleConfigs[2]? = some ("push", config) ∧ (registered sampleConfigs).Fits sampleCalls ∧
    ((registered sampleConfigs).run sampleCalls).members[2]? = some m ∧
    ((registered [("push", config)]).run
      (ownCalls 2 (registered sampleConfigs) sampleCalls)).members = [n] ∧
    m.actuator.Alike n.actuator := by
  have fits : (registered sampleConfigs).Fits sampleCalls := by decide +kernel
  have ⟨_, m, n, member, only, alike, _, _⟩ := run_as_if_alone (i := 2) rfl fits
  exact ⟨_, m, n, rfl, fits, member, only, alike⟩

end Assembly
end PointForce
