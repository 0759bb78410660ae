import PointForce.Proofs.Arithmetic.Binary64
import PointForce.Proofs.Assembly.Single
import PointForce.Proofs.Host.Calls
import PointForce.Proofs.Limits.Ordered
import PointForce.Proofs.Matrix.Word

-- One and the same actuator, held by a host through a handle and by an assembly as its only member,
-- gives the same answers, however long both run.

namespace PointForce

namespace Host

structure Round where
  cloud       : PointCloud Float
  multipliers : List Float
  deltas      : List Float
  capacity    : Nat
  rows        : RowArrays
  bounds      : BoundArrays
  force       : List Float

structure Answers where
  rowCount     : Nat
  triplets     : List (Triplet Float)
  bounds       : SystemBounds Float
  force        : List Float
  displacement : Float
  deriving DecidableEq

def entries (c : Config Float) (cloud : PointCloud Float) : Nat :=
  (Handle.build { actuator := .new "" c, cloud := some cloud } 0).triplets.length

structure Round.Fits (c : Config Float) (r : Round) : Prop where
  multipliers : r.multipliers.length = c.dimension
  deltas      : r.deltas.length = c.dimension
  capacity    : entries c r.cloud ≤ r.capacity
  rows        : r.rows.Room (entries c r.cloud)
  bounds      : r.bounds.Room c.dimension
  force       : c.dimension ≤ r.force.length

instance (c : Config Float) (r : Round) : Decidable (r.Fits c) :=
  decidable_of_iff
    (r.multipliers.length = c.dimension ∧ r.deltas.length = c.dimension ∧
      entries c r.cloud ≤ r.capacity ∧ r.rows.Room (entries c r.cloud) ∧
      r.bounds.Room c.dimension ∧ c.dimension ≤ r.force.length)
    ⟨fun ⟨m, d, e, r, b, f⟩ => ⟨m, d, e, r, b, f⟩, fun ⟨m, d, e, r, b, f⟩ => ⟨m, d, e, r, b, f⟩⟩

def answers {σ : Type} (round : σ → Round → Option (σ × Answers)) :
    σ → List Round → Option (List Answers)
  | _, []      => some []
  | s, r :: rs => do
    let (s, first) ← round s r
    return first :: (← answers round s rs)

theorem exists_answers {σ τ : Type} {f : σ → Round → Option (σ × Answers)}
    {g : τ → Round → Option (τ × Answers)} {R : σ → τ → Prop} {P : Round → Prop}
    (step : ∀ {s t r}, R s t → P r →
      ∃ s' t' first, f s r = some (s', first) ∧ g t r = some (t', first) ∧ R s' t') :
    ∀ {s t} {rounds : List Round}, R s t → (∀ r ∈ rounds, P r) →
      ∃ all, answers f s rounds = some all ∧ answers g t rounds = some all
  | _, _, [],      _, _ => ⟨[], rfl, rfl⟩
  | _, _, r :: rs, h, fits => by
    have ⟨s, t, first, hf, hg, h⟩ := step h (fits r List.mem_cons_self)
    have later : ∀ r ∈ rs, P r := fun r mem => fits r (List.mem_cons_of_mem _ mem)
    have ⟨rest, hf', hg'⟩ := exists_answers step h later
    exact ⟨first :: rest, by simp [answers, hf, hf'], by simp [answers, hg, hg']⟩

namespace Session

def begin (s : Session) (slot : String) (name config : List UInt8) (initial : PointCloud Float) :
    Option Session := do
  let (s, .created true) ← s.ask (.create slot (some name) (some config)) | none
  let (s, .status .ok)   ← s.ask (.setPositions slot (some initial.flat) initial.size) | none
  let (s, .status .ok)   ← s.ask (.init slot) | none
  return s

def round (slot : String) (s : Session) (r : Round) : Option (Session × Answers) := do
  let (s, .status .ok)        ← s.ask (.setPositions slot (some r.cloud.flat) r.cloud.size) | none
  let (s, .rows .ok rows)     ← s.ask (.buildRows slot 0 r.capacity r.rows) | none
  let (s, .bounds .ok bounds) ← s.ask (.bounds slot r.bounds) | none
  let (s, .status .ok)        ← s.ask (.store slot (some r.multipliers) r.multipliers.length
    (some r.deltas) r.deltas.length) | none
  let (s, .force .ok force)   ← s.ask (.force slot r.force.length (some r.force)) | none
  let (s, .number displacement) ← s.ask (.displacement slot) | none
  let rowCount := rows.rowCount.getD 0
  return (s, {
    rowCount
    triplets := rows.triplets
    bounds   := bounds.read rowCount
    force    := (force.getD []).take rowCount
    displacement })

def simulate (s : Session) (slot : String) (name config : List UInt8) (initial : PointCloud Float)
    (rounds : List Round) : Option (List Answers) := do
  answers (round slot) (← s.begin slot name config initial) rounds

end Session
end Host

namespace Assembly

open Host (Round Answers)

def begin (name : String) (c : Config Float) (initial : PointCloud Float) :
    Option (Assembly Float) :=
  match (registered [(name, c)]).init (some initial.body) with
  | (none,   started) => some started.value
  | (some _, _)       => none

def round (s : Assembly Float) (r : Round) : Option (Assembly Float × Answers) := do
  let built := s.build r.cloud.body
  let .ok stored := built.store r.multipliers r.deltas | none
  let a ← stored.value.actuator? 0
  return (stored.value, {
    rowCount     := built.numRows
    triplets     := built.matrix.triplets r.cloud.size
    bounds       := built.bounds
    force        := a.force
    displacement := a.state.displacement })

def simulate (name : String) (c : Config Float) (initial : PointCloud Float)
    (rounds : List Round) : Option (List Answers) := do
  Host.answers round (← begin name c initial) rounds

end Assembly

namespace Actuator

open Host (Round Answers)

def answers (a : Actuator Float) (r : Round) : Answers where
  rowCount     := a.config.dimension
  triplets     := (a.build r.cloud.body .empty 0).2.triplets r.cloud.size
  bounds       := a.bounds.system a.config.dimension
  force        := r.multipliers
  displacement := (a.store r.multipliers r.deltas).value.state.displacement

def next (a : Actuator Float) (r : Round) : Actuator Float :=
  ((a.takeRows 0).store r.multipliers r.deltas).value

structure Running (c : Config Float) (a : Actuator Float) : Prop where
  active     : a.active
  wellFormed : a.WellFormed
  config     : a.config = c
  penalty    : a.state.penalty = c.penalty

namespace Running

variable {c : Config Float} {a : Actuator Float}

theorem init (valid : c.Valid) (name : String) (body : Body Float) :
    Running c ((new name c).init (some body)).2.value := by
  have wf := (WellFormed.new name c).init (some body)
  have ⟨_, value⟩ := init_of_valid (a := .new name c) valid (some body)
  rw [value] at wf ⊢
  exact ⟨rfl, wf, rfl, rfl⟩

theorem takeRows (h : a.Running c) (row : Nat) : (a.takeRows row).Running c where
  active     := h.active
  wellFormed := h.wellFormed.takeRows row
  config     := h.config
  penalty    := h.penalty

theorem store (h : a.Running c) (multipliers deltas : List Float) :
    (a.store multipliers deltas).value.Running c where
  active     := h.active
  wellFormed := h.wellFormed.store multipliers deltas
  config     := h.config
  penalty    := h.penalty

theorem dimension (h : a.Running c) : a.dimension = c.dimension :=
  (h.wellFormed.resolved h.active).dimension.trans (congrArg _ h.config)

theorem length_force (h : a.Running c) : a.force.length = c.dimension :=
  h.wellFormed.shaped.force.trans h.dimension

theorem sized_bounds (h : a.Running c) : a.bounds.Sized c.dimension :=
  h.dimension ▸ Bounds.sized_of_shaped h.wellFormed.shaped

-- A valid configuration has no penalty that passes for none.
theorem numeric (h : a.Running c) (valid : c.Valid) (p : Float) (hp : a.bounds.penalty = some p) :
    p.isNaN = false := by
  have given : c.penalty = some p := h.penalty.symm.trans hp
  have finite : Scalar.isFinite p :=
    valid.isFinite (p := .penalty) (by simp [Config.optional, given])
  exact Binary64.isNumber_iff.mp (Rounding.isNumber_of_isFinite finite)

end Running
end Actuator

namespace Assembly

open Host (Round)

variable {c : Config Float} {s : Assembly Float} {a : Actuator Float} {rows : RowRange} {r : Round}

theorem exists_begin (valid : c.Valid) (name : String) (initial : PointCloud Float) :
    ∃ s, begin name c initial = some s ∧ s.WellFormed ∧
      s.members = [{ actuator := ((Actuator.new name c).init (some initial.body)).2.value }] := by
  have ⟨ok, members⟩ := init_registered name valid (some initial.body)
  have wf := (WellFormed.run [.add name c]).init (some initial.body)
  refine ⟨_, ?_, wf, members⟩
  rw [begin]
  split
  case h_1 eq => exact congrArg some (congrArg (·.2.value) eq).symm
  case h_2 eq => exact absurd (ok.symm.trans (congrArg Prod.fst eq)) nofun

theorem exists_round (only : s.members = [⟨a, rows⟩]) (wf : s.WellFormed) (running : a.Running c)
    (fits : r.Fits c) :
    ∃ s' rows', s.round r = some (s', a.answers r) ∧ s'.members = [⟨a.next r, rows'⟩] ∧
      s'.WellFormed := by
  cases running.config
  have built  := build_of_single only running.active r.cloud.body
  have only'  := congrArg members built
  have count  := congrArg numRows built
  have bounds := (wf.build r.cloud.body).bounds_of_single only' count running.sized_bounds
  have ⟨stored, ok, value⟩ :=
    store_of_single only' count (Mode.dimension_pos _) fits.multipliers fits.deltas
  have wf' := (wf.build r.cloud.body).call (.store r.multipliers r.deltas)
  rw [call, ok] at wf'
  have force : (a.next r).force = r.multipliers :=
    Actuator.force_store (fits.multipliers.trans running.length_force.symm) r.deltas
  have known : stored.value.actuator? 0 = some (a.next r) := by rw [value]; rfl
  refine ⟨stored.value, _, ?answers, congrArg members value, wf'⟩
  simp only [round, ok, known, Option.bind_eq_bind, Option.bind_some, count, bounds, force]
  rw [built]
  rfl

end Assembly

namespace Host

open Actuator (Running)

inductive Shared (slot : String) (c : Config Float) (s : Session) (t : Assembly Float) : Prop
  | intro {h : Handle} {rows : RowRange}
    (held       : s.handle? slot = some h)
    (only       : t.members = [⟨h.actuator, rows⟩])
    (wellFormed : t.WellFormed)
    (running    : h.actuator.Running c)

variable {slot : String} {c : Config Float} {s : Session} {t : Assembly Float} {r : Round}

theorem Session.exists_begin (s : Session) (slot : String) {name config : List UInt8} {label : String}
    (created : Handle.create (some name) (some config) = .ok { actuator := .new label c })
    (valid : c.Valid) (initial : PointCloud Float) :
    ∃ s' h, s.begin slot name config initial = some s' ∧ s'.handle? slot = some h ∧
      h.actuator = ((Actuator.new label c).init (some initial.body)).2.value := by
  let fresh : Handle := { actuator := .new label c }
  let moved : Handle := { fresh with cloud := some initial }
  obtain ⟨s₁, create, held₁⟩ : ∃ s₁, s.ask (.create slot (some name) (some config)) =
      some (s₁, .created true) ∧ s₁.handle? slot = some fresh :=
    ⟨_, ask_create slot created, handle?_keep ..⟩
  obtain ⟨s₂, move, held₂⟩ : ∃ s₂, s₁.ask (.setPositions slot (some initial.flat) initial.size) =
      some (s₂, .status .ok) ∧ s₂.handle? slot = some moved :=
    ⟨_, ask_setPositions held₁ initial, handle?_keep ..⟩
  let started : Handle :=
    { moved with actuator := (moved.actuator.init (moved.cloud.map PointCloud.body)).2.value }
  obtain ⟨s₃, init, held₃⟩ : ∃ s₃, s₂.ask (.init slot) = some (s₃, .status .ok) ∧
      s₃.handle? slot = some started :=
    ⟨_, ask_init held₂ valid, handle?_keep ..⟩
  refine ⟨s₃, started, ?_, held₃, rfl⟩
  simp only [begin, create, move, init, Option.bind_eq_bind, Option.bind_some]
  rfl

theorem Session.exists_round {h : Handle} (held : s.handle? slot = some h)
    (running : h.actuator.Running c) (valid : c.Valid) (fits : r.Fits c) :
    ∃ s' h', s.round slot r = some (s', h.actuator.answers r) ∧ s'.handle? slot = some h' ∧
      h'.actuator = h.actuator.next r := by
  obtain ⟨a, cloud, matrix⟩ := h
  cases running.config
  let moved : Handle  := { actuator := a, cloud := some r.cloud, matrix }
  let built : Handle  := moved.build 0
  let stored : Handle :=
    { built with actuator := (built.actuator.store r.multipliers r.deltas).value }
  have placed : built.actuator.Running a.config := running.takeRows 0
  have force : stored.actuator.force = r.multipliers :=
    Actuator.force_store (fits.multipliers.trans placed.length_force.symm) r.deltas
  -- Each call finds the handle that the one before it left behind.
  obtain ⟨s₁, move, held₁⟩ : ∃ s₁, s.ask (.setPositions slot (some r.cloud.flat) r.cloud.size) =
      some (s₁, .status .ok) ∧ s₁.handle? slot = some moved :=
    ⟨_, ask_setPositions held r.cloud, handle?_keep ..⟩
  obtain ⟨rows, written, triplets, rowCount⟩ := ask_buildRows held₁ fits.capacity fits.rows
  obtain ⟨s₂, build, held₂⟩ : ∃ s₂, s₁.ask (.buildRows slot 0 r.capacity r.rows) =
      some (s₂, .rows .ok rows) ∧ s₂.handle? slot = some built :=
    ⟨_, written, handle?_keep ..⟩
  obtain ⟨bounds, read, told⟩ := ask_bounds held₂ (placed.dimension.symm ▸ fits.bounds)
    (placed.dimension.symm ▸ placed.sized_bounds) (placed.numeric valid)
  obtain ⟨s₃, store, held₃⟩ : ∃ s₃, s₂.succeed.ask (.store slot (some r.multipliers)
      r.multipliers.length (some r.deltas) r.deltas.length) = some (s₃, .status .ok) ∧
      s₃.handle? slot = some stored :=
    ⟨_, ask_store held₂ r.multipliers r.deltas, handle?_keep ..⟩
  have room : r.multipliers.length ≤ r.force.length := fits.multipliers ▸ fits.force
  have apply := ask_force held₃ (force.symm ▸ room)
  have shown := ask_displacement (s := s₃.succeed) held₃
  rw [force] at apply
  -- What the arrays hold afterwards.
  have first : 0 + a.config.dimension ≤ UInt64.size := by
    rw [Nat.zero_add]
    exact a.config.mode.dimension_le.trans (by decide)
  have fresh : (moved.build 0).triplets = (a.answers r).triplets :=
    congrArg (·.triplets r.cloud.size) (Actuator.wrapped_build first r.cloud.body)
  have count : rows.rowCount.getD 0 = a.config.dimension := congrArg (·.getD 0) rowCount
  have front : (Buffer.overwrite r.multipliers r.force).take a.config.dimension = r.multipliers :=
    fits.multipliers ▸ Buffer.take_overwrite room
  rw [placed.dimension] at told
  refine ⟨s₃.succeed, stored, ?_, held₃, rfl⟩
  simp only [round, move, build, read, store, apply, shown, Option.bind_eq_bind, Option.bind_some,
    count, triplets, fresh, told, Option.getD_some, front]
  rfl

theorem Shared.round (shared : Shared slot c s t) (valid : c.Valid) (fits : r.Fits c) :
    ∃ s' t' first, s.round slot r = some (s', first) ∧ t.round r = some (t', first) ∧
      Shared slot c s' t' := by
  obtain ⟨held, only, wellFormed, running⟩ := shared
  have ⟨s', h', asked, held', next⟩ := Session.exists_round held running valid fits
  have ⟨t', _, built, only', wellFormed'⟩ := Assembly.exists_round only wellFormed running fits
  refine ⟨s', t', _, asked, built, .intro held' (next ▸ only') wellFormed' ?_⟩
  exact next ▸ (running.takeRows 0).store ..

theorem exists_simulate {text : List Char} (accepted : Config.ofDocument text = .ok c)
    (s : Session) (slot : String) (name beyond : List UInt8) (initial : PointCloud Float)
    {rounds : List Round} (fits : ∀ r ∈ rounds, r.Fits c) :
    ∃ all,
      s.simulate slot name (Text.encode text ++ 0 :: beyond) initial rounds = some all ∧
      Assembly.simulate (Text.decodeLossy (Handle.terminated name)) c initial rounds =
        some all := by
  have valid   := Config.valid_of_ofDocument accepted
  have created := Handle.create_of_accepted accepted name beyond
  generalize Text.decodeLossy (Handle.terminated name) = label at created ⊢
  have ⟨s', h, begun, held, started⟩ :=
    Session.exists_begin s slot created valid initial
  have ⟨t, begun', wellFormed, only⟩ := Assembly.exists_begin valid label initial
  have running : h.actuator.Running c := started ▸ .init valid label initial.body
  have shared : Shared slot c s' t := .intro held (started ▸ only) wellFormed running
  have ⟨all, session, assembly⟩ :=
    exists_answers (f := Session.round slot) (g := Assembly.round) (R := Shared slot c)
      (fun shared fits => shared.round valid fits) shared fits
  refine ⟨all, ?_, ?_⟩
  · simp only [Session.simulate, begun, Option.bind_eq_bind, Option.bind_some, session]
  · simp only [Assembly.simulate, begun', Option.bind_eq_bind, Option.bind_some, assembly]

def growingText : List Char :=
  "[[1, 4], [1, 0, 0], 10, -10, 3, 1, 0.5]".toList

def growingConfig : Config Float :=
  { Config.unset with
    indices           := [1, 4]
    direction         := ⟨1, 0, 0⟩
    maxForce          := some 10
    minForce          := some (-10)
    initForce         := some 3
    maxForceVariation := some 1
    penalty           := some 0.5 }

def lend (cloud : PointCloud Float) (multiplier delta : Float) : Round where
  cloud
  multipliers := [multiplier]
  deltas      := [delta]
  capacity    := 2
  rows        := ⟨some [0, 0], some [0, 0], some [0, 0], some 0, some 0⟩
  bounds      := ⟨some [0], some [0], some [0], some false, some false, some false, some 0⟩
  force       := [0]

def growingRounds : List Round :=
  let small : PointCloud Float := ⟨[⟨0, 0, 0⟩, ⟨1, 0, 0⟩]⟩
  let large : PointCloud Float := ⟨small.points ++ [⟨2, 0, 0⟩, ⟨3, 0, 0⟩, ⟨4, 0, 0⟩]⟩
  [lend small 4 0.25, lend large 3.5 (-1)]

theorem exists_simulate_of_growing :
    Config.ofDocument growingText = .ok growingConfig ∧
    (∀ r ∈ growingRounds, r.Fits growingConfig) ∧
    ∃ all,
      Session.start.simulate "cable" [] (Text.encode growingText ++ [0]) .empty growingRounds =
        some all ∧
      Assembly.simulate "" growingConfig .empty growingRounds = some all := by
  have read : (Config.ofDocument growingText).toOption = some growingConfig := by decide +kernel
  have accepted : Config.ofDocument growingText = .ok growingConfig := by
    revert read
    cases Config.ofDocument growingText
    case error => exact nofun
    case ok c  => exact fun eq => congrArg _ (Option.some.inj eq)
  have fits : ∀ r ∈ growingRounds, r.Fits growingConfig := by decide +kernel
  have label : Text.decodeLossy (Handle.terminated []) = "" := by decide +kernel
  have agree := exists_simulate accepted .start "cable" [] [] .empty fits
  rw [label] at agree
  exact ⟨accepted, fits, agree⟩

-- The second round pulls at both points, and starts from the force of the first one.
example : Assembly.simulate "" growingConfig .empty growingRounds = some [
    { rowCount     := 1
      triplets     := [⟨0, 3, 1⟩]
      bounds       := ⟨[2], [4], [3], [some 0.5]⟩
      force        := [4]
      displacement := 0.25 },
    { rowCount     := 1
      triplets     := [⟨0, 3, 1⟩, ⟨0, 12, 1⟩]
      bounds       := ⟨[3], [5], [3], [some 0.5]⟩
      force        := [3.5]
      displacement := -1 }] := by
  decide +kernel

end Host
end PointForce
