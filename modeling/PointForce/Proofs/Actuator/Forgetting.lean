import PointForce.Proofs.Actuator.Run
import PointForce.Proofs.Limits.Box

-- A re-initialisation keeps the old vectors, but all that an active bound shows of them is written
-- anew, and of the guess no entry but the first is ever written.

namespace PointForce

namespace Buffer

variable {α : Type}

theorem mem_tail_resize {n : Nat} {fill x : α} {xs : List α} (h : x ∈ (resize n fill xs).tail) :
    x ∈ xs.tail ∨ x = fill := by
  rw [resize] at h
  cases xs
  case nil =>
    have : x ∈ List.replicate n fill := List.mem_of_mem_tail (by simpa using h)
    exact .inr (List.eq_of_mem_replicate this)
  case cons y ys =>
    cases n
    case zero   => simp at h
    case succ n =>
      cases List.mem_append.mp h
      case inl h => exact .inl (List.mem_of_mem_take h)
      case inr h => exact .inr (List.eq_of_mem_replicate h)

end Buffer

namespace State

variable {α : Type} [Scalar α] {s : State α}

omit [Scalar α] in
theorem tail_seed (init : Option α) (values : List α) :
    (seed init values).tail = values.tail := by
  cases init
  case none   => rfl
  case some v => cases values <;> rfl

def GuessesFirst (s : State α) : Prop :=
  ∀ x ∈ s.guess.values.tail, x = 0

theorem GuessesFirst.unresolved : (unresolved : State α).GuessesFirst :=
  fun _ h => absurd h List.not_mem_nil

variable [Elementary α]

theorem GuessesFirst.resolve (h : s.GuessesFirst) (c : Config α) : (s.resolve c).GuessesFirst := by
  intro x mem
  rw [State.resolve, tail_seed] at mem
  exact (Buffer.mem_tail_resize mem).elim (h x) id

theorem GuessesFirst.exposed_guess_resolve (h : s.GuessesFirst) (c : Config α) :
    (s.resolve c).guess.exposed =
      c.initForce.map (· :: List.replicate (c.dimension - 1) 0) := by
  have zeros : (s.resolve c).guess.values.tail = List.replicate (c.dimension - 1) 0 := by
    refine List.eq_replicate_iff.mpr ⟨?_, h.resolve c⟩
    rw [List.length_tail, (Shaped.resolve c s).guess]
    rfl
  rw [State.resolve, tail_seed] at zeros
  cases init : c.initForce
  case none   => exact if_neg (by simp [State.resolve, init])
  case some v =>
    have pos : 0 < (Buffer.resize c.dimension 0 s.guess.values).length := by
      rw [Buffer.length_resize]
      exact c.mode.dimension_pos
    have values : (s.resolve c).guess.values = v :: List.replicate (c.dimension - 1) 0 := by
      rw [State.resolve, init, ← zeros]
      obtain ⟨x, xs, eq⟩ := List.exists_cons_of_length_pos pos
      rw [eq]
      rfl
    exact (if_pos (by simp [State.resolve, init])).trans (congrArg some values)

end State

namespace Config

variable {α : Type} [Scalar α] [Elementary α]

def initialForce (c : Config α) : List α :=
  List.replicate c.dimension (c.initForce.getD 0)

def initialBounds (c : Config α) : Bounds α where
  lower   := c.lowerBound c.initialForce
  upper   := c.upperBound c.initialForce
  guess   := c.initForce.map (· :: List.replicate (c.dimension - 1) 0)
  penalty := c.penalty

end Config

namespace Actuator

variable {α : Type} [Scalar α] [Elementary α] {a b : Actuator α}

theorem bounds_reinit (h : a.state.GuessesFirst) :
    a.reinit.value.bounds = a.config.initialBounds := by
  have shaped := State.Shaped.resolve a.config a.state |>.activate a.config
  have on     := State.Activated.activate a.config (a.state.resolve a.config)
  have guess  := h.exposed_guess_resolve a.config
  refine (shaped.bounds_limit on).trans ?_
  rw [Config.initialBounds, ← guess]
  rfl

structure Tidy (a : Actuator α) : Prop where
  shaped : a.state.Shaped
  guess  : a.state.GuessesFirst

structure Settled (a : Actuator α) : Prop extends Tidy a where
  activated : a.state.Activated a.config

omit [Elementary α] in
theorem Tidy.new (name : String) (config : Config α) : (new name config).Tidy where
  shaped := .unresolved
  guess  := .unresolved

omit [Elementary α] in
theorem Tidy.overwrite (h : a.Tidy) (multipliers : List α) (displacement : α) :
    Tidy { a with
      state := { a.state with displacement, force := Buffer.overwrite multipliers a.force } } where
  shaped := h.shaped.overwrite multipliers displacement
  guess  := h.guess

omit [Elementary α] in
theorem Tidy.updateLimits (h : a.Tidy) : a.updateLimits.value.Tidy where
  shaped := h.shaped.limit a.config
  guess  := h.guess

theorem Tidy.reinit (h : a.Tidy) (active : Bool) : Settled { a.reinit.value with active } where
  shaped    := .limit (.activate (.resolve ..) _) _
  guess     := h.guess.resolve a.config
  activated := .limit (.activate ..)

theorem Tidy.call (h : a.Tidy) (c : Call α) : (a.call c).value.Tidy := by
  cases c
  case init body =>
    cases a.call_init_cases body
    case inl eq => exact eq ▸ ⟨h.shaped, h.guess⟩
    case inr eq => exact eq ▸ (h.reinit _).toTidy
  case reinit => exact (h.reinit a.active).toTidy
  case setConfig config =>
    cases a.call_setConfig_cases config
    case inl eq => rwa [eq]
    case inr eq =>
      have configured : Tidy { a with config } := ⟨h.shaped, h.guess⟩
      exact eq.right ▸ (configured.reinit a.active).toTidy
  case updateLimits => exact h.updateLimits
  case build =>
    exact ⟨⟨h.shaped.force, h.shaped.lower, h.shaped.upper, h.shaped.guess⟩, h.guess⟩
  case store multipliers deltas =>
    have stored := h.overwrite multipliers (deltas.head?.getD a.state.displacement)
    exact ⟨stored.updateLimits.shaped, stored.guess⟩

theorem Tidy.run (h : a.Tidy) (calls : List (Call α)) : (a.run calls).value.Tidy :=
  run_preserves (fun (_ : True) h => h.call _) (fun _ _ => trivial) h

theorem Settled.activated_call (h : a.Settled) (c : Call α) :
    (a.call c).value.state.Activated (a.call c).value.config := by
  cases c
  case init body =>
    cases a.call_init_cases body
    case inl eq => exact eq ▸ h.activated
    case inr eq => exact eq ▸ (h.reinit _).activated
  case reinit => exact (h.reinit a.active).activated
  case setConfig config =>
    cases a.call_setConfig_cases config
    case inl eq => rw [eq]; exact h.activated
    case inr eq =>
      have configured : Tidy { a with config } := ⟨h.shaped, h.guess⟩
      exact eq.right ▸ (configured.reinit a.active).activated
  case updateLimits => exact h.activated.limit
  case build        => exact ⟨h.activated.lower, h.activated.upper⟩
  case store        => exact ⟨h.activated.lower, h.activated.upper⟩

theorem Settled.call (h : a.Settled) (c : Call α) : (a.call c).value.Settled where
  toTidy    := h.toTidy.call c
  activated := h.activated_call c

-- They may differ in what stands behind bounds that are not active, and in the results that no
-- initialisation touches: the displacement and the first row.
structure Resembles (a b : Actuator α) : Prop where
  config    : a.config = b.config
  dimension : a.dimension = b.dimension
  rowCount  : a.state.rowCount = b.state.rowCount
  force     : a.force = b.force
  bounds    : a.bounds = b.bounds
  history   : a.history = b.history

namespace Resembles

theorem reinit (config : a.config = b.config) (ha : a.Tidy) (hb : b.Tidy) (active active' : Bool) :
    Resembles { a.reinit.value with active } { b.reinit.value with active := active' } where
  config    := config
  dimension := congrArg Config.dimension config
  rowCount  := congrArg Config.dimension config
  force     := congrArg Config.initialForce config
  bounds    :=
    calc a.reinit.value.bounds
      _ = a.config.initialBounds := bounds_reinit ha.guess
      _ = b.config.initialBounds := congrArg Config.initialBounds config
      _ = b.reinit.value.bounds  := (bounds_reinit hb.guess).symm
  history   := rfl

variable (r : a.Resembles b)
include r

omit [Elementary α] in
theorem updateLimits (ha : a.Settled) (hb : b.Settled) :
    a.updateLimits.value.Resembles b.updateLimits.value where
  config    := r.config
  dimension := r.dimension
  rowCount  := r.rowCount
  force     := r.force
  bounds    := by
    have force : a.state.force = b.state.force := r.force
    have guess : a.state.guess.exposed = b.state.guess.exposed := congrArg Bounds.guess r.bounds
    have penalty : a.state.penalty = b.state.penalty := congrArg Bounds.penalty r.bounds
    refine (ha.shaped.bounds_limit ha.activated).trans ?_
    refine Eq.trans ?_ (hb.shaped.bounds_limit hb.activated).symm
    rw [r.config, force, guess, penalty]
  history   := r.history

omit [Elementary α] in
theorem store (ha : a.Settled) (hb : b.Settled) (multipliers deltas : List α) :
    (a.store multipliers deltas).value.Resembles (b.store multipliers deltas).value := by
  have written := updateLimits (a := { a with state := { a.state with
    displacement := deltas.head?.getD a.state.displacement
    force        := Buffer.overwrite multipliers a.force } }) (b := { b with state := { b.state with
    displacement := deltas.head?.getD b.state.displacement
    force        := Buffer.overwrite multipliers b.force } })
    ⟨r.config, r.dimension, r.rowCount, congrArg (Buffer.overwrite multipliers) r.force, r.bounds,
      r.history⟩
    ⟨ha.overwrite .., ⟨ha.activated.lower, ha.activated.upper⟩⟩
    ⟨hb.overwrite .., ⟨hb.activated.lower, hb.activated.upper⟩⟩
  exact { written with history := congrArg (History.record · multipliers deltas) r.history }

theorem call (ha : a.Settled) (hb : b.Settled) (c : Call α) :
    (a.call c).value.Resembles (b.call c).value := by
  cases c
  case init body =>
    cases hf : a.config.fault?
    case some fault =>
      have hf' : b.config.fault? = some fault := r.config ▸ hf
      rw [Actuator.call, Actuator.call, init_of_fault hf, init_of_fault hf']
      exact ⟨r.config, r.dimension, r.rowCount, r.force, r.bounds, r.history⟩
    case none =>
      have valid := Config.fault?_eq_none_iff.mp hf
      have valid' : b.config.Valid := r.config ▸ valid
      rw [Actuator.call, Actuator.call, (init_of_valid valid body).right,
        (init_of_valid valid' body).right]
      exact reinit r.config ha.toTidy hb.toTidy _ _
  case reinit => exact reinit r.config ha.toTidy hb.toTidy _ _
  case setConfig config =>
    cases hf : config.fault?
    case some fault =>
      rw [Actuator.call, Actuator.call, setConfig_of_fault hf, setConfig_of_fault hf]
      exact r
    case none =>
      have valid := Config.fault?_eq_none_iff.mp hf
      rw [Actuator.call, Actuator.call, setConfig_of_valid valid, setConfig_of_valid valid]
      exact reinit (a := { a with config }) (b := { b with config }) rfl
        ⟨ha.shaped, ha.guess⟩ ⟨hb.shaped, hb.guess⟩ _ _
  case updateLimits => exact r.updateLimits ha hb
  case build =>
    exact ⟨r.config, r.dimension, congrArg Config.dimension r.config, r.force, r.bounds, r.history⟩
  case store multipliers deltas => exact r.store ha hb multipliers deltas

theorem run (ha : a.Settled) (hb : b.Settled) (calls : List (Call α)) :
    (a.run calls).value.Resembles (b.run calls).value := by
  induction calls generalizing a b
  case nil             => exact r
  case cons c calls ih => exact ih (r.call ha hb c) (ha.call c) (hb.call c)

end Resembles

def AsNew (a : Actuator α) : Prop :=
  ∀ calls, (a.run calls).value.Resembles ((new a.name a.config).reinit.value.run calls).value

theorem Tidy.asNew_reinit (h : a.Tidy) (active : Bool) :
    AsNew { a.reinit.value with active } := by
  intro calls
  have fresh := Tidy.new a.name a.config
  have same  := Resembles.reinit (a := a) (b := .new a.name a.config) rfl h fresh active false
  exact same.run (h.reinit active) (fresh.reinit false) calls

theorem asNew_of_run (name : String) (config : Config α) (past : List (Call α)) {c : Config α}
    (valid : c.Valid) :
    let a := ((new name config).run past).value
    (∃ b, a.setConfig c = .ok b ∧ b.value.config = c ∧ b.value.AsNew) ∧
    (a.config = c → a.reinit.value.AsNew ∧
      ∀ body, (a.init body).1 = .ok () ∧ (a.init body).2.value.AsNew) := by
  intro a
  have tidy : a.Tidy := Tidy.new name config |>.run past
  have configured : Tidy { a with config := c } := ⟨tidy.shaped, tidy.guess⟩
  constructor
  case left =>
    exact ⟨_, setConfig_of_valid valid a, rfl, configured.asNew_reinit a.active⟩
  case right =>
    intro eq
    refine ⟨tidy.asNew_reinit a.active, fun body => ?_⟩
    have ⟨success, value⟩ := init_of_valid (eq ▸ valid) body
    exact ⟨success, value ▸ tidy.asNew_reinit _⟩

def bandedConfig : Config Float where
  __                := Config.unset
  initForce         := some 2
  maxForceVariation := some 1

def sampleHistory : List (Call Float) :=
  [.init none, .store [7, 8, 9] [0.5], .setConfig { Config.unset with direction := ⟨0, 1, 0⟩ },
    .store [4] [], .setConfig bandedConfig, .build (.ofPoints 4 []) .empty 5, .store [6] [0.25]]

theorem asNew_of_sampleHistory :
    bandedConfig.Valid ∧
    let a := ((new "wander" bandedConfig).run sampleHistory).value
    a.force = [6, 2, 2] ∧ a.state.displacement = 0.25 ∧ a.reinit.value.AsNew := by
  have valid : bandedConfig.Valid := by decide +kernel
  have same : ((new "wander" bandedConfig).run sampleHistory).value.config = bandedConfig := by
    decide +kernel
  have ⟨_, anew⟩ := asNew_of_run "wander" bandedConfig sampleHistory valid
  exact ⟨valid, by decide +kernel, by decide +kernel, (anew same).left⟩

end Actuator
end PointForce
