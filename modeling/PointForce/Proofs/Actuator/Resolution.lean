import Mathlib.Data.List.Induction
import PointForce.Proofs.Actuator.Forgetting

-- The state of an actuator belongs to its configuration from the first call on that resolves it.
-- Before that there is nothing in it.

namespace PointForce

theorem concat_cases {β : Type} {xs past later : List β} {x y : β}
    (h : xs ++ [x] = past ++ y :: later) :
    (xs = past ∧ x = y ∧ later = []) ∨ ∃ rest, later = rest ++ [x] ∧ xs = past ++ y :: rest := by
  cases later using List.reverseRecOn
  case nil =>
    obtain ⟨rfl, last⟩ := List.append_inj' h rfl
    cases last
    exact .inl ⟨rfl, rfl, rfl⟩
  case append_singleton later z _ =>
    rw [← List.cons_append, ← List.append_assoc] at h
    obtain ⟨rfl, last⟩ := List.append_inj' h rfl
    cases last
    exact .inr ⟨later, rfl, rfl⟩

namespace State

variable {α : Type} {s : State α}

structure Blank (s : State α) : Prop where
  dimension : s.dimension = 0
  lower     : s.lower.active = false
  upper     : s.upper.active = false
  guess     : s.guess.active = false
  penalty   : s.penalty = none

theorem Blank.unresolved [Scalar α] : (unresolved : State α).Blank where
  dimension := rfl
  lower     := rfl
  upper     := rfl
  guess     := rfl
  penalty   := rfl

theorem getElem?_seed {values : List α} (pos : 0 < values.length) (v : α) :
    (seed (some v) values)[0]? = some v :=
  List.getElem?_set_self pos

theorem GuessesFirst.getElem?_guess [Scalar α] (h : s.GuessesFirst) (shaped : s.Shaped) {k : Nat}
    (pos : 1 ≤ k) (lt : k < s.dimension) : s.guess.values[k]? = some 0 := by
  obtain ⟨k, rfl⟩ := Nat.exists_eq_add_of_le' pos
  have within : k < s.guess.values.tail.length := by
    rw [List.length_tail, shaped.guess]
    omega
  have zero := h _ (List.getElem_mem within)
  rw [← List.getElem?_tail, List.getElem?_eq_getElem within, zero]

end State

namespace Actuator

variable {α : Type} [Scalar α] [Elementary α] {a b : Actuator α} {c : Call α}
  {calls : List (Call α)}

def Call.Resolves (a : Actuator α) : Call α → Prop
  | .init body        => (a.init body).1 = .ok ()
  | .reinit           => True
  | .setConfig config => ∃ done, a.setConfig config = .ok done
  | .updateLimits | .build .. | .store .. => False

theorem resolves_init_iff {body : Option (Body α)} :
    Call.Resolves a (.init body) ↔ a.config.Valid := by
  constructor
  case mp =>
    intro ok
    cases hf : a.config.fault?
    case none       => exact Config.fault?_eq_none_iff.mp hf
    case some fault =>
      rw [Call.Resolves, init_of_fault hf] at ok
      cases ok
  case mpr => exact fun valid => (init_of_valid valid body).left

theorem resolves_setConfig_iff {config : Config α} :
    Call.Resolves a (.setConfig config) ↔ config.Valid := by
  constructor
  case mp =>
    rintro ⟨done, ok⟩
    cases hf : config.fault?
    case none       => exact Config.fault?_eq_none_iff.mp hf
    case some fault => cases (setConfig_of_fault hf a).symm.trans ok
  case mpr => exact fun valid => ⟨_, setConfig_of_valid valid a⟩

theorem call_of_resolves (h : c.Resolves a) :
    ∃ config active, (a.call c).value = { { a with config }.reinit.value with active } := by
  cases c
  case init body        => exact ⟨_, _, (init_of_valid (resolves_init_iff.mp h) body).right⟩
  case reinit           => exact ⟨a.config, a.active, rfl⟩
  case setConfig config =>
    have ok := setConfig_of_valid (resolves_setConfig_iff.mp h) a
    exact ⟨config, a.active, by rw [call, ok]; rfl⟩
  all_goals cases h

structure Keeps (a b : Actuator α) : Prop where
  active    : b.active → a.active
  config    : b.config = a.config
  dimension : b.state.dimension = a.state.dimension
  rowCount  : b.state.rowCount = a.state.rowCount ∨ b.state.rowCount = a.config.dimension
  lower     : b.state.lower.active = a.state.lower.active
  upper     : b.state.upper.active = a.state.upper.active
  guess     : b.state.guess = a.state.guess
  penalty   : b.state.penalty = a.state.penalty

theorem init_of_not_resolves {body : Option (Body α)} (h : ¬ Call.Resolves a (.init body)) :
    (a.init body).2 = { value := { a with active := false } } := by
  cases hf : a.config.fault?
  case none       => exact absurd (resolves_init_iff.mpr (Config.fault?_eq_none_iff.mp hf)) h
  case some fault => rw [init_of_fault hf]

theorem call_setConfig_of_not_resolves {config : Config α}
    (h : ¬ Call.Resolves a (.setConfig config)) :
    a.call (.setConfig config) = { value := a } := by
  cases hf : config.fault?
  case none       => exact absurd (resolves_setConfig_iff.mpr (Config.fault?_eq_none_iff.mp hf)) h
  case some fault => rw [call, setConfig_of_fault hf]

theorem keeps_of_not_resolves (h : ¬ c.Resolves a) : a.Keeps (a.call c).value := by
  cases c
  case init body =>
    rw [call, init_of_not_resolves h]
    exact ⟨fun active => absurd active Bool.false_ne_true, rfl, rfl, .inl rfl, rfl, rfl, rfl, rfl⟩
  case reinit           => exact absurd trivial h
  case setConfig config =>
    rw [call_setConfig_of_not_resolves h]
    exact ⟨id, rfl, rfl, .inl rfl, rfl, rfl, rfl, rfl⟩
  case build            => exact ⟨id, rfl, rfl, .inr rfl, rfl, rfl, rfl, rfl⟩
  case updateLimits     => exact ⟨id, rfl, rfl, .inl rfl, rfl, rfl, rfl, rfl⟩
  case store            => exact ⟨id, rfl, rfl, .inl rfl, rfl, rfl, rfl, rfl⟩

theorem Keeps.blank (keeps : a.Keeps b) (h : a.state.Blank) : b.state.Blank where
  dimension := keeps.dimension.trans h.dimension
  lower     := keeps.lower.trans h.lower
  upper     := keeps.upper.trans h.upper
  guess     := (congrArg Bound.active keeps.guess).trans h.guess
  penalty   := keeps.penalty.trans h.penalty

theorem Keeps.resolved (keeps : a.Keeps b) (h : a.Resolved) : b.Resolved where
  dimension := keeps.dimension.trans (h.dimension.trans (congrArg Config.dimension keeps.config.symm))
  rowCount  :=
    have own : b.state.rowCount = a.state.dimension :=
      keeps.rowCount.elim (·.trans h.rowCount) (·.trans h.dimension.symm)
    own.trans keeps.dimension.symm

structure Configured (a : Actuator α) : Prop extends Resolved a where
  activated  : a.state.Activated a.config
  guess      : a.state.guess.active = a.config.initForce.isSome
  firstGuess : ∀ v, a.config.initForce = some v → a.state.guess.values[0]? = some v
  penalty    : a.state.penalty = a.config.penalty

namespace Configured

theorem reinit (a : Actuator α) (active : Bool) : Configured { a.reinit.value with active } where
  toResolved := .reinit a active
  activated  := .limit (.activate ..)
  guess      := rfl
  firstGuess := by
    intro v (given : a.config.initForce = some v)
    have pos : 0 < (Buffer.resize a.config.dimension 0 a.state.guess.values).length := by
      rw [Buffer.length_resize]
      exact a.config.mode.dimension_pos
    change (State.seed a.config.initForce _)[0]? = some v
    rw [given]
    exact State.getElem?_seed pos v
  penalty    := rfl

theorem keep (h : a.Configured) (keeps : a.Keeps b) : b.Configured where
  toResolved := keeps.resolved h.toResolved
  activated  := by
    rw [keeps.config]
    exact ⟨keeps.lower.trans h.activated.lower, keeps.upper.trans h.activated.upper⟩
  guess      := by rw [keeps.config, keeps.guess, h.guess]
  firstGuess := by
    rw [keeps.config, keeps.guess]
    exact h.firstGuess
  penalty    := by rw [keeps.config, keeps.penalty, h.penalty]

end Configured

def Initialised (a : Actuator α) (calls : List (Call α)) : Prop :=
  ∃ past c later, calls = past ++ c :: later ∧ c.Resolves (a.run past).value

theorem not_initialised_nil : ¬ a.Initialised [] := by
  rintro ⟨past, c, later, eq, _⟩
  cases past <;> cases eq

theorem initialised_concat_iff :
    a.Initialised (calls ++ [c]) ↔ a.Initialised calls ∨ c.Resolves (a.run calls).value := by
  constructor
  case mp =>
    rintro ⟨past, d, later, eq, resolves⟩
    rcases concat_cases eq with ⟨rfl, rfl, _⟩ | ⟨rest, _, rfl⟩
    case inl => exact .inr resolves
    case inr => exact .inl ⟨past, d, rest, rfl, resolves⟩
  case mpr =>
    rintro (⟨past, d, later, rfl, resolves⟩ | resolves)
    case inl => exact ⟨past, d, later ++ [c], by simp, resolves⟩
    case inr => exact ⟨calls, c, [], rfl, resolves⟩

theorem configured_of_resolves (h : c.Resolves a) : (a.call c).value.Configured := by
  have ⟨config, active, value⟩ := call_of_resolves h
  rw [value]
  exact .reinit { a with config } active

theorem blank_or_configured (blank : a.state.Blank) (calls : List (Call α)) :
    (¬ a.Initialised calls → (a.run calls).value.state.Blank) ∧
    (a.Initialised calls → (a.run calls).value.Configured) := by
  induction calls using List.reverseRecOn
  case nil => exact ⟨fun _ => blank, fun h => absurd h not_initialised_nil⟩
  case append_singleton calls c ih =>
    rw [run_concat, initialised_concat_iff]
    by_cases resolves : c.Resolves (a.run calls).value
    case pos =>
      exact ⟨fun h => absurd (.inr resolves) h, fun _ => configured_of_resolves resolves⟩
    case neg =>
      have keeps := keeps_of_not_resolves resolves
      exact ⟨fun h => keeps.blank (ih.left (h ∘ .inl)),
        fun h => (ih.right (h.resolve_right resolves)).keep keeps⟩

theorem shape_of_run (name : String) (config : Config α) (calls : List (Call α)) :
    let a := ((new name config).run calls).value
    a.state.Shaped ∧
    (¬ (new name config).Initialised calls → a.state.Blank) ∧
    ((new name config).Initialised calls →
      a.Configured ∧ (a.dimension = 1 ∨ a.dimension = 3) ∧
      ∀ k, 1 ≤ k → k < a.dimension → a.state.guess.values[k]? = some 0) := by
  intro a
  have tidy : a.Tidy := Tidy.new name config |>.run calls
  have ⟨before, after⟩ := blank_or_configured (a := new name config) .unresolved calls
  refine ⟨tidy.shaped, before, fun initialised => ⟨after initialised, ?_, ?_⟩⟩
  case refine_1 =>
    have resolved : a.dimension = a.config.mode.dimension := (after initialised).dimension
    rw [resolved]
    cases a.config.mode
    case free  => exact .inr rfl
    case fixed => exact .inl rfl
  case refine_2 => exact fun k => tidy.guess.getElem?_guess tidy.shaped

def crossedConfig : Config Float where
  __       := Config.unset
  minForce := some 1
  maxForce := some 0

def refusedCalls : List (Call Float) :=
  [.init none, .store [5] [0.5], .setConfig crossedConfig]

theorem shape_of_sampleHistory :
    ¬ (new "crossed" crossedConfig).Initialised refusedCalls ∧
    ((new "crossed" crossedConfig).run refusedCalls).value.state.Blank ∧
    (new "wander" bandedConfig).Initialised sampleHistory ∧
    let a := ((new "wander" bandedConfig).run sampleHistory).value
    a.Configured ∧ 2 < a.dimension ∧ a.state.guess.values[2]? = some 0 := by
  have crossed : ¬ crossedConfig.Valid := by decide +kernel
  have never : ¬ (new "crossed" crossedConfig).Initialised refusedCalls := by
    change ¬ Initialised _ ([] ++ [.init none] ++ [.store [5] [0.5]] ++ [.setConfig crossedConfig])
    rw [initialised_concat_iff, initialised_concat_iff, initialised_concat_iff]
    rintro (((started | init) | store) | config)
    case inl.inl.inl => exact not_initialised_nil started
    case inl.inl.inr =>
      have valid : (new "crossed" crossedConfig).config.Valid := resolves_init_iff.mp init
      exact crossed valid
    case inl.inr     => exact store
    case inr         => exact crossed (resolves_setConfig_iff.mp config)
  have ⟨_, before, _⟩ := shape_of_run "crossed" crossedConfig refusedCalls
  have initialised : (new "wander" bandedConfig).Initialised sampleHistory :=
    ⟨[], .init none, _, rfl, resolves_init_iff.mpr (by decide +kernel)⟩
  have ⟨_, _, after⟩ := shape_of_run "wander" bandedConfig sampleHistory
  have ⟨configured, _, zero⟩ := after initialised
  have three : 2 < ((new "wander" bandedConfig).run sampleHistory).value.dimension := by
    decide +kernel
  exact ⟨never, before never, initialised, configured, three, zero 2 (by decide) three⟩

end Actuator
end PointForce
