import PointForce.Proofs.Arithmetic.Binary64
import PointForce.Proofs.Limits.Ordered

-- Bounds never cross in any run in which every force that is stored is a number. It may be an
-- infinite one, and there may be too few of them.

namespace PointForce

theorem State.crossedBounds_mem_reportCrossing_iff {α : Type} [Scalar α] {s : State α} :
    .crossedBounds ∈ s.reportCrossing.events ↔ ¬ s.Ordered := by
  rw [reportCrossing]
  split <;> simp_all

namespace Actuator

variable {α : Type} [Scalar α] [Elementary α] {a : Actuator α} {c : Call α}

def Call.Numeric : Call α → Prop
  | .store multipliers _ => ∀ l ∈ multipliers, IsNumber l
  | _                    => True

instance : DecidablePred (Call.Numeric (α := α))
  | .store multipliers _ => inferInstanceAs (Decidable (∀ l ∈ multipliers, IsNumber l))
  | .init _ | .reinit | .setConfig _ | .updateLimits | .build .. => .isTrue trivial

theorem not_ordered_of_mem_reinit (h : .crossedBounds ∈ a.reinit.events) :
    ¬ a.reinit.value.state.Ordered :=
  State.crossedBounds_mem_reportCrossing_iff.mp h

theorem not_ordered_of_mem_call (h : .crossedBounds ∈ (a.call c).events) :
    ¬ (a.call c).value.state.Ordered := by
  cases c
  case init body =>
    cases hf : a.config.fault?
    case some fault =>
      rw [call, init_of_fault hf] at h
      cases h
    case none =>
      rw [call, init, hf] at h ⊢
      refine not_ordered_of_mem_reinit ((List.mem_append.mp h).resolve_right fun missing => ?_)
      cases body <;> simp at missing
  case reinit => exact not_ordered_of_mem_reinit h
  case setConfig config =>
    cases hf : config.fault?
    case some fault =>
      rw [call, setConfig_of_fault hf] at h
      cases h
    case none =>
      rw [call, setConfig_of_valid (Config.fault?_eq_none_iff.mp hf)] at h ⊢
      exact not_ordered_of_mem_reinit h
  case updateLimits => exact State.crossedBounds_mem_reportCrossing_iff.mp h
  case build        => cases h
  case store multipliers deltas =>
    refine State.crossedBounds_mem_reportCrossing_iff.mp ((List.mem_append.mp h).resolve_left ?_)
    intro short
    split at short <;> simp at short

variable [Rounding α]

structure Uncrossed (a : Actuator α) : Prop where
  valid   : a.config.Valid
  ready   : a.state.Ready a.config
  ordered : a.state.Ordered

namespace Uncrossed

omit [Elementary α] [Rounding α] in
theorem new (name : String) {config : Config α} (valid : config.Valid) :
    (new name config).Uncrossed where
  valid   := valid
  ready   := .unresolved config
  ordered := nofun

theorem reinit (valid : a.config.Valid) (active : Bool) :
    Uncrossed { a.reinit.value with active } where
  valid   := valid
  ready   := (State.Ready.resolve valid a.state).limit
  ordered := (State.Ready.resolve valid a.state).ordered_limit valid

theorem events_reinit (valid : a.config.Valid) : a.reinit.events = [] :=
  if_pos (reinit valid a.active).ordered

theorem call (h : a.Uncrossed) (numeric : c.Numeric) : (a.call c).value.Uncrossed := by
  cases c
  case init body =>
    cases a.call_init_cases body
    case inl eq => exact eq ▸ ⟨h.valid, h.ready, h.ordered⟩
    case inr eq => exact eq ▸ reinit h.valid _
  case reinit => exact reinit h.valid a.active
  case setConfig config =>
    cases a.call_setConfig_cases config
    case inl eq => rwa [eq]
    case inr eq => exact eq.right ▸ reinit (a := { a with config }) eq.left a.active
  case updateLimits =>
    exact ⟨h.valid, h.ready.limit, h.ready.ordered_limit h.valid⟩
  case build =>
    have ⟨⟨force, lower, upper, guess⟩, numeric, sides⟩ := h.ready
    refine ⟨h.valid, ⟨⟨force, lower, upper, guess⟩, numeric, ?_⟩, h.ordered⟩
    exact sides.imp id fun on => ⟨on.lower, on.upper⟩
  case store multipliers deltas =>
    have stored := h.ready.overwrite numeric (deltas.head?.getD a.state.displacement)
    exact ⟨h.valid, stored.limit, stored.ordered_limit h.valid⟩

theorem run (h : a.Uncrossed) {calls : List (Call α)} (numeric : ∀ c ∈ calls, c.Numeric) :
    (a.run calls).value.Uncrossed ∧ .crossedBounds ∉ (a.run calls).events := by
  induction calls generalizing a
  case nil => exact ⟨h, List.not_mem_nil⟩
  case cons c calls ih =>
    have ⟨first, later⟩ := List.forall_mem_cons.mp numeric
    have next := h.call first
    have ⟨reached, silent⟩ := ih next later
    refine ⟨reached, fun mem => ?_⟩
    cases List.mem_append.mp mem
    case inl mem => exact not_ordered_of_mem_call mem next.ordered
    case inr mem => exact silent mem

end Uncrossed

-- This holds for each state on the way, as the beginning of a run is itself a run.
theorem ordered_of_run (name : String) {config : Config α} (valid : config.Valid)
    {calls : List (Call α)} (numeric : ∀ c ∈ calls, c.Numeric) :
    ((new name config).run calls).value.state.Ordered ∧
    .crossedBounds ∉ ((new name config).run calls).events := by
  have ⟨reached, silent⟩ := Uncrossed.new name valid |>.run numeric
  exact ⟨reached.ordered, silent⟩

def thirdConfig : Config Float where
  __                := Config.unset
  minForce          := some (-2)
  maxForce          := some 2
  initForce         := some (1 / 3)
  maxForceVariation := some 0.1

def wildCalls : List (Call Float) :=
  [.init none, .store [1 / 0, -1 / 0] [], .updateLimits, .store [2.05, 1.95, -2.05, 7] [0.5],
    .setConfig { thirdConfig with direction := ⟨0, 0, 1⟩, maxForceVariation := some 0 },
    .store [] [], .store [-1 / 0] [], .reinit, .store [2] []]

theorem ordered_of_wildCalls :
    thirdConfig.Valid ∧ (∀ c ∈ wildCalls, c.Numeric) ∧
    ((new "third" thirdConfig).run wildCalls).value.state.Ordered ∧
    .crossedBounds ∉ ((new "third" thirdConfig).run wildCalls).events := by
  have valid : thirdConfig.Valid := by decide +kernel
  have numeric : ∀ c ∈ wildCalls, c.Numeric := by decide +kernel
  exact ⟨valid, numeric, ordered_of_run "third" valid numeric⟩

example :
    let config := { thirdConfig with minForce := none, maxForce := none }
    .crossedBounds ∈ ((new "third" config).run [.init none, .store [0 / 0] []]).events := by
  decide +kernel

end Actuator
end PointForce
