import PointForce.Proofs.Actuator.Resolution

namespace PointForce.Actuator

variable {α : Type} [Scalar α] [Elementary α] {a : Actuator α} {c : Call α}
  {calls : List (Call α)}

def Started (a : Actuator α) (calls : List (Call α)) : Prop :=
  ∃ past body later, calls = past ++ .init (some body) :: later ∧
    (a.run past).value.config.Valid ∧ ∀ other, .init other ∉ later

theorem not_started_nil : ¬ a.Started [] := by
  rintro ⟨past, body, later, eq, _⟩
  cases past <;> cases eq

theorem started_init_iff {body : Option (Body α)} :
    a.Started (calls ++ [.init body]) ↔ body.isSome ∧ (a.run calls).value.config.Valid := by
  constructor
  case mp =>
    rintro ⟨past, placed, later, eq, valid, latest⟩
    rcases concat_cases eq with ⟨rfl, same, _⟩ | ⟨rest, rfl, _⟩
    case inl =>
      cases same
      exact ⟨rfl, valid⟩
    case inr => exact absurd List.mem_concat_self (latest body)
  case mpr =>
    rintro ⟨some, valid⟩
    obtain ⟨placed, rfl⟩ := Option.isSome_iff_exists.mp some
    exact ⟨calls, placed, [], rfl, valid, fun _ => List.not_mem_nil⟩

theorem started_concat_iff (h : ∀ body, c ≠ .init body) :
    a.Started (calls ++ [c]) ↔ a.Started calls := by
  constructor
  case mp =>
    rintro ⟨past, placed, later, eq, valid, latest⟩
    rcases concat_cases eq with ⟨_, same, _⟩ | ⟨rest, rfl, rfl⟩
    case inl => exact absurd same (h placed)
    case inr =>
      exact ⟨past, placed, rest, rfl, valid, fun other mem =>
        latest other (List.mem_append_left _ mem)⟩
  case mpr =>
    rintro ⟨past, placed, later, rfl, valid, latest⟩
    refine ⟨past, placed, later ++ [c], by simp, valid, fun other mem => ?_⟩
    cases List.mem_append.mp mem
    case inl mem => exact latest other mem
    case inr mem => exact h other (List.mem_singleton.mp mem).symm

theorem active_init_iff {body : Option (Body α)} :
    (a.call (.init body)).value.active ↔ body.isSome ∧ a.config.Valid := by
  by_cases resolves : Call.Resolves a (.init body)
  case pos =>
    have valid := resolves_init_iff.mp resolves
    rw [call, (init_of_valid valid body).right]
    exact (and_iff_left valid).symm
  case neg =>
    rw [call, init_of_not_resolves resolves]
    exact iff_of_false Bool.false_ne_true fun h => resolves (resolves_init_iff.mpr h.right)

theorem active_call (h : ∀ body, c ≠ .init body) : (a.call c).value.active = a.active := by
  cases c
  case init body        => exact absurd rfl (h body)
  case setConfig config =>
    cases a.call_setConfig_cases config
    case inl eq => rw [eq]
    case inr eq => rw [eq.right]; rfl
  case reinit | updateLimits | build | store => rfl

theorem active_run_iff (inactive : a.active = false) (calls : List (Call α)) :
    (a.run calls).value.active ↔ a.Started calls := by
  induction calls using List.reverseRecOn
  case nil => exact iff_of_false (Bool.eq_false_iff.mp inactive) not_started_nil
  case append_singleton calls c ih =>
    rw [run_concat]
    by_cases h : ∃ body, c = .init body
    case pos =>
      obtain ⟨body, rfl⟩ := h
      rw [active_init_iff, started_init_iff]
    case neg =>
      rw [active_call (not_exists.mp h), ih, started_concat_iff (not_exists.mp h)]

-- A reinitialisation does not check the configuration, but an active actuator has no other than an
-- admissible one.
structure Usable (a : Actuator α) : Prop extends Resolved a where
  valid : a.config.Valid

theorem usable_call (h : a.active → a.Usable) (c : Call α) :
    (a.call c).value.active → (a.call c).value.Usable := by
  by_cases resolves : c.Resolves a
  case pos =>
    cases c
    case init body =>
      have valid := resolves_init_iff.mp resolves
      rw [call, (init_of_valid valid body).right]
      exact fun _ => ⟨.reinit a _, valid⟩
    case reinit => exact fun active => ⟨.reinit a a.active, (h active).valid⟩
    case setConfig config =>
      have valid := resolves_setConfig_iff.mp resolves
      rw [call, setConfig_of_valid valid]
      exact fun _ => ⟨.reinit { a with config } a.active, valid⟩
    all_goals cases resolves
  case neg =>
    intro active
    have keeps  := keeps_of_not_resolves resolves
    have usable := h (keeps.active active)
    exact ⟨keeps.resolved usable.toResolved, keeps.config ▸ usable.valid⟩

-- What is configured after the initialisation is admissible too, and resolved. An initialisation
-- that fails only ends the activity.
theorem activation_of_run (name : String) (config : Config α) (calls : List (Call α)) :
    let a := ((new name config).run calls).value
    (a.active ↔ (new name config).Started calls) ∧
    (a.active → a.Usable) ∧
    (∀ c fault, a.setConfig c = .error fault → a.call (.setConfig c) = { value := a }) ∧
    (∀ body fault, (a.init body).1 = .error fault →
      a.call (.init body) = { value := { a with active := false } }) := by
  intro a
  have fresh : (new name config).active → (new name config).Usable := nofun
  refine ⟨active_run_iff rfl calls, ?_, fun c fault refused => ?_, fun body fault failed => ?_⟩
  case refine_1 =>
    exact run_preserves (P := fun a => a.active → a.Usable) (Q := fun _ => True)
      (fun _ h => usable_call h _) (fun _ _ => trivial) fresh
  case refine_2 =>
    refine call_setConfig_of_not_resolves fun ⟨done, ok⟩ => ?_
    cases refused.symm.trans ok
  case refine_3 =>
    refine init_of_not_resolves fun ok => ?_
    cases failed.symm.trans ok

def placedCalls : List (Call Float) :=
  [.init none, .init (some (.ofPoints 4 [])), .setConfig crossedConfig, .setConfig .unset, .reinit]

theorem activation_of_placedCalls :
    let a := ((new "wander" bandedConfig).run placedCalls).value
    let b := new "crossed" crossedConfig
    (new "wander" bandedConfig).Started placedCalls ∧ a.active ∧ a.Usable ∧
    a.setConfig crossedConfig = .error (.crossedForces 1 0) ∧
    a.call (.setConfig crossedConfig) = { value := a } ∧
    (b.init (some (.ofPoints 4 []))).1 = .error (.crossedForces 1 0) ∧
    b.call (.init (some (.ofPoints 4 []))) = { value := { b with active := false } } := by
  intro a b
  have fault : crossedConfig.fault? = some (.crossedForces 1 0) := by decide +kernel
  have refused : a.setConfig crossedConfig = .error (.crossedForces 1 0) := setConfig_of_fault fault a
  have failed : (b.init (some (.ofPoints 4 []))).1 = .error (.crossedForces 1 0) :=
    congrArg Prod.fst (init_of_fault (a := b) fault _)
  have started : (new "wander" bandedConfig).Started placedCalls :=
    ⟨[.init none], _, _, rfl, by decide +kernel, by simp⟩
  have ⟨activeIff, usable, unchanged, _⟩ := activation_of_run "wander" bandedConfig placedCalls
  have ⟨_, _, _, ended⟩ := activation_of_run "crossed" crossedConfig []
  have active := activeIff.mpr started
  exact ⟨started, active, usable active, refused, unchanged _ _ refused, failed, ended _ _ failed⟩

end PointForce.Actuator
