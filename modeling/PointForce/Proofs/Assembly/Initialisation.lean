import PointForce.Proofs.Actuator.Activation
import PointForce.Proofs.Actuator.Uncrossed
import PointForce.Proofs.Assembly.Run

-- To initialise an assembly is to initialise each member by itself. A failure is reported, but makes
-- no difference to the members before and after it.

namespace PointForce

namespace Member

variable {α : Type} [Scalar α]

def notices (m : Member α) (body : Option (Body α)) : List Event :=
  if m.actuator.config.Valid then
    if body.isNone then [.missingBody m.actuator.name] else []
  else
    [.leftInactive m.actuator.name]

theorem events_init [Elementary α] [Rounding α] (m : Member α) (body : Option (Body α)) :
    (m.init body).2.events = m.notices body := by
  cases hf : m.actuator.config.fault?
  case none =>
    have valid := Config.fault?_eq_none_iff.mp hf
    simp only [init, Actuator.init, hf, notices, if_pos valid, Logged.map, Logged.noting,
      Actuator.Uncrossed.events_reinit valid, List.nil_append]
  case some fault =>
    have invalid : ¬ m.actuator.config.Valid := fun valid => by
      cases hf.symm.trans (Config.fault?_eq_none_iff.mpr valid)
    simp only [init, Actuator.init, hf, notices, if_neg invalid, Logged.map, Logged.noting,
      List.nil_append]

theorem warnings_notices (body : Option (Body α)) (ms : List (Member α)) :
    (ms.flatMap (·.notices body)).filter (·.level = .warning) =
      (ms.filter (¬ ·.actuator.config.Valid)).map (.leftInactive ·.actuator.name) := by
  induction ms
  case nil => rfl
  case cons m ms ih =>
    rw [List.flatMap_cons, List.filter_append, ih]
    by_cases valid : m.actuator.config.Valid
    case pos => cases body <;> simp [notices, valid, Event.level]
    case neg => simp [notices, valid, Event.level]

theorem errors_notices (body : Option (Body α)) (ms : List (Member α)) :
    (ms.flatMap (·.notices body)).filter (·.level = .error) =
      if body.isNone then
        (ms.filter (·.actuator.config.Valid)).map (.missingBody ·.actuator.name)
      else
        [] := by
  induction ms
  case nil => cases body <;> rfl
  case cons m ms ih =>
    rw [List.flatMap_cons, List.filter_append, ih]
    by_cases valid : m.actuator.config.Valid
    case pos => cases body <;> simp [notices, valid, Event.level]
    case neg => cases body <;> simp [notices, valid, Event.level]

end Member

namespace Assembly

variable {α : Type} [Scalar α] [Elementary α] {s : Assembly α} {body : Option (Body α)}

-- The fault that is returned is the first one in the order of the members.
structure InitialisesEach (s : Assembly α) (body : Option (Body α))
    (init : Option (ConfigFault α) × Logged (Assembly α)) : Prop where
  value    : init.2.value =
    { s with members :=
        s.members.map fun m => { m with actuator := (m.actuator.init body).2.value } }
  active   : ∀ m ∈ init.2.value.members,
    m.actuator.active ↔ body.isSome ∧ m.actuator.config.validate = .ok ()
  sound    : init.1 = none ↔ ∀ m ∈ s.members, m.actuator.config.validate = .ok ()
  first    : ∀ fault, init.1 = some fault ↔
    ∃ past m later, s.members = past ++ m :: later ∧
      (∀ p ∈ past, p.actuator.config.validate = .ok ()) ∧
      m.actuator.config.validate = .error fault
  events   : init.2.events = s.members.flatMap (·.notices body)
  warnings : init.2.events.filter (·.level = .warning) =
    (s.members.filter (¬ ·.actuator.config.Valid)).map (.leftInactive ·.actuator.name)
  errors   : init.2.events.filter (·.level = .error) =
    if body.isNone then
      (s.members.filter (·.actuator.config.Valid)).map (.missingBody ·.actuator.name)
    else
      []

theorem active_of_mem_init {m : Member α} (mem : m ∈ (s.init body).2.value.members) :
    m.actuator.active ↔ body.isSome ∧ m.actuator.config.validate = .ok () := by
  rw [init_value, List.mem_map] at mem
  obtain ⟨m, _, rfl⟩ := mem
  rw [m.init_value, m.actuator.config_init, Config.validate_eq_ok_iff]
  exact Actuator.active_init_iff

theorem init_eq_none_iff :
    (s.init body).1 = none ↔ ∀ m ∈ s.members, m.actuator.config.validate = .ok () := by
  have fault : (s.init body).1 = _ := initMembers_fault body s.members
  simp only [fault, List.findSome?_eq_none_iff, Config.validate_eq_ok_iff,
    Config.fault?_eq_none_iff]

theorem init_eq_some_iff {fault : ConfigFault α} :
    (s.init body).1 = some fault ↔
      ∃ past m later, s.members = past ++ m :: later ∧
        (∀ p ∈ past, p.actuator.config.validate = .ok ()) ∧
        m.actuator.config.validate = .error fault := by
  have first : (s.init body).1 = _ := initMembers_fault body s.members
  simp only [first, List.findSome?_eq_some_iff, Config.validate_eq_ok_iff,
    Config.validate_eq_error_iff, Config.fault?_eq_none_iff, and_comm]

theorem events_init [Rounding α] (s : Assembly α) (body : Option (Body α)) :
    (s.init body).2.events = s.members.flatMap (·.notices body) := by
  have events : (s.init body).2.events = _ := initMembers_events body s.members
  simp only [events, Member.events_init]

theorem initialisesEach_init [Rounding α] (s : Assembly α) (body : Option (Body α)) :
    s.InitialisesEach body (s.init body) where
  value    := by simp only [init_value, Member.init_value]
  active _ := active_of_mem_init
  sound    := init_eq_none_iff
  first _  := init_eq_some_iff
  events   := s.events_init body
  warnings := by rw [events_init, Member.warnings_notices]
  errors   := by rw [events_init, Member.errors_notices]

example :
    let (fault, logged) := (registered sampleConfigs).init none
    fault = some (.crossedForces 1 0) ∧
    logged.events = [.leftInactive "crossed", .missingBody "grab", .missingBody "push"] := by
  decide +kernel

end Assembly
end PointForce
