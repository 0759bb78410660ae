import PointForce.Assembly

namespace PointForce

namespace Member

variable {α : Type} [Scalar α]

theorem store_of_isEmpty {m : Member α} (h : m.rows.isEmpty) (multipliers deltas : List α) :
    m.store multipliers deltas = { value := m } := by
  rw [store, if_pos h]

theorem store_of_not_isEmpty {m : Member α} (h : ¬ m.rows.isEmpty) (multipliers deltas : List α) :
    m.store multipliers deltas =
      (m.actuator.store (m.rows.slice multipliers) (m.rows.slice deltas)).map fun actuator =>
        { m with actuator } := by
  rw [store, if_neg h]

theorem rows_store (m : Member α) (multipliers deltas : List α) :
    (m.store multipliers deltas).value.rows = m.rows := by
  by_cases h : m.rows.isEmpty
  case pos => rw [store_of_isEmpty h]
  case neg => rw [store_of_not_isEmpty h]; rfl

theorem actuator_store {m : Member α} (h : ¬ m.rows.isEmpty) (multipliers deltas : List α) :
    (m.store multipliers deltas).value.actuator =
      (m.actuator.store (m.rows.slice multipliers) (m.rows.slice deltas)).value := by
  rw [store_of_not_isEmpty h]
  rfl

theorem init_value [Elementary α] (m : Member α) (body : Option (Body α)) :
    (m.init body).2.value = { m with actuator := (m.actuator.init body).2.value } := by
  rw [init]
  rcases m.actuator.init body with ⟨_ | _, _⟩ <;> rfl

theorem fst_init [Elementary α] (m : Member α) (body : Option (Body α)) :
    (m.init body).1 = m.actuator.config.fault? := by
  cases hf : m.actuator.config.fault?
  case none       => simp only [init, Actuator.init, hf]
  case some fault => simp only [init, Actuator.init, hf]

end Member

namespace Assembly

variable {α : Type} [Scalar α]

theorem storeAll_eq (multipliers deltas : List α) : ∀ ms : List (Member α),
    storeAll multipliers deltas ms =
      { value  := ms.map fun m => (m.store multipliers deltas).value
        events := ms.flatMap fun m => (m.store multipliers deltas).events }
  | []      => rfl
  | m :: ms => by
    rw [storeAll, storeAll_eq multipliers deltas ms]
    rfl

theorem store_of_length {s : Assembly α} {multipliers deltas : List α}
    (hm : multipliers.length = s.numRows) (hd : deltas.length = s.numRows) :
    s.store multipliers deltas = .ok
      { value  := { s with members := s.members.map fun m => (m.store multipliers deltas).value }
        events := s.members.flatMap fun m => (m.store multipliers deltas).events } := by
  rw [store, if_pos ⟨hm, hd⟩, storeAll_eq]
  rfl

theorem store_of_not_length {s : Assembly α} {multipliers deltas : List α}
    (h : ¬(multipliers.length = s.numRows ∧ deltas.length = s.numRows)) :
    s.store multipliers deltas =
      .error (.solutionLength s.numRows multipliers.length deltas.length) := by
  rw [store, if_neg h]

variable [Elementary α]

theorem initMembers_value (body : Option (Body α)) : ∀ ms : List (Member α),
    (initMembers body ms).2.value = ms.map fun m => (m.init body).2.value
  | []      => rfl
  | m :: ms => by
    rw [List.map_cons, ← initMembers_value body ms]
    rfl

theorem init_value (s : Assembly α) (body : Option (Body α)) :
    (s.init body).2.value =
      { s with members := s.members.map fun m => (m.init body).2.value } := by
  rw [← initMembers_value body s.members]
  rfl

theorem initMembers_fault (body : Option (Body α)) : ∀ ms : List (Member α),
    (initMembers body ms).1 = ms.findSome? (·.actuator.config.fault?)
  | []      => rfl
  | m :: ms => by
    have first : (initMembers body (m :: ms)).1 =
        m.actuator.config.fault?.or (initMembers body ms).1 := m.fst_init body ▸ rfl
    rw [first, initMembers_fault body ms, List.findSome?_cons]
    cases m.actuator.config.fault? <;> rfl

theorem initMembers_events (body : Option (Body α)) : ∀ ms : List (Member α),
    (initMembers body ms).2.events = ms.flatMap fun m => (m.init body).2.events
  | []      => rfl
  | m :: ms => by
    rw [List.flatMap_cons, ← initMembers_events body ms]
    rfl

inductive Call (α : Type)
  | add (name : String) (config : Config α)
  | init (body : Option (Body α))
  | build (body : Body α)
  | store (multipliers deltas : List α)

def call (s : Assembly α) : Call α → Assembly α
  | .add name config          => s.add (.new name config)
  | .init body                => (s.init body).2.value
  | .build body               => s.build body
  | .store multipliers deltas =>
    match s.store multipliers deltas with
    | .ok stored => stored.value
    | .error _   => s

def run (s : Assembly α) (calls : List (Call α)) : Assembly α :=
  calls.foldl call s

theorem call_store_of_length {s : Assembly α} {multipliers deltas : List α}
    (hm : multipliers.length = s.numRows) (hd : deltas.length = s.numRows) :
    s.call (.store multipliers deltas) =
      { s with members := s.members.map fun m => (m.store multipliers deltas).value } := by
  rw [call, store_of_length hm hd]

theorem call_store_of_not_length {s : Assembly α} {multipliers deltas : List α}
    (h : ¬(multipliers.length = s.numRows ∧ deltas.length = s.numRows)) :
    s.call (.store multipliers deltas) = s := by
  rw [call, store_of_not_length h]

theorem run_preserves {P : Assembly α → Prop} (step : ∀ {s} (c : Call α), P s → P (s.call c)) :
    ∀ {s : Assembly α} (calls : List (Call α)), P s → P (s.run calls)
  | _, [],         h => h
  | _, c :: calls, h => run_preserves step calls (step c h)

def registered (configs : List (String × Config α)) : Assembly α :=
  empty.run (configs.map fun p => .add p.1 p.2)

theorem run_add (configs : List (String × Config α)) (s : Assembly α) :
    s.run (configs.map fun p => .add p.1 p.2) =
      { s with members := s.members ++ configs.map fun p => { actuator := .new p.1 p.2 } } := by
  induction configs generalizing s
  case nil => simp [run]
  case cons p rest ih =>
    rw [List.map_cons, List.map_cons, List.append_cons]
    exact ih _

-- A run to look at: one actuator is inadmissible, one is free, and one has a point that the body
-- lacks. It solves once without any rows and once with all of them, and gets one more actuator.
def sampleConfigs : List (String × Config Float) :=
  [("crossed", { Config.unset with minForce := some 1, maxForce := some 0 }),
    ("grab", { Config.unset with indices := [0, 1], maxForceVariation := some 1 }),
    ("push", { Config.unset with indices := [2, 7], direction := ⟨0, 0, 2⟩, minForce := some 0 })]

def sampleCalls : List (Call Float) :=
  let body : Body Float := .ofPoints 4 []
  [.init none, .build body, .store [] [], .init (some body), .build body,
    .store [5, 1, -2, 0.5] [0.2, 0.01, 0.02, 0.03], .add "late" .unset]

def sampleRun : List (Call Float) :=
  (sampleConfigs.map fun p => .add p.1 p.2) ++ sampleCalls

end Assembly
end PointForce
