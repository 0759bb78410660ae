import PointForce.Proofs.Assembly.Invariant

-- What the matrix of an assembly consists of at any time: the lines of the members that have rows,
-- for the body that was last built against.

namespace PointForce

namespace Member

variable {α : Type} [Scalar α] [Elementary α] {m n : Member α}

def ownLines (body : Body α) (m : Member α) : List (Line α) :=
  if m.rows.isEmpty then
    []
  else
    Actuator.lines (m.actuator.points body) m.actuator.mode.rowDirections m.rows.start

theorem ownLines_congr (rows : m.rows = n.rows) (config : m.actuator.config = n.actuator.config)
    (body : Body α) : m.ownLines body = n.ownLines body := by
  rw [ownLines, ownLines, Actuator.points, Actuator.points, Actuator.mode, Actuator.mode, rows,
    config]

theorem ownLines_store (m : Member α) (multipliers deltas : List α) (body : Body α) :
    (m.store multipliers deltas).value.ownLines body = m.ownLines body := by
  refine ownLines_congr (m.rows_store multipliers deltas) ?_ body
  by_cases h : m.rows.isEmpty
  case pos => rw [store_of_isEmpty h]
  case neg => rw [store_of_not_isEmpty h]; rfl

theorem ownLines_init (m : Member α) (b : Option (Body α)) (body : Body α) :
    (m.init b).2.value.ownLines body = m.ownLines body := by
  rw [init_value]
  refine ownLines_congr ?rows ?config body
  case rows => rfl
  cases hf : m.actuator.config.fault?
  case some fault =>
    rw [Actuator.init_of_fault hf]
  case none =>
    rw [(Actuator.init_of_valid (Config.fault?_eq_none_iff.mp hf) b).right]
    rfl

theorem ownLines_place (m : Member α) (row : Nat) (body : Body α) :
    (m.place row).ownLines body = m.lines body row := by
  by_cases h : m.actuator.active
  case pos =>
    rw [ownLines, if_neg ((not_isEmpty_place_iff row).mpr h), lines, if_pos h, place_of_active h]
    rfl
  case neg =>
    have empty := not_not.mp (mt (not_isEmpty_place_iff row).mp h)
    rw [ownLines, if_pos empty, lines, if_neg h]

end Member

namespace Assembly

variable {α : Type} [Scalar α] [Elementary α] {s : Assembly α} {body : Body α}

def Written (body : Body α) (s : Assembly α) : Prop :=
  s.matrix.rows = s.members.flatMap (Member.ownLines body)

def Call.bodyAfter (body : Body α) : Call α → Body α
  | .build body => body
  | _           => body

-- Before the first build there are no rows, and nothing depends on which body it is.
def lastBody (calls : List (Call α)) : Body α :=
  calls.foldl Call.bodyAfter (.ofPoints 0 [])

namespace Written

theorem empty (body : Body α) : (empty : Assembly α).Written body :=
  rfl

theorem add (h : s.Written body) (name : String) (config : Config α) :
    (s.add (.new name config)).Written body := by
  rw [Written, Assembly.add, List.flatMap_append, ← h]
  exact (List.append_nil _).symm

theorem map (h : s.Written body) {f : Member α → Member α}
    (same : ∀ m, (f m).ownLines body = m.ownLines body) :
    Written body { s with members := s.members.map f } := by
  rw [Written, List.flatMap_map]
  exact h.trans (List.flatMap_congr fun m _ => (same m).symm)

theorem build (s : Assembly α) (body : Body α) : (s.build body).Written body := by
  rw [Written, rows_build, members_build, List.flatMap_map]
  simp only [Member.ownLines_place]

theorem call (h : s.Written body) : ∀ c : Call α, (s.call c).Written (c.bodyAfter body)
  | .add name config          => h.add name config
  | .init b                   => by
    rw [Assembly.call, init_value]
    exact h.map fun m => m.ownLines_init b body
  | .build body               => build s body
  | .store multipliers deltas => by
    by_cases hl : multipliers.length = s.numRows ∧ deltas.length = s.numRows
    case pos =>
      rw [call_store_of_length hl.left hl.right]
      exact h.map fun m => m.ownLines_store multipliers deltas body
    case neg => rwa [call_store_of_not_length hl]

theorem foldl (h : s.Written body) (calls : List (Call α)) :
    (s.run calls).Written (calls.foldl Call.bodyAfter body) := by
  induction calls generalizing s body
  case nil             => exact h
  case cons c calls ih => exact ih (h.call c)

theorem run (calls : List (Call α)) : (Assembly.empty.run calls).Written (lastBody calls) :=
  foldl (.empty _) calls

end Written
end Assembly
end PointForce
