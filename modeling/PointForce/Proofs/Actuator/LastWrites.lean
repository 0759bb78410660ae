import PointForce.Proofs.Actuator.Resolution

-- Each axis of the force has its own last write, as a solution may be too short for some of them. A
-- call that resolves the state does not touch the displacement.

namespace PointForce

theorem Buffer.getElem?_overwrite {α : Type} : ∀ {xs ys : List α} {i : Nat}, i < ys.length →
    (overwrite xs ys)[i]? = xs[i]?.or ys[i]?
  | [],      ys,      i,     _ => by simp [overwrite]
  | _ :: _,  [],      _,     h => absurd h (Nat.not_lt_zero _)
  | x :: xs, _ :: ys, 0,     _ => rfl
  | x :: xs, y :: ys, i + 1, h => by
    change (overwrite xs ys)[i]? = xs[i]?.or ys[i]?
    exact getElem?_overwrite (Nat.lt_of_succ_lt_succ h)

structure Solution (α : Type) where
  multipliers : List α
  deltas      : List α

def History.ofSolutions {α : Type} (log : List (Solution α)) : History α where
  iterations  := log.length
  multipliers := (log.getLast?.map Solution.multipliers).getD []
  deltas      := (log.getLast?.map Solution.deltas).getD []

theorem History.ofSolutions_concat {α : Type} (log : List (Solution α)) (s : Solution α) :
    ofSolutions (log ++ [s]) = (ofSolutions log).record s.multipliers s.deltas := by
  simp [ofSolutions, record]

namespace Actuator

section Solutions

variable {α β : Type} (f : Solution α → Option β) (calls : List (Call α)) (c : Call α)

def Call.solution? : Call α → Option (Solution α)
  | .store multipliers deltas => some ⟨multipliers, deltas⟩
  | _                         => none

def solutions : List (Solution α) :=
  calls.filterMap Call.solution?

def latest? (log : List (Solution α)) : Option β :=
  (log.filterMap f).getLast?

theorem solutions_concat : solutions (calls ++ [c]) = solutions calls ++ c.solution?.toList := by
  rw [solutions, List.filterMap_append]
  cases h : c.solution? <;> simp [h, solutions]

theorem latest?_solutions_concat :
    latest? f (solutions (calls ++ [c])) =
      (c.solution?.bind f).or (latest? f (solutions calls)) := by
  rw [latest?, solutions_concat, List.filterMap_append, List.getLast?_append]
  congr 1
  cases c.solution?
  case none   => rfl
  case some s => cases h : f s <;> simp [h]

end Solutions

variable {α : Type} [Scalar α] [Elementary α] {a : Actuator α} {c : Call α}
  {calls since : List (Call α)}

theorem displacement_call (a : Actuator α) (c : Call α) :
    (a.call c).value.state.displacement =
      (c.solution?.bind (·.deltas.head?)).getD a.state.displacement := by
  cases c
  case init body =>
    rcases a.call_init_cases body with eq | eq
    all_goals rw [eq]; rfl
  case setConfig config =>
    rcases a.call_setConfig_cases config with eq | ⟨_, eq⟩
    all_goals rw [eq]; rfl
  case reinit | updateLimits | build | store => rfl

theorem displacement_run (a : Actuator α) (calls : List (Call α)) :
    (a.run calls).value.state.displacement =
      (latest? (·.deltas.head?) (solutions calls)).getD a.state.displacement := by
  induction calls using List.reverseRecOn
  case nil => rfl
  case append_singleton calls c ih =>
    rw [run_concat, displacement_call, latest?_solutions_concat, ih]
    cases c.solution?.bind (·.deltas.head?) <;> rfl

theorem force_call_of_not_resolves (h : ¬ c.Resolves a) {j : Nat} (lt : j < a.force.length) :
    (a.call c).value.force[j]? = (c.solution?.bind (·.multipliers[j]?)).or a.force[j]? := by
  cases c
  case init body                => rw [call, init_of_not_resolves h]; rfl
  case reinit                   => exact absurd trivial h
  case setConfig config         => rw [call_setConfig_of_not_resolves h]; rfl
  case updateLimits | build     => rfl
  case store multipliers deltas => exact Buffer.getElem?_overwrite lt

theorem history_call_of_not_resolves (h : ¬ c.Resolves a) :
    (a.call c).value.history =
      c.solution?.elim a.history fun s => a.history.record s.multipliers s.deltas := by
  cases c
  case init body                    => rw [call, init_of_not_resolves h]; rfl
  case reinit                       => exact absurd trivial h
  case setConfig config             => rw [call_setConfig_of_not_resolves h]; rfl
  case updateLimits | build | store => rfl

inductive Since (a : Actuator α) : List (Call α) → List (Call α) → Prop
  | resolved {calls : List (Call α)} {c : Call α} :
    c.Resolves (a.run calls).value → Since a (calls ++ [c]) []
  | further {calls since : List (Call α)} {c : Call α} :
    Since a calls since → ¬ c.Resolves (a.run calls).value → Since a (calls ++ [c]) (since ++ [c])

theorem Initialised.exists_since (h : a.Initialised calls) : ∃ since, a.Since calls since := by
  induction calls using List.reverseRecOn
  case nil => exact absurd h not_initialised_nil
  case append_singleton calls c ih =>
    by_cases resolves : c.Resolves (a.run calls).value
    case pos => exact ⟨[], .resolved resolves⟩
    case neg =>
      have ⟨since, earlier⟩ := ih ((initialised_concat_iff.mp h).resolve_right resolves)
      exact ⟨since ++ [c], .further earlier resolves⟩

namespace Since

theorem force (h : a.Since calls since) (tidy : a.Tidy) {j : Nat}
    (lt : j < (a.run calls).value.dimension) :
    (a.run calls).value.force[j]? =
      some ((latest? (·.multipliers[j]?) (solutions since)).getD
        ((a.run calls).value.config.initForce.getD 0)) := by
  induction h
  case resolved calls c resolves =>
    have ⟨config, active, value⟩ := call_of_resolves resolves
    rw [run_concat, value] at lt ⊢
    exact List.getElem?_replicate_of_lt lt
  case further calls since c _ other ih =>
    have keeps := keeps_of_not_resolves other
    rw [run_concat] at lt ⊢
    rw [dimension, keeps.dimension] at lt
    have axis : j < (a.run calls).value.force.length := (tidy.run calls).shaped.force.symm ▸ lt
    rw [force_call_of_not_resolves other axis, ih lt, keeps.config, latest?_solutions_concat]
    cases c.solution?.bind (·.multipliers[j]?) <;> rfl

theorem history (h : a.Since calls since) :
    (a.run calls).value.history = .ofSolutions (solutions since) := by
  induction h
  case resolved calls c resolves =>
    have ⟨config, active, value⟩ := call_of_resolves resolves
    rw [run_concat, value]
    rfl
  case further calls since c _ other ih =>
    rw [run_concat, history_call_of_not_resolves other, ih, solutions_concat]
    cases c.solution?
    case none   => exact congrArg History.ofSolutions (List.append_nil _).symm
    case some s => exact (History.ofSolutions_concat ..).symm

end Since

theorem lastWrites_of_run (name : String) (config : Config α) {calls : List (Call α)}
    (initialised : (new name config).Initialised calls) :
    let a := ((new name config).run calls).value
    (∃ since, (new name config).Since calls since) ∧
    ∀ since, (new name config).Since calls since →
      a.force.length = a.dimension ∧
      (∀ j < a.dimension,
        a.force[j]? =
          some ((latest? (·.multipliers[j]?) (solutions since)).getD (a.config.initForce.getD 0))) ∧
      a.state.displacement = (latest? (·.deltas.head?) (solutions calls)).getD 0 ∧
      a.history = .ofSolutions (solutions since) := by
  intro a
  have tidy := Tidy.new name config
  refine ⟨initialised.exists_since, fun since latest => ?_⟩
  have force {j : Nat} (lt : j < a.dimension) := latest.force tidy lt
  exact ⟨(tidy.run calls).shaped.force, fun _ => force, displacement_run _ calls, latest.history⟩

def shortCalls : List (Call Float) :=
  [.init none, .store [7, 8, 9] [0.5, 1.5], .reinit, .store [4, 5] [], .updateLimits, .store [6] []]

theorem lastWrites_of_shortCalls :
    (new "wander" bandedConfig).Initialised shortCalls ∧
    (new "wander" bandedConfig).Since shortCalls
      [.store [4, 5] [], .updateLimits, .store [6] []] ∧
    let a := ((new "wander" bandedConfig).run shortCalls).value
    a.dimension = 3 ∧ a.force[0]? = some 6 ∧ a.force[1]? = some 5 ∧ a.force[2]? = some 2 ∧
    a.state.displacement = 0.5 ∧ a.history = { iterations := 2, multipliers := [6] } := by
  have initialised : (new "wander" bandedConfig).Initialised shortCalls :=
    ⟨[.init none, .store [7, 8, 9] [0.5, 1.5]], .reinit, _, rfl, trivial⟩
  have since : (new "wander" bandedConfig).Since shortCalls
      [.store [4, 5] [], .updateLimits, .store [6] []] := by
    have reset   := @Since.resolved _ _ _ (new "wander" bandedConfig) (shortCalls.take 2) .reinit trivial
    have stored  := reset.further (c := .store [4, 5] []) id
    have limited := stored.further (c := .updateLimits) id
    exact limited.further (c := .store [6] []) id
  have three : ((new "wander" bandedConfig).run shortCalls).value.dimension = 3 := by
    decide +kernel
  have ⟨_, written⟩ := lastWrites_of_run "wander" bandedConfig initialised
  have ⟨_, force, displacement, history⟩ := written _ since
  rw [three] at force
  exact ⟨initialised, since, three, force 0 (by decide), force 1 (by decide),
    (force 2 (by decide)).trans (by decide +kernel), displacement, history⟩

end Actuator
end PointForce
