import Mathlib.Data.List.Infix
import PointForce.Proofs.Drawing.Lighting

-- The lighting of a recorder is a stack. What it shows is what the innermost change that is not
-- taken back yet has asked for, and under it lies what was there before.

namespace PointForce

namespace DrawCall

variable {α : Type} {calls later : List (DrawCall α)} {pending : List Bool} {enabled : Bool}

def isChange : DrawCall α → Bool
  | .lighting _         => true
  | .arrow _ | .restore => false

def isRestore : DrawCall α → Bool
  | .restore               => true
  | .arrow _ | .lighting _ => false

-- The calls do not begin with more restorations than changes, wherever one stops.
def Matched (calls : List (DrawCall α)) : Prop :=
  ∀ before, before <+: calls → before.countP isRestore ≤ before.countP isChange

instance : Decidable (Matched calls) :=
  decidable_of_iff (∀ before ∈ calls.inits, before.countP isRestore ≤ before.countP isChange)
    (forall_congr' fun _ => by rw [List.mem_inits])

theorem Matched.of_prefix (h : Matched later) (le : calls <+: later) : Matched calls :=
  fun _ before => h _ (before.trans le)

-- What the open changes asked for, the innermost first. Between them stand calls that take back all
-- they change.
inductive Pending : List (DrawCall α) → List Bool → Prop
  | none {calls : List (DrawCall α)} (balanced : Balanced calls) : Pending calls []
  | change {early late : List (DrawCall α)} {pending : List Bool} (enabled : Bool)
    (before : Pending early pending) (balanced : Balanced late) :
    Pending (early ++ .lighting enabled :: late) (enabled :: pending)

theorem Balanced.count (h : Balanced calls) : calls.countP isChange = calls.countP isRestore := by
  induction h
  case nil                   => rfl
  case arrow ih              => simp [isChange, isRestore, ih]
  case nested ihInner ihRest =>
    simp [List.countP_cons, isChange, isRestore, ihInner, ihRest]
    omega

namespace Pending

theorem count (h : Pending calls pending) :
    calls.countP isChange = calls.countP isRestore + pending.length := by
  induction h
  case none balanced => exact balanced.count
  case change balanced ih =>
    simp [List.countP_cons, isChange, isRestore, ih, balanced.count]
    omega

theorem append (h : Pending calls pending) (balanced : Balanced later) :
    Pending (calls ++ later) pending := by
  cases h
  case none first         => exact .none (first.append balanced)
  case change before last => simpa using before.change _ (last.append balanced)

theorem restore (h : Pending calls (enabled :: pending)) :
    Pending (calls ++ [.restore]) pending := by
  cases h
  case change late before => simpa using before.append (.nested enabled late .nil)

end Pending

-- By induction from the end. A restoration finds something to take back, as there are more changes
-- than restorations before it.
theorem Matched.exists_pending (h : Matched calls) : ∃ pending, Pending calls pending := by
  induction calls using List.reverseRecOn
  case nil => exact ⟨[], .none .nil⟩
  case append_singleton calls call ih =>
    have ⟨pending, before⟩ := ih (h.of_prefix (List.prefix_append ..))
    cases call
    case lighting enabled => exact ⟨_, before.change enabled .nil⟩
    case arrow a          => exact ⟨_, before.append (.arrow a .nil)⟩
    case restore =>
      cases pending
      case cons => exact ⟨_, before.restore⟩
      case nil  =>
        have le := h _ List.prefix_rfl
        rw [List.countP_append, List.countP_append, before.count] at le
        exact absurd le (Nat.not_succ_le_self _)

end DrawCall

namespace Recorder

variable {α : Type} {calls : List (DrawCall α)} {pending : List Bool}

def stack (r : Recorder α) : List Bool :=
  r.lighting :: r.saved

theorem stack_run (h : DrawCall.Pending calls pending) (r : Recorder α) :
    (r.run calls).stack = pending ++ r.stack := by
  induction h
  case none balanced => simp [run_of_balanced balanced, stack]
  case change enabled _ balanced ih =>
    rw [run_append, run_cons, run_of_balanced balanced]
    exact congrArg (enabled :: ·) ih

theorem pending_unique {other : List Bool} (h : DrawCall.Pending calls pending)
    (h' : DrawCall.Pending calls other) : other = pending := by
  let r : Recorder α := {}
  exact List.append_cancel_right ((stack_run h' r).symm.trans (stack_run h r))

theorem pending_iff {other : List Bool} (h : DrawCall.Pending calls pending) :
    DrawCall.Pending calls other ↔ other = pending := by
  constructor
  case mp  => exact pending_unique h
  case mpr => exact (· ▸ h)

theorem lighting_run (h : DrawCall.Pending calls pending) (r : Recorder α) :
    (r.run calls).lighting = pending.headD r.lighting ∧
      (r.run calls).saved = (pending ++ r.stack).tail := by
  have stack := stack_run h r
  cases pending <;> exact List.cons_eq_cons.mp stack

theorem perform_restore_of_nil {r : Recorder α} (h : r.saved = []) : r.perform .restore = r := by
  simp [perform, restoreLighting, h]

theorem lighting_of_matched (matched : DrawCall.Matched calls) (r : Recorder α) :
    (∀ before, before <+: calls → ∃ pending,
      (∀ other, DrawCall.Pending before other ↔ other = pending) ∧
      (r.run before).lighting = pending.headD r.lighting ∧
      (r.run before).saved = (pending ++ r.stack).tail) ∧
    (calls.countP DrawCall.isChange = calls.countP DrawCall.isRestore →
      (r.run calls).lighting = r.lighting ∧ (r.run calls).saved = r.saved) ∧
    (r.saved = [] → r.perform .restore = r) := by
  refine ⟨fun before le => ?_, fun even => ?_, perform_restore_of_nil⟩
  · have ⟨pending, h⟩ := (matched.of_prefix le).exists_pending
    exact ⟨pending, fun _ => pending_iff h, lighting_run h r⟩
  · have ⟨pending, h⟩ := matched.exists_pending
    have none : pending = [] := List.eq_nil_of_length_eq_zero (by have := h.count; omega)
    subst none
    exact lighting_run h r

def nestedCalls : List (DrawCall Float) :=
  [.lighting true, .lighting false, .lighting true, .restore, .restore, .restore]

theorem lighting_of_nestedCalls :
    let r : Recorder Float := {}
    DrawCall.Matched nestedCalls ∧
      nestedCalls.countP DrawCall.isChange = nestedCalls.countP DrawCall.isRestore ∧
      (r.run nestedCalls).lighting = r.lighting ∧
      DrawCall.Pending (nestedCalls.take 4) [false, true] ∧
      (r.run (nestedCalls.take 4)).lighting = false ∧
      r.saved = [] ∧ r.perform .restore = r := by
  intro r
  have matched : DrawCall.Matched nestedCalls := by decide
  have even : nestedCalls.countP DrawCall.isChange = nestedCalls.countP DrawCall.isRestore := rfl
  have outer : DrawCall.Pending ([] ++ .lighting true :: [] : List (DrawCall Float)) [true] :=
    .change true (.none .nil) .nil
  have left : DrawCall.Pending (nestedCalls.take 4) [false, true] :=
    outer.change false (.nested true .nil .nil)
  have ⟨shown, restored, bottom⟩ := lighting_of_matched matched r
  have ⟨pending, same, lighting, _⟩ := shown _ (List.take_prefix 4 nestedCalls)
  rw [← (same _).mp left] at lighting
  exact ⟨matched, even, (restored even).left, left, lighting, rfl, bottom rfl⟩

end Recorder
end PointForce
