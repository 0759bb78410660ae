import Mathlib.Data.List.DropRight
import PointForce.Proofs.Host.Exits

namespace PointForce

theorem Actuator.shaped_store {α : Type} [Scalar α] {a : Actuator α} (h : a.state.Shaped)
    (multipliers deltas : List α) : (a.store multipliers deltas).value.state.Shaped :=
  h.overwrite multipliers _ |>.limit a.config

namespace Host

namespace Call

def replaces (slot : String) : Call → Bool
  | create other .. | free other => other = slot
  | _                            => false

def places (slot : String) : Call → Bool
  | setPositions other .. => other = slot
  | _                     => false

def resolves (slot : String) : Call → Bool
  | init other | reinit other => other = slot
  | _                         => false

theorem not_replaces_of_ne {c : Call} {slot : String} (h : c.slot? ≠ some slot) :
    ¬ c.replaces slot := by
  cases c <;> simp_all [slot?, replaces]

theorem not_places_of_ne {c : Call} {slot : String} (h : c.slot? ≠ some slot) :
    ¬ c.places slot := by
  cases c <;> simp_all [slot?, places]

theorem not_resolves_of_ne {c : Call} {slot : String} (h : c.slot? ≠ some slot) :
    ¬ c.resolves slot := by
  cases c <;> simp_all [slot?, resolves]

theorem not_replaces_of_keeps {c : Call} {slot : String} (keeps : c.renews = false) :
    ¬ c.replaces slot := by
  cases c <;> cases keeps <;> exact nofun

end Call

namespace Reply

theorem not_succeeded_rows {s : Status} (h : s ≠ .ok) (out : RowArrays) :
    ¬ (rows s out).Succeeded := by
  cases s
  case ok => exact absurd rfl h
  all_goals exact nofun

theorem not_succeeded_handBack {s : Status} (h : s ≠ .ok) (c : Call) :
    ¬ (c.handBack s).Succeeded := by
  cases s
  case ok => exact absurd rfl h
  all_goals cases c <;> exact nofun

end Reply

structure Exchange where
  before : Session
  call   : Call
  reply  : Reply

def life (slot : String) (log : List Exchange) : List Exchange :=
  log.rtakeWhile fun x => !x.call.replaces slot

def Done (kind : String → Call → Bool) (slot : String) (log : List Exchange) : Prop :=
  ∃ x ∈ life slot log, kind slot x.call ∧ x.reply.Succeeded

def Positioned : String → List Exchange → Prop :=
  Done Call.places

def Initialised : String → List Exchange → Prop :=
  Done Call.resolves

section Done

variable {kind : String → Call → Bool} {slot : String} {log : List Exchange} {x : Exchange}

theorem done_concat_iff (h : ¬ x.call.replaces slot) :
    Done kind slot (log ++ [x]) ↔ Done kind slot log ∨ kind slot x.call ∧ x.reply.Succeeded := by
  have grows : life slot (log ++ [x]) = life slot log ++ [x] :=
    List.rtakeWhile_concat_pos _ _ _ (by simpa using h)
  simp [Done, grows, or_and_right, exists_or]

theorem not_done_concat (h : x.call.replaces slot) : ¬ Done kind slot (log ++ [x]) := by
  have empty : life slot (log ++ [x]) = [] :=
    List.rtakeWhile_concat_neg _ _ _ (by simpa using h)
  simp [Done, empty]

end Done

namespace BoundArrays

variable {n : Nat} {b : Bounds Float}

def filled (out : BoundArrays) (n : Nat) (b : Bounds Float) : BoundArrays where
  lower    := out.lower.map (b.lower.getD (.replicate n Extended.negInfinity) ++ ·.drop n)
  upper    := out.upper.map (b.upper.getD (.replicate n Extended.infinity) ++ ·.drop n)
  guess    := out.guess.map (b.guess.getD (.replicate n 0) ++ ·.drop n)
  hasLower := out.hasLower.map fun _ => b.lower.isSome
  hasUpper := out.hasUpper.map fun _ => b.upper.isSome
  hasGuess := out.hasGuess.map fun _ => b.guess.isSome
  penalty  := out.penalty.map fun _ => b.penalty.getD (0 / 0)

theorem exists_mapM_fill {bound : Option (List Float)}
    (sized : ∀ values, bound = some values → values.length = n) (inactive : Float)
    (cells : Option (List Float)) :
    ∃ filled, cells.mapM (fill? n inactive bound) = some filled ∧
      (n ≤ (cells.getD []).length →
        filled = cells.map (bound.getD (.replicate n inactive) ++ ·.drop n)) := by
  cases cells
  case none => exact ⟨none, rfl, fun _ => rfl⟩
  case some cells =>
    have len := length_getD_of_sized sized inactive
    refine ⟨_, congrArg (Option.map some) (fill?_of_sized sized inactive cells), fun room => ?_⟩
    rw [Buffer.overwrite_eq_append (len.symm ▸ room), len]
    rfl

theorem exists_write_of_sized (sized : b.Sized n) (out : BoundArrays) :
    ∃ written, out.write? n b = some written ∧ (out.Room n → written = out.filled n b) := by
  have ⟨lower, fillLower, lower_eq⟩ := exists_mapM_fill sized.lower Extended.negInfinity out.lower
  have ⟨upper, fillUpper, upper_eq⟩ := exists_mapM_fill sized.upper Extended.infinity out.upper
  have ⟨guess, fillGuess, guess_eq⟩ := exists_mapM_fill sized.guess 0 out.guess
  refine ⟨_, by rw [write?, fillLower, fillUpper, fillGuess]; rfl, fun room => ?_⟩
  simp only [filled, lower_eq room.lower, upper_eq room.upper, guess_eq room.guess]

end BoundArrays

namespace Handle

variable {h : Handle}

theorem exists_of_create {name config : Option (List UInt8)}
    (created : create name config = .ok h) :
    ∃ label c, c.Valid ∧ h = { actuator := .new label c } := by
  rw [create.eq_def] at created
  split at created
  case h_1 | h_2 => cases created
  case h_3 name config =>
    split at created
    case h_1 => cases created
    case h_2 text _ =>
      cases read : Config.ofDocument text <;> rw [read] at created <;> cases created
      exact ⟨_, _, Config.valid_of_ofDocument read, rfl⟩

theorem exists_of_setPositions {coords : Option (List Float)} {points : Nat} {moved : Logged Handle}
    (ok : h.setPositions coords points = .ok moved) :
    ∃ cloud, moved.value = { h with cloud := some cloud } := by
  rw [setPositions] at ok
  cases given : array? .positions coords (3 * points) <;> rw [given] at ok
  case error => cases ok
  case ok coords =>
    cases shaped : PointCloud.ofFlat coords <;> simp only [bind, Except.bind, shaped] at ok <;>
      cases ok
    exact ⟨_, rfl⟩

theorem exists_of_store {l d : Option (List Float)} {nl nd : Nat} {after : Logged Handle}
    (ok : h.store l nl d nd = .ok after) :
    ∃ multipliers deltas,
      after.value = { h with actuator := (h.actuator.store multipliers deltas).value } := by
  rw [store] at ok
  cases given : array? .multipliers l nl <;> rw [given] at ok
  case error => cases ok
  case ok multipliers =>
    cases given' : array? .deltas d nd <;> simp only [bind, Except.bind, given'] at ok <;> cases ok
    exact ⟨_, _, rfl⟩

theorem init_of_valid (valid : h.actuator.config.Valid) :
    h.init.2.value =
      { h with actuator := { h.actuator.reinit.value with active := h.cloud.isSome } } := by
  have ⟨_, value⟩ := Actuator.init_of_valid valid (h.cloud.map PointCloud.body)
  rw [Option.isSome_map] at value
  exact congrArg (fun actuator => { h with actuator }) value

theorem shaped_build (shaped : h.actuator.state.Shaped) (firstRow : Nat) :
    (h.build firstRow).actuator.state.Shaped :=
  ⟨shaped.force, shaped.lower, shaped.upper, shaped.guess⟩

-- The configuration is one that was accepted, there are points if some were given, and nothing is
-- resolved before the first initialisation.
structure Sound (h : Handle) (slot : String) (log : List Exchange) : Prop where
  valid      : h.actuator.config.Valid
  shaped     : h.actuator.state.Shaped
  placed     : h.cloud.isSome ↔ Positioned slot log
  resolved   : Initialised slot log → h.actuator.dimension = h.actuator.config.dimension
  unresolved : ¬ Initialised slot log → h.actuator.dimension = 0

namespace Sound

variable {h' : Handle} {slot : String} {log : List Exchange} {x : Exchange}

theorem sized (sound : h.Sound slot log) : h.actuator.bounds.Sized h.actuator.dimension :=
  Bounds.sized_of_shaped sound.shaped

theorem concat_same (sound : h.Sound slot log) (config : h'.actuator.config = h.actuator.config)
    (shaped : h'.actuator.state.Shaped) (cloud : h'.cloud = h.cloud)
    (dimension : h'.actuator.dimension = h.actuator.dimension)
    (lives : ¬ x.call.replaces slot) (places : ¬ (x.call.places slot ∧ x.reply.Succeeded))
    (resolves : ¬ (x.call.resolves slot ∧ x.reply.Succeeded)) : h'.Sound slot (log ++ [x]) where
  valid        := config ▸ sound.valid
  shaped       := shaped
  placed       := by
    rw [cloud, sound.placed, Positioned, done_concat_iff lives, or_iff_left places]
  resolved h   := by
    rw [Initialised, done_concat_iff lives, or_iff_left resolves] at h
    rw [dimension, config, sound.resolved h]
  unresolved h := by
    rw [Initialised, done_concat_iff lives, or_iff_left resolves] at h
    rw [dimension, sound.unresolved h]

theorem new {label : String} {c : Config Float} (valid : c.Valid) (lives : x.call.replaces slot) :
    Sound { actuator := .new label c } slot (log ++ [x]) where
  valid        := valid
  shaped       := .unresolved
  placed       := iff_of_false nofun (not_done_concat lives)
  resolved h   := absurd h (not_done_concat lives)
  unresolved _ := rfl

theorem concat_placed (sound : h.Sound slot log) (cloud : PointCloud Float)
    (lives : ¬ x.call.replaces slot) (places : x.call.places slot ∧ x.reply.Succeeded)
    (resolves : ¬ x.call.resolves slot) :
    Sound { h with cloud := some cloud } slot (log ++ [x]) where
  valid        := sound.valid
  shaped       := sound.shaped
  placed       := iff_of_true rfl ((done_concat_iff lives).mpr (.inr places))
  resolved h   := sound.resolved
    (((done_concat_iff lives).mp h).resolve_right fun resolved => resolves resolved.left)
  unresolved h := sound.unresolved fun earlier => h ((done_concat_iff lives).mpr (.inl earlier))

theorem concat_resolved (sound : h.Sound slot log) (active : Bool)
    (lives : ¬ x.call.replaces slot) (places : ¬ x.call.places slot)
    (resolves : x.call.resolves slot ∧ x.reply.Succeeded) :
    Sound { h with actuator := { h.actuator.reinit.value with active } } slot (log ++ [x]) where
  valid        := sound.valid
  shaped       := .limit (.activate (.resolve ..) _) _
  placed       := by
    rw [sound.placed, Positioned, done_concat_iff lives,
      or_iff_left fun placed => places placed.left]
  resolved _   := rfl
  unresolved h := absurd ((done_concat_iff lives).mpr (.inr resolves)) h

end Sound
end Handle

namespace Session

variable {s s' : Session} {c : Call} {r : Reply} {slot : String} {log : List Exchange}

@[simp]
theorem handle?_put_self (s : Session) (slot : String) (h : Option Handle) :
    (s.put slot h).handle? slot = h :=
  if_pos rfl

theorem handle?_put_of_ne {other : String} (h : other ≠ slot) (s : Session) (held : Option Handle) :
    (s.put slot held).handle? other = s.handle? other :=
  if_neg h

@[simp]
theorem handle?_fail (s : Session) (e : Error) : (s.fail e).handle? = s.handle? :=
  rfl

structure Sound (s : Session) (log : List Exchange) : Prop where
  handle : ∀ {slot h}, s.handle? slot = some h → h.Sound slot log

theorem Sound.start : start.Sound [] where
  handle := nofun

namespace Exit

theorem handle?_of_ne (exit : Exit s c s' r) (h : c.slot? ≠ some slot) :
    s'.handle? slot = s.handle? slot := by
  have ne {other : String} (h : some other ≠ some slot) : slot ≠ other := fun eq => h (eq ▸ rfl)
  cases exit
  case told | refused | bounded | forced => rfl
  all_goals exact handle?_put_of_ne (ne h) ..

theorem sound_own (exit : Exit s c s' r) (sound : s.Sound log) (own : c.slot? = some slot)
    {h : Handle} (held : s'.handle? slot = some h) : h.Sound slot (log ++ [⟨s, c, r⟩]) := by
  cases exit
  case told infallible keeps _ =>
    have before := sound.handle held
    cases c <;> cases infallible <;> cases keeps
    all_goals exact before.concat_same rfl before.shaped rfl rfl nofun nofun nofun
  case refused failed _ fallible keeps =>
    have before := sound.handle held
    have fails := Reply.not_succeeded_handBack failed c
    exact before.concat_same rfl before.shaped rfl rfl (Call.not_replaces_of_keeps keeps)
      (mt And.right fails) (mt And.right fails)
  case freed | notCreated =>
    cases own
    cases (handle?_put_self ..).symm.trans held
  case created ok =>
    cases own
    have ⟨_, _, valid, eq⟩ := Handle.exists_of_create ok
    cases (handle?_put_self ..).symm.trans held
    exact eq ▸ .new valid (decide_eq_true rfl)
  case placed before ok =>
    cases own
    have ⟨cloud, eq⟩ := Handle.exists_of_setPositions ok
    cases (handle?_put_self ..).symm.trans held
    exact eq ▸ (sound.handle before).concat_placed cloud nofun ⟨decide_eq_true rfl, rfl⟩ nofun
  case started before valid =>
    cases own
    cases (handle?_put_self ..).symm.trans held
    rw [Handle.init_of_valid valid]
    exact (sound.handle before).concat_resolved _ nofun nofun ⟨decide_eq_true rfl, rfl⟩
  case notStarted before invalid =>
    cases own
    cases invalid.symm.trans (Config.fault?_eq_none_iff.mpr (sound.handle before).valid)
  case restarted before =>
    cases own
    cases (handle?_put_self ..).symm.trans held
    exact (sound.handle before).concat_resolved _ nofun nofun ⟨decide_eq_true rfl, rfl⟩
  case stored before ok =>
    cases own
    have ⟨multipliers, deltas, eq⟩ := Handle.exists_of_store ok
    cases (handle?_put_self ..).symm.trans held
    have shaped := Actuator.shaped_store (sound.handle before).shaped multipliers deltas
    exact eq ▸ (sound.handle before).concat_same rfl shaped rfl rfl nofun nofun nofun
  case built before _ _ =>
    cases own
    cases (handle?_put_self ..).symm.trans held
    have shaped := (sound.handle before).shaped
    exact (sound.handle before).concat_same rfl (Handle.shaped_build shaped _) rfl rfl
      nofun nofun nofun
  case notHandedOut before _ _ _ _ =>
    cases own
    cases (handle?_put_self ..).symm.trans held
    have shaped := (sound.handle before).shaped
    exact (sound.handle before).concat_same rfl (Handle.shaped_build shaped _) rfl rfl
      nofun nofun nofun
  case bounded | forced =>
    have before := sound.handle held
    exact before.concat_same rfl before.shaped rfl rfl nofun nofun nofun

end Exit

theorem Sound.concat (sound : s.Sound log) (exit : Exit s c s' r) :
    s'.Sound (log ++ [⟨s, c, r⟩]) := by
  refine ⟨fun {slot h} held => ?_⟩
  by_cases own : c.slot? = some slot
  case pos => exact exit.sound_own sound own held
  case neg =>
    have before := sound.handle ((exit.handle?_of_ne own).symm.trans held)
    exact before.concat_same rfl before.shaped rfl rfl (Call.not_replaces_of_ne own)
      (mt And.left (Call.not_places_of_ne own)) (mt And.left (Call.not_resolves_of_ne own))

-- Bounds always have the right length, so no call goes out of range.
theorem Sound.exists_ask (sound : s.Sound log) (c : Call) : ∃ s' r, s.ask c = some (s', r) := by
  cases c
  case bounds slot out =>
    rw [ask, call, bounds]
    cases held : s.handle? slot
    case none   => exact ⟨_, _, rfl⟩
    case some h =>
      obtain ⟨written, write, _⟩ := BoundArrays.exists_write_of_sized (sound.handle held).sized out
      simp only [write]
      split <;> exact ⟨_, _, rfl⟩
  all_goals exact ⟨_, _, rfl⟩

def run (s : Session) : List Call → Option (Session × List Exchange)
  | []         => some (s, [])
  | c :: calls => do
    let (next, reply)  ← s.ask c
    let (final, later) ← next.run calls
    return (final, ⟨s, c, reply⟩ :: later)

theorem Sound.exists_run {P : Session → List Exchange → Prop} {Q : Call → Prop}
    (step : ∀ {s log c s' r}, Q c → s.Sound log → P s log → Exit s c s' r →
      P s' (log ++ [⟨s, c, r⟩])) :
    ∀ {calls : List Call} {s log}, (∀ c ∈ calls, Q c) → s.Sound log → P s log →
      ∃ s' later, s.run calls = some (s', later) ∧ s'.Sound (log ++ later) ∧ P s' (log ++ later)
  | [],         s, log, _, sound, p => by
    rw [← List.append_nil log] at sound p
    exact ⟨s, [], rfl, sound, p⟩
  | c :: calls, s, log, q, sound, p => by
    have ⟨now, then_⟩ := List.forall_mem_cons.mp q
    have ⟨s', r, asked⟩ := sound.exists_ask c
    have exit := exit_of_ask asked
    have ⟨final, later, ran, sound', p'⟩ :=
      exists_run step then_ (sound.concat exit) (step now sound p exit)
    rw [List.append_assoc, List.singleton_append] at sound' p'
    exact ⟨final, _, by simp [run, asked, ran], sound', p'⟩

theorem exists_sound_run (calls : List Call) :
    ∃ s log, start.run calls = some (s, log) ∧ s.Sound log := by
  have ⟨s, log, ran, sound, _⟩ := Sound.start.exists_run (P := fun _ _ => True)
    (Q := fun _ => True) (fun _ _ _ _ => trivial) (fun c (_ : c ∈ calls) => trivial) trivial
  exact ⟨s, log, ran, sound⟩

end Session
end Host
end PointForce
