import PointForce.Proofs.Host.Lifetime

namespace PointForce.Host

theorem RowArrays.counters_of_write {out written : RowArrays} {ts : List (Triplet Float)}
    (h : out.write? ts = some written) :
    written.count = out.count ∧ written.rowCount = out.rowCount := by
  rw [write?] at h
  split at h
  case h_1 => cases h; exact ⟨rfl, rfl⟩
  case h_2 => split at h <;> cases h; exact ⟨rfl, rfl⟩

namespace Session

variable {s s' : Session} {c : Call} {r : Reply} {slot : String} {log : List Exchange} {h : Handle}

def active (s : Session) (slot : String) : Bool :=
  (s.handle? slot).elim false (·.actuator.active)

theorem active_of_some (held : s.handle? slot = some h) : s.active slot = h.actuator.active := by
  rw [active, held, Option.elim_some]

theorem Exit.active_eq (exit : Exit s c s' r) (lives : ¬ c.replaces slot) (other : c ≠ .init slot) :
    s'.active slot = s.active slot := by
  by_cases own : c.slot? = some slot
  case neg => rw [active, exit.handle?_of_ne own, active]
  case pos =>
    cases exit
    case told | refused | bounded | forced => rfl
    all_goals cases own
    case freed | created | notCreated => exact (lives (decide_eq_true rfl)).elim
    case started | notStarted         => exact (other rfl).elim
    case placed ok held =>
      have ⟨_, eq⟩ := Handle.exists_of_setPositions ok
      rw [active_of_some (handle?_keep ..), active_of_some held, eq]
    case restarted held =>
      rw [active_of_some (handle?_keep ..), active_of_some held]
      rfl
    case stored ok held =>
      have ⟨_, _, eq⟩ := Handle.exists_of_store ok
      rw [active_of_some (handle?_keep ..), active_of_some held, eq]
      rfl
    case built held =>
      rw [active_of_some (handle?_keep ..), active_of_some held]
      rfl
    case notHandedOut held =>
      rw [active, handle?_fail, handle?_put_self, active_of_some held]
      rfl

theorem Exit.of_rows_ok {firstRow capacity : Nat} {out written : RowArrays}
    (exit : Exit s (.buildRows slot firstRow capacity out) s' (.rows .ok written)) :
    ∃ h, s.handle? slot = some h ∧ s' = s.keep slot (h.build firstRow) ∧
      (out.counted (h.build firstRow)).write? (h.build firstRow).triplets = some written := by
  cases exit
  case told infallible _ _    => cases infallible
  case refused failed         => exact (failed rfl).elim
  case notHandedOut failed    => exact (failed rfl).elim
  case built held sound write => exact ⟨_, held, rfl, write⟩

structure Delivers (s : Session) (slot : String) (n : Nat) : Prop where
  bounds : ∃ b : Bounds Float, b.Sized n ∧ ∀ out, out.Room n →
    s.ask (.bounds slot out) = some (s.succeed, .bounds .ok (out.filled n b))
  force  : ∃ force : List Float, force.length = n ∧ ∀ cells, n ≤ cells.length →
    s.ask (.force slot cells.length (some cells)) =
      some (s.succeed, .force .ok (some (force ++ cells.drop n)))

theorem exists_ask_bounds (held : s.handle? slot = some h)
    (sized : h.actuator.bounds.Sized h.actuator.dimension) {out : BoundArrays}
    (complete : out.complete) :
    ∃ written, s.ask (.bounds slot out) = some (s.succeed, .bounds .ok written) ∧
      (out.Room h.actuator.dimension →
        written = out.filled h.actuator.dimension h.actuator.bounds) := by
  have ⟨written, write, same⟩ := BoundArrays.exists_write_of_sized sized out
  refine ⟨written, ?_, same⟩
  simp only [ask, call, bounds, held, if_pos complete, write]
  rfl

theorem ask_dimension (held : s.handle? slot = some h) :
    s.ask (.dimension slot) = some (s, .count h.actuator.dimension) := by
  simp only [ask, call, held]
  rfl

theorem ask_isActive (s : Session) (slot : String) :
    s.ask (.isActive slot) = some (s, .flag (s.active slot)) :=
  rfl

theorem delivers (held : s.handle? slot = some h) (shaped : h.actuator.state.Shaped) :
    s.Delivers slot h.actuator.dimension where
  bounds := by
    refine ⟨h.actuator.bounds, Bounds.sized_of_shaped shaped, fun out room => ?_⟩
    have ⟨written, asked, eq⟩ :=
      exists_ask_bounds held (Bounds.sized_of_shaped shaped) room.complete
    rw [asked, eq room]
  force  := by
    refine ⟨h.actuator.force, shaped.force, fun cells room => ?_⟩
    have len : h.actuator.force.length = h.actuator.dimension := shaped.force
    have fits : h.actuator.force.length ≤ cells.length := len ▸ room
    rw [ask_force held fits, Buffer.overwrite_eq_append fits, len]

-- However a handle was used, its configuration is admissible, its initialisation succeeds, and its
-- bounds have an entry for each axis.
theorem safe_of_run (calls : List Call) :
    ∃ s log, start.run calls = some (s, log) ∧ ∀ {slot h}, s.handle? slot = some h →
      h.actuator.config.fault? = none ∧
      (∃ started, s.ask (.init slot) = some (started, .status .ok) ∧
        ∀ {later}, (∀ c ∈ later, ¬ c.replaces slot ∧ c ≠ .init slot) →
          ∃ after meanwhile active, started.run later = some (after, meanwhile) ∧
            after.ask (.isActive slot) = some (after, .flag active) ∧
            (active ↔ Positioned slot log)) ∧
      ∃ n, s.ask (.dimension slot) = some (s, .count n) ∧ h.actuator.bounds.Sized n ∧
        ∀ {out}, out.complete →
          ∃ written, s.ask (.bounds slot out) = some (s.succeed, .bounds .ok written) ∧
            (out.Room n → written = out.filled n h.actuator.bounds) := by
  have ⟨s, log, ran, sound⟩ := exists_sound_run calls
  refine ⟨s, log, ran, fun {slot h} held => ?_⟩
  have own := sound.handle held
  have started := ask_init held own.valid
  have ⟨_, value⟩ := Actuator.init_of_valid own.valid (h.cloud.map PointCloud.body)
  rw [value, Option.isSome_map] at started
  refine ⟨Config.fault?_eq_none_iff.mpr own.valid, ⟨_, started, fun {later} quiet => ?_⟩,
    h.actuator.dimension, ask_dimension held, own.sized, exists_ask_bounds held own.sized⟩
  have ⟨after, meanwhile, ran, _, same⟩ := (sound.concat (exit_of_ask started)).exists_run
    (P := fun now _ => now.active slot = h.cloud.isSome)
    (fun quiet _ same exit => (exit.active_eq quiet.left quiet.right).trans same) quiet
    (active_of_some (handle?_keep ..))
  refine ⟨after, meanwhile, _, ran, ask_isActive .., ?_⟩
  rw [same, own.placed]

-- Rows that are handed out are as many as the entries for them from the first initialisation on.
-- Before, there are rows, but no entries.
theorem rowCount_of_run (calls : List Call) :
    ∃ s log, start.run calls = some (s, log) ∧
      ∀ {slot firstRow capacity out s' written},
        s.ask (.buildRows slot firstRow capacity out) = some (s', .rows .ok written) →
          ∃ rows n, written.rowCount = some rows ∧ 0 < rows ∧
            s'.ask (.dimension slot) = some (s', .count n) ∧ s'.Delivers slot n ∧
            (Initialised slot log → n = rows) ∧ (¬ Initialised slot log → n = 0) := by
  have ⟨s, log, ran, sound⟩ := exists_sound_run calls
  refine ⟨s, log, ran, fun {slot firstRow capacity out s' written} asked => ?_⟩
  have ⟨h, held, eq, write⟩ := (exit_of_ask asked).of_rows_ok
  have own := sound.handle held
  have now : s'.handle? slot = some (h.build firstRow) := eq ▸ handle?_keep ..
  have ⟨_, rowCount⟩ := RowArrays.counters_of_write write
  exact ⟨h.actuator.config.dimension, (h.build firstRow).actuator.dimension, rowCount,
    Mode.dimension_pos _, ask_dimension now, delivers now (Handle.shaped_build own.shaped _),
    own.resolved, own.unresolved⟩

theorem replies_of_unresolved :
    let out : RowArrays :=
      { rows := some [], dofs := some [], values := some [], count := some 7, rowCount := some 7 }
    (start.run [.create "cable" (some []) (some [0x7b, 0x7d]), .buildRows "cable" 0 0 out,
        .dimension "cable"]).map (fun (_, log) => log.map Exchange.reply) =
      some
        [.created true, .rows .ok { out with count := some 0, rowCount := some 3 }, .count 0] := by
  decide +kernel

end Session
end PointForce.Host
