import PointForce.Proofs.Host.Safety

-- What a call leaves alone: the handles and all lent arrays if it fails, and what lies behind its
-- answer in an array if it succeeds.

namespace PointForce

theorem Buffer.drop_overwrite {α : Type} : ∀ {xs ys : List α} {n : Nat}, xs.length ≤ n →
    (overwrite xs ys).drop n = ys.drop n
  | [],      _,       _,     _ => by simp [overwrite]
  | _ :: _,  [],      _,     _ => by simp [overwrite]
  | _ :: xs, _ :: ys, n + 1, h => by
    simp [overwrite, drop_overwrite (Nat.le_of_succ_le_succ h)]

namespace Host

inductive Lent
  | nothing
  | rows (out : RowArrays)
  | bounds (out : BoundArrays)
  | force (out : Option (List Float))

namespace Lent

def uncounted : Lent → Lent
  | rows out => rows { out with count := none, rowCount := none }
  | other    => other

def BehindSame {α : Type} (n : Nat) (before after : Option (List α)) : Prop :=
  after.map List.length = before.map List.length ∧ after.map (·.drop n) = before.map (·.drop n)

def FrontOnly (n : Nat) : Lent → Lent → Prop
  | nothing,    nothing    => True
  | rows b,     rows a     =>
    BehindSame n b.rows a.rows ∧ BehindSame n b.dofs a.dofs ∧ BehindSame n b.values a.values
  | bounds b,   bounds a   =>
    BehindSame n b.lower a.lower ∧ BehindSame n b.upper a.upper ∧ BehindSame n b.guess a.guess
  | force b,    force a    => BehindSame n b a
  | _,          _          => False

end Lent

def Call.lent : Call → Lent
  | buildRows _ _ _ out => .rows out
  | bounds _ out        => .bounds out
  | force _ _ out       => .force out
  | _                   => .nothing

def Reply.lent : Reply → Lent
  | rows _ out   => .rows out
  | bounds _ out => .bounds out
  | force _ out  => .force out
  | _            => .nothing

theorem Call.lent_handBack (c : Call) (s : Status) : (c.handBack s).lent = c.lent := by
  cases c <;> rfl

def Handle.withoutRows (h : Handle) : Handle where
  actuator := { h.actuator with state := { h.actuator.state with firstRow := 0, rowCount := 0 } }
  cloud    := h.cloud
  matrix   := .empty

theorem Handle.withoutRows_build (h : Handle) (firstRow : Nat) :
    (h.build firstRow).withoutRows = h.withoutRows :=
  rfl

namespace Lent

section

variable {α : Type} {n : Nat}

theorem BehindSame.refl (cells : Option (List α)) : BehindSame n cells cells :=
  ⟨rfl, rfl⟩

theorem behindSame_overwrite {xs : List α} (h : xs.length ≤ n) (cells : Option (List α)) :
    BehindSame n cells (cells.map (Buffer.overwrite xs)) := by
  cases cells
  case none       => exact .refl _
  case some cells => simp [BehindSame, Buffer.drop_overwrite h]

theorem behindSame_fill {inactive : Float} {bound cells filled : Option (List Float)}
    (h : cells.mapM (BoundArrays.fill? n inactive bound) = some filled) :
    BehindSame n cells filled := by
  cases cells
  case none       => cases h; exact .refl _
  case some cells =>
    have ⟨written, fill, eq⟩ := Option.map_eq_some_iff.mp h
    cases eq
    rw [BoundArrays.fill?.eq_def] at fill
    split at fill
    case h_1 =>
      cases fill
      exact behindSame_overwrite (Nat.le_of_eq List.length_replicate) (some cells)
    case h_2 values =>
      split at fill <;> cases fill
      exact behindSame_overwrite (List.length_take_le ..) (some cells)

end

theorem frontOnly_writeRows {out written : RowArrays} {ts : List (Triplet Float)}
    (h : out.write? ts = some written) : FrontOnly ts.length (.rows out) (.rows written) := by
  have front {β : Type} (f : Triplet Float → β) {cells : List β} {cells? : Option (List β)}
      (eq : cells? = some cells) :
      BehindSame ts.length cells? (some (Buffer.overwrite (ts.map f) cells)) :=
    eq ▸ behindSame_overwrite (Nat.le_of_eq (List.length_map f)) (some cells)
  rw [RowArrays.write?] at h
  split at h
  case h_1 rows dofs values =>
    cases h
    exact ⟨front _ rows, front _ dofs, front _ values⟩
  case h_2 =>
    split at h <;> cases h
    exact ⟨.refl _, .refl _, .refl _⟩

theorem frontOnly_writeBounds {out written : BoundArrays} {n : Nat} {b : Bounds Float}
    (h : out.write? n b = some written) : FrontOnly n (.bounds out) (.bounds written) := by
  have ⟨_, lower, h⟩ := Option.bind_eq_some_iff.mp h
  have ⟨_, upper, h⟩ := Option.bind_eq_some_iff.mp h
  have ⟨_, guess, h⟩ := Option.bind_eq_some_iff.mp h
  cases h
  exact ⟨behindSame_fill lower, behindSame_fill upper, behindSame_fill guess⟩

end Lent

namespace Session

variable {s s' : Session} {c : Call} {r : Reply} {slot : String} {log : List Exchange}

def extent (s : Session) : Call → Nat
  | .buildRows slot firstRow .. => (s.handle? slot).elim 0 (·.build firstRow |>.triplets.length)
  | .bounds slot _              => (s.handle? slot).elim 0 (·.actuator.dimension)
  | .force slot ..              => (s.handle? slot).elim 0 (·.actuator.force.length)
  | _                           => 0

-- The call gets as far as writing rows, whether or not they can be handed out.
def Counts (s : Session) (c : Call) : Prop :=
  ∃ slot firstRow capacity out, c = .buildRows slot firstRow capacity out ∧
    s.handle? slot ≠ none ∧ out.count ≠ none ∧ out.rowCount ≠ none

structure Intact (s s' : Session) (c : Call) (r : Reply) : Prop where
  handles : ∀ slot,
    (s'.handle? slot).map Handle.withoutRows = (s.handle? slot).map Handle.withoutRows
  lent    : r.lent.uncounted = c.lent.uncounted
  all     : ¬ s.Counts c → s'.handle? = s.handle? ∧ r.lent = c.lent

structure Answered (s : Session) (c : Call) (r : Reply) : Prop where
  front : Lent.FrontOnly (s.extent c) c.lent r.lent
  count : ∀ out, r.lent = .rows out → out.count = some (s.extent c)

theorem Exit.intact (exit : Exit s c s' r) (sound : s.Sound log) {code : Nat}
    (coded : r.code? = some code) (failed : code ≠ 0) : Intact s s' c r := by
  cases exit
  case told plain                      => cases plain.symm.trans coded
  case freed | created | notCreated    => cases coded
  case placed | started | restarted | stored | built | bounded | forced =>
    cases coded
    exact (failed rfl).elim
  case notStarted held invalid =>
    have valid := (sound.handle held).valid
    cases invalid.symm.trans (Config.fault?_eq_none_iff.mpr valid)
  case refused =>
    exact ⟨fun _ => rfl, congrArg _ (c.lent_handBack _), fun _ => ⟨rfl, c.lent_handBack _⟩⟩
  case notHandedOut slot firstRow capacity out h e status held count rowCount fault failed =>
    refine ⟨fun other => ?_, rfl, fun none => ?_⟩
    case refine_1 =>
      by_cases eq : other = slot
      case pos =>
        rw [eq, handle?_fail, handle?_put_self, held]
        exact congrArg Option.some (h.withoutRows_build firstRow)
      case neg => rw [handle?_fail, handle?_put_of_ne eq]
    case refine_2 =>
      have some : s.handle? slot ≠ Option.none := held ▸ Option.some_ne_none h
      exact (none ⟨slot, firstRow, capacity, out, rfl, some, count, rowCount⟩).elim

theorem Exit.answered (exit : Exit s c s' r) (succeeded : r.Succeeded) : Answered s c r := by
  cases exit
  case told infallible keeps plain =>
    cases c <;> cases infallible <;> cases r <;> cases plain <;> exact ⟨trivial, nofun⟩
  case freed | notCreated       => cases succeeded
  case notStarted               => cases succeeded
  case refused failed _ _ _ => exact (Reply.not_succeeded_handBack failed c succeeded).elim
  case notHandedOut failed => exact (Reply.not_succeeded_rows failed _ succeeded).elim
  case created | placed | started | restarted | stored => exact ⟨trivial, nofun⟩
  case built slot firstRow capacity out written h held sound write =>
    have extent :
        s.extent (.buildRows slot firstRow capacity out) = (h.build firstRow).triplets.length := by
      rw [Session.extent, held, Option.elim_some]
    have front      := Lent.frontOnly_writeRows write
    have ⟨count, _⟩ := RowArrays.counters_of_write write
    rw [← extent] at front
    exact ⟨front, fun | _, rfl => extent ▸ count⟩
  case bounded slot out written h held complete write =>
    have extent : s.extent (.bounds slot out) = h.actuator.dimension := by
      rw [Session.extent, held, Option.elim_some]
    exact ⟨extent ▸ Lent.frontOnly_writeBounds write, nofun⟩
  case forced slot capacity out h held sound =>
    have extent : s.extent (.force slot capacity out) = h.actuator.force.length := by
      rw [Session.extent, held, Option.elim_some]
    exact ⟨extent ▸ Lent.behindSame_overwrite (Nat.le_refl _) out, nofun⟩

theorem intact_of_run (calls : List Call) (c : Call) :
    ∃ s log s' r, start.run calls = some (s, log) ∧ s.ask c = some (s', r) ∧
      (∀ code, r.code? = some code → code ≠ 0 → Intact s s' c r) ∧
      (r.Succeeded → Answered s c r) := by
  have ⟨s, log, ran, sound⟩ := exists_sound_run calls
  have ⟨s', r, asked⟩ := sound.exists_ask c
  have exit := exit_of_ask asked
  exact ⟨s, log, s', r, ran, asked, fun _ => exit.intact sound, exit.answered⟩

end Session
end Host
end PointForce
