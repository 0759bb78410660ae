import Mathlib.Data.List.Basic
import PointForce.Host.Basic
import PointForce.Proofs.Assembly.Single
import PointForce.Proofs.Document.Accepted
import PointForce.Proofs.PointCloud
import PointForce.Proofs.Text.Encoding

-- What the calls of a host come to while nothing is missing: the handle is there, and the arrays
-- that the host lends have room for the answer.

namespace PointForce

theorem Buffer.take_overwrite {α : Type} {xs ys : List α} (h : xs.length ≤ ys.length) :
    (overwrite xs ys).take xs.length = xs := by
  rw [overwrite_eq_append h, List.take_left]

namespace Host

namespace RowArrays

variable {out : RowArrays} {ts : List (Triplet Float)}

def triplets (out : RowArrays) : List (Triplet Float) :=
  let n := out.count.getD 0
  ((out.rows.getD []).take n).zip (((out.dofs.getD []).take n).zip ((out.values.getD []).take n))
    |>.map fun (row, dof, value) => { row, dof, value }

structure Room (out : RowArrays) (n : Nat) : Prop where
  rows     : n ≤ (out.rows.getD []).length
  dofs     : n ≤ (out.dofs.getD []).length
  values   : n ≤ (out.values.getD []).length
  count    : out.count.isSome
  rowCount : out.rowCount.isSome

instance (out : RowArrays) (n : Nat) : Decidable (out.Room n) :=
  decidable_of_iff
    (n ≤ (out.rows.getD []).length ∧ n ≤ (out.dofs.getD []).length ∧
      n ≤ (out.values.getD []).length ∧ out.count.isSome ∧ out.rowCount.isSome)
    ⟨fun ⟨r, d, v, c, n⟩ => ⟨r, d, v, c, n⟩, fun ⟨r, d, v, c, n⟩ => ⟨r, d, v, c, n⟩⟩

theorem Room.mono {n m : Nat} (room : out.Room n) (le : m ≤ n) : out.Room m where
  rows     := Nat.le_trans le room.rows
  dofs     := Nat.le_trans le room.dofs
  values   := Nat.le_trans le room.values
  count    := room.count
  rowCount := room.rowCount

def filled (out : RowArrays) (ts : List (Triplet Float)) : RowArrays :=
  { out with
    rows   := out.rows.map (ts.map Triplet.row ++ ·.drop ts.length)
    dofs   := out.dofs.map (ts.map Triplet.dof ++ ·.drop ts.length)
    values := out.values.map (ts.map Triplet.value ++ ·.drop ts.length) }

theorem write?_of_room (room : out.Room ts.length) : out.write? ts = some (out.filled ts) := by
  obtain ⟨rows, dofs, values, _, _⟩ := out
  obtain ⟨hr, hd, hv, -, -⟩ := room
  have front {β : Type} (f : Triplet Float → β) {cells : List β} (h : ts.length ≤ cells.length) :
      Buffer.overwrite (ts.map f) cells = ts.map f ++ cells.drop ts.length := by
    rw [Buffer.overwrite_eq_append (by simpa using h), List.length_map]
  cases rows <;> cases dofs <;> cases values <;>
    simp only [Option.getD_some, Option.getD_none, List.length_nil, Nat.le_zero] at hr hd hv
  case some.some.some =>
    simp only [write?, filled, Option.map_some, front _ hr, front _ hd, front _ hv]
  -- An array is missing, so there are no triplets.
  all_goals
    obtain rfl : ts = [] := List.length_eq_zero_iff.mp ‹ts.length = 0›
    simp [write?, filled]

theorem take_filled {β : Type} (f : Triplet Float → β) {cells : Option (List β)}
    (h : ts.length ≤ (cells.getD []).length) :
    ((cells.map (ts.map f ++ ·.drop ts.length)).getD []).take ts.length = ts.map f := by
  cases cells
  case none =>
    obtain rfl : ts = [] := List.length_eq_zero_iff.mp (Nat.le_zero.mp h)
    rfl
  case some cells => exact List.take_left' (List.length_map _)

theorem triplets_filled (room : out.Room ts.length) (count : out.count = some ts.length) :
    (out.filled ts).triplets = ts := by
  simp only [triplets, filled, count, Option.getD_some, take_filled _ room.rows,
    take_filled _ room.dofs, take_filled _ room.values, List.zip_map', List.map_map]
  exact List.map_id ts

theorem exists_write (room : out.Room ts.length) (rowCount : Nat) :
    ∃ written,
      { out with count := some ts.length, rowCount := some rowCount }.write? ts = some written ∧
      written.triplets = ts ∧ written.rowCount = some rowCount := by
  have counted : { out with count := some ts.length, rowCount := some rowCount }.Room ts.length :=
    ⟨room.rows, room.dofs, room.values, rfl, rfl⟩
  exact ⟨_, write?_of_room counted, triplets_filled counted rfl, rfl⟩

end RowArrays

namespace BoundArrays

variable {out : BoundArrays} {n : Nat} {b : Bounds Float}

def read (n : Nat) (out : BoundArrays) : SystemBounds Float where
  lower        := (out.lower.getD []).take n
  upper        := (out.upper.getD []).take n
  initialGuess := (out.guess.getD []).take n
  penalties    := List.replicate n (out.penalty.filter (!·.isNaN))

structure Room (out : BoundArrays) (n : Nat) : Prop where
  complete : out.complete
  lower    : n ≤ (out.lower.getD []).length
  upper    : n ≤ (out.upper.getD []).length
  guess    : n ≤ (out.guess.getD []).length

instance (out : BoundArrays) (n : Nat) : Decidable (out.Room n) :=
  decidable_of_iff
    (out.complete ∧ n ≤ (out.lower.getD []).length ∧ n ≤ (out.upper.getD []).length ∧
      n ≤ (out.guess.getD []).length)
    ⟨fun ⟨c, l, u, g⟩ => ⟨c, l, u, g⟩, fun ⟨c, l, u, g⟩ => ⟨c, l, u, g⟩⟩

theorem length_getD_of_sized {bound : Option (List Float)}
    (sized : ∀ values, bound = some values → values.length = n) (inactive : Float) :
    (bound.getD (.replicate n inactive)).length = n := by
  cases bound
  case none        => exact List.length_replicate
  case some values => exact sized values rfl

theorem fill?_of_sized {bound : Option (List Float)}
    (sized : ∀ values, bound = some values → values.length = n) (inactive : Float)
    (cells : List Float) :
    fill? n inactive bound cells =
      some (Buffer.overwrite (bound.getD (.replicate n inactive)) cells) := by
  cases bound
  case none        => rfl
  case some values =>
    have len := sized values rfl
    rw [fill?, if_pos (Nat.le_of_eq len.symm), ← len, List.take_length, Option.getD_some]

theorem exists_fill {bound : Option (List Float)} {cells : List Float} (inactive : Float)
    (room : n ≤ cells.length) (sized : ∀ values, bound = some values → values.length = n) :
    ∃ filled, fill? n inactive bound cells = some filled ∧
      filled.take n = bound.getD (List.replicate n inactive) := by
  have len := length_getD_of_sized sized inactive
  have front := Buffer.take_overwrite (len.symm ▸ room)
  rw [len] at front
  exact ⟨_, fill?_of_sized sized inactive cells, front⟩

theorem exists_write (room : out.Room n) (sized : b.Sized n)
    (numeric : ∀ p, b.penalty = some p → p.isNaN = false) :
    ∃ written, out.write? n b = some written ∧ written.read n = b.system n := by
  have ⟨complete, roomLower, roomUpper, roomGuess⟩ := room
  simp only [BoundArrays.complete, Bool.and_eq_true, Option.isSome_iff_exists] at complete
  obtain ⟨⟨⟨⟨⟨⟨⟨_, hl⟩, _, hu⟩, _, hg⟩, _⟩, _⟩, _⟩, _, hp⟩ := complete
  rw [hl, Option.getD_some] at roomLower
  rw [hu, Option.getD_some] at roomUpper
  rw [hg, Option.getD_some] at roomGuess
  have ⟨lowers, fillLower, frontLower⟩ := exists_fill Extended.negInfinity roomLower sized.lower
  have ⟨uppers, fillUpper, frontUpper⟩ := exists_fill Extended.infinity roomUpper sized.upper
  have ⟨guesses, fillGuess, frontGuess⟩ := exists_fill 0 roomGuess sized.guess
  have known : (some (b.penalty.getD (0 / 0))).filter (!·.isNaN) = b.penalty := by
    cases h : b.penalty
    case none   => decide +kernel
    case some p => rw [Option.getD_some, Option.filter_some, numeric p h]; rfl
  let written : BoundArrays :=
    { lower    := some lowers
      upper    := some uppers
      guess    := some guesses
      hasLower := out.hasLower.map fun _ => b.lower.isSome
      hasUpper := out.hasUpper.map fun _ => b.upper.isSome
      hasGuess := out.hasGuess.map fun _ => b.guess.isSome
      penalty  := some (b.penalty.getD (0 / 0)) }
  have eq : out.write? n b = some written := by
    simp [write?, written, hl, hu, hg, hp, fillLower, fillUpper, fillGuess]
  refine ⟨written, eq, ?_⟩
  simp only [read, Bounds.system, written, Option.getD_some, frontLower, frontUpper, frontGuess,
    known]

end BoundArrays

namespace Handle

variable {h : Handle}

theorem array?_eq {argument : Argument} {values : List Float} {n : Nat} (h : n = values.length) :
    array? argument (some values) n = .ok values := by
  subst h
  cases values
  case nil  => rfl
  case cons => exact congrArg _ (List.take_length)

theorem setPositions_flat (h : Handle) (cloud : PointCloud Float) :
    h.setPositions (some cloud.flat) cloud.size =
      .ok { value := { h with cloud := some cloud } } := by
  rw [setPositions, array?_eq (PointCloud.length_flat cloud).symm]
  simp only [bind, Except.bind, PointCloud.ofFlat_flat]

theorem store_length (h : Handle) (multipliers deltas : List Float) :
    h.store (some multipliers) multipliers.length (some deltas) deltas.length =
      .ok ((h.actuator.store multipliers deltas).map fun actuator => { h with actuator }) := by
  rw [store, array?_eq rfl, array?_eq rfl]
  rfl

theorem terminated_encode {text : List Char} (h : '\x00' ∉ text) (beyond : List UInt8) :
    terminated (Text.encode text ++ 0 :: beyond) = Text.encode text := by
  have nonZero : ∀ b ∈ Text.encode text, decide (b ≠ 0) = true := fun b mem =>
    decide_eq_true fun eq => Text.zero_not_mem_encode h (eq ▸ mem)
  rw [terminated, List.takeWhile_append_of_pos nonZero, List.takeWhile_cons_of_neg (by decide),
    List.append_nil]

theorem create_of_accepted {text : List Char} {c : Config Float}
    (accepted : Config.ofDocument text = .ok c) (name beyond : List UInt8) :
    create (some name) (some (Text.encode text ++ 0 :: beyond)) =
      .ok { actuator := .new (Text.decodeLossy (terminated name)) c } := by
  have whole := terminated_encode (Config.zero_not_mem_of_ofDocument accepted) beyond
  simp only [create, whole, Text.decode?_encode, accepted]
  rfl

end Handle

namespace Session

variable {s : Session} {slot : String} {h : Handle}

def ask (s : Session) (c : Call) : Option (Session × Reply) :=
  (s.call c).map Logged.value

def keep (s : Session) (slot : String) (h : Handle) : Session :=
  (s.put slot (some h)).succeed

theorem handle?_keep (s : Session) (slot : String) (h : Handle) :
    (s.keep slot h).handle? slot = some h :=
  if_pos rfl

theorem ask_create {name config : Option (List UInt8)} (slot : String)
    (created : Handle.create name config = .ok h) :
    s.ask (.create slot name config) = some (s.keep slot h, .created true) := by
  simp only [ask, call, create, created]
  rfl

section Held

variable (held : s.handle? slot = some h)
include held

theorem ask_of_change {c : Call} {f : Handle → Except Error (Logged Handle)}
    {changed : Logged Handle} (change : s.call c = some (s.change slot f))
    (ok : f h = .ok changed) : s.ask c = some (s.keep slot changed.value, .status .ok) := by
  simp only [ask, change, Session.change, held, ok]
  rfl

theorem ask_setPositions (cloud : PointCloud Float) :
    s.ask (.setPositions slot (some cloud.flat) cloud.size) =
      some (s.keep slot { h with cloud := some cloud }, .status .ok) :=
  have changed := ask_of_change held (c := .setPositions ..) rfl (h.setPositions_flat cloud)
  changed

theorem ask_store (multipliers deltas : List Float) :
    s.ask (.store slot (some multipliers) multipliers.length (some deltas) deltas.length) =
      some (s.keep slot { h with actuator := (h.actuator.store multipliers deltas).value },
        .status .ok) :=
  have changed := ask_of_change held (c := .store ..) rfl (h.store_length multipliers deltas)
  changed

theorem ask_init (valid : h.actuator.config.Valid) :
    s.ask (.init slot) =
      some (s.keep slot
        { h with actuator := (h.actuator.init (h.cloud.map PointCloud.body)).2.value },
        .status .ok) := by
  have ⟨ok, _⟩ := Actuator.init_of_valid valid (h.cloud.map PointCloud.body)
  have initialised : h.init = (.ok (), h.init.2) := Prod.ext ok rfl
  simp only [ask, call, init, held]
  rw [initialised]
  rfl

theorem ask_buildRows {firstRow capacity : Nat} {out : RowArrays}
    (enough : (h.build firstRow).triplets.length ≤ capacity)
    (room : out.Room (h.build firstRow).triplets.length) :
    ∃ written, s.ask (.buildRows slot firstRow capacity out) =
        some (s.keep slot (h.build firstRow), .rows .ok written) ∧
      written.triplets = (h.build firstRow).triplets ∧
      written.rowCount = some (h.build firstRow).actuator.state.rowCount := by
  have ⟨count, hc⟩ := Option.isSome_iff_exists.mp room.count
  have ⟨rowCount, hr⟩ := Option.isSome_iff_exists.mp room.rowCount
  have ⟨written, write, same⟩ :=
    RowArrays.exists_write room (h.build firstRow).actuator.state.rowCount
  refine ⟨written, ?_, same⟩
  simp only [ask, call, buildRows, held, hc, hr, if_neg (Nat.not_lt.mpr enough), write]
  rfl

theorem ask_bounds {out : BoundArrays} (room : out.Room h.actuator.dimension)
    (sized : h.actuator.bounds.Sized h.actuator.dimension)
    (numeric : ∀ p, h.actuator.bounds.penalty = some p → p.isNaN = false) :
    ∃ written, s.ask (.bounds slot out) = some (s.succeed, .bounds .ok written) ∧
      written.read h.actuator.dimension = h.actuator.bounds.system h.actuator.dimension := by
  have ⟨written, write, same⟩ := BoundArrays.exists_write room sized numeric
  refine ⟨written, ?_, same⟩
  simp only [ask, call, bounds, held, if_pos room.complete, write]
  rfl

theorem ask_force {cells : List Float} (room : h.actuator.force.length ≤ cells.length) :
    s.ask (.force slot cells.length (some cells)) =
      some (s.succeed, .force .ok (some (Buffer.overwrite h.actuator.force cells))) := by
  simp only [ask, call, force, held, if_neg (Nat.not_lt.mpr room)]
  split
  case isTrue none => simp [List.isEmpty_iff.mp none, Buffer.overwrite, silent]
  case isFalse     => rfl

theorem ask_displacement :
    s.ask (.displacement slot) = some (s, .number h.actuator.state.displacement) := by
  simp only [ask, call, held]
  rfl

end Held
end Session
end Host
end PointForce
