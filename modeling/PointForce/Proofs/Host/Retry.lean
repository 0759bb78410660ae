import PointForce.Proofs.Actuator.StalePoints
import PointForce.Proofs.Host.Lifetime
import PointForce.Proofs.Matrix.Word

-- The number of triplets is told in any case, so a host can come back with larger arrays, and is
-- then answered as if it had not asked before.

namespace PointForce

namespace Config

variable {α : Type} [Scalar α] [Elementary α]

def triplets (c : Config α) (size firstRow : Nat) : List (Triplet α) :=
  (Actuator.lines (c.indices.filter (· < size)) c.mode.rowDirections firstRow).flatMap fun l =>
    l.2.flatMap fun b => (b.columns size).map (Triplet.ofColumn l.1)

theorem triplets_build {a : Actuator α} {firstRow : Nat}
    (fits : firstRow + a.config.dimension ≤ UInt64.size) (body : Body α) :
    (a.build body .empty firstRow).2.wrapped.triplets body.size =
      a.config.triplets body.size firstRow := by
  rw [Actuator.wrapped_build fits, ConstraintMatrix.triplets, Actuator.rows_build]
  rfl

theorem mem_triplets {c : Config α} {size firstRow : Nat} {t : Triplet α}
    (h : t ∈ c.triplets size firstRow) :
    firstRow ≤ t.row ∧ t.row < firstRow + c.dimension ∧ t.dof < 3 * size := by
  obtain ⟨l, line, h⟩ := List.mem_flatMap.mp h
  obtain ⟨b, _, h⟩ := List.mem_flatMap.mp h
  obtain ⟨column, mem, rfl⟩ := List.mem_map.mp h
  have ⟨low, high⟩ := Actuator.mem_lines line
  have ⟨within, _, axis, eq, _⟩ := Block.mem_columns_iff.mp mem
  rw [Mode.length_rowDirections] at high
  exact ⟨low, high, eq.trans_lt (by omega)⟩

end Config

namespace Host

namespace RowArrays

variable {out : RowArrays} {h : Handle} {capacity : Nat}

def offer (out : RowArrays) (capacity : Nat) (h : Handle) : Reply :=
  if capacity < h.triplets.length then
    .rows .bufferTooSmall (out.counted h)
  else
    .rows .ok ((out.counted h).filled h.triplets)

theorem offer_of_le (enough : h.triplets.length ≤ capacity) :
    out.offer capacity h = .rows .ok ((out.counted h).filled h.triplets) :=
  if_neg (Nat.not_lt.mpr enough)

theorem Room.counted (room : out.Room capacity) (enough : h.triplets.length ≤ capacity) :
    (out.counted h).Room h.triplets.length :=
  have ⟨rows, dofs, values, _, _⟩ := room.mono enough
  ⟨rows, dofs, values, rfl, rfl⟩

end RowArrays

namespace Handle

variable (h : Handle)

theorem triplets_build {firstRow : Nat}
    (fits : firstRow + h.actuator.config.dimension ≤ UInt64.size) :
    (h.build firstRow).triplets = h.actuator.config.triplets h.points.size firstRow :=
  Config.triplets_build fits h.points.body

theorem build_build (firstRow later : Nat) : (h.build firstRow).build later = h.build later :=
  rfl

end Handle

namespace Session

variable {s : Session} {slot : String} {h : Handle} {firstRow capacity : Nat} {out : RowArrays}

def built (s : Session) (slot : String) (h : Handle) (lastError : Option Error) : Session :=
  { s.put slot (some h) with lastError }

theorem handle?_built (h : Handle) (e : Option Error) : (s.built slot h e).handle? slot = some h :=
  handle?_put_self ..

theorem built_built (h later : Handle) (e lastError : Option Error) :
    (s.built slot h e).built slot later lastError = s.built slot later lastError := by
  have same : ((s.built slot h e).put slot (some later)).handle? =
      (s.put slot (some later)).handle? := by
    funext other
    by_cases eq : other = slot
    case pos => rw [eq, handle?_put_self, handle?_put_self]
    case neg => rw [handle?_put_of_ne eq, handle?_put_of_ne eq, built, handle?_put_of_ne eq]
  exact congrArg (Session.mk · lastError) same

theorem ask_buildRows_of_room (held : s.handle? slot = some h) (room : out.Room capacity) :
    let needed := (h.build firstRow).triplets.length
    s.ask (.buildRows slot firstRow capacity out) = some
      (s.built slot (h.build firstRow)
        (if capacity < needed then some (.shape (.rowRoom capacity needed)) else none),
      out.offer capacity (h.build firstRow)) := by
  intro needed
  obtain ⟨_, hc⟩ := Option.isSome_iff_exists.mp room.count
  obtain ⟨_, hr⟩ := Option.isSome_iff_exists.mp room.rowCount
  simp only [ask, call, buildRows, held, hc, hr]
  by_cases small : capacity < needed
  case pos =>
    rw [if_pos small, RowArrays.offer, if_pos small, if_pos small]
    rfl
  case neg =>
    have enough := Nat.le_of_not_lt small
    have write := RowArrays.write?_of_room (room.counted enough)
    rw [RowArrays.counted] at write
    rw [if_neg small, if_neg small, RowArrays.offer_of_le enough, write]
    rfl

theorem ask_buildRows_built (held : s.handle? slot = some h) (room : out.Room capacity)
    (earlier : Nat) (e : Option Error) :
    (s.built slot (h.build earlier) e).ask (.buildRows slot firstRow capacity out) =
      s.ask (.buildRows slot firstRow capacity out) := by
  rw [ask_buildRows_of_room (handle?_built (h.build earlier) e) room, built_built,
    Handle.build_build, ask_buildRows_of_room held room]

theorem retry_buildRows (held : s.handle? slot = some h) (room : out.Room capacity)
    (fits : firstRow + h.actuator.config.dimension ≤ UInt64.size) :
    let triplets := h.actuator.config.triplets h.points.size firstRow
    let rowCount := h.actuator.config.dimension
    let built := h.build firstRow
    built.triplets = triplets ∧ built.actuator.state.rowCount = rowCount ∧
      (∀ t ∈ triplets,
        firstRow ≤ t.row ∧ t.row < firstRow + rowCount ∧ t.dof < 3 * h.points.size) ∧
      triplets.Pairwise (·.row ≤ ·.row) ∧
      ∃ s', s.ask (.buildRows slot firstRow capacity out) = some (s', out.offer capacity built) ∧
        ∀ more again, triplets.length ≤ more → again.Room more →
          s'.ask (.buildRows slot firstRow more again) =
              s.ask (.buildRows slot firstRow more again) ∧
            s'.ask (.buildRows slot firstRow more again) =
              some (s.keep slot built, .rows .ok ((again.counted built).filled triplets)) := by
  intro triplets rowCount built
  have fresh : built.triplets = triplets := h.triplets_build fits
  have sorted : triplets.Pairwise (·.row ≤ ·.row) :=
    fresh ▸ ConstraintMatrix.sorted_triplets built.matrix built.points.size
  refine ⟨fresh, rfl, fun _ => Config.mem_triplets, sorted, _, ask_buildRows_of_room held room, ?_⟩
  intro more again enough ample
  rw [← fresh] at enough
  refine ⟨ask_buildRows_built held ample .., ?_⟩
  rw [ask_buildRows_built held ample, ask_buildRows_of_room held ample,
    if_neg (Nat.not_lt.mpr enough), RowArrays.offer_of_le enough, fresh]
  rfl

def tetheredHandle : Handle where
  actuator := .new "tether" { Config.unset with indices := [4, 0] }
  cloud    := some ⟨[⟨1, 2, 3⟩]⟩

def lentRows (n : Nat) : RowArrays where
  rows     := some (.replicate n 9)
  dofs     := some (.replicate n 9)
  values   := some (.replicate n 9)
  count    := some 0
  rowCount := some 0

-- There are three triplets. The host has room for two of them at first, and then for four.
theorem retry_buildRows_of_tethered :
    let s := start.put "tether" (some tetheredHandle)
    s.handle? "tether" = some tetheredHandle ∧ (lentRows 2).Room 2 ∧ (lentRows 4).Room 4 ∧
      6 + tetheredHandle.actuator.config.dimension ≤ UInt64.size ∧
      ∃ s' s'',
        s.ask (.buildRows "tether" 6 2 (lentRows 2)) =
          some (s', .rows .bufferTooSmall
            ⟨some [9, 9], some [9, 9], some [9, 9], some 3, some 3⟩) ∧
        s'.ask (.buildRows "tether" 6 4 (lentRows 4)) =
          some (s'', .rows .ok
            ⟨some [6, 7, 8, 9], some [0, 1, 2, 9], some [1, 1, 1, 9], some 3, some 3⟩) := by
  intro s
  have held : s.handle? "tether" = some tetheredHandle := handle?_put_self ..
  have small : (lentRows 2).Room 2 := by decide
  have ample : (lentRows 4).Room 4 := by decide
  have fits : 6 + tetheredHandle.actuator.config.dimension ≤ UInt64.size := by decide +kernel
  obtain ⟨_, _, _, _, s', asked, again⟩ := retry_buildRows held small fits
  have ⟨_, answered⟩ := again 4 (lentRows 4) (by decide +kernel) ample
  refine ⟨held, small, ample, fits, s', s.keep "tether" (tetheredHandle.build 6), ?_, ?_⟩
  case refine_1 =>
    rw [asked]
    exact congrArg (fun reply => some (s', reply)) (by decide +kernel)
  case refine_2 =>
    rw [answered]
    exact congrArg (fun reply => some (_, reply)) (by decide +kernel)

-- From the last row on, two of three rows wrap around to the front.
theorem reply_buildRows_of_last :
    let s := start.put "tether" (some tetheredHandle)
    (s.ask (.buildRows "tether" 0xffffffffffffffff 4 (lentRows 4))).map Prod.snd =
      some (.rows .ok
        ⟨some [0, 1, 0xffffffffffffffff, 9], some [1, 2, 0, 9], some [1, 1, 1, 9], some 3,
          some 3⟩) := by
  decide +kernel

end Session
end Host
end PointForce
