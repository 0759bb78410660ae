import PointForce.Proofs.Actuator.Operations
import PointForce.Proofs.Matrix.Products

-- Points that a configuration names and a body lacks. It makes no difference to a system whether
-- they are left out when the rows are written, or only when the rows are used.

namespace PointForce

variable {α : Type}

namespace Block

section Filter

variable {β σ : Type} {p : Block α → Bool} (blocks : List (Block α))

theorem flatMap_filter {f : Block α → List β} (empty : ∀ b, ¬ p b → f b = []) :
    (blocks.filter p).flatMap f = blocks.flatMap f := by
  induction blocks
  case nil => rfl
  case cons b blocks ih =>
    by_cases kept : p b
    case pos => rw [List.filter_cons_of_pos kept, List.flatMap_cons, List.flatMap_cons, ih]
    case neg => rw [List.filter_cons_of_neg kept, List.flatMap_cons, empty b kept, ih, List.nil_append]

theorem foldl_filter {f : σ → Block α → σ} (fixed : ∀ s b, ¬ p b → f s b = s) (s : σ) :
    (blocks.filter p).foldl f s = blocks.foldl f s := by
  rw [List.foldl_filter]
  refine List.foldl_ext _ _ s fun s b _ => ?_
  split
  case isTrue          => rfl
  case isFalse dropped => exact (fixed s b dropped).symm

end Filter

variable [Scalar α] {points : Nat} {b : Block α}

theorem columns_of_le (h : points ≤ b.point) : b.columns points = [] :=
  if_neg (Nat.not_lt.mpr h)

theorem addMotion_of_le {motion : List (Vec3 α)} (h : motion.length ≤ b.point) (sum : α) :
    b.addMotion motion sum = sum := by
  rw [addMotion, List.getElem?_eq_none h]

end Block

def Line.within (points : Nat) (l : Line α) : Line α :=
  (l.1, l.2.filter (·.point < points))

namespace ConstraintMatrix

def Agree (points : Nat) (m n : ConstraintMatrix α) : Prop :=
  m.rows.map (Line.within points) = n.rows.map (Line.within points)

structure Interchangeable [Scalar α] (points : Nat) (m n : ConstraintMatrix α) : Prop where
  rows           : m.rows.map Prod.fst = n.rows.map Prod.fst
  numRows        : m.numRows = n.numRows
  triplets       : m.triplets points = n.triplets points
  toCsr          : m.toCsr points = n.toCsr points
  applyTranspose : ∀ multipliers,
    m.applyTranspose multipliers points = n.applyTranspose multipliers points
  project        : ∀ t : Table α, t.columns = 3 → t.rows.length = points →
    ∃ out, m.projectTable? t = some out ∧ n.projectTable? t = some out

namespace Agree

variable {points : Nat} {m n : ConstraintMatrix α}

theorem map_fst (h : Agree points m n) : m.rows.map Prod.fst = n.rows.map Prod.fst := by
  have keys := congrArg (List.map Prod.fst) h
  rwa [List.map_map, List.map_map] at keys

theorem numRows (h : Agree points m n) : m.numRows = n.numRows := by
  have bound (k : ConstraintMatrix α) :
      k.numRows = (k.rows.map Prod.fst).getLast?.elim 0 (· + 1) := SortedMap.bound_eq _
  rw [bound, bound, h.map_fst]

theorem row? (h : Agree points m n) (row : Nat) :
    (m.row? row).map (·.filter (·.point < points)) =
      (n.row? row).map (·.filter (·.point < points)) := by
  have found (k : ConstraintMatrix α) :
      SortedMap.Entries.get? row (k.rows.map (Line.within points)) =
        (k.row? row).map (·.filter (·.point < points)) := SortedMap.Entries.get?_map _ _
  rw [← found, ← found, h]

theorem flatMap {β : Type} (h : Agree points m n) {f : Line α → List β}
    (own : ∀ l, f (l.within points) = f l) : m.rows.flatMap f = n.rows.flatMap f := by
  have same := congrArg (List.flatMap f) h
  simpa only [List.flatMap_map, own] using same

theorem foldl {σ : Type} (h : Agree points m n) {f : σ → Line α → σ}
    (own : ∀ s l, f s (l.within points) = f s l) (s : σ) : m.rows.foldl f s = n.rows.foldl f s := by
  have same := congrArg (List.foldl f s) h
  simpa only [List.foldl_map, own] using same

variable [Scalar α]

theorem triplets (h : Agree points m n) : m.triplets points = n.triplets points :=
  h.flatMap fun l => Block.flatMap_filter l.2 fun b beyond => by
    rw [Block.columns_of_le (by simpa using beyond), List.map_nil]

theorem toCsr (h : Agree points m n) : m.toCsr points = n.toCsr points := by
  refine Csr.ext h.numRows rfl (h.flatMap fun l => ?_)
  have columns : (l.within points).2.flatMap (·.columns points) =
      l.2.flatMap (·.columns points) :=
    Block.flatMap_filter l.2 fun b beyond => Block.columns_of_le (by simpa using beyond)
  simp only [columns]
  rfl

theorem applyTranspose (h : Agree points m n) (multipliers : List α) :
    m.applyTranspose multipliers points = n.applyTranspose multipliers points := by
  refine List.map_congr_left fun point mem => ?_
  refine h.foldl (f := addLine multipliers point) (fun sum l => ?_) 0
  rw [addLine, addLine, Line.within]
  cases multipliers[l.1]?
  case none => rfl
  case some multiplier =>
    refine Block.foldl_filter l.2 (fun sum b beyond => if_neg fun eq => beyond ?_) sum
    exact decide_eq_true (eq ▸ List.mem_range.mp mem)

theorem project (h : Agree points m n) {motion : List (Vec3 α)} (short : motion.length ≤ points) :
    m.project motion = n.project motion := by
  have read (k : ConstraintMatrix α) (row : Nat) :
      ((k.row? row).getD []).foldl (Block.addMotion motion) 0 =
        (((k.row? row).map (·.filter (·.point < points))).getD []).foldl
          (Block.addMotion motion) 0 := by
    cases k.row? row
    case none        => rfl
    case some blocks =>
      refine (Block.foldl_filter blocks (fun sum b beyond => ?_) 0).symm
      exact Block.addMotion_of_le (short.trans (by simpa using beyond)) sum
  rw [ConstraintMatrix.project, ConstraintMatrix.project, h.numRows]
  refine List.map_congr_left fun row _ => ?_
  rw [read, h.row?, ← read]

theorem interchangeable (h : Agree points m n) : Interchangeable points m n where
  rows           := h.map_fst
  numRows        := h.numRows
  triplets       := h.triplets
  toCsr          := h.toCsr
  applyTranspose := h.applyTranspose
  project t wide length := by
    have short : t.vectors.length ≤ points := length ▸ (Table.length_vectors wide.ge).le
    have projected (k : ConstraintMatrix α) : k.projectTable? t = some (k.project t.vectors) :=
      if_neg fun narrow => absurd narrow.left wide.not_lt
    exact ⟨_, projected m, (projected n).trans (congrArg _ (h.project short).symm)⟩

end Agree
end ConstraintMatrix

namespace Actuator

theorem lines_within (size : Nat) (points : List Nat) : ∀ (ds : List (Vec3 α)) (row : Nat),
    (lines points ds row).map (Line.within size) = lines (points.filter (· < size)) ds row
  | [],      _   => rfl
  | d :: ds, row => by
    rw [lines, lines, List.map_cons, lines_within size points ds, Line.within, List.filter_map]
    rfl

theorem filter_points (a : Actuator α) {body larger : Body α} (h : body.size ≤ larger.size) :
    (a.points larger).filter (· < body.size) = a.points body := by
  rw [points, List.filter_filter, points]
  exact List.filter_congr fun p _ => by simpa using fun lt => lt.trans_le h

variable [Scalar α] [Elementary α]

theorem interchangeable_build (a : Actuator α) {body larger : Body α} (h : body.size ≤ larger.size)
    (row : Nat) :
    (a.build larger .empty row).1 = (a.build body .empty row).1 ∧
      ConstraintMatrix.Interchangeable body.size (a.build larger .empty row).2
        (a.build body .empty row).2 := by
  refine ⟨rfl, ConstraintMatrix.Agree.interchangeable ?_⟩
  rw [ConstraintMatrix.Agree, rows_build, rows_build, lines_within, lines_within, filter_points a h,
    filter_points a le_rfl]

def scatteredConfig : Config Float where
  __        := Config.unset
  indices   := [1, 0, 1, 7]
  direction := ⟨0, 2, 0⟩

-- The body has shrunk to a size that is itself among the indices.
theorem interchangeable_build_of_scattered :
    let a := new "cable" scatteredConfig
    let shrunk : Body Float := .ofPoints 1 []
    let before : Body Float := .ofPoints 2 []
    shrunk.size ≤ before.size ∧
      (a.build before .empty 5).2.triplets 2 = [⟨5, 4, 1⟩, ⟨5, 1, 1⟩, ⟨5, 4, 1⟩] ∧
      (a.build before .empty 5).2.triplets 1 = [⟨5, 1, 1⟩] ∧
      ConstraintMatrix.Interchangeable 1 (a.build before .empty 5).2 (a.build shrunk .empty 5).2 := by
  intro a shrunk before
  have le : shrunk.size ≤ before.size := by decide
  have ⟨_, same⟩ := interchangeable_build a le 5
  exact ⟨le, by decide +kernel, by decide +kernel, same⟩

end Actuator
end PointForce
