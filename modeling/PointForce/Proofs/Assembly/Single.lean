import Mathlib.Data.List.Basic
import PointForce.Proofs.Assembly.Exchange

-- An assembly with one member. It has all rows, and what the system is told is what the member says
-- and is told itself.

namespace PointForce

namespace Bounds

variable {α : Type}

structure Sized (b : Bounds α) (n : Nat) : Prop where
  lower : ∀ values, b.lower = some values → values.length = n
  upper : ∀ values, b.upper = some values → values.length = n
  guess : ∀ values, b.guess = some values → values.length = n

theorem sized_of_shaped [Scalar α] {s : State α} (h : s.Shaped) : s.bounds.Sized s.dimension where
  lower := Bound.length_of_exposed h.lower
  upper := Bound.length_of_exposed h.upper
  guess := Bound.length_of_exposed h.guess

def system [Scalar α] [Extended α] (n : Nat) (b : Bounds α) : SystemBounds α where
  lower        := b.lower.getD (List.replicate n Extended.negInfinity)
  upper        := b.upper.getD (List.replicate n Extended.infinity)
  initialGuess := b.guess.getD (List.replicate n 0)
  penalties    := List.replicate n b.penalty

end Bounds

namespace Assembly

variable {α : Type} {s : Assembly α} {a : Actuator α} {rows : RowRange} {n : Nat}

theorem Gathered.eq_of_single {β : Type} {column values : List β}
    {entry : Member α → Nat → Option β} (g : s.Gathered column entry)
    (only : s.members = [⟨a, 0, n⟩]) (count : s.numRows = n) (length : values.length = n)
    (eq : ∀ axis < n, entry ⟨a, 0, n⟩ axis = values[axis]?) :
    column = values := by
  refine List.ext_getElem? fun axis => ?_
  by_cases lt : axis < n
  case pos =>
    have own := g.getElem (m := ⟨a, 0, n⟩) (only ▸ List.mem_singleton_self _) lt
    rwa [Nat.zero_add, eq axis lt] at own
  case neg =>
    have ge := Nat.not_lt.mp lt
    rw [List.getElem?_eq_none (by rwa [g.length, count]), List.getElem?_eq_none (by rwa [length])]

variable [Scalar α]

theorem store_of_single (only : s.members = [⟨a, 0, n⟩]) (count : s.numRows = n) (pos : 0 < n)
    {multipliers deltas : List α} (hm : multipliers.length = n) (hd : deltas.length = n) :
    ∃ stored, s.store multipliers deltas = .ok stored ∧
      stored.value = { s with members := [⟨(a.store multipliers deltas).value, 0, n⟩] } := by
  have whole {xs : List α} (h : xs.length = n) : RowRange.slice ⟨0, n⟩ xs = xs :=
    List.take_of_length_le (Nat.le_of_eq h)
  have ne : ¬ (⟨a, 0, n⟩ : Member α).rows.isEmpty := RowRange.not_isEmpty_iff.mpr pos
  refine ⟨_, store_of_length (hm.trans count.symm) (hd.trans count.symm), ?_⟩
  simp only [only, List.map_cons, List.map_nil]
  rw [Member.store_of_not_isEmpty ne, whole hm, whole hd]
  rfl

variable [Elementary α]

theorem build_of_single (only : s.members = [⟨a, rows⟩]) (active : a.active) (body : Body α) :
    s.build body =
      { members := [⟨a.takeRows 0, 0, a.config.dimension⟩]
        matrix  := (a.build body .empty 0).2
        numRows := a.config.dimension } := by
  rw [build, only, layOut, if_pos active, Actuator.build_eq]
  simp only [layOut, Nat.zero_add]
  rfl

theorem WellFormed.bounds_of_single [Extended α] (wf : s.WellFormed)
    (only : s.members = [⟨a, 0, n⟩]) (count : s.numRows = n) (sized : a.bounds.Sized n) :
    s.bounds = a.bounds.system n := by
  have gathers := wf.gathers
  have column {bound : Option (List α)} (missing : α)
      (sized : ∀ values, bound = some values → values.length = n) :
      (bound.getD (List.replicate n missing)).length = n ∧ ∀ axis < n,
        Member.entry bound missing axis = (bound.getD (List.replicate n missing))[axis]? := by
    cases bound
    case none        => exact ⟨List.length_replicate, fun axis lt => by simp [Member.entry, lt]⟩
    case some values => exact ⟨sized values rfl, fun _ _ => rfl⟩
  obtain ⟨lengthLower, lower⟩ := column Extended.negInfinity sized.lower
  obtain ⟨lengthUpper, upper⟩ := column Extended.infinity sized.upper
  obtain ⟨lengthGuess, guess⟩ := column 0 sized.guess
  refine SystemBounds.ext ?_ ?_ ?_ ?_
  · exact gathers.lower.eq_of_single only count lengthLower lower
  · exact gathers.upper.eq_of_single only count lengthUpper upper
  · exact gathers.initialGuess.eq_of_single only count lengthGuess guess
  · exact gathers.penalties.eq_of_single only count List.length_replicate fun axis lt => by
      simp [Bounds.system, lt]

theorem init_registered (name : String) {c : Config α} (valid : c.Valid) (body : Option (Body α)) :
    ((registered [(name, c)]).init body).1 = none ∧
    ((registered [(name, c)]).init body).2.value.members =
      [{ actuator := ((Actuator.new name c).init body).2.value }] := by
  have only : (registered [(name, c)]).members = [{ actuator := .new name c }] := rfl
  have sound : c.fault? = none := Config.fault?_eq_none_iff.mpr valid
  constructor
  case left  =>
    change (initMembers body (registered [(name, c)]).members).1 = none
    rw [only, initMembers_fault, List.findSome?_singleton]
    exact sound
  case right => rw [init_value, only, List.map_singleton, Member.init_value]

end Assembly

end PointForce
