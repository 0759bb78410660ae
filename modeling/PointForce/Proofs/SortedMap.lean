import Mathlib.Data.Finset.Lattice.Fold
import Mathlib.Data.Finset.Sort
import Mathlib.Order.Lattice.Nat
import PointForce.SortedMap

namespace PointForce.SortedMap

variable {ν β : Type} {k : Nat} {v : ν}

namespace Entries

theorem get?_eq_some_iff {l : List (Nat × ν)} (h : l.Pairwise (·.1 < ·.1)) :
    get? k l = some v ↔ (k, v) ∈ l := by
  induction h
  case nil => simp [get?]
  case cons e rest first _ ih =>
    rw [get?, List.mem_cons]
    split
    case isTrue eq =>
      have other : (k, v) ∉ rest := fun mem => absurd (first _ mem) (by simp [eq])
      rw [or_iff_left other, Option.some.injEq, Prod.ext_iff]
      exact ⟨fun same => ⟨eq, same.symm⟩, fun same => same.right.symm⟩
    case isFalse ne =>
      rw [ih, or_iff_right fun same => ne (congrArg Prod.fst same)]

theorem get?_map (f : ν → β) (l : List (Nat × ν)) :
    get? k (l.map fun e => (e.1, f e.2)) = (get? k l).map f := by
  induction l
  case nil         => rfl
  case cons e l ih => by_cases eq : k = e.1 <;> simp [get?, eq, ih]

theorem filter_flatMap {f : Nat × ν → List β} {key : β → Nat} (own : ∀ e, ∀ x ∈ f e, key x = e.1) :
    ∀ {l : List (Nat × ν)}, l.Pairwise (·.1 < ·.1) →
      (l.flatMap f).filter (key · = k) = (get? k l).elim [] fun v => f (k, v)
  | [],            _ => rfl
  | (i, v) :: rest, h => by
    have ⟨first, later⟩ := List.pairwise_cons.mp h
    rw [List.flatMap_cons, List.filter_append, filter_flatMap own later, get?]
    split
    case isTrue eq =>
      have absent : get? k rest = none := get?_eq_none fun e mem => by grind
      have all : (f (i, v)).filter (key · = k) = f (i, v) :=
        List.filter_eq_self.mpr fun x mem => by simp [own _ x mem, eq]
      rw [all, absent, eq]
      exact List.append_nil _
    case isFalse ne =>
      have none : (f (i, v)).filter (key · = k) = [] :=
        List.filter_eq_nil_iff.mpr fun x mem => by simpa [own _ x mem] using Ne.symm ne
      rw [none, List.nil_append]

end Entries

variable {m n : SortedMap ν}

theorem get?_eq_some_iff : m.get? k = some v ↔ (k, v) ∈ m.toList :=
  Entries.get?_eq_some_iff m.sorted

theorem filter_flatMap {f : Nat × ν → List β} {key : β → Nat} (own : ∀ e, ∀ x ∈ f e, key x = e.1) :
    (m.toList.flatMap f).filter (key · = k) = (m.get? k).elim [] fun v => f (k, v) :=
  Entries.filter_flatMap own m.sorted

theorem lt_bound (h : (k, v) ∈ m.toList) : k < m.bound := by
  obtain empty | ⟨front, last, eq⟩ := List.eq_nil_or_concat m.toList
  case inl => simp [empty] at h
  case inr =>
    rw [List.concat_eq_append] at eq
    have sorted := m.sorted
    rw [eq, List.pairwise_append] at sorted
    rw [bound, eq, List.getLast?_concat, Option.elim_some]
    rw [eq, List.mem_append, List.mem_singleton] at h
    cases h
    case inl mem => exact Nat.lt_succ_of_lt (sorted.right.right _ mem _ (List.mem_singleton_self _))
    case inr eq  => exact eq ▸ Nat.lt_succ_self _

theorem ext_get? (h : ∀ k, m.get? k = n.get? k) : m = n := by
  have mem (e : Nat × ν) : e ∈ m.toList ↔ e ∈ n.toList := by
    rw [← get?_eq_some_iff, h, get?_eq_some_iff]
  have : Std.Irrefl fun a b : Nat × ν => a.1 < b.1 := ⟨fun _ => lt_irrefl _⟩
  have : Std.Antisymm fun a b : Nat × ν => a.1 < b.1 := ⟨fun _ _ lt gt => absurd lt gt.asymm⟩
  exact SortedMap.ext (m.sorted.eq_of_mem_iff n.sorted mem)

def keys (m : SortedMap ν) : Finset Nat :=
  (m.toList.map Prod.fst).toFinset

theorem mem_keys_iff {k : Nat} : k ∈ m.keys ↔ ∃ v, m.get? k = some v := by
  simp [keys, get?_eq_some_iff]

theorem sorted_keys (m : SortedMap ν) : (m.toList.map Prod.fst).Pairwise (· < ·) :=
  List.pairwise_map.mpr m.sorted

theorem sort_keys (m : SortedMap ν) : m.keys.sort = m.toList.map Prod.fst :=
  (List.toFinset_sort _ m.sorted_keys.nodup).mpr (m.sorted_keys.imp le_of_lt)

theorem size_eq_card (m : SortedMap ν) : m.size = m.keys.card := by
  rw [← Finset.length_sort (· ≤ ·), sort_keys, List.length_map, size]

theorem bound_eq_sup (m : SortedMap ν) : m.bound = m.keys.sup (· + 1) := by
  refine le_antisymm ?above (Finset.sup_le fun k mem => ?below)
  case above =>
    rw [bound]
    cases last : m.toList.getLast?
    case none   => exact Nat.zero_le _
    case some e =>
      have mem : e.1 ∈ m.keys :=
        mem_keys_iff.mpr ⟨e.2, get?_eq_some_iff.mpr (List.mem_of_getLast? last)⟩
      exact Finset.le_sup (f := (· + 1)) mem
  case below =>
    obtain ⟨v, found⟩ := mem_keys_iff.mp mem
    exact lt_bound (get?_eq_some_iff.mp found)

-- A map whose values are known is known entry by entry.
theorem toList_eq_map_sort {f : Nat → ν} (h : ∀ k v, m.get? k = some v → v = f k) :
    m.toList = m.keys.sort.map fun k => (k, f k) := by
  have same : ∀ e ∈ m.toList, (e.1, f e.1) = e := fun e mem =>
    Prod.ext rfl (h e.1 e.2 (get?_eq_some_iff.mpr mem)).symm
  rw [sort_keys, List.map_map]
  exact ((List.map_congr_left same).trans (List.map_id _)).symm

end PointForce.SortedMap
