-- Maps from numbers that are kept in increasing order of their keys, so that equal maps are equal
-- values, and going through one needs no sorting.

namespace PointForce

@[ext]
structure SortedMap (ν : Type) where
  toList : List (Nat × ν)
  sorted : toList.Pairwise (·.1 < ·.1)
  deriving DecidableEq, Repr

namespace SortedMap

variable {ν : Type}

def empty : SortedMap ν where
  toList := []
  sorted := .nil

def size (m : SortedMap ν) : Nat :=
  m.toList.length

def bound (m : SortedMap ν) : Nat :=
  m.toList.getLast?.elim 0 (·.1 + 1)

namespace Entries

def get? (k : Nat) : List (Nat × ν) → Option ν
  | []             => none
  | (i, v) :: rest => if k = i then some v else get? k rest

def alter (k : Nat) (f : Option ν → ν) : List (Nat × ν) → List (Nat × ν)
  | []             => [(k, f none)]
  | (i, v) :: rest =>
    if k < i then (k, f none) :: (i, v) :: rest
    else if k = i then (i, f (some v)) :: rest
    else (i, v) :: alter k f rest

theorem mem_alter {k : Nat} {f : Option ν → ν} {e : Nat × ν} : ∀ {l : List (Nat × ν)},
    e ∈ alter k f l → e.1 = k ∨ e ∈ l
  | [],            h => by simp_all [alter]
  | (i, v) :: rest, h => by
    rw [alter] at h
    split at h
    case isTrue => grind
    case isFalse =>
      split at h
      case isTrue  => grind
      case isFalse =>
        cases h
        case head   => simp
        case tail h => exact (mem_alter h).imp_right (List.mem_cons_of_mem _)

theorem sorted_alter {k : Nat} {f : Option ν → ν} : ∀ {l : List (Nat × ν)},
    l.Pairwise (·.1 < ·.1) → (alter k f l).Pairwise (·.1 < ·.1)
  | [],             _ => .cons (by simp) .nil
  | (i, v) :: rest, h => by
    have ⟨first, later⟩ := List.pairwise_cons.mp h
    rw [alter]
    split
    case isTrue hk => exact .cons (by grind) h
    case isFalse   =>
      split
      case isTrue  => exact .cons first later
      case isFalse => exact .cons (fun e he => by grind [mem_alter he]) (sorted_alter later)

theorem get?_eq_none {k : Nat} : ∀ {l : List (Nat × ν)}, (∀ e ∈ l, e.1 ≠ k) → get? k l = none
  | [],             _ => rfl
  | (i, v) :: rest, h => by
    have : ¬ k = i := fun e => h (i, v) (by simp) e.symm
    simp [get?, this, get?_eq_none fun e he => h e (List.mem_cons_of_mem _ he)]

theorem get?_alter {k j : Nat} {f : Option ν → ν} : ∀ {l : List (Nat × ν)},
    l.Pairwise (·.1 < ·.1) →
    get? j (alter k f l) = if j = k then some (f (get? k l)) else get? j l
  | [],             _ => by grind [alter, get?]
  | (i, v) :: rest, h => by
    have ⟨first, later⟩ := List.pairwise_cons.mp h
    have ih := get?_alter (k := k) (j := j) (f := f) later
    have absent : k < i → get? k rest = none := fun hk =>
      get?_eq_none fun e he => by grind
    grind [alter, get?]

end Entries

def get? (m : SortedMap ν) (k : Nat) : Option ν :=
  Entries.get? k m.toList

def alter (m : SortedMap ν) (k : Nat) (f : Option ν → ν) : SortedMap ν where
  toList := Entries.alter k f m.toList
  sorted := Entries.sorted_alter m.sorted

theorem get?_alter (m : SortedMap ν) (k j : Nat) (f : Option ν → ν) :
    (m.alter k f).get? j = if j = k then some (f (m.get? k)) else m.get? j :=
  Entries.get?_alter m.sorted

end SortedMap
end PointForce
