import PointForce.Body
import PointForce.Proofs.Vec3

-- Point clouds keep every coordinate in its place. A row of coordinates and the points that are
-- read from it determine each other, and a table of three columns holds the same points.

namespace PointForce

theorem Table.flatMap_vectors {α : Type} {t : Table α} (h : t.columns = 3) :
    t.vectors.flatMap Vec3.toList = t.rows.flatten := by
  obtain ⟨_, rows, uniform⟩ := t
  subst h
  induction rows
  case nil => rfl
  case cons row rows ih =>
    have ⟨three, others⟩ := List.forall_mem_cons.mp uniform
    have ⟨x, y, z, eq⟩ := List.length_eq_three.mp three
    subst eq
    simpa [vectors, Vec3.ofList?, Vec3.toList] using ih others

namespace PointCloud

variable {α : Type} {cloud : PointCloud α} {coords : List α}

theorem length_flat (cloud : PointCloud α) : cloud.flat.length = 3 * cloud.size := by
  obtain ⟨points⟩ := cloud
  induction points
  case nil            => rfl
  case cons p rest ih => exact congrArg (· + 3) ih

theorem ofFlat_flat (cloud : PointCloud α) : ofFlat cloud.flat = .ok cloud := by
  have whole : cloud.flat.length % 3 = 0 := length_flat cloud ▸ Nat.mul_mod_right ..
  rw [ofFlat, if_pos whole, pointsOfFlat_flat]

theorem flatMap_pointsOfFlat :
    ∀ {coords : List α}, coords.length % 3 = 0 → (pointsOfFlat coords).flatMap Vec3.toList = coords
  | [],                  _     => rfl
  | [_],                 whole => by simp at whole
  | [_, _],              whole => by simp at whole
  | x :: y :: z :: rest, whole => by
    have whole : rest.length % 3 = 0 := (Nat.add_mod_right ..).symm.trans whole
    simp [pointsOfFlat, Vec3.toList, flatMap_pointsOfFlat whole]

theorem ofFlat_eq_ok_iff : ofFlat coords = .ok cloud ↔ cloud.flat = coords := by
  constructor
  case mp =>
    rw [ofFlat]
    split
    case isTrue whole =>
      rintro ⟨rfl⟩
      exact flatMap_pointsOfFlat whole
    case isFalse => nofun
  case mpr =>
    rintro rfl
    exact ofFlat_flat cloud

theorem exists_ofFlat_iff : (∃ cloud, ofFlat coords = .ok cloud) ↔ 3 ∣ coords.length := by
  simp only [ofFlat, Nat.dvd_iff_mod_eq_zero]
  split <;> simp [*]

-- By induction on the points: the first one takes up the first three places, and all others are
-- moved by three.
theorem getElem?_flat (cloud : PointCloud α) (i : Nat) (axis : Fin 3) :
    cloud.flat[3 * i + axis]? = (cloud.position i).map (·.component axis) := by
  obtain ⟨points⟩ := cloud
  induction points generalizing i
  case nil => rfl
  case cons p rest ih =>
    cases i
    case zero   => match axis with | 0 | 1 | 2 => rfl
    case succ i =>
      rw [Nat.mul_succ, Nat.add_right_comm]
      exact ih i

theorem filterMap_position (cloud : PointCloud α) :
    (List.range cloud.size).filterMap cloud.position = cloud.points := by
  obtain ⟨points⟩ := cloud
  change (List.range points.length).filterMap (points[·]?) = points
  induction points
  case nil            => rfl
  case cons p rest ih =>
    simpa [List.range_succ_eq_map, List.filterMap_map, Function.comp_def] using ih

structure Holds (cloud : PointCloud α) (coords : List α) : Prop where
  size      : cloud.size = coords.length / 3
  position  : ∀ i, (cloud.position i).isSome ↔ i < cloud.size
  component : ∀ (i : Nat) (axis : Fin 3),
    coords[3 * i + axis]? = (cloud.position i).map (·.component axis)
  flat      : ((List.range cloud.size).filterMap cloud.position).flatMap Vec3.toList = coords

theorem holds_flat (cloud : PointCloud α) : cloud.Holds cloud.flat where
  size       := by simp [length_flat]
  position i := by simp [PointCloud.position, PointCloud.size]
  component  := cloud.getElem?_flat
  flat       := congrArg _ cloud.filterMap_position

theorem ofTable_eq_ofFlat {t : Table α} (h : t.columns = 3) :
    ofTable t = ofFlat t.rows.flatten := by
  rw [ofTable, if_pos h, eq_comm, ofFlat_eq_ok_iff]
  exact Table.flatMap_vectors h

theorem holds_ofFlat (coords : List α) :
    ((∃ cloud, ofFlat coords = .ok cloud) ↔ 3 ∣ coords.length) ∧
    (∀ cloud, ofFlat coords = .ok cloud →
      cloud.Holds coords ∧ ∀ other, ofFlat other = .ok cloud → other = coords) ∧
    ∀ t : Table α, t.columns = 3 → t.rows.flatten = coords → ofTable t = ofFlat coords := by
  refine ⟨exists_ofFlat_iff, fun cloud ok => ?_, fun t columns same => ?_⟩
  · have same := ofFlat_eq_ok_iff.mp ok
    exact ⟨same ▸ cloud.holds_flat, fun other ok' => (ofFlat_eq_ok_iff.mp ok').symm.trans same⟩
  · exact same ▸ ofTable_eq_ofFlat columns

def twoRows : Table Nat where
  columns := 3
  rows    := [[0, 1, 2], [3, 4, 5]]
  uniform := by decide

theorem holds_ofFlat_of_twoRows :
    twoRows.columns = 3 ∧ twoRows.rows.flatten = [0, 1, 2, 3, 4, 5] ∧
      ofFlat [0, 1, 2, 3, 4, 5] = .ok ⟨[⟨0, 1, 2⟩, ⟨3, 4, 5⟩]⟩ ∧
      Holds ⟨[⟨0, 1, 2⟩, ⟨3, 4, 5⟩]⟩ [0, 1, 2, 3, 4, 5] ∧
      ofTable twoRows = .ok ⟨[⟨0, 1, 2⟩, ⟨3, 4, 5⟩]⟩ := by
  have ⟨_, holds, table⟩ := holds_ofFlat [0, 1, 2, 3, 4, 5]
  exact ⟨rfl, rfl, rfl, (holds _ rfl).left, table twoRows rfl rfl⟩

end PointCloud
end PointForce
