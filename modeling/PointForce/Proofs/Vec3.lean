import Mathlib.Algebra.BigOperators.Fin
import Mathlib.Algebra.Order.Ring.Rat
import Mathlib.Tactic.Ring
import PointForce.Matrix.Product
import PointForce.Proofs.Exact

-- Vectors by their components, and with exact components as a module with a scalar product.

namespace PointForce.Vec3

variable {α : Type}

def component (v : Vec3 α) : Fin 3 → α
  | 0 => v.x
  | 1 => v.y
  | 2 => v.z

theorem component_map {β : Type} (f : α → β) (v : Vec3 α) :
    ∀ axis, (v.map f).component axis = f (v.component axis)
  | 0 => rfl
  | 1 => rfl
  | 2 => rfl

instance [Add α] : Add (Vec3 α) where
  add u v := ⟨u.x + v.x, u.y + v.y, u.z + v.z⟩

instance : AddCommMonoid (Vec3 ℚ) where
  add_assoc u v w := Vec3.ext (add_assoc ..) (add_assoc ..) (add_assoc ..)
  zero_add u      := Vec3.ext (zero_add _) (zero_add _) (zero_add _)
  add_zero u      := Vec3.ext (add_zero _) (add_zero _) (add_zero _)
  add_comm u v    := Vec3.ext (add_comm ..) (add_comm ..) (add_comm ..)
  nsmul           := nsmulRec

def scale (v : Vec3 ℚ) (factor : ℚ) : Vec3 ℚ :=
  v.map (· * factor)

theorem sum_axes (x y z : ℚ) : (List.zipWith scale axes [x, y, z]).sum = ⟨x, y, z⟩ := by
  change (⟨1 * x + (0 * y + (0 * z + 0)), 0 * x + (1 * y + (0 * z + 0)),
    0 * x + (0 * y + (1 * z + 0))⟩ : Vec3 ℚ) = ⟨x, y, z⟩
  simp

theorem addScaled_eq (sum v : Vec3 ℚ) (factor : ℚ) :
    addScaled sum v factor = sum + v.scale factor :=
  rfl

def dot (u v : Vec3 ℚ) : ℚ :=
  ∑ axis, u.component axis * v.component axis

theorem dot_eq (u v : Vec3 ℚ) : dot u v = u.x * v.x + u.y * v.y + u.z * v.z :=
  Fin.sum_univ_three _

theorem addDot_eq (sum : ℚ) (u v : Vec3 ℚ) : addDot sum u v = sum + dot u v := by
  rw [dot_eq, ← add_assoc, ← add_assoc]
  rfl

theorem add_dot (u v w : Vec3 ℚ) : dot (u + v) w = dot u w + dot v w := by
  rw [dot_eq, dot_eq, dot_eq]
  change (u.x + v.x) * w.x + (u.y + v.y) * w.y + (u.z + v.z) * w.z = _
  ring

theorem scale_dot (u v : Vec3 ℚ) (factor : ℚ) : dot (u.scale factor) v = factor * dot u v := by
  rw [dot_eq, dot_eq]
  change u.x * factor * v.x + u.y * factor * v.y + u.z * factor * v.z = _
  ring

theorem zero_dot (u : Vec3 ℚ) : dot 0 u = 0 := by
  rw [dot_eq]
  change 0 * u.x + 0 * u.y + 0 * u.z = 0
  ring

theorem dot_zero (u : Vec3 ℚ) : dot u 0 = 0 := by
  rw [dot_eq]
  change u.x * 0 + u.y * 0 + u.z * 0 = 0
  ring

end PointForce.Vec3
