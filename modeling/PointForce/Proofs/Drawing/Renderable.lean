import PointForce.Actuator.Draw
import PointForce.Proofs.Actuator.Direction
import PointForce.Proofs.Arithmetic.Special

-- The tip of an arrow takes part in its start, and all that the radius is made of takes part in the
-- radius, so that checking these two is enough.

namespace PointForce

open Binary64

namespace Arrow

variable {tip axis : Vec3 Float} {length : Float} {arrow : Arrow Float}

structure Renderable (arrow : Arrow Float) : Prop where
  start  : arrow.start.isFinite
  tip    : arrow.tip.isFinite
  radius : Scalar.isFinite arrow.radius
  nonneg : 0 ≤ arrow.radius

def spanning (tip axis : Vec3 Float) (length : Float) : Arrow Float where
  start        := startOf tip axis length
  tip
  radius       := radiusOf axis length
  color        := .force
  subdivisions := 4

theorem component_startOf (tip axis : Vec3 Float) (length : Float) :
    ∀ i, (startOf tip axis length).component i = tip.component i - axis.component i * length
  | 0 | 1 | 2 => rfl

theorem isFinite_tip (h : (startOf tip axis length).isFinite) : tip.isFinite := by
  rw [Vec3.isFinite_iff] at *
  intro i
  exact (isFinite_of_sub (component_startOf tip axis length i ▸ h i)).left

theorem nonneg_radiusOf (h : Scalar.isFinite (radiusOf axis length)) :
    0 ≤ radiusOf axis length := by
  have ⟨wide, _⟩    := isFinite_of_mul h
  have ⟨norm, size⟩ := isFinite_of_mul wide
  apply nonneg_mul h
  case hx => exact nonneg_mul wide (nonneg_root norm) (nonneg_abs size)
  case hy => decide +kernel

theorem endingAt?_eq_some_iff : endingAt? tip axis length = some arrow ↔
    arrow = spanning tip axis length ∧ arrow.Renderable := by
  rw [endingAt?]
  split
  case isTrue h =>
    rw [Option.some.injEq, eq_comm]
    refine ⟨fun eq => ⟨eq, ?_⟩, And.left⟩
    subst eq
    exact ⟨h.left, isFinite_tip h.left, h.right, nonneg_radiusOf h.right⟩
  case isFalse h =>
    refine iff_of_false nofun ?_
    rintro ⟨rfl, renderable⟩
    exact h ⟨renderable.start, renderable.radius⟩

end Arrow

namespace Actuator

variable {a : Actuator Float} {body : Body Float} {showForces : Bool} {arrow : Arrow Float}

theorem renderable_of_mem_arrows (h : arrow ∈ a.arrows body) : arrow.Renderable := by
  have ⟨_, _, drawn⟩ := List.mem_filterMap.mp h
  have ⟨_, _, given⟩ := Option.bind_eq_some_iff.mp drawn
  exact (Arrow.endingAt?_eq_some_iff.mp given).right

theorem mem_draw_iff : .arrow arrow ∈ a.draw body showForces ↔
    (showForces ∧ a.config.showForce) ∧ arrow ∈ a.arrows body := by
  rw [draw]
  split
  case isTrue visible => simp [visible]
  case isFalse hidden => simp [hidden]

theorem renderable_of_draw :
    (∀ (tip axis : Vec3 Float) (length : Float) (arrow : Arrow Float),
      Arrow.endingAt? tip axis length = some arrow ↔
        arrow = .spanning tip axis length ∧ arrow.Renderable) ∧
    ∀ (a : Actuator Float) (body : Body Float) (showForces : Bool) (arrow : Arrow Float),
      .arrow arrow ∈ a.draw body showForces → arrow.Renderable :=
  ⟨fun _ _ _ _ => Arrow.endingAt?_eq_some_iff, fun _ _ _ _ h =>
    renderable_of_mem_arrows (mem_draw_iff.mp h).right⟩

-- A force on two points, and a body of which one of them has been lost at infinity.
def straying : Actuator Float :=
  { Actuator.new "cable" { Config.unset with indices := [0, 1], showForce := true } with
    state := { State.unresolved with force := [0, 0, 2] } }

def torn : Body Float :=
  .ofPoints 2 [⟨1, 1, 1⟩, ⟨1 / 0, 0, 0⟩]

theorem renderable_of_straying_torn :
    (straying.arrows torn).length = 1 ∧
      ∃ arrow, .arrow arrow ∈ straying.draw torn true ∧ arrow.Renderable := by
  have one : (straying.arrows torn).length = 1 := by decide +kernel
  have ⟨arrow, mem⟩ := List.exists_mem_of_length_pos (one ▸ one_pos)
  have drawn := mem_draw_iff.mpr ⟨⟨rfl, rfl⟩, mem⟩
  exact ⟨one, arrow, drawn, renderable_of_draw.right straying torn true arrow drawn⟩

end Actuator
end PointForce
