import PointForce.Assembly
import PointForce.Proofs.Drawing.Lighting

-- What an assembly asks of a drawing tool. The arrows of each visible member stand between switching
-- the lighting on and restoring it, so that a tool is left as it was found.

namespace PointForce

variable {α : Type} [Scalar α] [Elementary α]

namespace Actuator

variable {a : Actuator α} {body : Body α} {points : List Nat} {arrows : List (Arrow α)}

def arrowAt (a : Actuator α) (tip : Vec3 α) : Arrow α where
  start        := Arrow.startOf tip a.arrowShape.1 a.arrowShape.2
  tip
  radius       := Arrow.radiusOf a.arrowShape.1 a.arrowShape.2
  color        := .force
  subdivisions := 4

def DrawableAt (a : Actuator α) (tip : Vec3 α) : Prop :=
  (a.arrowAt tip).start.isFinite ∧ Scalar.isFinite (a.arrowAt tip).radius

-- A point has no arrow if the body does not count it, if its position is not known, or if its arrow
-- cannot be drawn.
inductive Shows (a : Actuator α) (body : Body α) : List Nat → List (Arrow α) → Prop
  | nil : Shows a body [] []
  | shown {point tip points arrows} (inside : point < body.size)
    (known : body.position point = some tip) (drawable : a.DrawableAt tip)
    (rest : Shows a body points arrows) :
    Shows a body (point :: points) (a.arrowAt tip :: arrows)
  | stale {point points arrows} (outside : body.size ≤ point)
    (rest : Shows a body points arrows) : Shows a body (point :: points) arrows
  | unplaced {point points arrows} (unknown : body.position point = none)
    (rest : Shows a body points arrows) : Shows a body (point :: points) arrows
  | unbounded {point tip points arrows} (known : body.position point = some tip)
    (endless : ¬ a.DrawableAt tip) (rest : Shows a body points arrows) :
    Shows a body (point :: points) arrows

instance (tip : Vec3 α) : Decidable (a.DrawableAt tip) :=
  inferInstanceAs (Decidable (_ ∧ _))

def arrowOf? (a : Actuator α) (body : Body α) (point : Nat) : Option (Arrow α) :=
  if point < body.size then
    (body.position point).bind fun tip => if a.DrawableAt tip then some (a.arrowAt tip) else none
  else
    none

theorem arrows_eq (a : Actuator α) (body : Body α) :
    a.arrows body = a.config.indices.filterMap (a.arrowOf? body) := by
  rw [arrows, points, List.filterMap_filter]
  simp only [decide_eq_true_eq]
  rfl

section

variable {point : Nat} {tip : Vec3 α}

theorem arrowOf?_of_drawable (inside : point < body.size) (known : body.position point = some tip)
    (drawable : a.DrawableAt tip) : a.arrowOf? body point = some (a.arrowAt tip) := by
  rw [arrowOf?, if_pos inside, known, Option.bind_some, if_pos drawable]

theorem arrowOf?_of_outside (outside : body.size ≤ point) : a.arrowOf? body point = none :=
  if_neg (Nat.not_lt.mpr outside)

theorem arrowOf?_of_unknown (unknown : body.position point = none) :
    a.arrowOf? body point = none := by
  rw [arrowOf?, unknown, Option.bind_none, ite_self]

theorem arrowOf?_of_not_drawable (known : body.position point = some tip)
    (endless : ¬ a.DrawableAt tip) : a.arrowOf? body point = none := by
  rw [arrowOf?, known, Option.bind_some, if_neg endless, ite_self]

end

theorem shows_iff : a.Shows body points arrows ↔ arrows = points.filterMap (a.arrowOf? body) := by
  constructor
  case mp =>
    intro h
    induction h
    case nil => rfl
    case shown inside known drawable _ ih =>
      rw [ih, List.filterMap_cons_some (arrowOf?_of_drawable inside known drawable)]
    case stale outside _ ih =>
      rw [ih, List.filterMap_cons_none (arrowOf?_of_outside outside)]
    case unplaced unknown _ ih =>
      rw [ih, List.filterMap_cons_none (arrowOf?_of_unknown unknown)]
    case unbounded known endless _ ih =>
      rw [ih, List.filterMap_cons_none (arrowOf?_of_not_drawable known endless)]
  case mpr =>
    rintro rfl
    induction points
    case nil => exact .nil
    case cons point points ih =>
      rcases Nat.lt_or_ge point body.size with inside | outside
      case inr =>
        rw [List.filterMap_cons_none (arrowOf?_of_outside outside)]
        exact .stale outside ih
      case inl =>
        cases known : body.position point
        case none =>
          rw [List.filterMap_cons_none (arrowOf?_of_unknown known)]
          exact .unplaced known ih
        case some tip =>
          by_cases drawable : a.DrawableAt tip
          case pos =>
            rw [List.filterMap_cons_some (arrowOf?_of_drawable inside known drawable)]
            exact .shown inside known drawable ih
          case neg =>
            rw [List.filterMap_cons_none (arrowOf?_of_not_drawable known drawable)]
            exact .unbounded known drawable ih

theorem shows_config_iff : a.Shows body a.config.indices arrows ↔ arrows = a.arrows body := by
  rw [shows_iff, arrows_eq]

theorem draw_of_visible (visible : a.config.showForce) (body : Body α) :
    a.draw body true = .lighting true :: ((a.arrows body).map .arrow ++ [.restore]) :=
  if_pos ⟨rfl, visible⟩

theorem draw_of_hidden (hidden : a.config.showForce = false) (body : Body α) (showForces : Bool) :
    a.draw body showForces = [] :=
  if_neg fun h => Bool.false_ne_true (hidden.symm.trans h.right)

theorem balanced_draw (a : Actuator α) (body : Body α) (showForces : Bool) :
    DrawCall.Balanced (a.draw body showForces) := by
  rw [draw]
  split
  case isTrue  => exact .nested true (DrawCall.balanced_map_arrow _) .nil
  case isFalse => exact .nil

end Actuator

namespace Assembly

variable {body : Body α} {calls : List (DrawCall α)}

inductive Draws (body : Body α) : List (Member α) → List (DrawCall α) → Prop
  | nil : Draws body [] []
  | visible {m : Member α} {ms arrows calls} (active : m.actuator.active)
    (showForce : m.actuator.config.showForce)
    (shows : m.actuator.Shows body m.actuator.config.indices arrows) (rest : Draws body ms calls) :
    Draws body (m :: ms) (.lighting true :: (arrows.map .arrow ++ .restore :: calls))
  | inactive {m : Member α} {ms calls} (inactive : m.actuator.active = false)
    (rest : Draws body ms calls) : Draws body (m :: ms) calls
  | hidden {m : Member α} {ms calls} (hidden : m.actuator.config.showForce = false)
    (rest : Draws body ms calls) : Draws body (m :: ms) calls

theorem draws_iff {ms : List (Member α)} :
    Draws body ms calls ↔
      calls = (ms.filter (·.actuator.active)).flatMap (·.actuator.draw body true) := by
  constructor
  case mp =>
    intro h
    induction h
    case nil => rfl
    case visible active showForce shows _ ih =>
      rw [List.filter_cons, if_pos active, List.flatMap_cons, ← ih,
        Actuator.draw_of_visible showForce, ← Actuator.shows_config_iff.mp shows]
      simp only [List.cons_append, List.append_assoc, List.nil_append]
    case inactive m _ _ inactive _ ih =>
      rwa [List.filter_cons_of_neg (Bool.not_eq_true _ ▸ inactive)]
    case hidden m _ _ hidden _ ih =>
      rw [List.filter_cons]
      split
      case isTrue  => rwa [List.flatMap_cons, Actuator.draw_of_hidden hidden]
      case isFalse => exact ih
  case mpr =>
    rintro rfl
    induction ms
    case nil => exact .nil
    case cons m ms ih =>
      cases active : m.actuator.active
      case false =>
        rw [List.filter_cons_of_neg (Bool.not_eq_true _ ▸ active)]
        exact .inactive active ih
      case true =>
        rw [List.filter_cons, if_pos active, List.flatMap_cons]
        cases visible : m.actuator.config.showForce
        case false =>
          rw [Actuator.draw_of_hidden visible]
          exact .hidden visible ih
        case true =>
          rw [Actuator.draw_of_visible visible]
          simp only [List.cons_append, List.append_assoc, List.nil_append]
          exact .visible active visible (Actuator.shows_config_iff.mpr rfl) ih

theorem draw_of_not_showForces (s : Assembly α) (body : Body α) : s.draw body false = [] :=
  List.flatMap_eq_nil_iff.mpr fun _ _ => if_neg fun h => Bool.false_ne_true h.left

theorem balanced_draw (s : Assembly α) (body : Body α) (showForces : Bool) :
    DrawCall.Balanced (s.draw body showForces) :=
  .flatMap fun m _ => m.actuator.balanced_draw body showForces

theorem draws_and_restores (s : Assembly α) (body : Body α) :
    (∀ calls, Draws body s.members calls ↔ calls = s.draw body true) ∧
    s.draw body false = [] ∧
    ∀ (showForces : Bool) (r : Recorder α), r.run (s.draw body showForces) =
      { r with arrows := r.arrows ++ DrawCall.drawn (s.draw body showForces) } :=
  ⟨fun _ => draws_iff, s.draw_of_not_showForces body, fun showForces =>
    Recorder.run_of_balanced (s.balanced_draw body showForces)⟩

end Assembly
end PointForce
