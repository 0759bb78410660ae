import PointForce.Drawing.Recorder

-- What is put back is what was there before the call that is taken back, so a part of a drawing
-- that takes back all it has set goes unnoticed, apart from its arrows.

namespace PointForce

namespace DrawCall

variable {α : Type}

def arrow? : DrawCall α → Option (Arrow α)
  | .arrow a              => some a
  | .lighting _ | .restore => none

def drawn (calls : List (DrawCall α)) : List (Arrow α) :=
  calls.filterMap arrow?

@[simp]
theorem drawn_nil : drawn ([] : List (DrawCall α)) = [] :=
  rfl

@[simp]
theorem drawn_arrow (a : Arrow α) (calls : List (DrawCall α)) :
    drawn (.arrow a :: calls) = a :: drawn calls :=
  rfl

@[simp]
theorem drawn_lighting (enabled : Bool) (calls : List (DrawCall α)) :
    drawn (.lighting enabled :: calls) = drawn calls :=
  rfl

@[simp]
theorem drawn_restore (calls : List (DrawCall α)) : drawn (.restore :: calls) = drawn calls :=
  rfl

@[simp]
theorem drawn_append (calls later : List (DrawCall α)) :
    drawn (calls ++ later) = drawn calls ++ drawn later :=
  List.filterMap_append

inductive Balanced : List (DrawCall α) → Prop
  | nil : Balanced []
  | arrow (a : Arrow α) {rest : List (DrawCall α)} : Balanced rest → Balanced (.arrow a :: rest)
  | nested (enabled : Bool) {inner rest : List (DrawCall α)} : Balanced inner → Balanced rest →
    Balanced (.lighting enabled :: (inner ++ .restore :: rest))

theorem balanced_map_arrow (arrows : List (Arrow α)) : Balanced (arrows.map .arrow) := by
  induction arrows
  case nil              => exact .nil
  case cons a arrows ih => exact .arrow a ih

theorem Balanced.append {calls later : List (DrawCall α)} (h : Balanced calls)
    (h' : Balanced later) : Balanced (calls ++ later) := by
  induction h
  case nil           => exact h'
  case arrow a _ _ ih => exact .arrow a ih
  case nested enabled _ _ inner _ _ ih =>
    rw [List.cons_append, List.append_assoc, List.cons_append]
    exact .nested enabled inner ih

theorem Balanced.flatMap {β : Type} {xs : List β} {f : β → List (DrawCall α)}
    (h : ∀ x ∈ xs, Balanced (f x)) : Balanced (xs.flatMap f) := by
  induction xs
  case nil         => exact .nil
  case cons x xs ih =>
    have ⟨first, later⟩ := List.forall_mem_cons.mp h
    exact first.append (ih later)

end DrawCall

namespace Recorder

variable {α : Type}

theorem run_cons (r : Recorder α) (call : DrawCall α) (calls : List (DrawCall α)) :
    r.run (call :: calls) = (r.perform call).run calls :=
  rfl

theorem run_append (r : Recorder α) (calls later : List (DrawCall α)) :
    r.run (calls ++ later) = (r.run calls).run later :=
  List.foldl_append

-- By induction on the nesting, for any stack: the inner part meets the old lighting on top of what
-- was saved, and leaves it there for the restoration.
theorem run_of_balanced {calls : List (DrawCall α)} (h : DrawCall.Balanced calls) (r : Recorder α) :
    r.run calls = { r with arrows := r.arrows ++ DrawCall.drawn calls } := by
  induction h generalizing r
  case nil => simp [run]
  case arrow a rest _ ih =>
    rw [run_cons, ih]
    simp [perform, drawArrow]
  case nested enabled inner rest _ _ ihInner ihRest =>
    rw [run_cons, run_append, ihInner, run_cons, ihRest]
    simp [perform, setLighting, restoreLighting]

end Recorder
end PointForce
