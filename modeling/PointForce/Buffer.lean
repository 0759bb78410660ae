-- Stretches of cells whose length is fixed from outside.

namespace PointForce.Buffer

variable {α : Type}

def overwrite : List α → List α → List α
  | x :: xs, _ :: ys => x :: overwrite xs ys
  | [],      ys      => ys
  | _,       []      => []

@[simp]
theorem length_overwrite : ∀ xs ys : List α, (overwrite xs ys).length = ys.length
  | _ :: xs, _ :: ys => by simp [overwrite, length_overwrite xs ys]
  | [],      _       => by simp [overwrite]
  | _ :: _,  []      => by simp [overwrite]

theorem overwrite_eq_append : ∀ {xs ys : List α}, xs.length ≤ ys.length →
    overwrite xs ys = xs ++ ys.drop xs.length
  | [],      _,       _ => by simp [overwrite]
  | _ :: xs, _ :: ys, h => by
    have h' : xs.length ≤ ys.length := by simpa using h
    simp [overwrite, overwrite_eq_append h']

def resize (n : Nat) (fill : α) (xs : List α) : List α :=
  xs.take n ++ List.replicate (n - xs.length) fill

@[simp]
theorem length_resize (n : Nat) (fill : α) (xs : List α) : (resize n fill xs).length = n := by
  simp [resize]
  omega

def patch (start stop : Nat) (cell : Nat → Option α) (xs : List α) : List α :=
  xs.mapIdx fun i x => if start ≤ i ∧ i < stop then (cell (i - start)).getD x else x

@[simp]
theorem length_patch (start stop : Nat) (cell : Nat → Option α) (xs : List α) :
    (patch start stop cell xs).length = xs.length := by
  simp [patch]

def fillRange (start stop : Nat) (value : α) (xs : List α) : List α :=
  patch start stop (fun _ => some value) xs

def slice (start stop : Nat) (xs : List α) : List α :=
  (xs.drop start).take (stop - start)

end PointForce.Buffer
