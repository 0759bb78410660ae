import Mathlib.Algebra.GroupWithZero.Nat
import Mathlib.Data.List.DropRight
import PointForce.Matrix.Word
import PointForce.Proofs.Matrix.Filled
import PointForce.Proofs.SortedMap

-- A matrix holds the rows that were opened since it was last cleared, each with all blocks that
-- were added to it since. How the writes to different rows were mixed leaves no trace.

namespace PointForce

namespace SortedMap

theorem Entries.length_flatMap_alter {β : Type} (k : Nat) (added : List β) :
    ∀ l : List (Nat × List β),
      ((alter k (·.getD [] ++ added) l).flatMap Prod.snd).length =
        (l.flatMap Prod.snd).length + added.length
  | []             => by simp [alter]
  | (i, v) :: rest => by
    have later := length_flatMap_alter k added rest
    rw [alter]
    split
    case isTrue  => simp [Nat.add_comm]
    case isFalse =>
      split <;> simp only [List.flatMap_cons, List.length_append, Option.getD_some] <;> omega

end SortedMap

namespace ConstraintMatrix

variable {α : Type}

inductive Call (α : Type)
  | write (row : Nat) (blocks : List (Block α))
  | clear

def call (m : ConstraintMatrix α) : Call α → ConstraintMatrix α
  | .write row blocks => m.write row blocks
  | .clear            => empty

def run (m : ConstraintMatrix α) (calls : List (Call α)) : ConstraintMatrix α :=
  calls.foldl call m

theorem run_concat (m : ConstraintMatrix α) (calls : List (Call α)) (c : Call α) :
    m.run (calls ++ [c]) = (m.run calls).call c :=
  List.foldl_concat ..

def Call.line? : Call α → Option (Line α)
  | write row blocks => some (row, blocks)
  | clear            => none

def writes (calls : List (Call α)) : List (Line α) :=
  (calls.rtakeWhile (·.line?.isSome)).filterMap Call.line?

@[simp]
theorem writes_write (calls : List (Call α)) (row : Nat) (blocks : List (Block α)) :
    writes (calls ++ [.write row blocks]) = writes calls ++ [(row, blocks)] := by
  rw [writes, List.rtakeWhile_concat_pos _ _ _ rfl, List.filterMap_append]
  rfl

@[simp]
theorem writes_clear (calls : List (Call α)) : writes (calls ++ [.clear]) = [] := by
  rw [writes, List.rtakeWhile_concat_neg _ _ _ Bool.false_ne_true]
  rfl

def opened (ws : List (Line α)) : Finset Nat :=
  (ws.map Prod.fst).toFinset

def added (ws : List (Line α)) (row : Nat) : List (Block α) :=
  (ws.filter (·.1 = row)).flatMap Prod.snd

section

variable {ws : List (Line α)} {row : Nat}

theorem opened_concat (w : Line α) : opened (ws ++ [w]) = insert w.1 (opened ws) := by
  rw [opened, List.map_append, List.toFinset_append, Finset.union_comm]
  rfl

theorem added_concat (w : Line α) :
    added (ws ++ [w]) row = added ws row ++ if w.1 = row then w.2 else [] := by
  rw [added, List.filter_append, List.flatMap_append, added]
  split <;> simp [*]

theorem added_of_not_mem (h : row ∉ opened ws) : added ws row = [] := by
  have none : ws.filter (·.1 = row) = [] := List.filter_eq_nil_iff.mpr fun w mem eq =>
    h (List.mem_toFinset.mpr (List.mem_map.mpr ⟨w, mem, of_decide_eq_true eq⟩))
  rw [added, none, List.flatMap_nil]

end

structure Records (m : ConstraintMatrix α) (ws : List (Line α)) : Prop where
  row?        : ∀ row, m.row? row = if row ∈ opened ws then some (added ws row) else none
  rows        : m.rows = (opened ws).sort.map fun row => (row, added ws row)
  emittedRows : m.emittedRows = (opened ws).card
  numRows     : m.wordRows = (opened ws).sup (· + 1) ↔ ∀ row ∈ opened ws, row + 1 < UInt64.size
  blocks      : m.blocks.length = (ws.map (·.2.length)).sum

theorem row?_run (calls : List (Call α)) (row : Nat) :
    (empty.run calls).row? row =
      if row ∈ opened (writes calls) then some (added (writes calls) row) else none := by
  induction calls using List.reverseRecOn
  case nil => rfl
  case append_singleton calls c ih =>
    rw [run_concat]
    cases c
    case clear => rw [writes_clear]; rfl
    case write other blocks =>
      rw [writes_write, opened_concat, added_concat, call]
      by_cases eq : row = other
      case pos =>
        subst eq
        rw [row?_write_self, ih, if_pos (Finset.mem_insert_self ..), if_pos rfl]
        split
        case isTrue         => rfl
        case isFalse closed => rw [added_of_not_mem closed, Option.getD_none]
      case neg =>
        rw [row?_write_of_ne _ _ eq, ih, if_neg (Ne.symm eq), List.append_nil]
        simp only [Finset.mem_insert, eq, false_or]

theorem length_blocks_run (calls : List (Call α)) :
    (empty.run calls).blocks.length = ((writes calls).map (·.2.length)).sum := by
  induction calls using List.reverseRecOn
  case nil => rfl
  case append_singleton calls c ih =>
    rw [run_concat]
    cases c
    case clear => rw [writes_clear]; rfl
    case write row blocks =>
      rw [writes_write, List.map_append, List.sum_append, ← ih]
      exact SortedMap.Entries.length_flatMap_alter row blocks _

theorem keys_run (calls : List (Call α)) :
    (empty.run calls).lines.keys = opened (writes calls) := by
  ext row
  rw [SortedMap.mem_keys_iff, ← row?, row?_run]
  split <;> simp [*]

theorem Records.run (calls : List (Call α)) : (empty.run calls).Records (writes calls) where
  row?        := row?_run calls
  rows        := by
    rw [← keys_run]
    refine SortedMap.toList_eq_map_sort fun row blocks found => ?_
    rw [← ConstraintMatrix.row?, row?_run] at found
    split at found <;> cases found
    rfl
  emittedRows := by
    rw [← keys_run]
    exact SortedMap.size_eq_card _
  numRows     := by
    have exact : (empty.run calls).numRows = (opened (writes calls)).sup (· + 1) :=
      keys_run calls ▸ SortedMap.bound_eq_sup _
    rw [wordRows, exact, word_eq_iff, Finset.sup_lt_iff (by decide)]
  blocks      := length_blocks_run calls

theorem run_eq_iff {calls others : List (Call α)} :
    (empty : ConstraintMatrix α).run others = empty.run calls ↔
      opened (writes others) = opened (writes calls) ∧
        ∀ row, added (writes others) row = added (writes calls) row := by
  constructor
  case mp =>
    intro eq
    have same : opened (writes others) = opened (writes calls) := by rw [← keys_run, eq, keys_run]
    refine ⟨same, fun row => ?_⟩
    have found := row?_run others row
    rw [eq, row?_run, same] at found
    split at found
    case isTrue         => exact (Option.some.inj found).symm
    case isFalse closed => rw [added_of_not_mem closed, added_of_not_mem (same ▸ closed)]
  case mpr =>
    rintro ⟨same, equal⟩
    refine ConstraintMatrix.ext (SortedMap.ext_get? fun row => ?_)
    rw [← row?, row?_run, same, equal, ← row?_run, row?]

theorem records_run (calls others : List (Call α)) :
    (empty.run calls).Records (writes calls) ∧
      (empty.run others = empty.run calls ↔
        opened (writes others) = opened (writes calls) ∧
          ∀ row, added (writes others) row = added (writes calls) row) :=
  ⟨.run calls, run_eq_iff⟩

-- The last row that a word can number is one too many for a word to count.
theorem wordRows_of_last :
    let calls : List (Call Float) := [.write 3 [], .write 0xffffffffffffffff [⟨0, ⟨0, 0, 2⟩⟩]]
    opened (writes calls) = {3, 0xffffffffffffffff} ∧
      (empty.run calls).wordRows ≠ (opened (writes calls)).sup (· + 1) := by
  decide +kernel

end ConstraintMatrix
end PointForce
