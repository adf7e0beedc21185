import Mathlib.Data.Fintype.Card
import Mathlib.Logic.Function.Basic

namespace DigGossip
namespace Foundations

universe u v

variable {C : Type u} {V : Type v} [Fintype C] [DecidableEq C] [DecidableEq V]

/-!
# Occurrences in a grid

A fixed table of cells is a function from positions.  What a reference count
records is how many positions hold a value, and every change of one cell moves
that number by the old and the new content of the cell alone.
-/

/-- The positions holding a value. -/
def cellsHolding (grid : C -> V) (value : V) : Finset C :=
  Finset.univ.filter fun cell => grid cell = value

/-- How many positions hold a value. -/
def occurrences (grid : C -> V) (value : V) : Nat :=
  (cellsHolding grid value).card

omit [DecidableEq C] in
@[simp] theorem mem_cellsHolding {grid : C -> V} {value : V} {cell : C} :
    cell ∈ cellsHolding grid value ↔ grid cell = value := by
  simp [cellsHolding]

omit [DecidableEq C] in
theorem occurrences_pos {grid : C -> V} {value : V} {cell : C} (holds : grid cell = value) :
    0 < occurrences grid value :=
  Finset.card_pos.mpr ⟨cell, mem_cellsHolding.mpr holds⟩

omit [DecidableEq C] in
theorem exists_of_occurrences_pos {grid : C -> V} {value : V} (some : 0 < occurrences grid value) :
    exists cell, grid cell = value := by
  rcases Finset.card_pos.mp some with ⟨cell, member⟩
  exact ⟨cell, mem_cellsHolding.mp member⟩

omit [DecidableEq C] in
/-- Grids that hold their values at the same positions count alike. -/
theorem occurrences_congr {W : Type v} [DecidableEq W] {left : C -> V} {right : C -> W} {value : V}
    {other : W} (agree : forall cell, left cell = value ↔ right cell = other) :
    occurrences left value = occurrences right other := by
  unfold occurrences
  congr 1
  ext cell
  rw [mem_cellsHolding, mem_cellsHolding, agree]

omit [DecidableEq C] in
theorem occurrences_eq_zero {grid : C -> V} {value : V} :
    occurrences grid value = 0 ↔ forall cell, grid cell ≠ value := by
  constructor
  · intro none cell holds
    have positive := occurrences_pos holds
    omega
  · intro nowhere
    by_contra positive
    rcases exists_of_occurrences_pos (Nat.pos_of_ne_zero positive) with ⟨cell, holds⟩
    exact nowhere cell holds

theorem cellsHolding_update_self (grid : C -> V) (cell : C) (value : V) :
    cellsHolding (Function.update grid cell value) value = insert cell (cellsHolding grid value) := by
  ext other
  by_cases same : other = cell
  · subst same
    simp
  · simp [same]

theorem cellsHolding_update_of_ne (grid : C -> V) (cell : C) {written value : V}
    (different : written ≠ value) :
    cellsHolding (Function.update grid cell written) value = (cellsHolding grid value).erase cell := by
  ext other
  by_cases same : other = cell
  · subst same
    simp [different]
  · simp [same]

/-- Writing a cell that held something else adds one occurrence. -/
theorem occurrences_update_self {grid : C -> V} {cell : C} {value : V}
    (fresh : grid cell ≠ value) :
    occurrences (Function.update grid cell value) value = occurrences grid value + 1 := by
  unfold occurrences
  rw [cellsHolding_update_self, Finset.card_insert_of_notMem]
  rw [mem_cellsHolding]
  exact fresh

/-- Overwriting a cell takes one occurrence of its old content away. -/
theorem occurrences_update_old {grid : C -> V} {cell : C} {written value : V}
    (holds : grid cell = value) (different : written ≠ value) :
    occurrences (Function.update grid cell written) value + 1 = occurrences grid value := by
  unfold occurrences
  rw [cellsHolding_update_of_ne grid cell different]
  exact Finset.card_erase_add_one (mem_cellsHolding.mpr holds)

/-- Values that a write neither puts nor removes keep their occurrences. -/
theorem occurrences_update_other {grid : C -> V} {cell : C} {written value : V}
    (before : grid cell ≠ value) (after : written ≠ value) :
    occurrences (Function.update grid cell written) value = occurrences grid value := by
  unfold occurrences
  rw [cellsHolding_update_of_ne grid cell after, Finset.erase_eq_of_notMem]
  rw [mem_cellsHolding]
  exact before

end Foundations
end DigGossip
