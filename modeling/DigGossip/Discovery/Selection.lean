import DigGossip.Discovery.Operations

namespace DigGossip
namespace Discovery

open Foundations DigGossip.Types

/-!
# Drawing a peer

The sampling loop looks only at used cells, and the weight of what it finds
grows by a fifth with each turn, so that it comes to an end long before its
bound.  A draw from a book that keeps its invariant fails for want of rows
only: when there is none, or when a new one is asked for and all are tried.
-/

/-- The threshold of a turn, in units of `2 ^ -30`: `get_selection_chance` is a
hundredth for a row tried within ten minutes, and two thirds for each failed
attempt up to eight. -/
def selectionWeight (row : ExtendedPeerInfo) (now turn : Nat) : Nat :=
  let attempts := Nat.min row.numAttempts 8
  let recently := if now - row.lastTry < 60 * 10 then 100 else 1
  2 ^ 30 * (6 ^ turn * 66 ^ attempts) / (5 ^ turn * 100 ^ attempts * recently)

/-- What the generator may draw: used cells, and thirty bits that pass a row
whose weight is above them all. -/
structure Drawn (s : Inner) (inputs : SelectInputs) : Prop where
  tried : s.usedTriedMatrixPositions ≠ ∅ ->
    forall turn, inputs.triedPosition turn ∈ s.usedTriedMatrixPositions
  new : s.usedNewMatrixPositions ≠ ∅ ->
    forall turn, inputs.newPosition turn ∈ s.usedNewMatrixPositions
  refused : forall turn, inputs.accept turn = false ->
    exists row now, selectionWeight row now turn < 2 ^ 30

theorem le_selectionWeight (row : ExtendedPeerInfo) (now : Nat) {turn : Nat} (late : 64 ≤ turn) :
    2 ^ 30 ≤ selectionWeight row now turn := by
  have table : forall attempts, attempts < 9 ->
      5 ^ 64 * 100 ^ attempts * 100 ≤ 6 ^ 64 * 66 ^ attempts := by decide
  have bounded : Nat.min row.numAttempts 8 < 9 := Nat.lt_succ_of_le (Nat.min_le_right _ _)
  have recently : (if now - row.lastTry < 60 * 10 then 100 else 1) ≤ 100 := by
    split <;> decide
  have positive : 0 < if now - row.lastTry < 60 * 10 then 100 else 1 := by
    split <;> decide
  rcases Nat.exists_eq_add_of_le late with ⟨more, rfl⟩
  refine (Nat.le_div_iff_mul_le ?_).mpr (Nat.mul_le_mul_left _ ?_)
  · exact Nat.mul_pos (Nat.mul_pos (Nat.pow_pos (by decide)) (Nat.pow_pos (by decide))) positive
  · calc
      5 ^ (64 + more) * 100 ^ Nat.min row.numAttempts 8 *
            (if now - row.lastTry < 60 * 10 then 100 else 1)
          ≤ 5 ^ (64 + more) * 100 ^ Nat.min row.numAttempts 8 * 100 :=
        Nat.mul_le_mul_left _ recently
      _ = 5 ^ more * (5 ^ 64 * 100 ^ Nat.min row.numAttempts 8 * 100) := by
        rw [Nat.pow_add, Nat.mul_comm (5 ^ 64) (5 ^ more)]
        simp only [Nat.mul_assoc]
      _ ≤ 6 ^ more * (6 ^ 64 * 66 ^ Nat.min row.numAttempts 8) :=
        Nat.mul_le_mul (Nat.pow_le_pow_left (by decide) more) (table _ bounded)
      _ = 6 ^ (64 + more) * 66 ^ Nat.min row.numAttempts 8 := by
        rw [Nat.pow_add, Nat.mul_comm (6 ^ 64) (6 ^ more), Nat.mul_assoc]

/-- The loop ends on a row when every cell it looks at has one and some turn
before its bound accepts any. -/
theorem selectLoop_isSome {s : Inner} {cells : Nat -> Cell} {accept : Nat -> Bool}
    (known : forall turn, cells turn ≠ emptyCell ∧
      (s.mapInfo.lookup (nodeOf (cells turn))).isSome = true)
    {bound : Nat} (accepted : forall turn, bound ≤ turn -> accept turn = true)
    (fuel turn : Nat) (early : turn ≤ bound) (enough : bound < turn + fuel) :
    (s.selectLoop cells accept fuel turn).isSome = true := by
  induction fuel generalizing turn with
  | zero => omega
  | succ fuel inner =>
      rcases Option.isSome_iff_exists.mp (known turn).2 with ⟨row, found⟩
      unfold Inner.selectLoop
      rw [if_neg (known turn).1, found]
      cases passes : accept turn with
      | true => rfl
      | false =>
          have before : turn < bound := by
            refine Nat.lt_of_not_le fun late => ?_
            rw [accepted turn late] at passes
            cases passes
          exact inner (turn + 1) before (by omega)

section

variable {sha256 : Digest} {s : Inner} {inputs : SelectInputs}

theorem Drawn.accepts (drawn : Drawn s inputs) (turn : Nat) (late : 64 ≤ turn) :
    inputs.accept turn = true := by
  refine Bool.eq_true_of_not_eq_false fun refused => ?_
  rcases drawn.refused turn refused with ⟨row, now, light⟩
  have heavy := le_selectionWeight row now late
  omega

/-- A draw among the tried rows finds one. -/
theorem tried_isSome (core : Core sha256 s) (drawn : Drawn s inputs)
    (used : s.usedTriedMatrixPositions ≠ ∅) (fuel : Nat) (enough : 64 < fuel) :
    (s.selectLoop (fun turn => s.triedMatrix (inputs.triedPosition turn)) inputs.accept fuel
      0).isSome = true := by
  refine selectLoop_isSome ?_ drawn.accepts fuel 0 (Nat.zero_le 64) (by omega)
  intro turn
  have full := (core.triedTable.used _).mp (drawn.tried used turn)
  rcases core.triedTable.cell _ full with ⟨row, found, _⟩
  exact ⟨full, Option.isSome_iff_exists.mpr ⟨row, found⟩⟩

/-- A draw among the new rows finds one. -/
theorem new_isSome (core : Core sha256 s) (drawn : Drawn s inputs)
    (used : s.usedNewMatrixPositions ≠ ∅) (fuel : Nat) (enough : 64 < fuel) :
    (s.selectLoop (fun turn => s.newMatrix (inputs.newPosition turn)) inputs.accept fuel
      0).isSome = true := by
  refine selectLoop_isSome ?_ drawn.accepts fuel 0 (Nat.zero_le 64) (by omega)
  intro turn
  have full := (core.newTable.used _).mp (drawn.new used turn)
  rcases core.newTable.cell _ full with ⟨row, found, _⟩
  exact ⟨full, Option.isSome_iff_exists.mpr ⟨row, found⟩⟩

theorem used_of_triedCount (core : Core sha256 s) (some : 0 < s.triedCount) :
    s.usedTriedMatrixPositions ≠ ∅ := by
  rw [core.triedCount] at some
  rcases FiniteMap.exists_of_countWhere_pos some with ⟨nodeId, row, found, tried⟩
  have seated := core.triedTable.seated nodeId row found tried
  have full : s.triedMatrix (row.triedSlot sha256 s.key) ≠ emptyCell := by
    rw [seated]
    exact core.proper found
  exact Finset.ne_empty_of_mem ((core.triedTable.used _).mpr full)

theorem used_of_newCount (inv : Inv sha256 s) (some : 0 < s.newCount) :
    s.usedNewMatrixPositions ≠ ∅ := by
  rw [inv.core.newCount] at some
  rcases FiniteMap.exists_of_countWhere_pos some with ⟨nodeId, row, found, isNew⟩
  have referenced := (inv.rooted nodeId row found (Bool.not_eq_true' _ |>.mp isNew)).resolve_right id
  rw [inv.core.newTable.refs nodeId row found] at referenced
  rcases exists_of_occurrences_pos referenced with ⟨slot, holds⟩
  have full : s.newMatrix slot ≠ emptyCell := by
    rw [holds]
    exact inv.core.proper found
  exact Finset.ne_empty_of_mem ((inv.core.newTable.used _).mpr full)

/-- An order that is not empty is the order of some rows. -/
theorem row_of_randomPos (core : Core sha256 s) (filled : s.randomPos ≠ []) :
    exists nodeId row, s.mapInfo.lookup nodeId = some row := by
  rcases List.exists_mem_of_ne_nil _ filled with ⟨nodeId, member⟩
  rcases List.getElem?_of_mem member with ⟨place, here⟩
  have linked := (core.ordered.linked nodeId place).mpr here
  rcases Option.bind_eq_some_iff.mp linked with ⟨row, found, _⟩
  exact ⟨nodeId, row, found⟩

/-- A draw fails for want of rows only. -/
theorem selectPeer_eq_none_iff (inv : Inv sha256 s) (drawn : Drawn s inputs) (newOnly : Bool) :
    s.selectPeer newOnly inputs = none ↔
      s.randomPos = [] ∨ newOnly = true ∧ s.newCount = 0 := by
  unfold Inner.selectPeer
  by_cases empty : s.randomPos = []
  · rw [if_pos empty]
    exact ⟨fun _ => Or.inl empty, fun _ => rfl⟩
  · rw [if_neg empty]
    by_cases starved : newOnly = true ∧ s.newCount = 0
    · rw [if_pos starved]
      exact ⟨fun _ => Or.inr starved, fun _ => rfl⟩
    · rw [if_neg starved]
      refine ⟨fun failed => ?_, fun reason => absurd reason (not_or_intro empty starved)⟩
      exfalso
      by_cases fromTried : newOnly = false ∧ 0 < s.triedCount ∧ (s.newCount = 0 ∨ inputs.coin = true)
      · have used := used_of_triedCount inv.core fromTried.2.1
        rw [if_pos fromTried, if_neg used] at failed
        have found := tried_isSome inv.core drawn used 50000 (by decide)
        rw [failed] at found
        cases found
      · have some : 0 < s.newCount := by
          refine Nat.pos_of_ne_zero fun none => ?_
          rcases row_of_randomPos inv.core empty with ⟨nodeId, row, found⟩
          cases tried : row.isTried with
          | false =>
              have counted := inv.core.newCount_pos found tried
              omega
          | true =>
              have counted := inv.core.triedCount_pos found tried
              cases newOnly with
              | true => exact starved ⟨rfl, none⟩
              | false => exact fromTried ⟨rfl, counted, Or.inl none⟩
        have used := used_of_newCount inv some
        rw [if_neg fromTried, if_neg used] at failed
        have found := new_isSome inv.core drawn used 50000 (by decide)
        rw [failed] at found
        cases found

end

end Discovery
end DigGossip
