import Mathlib.Data.List.Nodup
import Mathlib.Data.List.Perm.Basic

namespace DigGossip
namespace Foundations

universe u

/-!
# Dense orders with back pointers

A set that must be sampled uniformly is often kept as a dense vector together
with a pointer from each member to its index.  A member is appended at the
end, and removed by exchanging it with the last entry before popping, so that
no other index moves.  `Linked` is the whole representation invariant: a key
points at an index exactly when the vector has that key at that index.
-/

/-- Every pointer leads to its key's entry and every entry is pointed at. -/
def Linked {K : Type u} (order : List K) (pointer : K -> Option Nat) : Prop :=
  forall key index, pointer key = some index ↔ order[index]? = some key

namespace Linked

variable {K : Type u} {order : List K} {pointer : K -> Option Nat}

/-- A linked order lists no key twice: both occurrences would be its pointer. -/
theorem nodup (linked : Linked order pointer) : order.Nodup := by
  rw [List.nodup_iff_getElem?_ne_getElem?]
  intro first second before inside same
  have firstEntry : order[first]? = some order[second] := by
    rw [same, List.getElem?_eq_getElem inside]
  have atFirst := (linked order[second] first).mpr firstEntry
  have atSecond := (linked order[second] second).mpr (List.getElem?_eq_getElem inside)
  rw [atFirst] at atSecond
  exact absurd (Option.some.inj atSecond) (Nat.ne_of_lt before)

theorem mem_iff (linked : Linked order pointer) (key : K) :
    key ∈ order ↔ (pointer key).isSome := by
  rw [List.mem_iff_getElem?, Option.isSome_iff_exists]
  exact exists_congr fun index => (linked key index).symm

theorem lt_length (linked : Linked order pointer) {key : K} {index : Nat}
    (points : pointer key = some index) : index < order.length :=
  (List.getElem?_eq_some_iff.mp ((linked key index).mp points)).1

/-- Two pointer maps that agree are linked to the same order. -/
theorem congr (linked : Linked order pointer) {other : K -> Option Nat}
    (agree : forall key, other key = pointer key) : Linked order other := by
  intro key index
  rw [agree key]
  exact linked key index

/-- Appending a key that had no pointer. -/
theorem push [DecidableEq K] (linked : Linked order pointer) {added : K}
    (absent : pointer added = none) :
    Linked (order ++ [added]) (fun key => if key = added then some order.length else pointer key) := by
  intro key index
  show (if key = added then some order.length else pointer key) = some index ↔ _
  by_cases same : key = added
  · subst same
    rw [if_pos rfl]
    constructor
    · intro atEnd
      have atEnd := Option.some.inj atEnd
      subst atEnd
      simp
    · intro entry
      by_cases inside : index < order.length
      · rw [List.getElem?_append_left inside] at entry
        have points := (linked key index).mpr entry
        rw [absent] at points
        cases points
      · have bound := (List.getElem?_eq_some_iff.mp entry).1
        rw [List.length_append, List.length_singleton] at bound
        congr 1
        omega
  · rw [if_neg same, linked key index]
    by_cases inside : index < order.length
    · rw [List.getElem?_append_left inside]
    · rw [List.getElem?_append_right (Nat.le_of_not_lt inside),
        List.getElem?_eq_none (Nat.le_of_not_lt inside)]
      constructor
      · intro impossible
        cases impossible
      · intro entry
        have found := List.mem_of_getElem? entry
        exact absurd (List.mem_singleton.mp found) same

/-- What is at each place once an entry is exchanged with the last one and popped. -/
theorem getElem?_exchange {index : Nat} (inside : index < order.length) (removed last : K)
    (place : Nat) :
    (((order.set index last).set (order.length - 1) removed).dropLast)[place]? =
      if place < order.length - 1 then if place = index then some last else order[place]?
      else none := by
  rw [List.getElem?_dropLast, List.length_set, List.length_set]
  by_cases within : place < order.length - 1
  · rw [if_pos within, if_pos within, List.getElem?_set_ne (Nat.ne_of_gt within)]
    by_cases here : place = index
    · rw [if_pos here, here, List.getElem?_set_self inside]
    · rw [if_neg here, List.getElem?_set_ne (Ne.symm here)]
  · rw [if_neg within, if_neg within]

/-- Exchanging an entry with the last one and popping removes its key and
redirects only the last key's pointer. -/
theorem swapRemove [DecidableEq K] (linked : Linked order pointer) {removed last : K} {index : Nat}
    (points : pointer removed = some index) (atEnd : order[order.length - 1]? = some last) :
    Linked (((order.set index last).set (order.length - 1) removed).dropLast)
      (fun key => if key = removed then none else if key = last then some index else pointer key) := by
  have inside := linked.lt_length points
  have removedEntry := (linked removed index).mp points
  have lastPoints := (linked last (order.length - 1)).mpr atEnd
  intro key place
  rw [getElem?_exchange inside]
  show (if key = removed then none else if key = last then some index else pointer key) =
    some place ↔ _
  by_cases isRemoved : key = removed
  · subst isRemoved
    rw [if_pos rfl]
    refine iff_of_false (fun none => (by cases none)) fun entry => ?_
    split at entry
    · rename_i within
      split at entry
      · rename_i here
        cases entry
        rw [points] at lastPoints
        exact absurd (here.trans (Option.some.inj lastPoints)) (Nat.ne_of_lt within)
      · rename_i elsewhere
        have found := (linked key place).mpr entry
        rw [points] at found
        exact elsewhere (Option.some.inj found).symm
    · cases entry
  · rw [if_neg isRemoved]
    by_cases isLast : key = last
    · subst isLast
      have apart : index ≠ order.length - 1 := by
        intro same
        rw [same, atEnd] at removedEntry
        exact isRemoved (Option.some.inj removedEntry)
      rw [if_pos rfl]
      constructor
      · intro same
        cases same
        rw [if_pos (by omega), if_pos rfl]
      · intro entry
        split at entry
        · rename_i within
          split at entry
          · rename_i here
            rw [here]
          · have found := (linked key place).mpr entry
            rw [lastPoints] at found
            exact absurd (Option.some.inj found).symm (Nat.ne_of_lt within)
        · cases entry
    · rw [if_neg isLast, linked key place]
      split
      · split
        · rename_i here
          rw [here, removedEntry]
          exact iff_of_false (fun same => isRemoved (Option.some.inj same).symm)
            fun same => isLast (Option.some.inj same).symm
        · exact Iff.rfl
      · rename_i beyond
        refine iff_of_false (fun entry => ?_) fun none => (by cases none)
        have bound := (List.getElem?_eq_some_iff.mp entry).1
        have lastIndex : place = order.length - 1 := by omega
        rw [lastIndex, atEnd] at entry
        exact isLast (Option.some.inj entry).symm

end Linked
end Foundations
end DigGossip
