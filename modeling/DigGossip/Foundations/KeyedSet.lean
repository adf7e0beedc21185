import DigGossip.Foundations.FiniteMap

namespace DigGossip
namespace Foundations

/-!
# Sets whose members are equal by a key

A hash set knows its members by their equality alone.  When two values are equal
as soon as they agree in a key, the set holds one value of each key: what is
inserted beside an equal value is dropped, and what is looked up is found by any
value that is equal to it.
-/

/-- A set of values under their keys. -/
structure KeyedSet {K V : Type} [DecidableEq K] (keyOf : V -> K) where
  rows : FiniteMap K V
  keyed : forall key value, rows.lookup key = some value -> keyOf value = key

namespace KeyedSet

variable {K V : Type} [DecidableEq K] {keyOf : V -> K}

def empty : KeyedSet keyOf where
  rows := ∅
  keyed := fun key value found => by
    rw [Finmap.lookup_empty] at found
    cases found

/-- Inserting beside an equal value changes nothing. -/
def insert (set : KeyedSet keyOf) (value : V) : Bool × KeyedSet keyOf :=
  if (set.rows.lookup (keyOf value)).isSome then (false, set)
  else (true, {
    rows := set.rows.insert (keyOf value) value
    keyed := fun key other found => by
      rcases FiniteMap.of_lookup_insert found with ⟨same, rfl⟩ | ⟨_, found⟩
      · exact same.symm
      · exact set.keyed key other found })

/-- What is taken out is the member that equals the given value. -/
def take (set : KeyedSet keyOf) (equal : V) : Option V × KeyedSet keyOf :=
  (set.rows.lookup (keyOf equal), {
    rows := set.rows.erase (keyOf equal)
    keyed := fun key other found => set.keyed key other (FiniteMap.of_lookup_erase found).2 })

def remove (set : KeyedSet keyOf) (equal : V) : Bool × KeyedSet keyOf :=
  ((set.take equal).1.isSome, (set.take equal).2)

instance instMembership : Membership V (KeyedSet keyOf) where
  mem set value := set.rows.lookup (keyOf value) = some value

/-- The members in an order in which the set is gone through. -/
def values (set : KeyedSet keyOf) (order : FiniteMap.Traversal set.rows) : List V :=
  order.keys.filterMap set.rows.lookup

theorem mem_iff {set : KeyedSet keyOf} {value : V} :
    value ∈ set ↔ set.rows.lookup (keyOf value) = some value :=
  Iff.rfl

theorem mem_of_lookup {set : KeyedSet keyOf} {key : K} {value : V}
    (found : set.rows.lookup key = some value) : value ∈ set := by
  rw [mem_iff, set.keyed key value found]
  exact found

/-- Members that are equal by their key are the same. -/
theorem eq_of_mem {set : KeyedSet keyOf} {first second : V} (left : first ∈ set)
    (right : second ∈ set) (equal : keyOf first = keyOf second) : first = second := by
  rw [mem_iff] at left right
  rw [equal, right] at left
  exact (Option.some.inj left).symm

theorem mem_values {set : KeyedSet keyOf} {order : FiniteMap.Traversal set.rows} {value : V} :
    value ∈ set.values order ↔ value ∈ set := by
  unfold values
  rw [List.mem_filterMap]
  constructor
  · rintro ⟨key, _, found⟩
    exact mem_of_lookup found
  · intro member
    refine ⟨keyOf value, (order.complete _).mpr ?_, member⟩
    rw [mem_iff.mp member]
    rfl

theorem nodup_values (set : KeyedSet keyOf) (order : FiniteMap.Traversal set.rows) :
    (set.values order).Nodup := by
  apply order.distinct.filterMap
  intro first second value left right
  exact (set.keyed first value left).symm.trans (set.keyed second value right)

/-- An insertion writes a row where there is none. -/
theorem lookup_insert (set : KeyedSet keyOf) (value : V) (key : K) :
    (set.insert value).2.rows.lookup key =
      if key = keyOf value then some ((set.rows.lookup (keyOf value)).getD value)
      else set.rows.lookup key := by
  unfold insert
  by_cases same : key = keyOf value
  · subst same
    rw [if_pos rfl]
    cases found : set.rows.lookup (keyOf value) with
    | some held => exact found
    | none => exact Finmap.lookup_insert set.rows
  · rw [if_neg same]
    split
    · rfl
    · exact Finmap.lookup_insert_of_ne set.rows same

theorem lookup_take (set : KeyedSet keyOf) (equal : V) (key : K) :
    (set.take equal).2.rows.lookup key = if key = keyOf equal then none else set.rows.lookup key :=
  FiniteMap.lookup_erase_eq set.rows (keyOf equal) key

/-- A member that is taken out, changed beside its key and put back. -/
theorem lookup_insert_take (set : KeyedSet keyOf) {equal changed : V}
    (same : keyOf changed = keyOf equal) (key : K) :
    ((set.take equal).2.insert changed).2.rows.lookup key =
      if key = keyOf equal then some changed else set.rows.lookup key := by
  rw [lookup_insert, lookup_take, lookup_take, same, if_pos rfl]
  by_cases here : key = keyOf equal
  · rw [if_pos here, if_pos here]
    rfl
  · rw [if_neg here, if_neg here, if_neg here]

theorem insert_fst (set : KeyedSet keyOf) (value : V) :
    (set.insert value).1 = (set.rows.lookup (keyOf value)).isNone := by
  unfold insert
  cases set.rows.lookup (keyOf value) with
  | some held => rfl
  | none => rfl

theorem insert_of_isSome {set : KeyedSet keyOf} {value : V}
    (held : (set.rows.lookup (keyOf value)).isSome = true) : set.insert value = (false, set) :=
  if_pos held

end KeyedSet
end Foundations
end DigGossip
