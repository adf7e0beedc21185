import DigGossip.Foundations.FiniteMap
import Mathlib.Data.List.Nodup

namespace DigGossip
namespace Foundations

universe u v w

/-!
# Rows by index

A table is frozen by listing its keys and replacing each key by its index.
These are the facts about lists that make freezing and thawing inverse: a
traversal that never fails acts entry by entry, and a table rebuilt from a
list of pairs with distinct keys has exactly those pairs.
-/

/-! ## Traversals that may fail -/

section Traversal

variable {A : Type u} {B : Type u}

/-- A traversal succeeds when every entry does. -/
theorem mapM_succeeds {f : A -> Option B} {items : List A}
    (all : ∀ item ∈ items, (f item).isSome) : exists results, items.mapM f = some results := by
  induction items with
  | nil => exact ⟨[], rfl⟩
  | cons item items ih =>
      rcases ih fun other member => all other (List.mem_cons_of_mem item member) with
        ⟨results, done⟩
      rcases Option.isSome_iff_exists.mp (all item List.mem_cons_self) with ⟨result, first⟩
      refine ⟨result :: results, ?_⟩
      simp [List.mapM_cons, first, done]

/-- A successful traversal relates the lists entry by entry. -/
theorem getElem?_of_mapM {f : A -> Option B} {items : List A} :
    forall {results : List B}, items.mapM f = some results ->
      results.length = items.length ∧ forall index : Nat, results[index]? = items[index]?.bind f := by
  induction items with
  | nil =>
      intro results done
      rw [List.mapM_nil] at done
      cases done
      exact ⟨rfl, fun _ => rfl⟩
  | cons item items ih =>
      intro results done
      simp only [List.mapM_cons, Option.bind_eq_bind, Option.pure_def, Option.bind_eq_some_iff,
        Option.some.injEq] at done
      rcases done with ⟨result, first, rest, traversed, same⟩
      subst same
      rcases ih traversed with ⟨sameLength, entries⟩
      refine ⟨congrArg Nat.succ sameLength, fun index => ?_⟩
      cases index with
      | zero => exact first.symm
      | succ index => exact entries index

/-- A traversal of the indices below a bound lists what each index gives. -/
theorem mapM_finRange {B : Type} {count : Nat} {f : Fin count -> Option B}
    (succeeds : forall index, (f index).isSome) :
    exists results, (List.finRange count).mapM f = some results ∧ results.length = count ∧
      forall index : Fin count, results[index.val]? = f index := by
  have each : ∀ index ∈ List.finRange count, (f index).isSome := fun index _ => succeeds index
  rcases mapM_succeeds each with ⟨results, traversed⟩
  rcases getElem?_of_mapM traversed with ⟨length, entries⟩
  rw [List.length_finRange] at length
  refine ⟨results, traversed, length, fun index => ?_⟩
  rw [entries, List.getElem?_eq_getElem (by simp), Option.bind_some]
  simp

/-- A traversal of a grid gives its rows, and each row its cells. -/
theorem mapM_grid {B : Type} {rows columns : Nat} {f : Fin rows -> Fin columns -> Option B}
    (succeeds : forall row column, (f row column).isSome) :
    exists table, ((List.finRange rows).mapM fun row => (List.finRange columns).mapM (f row)) =
        some table ∧ table.length = rows ∧
      forall row : Fin rows, exists entries, table[row.val]? = some entries ∧
        entries.length = columns ∧
        forall column : Fin columns, entries[column.val]? = f row column := by
  have each := fun row => mapM_finRange (succeeds row)
  rcases mapM_finRange fun row => Option.isSome_iff_exists.mpr ((each row).imp fun _ => And.left)
    with ⟨table, traversed, length, tableRows⟩
  refine ⟨table, traversed, length, fun row => ?_⟩
  rcases each row with ⟨entries, rowTraversed, width, cells⟩
  exact ⟨entries, (tableRows row).trans rowTraversed, width, cells⟩

theorem isSome_of_mapM {f : A -> Option B} {items : List A} {results : List B}
    (done : items.mapM f = some results) {item : A} (member : item ∈ items) : (f item).isSome := by
  rcases getElem?_of_mapM done with ⟨sameLength, entries⟩
  rcases List.mem_iff_getElem.mp member with ⟨index, inside, here⟩
  have entry := entries index
  rw [List.getElem?_eq_getElem inside, Option.bind_some, here,
    List.getElem?_eq_getElem (sameLength ▸ inside)] at entry
  rw [← entry]
  rfl

/-- Filtering entries that are all there moves no index. -/
theorem getElem?_filterMap {f : A -> Option B} {items : List A}
    (all : ∀ item ∈ items, (f item).isSome) :
    (items.filterMap f).length = items.length ∧
      forall index : Nat, (items.filterMap f)[index]? = items[index]?.bind f := by
  induction items with
  | nil => exact ⟨rfl, fun _ => rfl⟩
  | cons item items ih =>
      rcases ih fun other member => all other (List.mem_cons_of_mem item member) with
        ⟨sameLength, entries⟩
      rcases Option.isSome_iff_exists.mp (all item List.mem_cons_self) with ⟨result, first⟩
      rw [List.filterMap_cons_some first]
      refine ⟨congrArg Nat.succ sameLength, fun index => ?_⟩
      cases index with
      | zero => exact first.symm
      | succ index => exact entries index

end Traversal

/-! ## Tables rebuilt from pairs -/

section Rebuilt

variable {A : Type u} {K : Type v} {V : Type w} [DecidableEq K]

/-- The table that results from inserting one row for each item in turn. -/
def insertAll (key : A -> K) (value : A -> V) (items : List A) (table : FiniteMap K V) :
    FiniteMap K V :=
  items.foldl (fun table item => table.insert (key item) (value item)) table

variable {key : A -> K} {value : A -> V}

theorem insertAll_of_notMem {items : List A} {wanted : K} (absent : wanted ∉ items.map key) :
    forall table : FiniteMap K V, (insertAll key value items table).lookup wanted = table.lookup wanted := by
  induction items with
  | nil => exact fun _ => rfl
  | cons item items ih =>
      intro table
      rw [List.map_cons, List.mem_cons, not_or] at absent
      show (insertAll key value items _).lookup wanted = _
      rw [ih absent.2, FiniteMap.lookup_insert_eq, if_neg absent.1]

variable (key value) in
/-- With distinct keys every item keeps its row. -/
theorem insertAll_of_mem {items : List A} (distinct : (items.map key).Nodup) {item : A}
    (member : item ∈ items) :
    forall table : FiniteMap K V, (insertAll key value items table).lookup (key item) = some (value item) := by
  induction items with
  | nil => cases member
  | cons first items ih =>
      intro table
      rw [List.map_cons, List.nodup_cons] at distinct
      show (insertAll key value items _).lookup (key item) = _
      rcases List.mem_cons.mp member with same | later
      · subst same
        rw [insertAll_of_notMem distinct.1, FiniteMap.lookup_insert_eq, if_pos rfl]
      · exact ih distinct.2 later _

/-- Every row of a rebuilt table comes from an item. -/
theorem exists_of_insertAll {items : List A} {wanted : K} {found : V}
    (present : (insertAll key value items ∅).lookup wanted = some found) :
    wanted ∈ items.map key := by
  by_contra absent
  rw [insertAll_of_notMem absent, Finmap.lookup_empty] at present
  cases present

theorem keys_insertAll (items : List A) :
    forall table : FiniteMap K V,
      (insertAll key value items table).keys = table.keys ∪ (items.map key).toFinset := by
  induction items with
  | nil => exact fun table => (Finset.union_empty _).symm
  | cons first items ih =>
      intro table
      show (insertAll key value items _).keys = _
      rw [ih, FiniteMap.keys_insert, List.map_cons, List.toFinset_cons, Finset.insert_union,
        Finset.union_insert]

/-- Distinct rows that are not there yet add up. -/
theorem countWhere_insertAll (test : K -> V -> Bool) {items : List A}
    (distinct : (items.map key).Nodup) :
    forall table : FiniteMap K V, (∀ item ∈ items, table.lookup (key item) = none) ->
      FiniteMap.countWhere (insertAll key value items table) test =
        FiniteMap.countWhere table test + items.countP fun item => test (key item) (value item) := by
  induction items with
  | nil => exact fun _ _ => rfl
  | cons first items ih =>
      intro table fresh
      rw [List.map_cons, List.nodup_cons] at distinct
      have others : ∀ item ∈ items,
          (table.insert (key first) (value first)).lookup (key item) = none := by
        intro item member
        have different : key item ≠ key first := fun same =>
          distinct.1 (same ▸ List.mem_map_of_mem member)
        rw [FiniteMap.lookup_insert_eq, if_neg different]
        exact fresh item (List.mem_cons_of_mem first member)
      have one := FiniteMap.countWhere_insert table test (key first) (value first)
      rw [fresh first List.mem_cons_self, FiniteMap.weight_none, FiniteMap.weight_some,
        Nat.add_zero] at one
      show FiniteMap.countWhere (insertAll key value items _) test = _
      rw [ih distinct.2 _ others, one, List.countP_cons]
      omega

end Rebuilt

/-! ## Pointers back into an order -/

section Pointers

variable {K : Type u} {V : Type v} [DecidableEq K]

/-- The pass that tells every listed row its index, starting at `offset`. -/
def pointFrom (point : Nat -> V -> V) (order : List K) (offset : Nat) (table : FiniteMap K V) :
    FiniteMap K V :=
  (order.zipIdx offset).foldl (fun table entry => FiniteMap.adjust table entry.1 (point entry.2)) table

/-- In an order without repetitions the index of an entry is its only place. -/
theorem idxOf?_eq_some_iff_of_nodup {order : List K} (distinct : order.Nodup)
    {wanted : K} {index : Nat} : order.idxOf? wanted = some index ↔ order[index]? = some wanted := by
  constructor
  · intro found
    rcases List.idxOf?_eq_some_iff.mp found with ⟨inside, here, _⟩
    rw [List.getElem?_eq_getElem inside, here]
  · intro here
    have member := List.mem_of_getElem? here
    rcases Option.isSome_iff_exists.mp (List.isSome_idxOf?.mpr member) with ⟨first, found⟩
    rcases List.idxOf?_eq_some_iff.mp found with ⟨inside, atFirst, _⟩
    have again : order[first]? = some wanted := by
      rw [List.getElem?_eq_getElem inside, atFirst]
    rw [found, (List.getElem?_inj inside distinct).mp (again.trans here.symm)]

/-- In an order without repetitions every row learns its own index. -/
theorem lookup_pointFrom (point : Nat -> V -> V) {order : List K} (distinct : order.Nodup)
    (wanted : K) :
    forall (offset : Nat) (table : FiniteMap K V),
      (pointFrom point order offset table).lookup wanted =
        match order.idxOf? wanted with
        | some index => (table.lookup wanted).map (point (offset + index))
        | none => table.lookup wanted := by
  induction order with
  | nil => exact fun _ _ => rfl
  | cons first order ih =>
      intro offset table
      rw [List.nodup_cons] at distinct
      show (pointFrom point order (offset + 1) _).lookup wanted = _
      rw [ih distinct.2, List.idxOf?_cons]
      by_cases same : first = wanted
      · subst same
        have gone : order.idxOf? first = none := List.idxOf?_eq_none_iff.mpr distinct.1
        simp [gone]
      · rw [FiniteMap.lookup_adjust_eq, if_neg (Ne.symm same)]
        have different : (first == wanted) = false := beq_false_of_ne same
        rw [different]
        cases order.idxOf? wanted with
        | none => rfl
        | some index =>
            show (table.lookup wanted).map (point (offset + 1 + index)) =
              (table.lookup wanted).map (point (offset + (index + 1)))
            rw [Nat.add_assoc, Nat.add_comm 1 index]

end Pointers

end Foundations
end DigGossip
