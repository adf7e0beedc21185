import Mathlib.Data.Finmap
import Mathlib.Algebra.GroupWithZero.Nat
import Mathlib.Data.Finset.Card
import Mathlib.Algebra.BigOperators.Group.Finset.Piecewise
import Mathlib.Algebra.Order.BigOperators.Group.Finset

namespace DigGossip
namespace Foundations

universe u v

variable {K : Type u} {V : Type v} [DecidableEq K]

/-!
# Counting and adjusting the rows of a finite map

A bounded map is usually guarded by counts: the number of rows satisfying a
test is compared with a cap before a row is inserted.  The laws below say how
such a count moves under insertion, replacement and removal, whatever the key
and value types are.  Replacement needs the old row's contribution, so every
law is an additive equation between two counts and the two rows involved.
-/

/-- Maps from keys to values, with extensional equality. -/
abbrev FiniteMap (K : Type u) (V : Type v) := Finmap (fun _ : K => V)

namespace FiniteMap

/-- Apply a function to the row of one key, when the key has a row. -/
def adjust (table : FiniteMap K V) (key : K) (change : V -> V) : FiniteMap K V :=
  match table.lookup key with
  | some value => table.insert key (change value)
  | none => table

@[simp] theorem lookup_insert_eq (table : FiniteMap K V) (key other : K) (value : V) :
    (table.insert key value).lookup other = if other = key then some value else table.lookup other := by
  by_cases same : other = key
  · subst same
    rw [if_pos rfl, Finmap.lookup_insert]
  · rw [if_neg same, Finmap.lookup_insert_of_ne table same]

@[simp] theorem lookup_erase_eq (table : FiniteMap K V) (key other : K) :
    (table.erase key).lookup other = if other = key then none else table.lookup other := by
  by_cases same : other = key
  · subst same
    rw [if_pos rfl, Finmap.lookup_erase]
  · rw [if_neg same, Finmap.lookup_erase_ne same]

/-- A row found after an insertion is the inserted one or an old one. -/
theorem of_lookup_insert {table : FiniteMap K V} {key other : K} {value seen : V}
    (found : (table.insert key value).lookup other = some seen) :
    other = key ∧ value = seen ∨ other ≠ key ∧ table.lookup other = some seen := by
  rw [lookup_insert_eq] at found
  by_cases same : other = key
  · rw [if_pos same] at found
    exact Or.inl ⟨same, Option.some.inj found⟩
  · rw [if_neg same] at found
    exact Or.inr ⟨same, found⟩

/-- Writing a row of a key that has one brings in no new key. -/
theorem forall_key_insert {holds : K -> Prop} {table : FiniteMap K V} {key : K} {old value : V}
    (found : table.lookup key = some old)
    (before : forall other seen, table.lookup other = some seen -> holds other) :
    forall other seen, (table.insert key value).lookup other = some seen -> holds other := by
  intro other seen present
  rcases of_lookup_insert present with ⟨rfl, _⟩ | ⟨_, present⟩
  · exact before other old found
  · exact before other seen present

theorem of_lookup_erase {table : FiniteMap K V} {key other : K} {seen : V}
    (found : (table.erase key).lookup other = some seen) :
    other ≠ key ∧ table.lookup other = some seen := by
  rw [lookup_erase_eq] at found
  by_cases same : other = key
  · rw [if_pos same] at found
    cases found
  · rw [if_neg same] at found
    exact ⟨same, found⟩

@[simp] theorem lookup_adjust_eq (table : FiniteMap K V) (key other : K) (change : V -> V) :
    (adjust table key change).lookup other =
      if other = key then (table.lookup key).map change else table.lookup other := by
  unfold adjust
  cases found : table.lookup key with
  | some value => simp
  | none =>
      by_cases same : other = key
      · rw [if_pos same, same, found]
        rfl
      · rw [if_neg same]

theorem adjust_of_lookup {table : FiniteMap K V} {key : K} {value : V}
    (found : table.lookup key = some value) (change : V -> V) :
    adjust table key change = table.insert key (change value) := by
  unfold adjust
  rw [found]

/-- An order in which the rows are gone through: every key, and each once. -/
structure Traversal (table : FiniteMap K V) where
  keys : List K
  distinct : keys.Nodup
  complete : forall key, key ∈ keys ↔ (table.lookup key).isSome = true

theorem mem_iff_isSome (table : FiniteMap K V) (key : K) :
    key ∈ table ↔ (table.lookup key).isSome :=
  Finmap.lookup_isSome.symm

theorem mem_of_lookup {table : FiniteMap K V} {key : K} {value : V}
    (found : table.lookup key = some value) : key ∈ table :=
  Finmap.mem_of_lookup_eq_some found

/-- Writing back the row that is already there changes nothing. -/
theorem insert_of_lookup {table : FiniteMap K V} {key : K} {value : V}
    (found : table.lookup key = some value) : table.insert key value = table := by
  apply Finmap.ext_lookup
  intro other
  rw [lookup_insert_eq]
  by_cases same : other = key
  · rw [if_pos same, same, found]
  · rw [if_neg same]

theorem insert_erase (table : FiniteMap K V) (key : K) (value : V) :
    (table.erase key).insert key value = table.insert key value := by
  apply Finmap.ext_lookup
  intro other
  rw [lookup_insert_eq, lookup_insert_eq, lookup_erase_eq]
  by_cases same : other = key
  · rw [if_pos same, if_pos same]
  · rw [if_neg same, if_neg same, if_neg same]

theorem erase_insert (table : FiniteMap K V) (key : K) (value : V) :
    (table.insert key value).erase key = table.erase key := by
  apply Finmap.ext_lookup
  intro other
  rw [lookup_erase_eq, lookup_insert_eq, lookup_erase_eq]
  by_cases same : other = key
  · rw [if_pos same, if_pos same]
  · rw [if_neg same, if_neg same, if_neg same]

theorem erase_insert_of_ne (table : FiniteMap K V) {first second : K} (different : first ≠ second)
    (value : V) :
    (table.insert second value).erase first = (table.erase first).insert second value := by
  apply Finmap.ext_lookup
  intro other
  simp only [lookup_erase_eq, lookup_insert_eq]
  by_cases same : other = first
  · subst same
    rw [if_pos rfl, if_neg different, if_pos rfl]
  · rw [if_neg same, if_neg same]

/-- The rows a test keeps. -/
def retain (table : FiniteMap K V) (keep : K -> V -> Bool) : FiniteMap K V where
  entries := table.entries.filter fun row => keep row.1 row.2
  nodupKeys := by
    rcases table with ⟨rows, distinct⟩
    induction rows using Quotient.inductionOn with
    | h rows => exact List.NodupKeys.sublist List.filter_sublist distinct

@[simp] theorem lookup_retain_eq (table : FiniteMap K V) (keep : K -> V -> Bool) (key : K) :
    (retain table keep).lookup key = (table.lookup key).filter (keep key) := by
  apply Option.ext
  intro value
  rw [<- Option.mem_def, Finmap.mem_lookup_iff, Option.filter_eq_some_iff, <- Option.mem_def,
    Finmap.mem_lookup_iff]
  exact Multiset.mem_filter

/-- The same keys, each with a function of its value. -/
def mapValues {W : Type*} (table : FiniteMap K V) (change : V -> W) : FiniteMap K W where
  entries := table.entries.map (Sigma.map id fun _ => change)
  nodupKeys := by
    rcases table with ⟨rows, distinct⟩
    induction rows using Quotient.inductionOn with
    | h rows => exact List.NodupKeys.map₂ (fun _ => change) rows distinct

@[simp] theorem lookup_mapValues {W : Type*} (table : FiniteMap K V) (change : V -> W) (key : K) :
    (mapValues table change).lookup key = (table.lookup key).map change := by
  rcases table with ⟨rows, distinct⟩
  induction rows using Quotient.inductionOn with
  | h rows => exact List.dlookup_map₂ key

/-! ## The keys -/

theorem mem_keys_iff {table : FiniteMap K V} {key : K} :
    key ∈ table.keys ↔ (table.lookup key).isSome = true := by
  rw [Finmap.mem_keys, mem_iff_isSome]

theorem not_mem_keys_iff {table : FiniteMap K V} {key : K} :
    key ∉ table.keys ↔ table.lookup key = none := by
  rw [mem_keys_iff, Bool.not_eq_true, Option.isSome_eq_false_iff, Option.isNone_iff_eq_none]

theorem keys_insert (table : FiniteMap K V) (key : K) (value : V) :
    (table.insert key value).keys = insert key table.keys := by
  ext other
  rw [mem_keys_iff, lookup_insert_eq, Finset.mem_insert, mem_keys_iff]
  by_cases same : other = key <;> simp [same]

/-! ## The number of rows passing a test -/

/-- The keys whose row passes the test. -/
def keysWhere (table : FiniteMap K V) (test : K -> V -> Bool) : Finset K :=
  table.keys.filter fun key => (table.lookup key).any (test key)

/-- How many rows pass the test. -/
def countWhere (table : FiniteMap K V) (test : K -> V -> Bool) : Nat :=
  (keysWhere table test).card

/-- One row's contribution to a count. -/
def weight (test : K -> V -> Bool) (key : K) (row : Option V) : Nat :=
  if row.any (test key) then 1 else 0

theorem mem_keysWhere {table : FiniteMap K V} {test : K -> V -> Bool} {key : K} :
    key ∈ keysWhere table test ↔ exists value, table.lookup key = some value ∧ test key value = true := by
  unfold keysWhere
  rw [Finset.mem_filter, Finmap.mem_keys]
  constructor
  · rintro ⟨_, passes⟩
    cases found : table.lookup key with
    | none => simp [found] at passes
    | some value => exact ⟨value, rfl, by simpa [found] using passes⟩
  · rintro ⟨value, found, passes⟩
    exact ⟨mem_of_lookup found, by simpa [found] using passes⟩

/-- What is retained is what the complementary test does not select. -/
theorem keys_retain (table : FiniteMap K V) (drop : K -> V -> Bool) :
    (retain table fun key value => !drop key value).keys = table.keys \ keysWhere table drop := by
  ext key
  rw [mem_keys_iff, lookup_retain_eq, Finset.mem_sdiff, mem_keys_iff, mem_keysWhere]
  cases table.lookup key with
  | none => simp
  | some value => cases dropped : drop key value <;> simp [dropped]

theorem keysWhere_insert (table : FiniteMap K V) (test : K -> V -> Bool) (key : K) (value : V) :
    keysWhere (table.insert key value) test =
      if test key value then insert key ((keysWhere table test).erase key)
      else (keysWhere table test).erase key := by
  ext other
  rw [mem_keysWhere, lookup_insert_eq]
  by_cases same : other = key
  · subst same
    cases passes : test other value <;> simp [passes]
  · cases test key value <;> simp [same, mem_keysWhere]

theorem keysWhere_erase (table : FiniteMap K V) (test : K -> V -> Bool) (key : K) :
    keysWhere (table.erase key) test = (keysWhere table test).erase key := by
  ext other
  rw [mem_keysWhere, lookup_erase_eq, Finset.mem_erase, mem_keysWhere]
  by_cases same : other = key <;> simp [same]

theorem card_erase_keysWhere (table : FiniteMap K V) (test : K -> V -> Bool) (key : K) :
    ((keysWhere table test).erase key).card + weight test key (table.lookup key) =
      countWhere table test := by
  unfold weight countWhere
  by_cases member : key ∈ keysWhere table test
  · rcases mem_keysWhere.mp member with ⟨value, found, passes⟩
    have counted := Finset.card_erase_add_one member
    simp only [found, Option.any_some, passes, if_true]
    exact counted
  · rw [Finset.erase_eq_of_notMem member]
    have absent : (table.lookup key).any (test key) = false := by
      cases found : table.lookup key with
      | none => rfl
      | some value =>
          cases passes : test key value with
          | false => simpa using passes
          | true => exact absurd (mem_keysWhere.mpr ⟨value, found, passes⟩) member
    simp [absent]

/-- Inserting a row exchanges the old row's contribution for the new one's. -/
theorem countWhere_insert (table : FiniteMap K V) (test : K -> V -> Bool) (key : K) (value : V) :
    countWhere (table.insert key value) test + weight test key (table.lookup key) =
      countWhere table test + weight test key (some value) := by
  have old := card_erase_keysWhere table test key
  unfold countWhere at old ⊢
  rw [keysWhere_insert]
  cases passes : test key value with
  | false =>
      simp only [Bool.false_eq_true, if_false, weight, Option.any_some, passes] at old ⊢
      omega
  | true =>
      have fresh : key ∉ (keysWhere table test).erase key := Finset.notMem_erase _ _
      simp only [if_true, weight, Option.any_some, passes] at old ⊢
      rw [Finset.card_insert_of_notMem fresh]
      omega

/-- A row that passes as the one before it did leaves the count alone. -/
theorem countWhere_insert_of_same {table : FiniteMap K V} {test : K -> V -> Bool} {key : K}
    {old value : V} (found : table.lookup key = some old) (same : test key value = test key old) :
    countWhere (table.insert key value) test = countWhere table test := by
  have exchange := countWhere_insert table test key value
  unfold weight at exchange
  rw [found, Option.any_some, Option.any_some, same] at exchange
  exact Nat.add_right_cancel exchange

/-- A cap survives an insertion that does not count, that replaces a row that
counted already, or that finds the count below the cap. -/
theorem countWhere_insert_le {table : FiniteMap K V} {test : K -> V -> Bool} {key : K} {value : V}
    {cap : Nat} (capped : countWhere table test ≤ cap)
    (charged : test key value = true ->
      (table.lookup key).any (test key) = true ∨ countWhere table test < cap) :
    countWhere (table.insert key value) test ≤ cap := by
  have exchange := countWhere_insert table test key value
  unfold weight at exchange
  cases passes : test key value with
  | false =>
      simp only [Option.any_some, passes, Bool.false_eq_true, if_false] at exchange
      omega
  | true =>
      simp only [Option.any_some, passes, if_true] at exchange
      rcases charged passes with counted | below
      · rw [if_pos counted] at exchange
        omega
      · omega

/-- Removing a row takes its contribution away. -/
theorem countWhere_erase (table : FiniteMap K V) (test : K -> V -> Bool) (key : K) :
    countWhere (table.erase key) test + weight test key (table.lookup key) =
      countWhere table test := by
  unfold countWhere
  rw [keysWhere_erase]
  exact card_erase_keysWhere table test key

theorem countWhere_empty (test : K -> V -> Bool) :
    countWhere (∅ : FiniteMap K V) test = 0 := by
  simp [countWhere, keysWhere]

omit [DecidableEq K] in
theorem weight_none (test : K -> V -> Bool) (key : K) : weight test key none = 0 := rfl

omit [DecidableEq K] in
theorem weight_some (test : K -> V -> Bool) (key : K) (value : V) :
    weight test key (some value) = if test key value then 1 else 0 := by
  simp [weight]

theorem countWhere_pos {table : FiniteMap K V} {test : K -> V -> Bool} {key : K} {value : V}
    (found : table.lookup key = some value) (passes : test key value = true) :
    0 < countWhere table test :=
  Finset.card_pos.mpr ⟨key, mem_keysWhere.mpr ⟨value, found, passes⟩⟩

theorem exists_of_countWhere_pos {table : FiniteMap K V} {test : K -> V -> Bool}
    (positive : 0 < countWhere table test) :
    exists key value, table.lookup key = some value ∧ test key value = true := by
  rcases Finset.card_pos.mp positive with ⟨key, member⟩
  exact ⟨key, mem_keysWhere.mp member⟩

theorem countWhere_eq_zero {table : FiniteMap K V} {test : K -> V -> Bool}
    (fails : forall key value, table.lookup key = some value -> test key value = false) :
    countWhere table test = 0 := by
  by_contra counted
  rcases exists_of_countWhere_pos (Nat.pos_of_ne_zero counted) with ⟨key, value, found, passes⟩
  rw [fails key value found] at passes
  cases passes

/-- Two rows that pass are counted twice. -/
theorem countWhere_two {table : FiniteMap K V} {test : K -> V -> Bool} {first second : K}
    {left right : V} (different : first ≠ second) (atFirst : table.lookup first = some left)
    (atSecond : table.lookup second = some right) (firstPasses : test first left = true)
    (secondPasses : test second right = true) : 2 ≤ countWhere table test := by
  have without := countWhere_erase table test first
  rw [atFirst, weight_some, if_pos firstPasses] at without
  have still : (table.erase first).lookup second = some right := by
    rw [lookup_erase_eq, if_neg (Ne.symm different)]
    exact atSecond
  have positive := countWhere_pos still secondPasses
  omega

theorem countWhere_three {table : FiniteMap K V} {test : K -> V -> Bool} {first second third : K}
    {left middle right : V} (apart : first ≠ second) (beyond : first ≠ third)
    (different : second ≠ third) (atFirst : table.lookup first = some left)
    (atSecond : table.lookup second = some middle) (atThird : table.lookup third = some right)
    (firstPasses : test first left = true) (secondPasses : test second middle = true)
    (thirdPasses : test third right = true) : 3 ≤ countWhere table test := by
  have without := countWhere_erase table test first
  rw [atFirst, weight_some, if_pos firstPasses] at without
  have stillSecond : (table.erase first).lookup second = some middle := by
    rw [lookup_erase_eq, if_neg (Ne.symm apart)]
    exact atSecond
  have stillThird : (table.erase first).lookup third = some right := by
    rw [lookup_erase_eq, if_neg (Ne.symm beyond)]
    exact atThird
  have two := countWhere_two different stillSecond stillThird secondPasses thirdPasses
  omega

/-- Counts depend only on which rows pass. -/
theorem countWhere_congr {left right : FiniteMap K V} {first second : K -> V -> Bool}
    (agree : forall key, (left.lookup key).any (first key) = (right.lookup key).any (second key)) :
    countWhere left first = countWhere right second := by
  unfold countWhere
  congr 1
  ext key
  simp only [keysWhere, Finset.mem_filter, Finmap.mem_keys, mem_iff_isSome, agree key]
  constructor
  · rintro ⟨_, passes⟩
    refine ⟨?_, passes⟩
    cases found : right.lookup key with
    | none => simp [found] at passes
    | some value => rfl
  · rintro ⟨_, passes⟩
    refine ⟨?_, passes⟩
    have passes := (agree key).trans passes
    cases found : left.lookup key with
    | none => simp [found] at passes
    | some value => rfl

/-- Counting the other keys' rows leaves one row's contribution out. -/
theorem countWhere_others (table : FiniteMap K V) (test : K -> V -> Bool) (key : K) :
    (countWhere table fun other value => decide (other ≠ key) && test other value) +
      weight test key (table.lookup key) = countWhere table test := by
  rw [<- countWhere_erase table test key]
  congr 1
  apply countWhere_congr
  intro other
  rw [lookup_erase_eq]
  by_cases same : other = key
  · subst same
    cases table.lookup other <;> simp
  · simp [same]

theorem countWhere_eq_sum (table : FiniteMap K V) (test : K -> V -> Bool) :
    countWhere table test = ∑ key ∈ table.keys, weight test key (table.lookup key) := by
  rw [countWhere, keysWhere, Finset.card_filter]
  rfl

/-- Two pairs of tests that weigh every row alike count alike. -/
theorem countWhere_add {table : FiniteMap K V} {first second third fourth : K -> V -> Bool}
    (balance : forall key value, table.lookup key = some value ->
      weight first key (some value) + weight second key (some value) =
        weight third key (some value) + weight fourth key (some value)) :
    countWhere table first + countWhere table second =
      countWhere table third + countWhere table fourth := by
  simp only [countWhere_eq_sum, <- Finset.sum_add_distrib]
  apply Finset.sum_congr rfl
  intro key member
  rcases Finmap.mem_iff.mp (Finmap.mem_keys.mp member) with ⟨value, found⟩
  rw [found]
  exact balance key value found

/-! ## The number of rows -/

def size (table : FiniteMap K V) : Nat :=
  table.keys.card

theorem size_eq_countWhere (table : FiniteMap K V) :
    size table = countWhere table fun _ _ => true := by
  unfold size countWhere keysWhere
  congr 1
  ext key
  rw [Finset.mem_filter, Finmap.mem_keys, mem_iff_isSome]
  cases table.lookup key <;> simp

theorem size_insert_of_lookup {table : FiniteMap K V} {key : K} {old : V}
    (found : table.lookup key = some old) (value : V) : size (table.insert key value) = size table := by
  rw [size_eq_countWhere, size_eq_countWhere]
  exact countWhere_insert_of_same found rfl

theorem size_insert_of_none {table : FiniteMap K V} {key : K} (fresh : table.lookup key = none)
    (value : V) : size (table.insert key value) = size table + 1 := by
  have exchange := countWhere_insert table (fun _ _ => true) key value
  rw [fresh, weight_none, weight_some, <- size_eq_countWhere, <- size_eq_countWhere] at exchange
  simpa using exchange

theorem size_erase_of_lookup {table : FiniteMap K V} {key : K} {old : V}
    (found : table.lookup key = some old) : size (table.erase key) + 1 = size table := by
  have exchange := countWhere_erase table (fun _ _ => true) key
  rw [found, weight_some, <- size_eq_countWhere, <- size_eq_countWhere] at exchange
  simpa using exchange

/-! ## The sum of a measure -/

/-- The measure of every row, added up. -/
def total (table : FiniteMap K V) (measure : V -> Nat) : Nat :=
  ∑ key ∈ table.keys, ((table.lookup key).map measure).getD 0

@[simp] theorem total_empty (measure : V -> Nat) : total (∅ : FiniteMap K V) measure = 0 := by
  rw [total, Finmap.keys_empty, Finset.sum_empty]

theorem total_insert_of_none {table : FiniteMap K V} {key : K} (fresh : table.lookup key = none)
    (value : V) (measure : V -> Nat) :
    total (table.insert key value) measure = total table measure + measure value := by
  unfold total
  rw [keys_insert, Finset.sum_insert (not_mem_keys_iff.mpr fresh), Finmap.lookup_insert,
    Nat.add_comm]
  congr 1
  apply Finset.sum_congr rfl
  intro other member
  have different : other ≠ key := by
    rintro rfl
    exact not_mem_keys_iff.mpr fresh member
  rw [lookup_insert_eq, if_neg different]

theorem total_erase_of_lookup {table : FiniteMap K V} {key : K} {value : V}
    (found : table.lookup key = some value) (measure : V -> Nat) :
    total (table.erase key) measure + measure value = total table measure := by
  have fresh : (table.erase key).lookup key = none := Finmap.lookup_erase key table
  rw [<- total_insert_of_none fresh, insert_erase, insert_of_lookup found]

/-- The measure of a list, read off its numbers. -/
theorem sum_range_getElem? (values : List V) (measure : V -> Nat) :
    ∑ number ∈ Finset.range values.length, (values[number]?.map measure).getD 0 =
      (values.map measure).sum := by
  induction values with
  | nil => rfl
  | cons value values inner =>
      rw [List.length_cons, Finset.sum_range_succ', List.map_cons, List.sum_cons, Nat.add_comm]
      exact congrArg (measure value + ·) inner

/-- Rows that are numbered members of a list measure no more than the list. -/
theorem total_le_sum {table : FiniteMap K V} {number : K -> Nat}
    (distinct : Function.Injective number) {values : List V}
    (listed : forall key value, table.lookup key = some value -> values[number key]? = some value)
    (measure : V -> Nat) : total table measure ≤ (values.map measure).sum := by
  have read : total table measure =
      ∑ key ∈ table.keys, (values[number key]?.map measure).getD 0 := by
    apply Finset.sum_congr rfl
    intro key member
    rcases Option.isSome_iff_exists.mp (mem_keys_iff.mp member) with ⟨value, found⟩
    rw [found, listed key value found]
  have within : table.keys.image number ⊆ Finset.range values.length := by
    intro index member
    rcases Finset.mem_image.mp member with ⟨key, present, rfl⟩
    rcases Option.isSome_iff_exists.mp (mem_keys_iff.mp present) with ⟨value, found⟩
    exact Finset.mem_range.mpr (List.getElem?_eq_some_iff.mp (listed key value found)).1
  have moved : ∑ index ∈ table.keys.image number, (values[index]?.map measure).getD 0 =
      ∑ key ∈ table.keys, (values[number key]?.map measure).getD 0 :=
    Finset.sum_image distinct.injOn
  rw [read, <- moved, <- sum_range_getElem?]
  exact Finset.sum_le_sum_of_subset within

theorem size_eq_total (table : FiniteMap K V) : size table = total table fun _ => 1 := by
  unfold size total
  rw [Finset.card_eq_sum_ones]
  apply Finset.sum_congr rfl
  intro key member
  rcases Option.isSome_iff_exists.mp (mem_keys_iff.mp member) with ⟨value, found⟩
  rw [found]
  rfl

theorem size_le_length {table : FiniteMap K V} {number : K -> Nat}
    (distinct : Function.Injective number) {values : List V}
    (listed : forall key value, table.lookup key = some value -> values[number key]? = some value) :
    size table ≤ values.length := by
  have bound := total_le_sum distinct listed fun _ => 1
  rw [<- size_eq_total, List.map_const', List.sum_replicate] at bound
  exact bound.trans_eq (Nat.mul_one values.length)

/-! ## Sub-maps -/

/-- Every row of the first map is a row of the second. -/
def Sub (part whole : FiniteMap K V) : Prop :=
  forall key value, part.lookup key = some value -> whole.lookup key = some value

theorem Sub.refl (table : FiniteMap K V) : Sub table table := fun _ _ found => found

theorem eq_empty_of_sub {table : FiniteMap K V} (sub : Sub table ∅) : table = ∅ := by
  apply Finmap.ext_lookup
  intro key
  cases found : table.lookup key with
  | none => rw [Finmap.lookup_empty]
  | some value =>
      have none := sub key value found
      rw [Finmap.lookup_empty] at none
      cases none

theorem sub_erase (table : FiniteMap K V) (key : K) : Sub (table.erase key) table :=
  fun _ _ found => (of_lookup_erase found).2

theorem sub_retain (table : FiniteMap K V) (keep : K -> V -> Bool) :
    Sub (retain table keep) table := by
  intro key value found
  rw [lookup_retain_eq, Option.filter_eq_some_iff] at found
  exact found.1

/-- A sub-map has no more rows of any kind. -/
theorem Sub.countWhere_le {part whole : FiniteMap K V} (sub : Sub part whole)
    (test : K -> V -> Bool) : countWhere part test ≤ countWhere whole test := by
  apply Finset.card_le_card
  intro key member
  rcases mem_keysWhere.mp member with ⟨value, found, passes⟩
  exact mem_keysWhere.mpr ⟨value, sub key value found, passes⟩

theorem Sub.size_le {part whole : FiniteMap K V} (sub : Sub part whole) :
    size part ≤ size whole := by
  rw [size_eq_countWhere, size_eq_countWhere]
  exact sub.countWhere_le _

end FiniteMap
end Foundations
end DigGossip
