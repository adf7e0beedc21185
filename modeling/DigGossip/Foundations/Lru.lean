import Mathlib.Data.Finset.Card
import Mathlib.Data.List.Nodup
import DigGossip.Foundations.Selection

namespace DigGossip
namespace Foundations

universe u v

/-!
# Caches that evict the key least recently put

A cache of positive capacity keeps its entries with the latest first.  A key
that is put moves to the front with its new value, and what then exceeds the
capacity is dropped from the back.  Asking for a key moves nothing.
-/

/-- The entries are of distinct keys and fit the capacity. -/
structure Lru (K : Type u) (V : Type v) where
  capacity : Nat
  entries : List (K × V)
  positive : 0 < capacity
  distinct : (entries.map Prod.fst).Nodup
  bounded : entries.length ≤ capacity

namespace Lru

variable {K : Type u} {V : Type v} [DecidableEq K]

/-- An empty cache; a capacity of zero is read as one. -/
def new (capacity : Nat) : Lru K V where
  capacity := max capacity 1
  entries := []
  positive := Nat.lt_of_lt_of_le Nat.one_pos (Nat.le_max_right capacity 1)
  distinct := List.nodup_nil
  bounded := Nat.zero_le _

/-- The entries of the other keys, in their order. -/
def others (entries : List (K × V)) (key : K) : List (K × V) :=
  entries.filter fun entry => decide (entry.1 ≠ key)

theorem distinct_cons_others {entries : List (K × V)} (distinct : (entries.map Prod.fst).Nodup)
    (key : K) (value : V) : (((key, value) :: others entries key).map Prod.fst).Nodup := by
  rw [List.map_cons, List.nodup_cons]
  constructor
  · intro member
    rcases List.mem_map.mp member with ⟨entry, kept, same⟩
    exact of_decide_eq_true (List.mem_filter.mp kept).2 same
  · exact distinct.sublist ((List.filter_sublist).map Prod.fst)

def put (cache : Lru K V) (key : K) (value : V) : Lru K V where
  capacity := cache.capacity
  entries := ((key, value) :: others cache.entries key).take cache.capacity
  positive := cache.positive
  distinct := by
    rw [List.map_take]
    exact (distinct_cons_others cache.distinct key value).sublist (List.take_sublist _ _)
  bounded := List.length_take_le _ _

def contains (cache : Lru K V) (key : K) : Bool :=
  cache.entries.any fun entry => decide (entry.1 = key)

theorem contains_iff {cache : Lru K V} {key : K} :
    cache.contains key = true ↔ key ∈ cache.entries.map Prod.fst := by
  rw [contains, List.any_eq_true, List.mem_map]
  simp only [decide_eq_true_eq]

/-- What was put last is in the cache whatever the capacity. -/
@[simp] theorem contains_put_self (cache : Lru K V) (key : K) (value : V) :
    (cache.put key value).contains key = true := by
  rw [contains_iff]
  apply List.mem_map.mpr
  refine ⟨(key, value), ?_, rfl⟩
  change (key, value) ∈ ((key, value) :: others cache.entries key).take cache.capacity
  cases size : cache.capacity with
  | zero => exact absurd size (Nat.ne_of_gt cache.positive)
  | succ capacity =>
      rw [List.take_succ_cons]
      exact List.mem_cons_self

/-! ## Runs of puts -/

/-- The keys put, without repeats, the one put last in front. -/
def recency (keys : List K) : List K :=
  keys.foldl (fun recent key => key :: recent.filter fun other => decide (other ≠ key)) []

theorem recency_concat (keys : List K) (key : K) :
    recency (keys ++ [key]) =
      key :: (recency keys).filter fun other => decide (other ≠ key) := by
  rw [recency, List.foldl_append]
  rfl

@[simp] theorem mem_recency {keys : List K} {key : K} : key ∈ recency keys ↔ key ∈ keys := by
  induction keys using List.reverseRecOn with
  | nil => exact Iff.rfl
  | append_singleton keys last inner =>
      rw [recency_concat, List.mem_cons, List.mem_filter, decide_eq_true_eq, inner,
        List.mem_append, List.mem_singleton]
      by_cases same : key = last
      · exact Iff.intro (fun _ => Or.inr same) fun _ => Or.inl same
      · constructor
        · rintro (here | ⟨earlier, _⟩)
          · exact absurd here same
          · exact Or.inl earlier
        · rintro (earlier | here)
          · exact Or.inr ⟨earlier, same⟩
          · exact absurd here same

theorem nodup_recency (keys : List K) : (recency keys).Nodup := by
  induction keys using List.reverseRecOn with
  | nil => exact List.nodup_nil
  | append_singleton keys last inner =>
      rw [recency_concat, List.nodup_cons]
      refine ⟨?_, inner.filter _⟩
      intro kept
      exact of_decide_eq_true (List.mem_filter.mp kept).2 rfl

theorem length_recency (keys : List K) : (recency keys).length = keys.toFinset.card := by
  rw [<- List.toFinset_card_of_nodup (nodup_recency keys)]
  congr 1
  apply Finset.ext
  intro key
  rw [List.mem_toFinset, List.mem_toFinset, mem_recency]

/-- In front of a key stand the keys put since. -/
theorem recency_split (before : List K) {key : K} {since : List K} (unput : key ∉ since) :
    exists rest, recency (before ++ key :: since) = recency since ++ key :: rest := by
  induction since using List.reverseRecOn with
  | nil => exact ⟨_, recency_concat before key⟩
  | append_singleton since last inner =>
      rw [List.mem_append, List.mem_singleton, not_or] at unput
      rcases inner unput.1 with ⟨rest, split⟩
      refine ⟨rest.filter fun other => decide (other ≠ last), ?_⟩
      have longer : before ++ key :: (since ++ [last]) = (before ++ key :: since) ++ [last] := by
        rw [List.append_assoc]
        rfl
      rw [longer, recency_concat, recency_concat, split, List.filter_append,
        List.filter_cons_of_pos (by simpa using unput.2)]
      rfl

/-- Dropping one key of a cut list is cutting the list without the key one shorter. -/
theorem take_filter_take {keys : List K} (distinct : keys.Nodup) (key : K) (count : Nat) :
    ((keys.take (count + 1)).filter fun other => decide (other ≠ key)).take count =
      (keys.filter fun other => decide (other ≠ key)).take count := by
  induction keys generalizing count with
  | nil => rfl
  | cons first keys inner =>
      rw [List.nodup_cons] at distinct
      rw [List.take_succ_cons]
      by_cases same : first = key
      · have absent : forall other, other ∈ keys -> decide (other ≠ key) = true := by
          rintro other member
          refine decide_eq_true ?_
          rintro rfl
          exact distinct.1 (same ▸ member)
        rw [List.filter_cons_of_neg (by simpa using same),
          List.filter_cons_of_neg (by simpa using same), List.filter_eq_self.mpr absent,
          List.filter_eq_self.mpr fun other member => absent other (List.mem_of_mem_take member),
          List.take_take, Nat.min_self]
      · rw [List.filter_cons_of_pos (by simpa using same),
          List.filter_cons_of_pos (by simpa using same)]
        cases count with
        | zero => rfl
        | succ count => rw [List.take_succ_cons, List.take_succ_cons, inner distinct.2 count]

def putAll (cache : Lru K V) (puts : List (K × V)) : Lru K V :=
  puts.foldl (fun cache entry => cache.put entry.1 entry.2) cache

theorem putAll_append (cache : Lru K V) (puts later : List (K × V)) :
    cache.putAll (puts ++ later) = (cache.putAll puts).putAll later :=
  List.foldl_append

theorem putAll_concat (cache : Lru K V) (puts : List (K × V)) (key : K) (value : V) :
    cache.putAll (puts ++ [(key, value)]) = (cache.putAll puts).put key value :=
  putAll_append cache puts [(key, value)]

theorem capacity_putAll (cache : Lru K V) (puts : List (K × V)) :
    (cache.putAll puts).capacity = cache.capacity := by
  induction puts using List.reverseRecOn with
  | nil => rfl
  | append_singleton puts last inner =>
      rw [putAll_concat]
      exact inner

/-- A cache filled from empty holds the keys put most recently, as many as fit. -/
theorem keys_putAll_new (capacity : Nat) (puts : List (K × V)) :
    (((new capacity : Lru K V).putAll puts).entries.map Prod.fst) =
      (recency (puts.map Prod.fst)).take (max capacity 1) := by
  induction puts using List.reverseRecOn with
  | nil => exact List.take_nil.symm
  | append_singleton puts last inner =>
      rcases last with ⟨key, value⟩
      have others_keys : forall entries : List (K × V), (others entries key).map Prod.fst =
          (entries.map Prod.fst).filter fun other => decide (other ≠ key) := by
        intro entries
        rw [others, List.filter_map]
        rfl
      rw [putAll_concat, List.map_append, List.map_singleton, recency_concat, put]
      dsimp only
      rw [capacity_putAll, List.map_take, List.map_cons, others_keys, inner]
      change List.take (max capacity 1) _ = _
      cases size : max capacity 1 with
      | zero => omega
      | succ count =>
          rw [List.take_succ_cons, List.take_succ_cons,
            take_filter_take (nodup_recency _) key count]

/-- A key is found exactly when it was put and fewer other keys than fit have
been put since. -/
theorem contains_putAll_new_iff {capacity : Nat} {puts : List (K × V)} {key : K} :
    ((new capacity : Lru K V).putAll puts).contains key = true ↔
      exists before since, puts.map Prod.fst = before ++ key :: since ∧ key ∉ since ∧
        since.toFinset.card < max capacity 1 := by
  rw [contains_iff, keys_putAll_new]
  constructor
  · intro held
    rcases exists_last_split (mem_recency.mp (List.mem_of_mem_take held)) with
      ⟨before, since, split, unput⟩
    refine ⟨before, since, split, unput, ?_⟩
    rcases recency_split before unput with ⟨rest, recent⟩
    by_contra full
    rw [split, recent, List.take_append_of_le_length
      (by rw [length_recency]; exact Nat.le_of_not_lt full)] at held
    exact unput (mem_recency.mp (List.mem_of_mem_take held))
  · rintro ⟨before, since, split, unput, fewer⟩
    rcases recency_split before unput with ⟨rest, recent⟩
    rw [<- length_recency] at fewer
    rw [split, recent]
    apply List.mem_of_getElem? (i := (recency since).length)
    rw [List.getElem?_take_of_lt fewer, List.getElem?_append_right (Nat.le_refl _),
      Nat.sub_self]
    rfl

end Lru

end Foundations
end DigGossip
