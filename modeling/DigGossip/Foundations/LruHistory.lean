import Mathlib.Data.List.Infix
import DigGossip.Foundations.Lru

namespace DigGossip
namespace Foundations

universe u v

/-!
# Caches whose keys are asked for and dropped

Asking for a key moves it to the front, and a key may be taken out.  A key is then
touched or dropped by each call that mentions it.  It is held as long as it was not
dropped since it was last touched, and at no moment since then as many other keys
were live as the cache has room for.
-/

namespace Lru

variable {K : Type u} {V : Type v} [DecidableEq K]

/-! ## Operations -/

def keys (cache : Lru K V) : List K :=
  cache.entries.map Prod.fst

def peek (cache : Lru K V) (key : K) : Option V :=
  (cache.entries.find? fun entry => decide (entry.1 = key)).map Prod.snd

/-- A key that is found moves to the front. -/
def get (cache : Lru K V) (key : K) : Lru K V × Option V :=
  match cache.peek key with
  | some value => (cache.put key value, some value)
  | none => (cache, none)

def pop (cache : Lru K V) (key : K) : Lru K V where
  capacity := cache.capacity
  entries := others cache.entries key
  positive := cache.positive
  distinct := cache.distinct.sublist ((List.filter_sublist).map Prod.fst)
  bounded := Nat.le_trans (List.length_filter_le _ _) cache.bounded

/-- The other keys, in their order. -/
def otherKeys (keys : List K) (key : K) : List K :=
  keys.filter fun other => decide (other ≠ key)

theorem map_fst_others (entries : List (K × V)) (key : K) :
    (others entries key).map Prod.fst = otherKeys (entries.map Prod.fst) key := by
  rw [others, otherKeys, List.filter_map]
  rfl

theorem mem_otherKeys {keys : List K} {key other : K} :
    other ∈ otherKeys keys key ↔ other ∈ keys ∧ other ≠ key := by
  rw [otherKeys, List.mem_filter, decide_eq_true_eq]

theorem keys_put (cache : Lru K V) (key : K) (value : V) :
    (cache.put key value).keys = (key :: otherKeys cache.keys key).take cache.capacity := by
  unfold keys put
  rw [List.map_take, List.map_cons, map_fst_others]

theorem keys_pop (cache : Lru K V) (key : K) : (cache.pop key).keys = otherKeys cache.keys key :=
  map_fst_others cache.entries key

theorem peek_isSome_iff {cache : Lru K V} {key : K} :
    (cache.peek key).isSome = true ↔ key ∈ cache.keys := by
  rw [peek, Option.isSome_map, List.find?_isSome, keys, List.mem_map]
  exact exists_congr fun entry => and_congr_right fun _ => decide_eq_true_iff

/-- What is found is the one entry of the key. -/
theorem peek_eq_some_iff {cache : Lru K V} {key : K} {value : V} :
    cache.peek key = some value ↔ (key, value) ∈ cache.entries := by
  rw [peek, Option.map_eq_some_iff]
  constructor
  · rintro ⟨⟨other, seen⟩, found, rfl⟩
    have same := List.find?_some found
    rw [<- of_decide_eq_true same]
    exact List.mem_of_find?_eq_some found
  · intro member
    have held : (cache.entries.find? fun entry => decide (entry.1 = key)).isSome = true :=
      List.find?_isSome.mpr ⟨(key, value), member, decide_eq_true rfl⟩
    rcases Option.isSome_iff_exists.mp held with ⟨entry, found⟩
    have same := List.find?_some found
    have one := List.inj_on_of_nodup_map cache.distinct (List.mem_of_find?_eq_some found) member
      (of_decide_eq_true same)
    exact ⟨entry, found, congrArg Prod.snd one⟩

/-- A value found after a put is the one put, or was there before. -/
theorem of_peek_put {cache : Lru K V} {key other : K} {value seen : V}
    (found : (cache.put key value).peek other = some seen) :
    other = key ∧ value = seen ∨ other ≠ key ∧ cache.peek other = some seen := by
  rw [peek_eq_some_iff] at found ⊢
  rcases List.mem_cons.mp (List.mem_of_mem_take found) with same | later
  · exact Or.inl ⟨congrArg Prod.fst same, (congrArg Prod.snd same).symm⟩
  · have kept := List.mem_filter.mp later
    exact Or.inr ⟨of_decide_eq_true kept.2, kept.1⟩

theorem of_peek_pop {cache : Lru K V} {key other : K} {seen : V}
    (found : (cache.pop key).peek other = some seen) : cache.peek other = some seen := by
  rw [peek_eq_some_iff] at found ⊢
  exact (List.mem_filter.mp found).1

/-! ## What such caches document -/

/-- The documented behaviour of a cache of this kind, its entries listed with the
one used last in front: a call moves the key it finds to the front, and a new key
takes the place of the one used least recently when there is no room. -/
class Documented (C : Type v) (K V : outParam (Type v)) [DecidableEq K] where
  capacity : C -> Nat
  entries : C -> List (K × V)
  put : C -> K -> V -> C
  get : C -> K -> C × Option V
  pop : C -> K -> C
  capacity_put : forall cache key value, capacity (put cache key value) = capacity cache
  capacity_get : forall cache key, capacity (get cache key).1 = capacity cache
  capacity_pop : forall cache key, capacity (pop cache key) = capacity cache
  put_found : forall cache key value, key ∈ (entries cache).map Prod.fst ->
    entries (put cache key value) = (key, value) :: others (entries cache) key
  put_room : forall cache key value, key ∉ (entries cache).map Prod.fst ->
    (entries cache).length < capacity cache ->
    entries (put cache key value) = (key, value) :: entries cache
  put_full : forall cache key value, key ∉ (entries cache).map Prod.fst ->
    (entries cache).length = capacity cache ->
    entries (put cache key value) = (key, value) :: (entries cache).dropLast
  get_found : forall cache key value, (key, value) ∈ entries cache ->
    entries (get cache key).1 = (key, value) :: others (entries cache) key ∧
      (get cache key).2 = some value
  get_absent : forall cache key, key ∉ (entries cache).map Prod.fst ->
    get cache key = (cache, none)
  entries_pop : forall cache key, entries (pop cache key) = others (entries cache) key

theorem others_of_absent {entries : List (K × V)} {key : K}
    (absent : key ∉ entries.map Prod.fst) : others entries key = entries := by
  apply List.filter_eq_self.mpr
  intro entry member
  refine decide_eq_true fun same => absent ?_
  exact List.mem_map.mpr ⟨entry, member, same⟩

theorem length_others_lt {entries : List (K × V)} {key : K} (held : key ∈ entries.map Prod.fst) :
    (others entries key).length < entries.length := by
  rcases List.mem_map.mp held with ⟨entry, member, same⟩
  exact List.length_filter_lt_length_iff_exists.mpr ⟨entry, member, by simpa using same⟩

/-- A key that is held is put in front, and nothing is dropped. -/
theorem entries_put_of_held {cache : Lru K V} {key : K} (held : key ∈ cache.entries.map Prod.fst)
    (value : V) : (cache.put key value).entries = (key, value) :: others cache.entries key := by
  apply List.take_of_length_le
  have fewer := length_others_lt held
  have bounded := cache.bounded
  rw [List.length_cons]
  omega

theorem get_of_held {cache : Lru K V} {key : K} {value : V} (held : (key, value) ∈ cache.entries) :
    cache.get key = (cache.put key value, some value) := by
  rw [get, peek_eq_some_iff.mpr held]

theorem get_of_absent {cache : Lru K V} {key : K} (absent : key ∉ cache.entries.map Prod.fst) :
    cache.get key = (cache, none) := by
  have unseen : cache.peek key = none := by
    rw [<- Option.not_isSome_iff_eq_none, peek_isSome_iff]
    exact absent
  rw [get, unseen]

instance {K V : Type v} [DecidableEq K] : Documented (Lru K V) K V where
  capacity := capacity
  entries := entries
  put := put
  get := get
  pop := pop
  capacity_put _ _ _ := rfl
  capacity_get cache key := by
    unfold get
    split <;> rfl
  capacity_pop _ _ := rfl
  put_found _ _ value held := entries_put_of_held held value
  put_room cache key value absent room := by
    show ((key, value) :: others cache.entries key).take cache.capacity = _
    rw [others_of_absent absent]
    exact List.take_of_length_le room
  put_full cache key value absent full := by
    show ((key, value) :: others cache.entries key).take cache.capacity = _
    rcases Nat.exists_eq_succ_of_ne_zero (Nat.ne_of_gt cache.positive) with ⟨room, size⟩
    rw [others_of_absent absent, size, List.take_succ_cons, List.dropLast_eq_take, full, size]
    rfl
  get_found cache key value held := by
    have named : key ∈ cache.entries.map Prod.fst := List.mem_map.mpr ⟨_, held, rfl⟩
    rw [get_of_held held]
    exact ⟨entries_put_of_held named value, rfl⟩
  get_absent _ _ absent := get_of_absent absent
  entries_pop _ _ := rfl

/-! ## Mentions -/

/-- A call touches the key it mentions, or leaves the cache without it. -/
inductive Mention (K : Type u) where
  | touched (key : K)
  | dropped (key : K)

def Mention.key : Mention K -> K
  | touched key => key
  | dropped key => key

/-- The keys after a call, the one touched last in front. -/
def mention (capacity : Nat) (keys : List K) : Mention K -> List K
  | .touched key => (key :: otherKeys keys key).take capacity
  | .dropped key => otherKeys keys key

def mentionAll (capacity : Nat) (keys : List K) (mentions : List (Mention K)) : List K :=
  mentions.foldl (mention capacity) keys

/-- The keys that were touched and not dropped again. -/
def live (mentions : List (Mention K)) : Finset K :=
  mentions.foldl
    (fun held mention =>
      match mention with
      | .touched key => insert key held
      | .dropped key => held.erase key) ∅

/-- At no moment in this time have as many keys been live as there is room for. -/
def Roomy (capacity : Nat) (since : List (Mention K)) : Prop :=
  ∀ part, part <+: since -> (live part).card < capacity

/-- The key was touched and not mentioned since, and there was always room for it. -/
def Stays (capacity : Nat) (key : K) (mentions : List (Mention K)) : Prop :=
  ∃ before since, mentions = before ++ .touched key :: since ∧
    (∀ mention ∈ since, mention.key ≠ key) ∧ Roomy capacity since

theorem live_concat_touched (mentions : List (Mention K)) (key : K) :
    live (mentions ++ [.touched key]) = insert key (live mentions) := by
  rw [live, List.foldl_append]
  rfl

theorem live_concat_dropped (mentions : List (Mention K)) (key : K) :
    live (mentions ++ [.dropped key]) = (live mentions).erase key := by
  rw [live, List.foldl_append]
  rfl

theorem mentionAll_append (capacity : Nat) (keys : List K) (mentions later : List (Mention K)) :
    mentionAll capacity keys (mentions ++ later) =
      mentionAll capacity (mentionAll capacity keys mentions) later :=
  List.foldl_append

theorem mentionAll_concat (capacity : Nat) (keys : List K) (mentions : List (Mention K))
    (last : Mention K) :
    mentionAll capacity keys (mentions ++ [last]) =
      mention capacity (mentionAll capacity keys mentions) last :=
  mentionAll_append capacity keys mentions [last]

theorem nodup_mention {keys : List K} (distinct : keys.Nodup) (capacity : Nat)
    (last : Mention K) : (mention capacity keys last).Nodup := by
  cases last with
  | touched key =>
      refine (List.nodup_cons.mpr ⟨?_, distinct.filter _⟩).sublist (List.take_sublist _ _)
      exact fun member => (mem_otherKeys.mp member).2 rfl
  | dropped key => exact distinct.filter _

theorem nodup_mentionAll {keys : List K} (distinct : keys.Nodup) (capacity : Nat)
    (mentions : List (Mention K)) : (mentionAll capacity keys mentions).Nodup := by
  induction mentions using List.reverseRecOn with
  | nil => exact distinct
  | append_singleton mentions last inner =>
      rw [mentionAll_concat]
      exact nodup_mention inner capacity last

/-- A key that is not there is not brought in by a mention of another one. -/
theorem absent_mention {keys : List K} {key : K} (absent : key ∉ keys) {last : Mention K}
    (other : last.key ≠ key) (capacity : Nat) : key ∉ mention capacity keys last := by
  cases last with
  | touched touched =>
      intro member
      rcases List.mem_cons.mp (List.mem_of_mem_take member) with same | later
      · exact other same.symm
      · exact absent (mem_otherKeys.mp later).1
  | dropped dropped => exact fun member => absent (mem_otherKeys.mp member).1

theorem absent_mentionAll {keys : List K} {key : K} (absent : key ∉ keys)
    {mentions : List (Mention K)} (others : ∀ mention ∈ mentions, mention.key ≠ key)
    (capacity : Nat) : key ∉ mentionAll capacity keys mentions := by
  induction mentions using List.reverseRecOn with
  | nil => exact absent
  | append_singleton mentions last inner =>
      rw [mentionAll_concat]
      refine absent_mention (inner fun mention member => ?_) ?_ capacity
      · exact others mention (List.mem_append_left _ member)
      · exact others last (List.mem_append_right _ (List.mem_singleton_self last))

theorem roomy_concat {capacity : Nat} {since : List (Mention K)} {last : Mention K} :
    Roomy capacity (since ++ [last]) ↔
      Roomy capacity since ∧ (live (since ++ [last])).card < capacity := by
  constructor
  · intro roomy
    refine ⟨fun part beginning => roomy part ?_, roomy _ (List.prefix_refl _)⟩
    exact beginning.trans (List.prefix_append since [last])
  · rintro ⟨roomy, still⟩ part beginning
    rcases List.prefix_concat_iff.mp beginning with whole | earlier
    · rw [whole]
      exact still
    · exact roomy part earlier

/-! ## What is in front of a key -/

/-- In front of the key stand these keys, each once. -/
structure Behind (key : K) (ahead : Finset K) (keys : List K) : Prop where
  distinct : keys.Nodup
  split : ∃ front rest, keys = front ++ key :: rest ∧ front.toFinset = ahead

theorem otherKeys_split {front rest : List K} {key other : K} (different : other ≠ key) :
    otherKeys (front ++ key :: rest) other =
      otherKeys front other ++ key :: otherKeys rest other := by
  unfold otherKeys
  rw [List.filter_append, List.filter_cons_of_pos (by simpa using different.symm)]

theorem toFinset_otherKeys (front : List K) (other : K) :
    (otherKeys front other).toFinset = front.toFinset.erase other := by
  ext key
  rw [List.mem_toFinset, mem_otherKeys, Finset.mem_erase, List.mem_toFinset, and_comm]

theorem Behind.mem {key : K} {ahead : Finset K} {keys : List K} (behind : Behind key ahead keys) :
    key ∈ keys := by
  rcases behind.split with ⟨front, rest, rfl, _⟩
  exact List.mem_append_right _ List.mem_cons_self

theorem Behind.dropped {key other : K} {ahead : Finset K} {keys : List K}
    (behind : Behind key ahead keys) (different : other ≠ key) (capacity : Nat) :
    Behind key (ahead.erase other) (mention capacity keys (.dropped other)) := by
  refine ⟨nodup_mention behind.distinct capacity (.dropped other), ?_⟩
  rcases behind.split with ⟨front, rest, rfl, rfl⟩
  exact ⟨otherKeys front other, otherKeys rest other, otherKeys_split different,
    toFinset_otherKeys front other⟩

/-- Touching another key leaves the key where there is room, and pushes it out where
there is none. -/
theorem Behind.touched {key other : K} {ahead : Finset K} {keys : List K}
    (behind : Behind key ahead keys) (different : other ≠ key) (capacity : Nat) :
    ((insert other ahead).card < capacity ∧
        Behind key (insert other ahead) (mention capacity keys (.touched other))) ∨
      (capacity ≤ (insert other ahead).card ∧ key ∉ mention capacity keys (.touched other)) := by
  have distinct := nodup_mention behind.distinct capacity (.touched other)
  have kept := behind.distinct
  rcases behind.split with ⟨front, rest, rfl, rfl⟩
  have front_distinct : (other :: otherKeys front other).Nodup := by
    refine List.nodup_cons.mpr ⟨fun member => (mem_otherKeys.mp member).2 rfl, ?_⟩
    exact (List.nodup_append.mp kept).1.filter _
  have ahead_of : (other :: otherKeys front other).toFinset = insert other front.toFinset := by
    ext one
    rw [List.toFinset_cons, toFinset_otherKeys, Finset.mem_insert, Finset.mem_insert,
      Finset.mem_erase]
    tauto
  have size : (other :: otherKeys front other).length = (insert other front.toFinset).card := by
    rw [<- List.toFinset_card_of_nodup front_distinct, ahead_of]
  have after : mention capacity (front ++ key :: rest) (.touched other) =
      ((other :: otherKeys front other) ++ key :: otherKeys rest other).take capacity := by
    rw [mention, otherKeys_split different]
    rfl
  by_cases room : (insert other front.toFinset).card < capacity
  · refine Or.inl ⟨room, distinct, other :: otherKeys front other,
      (otherKeys rest other).take (capacity - (insert other front.toFinset).card - 1), ?_, ahead_of⟩
    rw [after, List.take_append, size, List.take_of_length_le (by omega)]
    apply congrArg ((other :: otherKeys front other) ++ ·)
    rcases Nat.exists_eq_add_of_lt room with ⟨spare, rfl⟩
    have left : (insert other front.toFinset).card + spare + 1 -
        (insert other front.toFinset).card = spare + 1 := by omega
    rw [left, List.take_succ_cons]
    rfl
  · refine Or.inr ⟨Nat.le_of_not_lt room, fun member => ?_⟩
    rw [after, List.take_append_of_le_length (by omega)] at member
    rcases List.mem_cons.mp (List.mem_of_mem_take member) with same | later
    · exact different same.symm
    · have ahead := (mem_otherKeys.mp later).1
      exact (List.nodup_append.mp kept).2.2 key ahead key List.mem_cons_self rfl

/-- While it is not mentioned, a key that was touched is held exactly as long as there
was room for it, and behind the keys that are live. -/
theorem behind_or_gone {capacity : Nat} (positive : 0 < capacity) {key : K} {keys : List K}
    (behind : Behind key ∅ keys) {since : List (Mention K)}
    (others : ∀ mention ∈ since, mention.key ≠ key) :
    (Roomy capacity since ∧ Behind key (live since) (mentionAll capacity keys since)) ∨
      (¬ Roomy capacity since ∧ key ∉ mentionAll capacity keys since) := by
  induction since using List.reverseRecOn with
  | nil =>
      refine Or.inl ⟨fun part beginning => ?_, behind⟩
      rw [List.prefix_nil.mp beginning]
      exact positive
  | append_singleton since last inner =>
      have different := others last (List.mem_append_right _ (List.mem_singleton_self last))
      rw [mentionAll_concat, roomy_concat]
      rcases inner fun mention member => others mention (List.mem_append_left _ member) with
        ⟨roomy, behind⟩ | ⟨crowded, gone⟩
      · cases last with
        | touched other =>
            rw [live_concat_touched]
            rcases behind.touched different capacity with ⟨room, behind⟩ | ⟨full, gone⟩
            · exact Or.inl ⟨⟨roomy, room⟩, behind⟩
            · exact Or.inr ⟨fun both => absurd both.2 (Nat.not_lt_of_ge full), gone⟩
        | dropped other =>
            rw [live_concat_dropped]
            have fewer := Finset.card_erase_le (s := live since) (a := other)
            exact Or.inl ⟨⟨roomy, Nat.lt_of_le_of_lt fewer (roomy since (List.prefix_refl since))⟩,
              behind.dropped different capacity⟩
      · exact Or.inr ⟨fun both => crowded both.1, absent_mention gone different capacity⟩

/-- A list that mentions a key has a last mention of it. -/
theorem exists_last_mention {key : K} {mentions : List (Mention K)}
    (mentioned : ∃ mention ∈ mentions, mention.key = key) :
    ∃ before last since, mentions = before ++ last :: since ∧ last.key = key ∧
      ∀ mention ∈ since, mention.key ≠ key := by
  induction mentions using List.reverseRecOn with
  | nil =>
      rcases mentioned with ⟨mention, member, _⟩
      cases member
  | append_singleton mentions last inner =>
      by_cases same : last.key = key
      · exact ⟨mentions, last, [], rfl, same, fun mention member => (by cases member)⟩
      · have earlier : ∃ mention ∈ mentions, mention.key = key := by
          rcases mentioned with ⟨mention, member, named⟩
          rcases List.mem_append.mp member with before | here
          · exact ⟨mention, before, named⟩
          · exact absurd (List.mem_singleton.mp here ▸ named) same
        rcases inner earlier with ⟨before, found, since, rfl, named, others⟩
        refine ⟨before, found, since ++ [last], List.append_assoc _ _ _, named, ?_⟩
        intro mention member
        rcases List.mem_append.mp member with earlier | here
        · exact others mention earlier
        · rw [List.mem_singleton.mp here]
          exact same

/-- A key just touched is held, with none in front of it. -/
theorem behind_touched {capacity : Nat} (positive : 0 < capacity) {keys : List K}
    (distinct : keys.Nodup) (key : K) : Behind key ∅ (mention capacity keys (.touched key)) := by
  refine ⟨nodup_mention distinct capacity (.touched key), [],
    (otherKeys keys key).take (capacity - 1), ?_, rfl⟩
  rcases Nat.exists_eq_succ_of_ne_zero (Nat.ne_of_gt positive) with ⟨room, rfl⟩
  exact List.take_succ_cons

/-- A key is held exactly if it stays. -/
theorem mem_mentionAll_nil_iff {capacity : Nat} (positive : 0 < capacity) {key : K}
    {mentions : List (Mention K)} :
    key ∈ mentionAll capacity [] mentions ↔ Stays capacity key mentions := by
  constructor
  · intro held
    by_cases mentioned : ∃ mention ∈ mentions, mention.key = key
    · rcases exists_last_mention mentioned with ⟨before, last, since, rfl, named, others⟩
      rw [mentionAll_append] at held
      have distinct := nodup_mentionAll List.nodup_nil capacity before
      cases last with
      | touched touched =>
          cases named
          rcases behind_or_gone positive (behind_touched positive distinct _) others with
            ⟨roomy, _⟩ | ⟨_, gone⟩
          · exact ⟨before, since, rfl, others, roomy⟩
          · exact absurd held gone
      | dropped dropped =>
          cases named
          have absent : dropped ∉ otherKeys (mentionAll capacity [] before) dropped :=
            fun member => (mem_otherKeys.mp member).2 rfl
          exact absurd held (absent_mentionAll absent others capacity)
    · refine absurd held (absent_mentionAll List.not_mem_nil ?_ capacity)
      exact fun mention member same => mentioned ⟨mention, member, same⟩
  · rintro ⟨before, since, rfl, others, roomy⟩
    rw [mentionAll_append]
    have distinct := nodup_mentionAll List.nodup_nil capacity before
    rcases behind_or_gone positive (behind_touched positive distinct key) others with
      ⟨_, behind⟩ | ⟨crowded, _⟩
    · exact behind.mem
    · exact absurd roomy crowded

end Lru

end Foundations
end DigGossip
