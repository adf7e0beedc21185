import DigGossip.Foundations.Retention
import DigGossip.Foundations.StableSort
import DigGossip.Service.FloodMessages

namespace DigGossip
namespace Service

open Foundations DigGossip.Types

/-!
# The hints of one peer

What a peer announced of the distributors of stores is kept in the order in which
it came in, beside an index of its members.  A frame only ever adds to it, and
what exceeds the cap goes out at the old end.  The queue alone is a set that
forgets the member it has had longest, and the index is the set of the queue.
-/

def maxRetainedHintsPerPeer : Nat := 64

/-- A store and the launcher of a distributor for it. -/
abbrev Hint := Bytes32 × Bytes32

structure DistributorHintCache where
  order : List Hint
  seen : Finset Hint
deriving DecidableEq

/-- The order of byte strings. -/
def bytesLE (left right : Bytes32) : Bool := decide (left.val ≤ right.val)

namespace DistributorHintCache

def new : DistributorHintCache where
  order := []
  seen := ∅

/-- The loop that takes the oldest out until the rest fits. -/
def evict : List Hint -> Finset Hint -> DistributorHintCache
  | [], seen => ⟨[], seen⟩
  | evicted :: order, seen =>
      if maxRetainedHintsPerPeer < (evicted :: order).length then evict order (seen.erase evicted)
      else ⟨evicted :: order, seen⟩

/-- One turn of the loop over the launcher ids of a frame. -/
def insertKey (cache : DistributorHintCache) (key : Hint) : DistributorHintCache :=
  if key ∈ cache.seen then cache
  else evict (cache.order ++ [key]) (insert key cache.seen)

def union (cache : DistributorHintCache) (announce : DistributorAnnounce) : DistributorHintCache :=
  announce.launcherIds.foldl
    (fun cache launcherId => cache.insertKey (announce.storeId, launcherId)) cache

/-- Equal ids are the same, so the sort need not be stable. -/
def hintsForStore (cache : DistributorHintCache) (storeId : Bytes32) : List Bytes32 :=
  ((cache.order.filter fun hint => decide (hint.1 = storeId)).map Prod.snd).mergeSort bytesLE

def len (cache : DistributorHintCache) : Nat := cache.order.length

/-- The cache after the frames of a peer. -/
def afterUnions (announces : List DistributorAnnounce) : DistributorHintCache :=
  announces.foldl union new

end DistributorHintCache

namespace DistributorAnnounce

/-- The pairs of a frame, in its order. -/
def hints (announce : DistributorAnnounce) : List Hint :=
  announce.launcherIds.map fun launcherId => (announce.storeId, launcherId)

end DistributorAnnounce

/-- The pairs of all frames, one after another. -/
def received (announces : List DistributorAnnounce) : List Hint :=
  announces.flatMap DistributorAnnounce.hints

/-! ## The order of the answers -/

theorem bytesLE_trans (a b c : Bytes32) (first : bytesLE a b = true) (second : bytesLE b c = true) :
    bytesLE a c = true :=
  decide_eq_true (List.le_trans (of_decide_eq_true first) (of_decide_eq_true second))

theorem bytesLE_total (a b : Bytes32) : (bytesLE a b || bytesLE b a) = true := by
  rw [Bool.or_eq_true]
  exact (List.le_total a.val b.val).imp decide_eq_true decide_eq_true

theorem bytesLE_antisymm (a b : Bytes32) (first : bytesLE a b = true) (second : bytesLE b a = true) :
    a = b :=
  Subtype.ext (List.le_antisymm (of_decide_eq_true first) (of_decide_eq_true second))

namespace DistributorHintCache

variable {cache : DistributorHintCache}

/-- The answers depend on which pairs are held, not on when they came in. -/
theorem hintsForStore_congr {other : DistributorHintCache} (distinct : cache.order.Nodup)
    (otherDistinct : other.order.Nodup) (same : forall hint, hint ∈ cache.order ↔ hint ∈ other.order)
    (storeId : Bytes32) : cache.hintsForStore storeId = other.hintsForStore storeId := by
  have arranged : cache.order.Perm other.order :=
    (List.perm_ext_iff_of_nodup distinct otherDistinct).mpr same
  exact mergeSort_eq_of_perm bytesLE_trans bytesLE_total bytesLE_antisymm
    ((arranged.filter _).map Prod.snd)

/-! ## The queue and its index -/

/-- The index has the members of the queue, which has each of them once and fits the cap. -/
structure Mirrored (cache : DistributorHintCache) : Prop where
  distinct : cache.order.Nodup
  indexed : cache.seen = cache.order.toFinset
  bounded : cache.order.length ≤ maxRetainedHintsPerPeer

theorem mirrored_new : Mirrored new :=
  ⟨List.nodup_nil, rfl, Nat.zero_le _⟩

/-- Taking out the oldest leaves the end of the queue, and the index follows. -/
theorem evict_spec (order : List Hint) (distinct : order.Nodup) :
    (evict order order.toFinset).order = order.rtake maxRetainedHintsPerPeer ∧
      (evict order order.toFinset).seen = (evict order order.toFinset).order.toFinset := by
  induction order with
  | nil => exact ⟨rfl, rfl⟩
  | cons evicted order inner =>
      rcases List.nodup_cons.mp distinct with ⟨absent, distinct⟩
      rw [evict]
      by_cases exceeds : maxRetainedHintsPerPeer < (evicted :: order).length
      · have rest : (evicted :: order).toFinset.erase evicted = order.toFinset := by
          rw [List.toFinset_cons, Finset.erase_insert (mt List.mem_toFinset.mp absent)]
        have shorter : (evicted :: order).rtake maxRetainedHintsPerPeer =
            order.rtake maxRetainedHintsPerPeer := by
          have front : (evicted :: order).length - maxRetainedHintsPerPeer =
              order.length - maxRetainedHintsPerPeer + 1 := by
            rw [List.length_cons] at exceeds ⊢
            omega
          unfold List.rtake
          rw [front, List.drop_succ_cons]
        rw [if_pos exceeds, rest, shorter]
        exact inner distinct
      · rw [if_neg exceeds, Retention.rtake_of_le (Nat.le_of_not_lt exceeds)]
        exact ⟨rfl, rfl⟩

theorem Mirrored.mem_seen (mirrored : Mirrored cache) (hint : Hint) :
    hint ∈ cache.seen ↔ hint ∈ cache.order := by
  rw [mirrored.indexed, List.mem_toFinset]

/-- One turn offers the pair to the queue, and the index follows. -/
theorem insertKey_spec (mirrored : Mirrored cache) (key : Hint) :
    (cache.insertKey key).order =
        Retention.offer maxRetainedHintsPerPeer cache.order key ∧
      (cache.insertKey key).seen = (cache.insertKey key).order.toFinset := by
  unfold insertKey
  by_cases known : key ∈ cache.order
  · rw [if_pos ((mirrored.mem_seen key).mpr known), Retention.offer_of_mem known]
    exact ⟨rfl, mirrored.indexed⟩
  · have longer : insert key cache.seen = (cache.order ++ [key]).toFinset := by
      rw [mirrored.indexed, List.toFinset_append, List.toFinset_cons, List.toFinset_nil,
        Finset.union_comm]
      rfl
    have distinct := Retention.nodup_concat mirrored.distinct known
    rw [if_neg (mt (mirrored.mem_seen key).mp known), Retention.offer_of_not_mem known, longer]
    exact evict_spec _ distinct

theorem mirrored_insertKey (mirrored : Mirrored cache) (key : Hint) :
    Mirrored (cache.insertKey key) := by
  rcases insertKey_spec mirrored key with ⟨queued, indexed⟩
  refine ⟨?_, indexed, ?_⟩
  · rw [queued]
    exact Retention.nodup_offer mirrored.distinct
  · rw [queued]
    exact Retention.length_offer mirrored.bounded

/-! ## Frames -/

/-- The turns of a frame, on the pairs themselves. -/
theorem union_eq_foldl (cache : DistributorHintCache) (announce : DistributorAnnounce) :
    cache.union announce = announce.hints.foldl insertKey cache := by
  unfold union DistributorAnnounce.hints
  rw [List.foldl_map]

theorem insertKeys_spec (mirrored : Mirrored cache) (keys : List Hint) :
    (keys.foldl insertKey cache).order =
        Retention.offerAll maxRetainedHintsPerPeer cache.order keys ∧
      Mirrored (keys.foldl insertKey cache) := by
  induction keys generalizing cache with
  | nil => exact ⟨rfl, mirrored⟩
  | cons key keys inner =>
      rcases inner (mirrored_insertKey mirrored key) with ⟨queued, still⟩
      refine ⟨?_, still⟩
      rw [List.foldl_cons, queued, (insertKey_spec mirrored key).1]
      rfl

/-- A frame offers its pairs to the queue, one after another. -/
theorem union_order (mirrored : Mirrored cache) (announce : DistributorAnnounce) :
    (cache.union announce).order =
      Retention.offerAll maxRetainedHintsPerPeer cache.order announce.hints := by
  rw [union_eq_foldl]
  exact (insertKeys_spec mirrored announce.hints).1

theorem mirrored_union (mirrored : Mirrored cache) (announce : DistributorAnnounce) :
    Mirrored (cache.union announce) := by
  rw [union_eq_foldl]
  exact (insertKeys_spec mirrored announce.hints).2

theorem afterUnions_eq_foldl (announces : List DistributorAnnounce) :
    afterUnions announces = (received announces).foldl insertKey new := by
  unfold afterUnions received
  rw [List.foldl_flatMap]
  congr 1
  funext cache announce
  exact cache.union_eq_foldl announce

theorem mirrored_afterUnions (announces : List DistributorAnnounce) :
    Mirrored (afterUnions announces) := by
  rw [afterUnions_eq_foldl]
  exact (insertKeys_spec mirrored_new _).2

theorem afterUnions_order (announces : List DistributorAnnounce) :
    (afterUnions announces).order =
      Retention.offerAll maxRetainedHintsPerPeer [] (received announces) := by
  rw [afterUnions_eq_foldl]
  exact (insertKeys_spec mirrored_new _).1

/-! ## The history of the cache -/

/-- The pairs that were not held when they came in. -/
def newlyHeld (announces : List DistributorAnnounce) : List Hint :=
  keepBy (fun past hint => decide (hint ∉ (past.foldl insertKey new).order)) [] (received announces)

theorem newlyHeld_eq (announces : List DistributorAnnounce) :
    newlyHeld announces =
      Retention.newcomers maxRetainedHintsPerPeer [] (received announces) := by
  unfold newlyHeld Retention.newcomers
  congr 1
  funext past hint
  rw [(insertKeys_spec mirrored_new past).1]
  exact decide_eq_decide.mpr Iff.rfl

/-- The oldest pair goes out of the queue as another, that was not held, comes in. -/
structure Displaced (before after : DistributorHintCache) (oldest newer : Hint) : Prop where
  first : before.order.head? = some oldest
  full : before.order.length = maxRetainedHintsPerPeer
  novel : newer ∉ before.order
  gone : oldest ∉ after.order
  held : newer ∈ after.order

theorem displaced_of_insertKey (mirrored : Mirrored cache) {hint newer : Hint}
    (held : hint ∈ cache.order) (lost : hint ∉ (cache.insertKey newer).order) :
    Displaced cache (cache.insertKey newer) hint newer := by
  have queued := (insertKey_spec mirrored newer).1
  have gone := lost
  rw [queued] at lost
  rcases Retention.lost_of_offer mirrored.bounded held lost with ⟨novel, full, first⟩
  refine ⟨first, full, novel, gone, ?_⟩
  rw [queued]
  exact Retention.mem_offer_self (by decide)

/-- A frame that loses a pair has lost it to one of its own. -/
theorem displaced_of_union (mirrored : Mirrored cache) {announce : DistributorAnnounce}
    {hint : Hint} (held : hint ∈ cache.order) (lost : hint ∉ (cache.union announce).order) :
    exists before launcherId later, announce.launcherIds = before ++ launcherId :: later ∧
      Displaced (cache.union ⟨announce.storeId, before⟩)
        (cache.union ⟨announce.storeId, before ++ [launcherId]⟩) hint
        (announce.storeId, launcherId) := by
  rw [union_order mirrored] at lost
  rcases Retention.lost_of_offerAll held lost with ⟨before, newer, later, pairs, there, gone⟩
  rcases List.map_eq_append_iff.mp pairs with ⟨ids, rest, whole, rfl, tail⟩
  rcases List.map_eq_cons_iff.mp tail with ⟨launcherId, others, rfl, rfl, _⟩
  refine ⟨ids, launcherId, others, whole, ?_⟩
  have step : cache.union ⟨announce.storeId, ids ++ [launcherId]⟩ =
      (cache.union ⟨announce.storeId, ids⟩).insertKey (announce.storeId, launcherId) := by
    unfold union
    rw [List.foldl_append]
    rfl
  have mid := mirrored_union mirrored ⟨announce.storeId, ids⟩
  have order := union_order mirrored ⟨announce.storeId, ids⟩
  rw [step]
  apply displaced_of_insertKey mid
  · rw [order]
    exact there
  · rw [(insertKey_spec mid _).1, order]
    exact gone

/-! ## Runs of frames -/

/-- What holds of the cache after the frames of a peer. -/
structure KeepsHints (announces : List DistributorAnnounce) : Prop where
  distinct : (afterUnions announces).order.Nodup
  indexed : forall hint, hint ∈ (afterUnions announces).seen ↔ hint ∈ (afterUnions announces).order
  bounded : (afterUnions announces).len ≤ maxRetainedHintsPerPeer
  latest : (afterUnions announces).order =
    (newlyHeld announces).rtake maxRetainedHintsPerPeer
  displaced : forall announce hint, hint ∈ (afterUnions announces).order ->
    hint ∉ ((afterUnions announces).union announce).order ->
      exists before launcherId later, announce.launcherIds = before ++ launcherId :: later ∧
        Displaced ((afterUnions announces).union ⟨announce.storeId, before⟩)
          ((afterUnions announces).union ⟨announce.storeId, before ++ [launcherId]⟩) hint
          (announce.storeId, launcherId)
  orderless : (received announces).toFinset.card ≤ maxRetainedHintsPerPeer ->
    forall others : List DistributorAnnounce,
      (forall announce, announce ∈ others ↔ announce ∈ announces) ->
      forall storeId, (afterUnions others).hintsForStore storeId =
        (afterUnions announces).hintsForStore storeId

/-- While all pairs fit, the queue holds the pairs that came in. -/
theorem mem_order_iff {announces : List DistributorAnnounce}
    (fits : (received announces).toFinset.card ≤ maxRetainedHintsPerPeer) {hint : Hint} :
    hint ∈ (afterUnions announces).order ↔ hint ∈ received announces := by
  rw [afterUnions_order]
  exact Retention.mem_offerAll_iff fits

theorem keepsHints (announces : List DistributorAnnounce) : KeepsHints announces where
  distinct := (mirrored_afterUnions announces).distinct
  indexed := (mirrored_afterUnions announces).mem_seen
  bounded := (mirrored_afterUnions announces).bounded
  latest := by
    rw [afterUnions_order, newlyHeld_eq]
    exact Retention.offerAll_eq_rtake (Nat.zero_le _) (received announces)
  displaced := fun _ _ => displaced_of_union (mirrored_afterUnions announces)
  orderless := by
    intro fits others same storeId
    have pairs : forall hint, hint ∈ received others ↔ hint ∈ received announces := by
      intro hint
      unfold received
      rw [List.mem_flatMap, List.mem_flatMap]
      simp only [same]
    have equal : (received others).toFinset = (received announces).toFinset := by
      ext hint
      rw [List.mem_toFinset, List.mem_toFinset]
      exact pairs hint
    apply hintsForStore_congr (mirrored_afterUnions others).distinct
      (mirrored_afterUnions announces).distinct
    intro hint
    rw [mem_order_iff fits, mem_order_iff (equal ▸ fits)]
    exact pairs hint

end DistributorHintCache

end Service
end DigGossip
