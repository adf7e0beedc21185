import DigGossip.Foundations.Stepping
import DigGossip.Service.Plumtree

namespace DigGossip
namespace Service

open Foundations DigGossip.Types

/-!
# Lazy announcements and the peers that made them

The tree keeps, for each hash it has only heard of, who announced it and when.
An announcement that has waited for long enough names the peer to graft.  A
peer that leaves the tree stays in the queue, so the peer named may be gone: the
queue holds the announcements made since the hash was last cancelled, whatever
has become of their announcers.
-/

/-- `PlumtreeState` with its queue of announcements, the time of each in milliseconds. -/
structure AnnouncedTree extends PlumtreeState where
  lazyQueue : FiniteMap Key (List (PeerId × Nat))
  lazyTimeoutMs : Nat

/-- The clock in whole seconds, as milliseconds of a 64-bit word. -/
def stampMs (nowSecs : Nat) : Nat :=
  nowSecs * 1000 % (u64Max + 1)

namespace AnnouncedTree

def withLazyTimeout (lazyTimeoutMs : Nat) : AnnouncedTree where
  toPlumtreeState := .new
  lazyQueue := ∅
  lazyTimeoutMs := lazyTimeoutMs

def recordLazyAnnounce (tree : AnnouncedTree) (hash : Key) (announcer : PeerId) (nowSecs : Nat) :
    AnnouncedTree :=
  let announcers := (tree.lazyQueue.lookup hash).getD [] ++ [(announcer, stampMs nowSecs)]
  { tree with lazyQueue := tree.lazyQueue.insert hash announcers }

def cancelLazyTimer (tree : AnnouncedTree) (hash : Key) : AnnouncedTree :=
  { tree with lazyQueue := tree.lazyQueue.erase hash }

/-- The announcement has waited for the timeout by now. -/
def isDue (tree : AnnouncedTree) (nowSecs : Nat) (announcement : PeerId × Nat) : Bool :=
  decide (tree.lazyTimeoutMs ≤ stampMs nowSecs - announcement.2)

/-- `get_timed_out_lazy`: of each hash the first announcement that is due. -/
def getTimedOutLazy (tree : AnnouncedTree) (traversal : FiniteMap.Traversal tree.lazyQueue)
    (nowSecs : Nat) : List (Key × PeerId) :=
  traversal.keys.filterMap fun hash =>
    (((tree.lazyQueue.lookup hash).getD []).find? (tree.isDue nowSecs)).map fun announcement =>
      (hash, announcement.1)

/-- Every announcer that a graft is due to is promoted. -/
def promoteAll (tree : PlumtreeState) (timedOut : List (Key × PeerId)) : PlumtreeState :=
  timedOut.foldl (fun tree entry => tree.promoteToEager entry.2) tree

end AnnouncedTree

inductive TreeCall where
  | addPeer (peerId : PeerId)
  | removePeer (peerId : PeerId)
  | demoteToLazy (peerId : PeerId)
  | promoteToEager (peerId : PeerId)
  | recordLazyAnnounce (hash : Key) (announcer : PeerId) (nowSecs : Nat)
  | cancelLazyTimer (hash : Key)

namespace TreeCall

def apply (tree : AnnouncedTree) : TreeCall -> AnnouncedTree
  | addPeer peerId => { tree with toPlumtreeState := tree.toPlumtreeState.addPeer peerId }
  | removePeer peerId => { tree with toPlumtreeState := tree.toPlumtreeState.removePeer peerId }
  | demoteToLazy peerId =>
      { tree with toPlumtreeState := tree.toPlumtreeState.demoteToLazy peerId }
  | promoteToEager peerId =>
      { tree with toPlumtreeState := tree.toPlumtreeState.promoteToEager peerId }
  | recordLazyAnnounce hash announcer nowSecs => tree.recordLazyAnnounce hash announcer nowSecs
  | cancelLazyTimer hash => tree.cancelLazyTimer hash

/-- What a call makes of the announcements of a hash since it was last cancelled. -/
def announced (hash : Key) (announcements : List (PeerId × Nat)) :
    TreeCall -> List (PeerId × Nat)
  | recordLazyAnnounce other announcer nowSecs =>
      if other = hash then announcements ++ [(announcer, stampMs nowSecs)] else announcements
  | cancelLazyTimer other => if other = hash then [] else announcements
  | addPeer _ | removePeer _ | demoteToLazy _ | promoteToEager _ => announcements

end TreeCall

/-- The tree after the calls made on an empty one. -/
def treeAfter (lazyTimeoutMs : Nat) (calls : List TreeCall) : AnnouncedTree :=
  Stepping.run TreeCall.apply calls (.withLazyTimeout lazyTimeoutMs)

/-- The announcements of a hash since it was last cancelled, in their order. -/
def announcedSince (hash : Key) (calls : List TreeCall) : List (PeerId × Nat) :=
  calls.foldl (TreeCall.announced hash) []

/-! ## The queue is the history -/

theorem lookup_apply (tree : AnnouncedTree) (call : TreeCall) (hash : Key) :
    ((call.apply tree).lazyQueue.lookup hash).getD [] =
      call.announced hash ((tree.lazyQueue.lookup hash).getD []) := by
  cases call with
  | recordLazyAnnounce other announcer nowSecs =>
      change ((tree.lazyQueue.insert other _).lookup hash).getD [] = if other = hash then _ else _
      rw [FiniteMap.lookup_insert_eq]
      by_cases same : other = hash
      · rw [if_pos same, if_pos same.symm, same]
        rfl
      · rw [if_neg same, if_neg (Ne.symm same)]
  | cancelLazyTimer other =>
      change ((tree.lazyQueue.erase other).lookup hash).getD [] = if other = hash then _ else _
      rw [FiniteMap.lookup_erase_eq]
      by_cases same : other = hash
      · rw [if_pos same, if_pos same.symm]
        rfl
      · rw [if_neg same, if_neg (Ne.symm same)]
  | addPeer peerId => rfl
  | removePeer peerId => rfl
  | demoteToLazy peerId => rfl
  | promoteToEager peerId => rfl

theorem lazyTimeoutMs_apply (tree : AnnouncedTree) (call : TreeCall) :
    (call.apply tree).lazyTimeoutMs = tree.lazyTimeoutMs := by
  cases call <;> rfl

theorem lazyTimeoutMs_treeAfter (lazyTimeoutMs : Nat) (calls : List TreeCall) :
    (treeAfter lazyTimeoutMs calls).lazyTimeoutMs = lazyTimeoutMs := by
  induction calls using List.reverseRecOn with
  | nil => rfl
  | append_singleton calls call inner =>
      rw [treeAfter, Stepping.run_concat, lazyTimeoutMs_apply]
      exact inner

/-- The queue of a hash holds the announcements of it since it was last cancelled. -/
theorem lookup_treeAfter (lazyTimeoutMs : Nat) (calls : List TreeCall) (hash : Key) :
    ((treeAfter lazyTimeoutMs calls).lazyQueue.lookup hash).getD [] =
      announcedSince hash calls := by
  induction calls using List.reverseRecOn with
  | nil => rfl
  | append_singleton calls call inner =>
      rw [treeAfter, Stepping.run_concat, lookup_apply, announcedSince, List.foldl_append]
      exact congrArg (call.announced hash ·) inner

/-! ## What times out -/

section TimedOut

variable (lazyTimeoutMs : Nat) (calls : List TreeCall) (nowSecs : Nat)

/-- The announcement has waited for the timeout. -/
def IsDue (announcement : PeerId × Nat) : Prop :=
  lazyTimeoutMs ≤ stampMs nowSecs - announcement.2

instance (announcement : PeerId × Nat) : Decidable (IsDue lazyTimeoutMs nowSecs announcement) :=
  inferInstanceAs (Decidable (lazyTimeoutMs ≤ stampMs nowSecs - announcement.2))

/-- The announcement is the first of its hash, since the last cancel, that is due. -/
def FirstDue (hash : Key) (announcement : PeerId × Nat) : Prop :=
  exists before after, announcedSince hash calls = before ++ announcement :: after ∧
    (∀ earlier ∈ before, ¬IsDue lazyTimeoutMs nowSecs earlier) ∧
    IsDue lazyTimeoutMs nowSecs announcement

variable {lazyTimeoutMs} {calls} {nowSecs}

theorem isDue_iff {announcement : PeerId × Nat} :
    (treeAfter lazyTimeoutMs calls).isDue nowSecs announcement = true ↔
      IsDue lazyTimeoutMs nowSecs announcement := by
  rw [AnnouncedTree.isDue, lazyTimeoutMs_treeAfter, decide_eq_true_eq]
  exact Iff.rfl

theorem find?_isDue_iff {hash : Key} {announcement : PeerId × Nat} :
    (announcedSince hash calls).find? ((treeAfter lazyTimeoutMs calls).isDue nowSecs) =
        some announcement ↔
      FirstDue lazyTimeoutMs calls nowSecs hash announcement := by
  rw [List.find?_eq_some_iff_append]
  constructor
  · rintro ⟨due, before, after, split, early⟩
    refine ⟨before, after, split, ?_, isDue_iff.mp due⟩
    intro earlier member earlierDue
    have refused := early earlier member
    rw [isDue_iff.mpr earlierDue] at refused
    cases refused
  · rintro ⟨before, after, split, early, due⟩
    refine ⟨isDue_iff.mpr due, before, after, split, ?_⟩
    intro earlier member
    rw [Bool.not_eq_true', Bool.eq_false_iff]
    exact fun earlierDue => early earlier member (isDue_iff.mp earlierDue)

/-- A hash with an announcement that is due has a first one. -/
theorem exists_firstDue {hash : Key} {announcement : PeerId × Nat}
    (member : announcement ∈ announcedSince hash calls)
    (due : IsDue lazyTimeoutMs nowSecs announcement) :
    exists first, FirstDue lazyTimeoutMs calls nowSecs hash first := by
  cases found : (announcedSince hash calls).find?
      ((treeAfter lazyTimeoutMs calls).isDue nowSecs) with
  | none => exact absurd (isDue_iff.mpr due) (List.find?_eq_none.mp found announcement member)
  | some first => exact ⟨first, find?_isDue_iff.mp found⟩

theorem FirstDue.mem {hash : Key} {announcement : PeerId × Nat}
    (first : FirstDue lazyTimeoutMs calls nowSecs hash announcement) :
    announcement ∈ announcedSince hash calls := by
  rcases first with ⟨before, after, split, _, _⟩
  rw [split]
  exact List.mem_append_right before List.mem_cons_self

theorem FirstDue.isDue {hash : Key} {announcement : PeerId × Nat}
    (first : FirstDue lazyTimeoutMs calls nowSecs hash announcement) :
    IsDue lazyTimeoutMs nowSecs announcement := by
  rcases first with ⟨_, _, _, _, due⟩
  exact due

/-- A hash is in the queue when an announcement of it is. -/
theorem mem_keys_of_announced (traversal : FiniteMap.Traversal (treeAfter lazyTimeoutMs calls).lazyQueue)
    {hash : Key} {announcement : PeerId × Nat}
    (member : announcement ∈ announcedSince hash calls) : hash ∈ traversal.keys := by
  rw [traversal.complete]
  rw [<- lookup_treeAfter lazyTimeoutMs] at member
  cases found : (treeAfter lazyTimeoutMs calls).lazyQueue.lookup hash with
  | none =>
      rw [found] at member
      cases member
  | some announcements => rfl

/-- What has timed out are the first due announcements. -/
theorem mem_getTimedOutLazy_iff
    (traversal : FiniteMap.Traversal (treeAfter lazyTimeoutMs calls).lazyQueue)
    {hash : Key} {announcer : PeerId} :
    (hash, announcer) ∈ (treeAfter lazyTimeoutMs calls).getTimedOutLazy traversal nowSecs ↔
      exists time, FirstDue lazyTimeoutMs calls nowSecs hash (announcer, time) := by
  rw [AnnouncedTree.getTimedOutLazy, List.mem_filterMap]
  constructor
  · rintro ⟨other, _, named⟩
    rw [lookup_treeAfter, Option.map_eq_some_iff] at named
    rcases named with ⟨⟨_, time⟩, found, same⟩
    cases same
    exact ⟨time, find?_isDue_iff.mp found⟩
  · rintro ⟨time, first⟩
    refine ⟨hash, mem_keys_of_announced traversal first.mem, ?_⟩
    rw [lookup_treeAfter, find?_isDue_iff.mpr first]
    rfl

/-- No hash is returned twice. -/
theorem nodup_getTimedOutLazy (tree : AnnouncedTree)
    (traversal : FiniteMap.Traversal tree.lazyQueue) (nowSecs : Nat) :
    ((tree.getTimedOutLazy traversal nowSecs).map Prod.fst).Nodup := by
  have sublist : ((tree.getTimedOutLazy traversal nowSecs).map Prod.fst).Sublist
      traversal.keys := by
    rw [AnnouncedTree.getTimedOutLazy]
    induction traversal.keys with
    | nil => exact List.Sublist.refl _
    | cons hash keys inner =>
        rw [List.filterMap_cons]
        cases ((tree.lazyQueue.lookup hash).getD []).find? (tree.isDue nowSecs) with
        | none => exact inner.cons hash
        | some announcement => exact inner.cons_cons hash
  exact traversal.distinct.sublist sublist

end TimedOut

theorem mem_eagerPeers_promoteAll {peerId : PeerId} {timedOut : List (Key × PeerId)}
    {tree : PlumtreeState} :
    peerId ∈ (AnnouncedTree.promoteAll tree timedOut).eagerPeers ↔
      peerId ∈ tree.eagerPeers ∨ ∃ entry ∈ timedOut, entry.2 = peerId := by
  induction timedOut generalizing tree with
  | nil =>
      refine Iff.intro Or.inl ?_
      rintro (eager | ⟨_, none, _⟩)
      · exact eager
      · cases none
  | cons entry timedOut inner =>
      rw [AnnouncedTree.promoteAll, List.foldl_cons]
      refine inner.trans ?_
      rw [PlumtreeState.promoteToEager, Finset.mem_insert, List.exists_mem_cons_iff, eq_comm,
        or_assoc, or_left_comm]

/-! ## Live targets -/

/-- The hashes that time out are those announced long enough ago by a tracked
peer, each once, and what is to be grafted is tracked. -/
structure GraftsLiveTargets (lazyTimeoutMs : Nat) (calls : List TreeCall) (nowSecs : Nat)
    (traversal : FiniteMap.Traversal (treeAfter lazyTimeoutMs calls).lazyQueue) : Prop where
  once : (((treeAfter lazyTimeoutMs calls).getTimedOutLazy traversal nowSecs).map Prod.fst).Nodup
  returned : forall hash,
    hash ∈ ((treeAfter lazyTimeoutMs calls).getTimedOutLazy traversal nowSecs).map Prod.fst ↔
      ∃ announcement ∈ announcedSince hash calls,
        announcement.1 ∈ (treeAfter lazyTimeoutMs calls).members ∧
          IsDue lazyTimeoutMs nowSecs announcement
  tracked : ∀ entry ∈ (treeAfter lazyTimeoutMs calls).getTimedOutLazy traversal nowSecs,
    entry.2 ∈ (treeAfter lazyTimeoutMs calls).members
  promoted : forall peerId, peerId ∉ (treeAfter lazyTimeoutMs calls).members ->
    peerId ∉ (AnnouncedTree.promoteAll (treeAfter lazyTimeoutMs calls).toPlumtreeState
      ((treeAfter lazyTimeoutMs calls).getTimedOutLazy traversal nowSecs)).eagerPeers

/-- The targets are live exactly when, of each hash, the first announcement that
is due since the last cancel is by a peer that is tracked. -/
theorem graftsLiveTargets_iff (lazyTimeoutMs : Nat) (calls : List TreeCall) (nowSecs : Nat)
    (traversal : FiniteMap.Traversal (treeAfter lazyTimeoutMs calls).lazyQueue) :
    GraftsLiveTargets lazyTimeoutMs calls nowSecs traversal ↔
      forall hash announcement, FirstDue lazyTimeoutMs calls nowSecs hash announcement ->
        announcement.1 ∈ (treeAfter lazyTimeoutMs calls).members := by
  constructor
  · intro grafts hash announcement first
    exact grafts.tracked (hash, announcement.1)
      ((mem_getTimedOutLazy_iff traversal).mpr ⟨announcement.2, first⟩)
  · intro tracked
    have named : ∀ entry ∈ (treeAfter lazyTimeoutMs calls).getTimedOutLazy traversal nowSecs,
        entry.2 ∈ (treeAfter lazyTimeoutMs calls).members := by
      rintro ⟨hash, announcer⟩ member
      rcases (mem_getTimedOutLazy_iff traversal).mp member with ⟨time, first⟩
      exact tracked hash (announcer, time) first
    refine ⟨nodup_getTimedOutLazy _ traversal nowSecs, ?_, named, ?_⟩
    · intro hash
      rw [List.mem_map]
      constructor
      · rintro ⟨⟨_, announcer⟩, member, rfl⟩
        rcases (mem_getTimedOutLazy_iff traversal).mp member with ⟨time, first⟩
        exact ⟨(announcer, time), first.mem, tracked _ _ first, first.isDue⟩
      · rintro ⟨announcement, member, _, due⟩
        rcases exists_firstDue member due with ⟨first, isFirst⟩
        exact ⟨(hash, first.1), (mem_getTimedOutLazy_iff traversal).mpr ⟨first.2, isFirst⟩, rfl⟩
    · intro peerId untracked eager
      rcases mem_eagerPeers_promoteAll.mp eager with already | ⟨entry, member, rfl⟩
      · exact untracked (Finset.mem_union_left _ already)
      · exact untracked (named entry member)

namespace Departure

def announcedHash : Key := Vector.replicate 32 0

/-- The peers 1 and 2 announce the same hash, and the first of them leaves. -/
def calls : List TreeCall :=
  [.addPeer 1, .addPeer 2, .recordLazyAnnounce announcedHash 1 0,
    .recordLazyAnnounce announcedHash 2 0, .removePeer 1]

def traversal : FiniteMap.Traversal (treeAfter 500 calls).lazyQueue where
  keys := [announcedHash]
  distinct := List.nodup_singleton _
  complete := by
    intro key
    change key ∈ [announcedHash] ↔
      ((((∅ : FiniteMap Key (List (PeerId × Nat))).insert announcedHash _).insert announcedHash
        _).lookup key).isSome = true
    rw [FiniteMap.lookup_insert_eq, FiniteMap.lookup_insert_eq, List.mem_singleton]
    by_cases same : key = announcedHash
    · rw [if_pos same]
      exact Iff.intro (fun _ => rfl) fun _ => same
    · rw [if_neg same, if_neg same]
      exact Iff.intro (fun here => absurd here same) fun impossible => nomatch impossible

end Departure

open Departure in
/-- The peer that left is the one named for the graft, though the other is tracked. -/
theorem not_graftsLiveTargets_departed : ¬GraftsLiveTargets 500 calls 1 traversal := by
  intro grafts
  have first : FirstDue 500 calls 1 announcedHash (1, 0) := by
    refine ⟨[], [(2, 0)], rfl, ?_, by decide⟩
    intro earlier impossible
    cases impossible
  have tracked := grafts.tracked (announcedHash, 1)
    ((mem_getTimedOutLazy_iff traversal).mpr ⟨0, first⟩)
  exact absurd tracked (by decide)

end Service
end DigGossip
