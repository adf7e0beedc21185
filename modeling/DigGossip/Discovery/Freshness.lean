import DigGossip.Discovery.Representation

namespace DigGossip
namespace Discovery

open Foundations DigGossip.Types

/-!
# The freshness of re-announced addresses

An address that is in the book is announced again.  The refresh of its
timestamp is meant to wait until the announced time is ahead by an interval,
and a row that learns nothing new is meant not to compete for another cell.
Here the two tests are read off the code and compared with that.
-/

/-- The penalty that counts against an announcement: none for the endpoint of the row itself. -/
def penaltyAgainst (existing : ExtendedPeerInfo) (addr : TimestampedPeerInfo) (penalty : Nat) :
    Nat :=
  if existing.peerInfo = { host := addr.host, port := addr.port } then 0 else penalty

/-- An hour for an address seen online within a day, and a day for any other. -/
def updateInterval (addr : TimestampedPeerInfo) (now : Nat) : Nat :=
  let currentlyOnline : Bool := now - addr.timestamp < 24 * 60 * 60
  if currentlyOnline then 60 * 60 else 24 * 60 * 60

/-- The announced time is ahead of the stored one by more than the interval and the penalty. -/
def IsDue (existing : ExtendedPeerInfo) (addr : TimestampedPeerInfo) (penalty now : Nat) : Prop :=
  existing.timestamp < addr.timestamp -
    saturatingAdd u64Max (updateInterval addr now) (penaltyAgainst existing addr penalty)

instance decidableIsDue (existing : ExtendedPeerInfo) (addr : TimestampedPeerInfo)
    (penalty now : Nat) : Decidable (IsDue existing addr penalty now) :=
  inferInstanceAs (Decidable (_ < _))

/-- The row as the refresh leaves it. -/
def refreshed (existing : ExtendedPeerInfo) (addr : TimestampedPeerInfo) (penalty now : Nat) :
    ExtendedPeerInfo :=
  if 0 < addr.timestamp ∧ (0 < existing.timestamp ∨ IsDue existing addr penalty now) then
    { existing with timestamp := addr.timestamp - penaltyAgainst existing addr penalty }
  else existing

/-- The first test after the refresh: the announcement brings nothing new. -/
def isStale (row : ExtendedPeerInfo) (addr : TimestampedPeerInfo) : Bool :=
  decide (addr.timestamp = 0 ∨ (0 < row.timestamp ∧ addr.timestamp ≤ row.timestamp))

/-- The draw that thins repeated additions. -/
def drawPasses (row : ExtendedPeerInfo) (draw : Nat) : Bool :=
  decide (¬ (1 < 2 ^ Nat.min row.refCount 31 ∧ draw % 2 ^ Nat.min row.refCount 31 ≠ 0))

/-- An announcement whose host the filter for private addresses turns away. -/
def isFiltered (s : Inner) (addr : TimestampedPeerInfo) : Bool :=
  hostIsPrivate addr.host && !s.allowPrivateSubnets

/-- The tests of a refreshed row, in their order. -/
theorem mayCompete_eq (row : ExtendedPeerInfo) (addr : TimestampedPeerInfo) (draw : Nat) :
    Inner.mayCompete row addr draw =
      (!isStale row addr && !row.isTried && decide (row.refCount < newBucketsPerAddress) &&
        drawPasses row draw) := by
  unfold Inner.mayCompete isStale drawPasses
  by_cases stale : addr.timestamp = 0 ∨ (0 < row.timestamp ∧ addr.timestamp ≤ row.timestamp)
  · rw [if_pos stale, decide_eq_true stale]
    rfl
  · rw [if_neg stale, decide_eq_false stale]
    cases tried : row.isTried with
    | true => rfl
    | false =>
        by_cases full : newBucketsPerAddress ≤ row.refCount
        · rw [decide_eq_false (Nat.not_lt.mpr full)]
          simp [full]
        · rw [decide_eq_true (Nat.lt_of_not_le full)]
          by_cases thinned : 1 < 2 ^ Nat.min row.refCount 31 ∧
              draw % 2 ^ Nat.min row.refCount 31 ≠ 0
          · simp [full, thinned]
          · rw [decide_eq_true thinned]
            simp only [Bool.false_eq_true, if_false, if_neg full, if_neg thinned]
            rfl

section

variable {sha256 : Digest} {s : Inner} {addr : TimestampedPeerInfo} {nodeId : NodeId}
  {existing : ExtendedPeerInfo}

theorem lookup_of_find {addr : PeerInfo} (known : s.find addr = (some nodeId, some existing)) :
    s.mapInfo.lookup nodeId = some existing := by
  unfold Inner.find at known
  split at known
  · cases known
  · rcases Prod.mk.inj known with ⟨same, found⟩
    rw [<- Option.some.inj same]
    exact found

/-- Writing a row as it stands changes nothing. -/
theorem setRow_of_lookup (found : s.mapInfo.lookup nodeId = some existing) :
    s.setRow nodeId existing = s := by
  unfold Inner.setRow
  rw [FiniteMap.insert_of_lookup found]

theorem refreshRow_eq (found : s.mapInfo.lookup nodeId = some existing) (penalty now : Nat) :
    s.refreshRow addr penalty now nodeId existing =
      s.setRow nodeId (refreshed existing addr penalty now) := by
  show (if 0 < addr.timestamp ∧ (0 < existing.timestamp ∨ IsDue existing addr penalty now) then
    s.setRow nodeId { existing with
      timestamp := addr.timestamp - penaltyAgainst existing addr penalty } else s) = _
  unfold refreshed
  by_cases written : 0 < addr.timestamp ∧
      (0 < existing.timestamp ∨ IsDue existing addr penalty now)
  · rw [if_pos written, if_pos written]
  · rw [if_neg written, if_neg written, setRow_of_lookup found]

/-- What becomes of an announcement of an address that has a row. -/
theorem addOne_known (known : s.find { host := addr.host, port := addr.port } =
    (some nodeId, some existing)) (found : s.mapInfo.lookup nodeId = some existing)
    (source : PeerInfo) (penalty : Nat) (inputs : Inner.AddInputs) :
    s.addOne sha256 addr source penalty inputs =
      if isFiltered s addr then some s
      else
        let row := refreshed existing addr penalty inputs.now
        if Inner.mayCompete row addr inputs.draw then
          (s.setRow nodeId row).offerCell sha256 nodeId source inputs.nowAgain
        else some (s.setRow nodeId row) := by
  unfold Inner.addOne isFiltered
  split
  · rfl
  · rw [known]
    simp only [refreshRow_eq found, Option.bind_eq_bind]
    rw [show (s.setRow nodeId (refreshed existing addr penalty inputs.now)).mapInfo.lookup nodeId =
      some (refreshed existing addr penalty inputs.now) from Finmap.lookup_insert s.mapInfo]
    rfl

/-- Competing for a cell leaves the row's timestamp alone. -/
theorem offerCell_timestamp (core : Core sha256 s) (found : s.mapInfo.lookup nodeId = some existing)
    (referenced : existing.refCount ≠ 0) {source : PeerInfo} {nowAgain : Nat} {t : Inner}
    (done : s.offerCell sha256 nodeId source nowAgain = some t) :
    exists row, t.mapInfo.lookup nodeId = some row ∧ row.timestamp = existing.timestamp := by
  unfold Inner.offerCell at done
  simp only [found] at done
  generalize (existing.newBucketIndex sha256 s.key source,
    existing.bucketPosition sha256 s.key true (existing.newBucketIndex sha256 s.key source)) =
      slot at done
  have placed : s.newMatrix slot ≠ cellOf nodeId -> (do
      let s <- s.clearNew slot
      let info <- s.mapInfo.lookup nodeId
      let refCount <- checkedAdd info.refCount 1
      some ((s.setRow nodeId { info with refCount := refCount }).setNewMatrix slot
        (cellOf nodeId))) = some t ->
      exists row, t.mapInfo.lookup nodeId = some row ∧ row.timestamp = existing.timestamp := by
    intro unnamed done
    rcases clearNew_spec core slot with ⟨u, emptied, _, cleared⟩
    rcases cleared.row found unnamed with ⟨moved, present, same⟩
    rw [emptied] at done
    simp only [present, Option.bind_eq_bind, Option.bind_some] at done
    rcases Option.bind_eq_some_iff.mp done with ⟨refCount, _, done⟩
    cases done
    refine ⟨_, Finmap.lookup_insert u.mapInfo, ?_⟩
    show moved.timestamp = existing.timestamp
    exact (ExtendedPeerInfo.mk.inj same).2.1
  by_cases seated : s.newMatrix slot = cellOf nodeId
  · rw [if_pos seated] at done
    cases done
    exact ⟨existing, found, rfl⟩
  · rw [if_neg seated] at done
    by_cases vacant : s.newMatrix slot = emptyCell
    · rw [if_pos vacant] at done
      exact placed seated done
    · rw [if_neg vacant] at done
      rcases core.newTable.cell slot vacant with ⟨occupant, present, _, _⟩
      simp only [present, if_neg referenced] at done
      split at done
      · exact placed seated done
      · cases done
        exact ⟨existing, found, rfl⟩

end

/-! ## The promise -/

/-- What a re-announcement promises: the stored time never falls, silence
changes nothing, and a newer time of a row that may have more references is
stored when it is due and brings the row to the draw. -/
structure KeepsFresh (sha256 : Digest) (s : Inner) (addr : TimestampedPeerInfo) (source : PeerInfo)
    (penalty : Nat) (inputs : Inner.AddInputs) (nodeId : NodeId) (existing : ExtendedPeerInfo) :
    Prop where
  never_older : forall t, s.addOne sha256 addr source penalty inputs = some t ->
    exists row, t.mapInfo.lookup nodeId = some row ∧ existing.timestamp ≤ row.timestamp
  silent : addr.timestamp = 0 -> s.addOne sha256 addr source penalty inputs = some s
  newer : existing.isTried = false -> existing.refCount < newBucketsPerAddress ->
    existing.timestamp < addr.timestamp - penaltyAgainst existing addr penalty ->
      isFiltered s addr = false ∧
        (refreshed existing addr penalty inputs.now).timestamp =
          (if IsDue existing addr penalty inputs.now then
            addr.timestamp - penaltyAgainst existing addr penalty
          else existing.timestamp) ∧
        isStale (refreshed existing addr penalty inputs.now) addr = false

/-- When the promise is kept: the time announced does not fall behind a time
that is stored; and where it is newer, in a row that may have more references,
the filter lets it pass, and either it is due under a penalty, or no time is
stored yet and none is due. -/
structure Announces (s : Inner) (addr : TimestampedPeerInfo) (penalty now : Nat)
    (existing : ExtendedPeerInfo) : Prop where
  not_behind : isFiltered s addr = false -> 0 < addr.timestamp -> 0 < existing.timestamp ->
    existing.timestamp ≤ addr.timestamp - penaltyAgainst existing addr penalty
  newer : existing.isTried = false -> existing.refCount < newBucketsPerAddress ->
    existing.timestamp < addr.timestamp - penaltyAgainst existing addr penalty ->
      isFiltered s addr = false ∧
        (IsDue existing addr penalty now ∧ 0 < penaltyAgainst existing addr penalty ∨
          existing.timestamp = 0 ∧ ¬ IsDue existing addr penalty now)

section

variable {sha256 : Digest} {s : Inner} {addr : TimestampedPeerInfo} {nodeId : NodeId}
  {existing : ExtendedPeerInfo} {penalty now : Nat}

theorem refreshed_structure (penalty now : Nat) :
    structuralView (refreshed existing addr penalty now) = structuralView existing := by
  unfold refreshed
  split <;> rfl

/-- The refreshed time, where something is announced. -/
theorem refreshed_timestamp (announced : 0 < addr.timestamp) :
    (refreshed existing addr penalty now).timestamp =
      if 0 < existing.timestamp ∨ IsDue existing addr penalty now then
        addr.timestamp - penaltyAgainst existing addr penalty
      else existing.timestamp := by
  unfold refreshed
  by_cases written : 0 < existing.timestamp ∨ IsDue existing addr penalty now
  · rw [if_pos ⟨announced, written⟩, if_pos written]
  · rw [if_neg fun both => written both.2, if_neg written]

theorem refreshed_silent (silent : addr.timestamp = 0) :
    refreshed existing addr penalty now = existing :=
  if_neg fun both => absurd both.1 (by rw [silent]; exact Nat.lt_irrefl 0)

/-- An announcement of a known address succeeds, and the row keeps its refreshed time. -/
theorem addOne_timestamp (inv : Inv sha256 s)
    (known : s.find { host := addr.host, port := addr.port } = (some nodeId, some existing))
    (found : s.mapInfo.lookup nodeId = some existing) (source : PeerInfo) (penalty : Nat)
    (inputs : Inner.AddInputs) :
    exists t row, s.addOne sha256 addr source penalty inputs = some t ∧
      t.mapInfo.lookup nodeId = some row ∧
        row.timestamp = if isFiltered s addr then existing.timestamp
          else (refreshed existing addr penalty inputs.now).timestamp := by
  rw [addOne_known known found]
  cases filtered : isFiltered s addr with
  | true => exact ⟨s, existing, rfl, found, rfl⟩
  | false =>
      simp only [Bool.false_eq_true, if_false]
      generalize settled : refreshed existing addr penalty inputs.now = row
      have same : structuralView row = structuralView existing := settled ▸ refreshed_structure _ _
      have written : Inv sha256 (s.setRow nodeId row) := inv.setRow found same
      have present : (s.setRow nodeId row).mapInfo.lookup nodeId = some row :=
        Finmap.lookup_insert s.mapInfo
      by_cases goesOn : Inner.mayCompete row addr inputs.draw = true
      · rw [if_pos goesOn]
        rcases mayCompete_spec goesOn with ⟨isNew, below⟩
        have rooted : Rooted (s.setRow nodeId row) fun other => other = nodeId :=
          fun other kept seen fresh => Or.inl ((written.rooted other kept seen fresh).resolve_right id)
        rcases offerCell_spec written.core present isNew below rooted source inputs.nowAgain with
          ⟨t, done, _⟩
        have referenced : row.refCount ≠ 0 := by
          have counted := (written.rooted nodeId row present isNew).resolve_right id
          omega
        rcases offerCell_timestamp written.core present referenced done with ⟨last, seen, stamp⟩
        exact ⟨t, last, done, seen, stamp⟩
      · rw [if_neg goesOn]
        exact ⟨_, row, rfl, present, rfl⟩

/-- A silent announcement changes nothing. -/
theorem addOne_silent (known : s.find { host := addr.host, port := addr.port } =
    (some nodeId, some existing)) (found : s.mapInfo.lookup nodeId = some existing)
    (source : PeerInfo) (penalty : Nat) (inputs : Inner.AddInputs)
    (silent : addr.timestamp = 0) : s.addOne sha256 addr source penalty inputs = some s := by
  have stale : isStale existing addr = true := decide_eq_true (Or.inl silent)
  rw [addOne_known known found, refreshed_silent silent]
  simp only [mayCompete_eq, stale, setRow_of_lookup found, Bool.not_true, Bool.false_and, Bool.false_eq_true,
    if_false, ite_self]

/-- What a newer announcement is promised, and when it gets it. -/
theorem newer_iff (ahead : existing.timestamp <
    addr.timestamp - penaltyAgainst existing addr penalty) :
    ((refreshed existing addr penalty now).timestamp =
          (if IsDue existing addr penalty now then
            addr.timestamp - penaltyAgainst existing addr penalty
          else existing.timestamp) ∧
        isStale (refreshed existing addr penalty now) addr = false) ↔
      (IsDue existing addr penalty now ∧ 0 < penaltyAgainst existing addr penalty ∨
        existing.timestamp = 0 ∧ ¬ IsDue existing addr penalty now) := by
  have announced : 0 < addr.timestamp := by omega
  unfold isStale
  rw [refreshed_timestamp announced, decide_eq_false_iff_not]
  by_cases due : IsDue existing addr penalty now
  · -- the time read by the staleness test is the one just announced, less the penalty
    rw [if_pos (Or.inr due), if_pos due]
    constructor
    · rintro ⟨_, fresh⟩
      exact Or.inl ⟨due, by omega⟩
    · rintro (⟨_, charged⟩ | ⟨_, waits⟩)
      · exact ⟨rfl, by omega⟩
      · exact absurd due waits
  · rw [if_neg due]
    by_cases stamped : 0 < existing.timestamp
    · rw [if_pos (Or.inl stamped)]
      constructor
      · rintro ⟨same, _⟩
        omega
      · rintro (⟨isDue, _⟩ | ⟨none, _⟩)
        · exact absurd isDue due
        · omega
    · rw [if_neg (not_or_intro stamped due)]
      exact ⟨fun _ => Or.inr ⟨by omega, due⟩, fun _ => ⟨rfl, by omega⟩⟩

end

/-- A re-announcement keeps its promise exactly when it is one of those the code treats so. -/
theorem keeps_fresh_iff {sha256 : Digest} {s : Inner} (inv : Inv sha256 s)
    {addr : TimestampedPeerInfo} {nodeId : NodeId} {existing : ExtendedPeerInfo}
    (known : s.find { host := addr.host, port := addr.port } = (some nodeId, some existing))
    (source : PeerInfo) (penalty : Nat) (inputs : Inner.AddInputs) :
    KeepsFresh sha256 s addr source penalty inputs nodeId existing ↔
      Announces s addr penalty inputs.now existing := by
  have found : s.mapInfo.lookup nodeId = some existing := lookup_of_find known
  rcases addOne_timestamp inv known found source penalty inputs with
    ⟨t, row, done, present, stamp⟩
  constructor
  · intro keeps
    refine ⟨?_, ?_⟩
    · intro passed announced stamped
      rcases keeps.never_older t done with ⟨last, seen, kept⟩
      rw [present] at seen
      cases seen
      rw [stamp, passed, if_neg Bool.false_ne_true, refreshed_timestamp announced,
        if_pos (Or.inl stamped)] at kept
      exact kept
    · intro isNew below ahead
      rcases keeps.newer isNew below ahead with ⟨passed, stored, fresh⟩
      exact ⟨passed, (newer_iff ahead).mp ⟨stored, fresh⟩⟩
  · intro announces
    refine ⟨?_, addOne_silent known found source penalty inputs, ?_⟩
    · intro other again
      rw [done] at again
      cases again
      refine ⟨row, present, ?_⟩
      rw [stamp]
      cases filtered : isFiltered s addr with
      | true => exact Nat.le_refl _
      | false =>
          rw [if_neg Bool.false_ne_true]
          rcases Nat.eq_zero_or_pos addr.timestamp with silent | announced
          · rw [refreshed_silent silent]
          · rw [refreshed_timestamp announced]
            split
            · rcases Nat.eq_zero_or_pos existing.timestamp with none | stamped
              · rw [none]
                exact Nat.zero_le _
              · exact announces.not_behind filtered announced stamped
            · exact Nat.le_refl _
    · intro isNew below ahead
      rcases announces.newer isNew below ahead with ⟨passed, how⟩
      exact ⟨passed, (newer_iff ahead).mpr how⟩

namespace Reannouncing

open Example

/-- A book that heard of one host at second 1000. -/
def heardRun : List Operation := [offer "a" 1000 "2.0.0.1"]

/-- The same endpoint, announced with another time. -/
def announcedAt (timestamp : Nat) : TimestampedPeerInfo :=
  { host := "a", port := 1, timestamp := timestamp }

def inputs : Inner.AddInputs := { now := 9000, draw := 0, nowAgain := 9000 }

end Reannouncing

open Reannouncing

theorem keeps_fresh_iff_heard :
    exists s existing, run Example.firstByteDigest heardRun (Inner.new Example.zeroKey) = some s ∧
      s.find { host := "a", port := 1 } = (some 1, some existing) ∧
      (KeepsFresh Example.firstByteDigest s (announcedAt 9000) (Example.source "2.0.0.1") 0 inputs 1
          existing ↔
        Announces s (announcedAt 9000) 0 9000 existing) := by
  have checked : (run Example.firstByteDigest heardRun (Inner.new Example.zeroKey)).any
      (fun s => decide (s.idCount.toNat < u32Max ∧
        s.find { host := "a", port := 1 } =
          (some 1, some ((s.mapInfo.lookup 1).getD (peerRowFromTs (announcedAt 0)
            (Example.source "b")))))) = true := by
    decide +kernel
  rcases (Option.any_eq_true _ _).mp checked with ⟨s, reached, facts⟩
  rcases of_decide_eq_true facts with ⟨room, known⟩
  have inv := run_inv heardRun (inv_new Example.firstByteDigest Example.zeroKey) reached room
    (by decide +kernel)
  exact ⟨s, _, reached, known, keeps_fresh_iff inv known (Example.source "2.0.0.1") 0 inputs⟩

/-- An earlier time of the same endpoint is stored over a later one, and a
later time is stored and then refused as the time already known. -/
theorem heard_falls_back :
    exists s existing, run Example.firstByteDigest heardRun (Inner.new Example.zeroKey) = some s ∧
      s.find { host := "a", port := 1 } = (some 1, some existing) ∧
      ¬ KeepsFresh Example.firstByteDigest s (announcedAt 500) (Example.source "2.0.0.1") 0 inputs 1
          existing ∧
      ¬ KeepsFresh Example.firstByteDigest s (announcedAt 9000) (Example.source "2.0.0.1") 0 inputs 1
          existing := by
  have checked : (run Example.firstByteDigest heardRun (Inner.new Example.zeroKey)).any
      (fun s =>
        let existing := (s.mapInfo.lookup 1).getD
          (peerRowFromTs (announcedAt 0) (Example.source "b"))
        decide (s.find { host := "a", port := 1 } = (some 1, some existing)) &&
        (s.addOne Example.firstByteDigest (announcedAt 500) (Example.source "2.0.0.1") 0
          inputs).any (fun t => decide (forall row, t.mapInfo.lookup 1 = some row ->
            row.timestamp < existing.timestamp)) &&
        decide (existing.isTried = false ∧ existing.refCount < newBucketsPerAddress ∧
          existing.timestamp < (announcedAt 9000).timestamp -
            penaltyAgainst existing (announcedAt 9000) 0 ∧
          isStale (refreshed existing (announcedAt 9000) 0 9000) (announcedAt 9000) = true)) =
        true := by
    decide +kernel
  rcases (Option.any_eq_true _ _).mp checked with ⟨s, reached, facts⟩
  simp only [Bool.and_eq_true] at facts
  rcases facts with ⟨⟨known, older⟩, newer⟩
  rcases (Option.any_eq_true _ _).mp older with ⟨t, done, fell⟩
  rcases of_decide_eq_true newer with ⟨isNew, below, ahead, stale⟩
  refine ⟨s, _, reached, of_decide_eq_true known, fun keeps => ?_, fun keeps => ?_⟩
  · rcases keeps.never_older t done with ⟨row, present, kept⟩
    exact absurd kept (Nat.not_le.mpr (of_decide_eq_true fell row present))
  · have fresh := (keeps.newer isNew below ahead).2.2
    rw [show inputs.now = 9000 from rfl, stale] at fresh
    cases fresh

end Discovery
end DigGossip
