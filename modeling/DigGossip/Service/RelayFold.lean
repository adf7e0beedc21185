import DigGossip.Discovery.ReceivedPeers
import DigGossip.Foundations.Indexing
import DigGossip.Service.RelayReachable

namespace DigGossip
namespace Service

open Foundations Discovery DigGossip.Types

/-!
# Peers the relay reports

Each maintenance pass folds the relay's current list of peers into the state:
the relay-reachable ids are replaced, the identity of every dialable address is
remembered, and the rows that can be dialed go to the address book through the
budget of received peers.  The budget is shared with the other sources.
-/

/-- The part of the service state that the fold writes. -/
structure RelayView where
  relayReachable : Finset String
  discoveredPeerIds : FiniteMap SocketAddr PeerId
  totalPeersReceived : Nat
  /-- The batches handed to the address book, each with its source. -/
  merged : List (List TimestampedPeerInfo × PeerInfo)

namespace RelayView

def new : RelayView where
  relayReachable := ∅
  discoveredPeerIds := ∅
  totalPeersReceived := 0
  merged := []

def setRelayReachable (s : RelayView) (peerIdHexes : List String) (selfPeerIdHex : Option String) :
    RelayView :=
  { s with
    relayReachable := Service.setRelayReachable s.relayReachable peerIdHexes selfPeerIdHex }

/-- What one record teaches: the identity behind each dialable address that is
an IP literal. -/
def discoveriesOf (record : PeerRecord) : List (SocketAddr × PeerId) :=
  if record.peerId = "" then []
  else
    match peerIdFromHex record.peerId with
    | none => []
    | some peerId =>
        record.addresses.filterMap fun address =>
          if address.kind.isDialable then
            (parseIpAddr address.host).map fun ip => ({ ip := ip, port := address.port }, peerId)
          else none

/-- `record_discovered_peer_id` for everything the records teach. -/
def recordDiscovered (s : RelayView) (records : List PeerRecord) : RelayView :=
  { s with
    discoveredPeerIds :=
      insertAll Prod.fst Prod.snd (records.flatMap discoveriesOf) s.discoveredPeerIds }

/-- `cap_received_peers`, with no other call in between. -/
def spend (s : RelayView) (call : CounterProgram (List TimestampedPeerInfo)) :
    RelayView × List TimestampedPeerInfo :=
  let (total, taken) := Program.alone CounterAction.exec call s.totalPeersReceived
  ({ s with totalPeersReceived := total }, taken)

/-- `merge_records_into_address_manager_capped`. -/
def mergeRecordsCapped (s : RelayView) (records : List PeerRecord) (source : PeerInfo) :
    RelayView :=
  let (after, capped) := s.spend (capRecords records)
  if capped.isEmpty then after else { after with merged := after.merged ++ [(capped, source)] }

/-- `fold_relay_known_peers`, on a node with this id and bound address. -/
def foldRelayKnownPeers (isV6 : SocketAddr -> Bool) (selfPeerIdHex : Option String)
    (bound : SocketAddr) (s : RelayView) (known : List RelayPeerInfo) : RelayView :=
  let refreshed := s.setRelayReachable (known.map RelayPeerInfo.peerId) selfPeerIdHex
  if known.isEmpty then refreshed
  else
    let records := known.map (PeerRecord.fromNatRelayPeerInfo isV6)
    (refreshed.recordDiscovered records).mergeRecordsCapped records
      { host := ipText bound.ip, port := bound.port }

end RelayView

/-! ## The life of a service -/

/-- News of peers: the relay's current list, or a batch from another source. -/
inductive PeerNews where
  | relay (known : List RelayPeerInfo)
  | batch (peers : List TimestampedPeerInfo)

section Life

variable (isV6 : SocketAddr -> Bool) (selfPeerIdHex : Option String) (bound : SocketAddr)

def hear (s : RelayView) : PeerNews -> RelayView
  | .relay known => s.foldRelayKnownPeers isV6 selfPeerIdHex bound known
  | .batch peers => (s.spend (capReceivedPeers peers)).1

end Life

/-- What the relay reports after this news. -/
def reportAfter (current : List RelayPeerInfo) : PeerNews -> List RelayPeerInfo
  | .relay known => known
  | .batch _ => current

/-- The addresses that a report teaches the identity of. -/
def reportedAddrs (isV6 : SocketAddr -> Bool) (known : List RelayPeerInfo) : Finset SocketAddr :=
  (((known.map (PeerRecord.fromNatRelayPeerInfo isV6)).flatMap RelayView.discoveriesOf).map
    Prod.fst).toFinset

def reportedIds (known : List RelayPeerInfo) : Finset String :=
  (known.map RelayPeerInfo.peerId).toFinset

/-- What is kept of earlier reports: the entries that the current one does not name. -/
def RelayView.retained (isV6 : SocketAddr -> Bool) (s : RelayView) (current : List RelayPeerInfo) : Nat :=
  (s.discoveredPeerIds.keys \ reportedAddrs isV6 current).card +
    (s.relayReachable \ reportedIds current).card

/-- A report names no more new addresses than the caps accept rows of it. -/
def coveredByBudget (isV6 : SocketAddr -> Bool) (s : RelayView) : PeerNews -> Bool
  | .relay known =>
      decide ((reportedAddrs isV6 known \ s.discoveredPeerIds.keys).card ≤
        granted s.totalPeersReceived
          (dialableRows (known.map (PeerRecord.fromNatRelayPeerInfo isV6))).length)
  | .batch _ => true

/-! ## What one piece of news changes -/

section Changes

variable {isV6 : SocketAddr -> Bool} {selfPeerIdHex : Option String} {bound : SocketAddr}
  {s : RelayView} {known : List RelayPeerInfo}

theorem setRelayReachable_subset :
    (s.setRelayReachable (known.map RelayPeerInfo.peerId) selfPeerIdHex).relayReachable ⊆
      reportedIds known := by
  intro id member
  have kept := (@mem_setRelayReachable s.relayReachable _ selfPeerIdHex id).mp member
  exact List.mem_toFinset.mpr kept.1

/-- The merge spends the budget and writes neither side map. -/
theorem mergeRecordsCapped_fields (records : List PeerRecord) (source : PeerInfo) :
    (s.mergeRecordsCapped records source).discoveredPeerIds = s.discoveredPeerIds ∧
      (s.mergeRecordsCapped records source).relayReachable = s.relayReachable ∧
      (s.mergeRecordsCapped records source).totalPeersReceived =
        (Program.alone CounterAction.exec (capRecords records) s.totalPeersReceived).1 := by
  unfold RelayView.mergeRecordsCapped RelayView.spend
  simp only
  split
  · exact ⟨rfl, rfl, rfl⟩
  · exact ⟨rfl, rfl, rfl⟩

/-- What a fold does to each of the fields that are bounded. -/
theorem foldRelayKnownPeers_fields (within : s.totalPeersReceived ≤ maxTotalPeersReceived) :
    (s.foldRelayKnownPeers isV6 selfPeerIdHex bound known).discoveredPeerIds.keys =
        s.discoveredPeerIds.keys ∪ reportedAddrs isV6 known ∧
      (s.foldRelayKnownPeers isV6 selfPeerIdHex bound known).relayReachable ⊆ reportedIds known ∧
      (s.foldRelayKnownPeers isV6 selfPeerIdHex bound known).totalPeersReceived =
        s.totalPeersReceived + granted s.totalPeersReceived
          (dialableRows (known.map (PeerRecord.fromNatRelayPeerInfo isV6))).length := by
  have subset := @setRelayReachable_subset selfPeerIdHex s known
  unfold RelayView.foldRelayKnownPeers
  simp only
  split
  · rename_i none
    rw [List.isEmpty_iff.mp none] at subset ⊢
    refine ⟨(Finset.union_empty _).symm, subset, ?_⟩
    show _ = _ + granted _ 0
    rw [granted, Nat.zero_min, Nat.zero_min]
    rfl
  · rcases @mergeRecordsCapped_fields
      ((s.setRelayReachable (known.map RelayPeerInfo.peerId) selfPeerIdHex).recordDiscovered
        (known.map (PeerRecord.fromNatRelayPeerInfo isV6)))
      (known.map (PeerRecord.fromNatRelayPeerInfo isV6)) { host := ipText bound.ip, port := bound.port }
      with ⟨discovered, reachable, total⟩
    rw [discovered, reachable, total]
    exact ⟨keys_insertAll _ _, subset, alone_capRecords _ within⟩

end Changes

/-! ## The bound -/

/-- The remembered identities are as many as the caps accepted at most, and the
reachable ids are those of the current report. -/
structure WithinReceived (s : RelayView) (current : List RelayPeerInfo) : Prop where
  budget : s.totalPeersReceived ≤ maxTotalPeersReceived
  discovered : s.discoveredPeerIds.keys.card ≤ s.totalPeersReceived
  reachable : s.relayReachable ⊆ reportedIds current

theorem WithinReceived.retained {isV6 : SocketAddr -> Bool} {s : RelayView}
    {current : List RelayPeerInfo} (within : WithinReceived s current) :
    s.retained isV6 current ≤ s.totalPeersReceived := by
  have none : (s.relayReachable \ reportedIds current).card = 0 := by
    rw [Finset.sdiff_eq_empty_iff_subset.mpr within.reachable, Finset.card_empty]
  unfold RelayView.retained
  rw [none, Nat.add_zero]
  exact (Finset.card_le_card Finset.sdiff_subset).trans within.discovered

theorem granted_le (total rows : Nat) : granted total rows ≤ maxTotalPeersReceived - total :=
  Nat.min_le_right _ _

/-- News that the caps cover keeps the bound. -/
theorem WithinReceived.hear {isV6 : SocketAddr -> Bool} {selfPeerIdHex : Option String}
    {bound : SocketAddr} {s : RelayView} {current : List RelayPeerInfo}
    (within : WithinReceived s current) {news : PeerNews}
    (covered : coveredByBudget isV6 s news = true) :
    WithinReceived (Service.hear isV6 selfPeerIdHex bound s news) (reportAfter current news) := by
  have budget := within.budget
  have discovered := within.discovered
  cases news with
  | batch peers =>
      have total := alone_capReceivedPeers peers budget
      have least := granted_le s.totalPeersReceived peers.length
      refine ⟨?_, ?_, within.reachable⟩
      · refine total.trans_le ?_
        omega
      · refine discovered.trans (Nat.le_trans ?_ total.ge)
        exact Nat.le_add_right _ _
  | relay known =>
      rcases @foldRelayKnownPeers_fields isV6 selfPeerIdHex bound s known budget with
        ⟨keys, reachable, total⟩
      have least := granted_le s.totalPeersReceived
        (dialableRows (known.map (PeerRecord.fromNatRelayPeerInfo isV6))).length
      refine ⟨?_, ?_, reachable⟩
      · refine total.trans_le ?_
        omega
      · show (s.foldRelayKnownPeers isV6 selfPeerIdHex bound known).discoveredPeerIds.keys.card ≤ _
        have fresh := of_decide_eq_true covered
        rw [keys, <- Finset.union_sdiff_self_eq_union]
        refine (Finset.card_union_le _ _).trans ?_
        refine Nat.le_trans ?_ total.ge
        exact Nat.add_le_add discovered fresh

/-- Whatever the relay reports and whatever arrives besides, what is kept of
earlier reports is bounded by the peers the caps accepted, as long as no report
names more new addresses than the caps accept rows of it. -/
theorem retained_le_received (isV6 : SocketAddr -> Bool) (selfPeerIdHex : Option String)
    (bound : SocketAddr) (news : List PeerNews)
    (covered : Stepping.along (hear isV6 selfPeerIdHex bound) (coveredByBudget isV6) news .new =
      true) :
    (Stepping.run (hear isV6 selfPeerIdHex bound) news .new).retained isV6
        (news.foldl reportAfter []) ≤
      (Stepping.run (hear isV6 selfPeerIdHex bound) news .new).totalPeersReceived := by
  suffices kept : forall (s : RelayView) (current : List RelayPeerInfo), WithinReceived s current ->
      Stepping.along (hear isV6 selfPeerIdHex bound) (coveredByBudget isV6) news s = true ->
      WithinReceived (Stepping.run (hear isV6 selfPeerIdHex bound) news s)
        (news.foldl reportAfter current) by
    have fresh : WithinReceived .new [] :=
      { budget := Nat.zero_le _
        discovered := Nat.zero_le _
        reachable := fun _ member => by cases member }
    exact (kept .new [] fresh covered).retained
  clear covered
  induction news with
  | nil => exact fun s current within _ => within
  | cons first news inner =>
      intro s current within covered
      have both := Bool.and_eq_true_iff.mp covered
      exact inner _ _ (within.hear both.1) both.2

/-! ## A report that is forgotten -/

namespace Example

/-- A peer with the id of this digit throughout and so many addresses. -/
def relayPeer (digit : Char) (addresses : Nat) : RelayPeerInfo where
  peerId := String.ofList (List.replicate 64 digit)
  networkId := "DIG_MAINNET"
  lastSeen := 0
  addresses := (List.range addresses).map fun number =>
    { ip := .v4 (BitVec.ofNat 32 (203 * 2 ^ 24 + number)), port := 9444 }

def bound : SocketAddr := { ip := .v4 0, port := 9444 }

def isV6 (addr : SocketAddr) : Bool :=
  match addr.ip with
  | .v6 _ => true
  | .v4 _ => false

end Example

open Example in
/-- One peer with one address, then a report without it. -/
theorem retained_le_received_single :
    (Stepping.run (hear isV6 none bound) [.relay [relayPeer 'a' 1], .relay []] .new).retained isV6
        [] ≤
      (Stepping.run (hear isV6 none bound) [.relay [relayPeer 'a' 1], .relay []]
        .new).totalPeersReceived :=
  retained_le_received isV6 none bound [.relay [relayPeer 'a' 1], .relay []] (by decide +kernel)

open Example in
/-- One accepted peer with three addresses leaves three identities behind. -/
theorem retained_le_received_fails :
    ¬ forall (selfPeerIdHex : Option String) (bound : SocketAddr) (news : List PeerNews),
      (Stepping.run (hear isV6 selfPeerIdHex bound) news .new).retained isV6
          (news.foldl reportAfter []) ≤
        (Stepping.run (hear isV6 selfPeerIdHex bound) news .new).totalPeersReceived := by
  intro claim
  have kept := claim none Example.bound [.relay [relayPeer 'a' 3], .relay []]
  revert kept
  decide +kernel

end Service
end DigGossip
