import DigGossip.Service.PeerPool
import DigGossip.Types.AsLookup

namespace DigGossip
namespace Service

open Foundations DigGossip.Types

/-!
# The service state

The interior shared by the service and its handles: the peer map, the ban
tables, the broadcast tree and the pool.  Transports are names: a link or a
session is a number chosen by whoever opened it, and a session's closedness is
a fact of the environment that the state records.
-/

structure GossipConfig where
  peerId : PeerId
  listenAddr : SocketAddr
  maxConnections : Nat
  targetOutboundCount : Nat
  peerPool : Option PeerPoolConfig
  maxInflightHandshakes : Nat

/-! ## Slots -/

abbrev LinkId := Nat
abbrev SessionId := Nat
abbrev SinkId := Nat

structure StubPeer where
  remote : SocketAddr
  isOutbound : Bool
deriving DecidableEq

/-- A live slot; its reputation is the one kept under its generation. -/
structure LiveSlot where
  metadata : StubPeer
  peer : LinkId
  generation : Nat
deriving DecidableEq

inductive NatTransport where
  | owned (session : SessionId)
  | observed (session : SessionId)
deriving DecidableEq

def NatTransport.session : NatTransport -> SessionId
  | owned session => session
  | observed session => session

structure NatSlot where
  conn : NatTransport
  sink : Option SinkId
  remote : SocketAddr
  isOutbound : Bool
  method : TraversalKind
deriving DecidableEq

inductive PeerSlot where
  | stub (peer : StubPeer)
  | live (slot : LiveSlot)
  | nat (slot : NatSlot)
deriving DecidableEq

abbrev Peers := FiniteMap PeerId PeerSlot

/-- `is_relayed`: the slot's remote is a relay endpoint, not the peer. -/
def isRelayed : PeerSlot -> Bool
  | .nat slot => slot.method == .relayed
  | .live _ => false
  | .stub _ => false

namespace PeerSlot

def remote : PeerSlot -> SocketAddr
  | stub peer => peer.remote
  | live slot => slot.metadata.remote
  | nat slot => slot.remote

def isOutbound : PeerSlot -> Bool
  | stub peer => peer.isOutbound
  | live slot => slot.metadata.isOutbound
  | nat slot => slot.isOutbound

/-- `dial_addr`: none for a relayed slot, and none for an accepted session,
whose remote is an ephemeral port. -/
def dialAddr (slot : PeerSlot) : Option SocketAddr :=
  if isRelayed slot then none
  else
    match slot with
    | nat accepted => if !accepted.isOutbound then none else some accepted.remote
    | live held => some held.metadata.remote
    | stub peer => some peer.remote

end PeerSlot

def isAcceptedInbound : PeerSlot -> Bool
  | .nat slot => !slot.isOutbound
  | .live _ => false
  | .stub _ => false

def isAcceptedDirect (slot : PeerSlot) : Bool :=
  isAcceptedInbound slot && !isRelayed slot

/-- The test of the relayed-outbound count. -/
def isRelayedOutbound (slot : PeerSlot) : Bool :=
  isRelayed slot && slot.isOutbound

/-- The test of the accepted-circuit count. -/
def isAcceptedRelayed (slot : PeerSlot) : Bool :=
  isRelayed slot && !slot.isOutbound

/-- A slot that occupies its subnet group and autonomous system. -/
def occupiesDiversity (slot : PeerSlot) : Bool :=
  slot.isOutbound && !isRelayed slot

/-- `outbound_diversity_conflict`: the subnet is looked at first, then the
autonomous system when the table knows the candidate's. -/
def outboundDiversityConflict (peers : Peers) (asTable : AsLookupTable) (newPeerId : PeerId)
    (candidateIp : IpAddr) (candidateIsRelayed : Bool) : Option OutboundDiversityConflict :=
  if candidateIsRelayed then none
  else
    let occupies := fun peerId slot => decide (peerId ≠ newPeerId) && occupiesDiversity slot
    if 0 < FiniteMap.countWhere peers fun peerId slot =>
        occupies peerId slot && subnetGroup slot.remote.ip == subnetGroup candidateIp then
      some .subnet
    else
      match asTable.lookup candidateIp with
      | none => none
      | some candidateAsn =>
          if 0 < FiniteMap.countWhere peers fun peerId slot =>
              occupies peerId slot && asTable.lookup slot.remote.ip == some candidateAsn then
            some .as
          else none

/-- Two addresses in different subnet groups and not both in one known autonomous system. -/
def Apart (asTable : AsLookupTable) (first second : IpAddr) : Prop :=
  subnetGroup first ≠ subnetGroup second ∧
    forall asn, asTable.lookup first = some asn -> asTable.lookup second ≠ some asn

theorem Apart.symm {asTable : AsLookupTable} {first second : IpAddr}
    (apart : Apart asTable first second) : Apart asTable second first :=
  ⟨Ne.symm apart.1, fun asn second first => apart.2 asn first second⟩

/-- There is no conflict when the candidate is apart from every other occupant. -/
theorem outboundDiversityConflict_eq_none {peers : Peers} {asTable : AsLookupTable}
    {newPeerId : PeerId} {candidateIp : IpAddr} :
    outboundDiversityConflict peers asTable newPeerId candidateIp false = none ↔
      forall peerId slot, peers.lookup peerId = some slot -> peerId ≠ newPeerId ->
        occupiesDiversity slot = true -> Apart asTable candidateIp slot.remote.ip := by
  unfold outboundDiversityConflict
  simp only [Bool.false_eq_true, if_false]
  constructor
  · intro clear peerId slot found other occupies
    have apart : decide (peerId ≠ newPeerId) = true := decide_eq_true other
    split at clear
    · cases clear
    · rename_i subnetFree
      refine ⟨fun same => subnetFree (FiniteMap.countWhere_pos found ?_), ?_⟩
      · rw [apart, occupies, <- same, beq_self_eq_true]
        rfl
      · intro asn known shared
        rw [known] at clear
        simp only at clear
        split at clear
        · cases clear
        · rename_i asFree
          apply asFree
          apply FiniteMap.countWhere_pos found
          rw [apart, occupies, shared, beq_self_eq_true]
          rfl
  · intro clear
    rw [if_neg]
    · cases known : asTable.lookup candidateIp with
      | none => rfl
      | some asn =>
          simp only
          rw [if_neg]
          intro taken
          rcases FiniteMap.exists_of_countWhere_pos taken with ⟨peerId, slot, found, passes⟩
          simp only [Bool.and_eq_true, decide_eq_true_eq, beq_iff_eq] at passes
          exact (clear peerId slot found passes.1.1 passes.1.2).2 asn known passes.2
    · intro taken
      rcases FiniteMap.exists_of_countWhere_pos taken with ⟨peerId, slot, found, passes⟩
      simp only [Bool.and_eq_true, decide_eq_true_eq, beq_iff_eq] at passes
      exact (clear peerId slot found passes.1.1 passes.1.2).1 passes.2.symm

/-! ## Reputation -/

def penaltyBanThreshold : Nat := 100
def banDurationSecs : Nat := 3600

inductive PenaltyReason where
  | invalidBlock
  | invalidAttestation
  | malformedMessage
  | spam
  | connectionIssue
  | protocolViolation
  | rateLimitExceeded
  | consensusError
deriving DecidableEq

def PenaltyReason.penaltyPoints : PenaltyReason -> Nat
  | invalidBlock => 100
  | invalidAttestation => 50
  | malformedMessage => 20
  | spam => 25
  | connectionIssue => 10
  | protocolViolation => 50
  | rateLimitExceeded => 15
  | consensusError => 100

structure PeerReputation where
  penaltyPoints : Nat := 0
  isBanned : Bool := false
  banUntil : Option Nat := none
  lastPenaltyReason : Option PenaltyReason := none
deriving DecidableEq

/-- `apply_penalty`: true when this penalty crosses the ban threshold. -/
def PeerReputation.applyPenalty (reputation : PeerReputation) (reason : PenaltyReason)
    (now : Nat) : PeerReputation × Bool :=
  let points := saturatingAdd u32Max reputation.penaltyPoints reason.penaltyPoints
  let charged := { reputation with penaltyPoints := points, lastPenaltyReason := some reason }
  if penaltyBanThreshold ≤ points ∧ reputation.isBanned = false then
    ({ charged with isBanned := true, banUntil := some (saturatingAdd u64Max now banDurationSecs) },
      true)
  else (charged, false)

/-- A penalty adds its points, banned or not. -/
theorem PeerReputation.penaltyPoints_applyPenalty (reputation : PeerReputation)
    (reason : PenaltyReason) (now : Nat) :
    (reputation.applyPenalty reason now).1.penaltyPoints =
      saturatingAdd u32Max reputation.penaltyPoints reason.penaltyPoints := by
  simp only [PeerReputation.applyPenalty]
  split
  · rfl
  · rfl

structure DigBanEntry where
  untilSecs : Nat
  ip : IpAddr
deriving DecidableEq

/-- `is_unspecified`: the all-zero address. -/
def isUnspecified : IpAddr -> Bool
  | .v4 bits => bits == 0
  | .v6 bits => bits == 0

/-! ## The broadcast tree -/

structure PlumtreeState where
  eagerPeers : Finset PeerId
  lazyPeers : Finset PeerId

namespace PlumtreeState

def new : PlumtreeState := { eagerPeers := ∅, lazyPeers := ∅ }

def addPeer (tree : PlumtreeState) (peerId : PeerId) : PlumtreeState :=
  { tree with eagerPeers := insert peerId tree.eagerPeers }

def removePeer (tree : PlumtreeState) (peerId : PeerId) : PlumtreeState where
  eagerPeers := tree.eagerPeers.erase peerId
  lazyPeers := tree.lazyPeers.erase peerId

def demoteToLazy (tree : PlumtreeState) (peerId : PeerId) : PlumtreeState where
  eagerPeers := tree.eagerPeers.erase peerId
  lazyPeers := insert peerId tree.lazyPeers

def promoteToEager (tree : PlumtreeState) (peerId : PeerId) : PlumtreeState where
  eagerPeers := insert peerId tree.eagerPeers
  lazyPeers := tree.lazyPeers.erase peerId

end PlumtreeState

/-! ## The interior -/

inductive Lifecycle where
  | constructed
  | running
  | stopped
deriving DecidableEq

/-- What retiring a slot does to the transports, in order. -/
inductive Effect where
  | keepaliveAborted (generation : Nat)
  | linkClosed (link : LinkId)
  | noticeFired (session : SessionId)
deriving DecidableEq

structure ServiceState where
  config : GossipConfig
  asTable : AsLookupTable
  lifecycle : Lifecycle
  listenBoundAddr : Option SocketAddr
  peers : Peers
  banned : FiniteMap PeerId DigBanEntry
  chiaIpBans : Finset IpAddr
  penalties : FiniteMap PeerId Nat
  reputations : FiniteMap Nat PeerReputation
  plumtree : PlumtreeState
  pool : PoolState
  peerGeneration : Nat
  totalConnections : Nat
  inflightHandshakes : Nat
  now : Nat
  closedSessions : Finset SessionId
  effects : List Effect

namespace ServiceState

/-- The state that `start` leaves: running, with the event channel open. -/
def started (config : GossipConfig) (asTable : AsLookupTable) (bound : SocketAddr) (now : Nat) :
    ServiceState where
  config := config
  asTable := asTable
  lifecycle := .running
  listenBoundAddr := some bound
  peers := ∅
  banned := ∅
  chiaIpBans := ∅
  penalties := ∅
  reputations := ∅
  plumtree := .new
  pool := { PoolState.new with eventsTx := some [] }
  peerGeneration := 0
  totalConnections := 0
  inflightHandshakes := Nat.max config.maxInflightHandshakes 1
  now := now
  closedSessions := ∅
  effects := []

/-- `dial_targets_local_listen`. -/
def dialTargetsLocalListen (s : ServiceState) (addr : SocketAddr) : Bool :=
  addr == s.config.listenAddr || s.listenBoundAddr == some addr

/-- `slot_is_departed`: only a session slot can be seen to be gone. -/
def slotIsDeparted (s : ServiceState) : PeerSlot -> Bool
  | .nat slot => decide (slot.conn.session ∈ s.closedSessions)
  | .live _ => false
  | .stub _ => false

/-- `connected_pool_keys`: the identity of every slot, and its address when it can be dialed. -/
def connectedPoolKeys (s : ServiceState) (order : PeerId -> Nat) : List CandidateKey :=
  (listing order s.peers.keys).flatMap fun peerId =>
    match s.peers.lookup peerId with
    | some slot => .id peerId :: (slot.dialAddr.map CandidateKey.addr).toList
    | none => []

end ServiceState

end Service
end DigGossip
