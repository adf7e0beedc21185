import DigGossip.Service.State

namespace DigGossip
namespace Service

open Foundations DigGossip.Types

/-!
# Regions of the peers lock

Each block of the source that holds the lock of the peer map is one function
here, from the state to the data such a block may change and its result.  A
traversal of a map takes the order given to the block.
-/

/-- What a holder of the peers lock may change. -/
structure Locked where
  peers : Peers
  reputations : FiniteMap Nat PeerReputation
  activity : FiniteMap PeerId ActivityRecord
  lastDisplacementAt : Option Nat

namespace ServiceState

def locked (s : ServiceState) : Locked where
  peers := s.peers
  reputations := s.reputations
  activity := s.pool.activity
  lastDisplacementAt := s.pool.lastDisplacementAt

/-- The state once the lock is released. -/
def unlock (s : ServiceState) (after : Locked) : ServiceState :=
  { s with
    peers := after.peers
    reputations := after.reputations
    pool := { s.pool with
      activity := after.activity, lastDisplacementAt := after.lastDisplacementAt } }

end ServiceState

def liveSlot (remote : SocketAddr) (isOutbound : Bool) (link : LinkId) (generation : Nat) :
    PeerSlot :=
  .live {
    metadata := { remote := remote, isOutbound := isOutbound }
    peer := link
    generation := generation }

/-- An authenticated session of the NAT ladder. -/
structure NatConnection where
  peerId : PeerId
  remoteAddr : SocketAddr
  method : TraversalKind
  session : SessionId

def NatConnection.slot (conn : NatConnection) : PeerSlot :=
  .nat {
    conn := .owned conn.session
    sink := none
    remote := conn.remoteAddr
    isOutbound := true
    method := conn.method }

inductive AdmissionSource where
  | maintained
  | discovered
deriving DecidableEq

/-- The slot an admission replaced, and the peer cycled out for it. -/
structure NatAdmission where
  superseded : Option PeerSlot
  displaced : Option (PeerId × PeerSlot)

/-- A session the node accepted. -/
structure InboundSession where
  peerId : PeerId
  remote : SocketAddr
  method : TraversalKind
  transport : NatTransport
  sink : Option SinkId

def InboundSession.slot (session : InboundSession) : PeerSlot :=
  .nat {
    conn := session.transport
    sink := session.sink
    remote := session.remote
    isOutbound := false
    method := session.method }

/-- A session that came over a tier that reaches the peer itself. -/
structure DirectInbound extends InboundSession where
  direct : method ≠ .relayed

/-- A circuit through a relay. -/
structure RelayedInbound extends InboundSession where
  relayed : method = .relayed

section Slots

variable (remote : SocketAddr) (isOutbound : Bool) (link : LinkId) (generation : Nat)
  (conn : NatConnection) (session : InboundSession)

@[simp] theorem isRelayed_liveSlot :
    isRelayed (liveSlot remote isOutbound link generation) = false := rfl

@[simp] theorem isAcceptedInbound_liveSlot :
    isAcceptedInbound (liveSlot remote isOutbound link generation) = false := rfl

@[simp] theorem isOutbound_liveSlot :
    (liveSlot remote isOutbound link generation).isOutbound = isOutbound := rfl

@[simp] theorem NatConnection.isRelayed_slot :
    isRelayed conn.slot = (conn.method == .relayed) := rfl

@[simp] theorem NatConnection.isAcceptedInbound_slot : isAcceptedInbound conn.slot = false := rfl

@[simp] theorem NatConnection.isOutbound_slot : conn.slot.isOutbound = true := rfl

@[simp] theorem InboundSession.isRelayed_slot :
    isRelayed session.slot = (session.method == .relayed) := rfl

@[simp] theorem InboundSession.isAcceptedInbound_slot : isAcceptedInbound session.slot = true := rfl

@[simp] theorem InboundSession.isOutbound_slot : session.slot.isOutbound = false := rfl

@[simp] theorem InboundSession.remote_slot : session.slot.remote = session.remote := rfl

end Slots

inductive PeersRegion where
  | len
  | containsKey (peerId : PeerId)
  | connectedPoolKeys
  | admitLive (peerId : PeerId) (remote : SocketAddr) (link : LinkId) (generation : Nat)
  | insertLive (peerId : PeerId) (remote : SocketAddr) (link : LinkId) (generation : Nat)
  | admitNat (conn : NatConnection) (source : AdmissionSource)
  | adoptDirectInbound (session : DirectInbound)
  | adoptRelayedInbound (session : RelayedInbound)
  | setSink (peerId : PeerId) (sink : SinkId)
  | remove (peerId : PeerId)
  | reapDeparted
  | removeForBan (peerId : PeerId) (callerGeneration : Option Nat)
  | removeIfGeneration (peerId : PeerId) (generation : Nat)
  | liveReputation (peerId : PeerId) (generation : Nat)
  | penalizeLive (peerId : PeerId) (reason : PenaltyReason) (now : Nat)

@[reducible] def PeersRegion.Reply : PeersRegion -> Type
  | len => Nat
  | containsKey _ => Bool
  | connectedPoolKeys => List CandidateKey
  | admitLive _ _ _ _ => Except OutboundDiversityConflict (Option PeerSlot)
  | insertLive _ _ _ _ => Option PeerSlot
  | admitNat _ _ => Except GossipError NatAdmission
  | adoptDirectInbound _ => Except GossipError (Option PeerSlot)
  | adoptRelayedInbound _ => Except GossipError (Option PeerSlot)
  | setSink _ _ => Bool
  | remove _ => Option PeerSlot
  | reapDeparted => List PeerId
  | removeForBan _ _ => Option (Option PeerSlot)
  | removeIfGeneration _ _ => Option LiveSlot
  | liveReputation _ _ => Bool
  | penalizeLive _ _ _ => Option (Bool × Nat)

namespace ServiceState

/-! ## Admissions -/

/-- Whether the peer already holds an outbound slot. -/
def isOutboundReconnect (s : ServiceState) (peerId : PeerId) : Bool :=
  (s.peers.lookup peerId).any PeerSlot.isOutbound

/-- The admission of `connect_to`: only a peer without an outbound slot faces
the diversity check. -/
def admitLive (s : ServiceState) (peerId : PeerId) (remote : SocketAddr) (link : LinkId)
    (generation : Nat) : Locked × Except OutboundDiversityConflict (Option PeerSlot) :=
  let conflict :=
    if s.isOutboundReconnect peerId then none
    else outboundDiversityConflict s.peers s.asTable peerId remote.ip false
  match conflict with
  | some kind => (s.locked, .error kind)
  | none =>
      let inserted := { s.locked with
        peers := s.peers.insert peerId (liveSlot remote true link generation)
        reputations := s.reputations.insert generation {} }
      (inserted, .ok (s.peers.lookup peerId))

/-- The insertion of an accepted TLS session, which is not checked again. -/
def insertLive (s : ServiceState) (peerId : PeerId) (remote : SocketAddr) (link : LinkId)
    (generation : Nat) : Locked × Option PeerSlot :=
  let inserted := { s.locked with
    peers := s.peers.insert peerId (liveSlot remote false link generation)
    reputations := s.reputations.insert generation {} }
  (inserted, s.peers.lookup peerId)

/-- The budgets of `admit_nat_connection` that are checked before a peer may
be cycled out. -/
def refuseNat (s : ServiceState) (conn : NatConnection) (source : AdmissionSource) :
    Option GossipError :=
  if (s.peers.lookup conn.peerId).isNone ∧ source = .maintained ∧
      s.config.maxConnections ≤ FiniteMap.size s.peers then
    some (.maxConnectionsReached s.config.maxConnections)
  else if s.isOutboundReconnect conn.peerId then none
  else if conn.method = .relayed then
    let relayedOutbound := FiniteMap.countWhere s.peers fun _ slot => isRelayedOutbound slot
    let cap := maxRelayedOutbound s.config.targetOutboundCount
    if cap ≤ relayedOutbound then some (.connectionFiltered (.relayedOutboundCap cap)) else none
  else
    (outboundDiversityConflict s.peers s.asTable conn.peerId conn.remoteAddr.ip false).map
      fun kind => .connectionFiltered (.diversity kind conn.remoteAddr.ip)

def isNat : PeerSlot -> Bool
  | .nat _ => true
  | .live _ => false
  | .stub _ => false

/-- `activity_of`: the usefulness of the eligible peers that have a record. -/
def activityOf (activity : FiniteMap PeerId ActivityRecord) (order : PeerId -> Nat)
    (eligible : Finset PeerId) : List PeerActivity :=
  (listing order eligible).filterMap fun peerId =>
    (activity.lookup peerId).map fun row =>
      { peerId := peerId, admittedAt := row.admittedAt, lastActiveAt := row.lastActiveAt
        inFlight := row.inFlight }

/-- `displace_for_discovered_peer`: at a full pool a displaceable session is
removed, or the admission is refused. -/
def displaceForDiscoveredPeer (s : ServiceState) (order : PeerId -> Nat) :
    Locked × Except GossipError (Option (PeerId × PeerSlot)) :=
  let cyclable := FiniteMap.keysWhere s.peers fun _ slot => isNat slot
  let pool := s.pool.retainAdmitted s.peers.keys
  let request : DisplacementRequest := {
    connected := FiniteMap.size s.peers
    capacity := s.config.maxConnections
    incumbents := activityOf pool.activity order cyclable
    lastDisplacementAt := s.pool.lastDisplacementAt
    now := s.now }
  let pruned := { s.locked with activity := pool.activity }
  match planDisplacement request (s.config.peerPool.getD {}) with
  | .roomAlready => (pruned, .ok none)
  | .displace victim =>
      match s.peers.lookup victim with
      | none => (pruned, .error (.connectionFiltered (.victimNotHeld victim)))
      | some slot =>
          let removed := { s.locked with
            peers := s.peers.erase victim
            activity := (pool.recordDeparture victim).activity
            lastDisplacementAt := some s.now }
          (removed, .ok (some (victim, slot)))
  | .refused reason => (pruned, .error (.connectionFiltered (.poolFull reason)))

/-- The admission of `admit_nat_connection`. -/
def admitNat (s : ServiceState) (order : PeerId -> Nat) (conn : NatConnection)
    (source : AdmissionSource) : Locked × Except GossipError NatAdmission :=
  match s.refuseNat conn source with
  | some error => (s.locked, .error error)
  | none =>
      let (room, displaced) :=
        if (s.peers.lookup conn.peerId).isNone ∧ source = .discovered then
          s.displaceForDiscoveredPeer order
        else (s.locked, .ok none)
      match displaced with
      | .error error => (room, .error error)
      | .ok displaced =>
          let inserted := { room with peers := room.peers.insert conn.peerId conn.slot }
          (inserted, .ok { superseded := room.peers.lookup conn.peerId, displaced := displaced })

/-- The budgets of `adopt_direct_inbound_handle`. -/
def refuseDirectInbound (s : ServiceState) (session : InboundSession) : Option GossipError :=
  let held := s.peers.lookup session.peerId
  let capacity := s.config.maxConnections
  let acceptedDirect := FiniteMap.countWhere s.peers fun _ slot => isAcceptedDirect slot
  let acceptedInbound := FiniteMap.countWhere s.peers fun _ slot => isAcceptedInbound slot
  let sameGroup := FiniteMap.countWhere s.peers fun peerId slot =>
    decide (peerId ≠ session.peerId) && isAcceptedDirect slot &&
      inboundSourceGroup slot.remote.ip == inboundSourceGroup session.remote.ip
  if held.any fun slot => slot.dialAddr.isSome then
    some (.connectionFiltered (.dialableSlotHeld session.peerId))
  else if held.isNone ∧ capacity ≤ FiniteMap.size s.peers then
    some (.maxConnectionsReached capacity)
  else if held.any isAcceptedDirect = false ∧ maxDirectInbound capacity ≤ acceptedDirect then
    some (.connectionFiltered (.acceptedDirectCap (maxDirectInbound capacity)))
  else if held.any isAcceptedInbound = false ∧ maxInboundTotal capacity ≤ acceptedInbound then
    some (.connectionFiltered (.acceptedInboundCap (maxInboundTotal capacity)))
  else if maxDirectInboundPerGroup capacity ≤ sameGroup then
    some (.connectionFiltered (.sourceGroupCap (maxDirectInboundPerGroup capacity)))
  else none

/-- The budgets of `adopt_relayed_inbound_inner`. -/
def refuseRelayedInbound (s : ServiceState) (session : InboundSession) : Option GossipError :=
  let held := s.peers.lookup session.peerId
  let capacity := s.config.maxConnections
  let acceptedRelayed := FiniteMap.countWhere s.peers fun _ slot => isAcceptedRelayed slot
  let acceptedInbound := FiniteMap.countWhere s.peers fun _ slot => isAcceptedInbound slot
  if held.any fun slot => !isRelayed slot then
    some (.connectionFiltered (.directSlotHeld session.peerId))
  else if held.isNone ∧ capacity ≤ FiniteMap.size s.peers then
    some (.maxConnectionsReached capacity)
  else if held.any isAcceptedRelayed = false ∧ maxRelayedInbound capacity ≤ acceptedRelayed then
    some (.connectionFiltered (.acceptedRelayedCap (maxRelayedInbound capacity)))
  else if held.any isAcceptedInbound = false ∧ maxInboundTotal capacity ≤ acceptedInbound then
    some (.connectionFiltered (.acceptedInboundCap (maxInboundTotal capacity)))
  else none

/-- Insert an accepted session unless its budgets refuse it. -/
def adoptInbound (s : ServiceState) (refusal : Option GossipError) (session : InboundSession) :
    Locked × Except GossipError (Option PeerSlot) :=
  match refusal with
  | some error => (s.locked, .error error)
  | none =>
      let inserted := { s.locked with peers := s.peers.insert session.peerId session.slot }
      (inserted, .ok (s.peers.lookup session.peerId))

/-- `set_nat_broadcast_sink`: false when the peer holds no session slot. -/
def setSink (s : ServiceState) (peerId : PeerId) (sink : SinkId) : Locked × Bool :=
  match s.peers.lookup peerId with
  | some (.nat slot) =>
      let wired := s.peers.insert peerId (.nat { slot with sink := some sink })
      ({ s.locked with peers := wired }, true)
  | some (.live _) => (s.locked, false)
  | some (.stub _) => (s.locked, false)
  | none => (s.locked, false)

/-! ## Removals -/

/-- The removal of `disconnect`; the usefulness record goes with the slot. -/
def remove (s : ServiceState) (peerId : PeerId) : Locked × Option PeerSlot :=
  match s.peers.lookup peerId with
  | none => (s.locked, none)
  | some slot =>
      let removed := { s.locked with
        peers := s.peers.erase peerId
        activity := (s.pool.recordDeparture peerId).activity }
      (removed, some slot)

/-- The removal of `reap_departed_peers`. -/
def reapDeparted (s : ServiceState) (order : PeerId -> Nat) : Locked × List PeerId :=
  let departed := FiniteMap.keysWhere s.peers fun _ slot => s.slotIsDeparted slot
  let removed := { s.locked with
    peers := FiniteMap.retain s.peers fun _ slot => !s.slotIsDeparted slot
    activity := FiniteMap.retain s.pool.activity fun peerId _ => decide (peerId ∉ departed) }
  (removed, listing order departed)

/-- Whether the peer's slot is the live one of this generation. -/
def holdsGeneration (s : ServiceState) (peerId : PeerId) (generation : Nat) : Bool :=
  match s.peers.lookup peerId with
  | some (.live slot) => slot.generation == generation
  | some (.nat _) => false
  | some (.stub _) => false
  | none => false

/-- The removal of `enforce_timed_ban_and_disconnect`; no result means that the
caller's generation was superseded and nothing is to be done. -/
def removeForBan (s : ServiceState) (peerId : PeerId) (callerGeneration : Option Nat) :
    Locked × Option (Option PeerSlot) :=
  if callerGeneration.all (s.holdsGeneration peerId) then
    ({ s.locked with peers := s.peers.erase peerId }, some (s.peers.lookup peerId))
  else (s.locked, none)

/-- The removal of `disconnect_after_keepalive_failure`. -/
def removeIfGeneration (s : ServiceState) (peerId : PeerId) (generation : Nat) :
    Locked × Option LiveSlot :=
  match s.peers.lookup peerId with
  | some (.live slot) =>
      if slot.generation = generation then
        ({ s.locked with peers := s.peers.erase peerId }, some slot)
      else (s.locked, none)
  | some (.nat _) => (s.locked, none)
  | some (.stub _) => (s.locked, none)
  | none => (s.locked, none)

/-! ## Reputation under the lock -/

/-- The reputation kept under a generation. -/
def reputation (s : ServiceState) (generation : Nat) : PeerReputation :=
  (s.reputations.lookup generation).getD {}

/-- `penalize_peer` on a live slot: whether the threshold was crossed and the points reached. -/
def penalizeLive (s : ServiceState) (peerId : PeerId) (reason : PenaltyReason) (now : Nat) :
    Locked × Option (Bool × Nat) :=
  match s.peers.lookup peerId with
  | some (.live slot) =>
      let (charged, crossed) := (s.reputation slot.generation).applyPenalty reason now
      ({ s.locked with reputations := s.reputations.insert slot.generation charged },
        some (crossed, charged.penaltyPoints))
  | some (.nat _) => (s.locked, none)
  | some (.stub _) => (s.locked, none)
  | none => (s.locked, none)

/-- What a region does under the lock, and its result. -/
def within (s : ServiceState) (order : PeerId -> Nat) : (region : PeersRegion) -> Locked × region.Reply
  | .len => (s.locked, FiniteMap.size s.peers)
  | .containsKey peerId => (s.locked, (s.peers.lookup peerId).isSome)
  | .connectedPoolKeys => (s.locked, s.connectedPoolKeys order)
  | .admitLive peerId remote link generation => s.admitLive peerId remote link generation
  | .insertLive peerId remote link generation => s.insertLive peerId remote link generation
  | .admitNat conn source => s.admitNat order conn source
  | .adoptDirectInbound session =>
      s.adoptInbound (s.refuseDirectInbound session.toInboundSession)
      session.toInboundSession
  | .adoptRelayedInbound session =>
      s.adoptInbound (s.refuseRelayedInbound session.toInboundSession)
      session.toInboundSession
  | .setSink peerId sink => s.setSink peerId sink
  | .remove peerId => s.remove peerId
  | .reapDeparted => s.reapDeparted order
  | .removeForBan peerId callerGeneration => s.removeForBan peerId callerGeneration
  | .removeIfGeneration peerId generation => s.removeIfGeneration peerId generation
  | .liveReputation peerId generation => (s.locked, s.holdsGeneration peerId generation)
  | .penalizeLive peerId reason now => s.penalizeLive peerId reason now

end ServiceState

end Service
end DigGossip
