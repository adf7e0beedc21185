import DigGossip.Service.Actions

namespace DigGossip
namespace Service

open Foundations DigGossip.Types

/-!
# The operations of the service

Each asynchronous function of the source is the program of its atomic actions,
in the order of the source.  What comes from outside (the result of a dial or
of a handshake, the candidates of the address book, the number of peers a
relay reports) is a parameter of the operation.
-/

abbrev ServiceProgram (R : Type) := Program Action Action.Reply R

def perform (action : Action) : ServiceProgram action.Reply :=
  Program.perform action

/-- One region of the peers lock. -/
def within (region : PeersRegion) : ServiceProgram region.Reply :=
  Program.perform (Action.peers region)

/-! ## Bans -/

/-- `cs.unban`, for an address that names a host. -/
def unbanHost (ip : IpAddr) : ServiceProgram Unit :=
  if isUnspecified ip then pure () else perform (.unbanIp ip)

def unbanExpired : List (PeerId × IpAddr) -> ServiceProgram Unit
  | [] => pure ()
  | (peerId, ip) :: rest => do
      unbanHost ip
      perform (.removePenalty peerId)
      unbanExpired rest

def pruneExpiredDigBans (now : Nat) : ServiceProgram Unit := do
  let expired <- perform (.pruneBanned now)
  unbanExpired expired

def isPeerIdBannedAt (peerId : PeerId) (now : Nat) : ServiceProgram Bool := do
  pruneExpiredDigBans now
  perform (.bannedContains peerId)

def executeDigTimedBan (peerId : PeerId) (remoteIp : IpAddr) (now : Nat) : ServiceProgram Unit := do
  let entry := { untilSecs := saturatingAdd u64Max now banDurationSecs, ip := remoteIp }
  perform (.insertBan peerId entry)
  if isUnspecified remoteIp then pure () else perform (.banIp remoteIp)

/-! ## Retiring slots -/

def closeLive (slot : LiveSlot) : ServiceProgram Unit := do
  perform (.effect (.keepaliveAborted slot.generation))
  perform (.effect (.linkClosed slot.peer))

/-- The teardown of the paths that know only live slots. -/
def retireLive : Option PeerSlot -> ServiceProgram Unit
  | some (.live slot) => closeLive slot
  | some (.nat _) => pure ()
  | some (.stub _) => pure ()
  | none => pure ()

/-- `retire_slot`: an observed session's owner is told, an owned one closes by itself. -/
def retireSlot : PeerSlot -> ServiceProgram Unit
  | .live stale => closeLive stale
  | .nat stale =>
      match stale.conn with
      | .observed session => perform (.effect (.noticeFired session))
      | .owned _ => pure ()
  | .stub _ => pure ()

def retireSuperseded : Option PeerSlot -> ServiceProgram Unit
  | some stale => retireSlot stale
  | none => pure ()

def enforceTimedBanAndDisconnect (peerId : PeerId) (now : Nat) (callerGeneration : Option Nat) :
    ServiceProgram Unit := do
  pruneExpiredDigBans now
  match <- within (.removeForBan peerId callerGeneration) with
  | none => pure ()
  | some removed =>
      let ip := (removed.map fun slot => slot.remote.ip).getD (.v4 0)
      retireLive removed
      executeDigTimedBan peerId ip now

/-! ## Announcing -/

/-- `publish`: an addition first opens or restarts the usefulness record. -/
def publish : PoolEvent -> ServiceProgram Unit
  | .peerAdded peerId addr => do
      let now <- perform .readClock
      perform (.recordAdmission peerId now)
      perform (.sendEvent (.peerAdded peerId addr))
  | .peerRemoved peerId reason => perform (.sendEvent (.peerRemoved peerId reason))

def removeFromPlumtreeUnlessReconnected (peerId : PeerId) : ServiceProgram Unit := do
  if <- within (.containsKey peerId) then pure () else perform (.tree .removePeer peerId)

/-- What every announced admission does once the lock is released. -/
def joinPool (peerId : PeerId) (addr : SocketAddr) (superseded : Option PeerSlot) :
    ServiceProgram Unit := do
  retireSuperseded superseded
  perform (.tree .addPeer peerId)
  perform .countConnection
  publish (.peerAdded peerId addr)

/-! ## Connections this node opens -/

section Configured

variable (config : GossipConfig)

/-- A TLS session that reached a peer, and its answer to `RequestPeers`. -/
structure Dialed where
  peerId : PeerId
  link : LinkId
  respondPeers : Except GossipError Unit

def connectTo (addr : SocketAddr) (dial : Except GossipError Dialed) :
    ServiceProgram (Except GossipError PeerId) := do
  if !(<- perform .isRunning) then return .error .serviceNotStarted
  if <- perform (.dialTargetsLocalListen addr) then return .error .selfConnection
  if config.maxConnections ≤ (<- within .len) then
    return .error (.maxConnectionsReached config.maxConnections)
  match dial with
  | .error error => return .error error
  | .ok out =>
      if out.peerId = config.peerId then
        perform (.effect (.linkClosed out.link))
        return .error .selfConnection
      let now <- perform .readClock
      if <- isPeerIdBannedAt out.peerId now then
        perform (.effect (.linkClosed out.link))
        return .error (.peerBanned out.peerId)
      match out.respondPeers with
      | .error error => return .error error
      | .ok () =>
          let generation <- perform .nextPeerGeneration
          match <- within (.admitLive out.peerId addr out.link generation) with
          | .error kind =>
              perform (.effect (.keepaliveAborted generation))
              perform (.effect (.linkClosed out.link))
              return .error (.connectionFiltered (.diversity kind addr.ip))
          | .ok superseded =>
              joinPool out.peerId addr superseded
              return .ok out.peerId

structure DiscoveryAdmission where
  peerId : PeerId
  displaced : Option PeerId

/-- The peer cycled out is torn down and announced after the newcomer. -/
def announceDisplaced : Option (PeerId × PeerSlot) -> ServiceProgram Unit
  | some (victim, slot) => do
      retireSlot slot
      publish (.peerRemoved victim .displaced)
      removeFromPlumtreeUnlessReconnected victim
  | none => pure ()

def admitNatConnection (conn : NatConnection) (source : AdmissionSource) :
    ServiceProgram (Except GossipError DiscoveryAdmission) := do
  if !(<- perform .isRunning) then return .error .serviceNotStarted
  if conn.peerId = config.peerId then return .error .selfConnection
  let now <- perform .readClock
  if <- isPeerIdBannedAt conn.peerId now then return .error (.peerBanned conn.peerId)
  match <- within (.admitNat conn source) with
  | .error error => return .error error
  | .ok admission =>
      joinPool conn.peerId conn.remoteAddr admission.superseded
      announceDisplaced admission.displaced
      return .ok { peerId := conn.peerId, displaced := admission.displaced.map Prod.fst }

def adoptNatConnection (conn : NatConnection) : ServiceProgram (Except GossipError PeerId) := do
  let admission <- admitNatConnection config conn .maintained
  return admission.map DiscoveryAdmission.peerId

def adoptDiscoveredNatConnection (conn : NatConnection) :
    ServiceProgram (Except GossipError DiscoveryAdmission) :=
  admitNatConnection config conn .discovered

/-! ## Connections this node accepts -/

/-- A TLS session accepted from a peer; the negotiation after it may fail. -/
structure AcceptedTls where
  peerId : PeerId
  link : LinkId
  negotiated : Bool

/-- `handle_inbound_rustls` with `negotiate_inbound_over_ws`. -/
def handleInbound (remote : SocketAddr) (tls : Option AcceptedTls) : ServiceProgram Unit := do
  if !(<- perform .isRunning) then return ()
  match tls with
  | none => return ()
  | some session =>
      if session.peerId = config.peerId then return ()
      let now <- perform .readClock
      if <- isPeerIdBannedAt session.peerId now then return ()
      if !session.negotiated then return ()
      let generation <- perform .nextPeerGeneration
      let superseded <- within (.insertLive session.peerId remote session.link generation)
      retireLive superseded
      perform .countConnection

/-- One round of `accept_loop` and the task it spawns. -/
def acceptInbound (remote : SocketAddr) (tls : Option AcceptedTls) : ServiceProgram Unit := do
  if !(<- perform .isRunning) then return ()
  if config.maxConnections ≤ (<- within .len) then return ()
  if !(<- perform .tryAcquirePermit) then return ()
  handleInbound config remote tls
  perform .releasePermit

def adoptDirectInboundHandle (peerId : PeerId) (remote : SocketAddr) (method : TraversalKind)
    (session : SessionId) (sink : Option SinkId) :
    ServiceProgram (Except GossipError PeerId) := do
  if !(<- perform .isRunning) then return .error .serviceNotStarted
  if tier : method = .relayed then
    return .error (.connectionFiltered .relayedCircuitOnDirectEntry)
  else
    if peerId = config.peerId then return .error .selfConnection
    let now <- perform .readClock
    if <- isPeerIdBannedAt peerId now then return .error (.peerBanned peerId)
    let accepted : DirectInbound := {
      peerId := peerId, remote := remote, method := method
      transport := .observed session, sink := sink, direct := tier }
    match <- within (.adoptDirectInbound accepted) with
    | .error error => return .error error
    | .ok superseded =>
        joinPool peerId remote superseded
        return .ok peerId

def adoptRelayedInboundInner (session : InboundSession) :
    ServiceProgram (Except GossipError PeerId) := do
  if !(<- perform .isRunning) then return .error .serviceNotStarted
  if tier : session.method = .relayed then
    if session.peerId = config.peerId then return .error .selfConnection
    let now <- perform .readClock
    if <- isPeerIdBannedAt session.peerId now then return .error (.peerBanned session.peerId)
    match <- within (.adoptRelayedInbound { session with relayed := tier }) with
    | .error error => return .error error
    | .ok superseded =>
        joinPool session.peerId session.remote superseded
        return .ok session.peerId
  else return .error (.connectionFiltered (.notARelayedCircuit session.method))

def adoptRelayedInbound (conn : NatConnection) : ServiceProgram (Except GossipError PeerId) :=
  adoptRelayedInboundInner config {
    peerId := conn.peerId, remote := conn.remoteAddr, method := conn.method
    transport := .owned conn.session, sink := none }

def adoptRelayedInboundHandle (peerId : PeerId) (remote : SocketAddr) (session : SessionId)
    (sink : Option SinkId) : ServiceProgram (Except GossipError PeerId) :=
  adoptRelayedInboundInner config {
    peerId := peerId, remote := remote, method := .relayed
    transport := .observed session, sink := sink }

def setNatBroadcastSink (peerId : PeerId) (sink : SinkId) :
    ServiceProgram (Except GossipError Unit) := do
  if <- within (.setSink peerId sink) then return .ok ()
  else return .error (.peerNotConnected peerId)

/-! ## Departures -/

/-- A removal that found a slot is announced. -/
def announceDisconnected (peerId : PeerId) : Option PeerSlot -> ServiceProgram Unit
  | some _ => publish (.peerRemoved peerId .disconnected)
  | none => pure ()

def disconnect (peerId : PeerId) : ServiceProgram (Except GossipError Unit) := do
  if !(<- perform .isRunning) then return .error .serviceNotStarted
  let removed <- within (.remove peerId)
  retireLive removed
  announceDisconnected peerId removed
  removeFromPlumtreeUnlessReconnected peerId
  return .ok ()

def announceReaped : List PeerId -> ServiceProgram Unit
  | [] => pure ()
  | peerId :: rest => do
      publish (.peerRemoved peerId .reaped)
      removeFromPlumtreeUnlessReconnected peerId
      announceReaped rest

def reapDepartedPeers : ServiceProgram Nat := do
  let reaped <- within .reapDeparted
  announceReaped reaped
  return reaped.length

def banPeer (peerId : PeerId) : ServiceProgram (Except GossipError Unit) := do
  if !(<- perform .isRunning) then return .error .serviceNotStarted
  let now <- perform .readClock
  enforceTimedBanAndDisconnect peerId now none
  return .ok ()

/-- The penalty of `penalize_peer`: a live slot's reputation, else the service-wide map. -/
def chargePenalty (peerId : PeerId) (reason : PenaltyReason) (now : Nat) : ServiceProgram Bool := do
  match <- within (.penalizeLive peerId reason now) with
  | some (crossed, points) =>
      perform (.setPenalty peerId points)
      return crossed
  | none =>
      let total <- perform (.addPenalty peerId reason.penaltyPoints)
      return decide (penaltyBanThreshold ≤ total)

def penalizePeer (peerId : PeerId) (reason : PenaltyReason) :
    ServiceProgram (Except GossipError Unit) := do
  if !(<- perform .isRunning) then return .error .serviceNotStarted
  let now <- perform .readClock
  pruneExpiredDigBans now
  let alreadyBanned <- perform (.bannedContains peerId)
  let shouldEnforce <- chargePenalty peerId reason now
  if shouldEnforce && !alreadyBanned then
    enforceTimedBanAndDisconnect peerId now none
    return .ok ()
  else return .ok ()

def disconnectAfterKeepaliveFailure (peerId : PeerId) (generation : Nat) :
    ServiceProgram Unit := do
  let now <- perform .readClock
  match <- within (.removeIfGeneration peerId generation) with
  | none => pure ()
  | some live =>
      let (triggered, points) <- perform (.applyPenalty live.generation .connectionIssue now)
      perform (.effect (.linkClosed live.peer))
      perform (.setPenalty peerId points)
      if triggered then executeDigTimedBan peerId live.metadata.remote.ip now else pure ()

/-- `apply_inbound_rate_limit_violation` and the task it spawns. -/
def applyInboundRateLimitViolation (peerId : PeerId) (generation : Nat) : ServiceProgram Unit := do
  let now <- perform .readClock
  if !(<- within (.liveReputation peerId generation)) then return ()
  let (triggered, _) <- perform (.applyPenalty generation .rateLimitExceeded now)
  if !triggered then return ()
  let later <- perform .readClock
  enforceTimedBanAndDisconnect peerId later (some generation)

/-! ## The maintenance pass -/

/-- `HandleDialer::dial`: a candidate without an identity is not dialed. -/
def dialCandidate (dials : PoolCandidate -> Except GossipError NatConnection)
    (candidate : PoolCandidate) : ServiceProgram (Except GossipError PeerId) :=
  match candidate.peerId with
  | none => pure (.error (.clientError
      "candidate has no discovered peer_id to pin the mTLS SPKI; skipping"))
  | some _ =>
      match dials candidate with
      | .error error => pure (.error error)
      | .ok conn => adoptNatConnection config conn

/-- The pass announces a dialed candidate itself when it knows its address. -/
def announceDialed (peerId : PeerId) : Option SocketAddr -> ServiceProgram Unit
  | some addr => publish (.peerAdded peerId addr)
  | none => pure ()

/-- One turn of the loop of `run_maintenance_pass`: the number of peers added. -/
def dialPlanned (cfg : PeerPoolConfig) (now : Nat)
    (dials : PoolCandidate -> Except GossipError NatConnection) (candidate : PoolCandidate) :
    ServiceProgram Nat := do
  let key := candidate.dedupKey
  if !(<- perform (.reserve key)) then return 0
  let result <- dialCandidate config dials candidate
  perform (.release key)
  match result with
  | .ok peerId =>
      perform (.recordSuccess (.id peerId))
      perform (.recordSuccess key)
      announceDialed peerId candidate.addr
      return 1
  | .error _ =>
      perform (.recordFailure key now cfg)
      return 0

def dialAll (cfg : PeerPoolConfig) (now : Nat)
    (dials : PoolCandidate -> Except GossipError NatConnection) :
    List PoolCandidate -> ServiceProgram Nat
  | [] => pure 0
  | candidate :: rest => do
      let added <- dialPlanned config cfg now dials candidate
      let more <- dialAll cfg now dials rest
      return added + more

def runMaintenancePass (cfg : PeerPoolConfig) (connected directConnected : Nat)
    (connectedKeys : List CandidateKey) (candidates : List PoolCandidate) (now : Nat)
    (dials : PoolCandidate -> Except GossipError NatConnection) : ServiceProgram Nat := do
  let backoff <- perform .backoffSnapshot
  let inFlight <- perform .inFlightCount
  let plan := planPass {
    connected := connected, directConnected := directConnected, inFlight := inFlight
    connectedKeys := connectedKeys, candidates := candidates, backoff := backoff, now := now } cfg
  dialAll config cfg now dials plan.toDial

def runPoolMaintenanceOnce (relayReachable : Nat) (candidates : List PoolCandidate)
    (dials : PoolCandidate -> Except GossipError NatConnection) : ServiceProgram Nat := do
  match config.peerPool with
  | none => return 0
  | some cfg =>
      let cfg := cfg.normalized
      let started <- perform .readClock
      pruneExpiredDigBans started
      let directConnected <- within .len
      let connectedKeys <- within .connectedPoolKeys
      let now <- perform .readClock
      runMaintenancePass config cfg (directConnected + relayReachable) directConnected
        connectedKeys candidates now dials

end Configured

/-! ## Usefulness guards -/

def peerActivityGuard (peerId : PeerId) : ServiceProgram Bool := do
  let now <- perform .readClock
  perform (.beginActivity peerId now)

/-- The drop of a guard. -/
def dropActivityGuard (peerId : PeerId) : ServiceProgram Unit := do
  let now <- perform .readClock
  perform (.endActivity peerId now)

/-! ## The service as a system of threads -/

/-- The operations that may be started, with what each meets outside.  The last
four are steps of the environment and of the broadcast layer's callers. -/
inductive Operation where
  | connectTo (addr : SocketAddr) (dial : Except GossipError Dialed)
  | acceptInbound (remote : SocketAddr) (tls : Option AcceptedTls)
  | adoptNatConnection (conn : NatConnection)
  | adoptDiscoveredNatConnection (conn : NatConnection)
  | adoptDirectInboundHandle (peerId : PeerId) (remote : SocketAddr) (method : TraversalKind)
      (session : SessionId) (sink : Option SinkId)
  | adoptRelayedInbound (conn : NatConnection)
  | adoptRelayedInboundHandle (peerId : PeerId) (remote : SocketAddr) (session : SessionId)
      (sink : Option SinkId)
  | setNatBroadcastSink (peerId : PeerId) (sink : SinkId)
  | disconnect (peerId : PeerId)
  | reapDepartedPeers
  | banPeer (peerId : PeerId)
  | penalizePeer (peerId : PeerId) (reason : PenaltyReason)
  | disconnectAfterKeepaliveFailure (peerId : PeerId) (generation : Nat)
  | applyInboundRateLimitViolation (peerId : PeerId) (generation : Nat)
  | runPoolMaintenanceOnce (relayReachable : Nat) (candidates : List PoolCandidate)
      (dials : PoolCandidate -> Except GossipError NatConnection)
  | peerActivityGuard (peerId : PeerId)
  | dropActivityGuard (peerId : PeerId)
  | setClock (now : Nat)
  | closeSession (session : SessionId)
  | demoteToLazy (peerId : PeerId)
  | promoteToEager (peerId : PeerId)

inductive Outcome where
  | peer (result : Except GossipError PeerId)
  | admission (result : Except GossipError DiscoveryAdmission)
  | completed (result : Except GossipError Unit)
  | count (number : Nat)
  | guard (begun : Bool)
  | finished

def Operation.program (config : GossipConfig) : Operation -> ServiceProgram Outcome
  | connectTo addr dial => Outcome.peer <$> Service.connectTo config addr dial
  | acceptInbound remote tls => (fun _ => .finished) <$> Service.acceptInbound config remote tls
  | adoptNatConnection conn => Outcome.peer <$> Service.adoptNatConnection config conn
  | adoptDiscoveredNatConnection conn =>
      Outcome.admission <$> Service.adoptDiscoveredNatConnection config conn
  | adoptDirectInboundHandle peerId remote method session sink =>
      Outcome.peer <$> Service.adoptDirectInboundHandle config peerId remote method session sink
  | adoptRelayedInbound conn => Outcome.peer <$> Service.adoptRelayedInbound config conn
  | adoptRelayedInboundHandle peerId remote session sink =>
      Outcome.peer <$> Service.adoptRelayedInboundHandle config peerId remote session sink
  | setNatBroadcastSink peerId sink => Outcome.completed <$> Service.setNatBroadcastSink peerId sink
  | disconnect peerId => Outcome.completed <$> Service.disconnect peerId
  | reapDepartedPeers => Outcome.count <$> Service.reapDepartedPeers
  | banPeer peerId => Outcome.completed <$> Service.banPeer peerId
  | penalizePeer peerId reason => Outcome.completed <$> Service.penalizePeer peerId reason
  | disconnectAfterKeepaliveFailure peerId generation =>
      (fun _ => .finished) <$> Service.disconnectAfterKeepaliveFailure peerId generation
  | applyInboundRateLimitViolation peerId generation =>
      (fun _ => .finished) <$> Service.applyInboundRateLimitViolation peerId generation
  | runPoolMaintenanceOnce relayReachable candidates dials =>
      Outcome.count <$> Service.runPoolMaintenanceOnce config relayReachable candidates dials
  | peerActivityGuard peerId => Outcome.guard <$> Service.peerActivityGuard peerId
  | dropActivityGuard peerId => (fun _ => .finished) <$> Service.dropActivityGuard peerId
  | setClock now => (fun _ => .finished) <$> perform (.setClock now)
  | closeSession session => (fun _ => .finished) <$> perform (.closeSession session)
  | demoteToLazy peerId => (fun _ => .finished) <$> perform (.tree .demoteToLazy peerId)
  | promoteToEager peerId => (fun _ => .finished) <$> perform (.tree .promoteToEager peerId)

abbrev ServiceWorld := World ServiceState Action Action.Reply Outcome

/-- A move of the scheduler; an advance carries the order its action traverses maps in. -/
abbrev ServiceMove := Move Operation (PeerId -> Nat)

/-- The service with its configuration, as a system of threads. -/
def service (config : GossipConfig) :
    System ServiceState Action Action.Reply Outcome Operation (PeerId -> Nat) where
  exec := exec
  program := Operation.program config

/-- What the service is started with, and when. -/
structure Launch where
  config : GossipConfig
  asTable : AsLookupTable
  bound : SocketAddr
  now : Nat

namespace Launch

variable (launch : Launch)

/-- The world right after `start`. -/
def world : ServiceWorld :=
  World.idle (ServiceState.started launch.config launch.asTable launch.bound launch.now)

/-- The world after these moves of the scheduler. -/
def after (moves : List ServiceMove) : ServiceWorld :=
  (service launch.config).run moves launch.world

/-- Every action of a run passes the test in the state it is done in. -/
def allows (test : (PeerId -> Nat) -> Action -> ServiceState -> Bool) (moves : List ServiceMove) :
    Bool :=
  (service launch.config).along (System.onAction test) moves launch.world

/-- Every move of a run passes the test in the world it is made in. -/
def along (test : ServiceWorld -> ServiceMove -> Bool) (moves : List ServiceMove) : Bool :=
  (service launch.config).along test moves launch.world

/-- Everything the operations have done along these moves, with the replies they got. -/
def trace (moves : List ServiceMove) : List (System.Deed Action Action.Reply) :=
  (service launch.config).trace moves launch.world

variable {launch} in
/-- The actions of a run are tested as the events of the system's step. -/
theorem along_of_allows {test : (PeerId -> Nat) -> Action -> ServiceState -> Bool}
    {moves : List ServiceMove} (passed : launch.allows test moves = true) :
    Stepping.along (service launch.config).step (System.onAction test) moves launch.world = true :=
  (System.along_eq _ moves launch.world).symm.trans passed

theorem after_concat (moves : List ServiceMove) (move : ServiceMove) :
    launch.after (moves ++ [move]) = (service launch.config).step (launch.after moves) move :=
  System.run_concat moves move launch.world

/-- What an operation's program promises, and each of its own actions keeps,
holds of its thread. -/
theorem promise {Promise : Operation -> ServiceProgram Outcome -> Prop}
    (begun : forall op, Promise op (op.program launch.config))
    (kept : forall op order s action next, Promise op (.act action next) ->
      Promise op (next (exec order action s).2))
    {moves : List ServiceMove} {thread : Nat} {op : Operation} {program : ServiceProgram Outcome}
    (started : (System.spawned moves)[thread]? = some op)
    (running : (launch.after moves).threads[thread]? = some program) : Promise op program :=
  @System.thread_invariant _ _ _ _ _ _ (service launch.config) Promise begun kept moves
    launch.world.shared thread op program started running

/-- A run is not held to any test. -/
theorem allows_everything (moves : List ServiceMove) :
    launch.allows (fun _ _ _ => true) moves = true :=
  System.along_always (fun w move => by
    cases move with
    | spawn op => rfl
    | advance thread choice =>
        simp only [System.onAction]
        split <;> rfl) moves launch.world

end Launch

/-! ## Small worlds -/

/-- Each operation is spawned and advanced so many times before the next one is. -/
def inSequence (steps : Nat) (operations : List Operation) : List ServiceMove :=
  operations.zipIdx.flatMap fun (operation, thread) =>
    .spawn operation :: List.replicate steps (.advance thread fun _ => 0)

namespace Example

/-- The address 10.`subnet`.0.`number`. -/
def host (subnet number : Nat) : SocketAddr where
  ip := .v4 (BitVec.ofNat 32 (10 * 2 ^ 24 + subnet * 2 ^ 16 + number))
  port := 9444

def config : GossipConfig where
  peerId := 0
  listenAddr := host 0 0
  maxConnections := 8
  targetOutboundCount := 4
  peerPool := none
  maxInflightHandshakes := 4

def launch : Launch where
  config := config
  asTable := .empty
  bound := host 0 0
  now := 1000

/-- A node with room for one peer, which it may cycle out. -/
def crowded : Launch :=
  { launch with config := { config with maxConnections := 1, peerPool := some { minPeers := 0 } } }

/-- A direct session to the peer, in a subnet of its own. -/
def direct (peerId : PeerId) : NatConnection where
  peerId := peerId
  remoteAddr := host peerId.val 1
  method := .direct
  session := peerId.val

/-- A dial that reaches the peer over the link of its number. -/
def connected (peerId : PeerId) (addr : SocketAddr) : Operation :=
  .connectTo addr (.ok { peerId := peerId, link := peerId.val, respondPeers := .ok () })

end Example

/-! ## Invariants of the peer map -/

/-- The test of an action that looks at the region and the state it is entered in. -/
def onRegion (test : ServiceState -> PeersRegion -> Bool) (_ : PeerId -> Nat) :
    Action -> ServiceState -> Bool
  | .peers region, s => test s region
  | _, _ => true

/-- A property of the peer map that every permitted change keeps holds after
every run whose regions are all permitted. -/
theorem peers_invariant {launch : Launch} {test : ServiceState -> PeersRegion -> Bool}
    {Inv : Peers -> Prop}
    (kept : forall s region after, s.config = launch.config -> s.asTable = launch.asTable ->
      test s region = true -> Inv s.peers -> PeersChange s region after -> Inv after)
    (empty : Inv ∅) {moves : List ServiceMove} (passed : launch.allows (onRegion test) moves = true) :
    Inv (launch.after moves).shared.peers := by
  let whole := fun s : ServiceState =>
    s.config = launch.config ∧ s.asTable = launch.asTable ∧ Inv s.peers
  suffices step : forall order action s, onRegion test order action s = true -> whole s ->
      whole (exec order action s).1 by
    have start : whole launch.world.shared := ⟨rfl, rfl, empty⟩
    exact (System.shared_invariant step passed start).2.2
  intro order action s allowed inv
  refine ⟨(exec_config order action s).trans inv.1, (exec_asTable order action s).trans inv.2.1, ?_⟩
  rcases exec_peers order action s with same | ⟨region, rfl, entered⟩
  · rw [same]
    exact inv.2.2
  · rw [entered]
    exact kept s region _ inv.1 inv.2.1 allowed inv.2.2 (within_change s region order)

end Service
end DigGossip
