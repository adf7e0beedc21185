import DigGossip.Foundations.Beside
import DigGossip.Service.FanOut
import DigGossip.Service.Negotiation
import DigGossip.Service.Operations

namespace DigGossip
namespace Service

open Foundations DigGossip.Types
open Program (Only Shadows)

/-!
# Sending beside everything else

A directed send and a fan-out hold no lock while a frame travels.  They look up
whom to serve, hand the frame over, and meter it on whatever slot the peer has
by then.  The sends are threads here beside the operations of the service, which
admit, replace and remove peers meanwhile.

A fan-out that nothing interferes with is the one of the broadcast model.
-/

/-- What an action of a send meets: the order of a traversal, and what a link or
a sink answers. -/
structure Meets where
  order : PeerId -> Nat
  answers : Answers

inductive SendAction where
  | see (call : Call)
  | cache (call : Call)
  | collect (exclude : Option PeerId)
  | findLink (peerId : PeerId)
  | sendMessage (link : LinkId) (peerId : PeerId) (message : DigMessage)
  | answer (link : LinkId) (peerId : PeerId) (reply : DigMessage)
  | offer (sink : SinkId) (peerId : PeerId) (message : DigMessage)
  | findTraffic (peerId : PeerId) (wireLen : Nat)
  | recordMessageSent (generation wireLen : Nat)
  | countMessages (deliveries : Nat)
  | countBytes (wireLen deliveries : Nat)
  | listTraffic
  | readTraffic (generation : Nat)
  | loadMessagesSent
  | loadBytesSent
  | loadTotalConnections
  | countPeers
  | countSeen

/-- What `stats` counts of the peer map under one lock. -/
structure PeerCounts where
  connectedPeers : Nat
  inboundConnections : Nat
  outboundConnections : Nat
  relayTransportPeerCount : Nat

@[reducible] def SendAction.Reply : SendAction -> Type
  | see _ => Bool
  | collect _ => Jobs
  | findLink _ => Option (Option LinkId)
  | sendMessage _ _ _ | answer _ _ _ => Except String Unit
  | offer _ _ _ => Bool
  | findTraffic _ _ => Option Nat
  | listTraffic => List Nat
  | readTraffic _ => WireMetrics
  | loadMessagesSent | loadBytesSent | loadTotalConnections | countSeen => Nat
  | countPeers => PeerCounts
  | cache _ | recordMessageSent _ _ | countMessages _ | countBytes _ _ => Unit

/-- The link of a held peer; a stub or a session slot has none. -/
def ServiceState.linkOf (s : ServiceState) (peerId : PeerId) : Option (Option LinkId) :=
  match s.peers.lookup peerId with
  | some (.live slot) => some (some slot.peer)
  | some (.stub _) => some none
  | some (.nat _) => some none
  | none => none

/-- The generation of the live slot that a peer holds. -/
def ServiceState.liveGeneration (s : ServiceState) (peerId : PeerId) : Option Nat :=
  match s.peers.lookup peerId with
  | some (.live slot) => some slot.generation
  | some (.stub _) => none
  | some (.nat _) => none
  | none => none

/-- The generations of the live slots, in the order of the traversal. -/
def ServiceState.liveGenerations (s : ServiceState) (order : PeerId -> Nat) : List Nat :=
  (listing order s.peers.keys).filterMap s.liveGeneration

def ServiceState.peerCounts (s : ServiceState) : PeerCounts where
  connectedPeers := FiniteMap.size s.peers
  inboundConnections := FiniteMap.countWhere s.peers fun _ slot => !slot.isOutbound
  outboundConnections := FiniteMap.countWhere s.peers fun _ slot => slot.isOutbound
  relayTransportPeerCount := FiniteMap.countWhere s.peers fun _ slot => isRelayed slot

namespace Call

/-- The seen set's part of `fan_out`; the reply says whether the call ends there. -/
def see (wire : Wire) (call : Call) (s : GossipState) : GossipState × Bool :=
  if call.isSuppressed wire s then (s, true)
  else ({ s with seenMessages := s.seenMessages.put (call.hash wire) () }, false)

def cache (wire : Wire) (call : Call) (s : GossipState) : GossipState :=
  { s with
    messageCache := s.messageCache.put (call.hash wire)
      { data := call.message.data, msgType := call.message.msgType, insertedAt := s.service.now } }

end Call

/-- The effect of a send's own action and its reply. -/
def execSend (wire : Wire) (meets : Meets) :
    (action : SendAction) -> GossipState -> GossipState × action.Reply
  | .see call, s => call.see wire s
  | .cache call, s => (call.cache wire s, ())
  | .collect exclude, s => (s, collectJobs s.service meets.order exclude)
  | .findLink peerId, s => (s, s.service.linkOf peerId)
  | .sendMessage _ peerId _, s => (s, meets.answers.sendMessage peerId)
  | .answer _ peerId _, s => (s, meets.answers.sendMessage peerId)
  | .offer _ peerId _, s => (s, meets.answers.offer peerId)
  | .findTraffic peerId _, s => (s, s.service.liveGeneration peerId)
  | .recordMessageSent generation wireLen, s => (s.recordMessageSent generation wireLen, ())
  | .countMessages deliveries, s => (s.countMessages deliveries, ())
  | .countBytes wireLen deliveries, s => (s.countBytes wireLen deliveries, ())
  | .listTraffic, s => (s, s.service.liveGenerations meets.order)
  | .readTraffic generation, s => (s, s.metrics generation)
  | .loadMessagesSent, s => (s, s.messagesSent)
  | .loadBytesSent, s => (s, s.bytesSent)
  | .loadTotalConnections, s => (s, s.service.totalConnections)
  | .countPeers, s => (s, s.service.peerCounts)
  | .countSeen, s => (s, s.seenMessages.entries.length)

/-- The effect of an action of the service or of a send, and its reply. -/
def execSends (wire : Wire) (meets : Meets) : (action : Action ⊕ SendAction) -> GossipState ->
    GossipState × Sum.elim Action.Reply SendAction.Reply action
  | .inl action, s =>
      let (service, reply) := exec meets.order action s.service
      ({ s with service := service }, reply)
  | .inr action, s => execSend wire meets action s

abbrev SendProgram (R : Type) :=
  Program (Action ⊕ SendAction) (Sum.elim Action.Reply SendAction.Reply) R

def inService {R : Type} (program : ServiceProgram R) : SendProgram R :=
  program.inject

def performSend (action : SendAction) : SendProgram action.Reply :=
  Program.perform (Sum.inr action)

/-! ## The programs -/

section Sending

variable (wire : Wire)

/-- `record_live_peer_outbound_bytes`: the counters are taken under the peers
lock and written under their own. -/
def recordLivePeerOutboundBytes (peerId : PeerId) (wireLen : Nat) : SendProgram Unit := do
  match <- performSend (.findTraffic peerId wireLen) with
  | none => return ()
  | some generation => performSend (.recordMessageSent generation wireLen)

/-- The two legacy counters, one after the other. -/
def countSent (wireLen deliveries : Nat) : SendProgram Unit := do
  performSend (.countMessages deliveries)
  performSend (.countBytes wireLen deliveries)

/-- `send_directed_message` to a peer that is not banned. -/
def sendUnbanned (peerId : PeerId) (message : DigMessage) :
    SendProgram (Except GossipError Unit) := do
  match <- performSend (.findLink peerId) with
  | none => return .error (.peerNotConnected peerId)
  | some none =>
      countSent (messageWireLen wire message) 1
      return .ok ()
  | some (some link) =>
      match <- performSend (.sendMessage link peerId message) with
      | .error detail => return .error (.clientError detail)
      | .ok () =>
          recordLivePeerOutboundBytes peerId (messageWireLen wire message)
          return .ok ()

/-- `send_directed_message`, behind `send_frame`, `send_dig_message` and the stream helpers. -/
def sendDirectedMessage (peerId : PeerId) (message : DigMessage) :
    SendProgram (Except GossipError Unit) := do
  if !(<- inService (perform .isRunning)) then return .error .serviceNotStarted
  let now <- inService (perform .readClock)
  if <- inService (isPeerIdBannedAt peerId now) then return .error (.peerBanned peerId)
  sendUnbanned wire peerId message

/-- The eager loop of `fan_out`. -/
def pushEager (message : DigMessage) :
    List (LinkId × PeerId) -> SendProgram (Except GossipError Unit)
  | [] => return .ok ()
  | (link, peerId) :: jobs => do
      match <- performSend (.sendMessage link peerId message) with
      | .error detail => return .error (.clientError detail)
      | .ok () =>
          recordLivePeerOutboundBytes peerId (messageWireLen wire message)
          pushEager message jobs

/-- The sink loop of `fan_out`: the number of offers taken. -/
def offerNat (message : DigMessage) : List (SinkId × PeerId) -> SendProgram Nat
  | [] => return 0
  | (sink, peerId) :: jobs => do
      if <- performSend (.offer sink peerId message) then
        recordLivePeerOutboundBytes peerId (messageWireLen wire message)
        let more <- offerNat message jobs
        return more + 1
      else offerNat message jobs

/-- `fan_out` after its jobs are collected. -/
def deliverJobs (message : DigMessage) (jobs : Jobs) : SendProgram (Except GossipError Nat) := do
  countSent (messageWireLen wire message) jobs.stubs.length
  match <- pushEager wire message jobs.eager with
  | .error error => return .error error
  | .ok () =>
      let deliveries <- offerNat wire message jobs.nat
      countSent (messageWireLen wire message) deliveries
      return .ok (jobs.stubs.length + jobs.eager.length + deliveries)

/-- `fan_out`, one critical section or hand-over at a time. -/
def fanOutSteps (call : Call) : SendProgram (Except GossipError Nat) := do
  if !(<- inService (perform .isRunning)) then return .error .serviceNotStarted
  if <- performSend (.see call) then return .ok 0
  performSend (.cache call)
  let jobs <- performSend (.collect call.exclude)
  deliverJobs wire call.message jobs

/-- The forwarder of a connection with a frame that its limiter allows: it
answers a peer that asks for peers, and meters the answer whatever became of it. -/
def forwardFrame (emptyRespondPeers : Except String (List UInt8)) (link : LinkId)
    (peerId : PeerId) (message : DigMessage) : SendProgram Unit := do
  if message.msgType = requestPeersOpcode then
    match emptyRespondPeers with
    | .error _ => return ()
    | .ok body =>
        let reply := { msgType := respondPeersOpcode, id := message.id, data := body }
        let _ <- performSend (.answer link peerId reply)
        recordLivePeerOutboundBytes peerId (messageWireLen wire reply)
  else return ()

/-- The fields of `GossipStats` that speak of connections and of what was sent. -/
structure GossipStats extends PeerCounts where
  totalConnections : Nat
  messagesSent : Nat
  bytesSent : Nat
  seenMessages : Nat

/-- The counters of one more slot in the sums of messages and bytes. -/
def addMetrics (sums : Nat × Nat) (metrics : WireMetrics) : Nat × Nat :=
  (saturatingAdd u64Max sums.1 metrics.messagesSent,
    saturatingAdd u64Max sums.2 metrics.bytesWritten)

/-- The loop of `sum_live_peer_wire_metrics`. -/
def sumTraffic (sums : Nat × Nat) : List Nat -> SendProgram (Nat × Nat)
  | [] => return sums
  | generation :: generations => do
      let metrics <- performSend (.readTraffic generation)
      sumTraffic (addMetrics sums metrics) generations

/-- `sum_live_peer_wire_metrics`; the counters of a slot are read under their own
lock.  The source keeps the peer map locked meanwhile, which only rules out runs. -/
def sumLivePeerWireMetrics : SendProgram (Nat × Nat) := do
  let generations <- performSend .listTraffic
  sumTraffic (0, 0) generations

def stats : SendProgram GossipStats := do
  let live <- sumLivePeerWireMetrics
  let messagesSent <- performSend .loadMessagesSent
  let bytesSent <- performSend .loadBytesSent
  let totalConnections <- performSend .loadTotalConnections
  let peers <- performSend .countPeers
  let seenMessages <- performSend .countSeen
  return { peers with
    totalConnections := totalConnections
    messagesSent := (live.1 + messagesSent) % (u64Max + 1)
    bytesSent := (live.2 + bytesSent) % (u64Max + 1)
    seenMessages := seenMessages }

end Sending

/-! ## Alone -/

section Alone

variable (wire : Wire) (meets : Meets) (message : DigMessage)

theorem alone_performSend_bind {R : Type} (action : SendAction)
    (rest : action.Reply -> SendProgram R) (s : GossipState) :
    Program.alone (execSends wire meets) (performSend action >>= rest) s =
      Program.alone (execSends wire meets) (rest (execSend wire meets action s).2)
        (execSend wire meets action s).1 := rfl

theorem alone_inService_bind {R T : Type} (program : ServiceProgram R) (rest : R -> SendProgram T)
    (s : GossipState) :
    Program.alone (execSends wire meets) (inService program >>= rest) s =
      Program.alone (execSends wire meets)
        (rest (Program.alone (exec meets.order) program s.service).2)
        { s with service := (Program.alone (exec meets.order) program s.service).1 } := by
  induction program generalizing s with
  | done result => rfl
  | act action next inner => exact inner _ _

theorem recordLivePeerOutboundBytes_alone {R : Type} (peerId : PeerId) (wireLen : Nat)
    (rest : Unit -> SendProgram R) (s : GossipState) :
    Program.alone (execSends wire meets) (recordLivePeerOutboundBytes peerId wireLen >>= rest) s =
      Program.alone (execSends wire meets) (rest ())
        (s.recordLivePeerOutboundBytes peerId wireLen) := by
  rw [Program.alone_bind, recordLivePeerOutboundBytes, alone_performSend_bind, execSend,
    ServiceState.liveGeneration, GossipState.recordLivePeerOutboundBytes]
  cases s.service.peers.lookup peerId with
  | none => rfl
  | some slot => cases slot <;> rfl

theorem countSent_alone {R : Type} (wireLen deliveries : Nat) (rest : Unit -> SendProgram R)
    (s : GossipState) :
    Program.alone (execSends wire meets) (countSent wireLen deliveries >>= rest) s =
      Program.alone (execSends wire meets) (rest ()) (s.countSent wireLen deliveries) := rfl

theorem pushEager_alone (jobs : List (LinkId × PeerId)) (s : GossipState) :
    Program.alone (execSends wire meets) (pushEager wire message jobs) s =
      ((eagerPush meets.answers (messageWireLen wire message) jobs s).state,
        (eagerPush meets.answers (messageWireLen wire message) jobs s).result) := by
  induction jobs generalizing s with
  | nil => rfl
  | cons job jobs inner =>
      rcases job with ⟨link, peerId⟩
      rw [pushEager, eagerPush, alone_performSend_bind, execSend]
      cases meets.answers.sendMessage peerId with
      | error detail => rfl
      | ok sent =>
          simp only
          rw [recordLivePeerOutboundBytes_alone]
          exact inner _

theorem offerNat_alone (jobs : List (SinkId × PeerId)) (s : GossipState) :
    Program.alone (execSends wire meets) (offerNat wire message jobs) s =
      ((natOffers meets.answers (messageWireLen wire message) jobs s).state,
        (natOffers meets.answers (messageWireLen wire message) jobs s).deliveries) := by
  induction jobs generalizing s with
  | nil => rfl
  | cons job jobs inner =>
      rcases job with ⟨sink, peerId⟩
      rw [offerNat, natOffers, alone_performSend_bind, execSend]
      cases meets.answers.offer peerId with
      | false => exact inner s
      | true =>
          simp only [if_true]
          rw [recordLivePeerOutboundBytes_alone, Program.alone_bind, inner]
          rfl

theorem deliverJobs_alone (jobs : Jobs) (s : GossipState) :
    Program.alone (execSends wire meets) (deliverJobs wire message jobs) s =
      ((deliver meets.answers (messageWireLen wire message) jobs s).state,
        (deliver meets.answers (messageWireLen wire message) jobs s).result) := by
  rw [deliverJobs, deliver, countSent_alone, Program.alone_bind, pushEager_alone]
  generalize eagerPush meets.answers (messageWireLen wire message) jobs.eager
    (s.countSent (messageWireLen wire message) jobs.stubs.length) = pushed
  rcases pushed with ⟨state, attempts, result⟩
  cases result with
  | error error => rfl
  | ok sent =>
      simp only
      rw [Program.alone_bind, offerNat_alone]
      rfl

/-- A fan-out that nothing interferes with leaves the state and returns the
result of the broadcast model. -/
theorem fan_out_alone (call : Call) (s : GossipState) :
    Program.alone (execSends wire meets) (fanOutSteps wire call) s =
      ((fanOut wire meets.order meets.answers s call).state,
        (fanOut wire meets.order meets.answers s call).result) := by
  rw [fanOutSteps, fanOut, alone_inService_bind]
  have read : Program.alone (exec meets.order) (perform .isRunning) s.service =
    (s.service, s.service.lifecycle == .running) := rfl
  rw [read]
  by_cases running : s.service.lifecycle = .running
  · rw [if_neg (not_not.mpr running), running]
    simp only [beq_self_eq_true, Bool.not_true, Bool.false_eq_true, if_false]
    rw [alone_performSend_bind, execSend, Call.see]
    by_cases suppressed : call.isSuppressed wire s = true
    · rw [if_pos suppressed, if_pos suppressed]
      rfl
    · rw [if_neg suppressed, if_neg suppressed]
      simp only [Bool.false_eq_true, if_false]
      rw [alone_performSend_bind, alone_performSend_bind, deliverJobs_alone]
      rfl
  · have down : (s.service.lifecycle == .running) = false := beq_eq_false_iff_ne.mpr running
    rw [if_pos running, down]
    rfl

end Alone

/-! ## The sends as threads -/

inductive SendOperation where
  | service (op : Operation)
  | sendFrame (peerId : PeerId) (message : DigMessage)
  | broadcast (message : DigMessage) (exclude : Option PeerId)
  | broadcastLocal (message : DigMessage) (exclude : Option PeerId)
  | forward (emptyRespondPeers : Except String (List UInt8)) (link : LinkId) (peerId : PeerId)
      (message : DigMessage)
  | stats

inductive SendOutcome where
  | service (outcome : Outcome)
  | forwarded
  | sent (result : Except GossipError Unit)
  | delivered (result : Except GossipError Nat)
  | stats (stats : GossipStats)

def SendOperation.program (wire : Wire) (config : GossipConfig) :
    SendOperation -> SendProgram SendOutcome
  | service op => SendOutcome.service <$> inService (op.program config)
  | sendFrame peerId message => SendOutcome.sent <$> sendDirectedMessage wire peerId message
  | broadcast message exclude =>
      SendOutcome.delivered <$>
        fanOutSteps wire { message := message, exclude := exclude, origin := .forwarded }
  | broadcastLocal message exclude =>
      SendOutcome.delivered <$>
        fanOutSteps wire { message := message, exclude := exclude, origin := .localNode }
  | forward emptyRespondPeers link peerId message =>
      (fun _ => SendOutcome.forwarded) <$>
        forwardFrame wire emptyRespondPeers link peerId message
  | stats => SendOutcome.stats <$> Service.stats

abbrev SendWorld :=
  World GossipState (Action ⊕ SendAction) (Sum.elim Action.Reply SendAction.Reply) SendOutcome

abbrev SendMove := Move SendOperation Meets

abbrev SendDeed := System.Deed (Action ⊕ SendAction) (Sum.elim Action.Reply SendAction.Reply)

/-- The service with its sends, as a system of threads. -/
def sending (wire : Wire) (config : GossipConfig) :
    System GossipState (Action ⊕ SendAction) (Sum.elim Action.Reply SendAction.Reply) SendOutcome
      SendOperation Meets where
  exec := execSends wire
  program := SendOperation.program wire config

/-- An operation of the service that begins as the sends do: a directed send
checks the bans as a penalty does, a fan-out asks only whether the service runs,
and a forwarder and a snapshot ask nothing. -/
def SendOperation.partner : SendOperation -> Operation
  | service op => op
  | sendFrame peerId _ => .penalizePeer peerId .connectionIssue
  | broadcast _ _ => .disconnect 0
  | broadcastLocal _ _ => .disconnect 0
  | forward _ _ _ _ => .disconnect 0
  | stats => .disconnect 0

section Shadowing

variable (wire : Wire)

theorem outer_performSend (action : SendAction) :
    Only Sum.isRight (performSend action) := Only.perform rfl

theorem outer_recordLivePeerOutboundBytes (peerId : PeerId) (wireLen : Nat) :
    Only Sum.isRight (recordLivePeerOutboundBytes peerId wireLen) := by
  refine (outer_performSend _).bind fun found => ?_
  cases found with
  | none => exact Only.pure ()
  | some generation => exact outer_performSend _

theorem outer_countSent (wireLen deliveries : Nat) :
    Only Sum.isRight (countSent wireLen deliveries) :=
  (outer_performSend _).bind fun _ => outer_performSend _

theorem outer_pushEager (message : DigMessage) (jobs : List (LinkId × PeerId)) :
    Only Sum.isRight (pushEager wire message jobs) := by
  induction jobs with
  | nil => exact Only.pure _
  | cons job jobs inner =>
      refine (outer_performSend _).bind fun answer => ?_
      cases answer with
      | error detail => exact Only.pure _
      | ok sent => exact (outer_recordLivePeerOutboundBytes _ _).bind fun _ => inner

theorem outer_offerNat (message : DigMessage) (jobs : List (SinkId × PeerId)) :
    Only Sum.isRight (offerNat wire message jobs) := by
  induction jobs with
  | nil => exact Only.pure _
  | cons job jobs inner =>
      refine (outer_performSend _).bind fun taken => ?_
      cases taken with
      | false => exact inner
      | true =>
          exact (outer_recordLivePeerOutboundBytes _ _).bind fun _ =>
            inner.bind fun _ => Only.pure _

theorem outer_deliverJobs (message : DigMessage) (jobs : Jobs) :
    Only Sum.isRight (deliverJobs wire message jobs) := by
  refine (outer_countSent _ _).bind fun _ => (outer_pushEager wire _ _).bind fun result => ?_
  cases result with
  | error error => exact Only.pure _
  | ok sent =>
      exact (outer_offerNat wire _ _).bind fun _ => (outer_countSent _ _).bind fun _ => Only.pure _

theorem outer_sendUnbanned (peerId : PeerId) (message : DigMessage) :
    Only Sum.isRight (sendUnbanned wire peerId message) := by
  refine (outer_performSend _).bind fun found => ?_
  rcases found with _ | _ | link
  · exact Only.pure _
  · exact (outer_countSent _ _).bind fun _ => Only.pure _
  · refine (outer_performSend _).bind fun answer => ?_
    cases answer with
    | error detail => exact Only.pure _
    | ok sent => exact (outer_recordLivePeerOutboundBytes _ _).bind fun _ => Only.pure _

theorem outer_forwardFrame (emptyRespondPeers : Except String (List UInt8)) (link : LinkId)
    (peerId : PeerId) (message : DigMessage) :
    Only Sum.isRight (forwardFrame wire emptyRespondPeers link peerId message) := by
  unfold forwardFrame
  split
  · cases emptyRespondPeers with
    | error detail => exact Only.pure _
    | ok body =>
        exact (outer_performSend _).bind fun _ => outer_recordLivePeerOutboundBytes _ _
  · exact Only.pure _

theorem outer_sumTraffic (sums : Nat × Nat) (generations : List Nat) :
    Only Sum.isRight (sumTraffic sums generations) := by
  induction generations generalizing sums with
  | nil => exact Only.pure _
  | cons generation generations inner => exact (outer_performSend _).bind fun _ => inner _

theorem outer_stats : Only Sum.isRight stats := by
  refine Only.bind ((outer_performSend _).bind (outer_sumTraffic _)) fun live => ?_
  refine (outer_performSend _).bind fun messagesSent => ?_
  refine (outer_performSend _).bind fun bytesSent => ?_
  refine (outer_performSend _).bind fun totalConnections => ?_
  refine (outer_performSend _).bind fun peers => ?_
  exact (outer_performSend _).bind fun seenMessages => Only.pure _

theorem shadows_fanOutSteps {R : Type} (call : Call) (next : Bool -> ServiceProgram R) :
    Shadows (fanOutSteps wire call) (perform .isRunning >>= next) := by
  refine Shadows.inner fun running => ?_
  cases running with
  | false => exact Shadows.stop _ _
  | true =>
      refine Shadows.outer fun suppressed => ?_
      cases suppressed with
      | true => exact Shadows.stop _ _
      | false =>
          refine Shadows.outer fun _ => Shadows.outer fun jobs => ?_
          exact Program.shadows_of_outer (outer_deliverJobs wire call.message jobs) _

theorem shadows_isPeerIdBannedAt {R : Type} (peerId : PeerId) (now : Nat)
    {rest : Bool -> SendProgram (Except GossipError Unit)} {later : Bool -> ServiceProgram R}
    (after : forall banned, Shadows (rest banned) (later banned)) :
    Shadows (inService (isPeerIdBannedAt peerId now) >>= rest)
      (pruneExpiredDigBans now >>= fun _ => perform (.bannedContains peerId) >>= later) := by
  have checked : Shadows (inService (isPeerIdBannedAt peerId now) >>= rest)
      (isPeerIdBannedAt peerId now >>= later) := Program.shadows_inject_bind _ after
  have same : isPeerIdBannedAt peerId now >>= later =
      pruneExpiredDigBans now >>= fun _ => perform (.bannedContains peerId) >>= later :=
    Program.bind_assoc ..
  rw [same] at checked
  exact checked

theorem shadows_sendDirectedMessage (peerId : PeerId) (message : DigMessage)
    (reason : PenaltyReason) :
    Shadows (sendDirectedMessage wire peerId message) (penalizePeer peerId reason) := by
  refine Shadows.inner fun running => ?_
  cases running with
  | false => exact Shadows.stop _ _
  | true =>
      refine Shadows.inner fun now => ?_
      refine shadows_isPeerIdBannedAt peerId now fun banned => ?_
      cases banned with
      | false => exact Program.shadows_of_outer (outer_sendUnbanned wire peerId message) _
      | true => exact Shadows.stop _ _

theorem shadows_program (config : GossipConfig) (op : SendOperation) :
    Shadows (op.program wire config) (op.partner.program config) := by
  cases op with
  | service op => exact Program.shadows_map_inject (op.program config) SendOutcome.service
  | sendFrame peerId message =>
      exact (shadows_sendDirectedMessage wire peerId message .connectionIssue).map _ _
  | broadcast message exclude => exact (shadows_fanOutSteps wire _ _).map _ _
  | broadcastLocal message exclude => exact (shadows_fanOutSteps wire _ _).map _ _
  | forward emptyRespondPeers link peerId message =>
      exact Program.shadows_of_outer ((outer_forwardFrame wire _ link peerId message).map _) _
  | stats => exact Program.shadows_of_outer (outer_stats.map _) _

end Shadowing

/-- The service beside its sends. -/
def sendingExtends (wire : Wire) (config : GossipConfig) :
    (sending wire config).Extends (service config) where
  view := GossipState.service
  choose := Meets.order
  partner := SendOperation.partner
  inner _ _ _ := rfl
  outer meets action s := by
    cases action with
    | see call =>
        simp only [sending, execSends, execSend, Call.see]
        split <;> rfl
    | _ => rfl
  shadows := shadows_program wire config

/-- What the service itself has done. -/
def serviceDeeds (past : List SendDeed) : List (System.Deed Action Action.Reply) :=
  past.filterMap System.Extends.innerDeed

/-- What the service and the broadcast state are started with. -/
structure SendLaunch where
  launch : Launch
  wire : Wire
  maxSeenMessages : Nat
  maxCached : Nat

namespace SendLaunch

variable (start : SendLaunch)

/-- The state right after `start`. -/
def state : GossipState where
  service := start.launch.world.shared
  seenMessages := .new start.maxSeenMessages
  messageCache := .new start.maxCached
  messagesSent := 0
  bytesSent := 0
  traffic := ∅

/-- The world after these moves of the scheduler. -/
def after (moves : List SendMove) : SendWorld :=
  (sending start.wire start.launch.config).run moves (World.idle start.state)

/-- Everything the operations and the sends have done along these moves. -/
def trace (moves : List SendMove) : List SendDeed :=
  (sending start.wire start.launch.config).trace moves (World.idle start.state)

/-- Beside its sends the service runs as it does alone. -/
theorem service_run (moves : List SendMove) :
    exists moves', (start.after moves).shared.service = (start.launch.after moves').shared ∧
      start.launch.trace moves' = serviceDeeds (start.trace moves) :=
  (sendingExtends start.wire start.launch.config).project moves start.state

end SendLaunch

end Service
end DigGossip
