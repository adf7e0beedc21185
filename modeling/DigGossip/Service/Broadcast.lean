import DigGossip.Foundations.Lru
import DigGossip.Service.State

namespace DigGossip
namespace Service

open Foundations DigGossip.Types

/-!
# Broadcasting

A broadcast records the hash of its message, caches the message, and then
serves the peers of the map it finds: the eager live ones over their links and
the others over the sinks their session owners supplied.  The digest and the
message codec are parameters, and so is what each link and each sink answers.
-/

/-- A wire message whose body is already serialized. -/
structure DigMessage where
  msgType : UInt8
  id : Option UInt16
  data : List UInt8

/-- `Sha256::digest` and `DigMessage::to_bytes`. -/
structure Wire where
  sha256 : Digest
  toBytes : DigMessage -> List UInt8

def messageWireLen (wire : Wire) (message : DigMessage) : Nat :=
  (wire.toBytes message).length

/-- `SeenSet::compute_hash`: the message type is digested before the body. -/
def computeHash (sha256 : Digest) (msgType : UInt8) (data : List UInt8) : Key :=
  sha256 (msgType :: data)

inductive MessageOrigin where
  | localNode
  | forwarded
deriving DecidableEq

/-- Connected peers that a fan-out could not deliver to, by reason. -/
structure UnreachablePeers where
  nat : Nat
  lazy : Nat

def UnreachablePeers.total (unreachable : UnreachablePeers) : Nat :=
  unreachable.nat + unreachable.lazy

structure CacheEntry where
  data : List UInt8
  msgType : UInt8
  insertedAt : Nat

/-- The outbound counters of a live slot. -/
structure WireMetrics where
  bytesWritten : Nat
  messagesSent : Nat

def WireMetrics.new : WireMetrics := { bytesWritten := 0, messagesSent := 0 }

def WireMetrics.recordMessageSent (metrics : WireMetrics) (wireLen : Nat) : WireMetrics where
  bytesWritten := saturatingAdd u64Max metrics.bytesWritten wireLen
  messagesSent := saturatingAdd u64Max metrics.messagesSent 1

/-- The service state with what a broadcast reads and writes besides.  The
counters of a live slot are kept under its generation. -/
structure GossipState where
  service : ServiceState
  seenMessages : Lru Key Unit
  messageCache : Lru Key CacheEntry
  messagesSent : Nat
  bytesSent : Nat
  traffic : FiniteMap Nat WireMetrics

namespace GossipState

/-- The counters kept under a generation. -/
def metrics (s : GossipState) (generation : Nat) : WireMetrics :=
  (s.traffic.lookup generation).getD .new

/-- One more frame in the counters of a generation. -/
def recordMessageSent (s : GossipState) (generation wireLen : Nat) : GossipState :=
  { s with traffic := s.traffic.insert generation ((s.metrics generation).recordMessageSent wireLen) }

/-- `record_live_peer_outbound_bytes`: only a peer that is live by now is metered. -/
def recordLivePeerOutboundBytes (s : GossipState) (peerId : PeerId) (wireLen : Nat) :
    GossipState :=
  match s.service.peers.lookup peerId with
  | some (.live slot) => s.recordMessageSent slot.generation wireLen
  | _ => s

/-- A legacy counter advances by deliveries that had no link; `fetch_add` wraps. -/
def countMessages (s : GossipState) (deliveries : Nat) : GossipState :=
  { s with messagesSent := (s.messagesSent + deliveries) % (u64Max + 1) }

def countBytes (s : GossipState) (wireLen deliveries : Nat) : GossipState :=
  { s with bytesSent := (s.bytesSent + Nat.min (wireLen * deliveries) u64Max) % (u64Max + 1) }

def countSent (s : GossipState) (wireLen deliveries : Nat) : GossipState :=
  (s.countMessages deliveries).countBytes wireLen deliveries

end GossipState

def PlumtreeState.isEager (tree : PlumtreeState) (peerId : PeerId) : Bool :=
  decide (peerId ∈ tree.eagerPeers)

/-! ## Collecting the jobs -/

/-- What the slots of the peer map give a fan-out to do.  Of the stubs the
source keeps the number. -/
structure Jobs where
  stubs : List PeerId
  eager : List (LinkId × PeerId)
  nat : List (SinkId × PeerId)
  unreachable : UnreachablePeers

namespace Jobs

def none : Jobs where
  stubs := []
  eager := []
  nat := []
  unreachable := { nat := 0, lazy := 0 }

/-- One slot of the traversal of the peer map. -/
def collect (peers : Peers) (tree : PlumtreeState) (exclude : Option PeerId) (jobs : Jobs)
    (peerId : PeerId) : Jobs :=
  if exclude = some peerId then jobs
  else
    match peers.lookup peerId with
    | some (.stub _) => { jobs with stubs := jobs.stubs ++ [peerId] }
    | some (.live slot) =>
        if tree.isEager peerId then { jobs with eager := jobs.eager ++ [(slot.peer, peerId)] }
        else
          { jobs with
            unreachable := { jobs.unreachable with lazy := jobs.unreachable.lazy + 1 } }
    | some (.nat slot) =>
        match slot.sink with
        | some sink => { jobs with nat := jobs.nat ++ [(sink, peerId)] }
        | .none =>
            { jobs with
              unreachable := { jobs.unreachable with nat := jobs.unreachable.nat + 1 } }
    | .none => jobs

end Jobs

def collectJobs (s : ServiceState) (order : PeerId -> Nat) (exclude : Option PeerId) : Jobs :=
  (listing order s.peers.keys).foldl (Jobs.collect s.peers s.plumtree exclude) .none

/-! ## Delivering -/

/-- What a delivery goes over; a stub has no transport and is counted as served. -/
inductive Route where
  | stub
  | link (link : LinkId)
  | sink (sink : SinkId)
deriving DecidableEq

structure Attempt where
  peerId : PeerId
  route : Route
  served : Bool
deriving DecidableEq

/-- What the one send to each peer and the one offer to each peer's sink come to. -/
structure Answers where
  sendMessage : PeerId -> Except String Unit
  offer : PeerId -> Bool

/-- The state after some deliveries, the deliveries tried, and their verdict. -/
structure Pushed where
  state : GossipState
  attempts : List Attempt
  result : Except GossipError Unit

/-- The eager loop: the first send that fails ends the broadcast. -/
def eagerPush (answers : Answers) (wireLen : Nat) :
    List (LinkId × PeerId) -> GossipState -> Pushed
  | [], s => { state := s, attempts := [], result := .ok () }
  | (link, peerId) :: jobs, s =>
      match answers.sendMessage peerId with
      | .error detail =>
          { state := s
            attempts := [{ peerId := peerId, route := .link link, served := false }]
            result := .error (.clientError detail) }
      | .ok () =>
          let later :=
            eagerPush answers wireLen jobs (s.recordLivePeerOutboundBytes peerId wireLen)
          { later with
            attempts :=
              { peerId := peerId, route := .link link, served := true } :: later.attempts }

structure Offered where
  state : GossipState
  attempts : List Attempt
  deliveries : Nat
  refused : Nat

/-- The sink loop: an offer that is not taken is counted and the loop goes on. -/
def natOffers (answers : Answers) (wireLen : Nat) :
    List (SinkId × PeerId) -> GossipState -> Offered
  | [], s => { state := s, attempts := [], deliveries := 0, refused := 0 }
  | (sink, peerId) :: jobs, s =>
      if answers.offer peerId then
        let later :=
          natOffers answers wireLen jobs (s.recordLivePeerOutboundBytes peerId wireLen)
        { later with
          attempts := { peerId := peerId, route := .sink sink, served := true } :: later.attempts
          deliveries := later.deliveries + 1 }
      else
        let later := natOffers answers wireLen jobs s
        { later with
          attempts := { peerId := peerId, route := .sink sink, served := false } :: later.attempts
          refused := later.refused + 1 }

/-- A call of the fan-out. -/
structure Call where
  message : DigMessage
  exclude : Option PeerId
  origin : MessageOrigin

/-- What a fan-out leaves, what it returns, and what it tried in order. -/
structure FanOut where
  state : GossipState
  result : Except GossipError Nat
  attempts : List Attempt

/-- The part of a fan-out after the locks are released. -/
def deliver (answers : Answers) (wireLen : Nat) (jobs : Jobs) (s : GossipState) : FanOut :=
  let stubs := jobs.stubs.map fun peerId => { peerId := peerId, route := .stub, served := true }
  let pushed := eagerPush answers wireLen jobs.eager (s.countSent wireLen jobs.stubs.length)
  match pushed.result with
  | .error error =>
      { state := pushed.state, result := .error error, attempts := stubs ++ pushed.attempts }
  | .ok () =>
      let offered := natOffers answers wireLen jobs.nat pushed.state
      { state := offered.state.countSent wireLen offered.deliveries
        result := .ok (jobs.stubs.length + jobs.eager.length + offered.deliveries)
        attempts := stubs ++ pushed.attempts ++ offered.attempts }

section FanOut

variable (wire : Wire) (order : PeerId -> Nat) (answers : Answers)

def Call.hash (call : Call) : Key :=
  computeHash wire.sha256 call.message.msgType call.message.data

/-- The seen set drops a message that is forwarded again, never one of this node's own. -/
def Call.isSuppressed (call : Call) (s : GossipState) : Bool :=
  decide (call.origin = .forwarded) && s.seenMessages.contains (call.hash wire)

/-- The hash is recorded and the message cached before anything is sent. -/
def Call.record (call : Call) (s : GossipState) : GossipState :=
  { s with
    seenMessages := s.seenMessages.put (call.hash wire) ()
    messageCache := s.messageCache.put (call.hash wire)
      { data := call.message.data, msgType := call.message.msgType, insertedAt := s.service.now } }

def fanOut (s : GossipState) (call : Call) : FanOut :=
  if s.service.lifecycle ≠ .running then
    { state := s, result := .error .serviceNotStarted, attempts := [] }
  else if call.isSuppressed wire s then { state := s, result := .ok 0, attempts := [] }
  else
    deliver answers (messageWireLen wire call.message) (collectJobs s.service order call.exclude)
      (call.record wire s)

def broadcast (s : GossipState) (message : DigMessage) (exclude : Option PeerId) : FanOut :=
  fanOut wire order answers s { message := message, exclude := exclude, origin := .forwarded }

/-- `broadcast_local`: the message is this node's own. -/
def broadcastLocal (s : GossipState) (message : DigMessage) (exclude : Option PeerId) : FanOut :=
  fanOut wire order answers s { message := message, exclude := exclude, origin := .localNode }

end FanOut

/-- `unreachable_peer_count`. -/
def unreachablePeerCount (s : ServiceState) : Nat :=
  FiniteMap.countWhere s.peers fun peerId slot =>
    match slot with
    | .nat _ => true
    | .live _ => !s.plumtree.isEager peerId
    | .stub _ => false

end Service
end DigGossip
