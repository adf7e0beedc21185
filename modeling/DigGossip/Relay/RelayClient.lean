import DigGossip.Foundations.FiniteMap
import DigGossip.Foundations.Stepping
import DigGossip.Types.Peer

namespace DigGossip
namespace Relay

open Foundations

/-!
# The relay client

What the node says to a relay, and what it remembers of it: whether it is
registered, the peers the relay reports, the messages that wait to be sent, and
one sequence number for each peer that was ever written to.  A reset forgets the
session and its peers and leaves the sequence numbers and the queue alone.
-/

/-! ## Messages -/

/-- `relay_types::RelayPeerInfo`: a peer as the relay tracks it. -/
structure RelayPeerInfo where
  peerId : String
  networkId : String
  protocolVersion : UInt32
  connectedAt : Nat
  lastSeen : Nat
  addresses : List Types.SocketAddr
deriving DecidableEq

structure DhtRecordEntry where
  contentKey : String
  providers : Nat
deriving DecidableEq

/-- Every message between a node and the relay. -/
inductive RelayMessage where
  | register (peerId networkId : String) (protocolVersion : UInt32)
      (listenAddrs : List Types.SocketAddr)
  | registerAck (success : Bool) (message : String) (connectedPeers : Nat)
  | unregister (peerId : String)
  | relayGossipMessage (sender target : String) (payload : List UInt8) (seq : Nat)
  | broadcast (sender : String) (payload : List UInt8) (exclude : List String)
  | peerConnected (peer : RelayPeerInfo)
  | peerDisconnected (peerId : String)
  | getPeers (networkId : Option String)
  | peers (peers : List RelayPeerInfo)
  | ping (timestamp : Nat)
  | pong (timestamp : Nat)
  | holePunchRequest (peerId targetPeerId : String) (externalAddr : Types.SocketAddr)
  | holePunchCoordinate (peerId : String) (externalAddr : Types.SocketAddr)
  | holePunchResult (peerId : String) (success : Bool)
  | error (code : UInt32) (message : String)
  | getDhtRecords (maxKeys : Nat)
  | dhtRecords (records : List DhtRecordEntry) (totalKeys : Nat) (truncated : Bool)
deriving DecidableEq

/-- `dig_nat::SafeText`, by what it was made of: its package neutralizes the text
that the relay chose. -/
inductive SafeText where
  | fromStatic (text : String)
  | fromUntrusted (text : String)
deriving DecidableEq

/-- `GossipError::RelayError`. -/
structure RelayError where
  detail : SafeText
deriving DecidableEq

/-! ## The client -/

structure RelayClient where
  registered : Bool
  peerId : String
  networkId : String
  protocolVersion : UInt32
  seqNumbers : FiniteMap String Nat
  knownPeers : List RelayPeerInfo
  outboundBuffer : List RelayMessage

namespace RelayClient

def new (peerId networkId : String) (protocolVersion : UInt32) : RelayClient where
  registered := false
  peerId := peerId
  networkId := networkId
  protocolVersion := protocolVersion
  seqNumbers := ∅
  knownPeers := []
  outboundBuffer := []

def buildRegister (s : RelayClient) : RelayMessage :=
  .register s.peerId s.networkId s.protocolVersion []

/-- A rejection is an error and leaves the client as it was. -/
def handleRegisterAck (s : RelayClient) (success : Bool) (message : String)
    (_connectedPeers : Nat) : RelayClient × Except RelayError Unit :=
  if success then ({ s with registered := true }, .ok ())
  else (s, .error { detail := .fromUntrusted ("registration rejected: " ++ message) })

def seqForTarget (s : RelayClient) (target : String) : Nat :=
  (s.seqNumbers.lookup target).getD 0

def buildSendToPeer (s : RelayClient) (target : String) (payload : List UInt8) :
    RelayClient × RelayMessage :=
  let seq := (s.seqForTarget target + 1) % (Types.u64Max + 1)
  ({ s with seqNumbers := s.seqNumbers.insert target seq },
    .relayGossipMessage s.peerId target payload seq)

def buildBroadcast (s : RelayClient) (payload : List UInt8) (exclude : List String) :
    RelayMessage :=
  .broadcast s.peerId payload exclude

def buildGetPeers (s : RelayClient) : RelayMessage :=
  .getPeers (some s.networkId)

def buildPing (_s : RelayClient) (now : Nat) : RelayMessage :=
  .ping now

def handlePeers (s : RelayClient) (peers : List RelayPeerInfo) : RelayClient :=
  { s with knownPeers := peers }

/-- A peer that is known already stays as it is. -/
def handlePeerConnected (s : RelayClient) (peer : RelayPeerInfo) : RelayClient :=
  if s.knownPeers.any fun known => known.peerId == peer.peerId then s
  else { s with knownPeers := s.knownPeers ++ [peer] }

def handlePeerDisconnected (s : RelayClient) (peerId : String) : RelayClient :=
  { s with knownPeers := s.knownPeers.filter fun known => known.peerId != peerId }

def queueOutbound (s : RelayClient) (message : RelayMessage) : RelayClient :=
  { s with outboundBuffer := s.outboundBuffer ++ [message] }

def takeOutbound (s : RelayClient) : RelayClient × List RelayMessage :=
  ({ s with outboundBuffer := [] }, s.outboundBuffer)

/-- The sequence numbers go on across reconnects. -/
def reset (s : RelayClient) : RelayClient :=
  { s with registered := false, knownPeers := [] }

end RelayClient

/-! ## Calls -/

inductive ClientCall where
  | buildRegister
  | handleRegisterAck (success : Bool) (message : String) (connectedPeers : Nat)
  | buildSendToPeer (target : String) (payload : List UInt8)
  | buildBroadcast (payload : List UInt8) (exclude : List String)
  | buildGetPeers
  | handlePeers (peers : List RelayPeerInfo)
  | handlePeerConnected (peer : RelayPeerInfo)
  | handlePeerDisconnected (peerId : String)
  | buildPing (now : Nat)
  | queueOutbound (message : RelayMessage)
  | takeOutbound
  | reset

inductive ClientAnswer where
  | unit
  | acknowledged (result : Except RelayError Unit)
  | built (message : RelayMessage)
  | taken (messages : List RelayMessage)

def RelayClient.call (s : RelayClient) : ClientCall -> RelayClient × ClientAnswer
  | .buildRegister => (s, .built s.buildRegister)
  | .handleRegisterAck success message connectedPeers =>
      let (after, result) := s.handleRegisterAck success message connectedPeers
      (after, .acknowledged result)
  | .buildSendToPeer target payload =>
      let (after, message) := s.buildSendToPeer target payload
      (after, .built message)
  | .buildBroadcast payload exclude => (s, .built (s.buildBroadcast payload exclude))
  | .buildGetPeers => (s, .built s.buildGetPeers)
  | .handlePeers peers => (s.handlePeers peers, .unit)
  | .handlePeerConnected peer => (s.handlePeerConnected peer, .unit)
  | .handlePeerDisconnected peerId => (s.handlePeerDisconnected peerId, .unit)
  | .buildPing now => (s, .built (s.buildPing now))
  | .queueOutbound message => (s.queueOutbound message, .unit)
  | .takeOutbound =>
      let (after, messages) := s.takeOutbound
      (after, .taken messages)
  | .reset => (s.reset, .unit)

def RelayClient.step (s : RelayClient) (call : ClientCall) : RelayClient :=
  (s.call call).1

/-- The client after these calls. -/
def RelayClient.after (s : RelayClient) (calls : List ClientCall) : RelayClient :=
  Stepping.run RelayClient.step calls s

/-- The answers of the calls, in order. -/
def RelayClient.answers (s : RelayClient) (calls : List ClientCall) : List ClientAnswer :=
  (Stepping.history RelayClient.step calls s).map fun made => (made.1.call made.2).2

/-! ## What a run says -/

/-- The number that a built message carries for this target. -/
def ClientAnswer.numberFor (target : String) : ClientAnswer -> Option Nat
  | built (.relayGossipMessage _ other _ seq) => if other = target then some seq else none
  | _ => none

def ClientAnswer.messages : ClientAnswer -> List RelayMessage
  | taken messages => messages
  | _ => []

def ClientCall.isSendTo (target : String) : ClientCall -> Bool
  | buildSendToPeer other _ => decide (other = target)
  | _ => false

def ClientCall.queued : ClientCall -> Option RelayMessage
  | queueOutbound message => some message
  | _ => none

/-- The numbers of the messages built for one target, in order. -/
def numbersFor (target : String) (answers : List ClientAnswer) : List Nat :=
  answers.filterMap (ClientAnswer.numberFor target)

/-- One, two, and so on, in sixty-four bits. -/
def consecutive (count : Nat) : List Nat :=
  (List.range count).map fun sent => (sent + 1) % (Types.u64Max + 1)

def peerIds (peers : List RelayPeerInfo) : List String :=
  peers.map RelayPeerInfo.peerId

/-- What a call says about whether this peer is there. -/
def ClientCall.reports (peerId : String) : ClientCall -> Option Bool
  | handlePeers peers => some (decide (peerId ∈ peerIds peers))
  | handlePeerConnected peer => if peer.peerId = peerId then some true else none
  | handlePeerDisconnected other => if other = peerId then some false else none
  | reset => some false
  | _ => none

/-- What a call says about the registration. -/
def ClientCall.registers : ClientCall -> Option Bool
  | handleRegisterAck success _ _ => if success then some true else none
  | reset => some false
  | _ => none

/-- What the last call that tells anything tells; before any, no. -/
def lastWord (tells : ClientCall -> Option Bool) (calls : List ClientCall) : Bool :=
  (calls.reverse.findSome? tells).getD false

/-! ## One call -/

section OneCall

variable (s : RelayClient) (call : ClientCall)

theorem mem_peerIds {peers : List RelayPeerInfo} {peerId : String} :
    peerId ∈ peerIds peers ↔ ∃ peer ∈ peers, peer.peerId = peerId :=
  List.mem_map

theorem any_peerId_iff {peers : List RelayPeerInfo} {peerId : String} :
    (peers.any fun known => known.peerId == peerId) = true ↔ peerId ∈ peerIds peers := by
  rw [List.any_eq_true, mem_peerIds]
  exact exists_congr fun peer => and_congr_right fun _ => beq_iff_eq

theorem peerIds_handlePeerConnected (peer : RelayPeerInfo) :
    peerIds (s.handlePeerConnected peer).knownPeers =
      if peer.peerId ∈ peerIds s.knownPeers then peerIds s.knownPeers
      else peerIds s.knownPeers ++ [peer.peerId] := by
  unfold RelayClient.handlePeerConnected
  by_cases known : peer.peerId ∈ peerIds s.knownPeers
  · rw [if_pos (any_peerId_iff.mpr known), if_pos known]
  · rw [if_neg (fun present => known (any_peerId_iff.mp present)), if_neg known]
    exact List.map_append

theorem peerIds_handlePeerDisconnected (peerId : String) :
    peerIds (s.handlePeerDisconnected peerId).knownPeers =
      (peerIds s.knownPeers).filter fun known => known != peerId := by
  unfold peerIds
  rw [List.filter_map]
  rfl

/-- A peer is known after a call as the call says, or else as before. -/
theorem known_step (peerId : String) :
    decide (peerId ∈ peerIds (s.step call).knownPeers) =
      (call.reports peerId).getD (decide (peerId ∈ peerIds s.knownPeers)) := by
  cases call with
  | handleRegisterAck success message connectedPeers => cases success <;> rfl
  | handlePeerConnected peer =>
      show decide (peerId ∈ peerIds (s.handlePeerConnected peer).knownPeers) = _
      rw [peerIds_handlePeerConnected]
      by_cases same : peer.peerId = peerId
      · rw [ClientCall.reports, if_pos same, same]
        by_cases known : peerId ∈ peerIds s.knownPeers
        · rw [if_pos known]
          exact decide_eq_true known
        · rw [if_neg known]
          exact decide_eq_true (List.mem_append_right _ (List.mem_singleton_self peerId))
      · rw [ClientCall.reports, if_neg same]
        by_cases known : peer.peerId ∈ peerIds s.knownPeers
        · rw [if_pos known]
          rfl
        · rw [if_neg known]
          refine decide_eq_decide.mpr ⟨fun member => ?_, List.mem_append_left _⟩
          rcases List.mem_append.mp member with old | fresh
          · exact old
          · exact absurd (List.mem_singleton.mp fresh).symm same
  | handlePeerDisconnected other =>
      show decide (peerId ∈ peerIds (s.handlePeerDisconnected other).knownPeers) = _
      rw [peerIds_handlePeerDisconnected]
      by_cases same : other = peerId
      · rw [ClientCall.reports, if_pos same, same]
        refine decide_eq_false fun member => ?_
        exact bne_iff_ne.mp (List.mem_filter.mp member).2 rfl
      · rw [ClientCall.reports, if_neg same]
        refine decide_eq_decide.mpr ⟨List.mem_of_mem_filter, fun member => ?_⟩
        exact List.mem_filter.mpr ⟨member, bne_iff_ne.mpr fun equal => same equal.symm⟩
  | reset => rfl
  | _ => rfl

theorem registered_step :
    (s.step call).registered = call.registers.getD s.registered := by
  cases call with
  | handleRegisterAck success message connectedPeers => cases success <;> rfl
  | handlePeerConnected peer =>
      show (s.handlePeerConnected peer).registered = _
      unfold RelayClient.handlePeerConnected
      split <;> rfl
  | _ => rfl

theorem numberFor_call (target : String) :
    (s.call call).2.numberFor target =
      if call.isSendTo target then some ((s.seqForTarget target + 1) % (Types.u64Max + 1))
      else none := by
  cases call with
  | buildSendToPeer other payload =>
      show (if other = target then some ((s.seqForTarget other + 1) % (Types.u64Max + 1))
        else none) = if decide (other = target) then _ else none
      by_cases same : other = target
      · rw [if_pos same, if_pos (decide_eq_true same), same]
      · rw [if_neg same, if_neg (fun equal => same (of_decide_eq_true equal))]
  | handleRegisterAck success message connectedPeers => cases success <;> rfl
  | _ => rfl

/-- A number is used once it is in a message. -/
theorem seqForTarget_step (target : String) :
    (s.step call).seqForTarget target =
      ((s.call call).2.numberFor target).getD (s.seqForTarget target) := by
  cases call with
  | buildSendToPeer other payload =>
      show ((s.seqNumbers.insert other _).lookup target).getD 0 =
        (if other = target then some _ else none).getD (s.seqForTarget target)
      rw [FiniteMap.lookup_insert_eq]
      by_cases same : other = target
      · rw [if_pos same.symm, if_pos same]
        rfl
      · rw [if_neg (fun equal => same equal.symm), if_neg same]
        rfl
  | handleRegisterAck success message connectedPeers => cases success <;> rfl
  | handlePeerConnected peer =>
      show (s.handlePeerConnected peer).seqForTarget target = s.seqForTarget target
      unfold RelayClient.handlePeerConnected
      split <;> rfl
  | _ => rfl

/-- What is handed out and what then waits is what waited and what is queued. -/
theorem outboundBuffer_step :
    (s.call call).2.messages ++ (s.step call).outboundBuffer =
      s.outboundBuffer ++ call.queued.toList := by
  cases call with
  | handleRegisterAck success message connectedPeers =>
      cases success <;> exact (List.append_nil _).symm
  | handlePeerConnected peer =>
      show (s.handlePeerConnected peer).outboundBuffer = s.outboundBuffer ++ []
      rw [List.append_nil]
      unfold RelayClient.handlePeerConnected
      split <;> rfl
  | queueOutbound message => rfl
  | takeOutbound => rfl
  | _ => exact (List.append_nil _).symm

theorem distinct_step (distinct : (peerIds s.knownPeers).Nodup)
    (listed : ∀ peers, call = .handlePeers peers -> (peerIds peers).Nodup) :
    (peerIds (s.step call).knownPeers).Nodup := by
  cases call with
  | handlePeers peers => exact listed peers rfl
  | handlePeerConnected peer =>
      show (peerIds (s.handlePeerConnected peer).knownPeers).Nodup
      rw [peerIds_handlePeerConnected]
      by_cases known : peer.peerId ∈ peerIds s.knownPeers
      · rw [if_pos known]
        exact distinct
      · rw [if_neg known]
        exact List.nodup_append.mpr ⟨distinct, List.nodup_singleton _, fun id member other one =>
          fun equal => known (List.mem_singleton.mp one ▸ equal ▸ member)⟩
  | handlePeerDisconnected other =>
      show (peerIds (s.handlePeerDisconnected other).knownPeers).Nodup
      rw [peerIds_handlePeerDisconnected]
      exact distinct.filter _
  | handleRegisterAck success message connectedPeers => cases success <;> exact distinct
  | reset => exact List.nodup_nil
  | _ => exact distinct

end OneCall

/-! ## Every run -/

section EveryRun

variable (s : RelayClient) (calls : List ClientCall)

theorem after_concat (call : ClientCall) : s.after (calls ++ [call]) = (s.after calls).step call :=
  Stepping.run_concat calls call s

theorem answers_concat (call : ClientCall) :
    s.answers (calls ++ [call]) = s.answers calls ++ [((s.after calls).call call).2] := by
  unfold RelayClient.answers
  rw [Stepping.history_concat, List.map_append]
  rfl

theorem consecutive_succ (count : Nat) :
    consecutive (count + 1) = consecutive count ++ [(count + 1) % (Types.u64Max + 1)] := by
  unfold consecutive
  rw [List.range_succ, List.map_append]
  rfl

/-- The numbers go on where the client had got to. -/
theorem numbers_of_fresh {target : String} (fresh : s.seqForTarget target = 0) :
    numbersFor target (s.answers calls) =
        consecutive (calls.countP (ClientCall.isSendTo target)) ∧
      (s.after calls).seqForTarget target =
        calls.countP (ClientCall.isSendTo target) % (Types.u64Max + 1) := by
  induction calls using List.reverseRecOn with
  | nil => exact ⟨rfl, fresh⟩
  | append_singleton calls call inner =>
      rcases inner with ⟨numbers, reached⟩
      rw [after_concat, seqForTarget_step, answers_concat, numbersFor, List.filterMap_append,
        List.filterMap_cons, List.filterMap_nil, <- numbersFor, numbers, numberFor_call,
        List.countP_append, List.countP_singleton]
      by_cases sends : call.isSendTo target = true
      · rw [if_pos sends, if_pos sends, consecutive_succ, reached]
        have wrapped := Nat.mod_add_mod (calls.countP (ClientCall.isSendTo target))
          (Types.u64Max + 1) 1
        rw [wrapped]
        exact ⟨rfl, rfl⟩
      · rw [if_neg sends, if_neg sends, Nat.add_zero]
        exact ⟨List.append_nil _, reached⟩

theorem outbound_of_empty (empty : s.outboundBuffer = []) :
    (s.answers calls).flatMap ClientAnswer.messages ++ (s.after calls).outboundBuffer =
      calls.filterMap ClientCall.queued := by
  induction calls using List.reverseRecOn with
  | nil => exact empty
  | append_singleton calls call inner =>
      have moved := outboundBuffer_step (s.after calls) call
      rw [after_concat, answers_concat, List.flatMap_append, List.flatMap_singleton,
        List.append_assoc, moved, <- List.append_assoc, inner, List.filterMap_append]
      apply congrArg (_ ++ ·)
      cases call <;> rfl

theorem distinct_of_distinct (distinct : (peerIds s.knownPeers).Nodup)
    (listed : ∀ peers, .handlePeers peers ∈ calls -> (peerIds peers).Nodup) :
    (peerIds (s.after calls).knownPeers).Nodup := by
  induction calls using List.reverseRecOn with
  | nil => exact distinct
  | append_singleton calls call inner =>
      rw [after_concat]
      refine distinct_step (s.after calls) call (inner fun peers member => ?_) fun peers equal => ?_
      · exact listed peers (List.mem_append_left _ member)
      · exact listed peers (List.mem_append_right _ (List.mem_singleton.mpr equal.symm))

/-- Whatever the relay tells and however often the session is reset: the messages
for a target are numbered one after the other, the known peers and the
registration are as last told, no message that is queued gets lost or repeated,
and a peer is known twice only if the relay once listed some peer twice. -/
theorem relay_client_lawful (peerId networkId : String) (protocolVersion : UInt32)
    (calls : List ClientCall) :
    let s := RelayClient.new peerId networkId protocolVersion
    (∀ target, numbersFor target (s.answers calls) =
      consecutive (calls.countP (ClientCall.isSendTo target))) ∧
    (∀ id, id ∈ peerIds (s.after calls).knownPeers ↔
      lastWord (ClientCall.reports id) calls = true) ∧
    (s.after calls).registered = lastWord ClientCall.registers calls ∧
    (s.answers calls).flatMap ClientAnswer.messages ++ (s.after calls).outboundBuffer =
      calls.filterMap ClientCall.queued ∧
    ((peerIds (s.after calls).knownPeers).Nodup ∨
      ∃ peers, .handlePeers peers ∈ calls ∧ ¬ (peerIds peers).Nodup) := by
  intro s
  refine ⟨fun target => (numbers_of_fresh s calls rfl).1, fun id => ?_, ?_,
    outbound_of_empty s calls rfl, ?_⟩
  · have told := @Stepping.view_run _ _ RelayClient.step Bool
      (fun t => decide (id ∈ peerIds t.knownPeers)) (ClientCall.reports id)
      (fun t call => known_step t call id) calls s
    exact decide_eq_true_iff.symm.trans (iff_of_eq (congrArg (· = true) told))
  · exact Stepping.view_run registered_step calls s
  · by_cases listed : ∀ peers, .handlePeers peers ∈ calls -> (peerIds peers).Nodup
    · exact Or.inl (distinct_of_distinct s calls List.nodup_nil listed)
    · push Not at listed
      exact Or.inr listed

/-- A reset between two messages for one target: the second goes on counting. -/
example : numbersFor "b" ((RelayClient.new "a" "net" 1).answers
    [.buildSendToPeer "b" [], .reset, .buildSendToPeer "c" [], .buildSendToPeer "b" []]) =
      [1, 2] := by
  decide

end EveryRun

end Relay
end DigGossip
