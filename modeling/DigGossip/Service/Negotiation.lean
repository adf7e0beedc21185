import DigGossip.Foundations.Stepping
import DigGossip.Service.Broadcast
import DigGossip.Service.HandshakeValidation
import DigGossip.Service.HoldingsAnnounce

namespace DigGossip
namespace Service

open Foundations DigGossip.Types

/-!
# The negotiation of a session

The dialer sends its handshake and waits for the listener's; the listener waits
for a handshake, answers it only once it is validated, and then takes one more
message before it registers the session.  Each side is a machine that takes
what its socket gives, so it can be driven by any peer.
-/

/-! ## Frames and errors -/

/-- `tungstenite::Message`, as the reader tells the kinds apart. -/
inductive WsMsg where
  | binary (bytes : List UInt8)
  | ping (payload : List UInt8)
  | pong (payload : List UInt8)
  | close
  | other
deriving DecidableEq

/-- `dig_peer_protocol::ClientError`, where the code here makes one.  A message
type stands for itself by its opcode. -/
inductive ClientError where
  | missingHandshake
  | wrongNodeType (expected found : NodeType)
  | wrongNetwork (expected actual : String)
  | invalidResponse (expected : List UInt8) (found : UInt8)
  | streamable (detail : String)
  | webSocket (detail : String)
  | io (text : String)
deriving DecidableEq

inductive DialError where
  | client (error : ClientError)
  | link (detail : String)
  | unknownOpcode (opcode : UInt8)
deriving DecidableEq

/-- `From<HandshakeValidationError> for ClientError`. -/
def HandshakeValidationError.toClientError : HandshakeValidationError -> ClientError
  | networkIdMismatch expected actual => .wrongNetwork expected actual
  | incompatibleProtocolVersion version =>
      .io ("dig_gossip: incompatible protocol_version: " ++ version)
  | emptyNetworkId => .io "dig_gossip: empty network_id in remote handshake"
  | emptyProtocolVersion => .io "dig_gossip: empty protocol_version in remote handshake"
  | softwareVersionTooLong len max =>
      .io ("dig_gossip: software_version too long after sanitization (" ++ toString len ++
        " bytes, max " ++ toString max ++ ")")

/-- The codecs of the packages that frame and serialize messages, and which
bytes name a `ProtocolMessageTypes`. -/
structure SessionCodec where
  messageToBytes : DigMessage -> List UInt8
  messageFromBytes : List UInt8 -> Option DigMessage
  handshakeToBytes : Handshake -> Except String (List UInt8)
  handshakeFromBytes : List UInt8 -> Except String Handshake
  respondPeersToBytes : List TimestampedPeerInfo -> Except String (List UInt8)
  isProtocolMessageType : UInt8 -> Bool

def handshakeOpcode : UInt8 := 1
def requestPeersOpcode : UInt8 := 43
def respondPeersOpcode : UInt8 := 44

/-- What of a node its handshakes show. -/
structure NodeFace where
  networkId : Bytes32
  softwareVersion : String
  listenPort : UInt16

def networkIdHandshakeString (networkId : Bytes32) : String :=
  asciiText (Hexadecimal.encode networkId.val)

def capabilities : List (UInt16 × String) := [(1, "1"), (2, "1"), (3, "1")]

/-- The reply of the listener. -/
def ourHandshake (node : NodeFace) : Handshake where
  networkId := networkIdHandshakeString node.networkId
  protocolVersion := advertisedProtocolVersion
  softwareVersion := node.softwareVersion
  serverPort := node.listenPort
  nodeType := .fullNode
  capabilities := capabilities

/-- The greeting of the dialer. -/
def dialHandshake (node : NodeFace) : Handshake where
  networkId := networkIdHandshakeString node.networkId
  protocolVersion := advertisedProtocolVersion
  softwareVersion := node.softwareVersion
  serverPort := 0
  nodeType := .wallet
  capabilities := capabilities

/-- What either side keeps of the other. -/
structure RemoteFace where
  theirHandshake : Handshake
  softwareVersionSanitized : String
deriving DecidableEq

/-! ## The listener -/

section Source

variable (category : Char -> GeneralCategory) (codec : SessionCodec)

/-- What waiting for a frame can give. -/
inductive Incoming where
  | frame (msg : WsMsg)
  | failed (detail : String)
  | ended
  | timedOut
deriving DecidableEq

/-- Where `negotiate_inbound_over_ws` is, up to its fifth phase. -/
inductive ListenerPhase where
  | awaitingHandshake
  | awaitingRequest (remote : RemoteFace)
  | negotiated (remote : RemoteFace)
  | refused (error : ClientError)
deriving DecidableEq

namespace ListenerPhase

/-- Send one frame and go on, unless the socket fails. -/
def sending (frame : WsMsg) (fault : Option String) (next : ListenerPhase) :
    ListenerPhase × List WsMsg :=
  match fault with
  | none => (next, [frame])
  | some detail => (refused (.io detail), [])

/-- `read_next_wire_message` under its timeout, one frame at a time.  A ping is
answered, other frames are passed over, and the wait goes on. -/
def reading (phase : ListenerPhase) (timeoutText : String) (incoming : Incoming)
    (fault : Option String) (take : DigMessage -> ListenerPhase × List WsMsg) :
    ListenerPhase × List WsMsg :=
  match incoming with
  | .timedOut => (refused (.io timeoutText), [])
  | .ended => (refused .missingHandshake, [])
  | .failed detail => (refused (.webSocket detail), [])
  | .frame (.binary bytes) =>
      match codec.messageFromBytes bytes with
      | none => (refused (.io "malformed DIG frame"), [])
      | some message => take message
  | .frame (.ping payload) => sending (.pong payload) fault phase
  | .frame .close => (refused .missingHandshake, [])
  | .frame _ => (phase, [])

/-- The second and third phases: the reply is made only for a valid handshake. -/
def takeHandshake (node : NodeFace) (fault : Option String) (first : DigMessage) :
    ListenerPhase × List WsMsg :=
  if first.msgType ≠ handshakeOpcode then
    (refused (.io ("expected a Handshake (opcode " ++ toString handshakeOpcode.toNat ++
      "), got opcode " ++ toString first.msgType.toNat)), [])
  else
    match codec.handshakeFromBytes first.data with
    | .error detail => (refused (.streamable detail), [])
    | .ok theirHandshake =>
        match validateRemoteHandshake category theirHandshake
            (networkIdHandshakeString node.networkId) with
        | .error error => (refused error.toClientError, [])
        | .ok sanitized =>
            match codec.handshakeToBytes (ourHandshake node) with
            | .error detail => (refused (.streamable detail), [])
            | .ok data =>
                sending (.binary (codec.messageToBytes
                    { msgType := handshakeOpcode, id := none, data := data })) fault
                  (awaitingRequest { theirHandshake, softwareVersionSanitized := sanitized })

/-- The fourth phase: a `RequestPeers` is answered with an empty list, and any
other message is taken without an answer. -/
def takeRequest (remote : RemoteFace) (fault : Option String) (second : DigMessage) :
    ListenerPhase × List WsMsg :=
  if second.msgType = requestPeersOpcode then
    match codec.respondPeersToBytes [] with
    | .error detail => (refused (.streamable detail), [])
    | .ok data =>
        sending (.binary (codec.messageToBytes
            { msgType := respondPeersOpcode, id := second.id, data := data })) fault
          (negotiated remote)
  else (negotiated remote, [])

/-- One turn of the listener; `fault` is what the socket says to the one frame
the turn may send. -/
def negotiateInbound (node : NodeFace) (phase : ListenerPhase) (incoming : Incoming)
    (fault : Option String) : ListenerPhase × List WsMsg :=
  match phase with
  | awaitingHandshake =>
      reading codec phase "inbound handshake timeout" incoming fault
        (takeHandshake category codec node fault)
  | awaitingRequest remote =>
      reading codec phase "inbound RequestPeers timeout" incoming fault
        (takeRequest codec remote fault)
  | negotiated _ => (phase, [])
  | refused _ => (phase, [])

end ListenerPhase

/-! ## The dialer -/

/-- Where `connect_outbound_peer` is, once its handshake is sent. -/
inductive DialerPhase where
  | awaitingHandshake
  | established (remote : RemoteFace)
  | failed (error : DialError)
deriving DecidableEq

def nonHandshakeFirstFrame (opcode : UInt8) : DialError :=
  if codec.isProtocolMessageType opcode then
    .client (.invalidResponse [handshakeOpcode] opcode)
  else .unknownOpcode opcode

/-- What the dialer makes of what its link receives, if anything. -/
def DialerPhase.connectOutbound (node : NodeFace) (phase : DialerPhase)
    (received : Option DigMessage) : DialerPhase :=
  match phase with
  | .awaitingHandshake =>
      match received with
      | none => .failed (.client .missingHandshake)
      | some message =>
          if message.msgType ≠ handshakeOpcode then
            .failed (nonHandshakeFirstFrame codec message.msgType)
          else
            match codec.handshakeFromBytes message.data with
            | .error detail => .failed (.link detail)
            | .ok handshake =>
                if handshake.nodeType ≠ .fullNode then
                  .failed (.client (.wrongNodeType .fullNode handshake.nodeType))
                else
                  match validateRemoteHandshake category handshake
                      (networkIdHandshakeString node.networkId) with
                  | .error error => .failed (.client error.toClientError)
                  | .ok sanitized =>
                      .established {
                        theirHandshake := handshake, softwareVersionSanitized := sanitized }
  | .established _ => phase
  | .failed _ => phase

end Source

/-! ## One turn of the listener -/

namespace WsMsg

def isPong : WsMsg -> Bool
  | pong _ => true
  | _ => false

def isPing : WsMsg -> Bool
  | ping _ => true
  | _ => false

def isBinary : WsMsg -> Bool
  | binary _ => true
  | _ => false

theorem not_binary_of_pong {frame : WsMsg} (pong : frame.isPong = true) : frame.isBinary = false := by
  cases frame with
  | pong payload => rfl
  | binary bytes => cases pong
  | ping payload => cases pong
  | close => cases pong
  | other => cases pong

end WsMsg

section Turns

variable {category : Char -> GeneralCategory} {codec : SessionCodec} {node : NodeFace}

/-- The frame of a handshake that is serialized as these bytes. -/
def handshakeFrame (codec : SessionCodec) (data : List UInt8) : WsMsg :=
  .binary (codec.messageToBytes { msgType := handshakeOpcode, id := none, data := data })

/-- The frame of an empty `RespondPeers` for a request. -/
def respondFrame (codec : SessionCodec) (id : Option UInt16) (data : List UInt8) : WsMsg :=
  .binary (codec.messageToBytes { msgType := respondPeersOpcode, id := id, data := data })

namespace ListenerPhase

theorem sending_cases (frame : WsMsg) (fault : Option String) (next : ListenerPhase) :
    sending frame fault next = (next, [frame]) ∨
      exists error, sending frame fault next = (refused error, []) := by
  cases fault with
  | none => exact Or.inl rfl
  | some detail => exact Or.inr ⟨.io detail, rfl⟩

/-- The wait goes on, it fails, or it gives a message. -/
theorem reading_cases (phase : ListenerPhase) (timeoutText : String) (incoming : Incoming)
    (fault : Option String) (take : DigMessage -> ListenerPhase × List WsMsg) :
    (exists pongs, reading codec phase timeoutText incoming fault take = (phase, pongs) ∧
        ∀ frame ∈ pongs, frame.isPong = true) ∨
      (exists error, reading codec phase timeoutText incoming fault take = (refused error, [])) ∨
      exists bytes message, incoming = .frame (.binary bytes) ∧
        codec.messageFromBytes bytes = some message ∧
        reading codec phase timeoutText incoming fault take = take message := by
  have still : exists pongs : List WsMsg, (phase, []) = (phase, pongs) ∧
      ∀ frame ∈ pongs, frame.isPong = true :=
    ⟨[], rfl, fun _ member => absurd member List.not_mem_nil⟩
  cases incoming with
  | timedOut => exact Or.inr (Or.inl ⟨_, rfl⟩)
  | ended => exact Or.inr (Or.inl ⟨_, rfl⟩)
  | failed detail => exact Or.inr (Or.inl ⟨_, rfl⟩)
  | frame msg =>
      cases msg with
      | binary bytes =>
          cases decoded : codec.messageFromBytes bytes with
          | none =>
              refine Or.inr (Or.inl ⟨.io "malformed DIG frame", ?_⟩)
              simp only [reading, decoded]
          | some message =>
              refine Or.inr (Or.inr ⟨bytes, message, rfl, decoded, ?_⟩)
              simp only [reading, decoded]
      | ping payload =>
          rcases sending_cases (.pong payload) fault phase with sent | ⟨error, broken⟩
          · refine Or.inl ⟨[.pong payload], sent, fun frame member => ?_⟩
            rw [List.mem_singleton.mp member]
            rfl
          · exact Or.inr (Or.inl ⟨error, broken⟩)
      | pong payload => exact Or.inl still
      | close => exact Or.inr (Or.inl ⟨_, rfl⟩)
      | other => exact Or.inl still

/-- A first message is refused, or it is a valid handshake and is answered. -/
theorem takeHandshake_cases (fault : Option String) (first : DigMessage) :
    (exists error, takeHandshake category codec node fault first = (refused error, [])) ∨
      exists their sanitized data, first.msgType = handshakeOpcode ∧
        codec.handshakeFromBytes first.data = .ok their ∧
        validateRemoteHandshake category their (networkIdHandshakeString node.networkId) =
          .ok sanitized ∧
        codec.handshakeToBytes (ourHandshake node) = .ok data ∧
        takeHandshake category codec node fault first =
          (awaitingRequest { theirHandshake := their, softwareVersionSanitized := sanitized },
            [handshakeFrame codec data]) := by
  unfold takeHandshake
  by_cases other : first.msgType ≠ handshakeOpcode
  · rw [if_pos other]
    exact Or.inl ⟨_, rfl⟩
  rw [if_neg other]
  cases decoded : codec.handshakeFromBytes first.data with
  | error detail => exact Or.inl ⟨_, rfl⟩
  | ok their =>
  simp only
  cases verdict : validateRemoteHandshake category their
      (networkIdHandshakeString node.networkId) with
  | error error => exact Or.inl ⟨_, rfl⟩
  | ok sanitized =>
  simp only
  cases written : codec.handshakeToBytes (ourHandshake node) with
  | error detail => exact Or.inl ⟨_, rfl⟩
  | ok data =>
  simp only
  rcases sending_cases (handshakeFrame codec data) fault (awaitingRequest
      { theirHandshake := their, softwareVersionSanitized := sanitized }) with sent | ⟨error, broken⟩
  · exact Or.inr ⟨their, sanitized, data, not_not.mp other, rfl, verdict, rfl, sent⟩
  · exact Or.inl ⟨error, broken⟩

/-- A second message ends the negotiation one way or the other. -/
theorem takeRequest_cases (remote : RemoteFace) (fault : Option String) (second : DigMessage) :
    (exists error, takeRequest codec remote fault second = (refused error, [])) ∨
      takeRequest codec remote fault second = (negotiated remote, []) ∨
      exists data, second.msgType = requestPeersOpcode ∧ codec.respondPeersToBytes [] = .ok data ∧
        takeRequest codec remote fault second =
          (negotiated remote, [respondFrame codec second.id data]) := by
  unfold takeRequest
  by_cases asks : second.msgType = requestPeersOpcode
  swap
  · rw [if_neg asks]
    exact Or.inr (Or.inl rfl)
  rw [if_pos asks]
  cases written : codec.respondPeersToBytes [] with
  | error detail => exact Or.inl ⟨_, rfl⟩
  | ok data =>
  simp only
  rcases sending_cases (respondFrame codec second.id data) fault (negotiated remote) with
    sent | ⟨error, broken⟩
  · exact Or.inr (Or.inr ⟨data, asks, rfl, sent⟩)
  · exact Or.inl ⟨error, broken⟩

end ListenerPhase

end Turns

/-! ## A listener before any peer -/

/-- Whom the listener has let in. -/
def ListenerPhase.remote : ListenerPhase -> Option RemoteFace
  | awaitingRequest remote => some remote
  | negotiated remote => some remote
  | _ => none

/-- A listener and the frames it has sent. -/
structure ListenerSession where
  phase : ListenerPhase
  sent : List WsMsg

/-- What the socket gives, and what it says to the frame sent in return. -/
abbrev SocketTurn := Incoming × Option String

section Screen

variable (category : Char -> GeneralCategory) (codec : SessionCodec) (node : NodeFace)

def ListenerSession.step (s : ListenerSession) (turn : SocketTurn) : ListenerSession :=
  let out := s.phase.negotiateInbound category codec node turn.1 turn.2
  { phase := out.1, sent := s.sent ++ out.2 }

def ListenerSession.opened : ListenerSession := { phase := .awaitingHandshake, sent := [] }

/-- The message was among what the socket gave. -/
def Received (turns : List SocketTurn) (message : DigMessage) : Prop :=
  exists bytes fault, (Incoming.frame (.binary bytes), fault) ∈ turns ∧
    codec.messageFromBytes bytes = some message

/-- The remote side was received in a valid handshake. -/
def LetIn (turns : List SocketTurn) (remote : RemoteFace) : Prop :=
  exists message, Received codec turns message ∧ message.msgType = handshakeOpcode ∧
    codec.handshakeFromBytes message.data = .ok remote.theirHandshake ∧
    validateRemoteHandshake category remote.theirHandshake
      (networkIdHandshakeString node.networkId) = .ok remote.softwareVersionSanitized

def binaries (frames : List WsMsg) : List WsMsg := frames.filter WsMsg.isBinary

/-- What the listener has sent and whom it has let in, by its phase. -/
inductive Screened (turns : List SocketTurn) : ListenerSession -> Prop
  | waiting {sent : List WsMsg} (silent : binaries sent = []) :
      Screened turns { phase := .awaitingHandshake, sent := sent }
  | answered {sent : List WsMsg} {remote : RemoteFace} {data : List UInt8}
      (accepted : LetIn category codec node turns remote)
      (written : codec.handshakeToBytes (ourHandshake node) = .ok data)
      (said : binaries sent = [handshakeFrame codec data]) :
      Screened turns { phase := .awaitingRequest remote, sent := sent }
  | negotiated {sent : List WsMsg} {remote : RemoteFace} {data : List UInt8}
      (accepted : LetIn category codec node turns remote)
      (written : codec.handshakeToBytes (ourHandshake node) = .ok data)
      (said : binaries sent = [handshakeFrame codec data] ∨ exists id answer,
        codec.respondPeersToBytes [] = .ok answer ∧
          binaries sent = [handshakeFrame codec data, respondFrame codec id answer]) :
      Screened turns { phase := .negotiated remote, sent := sent }
  | refused {sent : List WsMsg} {error : ClientError}
      (said : binaries sent = [] ∨ exists remote data,
        LetIn category codec node turns remote ∧
          codec.handshakeToBytes (ourHandshake node) = .ok data ∧
          binaries sent = [handshakeFrame codec data]) :
      Screened turns { phase := .refused error, sent := sent }

variable {category codec node}

theorem binaries_append (first second : List WsMsg) :
    binaries (first ++ second) = binaries first ++ binaries second :=
  List.filter_append first second

theorem binaries_pongs {pongs : List WsMsg} (all : ∀ frame ∈ pongs, frame.isPong = true) :
    binaries pongs = [] := by
  apply List.filter_eq_nil_iff.mpr
  intro frame member
  rw [WsMsg.not_binary_of_pong (all frame member)]
  exact Bool.false_ne_true

/-- Pongs among the frames sent are no binary ones. -/
theorem binaries_append_pongs (sent : List WsMsg) {pongs : List WsMsg}
    (all : ∀ frame ∈ pongs, frame.isPong = true) : binaries (sent ++ pongs) = binaries sent := by
  rw [binaries_append, binaries_pongs all, List.append_nil]

/-- What was received stays received. -/
theorem LetIn.later {turns : List SocketTurn} {remote : RemoteFace}
    (accepted : LetIn category codec node turns remote) (turn : SocketTurn) :
    LetIn category codec node (turns ++ [turn]) remote := by
  rcases accepted with ⟨message, ⟨bytes, fault, member, decoded⟩, facts⟩
  exact ⟨message, ⟨bytes, fault, List.mem_append_left _ member, decoded⟩, facts⟩

/-- One turn keeps the listener screened. -/
theorem Screened.step {turns : List SocketTurn} {s : ListenerSession}
    (screened : Screened category codec node turns s) (turn : SocketTurn) :
    Screened category codec node (turns ++ [turn]) (s.step category codec node turn) := by
  rcases turn with ⟨incoming, fault⟩
  unfold ListenerSession.step
  cases screened with
  | waiting silent =>
      rename_i sent
      simp only [ListenerPhase.negotiateInbound]
      rcases ListenerPhase.reading_cases .awaitingHandshake "inbound handshake timeout" incoming
          fault (ListenerPhase.takeHandshake category codec node fault) with
        ⟨pongs, still, all⟩ | ⟨error, broken⟩ | ⟨bytes, message, rfl, decoded, taken⟩
      · rw [still]
        exact .waiting ((binaries_append_pongs sent all).trans silent)
      · rw [broken]
        exact .refused (Or.inl ((congrArg binaries (List.append_nil sent)).trans silent))
      · rw [taken]
        rcases ListenerPhase.takeHandshake_cases fault message with
          ⟨error, refused⟩ | ⟨their, sanitized, data, opcode, read, valid, written, answered⟩
        · rw [refused]
          exact .refused (Or.inl ((congrArg binaries (List.append_nil sent)).trans silent))
        · rw [answered]
          have received : Received codec (turns ++ [(.frame (.binary bytes), fault)]) message :=
            ⟨bytes, fault, List.mem_append_right _ (List.mem_singleton.mpr rfl), decoded⟩
          refine .answered ⟨message, received, opcode, read, valid⟩ written ?_
          rw [binaries_append, silent]
          rfl
  | answered accepted written said =>
      rename_i sent remote data
      simp only [ListenerPhase.negotiateInbound]
      have kept := accepted.later (incoming, fault)
      have quiet : binaries (sent ++ []) = [handshakeFrame codec data] :=
        (congrArg binaries (List.append_nil sent)).trans said
      rcases ListenerPhase.reading_cases (.awaitingRequest remote) "inbound RequestPeers timeout"
          incoming fault (ListenerPhase.takeRequest codec remote fault) with
        ⟨pongs, still, all⟩ | ⟨error, broken⟩ | ⟨bytes, message, rfl, _, taken⟩
      · rw [still]
        exact .answered kept written ((binaries_append_pongs sent all).trans said)
      · rw [broken]
        exact .refused (Or.inr ⟨remote, data, kept, written, quiet⟩)
      · rw [taken]
        rcases @ListenerPhase.takeRequest_cases codec remote fault message with
          ⟨error, refused⟩ | passed | ⟨answer, _, answerWritten, responded⟩
        · rw [refused]
          exact .refused (Or.inr ⟨remote, data, kept, written, quiet⟩)
        · rw [passed]
          exact .negotiated kept written (Or.inl quiet)
        · rw [responded]
          refine .negotiated kept written (Or.inr ⟨message.id, answer, answerWritten, ?_⟩)
          rw [binaries_append, said]
          rfl
  | negotiated accepted written said =>
      simp only [ListenerPhase.negotiateInbound, List.append_nil]
      exact .negotiated (accepted.later _) written said
  | refused said =>
      simp only [ListenerPhase.negotiateInbound, List.append_nil]
      refine .refused (said.imp id ?_)
      rintro ⟨remote, data, accepted, rest⟩
      exact ⟨remote, data, accepted.later _, rest⟩

theorem screened_run (turns : List SocketTurn) : Screened category codec node turns
    (Stepping.run (ListenerSession.step category codec node) turns .opened) := by
  induction turns using List.reverseRecOn with
  | nil => exact .waiting rfl
  | append_singleton turns turn inner =>
      rw [Stepping.run_concat]
      exact inner.step turn

end Screen

/-- Before any peer, the listener sends nothing but pongs until it has received
a valid handshake, and then its own handshake and at most one answer.  Whomever
it lets in was received in a valid handshake, and what it keeps of the software
version is short and sanitized. -/
theorem listener_validates_first (category : Char -> GeneralCategory) (codec : SessionCodec)
    (node : NodeFace) (turns : List SocketTurn) :
    let s := Stepping.run (ListenerSession.step category codec node) turns .opened
    (forall remote, s.phase.remote = some remote ->
      LetIn category codec node turns remote ∧
        (utf8Bytes remote.softwareVersionSanitized).length ≤ maxSoftwareVersionBytes ∧
        sanitizeSoftwareVersion category remote.softwareVersionSanitized =
          remote.softwareVersionSanitized) ∧
      (binaries s.sent = [] ∨ exists remote data, LetIn category codec node turns remote ∧
        codec.handshakeToBytes (ourHandshake node) = .ok data ∧
        (binaries s.sent = [handshakeFrame codec data] ∨ exists id answer,
          codec.respondPeersToBytes [] = .ok answer ∧
            binaries s.sent = [handshakeFrame codec data, respondFrame codec id answer])) := by
  intro s
  have kept {remote : RemoteFace} (accepted : LetIn category codec node turns remote) :
      (utf8Bytes remote.softwareVersionSanitized).length ≤ maxSoftwareVersionBytes ∧
        sanitizeSoftwareVersion category remote.softwareVersionSanitized =
          remote.softwareVersionSanitized := by
    rcases accepted with ⟨_, _, _, _, valid⟩
    rcases validate_eq_ok_iff.mp valid with ⟨_, _, _, same, short⟩
    refine ⟨short, ?_⟩
    rw [same]
    exact sanitize_sanitize _
  have screened : Screened category codec node turns s := screened_run turns
  generalize s = reached at screened
  cases screened with
  | waiting silent => exact ⟨fun _ none => (by cases none), Or.inl silent⟩
  | answered accepted written said =>
      refine ⟨fun _ same => ?_, Or.inr ⟨_, _, accepted, written, Or.inl said⟩⟩
      cases same
      exact ⟨accepted, kept accepted⟩
  | negotiated accepted written said =>
      refine ⟨fun _ same => ?_, Or.inr ⟨_, _, accepted, written, said⟩⟩
      cases same
      exact ⟨accepted, kept accepted⟩
  | refused said =>
      refine ⟨fun _ none => (by cases none), said.imp id ?_⟩
      rintro ⟨remote, data, accepted, written, sent⟩
      exact ⟨remote, data, accepted, written, Or.inl sent⟩

end Service
end DigGossip
