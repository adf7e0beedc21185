import DigGossip.Service.Negotiation

namespace DigGossip
namespace Service

open Foundations DigGossip.Types

/-!
# Two honest sides

A dialer and a listener joined by their two streams of frames.  The frames of a
stream arrive in order or not at all; the turns of the two sides interleave in
any order, either may lose its link at any time, and pings and later messages
travel among the handshakes.
-/

section Source

variable (category : Char -> GeneralCategory) (codec : SessionCodec)

/-- Both sides and the frames on their way. -/
structure Meeting where
  dialer : DialerPhase
  listener : ListenerPhase
  toListener : List WsMsg
  toDialer : List WsMsg

/-- A wait of the listener that gives no frame. -/
inductive Loss where
  | failed (detail : String)
  | ended
  | timedOut

def Loss.incoming : Loss -> Incoming
  | failed detail => .failed detail
  | ended => .ended
  | timedOut => .timedOut

inductive Turn where
  | listenerReads (fault : Option String)
  | listenerLoses (loss : Loss)
  | dialerReads
  | dialerLoses
  | dialerPings (payload : List UInt8)
  /-- What the dialer's node sends on the established link. -/
  | dialerSends (message : DigMessage)

namespace Meeting

variable (dialing listening : NodeFace)

/-- The link is open and the dialer has sent its handshake. -/
def opened : Meeting :=
  match codec.handshakeToBytes (dialHandshake dialing) with
  | .error detail =>
      { dialer := .failed (.link detail), listener := .awaitingHandshake, toListener := [],
        toDialer := [] }
  | .ok data =>
      { dialer := .awaitingHandshake, listener := .awaitingHandshake,
        toListener := [.binary (codec.messageToBytes
          { msgType := handshakeOpcode, id := none, data := data })],
        toDialer := [] }

/-- The dialer's link passes on the messages it can read and answers or drops
the rest by itself. -/
def dialerReads (m : Meeting) : Meeting :=
  match m.toDialer with
  | [] => m
  | frame :: rest =>
      match frame with
      | .binary bytes =>
          match codec.messageFromBytes bytes with
          | none => { m with toDialer := rest }
          | some message =>
              { m with
                dialer := m.dialer.connectOutbound category codec dialing (some message)
                toDialer := rest }
      | _ => { m with toDialer := rest }

def listenerReads (m : Meeting) (fault : Option String) : Meeting :=
  match m.toListener with
  | [] => m
  | frame :: rest =>
      let turn := m.listener.negotiateInbound category codec listening (.frame frame) fault
      { m with listener := turn.1, toListener := rest, toDialer := m.toDialer ++ turn.2 }

def step (m : Meeting) : Turn -> Meeting
  | .listenerReads fault => m.listenerReads category codec listening fault
  | .listenerLoses loss =>
      { m with
        listener := (m.listener.negotiateInbound category codec listening loss.incoming none).1 }
  | .dialerReads => m.dialerReads category codec dialing
  | .dialerLoses =>
      { m with dialer := m.dialer.connectOutbound category codec dialing none }
  | .dialerPings payload => { m with toListener := m.toListener ++ [.ping payload] }
  | .dialerSends message =>
      match m.dialer with
      | .established _ =>
          { m with toListener := m.toListener ++ [.binary (codec.messageToBytes message)] }
      | _ => m

end Meeting

end Source

/-! ## Two honest sides in any order -/

/-- Whom the dialer is connected to. -/
def DialerPhase.remote : DialerPhase -> Option RemoteFace
  | established remote => some remote
  | _ => none

/-- The codec writes a handshake as these bytes and reads it back, alone and in its frame. -/
structure SessionCodec.Carries (codec : SessionCodec) (handshake : Handshake)
    (data : List UInt8) : Prop where
  written : codec.handshakeToBytes handshake = .ok data
  readBack : codec.handshakeFromBytes data = .ok handshake
  framed : codec.messageFromBytes (codec.messageToBytes
      { msgType := handshakeOpcode, id := none, data := data }) =
    some { msgType := handshakeOpcode, id := none, data := data }

section Honest

variable (category : Char -> GeneralCategory) (codec : SessionCodec) (dialing listening : NodeFace)

/-- What the listener makes of the dialer's handshake. -/
def listenerVerdict : Except HandshakeValidationError String :=
  validateRemoteHandshake category (dialHandshake dialing)
    (networkIdHandshakeString listening.networkId)

/-- What the dialer makes of the listener's handshake. -/
def dialerVerdict : Except HandshakeValidationError String :=
  validateRemoteHandshake category (ourHandshake listening)
    (networkIdHandshakeString dialing.networkId)

/-- What holds of two honest sides whatever has happened between them. -/
structure Agreeing (greetingData answerData : List UInt8) (m : Meeting) : Prop where
  greeting : m.listener = .awaitingHandshake ->
    (exists pings, m.toListener = handshakeFrame codec greetingData :: pings ∧
      ∀ frame ∈ pings, frame.isPing = true) ∧ m.toDialer = [] ∧ m.dialer.remote = none
  heard : forall remote, m.listener.remote = some remote ->
    remote.theirHandshake = dialHandshake dialing ∧
      listenerVerdict category dialing listening = .ok remote.softwareVersionSanitized
  connected : forall remote, m.dialer.remote = some remote ->
    remote.theirHandshake = ourHandshake listening ∧
      dialerVerdict category dialing listening = .ok remote.softwareVersionSanitized ∧
      (listenerVerdict category dialing listening).isOk = true
  quiet : m.dialer.remote = none -> m.listener.remote ≠ none ->
    ∀ frame ∈ m.toListener, frame.isPing = true
  confirmed : forall remote, m.listener = .negotiated remote -> m.dialer.remote ≠ none
  answered : m.dialer = .awaitingHandshake -> ∀ frame ∈ m.toDialer,
    frame.isPong = true ∨ frame = handshakeFrame codec answerData ∧
      (listenerVerdict category dialing listening).isOk = true
  verdict : forall error, m.dialer = .failed error ->
    error = .client .missingHandshake ∨ exists refusal,
      (listenerVerdict category dialing listening).isOk = true ∧
        dialerVerdict category dialing listening = .error refusal ∧
        error = .client refusal.toClientError

variable {category codec dialing listening} {greetingData answerData : List UInt8} {m : Meeting}

theorem agreeing_opened (greets : codec.Carries (dialHandshake dialing) greetingData) :
    Agreeing category codec dialing listening greetingData answerData
      (Meeting.opened codec dialing) := by
  unfold Meeting.opened
  rw [greets.written]
  exact {
    greeting := fun _ =>
      ⟨⟨[], rfl, fun _ member => absurd member List.not_mem_nil⟩, rfl, rfl⟩
    heard := fun _ none => by cases none
    connected := fun _ none => by cases none
    quiet := fun _ present => absurd rfl present
    confirmed := fun _ none => by cases none
    answered := fun _ _ member => absurd member List.not_mem_nil
    verdict := fun _ none => by cases none }

/-- A listener that has refused promises nothing more. -/
theorem Agreeing.refuse (agreeing : Agreeing category codec dialing listening greetingData
      answerData m) (error : ClientError) (toListener : List WsMsg) :
    Agreeing category codec dialing listening greetingData answerData
      { m with listener := .refused error, toListener := toListener } where
  greeting := fun none => by cases none
  heard := fun _ none => by cases none
  connected := agreeing.connected
  quiet := fun _ present => absurd rfl present
  confirmed := fun _ none => by cases none
  answered := agreeing.answered
  verdict := agreeing.verdict

/-- The listener has read a frame that leaves it where it is and answers with pongs only. -/
theorem Agreeing.pass (agreeing : Agreeing category codec dialing listening greetingData
      answerData m) {frame : WsMsg} {rest pongs : List WsMsg}
    (listed : m.toListener = frame :: rest) (past : m.listener ≠ .awaitingHandshake)
    (all : ∀ frame ∈ pongs, frame.isPong = true) :
    Agreeing category codec dialing listening greetingData answerData
      { m with toListener := rest, toDialer := m.toDialer ++ pongs } where
  greeting := fun waiting => absurd waiting past
  heard := agreeing.heard
  connected := agreeing.connected
  quiet := fun alone present frame member =>
    agreeing.quiet alone present frame (listed ▸ List.mem_cons_of_mem _ member)
  confirmed := agreeing.confirmed
  answered := fun waiting frame member => by
    rcases List.mem_append.mp member with before | added
    · exact agreeing.answered waiting frame before
    · exact Or.inl (all frame added)
  verdict := agreeing.verdict

theorem Agreeing.listenerReads (agreeing : Agreeing category codec dialing listening greetingData
      answerData m) (greets : codec.Carries (dialHandshake dialing) greetingData)
    (answers : codec.Carries (ourHandshake listening) answerData) (fault : Option String) :
    Agreeing category codec dialing listening greetingData answerData
      (m.listenerReads category codec listening fault) := by
  unfold Meeting.listenerReads
  cases listed : m.toListener with
  | nil => exact agreeing
  | cons frame rest =>
  simp only
  cases phase : m.listener with
  | awaitingHandshake =>
      rcases agreeing.greeting phase with ⟨⟨pings, first, allPings⟩, empty, alone⟩
      rw [listed, List.cons.injEq] at first
      rcases first with ⟨rfl, rfl⟩
      have read := @ListenerPhase.takeHandshake_cases category codec listening fault
        { msgType := handshakeOpcode, id := none, data := greetingData }
      have turn : ListenerPhase.negotiateInbound category codec listening .awaitingHandshake
          (.frame (handshakeFrame codec greetingData)) fault =
          ListenerPhase.takeHandshake category codec listening fault
            { msgType := handshakeOpcode, id := none, data := greetingData } := by
        simp only [ListenerPhase.negotiateInbound, ListenerPhase.reading, handshakeFrame,
          greets.framed]
      rw [turn, empty]
      rcases read with ⟨error, refused⟩ | ⟨their, sanitized, data, _, decoded, valid, written, sent⟩
      · rw [refused]
        have done := agreeing.refuse error rest
        rw [empty] at done
        exact done
      · rw [sent]
        cases greets.readBack.symm.trans decoded
        cases answers.written.symm.trans written
        have heard : listenerVerdict category dialing listening = .ok sanitized := valid
        exact {
          greeting := fun none => by cases none
          heard := fun remote same => by
            cases same
            exact ⟨rfl, heard⟩
          connected := agreeing.connected
          quiet := fun _ _ => allPings
          confirmed := fun _ none => by cases none
          answered := fun _ frame member => by
            refine Or.inr ⟨List.mem_singleton.mp member, ?_⟩
            rw [heard]
            rfl
          verdict := agreeing.verdict }
  | awaitingRequest remote =>
      have past : m.listener ≠ .awaitingHandshake := by
        rw [phase]
        rintro ⟨⟩
      have present : m.listener.remote = some remote := by
        rw [phase]
        rfl
      simp only [ListenerPhase.negotiateInbound]
      rcases @ListenerPhase.reading_cases codec (.awaitingRequest remote)
          "inbound RequestPeers timeout" (.frame frame) fault
          (ListenerPhase.takeRequest codec remote fault) with
        ⟨pongs, still, all⟩ | ⟨error, broken⟩ | ⟨bytes, message, binary, _, taken⟩
      · rw [still, <- phase]
        exact agreeing.pass listed past all
      · rw [broken]
        have done := agreeing.refuse error rest
        simp only [List.append_nil]
        exact done
      · rw [taken]
        cases binary
        -- A binary frame is no ping, so the dialer is past its own wait.
        have met : m.dialer.remote ≠ none := by
          intro alone
          have ping := agreeing.quiet alone (by rw [present]; rintro ⟨⟩) (.binary bytes)
            (listed ▸ List.mem_cons_self)
          cases ping
        have negotiated (sent : List WsMsg) : Agreeing category codec dialing listening greetingData
            answerData
            { m with listener := .negotiated remote, toListener := rest,
                     toDialer := m.toDialer ++ sent } := {
          greeting := fun none => by cases none
          heard := fun other same => agreeing.heard other (present.trans same)
          connected := agreeing.connected
          quiet := fun alone => absurd alone met
          confirmed := fun _ _ => met
          answered := fun waiting => absurd (by rw [waiting]; rfl) met
          verdict := agreeing.verdict }
        rcases @ListenerPhase.takeRequest_cases codec remote fault message with
          ⟨error, refused⟩ | passed | ⟨answer, _, _, responded⟩
        · rw [refused]
          have done := agreeing.refuse error rest
          simp only [List.append_nil]
          exact done
        · rw [passed]
          exact negotiated []
        · rw [responded]
          exact negotiated _
  | negotiated remote =>
      have past : m.listener ≠ .awaitingHandshake := by
        rw [phase]
        rintro ⟨⟩
      simp only [ListenerPhase.negotiateInbound]
      rw [<- phase]
      exact agreeing.pass listed past fun _ member => absurd member List.not_mem_nil
  | refused error =>
      simp only [ListenerPhase.negotiateInbound, List.append_nil]
      exact agreeing.refuse error rest

/-- The dialer's link has dropped a frame that changes nothing. -/
theorem Agreeing.drop (agreeing : Agreeing category codec dialing listening greetingData
      answerData m) {frame : WsMsg} {rest : List WsMsg} (listed : m.toDialer = frame :: rest) :
    Agreeing category codec dialing listening greetingData answerData
      { m with toDialer := rest } where
  greeting := fun waiting => by
    have none := (agreeing.greeting waiting).2.1
    rw [listed] at none
    cases none
  heard := agreeing.heard
  connected := agreeing.connected
  quiet := agreeing.quiet
  confirmed := agreeing.confirmed
  answered := fun waiting later member =>
    agreeing.answered waiting later (listed ▸ List.mem_cons_of_mem _ member)
  verdict := agreeing.verdict

/-- A dialer that waited has failed for an accountable reason. -/
theorem Agreeing.fail (agreeing : Agreeing category codec dialing listening greetingData
      answerData m) (waiting : m.dialer = .awaitingHandshake) {error : DialError}
    (accountable : error = .client .missingHandshake ∨ exists refusal,
      (listenerVerdict category dialing listening).isOk = true ∧
        dialerVerdict category dialing listening = .error refusal ∧
        error = .client refusal.toClientError) :
    Agreeing category codec dialing listening greetingData answerData
      { m with dialer := .failed error } := by
  have alone : m.dialer.remote = none := by
    rw [waiting]
    rfl
  exact {
    greeting := fun greeting =>
      ⟨(agreeing.greeting greeting).1, (agreeing.greeting greeting).2.1, rfl⟩
    heard := agreeing.heard
    connected := fun _ none => by cases none
    quiet := fun _ => agreeing.quiet alone
    confirmed := fun remote same => absurd alone (agreeing.confirmed remote same)
    answered := fun none => by cases none
    verdict := fun other same => by
      cases same
      exact accountable }

theorem Agreeing.dialerReads (agreeing : Agreeing category codec dialing listening greetingData
      answerData m) (answers : codec.Carries (ourHandshake listening) answerData) :
    Agreeing category codec dialing listening greetingData answerData
      (m.dialerReads category codec dialing) := by
  unfold Meeting.dialerReads
  cases listed : m.toDialer with
  | nil => exact agreeing
  | cons frame rest =>
  have dropped := agreeing.drop listed
  cases frame with
  | ping payload => exact dropped
  | pong payload => exact dropped
  | close => exact dropped
  | other => exact dropped
  | binary bytes =>
  simp only
  cases decoded : codec.messageFromBytes bytes with
  | none => exact dropped
  | some message =>
  simp only
  cases phase : m.dialer with
  | established remote =>
      simp only [DialerPhase.connectOutbound]
      rw [<- phase]
      exact dropped
  | failed error =>
      simp only [DialerPhase.connectOutbound]
      rw [<- phase]
      exact dropped
  | awaitingHandshake =>
      have answer := agreeing.answered phase (.binary bytes) (listed ▸ List.mem_cons_self)
      rcases answer with pong | ⟨same, heard⟩
      · cases pong
      have carried : message = { msgType := handshakeOpcode, id := none, data := answerData } := by
        rw [handshakeFrame, WsMsg.binary.injEq] at same
        rw [same, answers.framed] at decoded
        exact (Option.some.inj decoded).symm
      rw [carried]
      have waiting : ({ m with toDialer := rest } : Meeting).dialer = .awaitingHandshake := phase
      simp only [DialerPhase.connectOutbound, answers.readBack]
      simp only [ourHandshake, ne_eq, not_true_eq_false, if_false]
      cases verdict : dialerVerdict category dialing listening with
      | error refusal =>
          unfold dialerVerdict ourHandshake at verdict
          rw [verdict]
          exact dropped.fail waiting (Or.inr ⟨refusal, heard, verdict, rfl⟩)
      | ok sanitized =>
          have judged := verdict
          unfold dialerVerdict ourHandshake at verdict
          rw [verdict]
          have alone : m.dialer.remote = none := by
            rw [phase]
            rfl
          exact {
            greeting := fun greeting => by
              have none := (agreeing.greeting greeting).2.1
              rw [listed] at none
              cases none
            heard := agreeing.heard
            connected := fun remote same => by
              cases same
              exact ⟨rfl, judged, heard⟩
            quiet := fun none => by cases none
            confirmed := fun remote same => absurd alone (agreeing.confirmed remote same)
            answered := fun none => by cases none
            verdict := fun _ none => by cases none }

theorem Agreeing.ping (agreeing : Agreeing category codec dialing listening greetingData
      answerData m) (payload : List UInt8) :
    Agreeing category codec dialing listening greetingData answerData
      { m with toListener := m.toListener ++ [.ping payload] } where
  greeting := fun waiting => by
    rcases agreeing.greeting waiting with ⟨⟨pings, first, all⟩, rest⟩
    refine ⟨⟨pings ++ [.ping payload], ?_, fun frame member => ?_⟩, rest⟩
    · rw [first, List.cons_append]
    · rcases List.mem_append.mp member with before | added
      · exact all frame before
      · rw [List.mem_singleton.mp added]
        rfl
  heard := agreeing.heard
  connected := agreeing.connected
  quiet := fun alone present frame member => by
    rcases List.mem_append.mp member with before | added
    · exact agreeing.quiet alone present frame before
    · rw [List.mem_singleton.mp added]
      rfl
  confirmed := agreeing.confirmed
  answered := agreeing.answered
  verdict := agreeing.verdict

/-- Only a dialer that is connected sends, so the listener is past its first wait. -/
theorem Agreeing.send (agreeing : Agreeing category codec dialing listening greetingData
      answerData m) (met : m.dialer.remote ≠ none) (frame : WsMsg) :
    Agreeing category codec dialing listening greetingData answerData
      { m with toListener := m.toListener ++ [frame] } where
  greeting := fun waiting => absurd (agreeing.greeting waiting).2.2 met
  heard := agreeing.heard
  connected := agreeing.connected
  quiet := fun alone => absurd alone met
  confirmed := agreeing.confirmed
  answered := agreeing.answered
  verdict := agreeing.verdict

/-- Every turn keeps two honest sides in agreement. -/
theorem Agreeing.step (greets : codec.Carries (dialHandshake dialing) greetingData)
    (answers : codec.Carries (ourHandshake listening) answerData) (turn : Turn)
    (agreeing : Agreeing category codec dialing listening greetingData answerData m) :
    Agreeing category codec dialing listening greetingData answerData
      (m.step category codec dialing listening turn) := by
  cases turn with
  | listenerReads fault => exact agreeing.listenerReads greets answers fault
  | dialerReads => exact agreeing.dialerReads answers
  | listenerLoses loss =>
      unfold Meeting.step
      simp only
      cases phase : m.listener with
      | awaitingHandshake =>
          cases loss with
          | failed detail => exact agreeing.refuse _ m.toListener
          | ended => exact agreeing.refuse _ m.toListener
          | timedOut => exact agreeing.refuse _ m.toListener
      | awaitingRequest remote =>
          cases loss with
          | failed detail => exact agreeing.refuse _ m.toListener
          | ended => exact agreeing.refuse _ m.toListener
          | timedOut => exact agreeing.refuse _ m.toListener
      | negotiated remote =>
          simp only [ListenerPhase.negotiateInbound]
          rw [<- phase]
          exact agreeing
      | refused error => exact agreeing.refuse error m.toListener
  | dialerLoses =>
      unfold Meeting.step
      simp only
      cases phase : m.dialer with
      | awaitingHandshake => exact agreeing.fail phase (Or.inl rfl)
      | established remote =>
          simp only [DialerPhase.connectOutbound]
          rw [<- phase]
          exact agreeing
      | failed error =>
          simp only [DialerPhase.connectOutbound]
          rw [<- phase]
          exact agreeing
  | dialerPings payload => exact agreeing.ping payload
  | dialerSends message =>
      unfold Meeting.step
      simp only
      cases phase : m.dialer with
      | awaitingHandshake => exact agreeing
      | failed error => exact agreeing
      | established remote =>
          simp only
          rw [<- phase]
          exact agreeing.send (by rw [phase]; rintro ⟨⟩) _

theorem agreeing_run (greets : codec.Carries (dialHandshake dialing) greetingData)
    (answers : codec.Carries (ourHandshake listening) answerData) (turns : List Turn) :
    Agreeing category codec dialing listening greetingData answerData
      (Stepping.run (Meeting.step category codec dialing listening) turns
        (Meeting.opened codec dialing)) :=
  Stepping.invariant (fun _ turn _ agreeing => agreeing.step greets answers turn)
    (Stepping.along_true turns _) (agreeing_opened greets)

/-! ## Which networks meet -/

theorem utf8Bytes_networkId (networkId : Bytes32) :
    utf8Bytes (networkIdHandshakeString networkId) = Hexadecimal.encode networkId.val := by
  apply utf8Bytes_asciiText
  exact Hexadecimal.forall_mem_spell (by decide) networkId.val

theorem networkIdHandshakeString_injective :
    Function.Injective networkIdHandshakeString := by
  intro first second same
  have bytes := congrArg utf8Bytes same
  rw [utf8Bytes_networkId, utf8Bytes_networkId] at bytes
  have decoded := congrArg Hexadecimal.decode bytes
  unfold Hexadecimal.encode at decoded
  rw [Hexadecimal.decode_spell Hexadecimal.faithful_lowerDigit,
    Hexadecimal.decode_spell Hexadecimal.faithful_lowerDigit] at decoded
  exact Subtype.ext (Option.some.inj decoded)

theorem networkIdHandshakeString_nonempty (networkId : Bytes32) :
    networkIdHandshakeString networkId ≠ "" := by
  intro empty
  have bytes := congrArg (fun text => (utf8Bytes text).length) empty
  simp only [utf8Bytes_networkId, Hexadecimal.encode, Hexadecimal.length_spell,
    networkId.property] at bytes
  revert bytes
  decide

theorem advertised_compatible : isCompatibleProtocolVersion advertisedProtocolVersion = true := by
  decide +kernel

/-- The software version of a node is short once it is sanitized. -/
def ShortVersion (category : Char -> GeneralCategory) (node : NodeFace) : Prop :=
  (utf8Bytes (sanitizeSoftwareVersion category node.softwareVersion)).length ≤
    maxSoftwareVersionBytes

theorem listenerVerdict_ok_iff {sanitized : String} :
    listenerVerdict category dialing listening = .ok sanitized ↔
      dialing.networkId = listening.networkId ∧ ShortVersion category dialing ∧
        sanitized = sanitizeSoftwareVersion category dialing.softwareVersion := by
  unfold listenerVerdict ShortVersion
  rw [validate_eq_ok_iff]
  constructor
  · rintro ⟨same, _, _, rfl, short⟩
    exact ⟨networkIdHandshakeString_injective same, short, rfl⟩
  · rintro ⟨same, short, rfl⟩
    exact ⟨congrArg networkIdHandshakeString same,
      networkIdHandshakeString_nonempty listening.networkId, advertised_compatible, rfl, short⟩

theorem dialerVerdict_ok_iff {sanitized : String} :
    dialerVerdict category dialing listening = .ok sanitized ↔
      dialing.networkId = listening.networkId ∧ ShortVersion category listening ∧
        sanitized = sanitizeSoftwareVersion category listening.softwareVersion := by
  unfold dialerVerdict ShortVersion
  rw [validate_eq_ok_iff]
  constructor
  · rintro ⟨same, _, _, rfl, short⟩
    exact ⟨(networkIdHandshakeString_injective same).symm, short, rfl⟩
  · rintro ⟨same, short, rfl⟩
    exact ⟨(congrArg networkIdHandshakeString same).symm,
      networkIdHandshakeString_nonempty dialing.networkId, advertised_compatible, rfl, short⟩

end Honest

/-- What a listener that lets the dialer in keeps of it. -/
def dialerSeen (category : Char -> GeneralCategory) (dialing : NodeFace) : RemoteFace where
  theirHandshake := dialHandshake dialing
  softwareVersionSanitized := sanitizeSoftwareVersion category dialing.softwareVersion

/-- What a dialer that connects keeps of the listener. -/
def listenerSeen (category : Char -> GeneralCategory) (listening : NodeFace) : RemoteFace where
  theirHandshake := ourHandshake listening
  softwareVersionSanitized := sanitizeSoftwareVersion category listening.softwareVersion

/-- Two honest sides agree in every order of their turns, whatever is lost.  A
listener that goes on to register the session has a dialer that is connected to
it, each with the other's data, and a connected dialer is on the listener's
network.  Across networks neither side gets there; the dialer is never told the
network is wrong, but only finds the handshake missing. -/
theorem negotiation_agrees (category : Char -> GeneralCategory) (codec : SessionCodec)
    (dialing listening : NodeFace) (greetingData answerData : List UInt8)
    (greets : codec.Carries (dialHandshake dialing) greetingData)
    (answers : codec.Carries (ourHandshake listening) answerData) (turns : List Turn) :
    let m := Stepping.run (Meeting.step category codec dialing listening) turns
      (Meeting.opened codec dialing)
    (forall remote, m.listener = .negotiated remote ->
      dialing.networkId = listening.networkId ∧ remote = dialerSeen category dialing ∧
        m.dialer = .established (listenerSeen category listening)) ∧
      (forall remote, m.dialer = .established remote ->
        dialing.networkId = listening.networkId ∧ remote = listenerSeen category listening) ∧
      (dialing.networkId ≠ listening.networkId ->
        m.listener.remote = none ∧ m.dialer.remote = none ∧
          forall error, m.dialer = .failed error -> error = .client .missingHandshake) := by
  intro m
  have agreeing : Agreeing category codec dialing listening greetingData answerData m :=
    agreeing_run greets answers turns
  have connected (remote : RemoteFace) (here : m.dialer.remote = some remote) :
      dialing.networkId = listening.networkId ∧ remote = listenerSeen category listening := by
    rcases agreeing.connected remote here with ⟨their, verdict, _⟩
    rcases dialerVerdict_ok_iff.mp verdict with ⟨same, _, sanitized⟩
    refine ⟨same, ?_⟩
    rw [listenerSeen, <- their, <- sanitized]
  refine ⟨fun remote here => ?_, fun remote here => connected remote (by rw [here]; rfl),
    fun apart => ⟨?_, ?_, fun error here => ?_⟩⟩
  · have heard := agreeing.heard remote (by rw [here]; rfl)
    rcases listenerVerdict_ok_iff.mp heard.2 with ⟨same, _, sanitized⟩
    refine ⟨same, ?_, ?_⟩
    · rw [dialerSeen, <- heard.1, <- sanitized]
    · cases phase : m.dialer with
      | established other =>
          rw [(connected other (by rw [phase]; rfl)).2]
      | awaitingHandshake =>
          exact absurd (by rw [phase]; rfl) (agreeing.confirmed remote here)
      | failed error =>
          exact absurd (by rw [phase]; rfl) (agreeing.confirmed remote here)
  · cases here : m.listener.remote with
    | none => rfl
    | some remote =>
        exact absurd (listenerVerdict_ok_iff.mp (agreeing.heard remote here).2).1 apart
  · cases here : m.dialer.remote with
    | none => rfl
    | some remote => exact absurd (connected remote here).1 apart
  · rcases agreeing.verdict error here with missing | ⟨refusal, heard, _⟩
    · exact missing
    · cases verdict : listenerVerdict category dialing listening with
      | error other =>
          rw [verdict] at heard
          cases heard
      | ok sanitized => exact absurd (listenerVerdict_ok_iff.mp verdict).1 apart

/-! ## When nothing is lost -/

/-- A turn in which the socket does not fail and the dialer sends what can be read. -/
def Turn.Calm (codec : SessionCodec) : Turn -> Prop
  | .listenerReads fault => fault = none
  | .listenerLoses _ => False
  | .dialerLoses => False
  | .dialerSends message =>
      codec.messageFromBytes (codec.messageToBytes message) = some message
  | .dialerReads => True
  | .dialerPings _ => True

/-- Nothing has failed, and what has to come next is on its way. -/
structure Smooth (codec : SessionCodec) (answerData : List UInt8) (m : Meeting) : Prop where
  listening : forall error, m.listener ≠ .refused error
  dialing : forall error, m.dialer ≠ .failed error
  readable : ∀ frame ∈ m.toListener, frame.isPing = true ∨ exists bytes message,
    frame = .binary bytes ∧ codec.messageFromBytes bytes = some message
  coming : m.dialer = .awaitingHandshake -> m.listener ≠ .awaitingHandshake ->
    handshakeFrame codec answerData ∈ m.toDialer

section Calm

variable {category : Char -> GeneralCategory} {codec : SessionCodec} {dialing listening : NodeFace}
  {greetingData answerData : List UInt8} {m : Meeting}

theorem smooth_opened (greets : codec.Carries (dialHandshake dialing) greetingData) :
    Smooth codec answerData (Meeting.opened codec dialing) := by
  unfold Meeting.opened
  rw [greets.written]
  exact {
    listening := fun _ => by rintro ⟨⟩
    dialing := fun _ => by rintro ⟨⟩
    readable := fun frame member => by
      rw [List.mem_singleton.mp member]
      exact Or.inr ⟨_, _, rfl, greets.framed⟩
    coming := fun _ past => absurd rfl past }

theorem Smooth.listenerReads (smooth : Smooth codec answerData m)
    (agreeing : Agreeing category codec dialing listening greetingData answerData m)
    (greets : codec.Carries (dialHandshake dialing) greetingData)
    (answers : codec.Carries (ourHandshake listening) answerData)
    (heard : exists sanitized, listenerVerdict category dialing listening = .ok sanitized)
    (responds : exists data, codec.respondPeersToBytes [] = .ok data) :
    Smooth codec answerData (m.listenerReads category codec listening none) := by
  unfold Meeting.listenerReads
  cases listed : m.toListener with
  | nil => exact smooth
  | cons frame rest =>
  simp only
  have readable : ∀ frame ∈ rest, frame.isPing = true ∨ exists bytes message,
      frame = .binary bytes ∧ codec.messageFromBytes bytes = some message :=
    fun later member => smooth.readable later (listed ▸ List.mem_cons_of_mem _ member)
  have here := smooth.readable frame (listed ▸ List.mem_cons_self)
  cases phase : m.listener with
  | awaitingHandshake =>
      rcases agreeing.greeting phase with ⟨⟨pings, first, _⟩, empty, _⟩
      rw [listed, List.cons.injEq] at first
      rcases first with ⟨rfl, rfl⟩
      rcases heard with ⟨sanitized, verdict⟩
      unfold listenerVerdict at verdict
      have turn : ListenerPhase.negotiateInbound category codec listening .awaitingHandshake
          (.frame (handshakeFrame codec greetingData)) none =
          (.awaitingRequest { theirHandshake := dialHandshake dialing,
                              softwareVersionSanitized := sanitized },
            [handshakeFrame codec answerData]) := by
        simp only [ListenerPhase.negotiateInbound, ListenerPhase.reading, handshakeFrame,
          greets.framed, ListenerPhase.takeHandshake, ne_eq, not_true_eq_false, if_false,
          greets.readBack, verdict, answers.written, ListenerPhase.sending]
      rw [turn]
      exact {
        listening := fun _ => by rintro ⟨⟩
        dialing := smooth.dialing
        readable := readable
        coming := fun _ _ => List.mem_append_right _ (List.mem_singleton.mpr rfl) }
  | awaitingRequest remote =>
      have past : m.listener ≠ .awaitingHandshake := by
        rw [phase]
        rintro ⟨⟩
      have on (next : ListenerPhase) (unrefused : forall error, next ≠ .refused error)
          (sent : List WsMsg) : Smooth codec answerData
            { m with listener := next, toListener := rest, toDialer := m.toDialer ++ sent } := {
        listening := unrefused
        dialing := smooth.dialing
        readable := readable
        coming := fun waiting _ => List.mem_append_left _ (smooth.coming waiting past) }
      simp only [ListenerPhase.negotiateInbound]
      rcases here with ping | ⟨bytes, message, rfl, decoded⟩
      · cases frame with
        | ping payload => exact on _ (fun _ none => by cases none) _
        | binary bytes => cases ping
        | pong payload => cases ping
        | close => cases ping
        | other => cases ping
      · rcases responds with ⟨data, written⟩
        simp only [ListenerPhase.reading, decoded, ListenerPhase.takeRequest, written,
          ListenerPhase.sending]
        by_cases asks : message.msgType = requestPeersOpcode
        · simp only [if_pos asks]
          exact on _ (fun _ none => by cases none) _
        · simp only [if_neg asks]
          exact on _ (fun _ none => by cases none) _
  | negotiated remote =>
      have past : m.listener ≠ .awaitingHandshake := by
        rw [phase]
        rintro ⟨⟩
      exact {
        listening := fun _ => by rintro ⟨⟩
        dialing := smooth.dialing
        readable := readable
        coming := fun waiting _ => List.mem_append_left _ (smooth.coming waiting past) }
  | refused error => exact absurd phase (smooth.listening error)

theorem Smooth.dialerReads (smooth : Smooth codec answerData m)
    (agreeing : Agreeing category codec dialing listening greetingData answerData m)
    (answers : codec.Carries (ourHandshake listening) answerData)
    (heard : exists sanitized, dialerVerdict category dialing listening = .ok sanitized) :
    Smooth codec answerData (m.dialerReads category codec dialing) := by
  unfold Meeting.dialerReads
  cases listed : m.toDialer with
  | nil => exact smooth
  | cons frame rest =>
  have dropped (past : m.dialer ≠ .awaitingHandshake ∨ frame.isPong = true) :
      Smooth codec answerData { m with toDialer := rest } := {
    listening := smooth.listening
    dialing := smooth.dialing
    readable := smooth.readable
    coming := fun waiting beyond => by
      have coming := smooth.coming waiting beyond
      rw [listed] at coming
      rcases List.mem_cons.mp coming with first | later
      · rcases past with past | pong
        · exact absurd waiting past
        · rw [<- first] at pong
          cases pong
      · exact later }
  cases phase : m.dialer with
  | failed error => exact absurd phase (smooth.dialing error)
  | established remote =>
      have left := dropped (Or.inl (by rw [phase]; rintro ⟨⟩))
      simp only
      split
      · split
        · rw [phase] at left
          exact left
        · rw [phase] at left
          exact left
      · rw [phase] at left
        exact left
  | awaitingHandshake =>
      rcases agreeing.answered phase frame (listed ▸ List.mem_cons_self) with pong | ⟨rfl, _⟩
      · have left := dropped (Or.inr pong)
        rw [phase] at left
        cases frame with
        | pong payload => exact left
        | binary bytes => cases pong
        | ping payload => cases pong
        | close => cases pong
        | other => cases pong
      · rcases heard with ⟨sanitized, verdict⟩
        unfold dialerVerdict ourHandshake at verdict
        simp only [handshakeFrame, answers.framed, DialerPhase.connectOutbound, answers.readBack]
        simp only [ourHandshake, ne_eq, not_true_eq_false, if_false, verdict]
        exact {
          listening := smooth.listening
          dialing := fun _ => by rintro ⟨⟩
          readable := smooth.readable
          coming := fun none => by cases none }

theorem Smooth.step (smooth : Smooth codec answerData m)
    (agreeing : Agreeing category codec dialing listening greetingData answerData m)
    (greets : codec.Carries (dialHandshake dialing) greetingData)
    (answers : codec.Carries (ourHandshake listening) answerData)
    (heard : exists sanitized, listenerVerdict category dialing listening = .ok sanitized)
    (seen : exists sanitized, dialerVerdict category dialing listening = .ok sanitized)
    (responds : exists data, codec.respondPeersToBytes [] = .ok data) {turn : Turn}
    (calm : turn.Calm codec) :
    Smooth codec answerData (m.step category codec dialing listening turn) := by
  have queued (frame : WsMsg) (fine : frame.isPing = true ∨ exists bytes message,
      frame = .binary bytes ∧ codec.messageFromBytes bytes = some message) :
      Smooth codec answerData { m with toListener := m.toListener ++ [frame] } :=
    { smooth with
      readable := fun later member => by
        rcases List.mem_append.mp member with before | added
        · exact smooth.readable later before
        · rw [List.mem_singleton.mp added]
          exact fine }
  cases turn with
  | listenerReads fault =>
      cases calm
      exact smooth.listenerReads agreeing greets answers heard responds
  | listenerLoses loss => exact calm.elim
  | dialerReads => exact smooth.dialerReads agreeing answers seen
  | dialerLoses => exact calm.elim
  | dialerPings payload => exact queued _ (Or.inl rfl)
  | dialerSends message =>
      unfold Meeting.step
      simp only
      split
      · exact queued _ (Or.inr ⟨_, message, rfl, calm⟩)
      · exact smooth

theorem smooth_run (greets : codec.Carries (dialHandshake dialing) greetingData)
    (answers : codec.Carries (ourHandshake listening) answerData)
    (heard : exists sanitized, listenerVerdict category dialing listening = .ok sanitized)
    (seen : exists sanitized, dialerVerdict category dialing listening = .ok sanitized)
    (responds : exists data, codec.respondPeersToBytes [] = .ok data) (turns : List Turn)
    (calm : ∀ turn ∈ turns, turn.Calm codec) :
    Smooth codec answerData
      (Stepping.run (Meeting.step category codec dialing listening) turns
        (Meeting.opened codec dialing)) := by
  induction turns using List.reverseRecOn with
  | nil => exact smooth_opened greets
  | append_singleton turns turn inner =>
      rw [Stepping.run_concat]
      have before := inner fun earlier member => calm earlier (List.mem_append_left _ member)
      exact before.step (agreeing_run greets answers turns) greets answers heard seen responds
        (calm turn (List.mem_append_right _ (List.mem_singleton.mpr rfl)))

/-- A listener that waits for a message, or is past it, goes on with the next one. -/
theorem negotiated_of_message {remote : RemoteFace} {message : DigMessage} {bytes data : List UInt8}
    (responds : codec.respondPeersToBytes [] = .ok data)
    (decoded : codec.messageFromBytes bytes = some message)
    (waits : m.listener = .awaitingRequest remote ∨ m.listener = .negotiated remote)
    (alone : m.toListener = [.binary bytes]) :
    (m.listenerReads category codec listening none).listener = .negotiated remote := by
  unfold Meeting.listenerReads
  rw [alone]
  simp only
  rcases waits with waits | past
  · rw [waits]
    simp only [ListenerPhase.negotiateInbound, ListenerPhase.reading, decoded,
      ListenerPhase.takeRequest, responds, ListenerPhase.sending]
    split
    · rfl
    · rfl
  · rw [past]
    rfl

end Calm

/-- On one network and with short software versions, two honest sides whose
frames are all delivered are connected on the dialer's side and let in on the
listener's, and the next message of the dialer completes the negotiation. -/
theorem negotiation_completes (category : Char -> GeneralCategory) (codec : SessionCodec)
    (dialing listening : NodeFace) (greetingData answerData respondData : List UInt8)
    (greets : codec.Carries (dialHandshake dialing) greetingData)
    (answers : codec.Carries (ourHandshake listening) answerData)
    (responds : codec.respondPeersToBytes [] = .ok respondData)
    (same : dialing.networkId = listening.networkId) (dialingShort : ShortVersion category dialing)
    (listeningShort : ShortVersion category listening) (turns : List Turn)
    (calm : ∀ turn ∈ turns, turn.Calm codec) (m : Meeting)
    (reached : Stepping.run (Meeting.step category codec dialing listening) turns
      (Meeting.opened codec dialing) = m)
    (delivered : m.toListener = [] ∧ m.toDialer = []) :
    m.dialer = .established (listenerSeen category listening) ∧
      (m.listener = .awaitingRequest (dialerSeen category dialing) ∨
        m.listener = .negotiated (dialerSeen category dialing)) ∧
      forall message, codec.messageFromBytes (codec.messageToBytes message) = some message ->
        (Stepping.run (Meeting.step category codec dialing listening)
          [.dialerSends message, .listenerReads none] m).listener =
            .negotiated (dialerSeen category dialing) := by
  have heard := listenerVerdict_ok_iff.mpr ⟨same, dialingShort, rfl⟩
  have seen := dialerVerdict_ok_iff.mpr ⟨same, listeningShort, rfl⟩
  have agreeing : Agreeing category codec dialing listening greetingData answerData m :=
    reached ▸ agreeing_run greets answers turns
  have smooth : Smooth codec answerData m :=
    reached ▸ smooth_run greets answers ⟨_, heard⟩ ⟨_, seen⟩ ⟨respondData, responds⟩ turns calm
  have past : m.listener ≠ .awaitingHandshake := by
    intro waiting
    rcases (agreeing.greeting waiting).1 with ⟨pings, first, _⟩
    rw [delivered.1] at first
    cases first
  have established : m.dialer = .established (listenerSeen category listening) := by
    cases phase : m.dialer with
    | awaitingHandshake =>
        have coming := smooth.coming phase past
        rw [delivered.2] at coming
        cases coming
    | failed error => exact absurd phase (smooth.dialing error)
    | established remote =>
        rcases agreeing.connected remote (by rw [phase]; rfl) with ⟨their, verdict, _⟩
        rw [seen] at verdict
        rw [listenerSeen, <- their, Except.ok.inj verdict]
  have letIn (remote : RemoteFace) (here : m.listener.remote = some remote) :
      remote = dialerSeen category dialing := by
    rcases agreeing.heard remote here with ⟨their, verdict⟩
    rw [heard] at verdict
    rw [dialerSeen, <- their, Except.ok.inj verdict]
  have waits : m.listener = .awaitingRequest (dialerSeen category dialing) ∨
      m.listener = .negotiated (dialerSeen category dialing) := by
    cases phase : m.listener with
    | awaitingHandshake => exact absurd phase past
    | refused error => exact absurd phase (smooth.listening error)
    | awaitingRequest remote => exact Or.inl (by rw [letIn remote (by rw [phase]; rfl)])
    | negotiated remote => exact Or.inr (by rw [letIn remote (by rw [phase]; rfl)])
  refine ⟨established, waits, fun message decoded => ?_⟩
  have sent : m.step category codec dialing listening (.dialerSends message) =
      { m with toListener := [.binary (codec.messageToBytes message)] } := by
    unfold Meeting.step
    simp only [established, delivered.1, List.nil_append]
  rw [Stepping.run_cons, sent]
  exact negotiated_of_message (m := { m with toListener := [.binary (codec.messageToBytes message)] })
    responds decoded waits rfl

/-! ## A session between two nodes -/

namespace Example

/-- A message as its type, its id behind a flag, and its body behind its length. -/
def encodeMessage (message : DigMessage) : List UInt8 :=
  message.msgType :: ((match message.id with
    | none => [0]
    | some id => 1 :: bigEndian 2 id.toNat) ++ (bigEndian 4 message.data.length ++ message.data))

def decodeBody (msgType : UInt8) (id : Option UInt16) (rest : List UInt8) : Option DigMessage :=
  if bigEndianValue (rest.take 4) = (rest.drop 4).length then
    some { msgType := msgType, id := id, data := rest.drop 4 }
  else none

def decodeMessage : List UInt8 -> Option DigMessage
  | msgType :: 0 :: rest => decodeBody msgType none rest
  | msgType :: 1 :: high :: low :: rest =>
      decodeBody msgType (some (UInt16.ofNat (bigEndianValue [high, low]))) rest
  | _ => none

def encodeText (text : String) : List UInt8 :=
  bigEndian 4 (utf8Bytes text).length ++ utf8Bytes text

def encodeHandshake (handshake : Handshake) : List UInt8 :=
  encodeText handshake.networkId ++ encodeText handshake.protocolVersion ++
    encodeText handshake.softwareVersion ++ bigEndian 2 handshake.serverPort.toNat ++
    [if handshake.nodeType = .wallet then 6 else 1] ++
    bigEndian 4 handshake.capabilities.length ++
    handshake.capabilities.flatMap fun capability =>
      bigEndian 2 capability.1.toNat ++ encodeText capability.2

def networkOne : Bytes32 := ⟨List.replicate 32 1, List.length_replicate⟩

def dialerNode : NodeFace where
  networkId := networkOne
  softwareVersion := "dig-node 1"
  listenPort := 9444

def listenerNode : NodeFace where
  networkId := networkOne
  softwareVersion := "dig-node 2"
  listenPort := 9445

/-- The codec on the two handshakes of the example. -/
def sessionCodec : SessionCodec where
  messageToBytes := encodeMessage
  messageFromBytes := decodeMessage
  handshakeToBytes := fun handshake => .ok (encodeHandshake handshake)
  handshakeFromBytes := fun data =>
    if data = encodeHandshake (dialHandshake dialerNode) then .ok (dialHandshake dialerNode)
    else if data = encodeHandshake (ourHandshake listenerNode) then .ok (ourHandshake listenerNode)
    else .error "unexpected end of buffer"
  respondPeersToBytes := fun peers => .ok (bigEndian 4 peers.length)
  isProtocolMessageType := fun opcode => decide (opcode.toNat ≤ 107)

/-- A message whose body has a length of thirty-two bits is read back. -/
theorem decodeMessage_encodeMessage (message : DigMessage)
    (small : message.data.length < 2 ^ 32) :
    decodeMessage (encodeMessage message) = some message := by
  have body (id : Option UInt16) : decodeBody message.msgType id
      (bigEndian 4 message.data.length ++ message.data) =
        some { msgType := message.msgType, id := id, data := message.data } := by
    have width := length_bigEndian 4 message.data.length
    unfold decodeBody
    rw [List.take_append_of_le_length width.ge, List.take_of_length_le width.le,
      List.drop_append_of_le_length width.ge, List.drop_of_length_le width.le, List.nil_append,
      bigEndianValue_bigEndian, Nat.mod_eq_of_lt (by simpa using small), if_pos rfl]
  rcases message with ⟨msgType, id, data⟩
  cases id with
  | none => exact body none
  | some id =>
      have value : bigEndianValue (bigEndian 2 id.toNat) = id.toNat := by
        rw [bigEndianValue_bigEndian]
        exact Nat.mod_eq_of_lt id.toNat_lt
      show decodeBody msgType (some (UInt16.ofNat (bigEndianValue (bigEndian 2 id.toNat)))) _ = _
      rw [value, UInt16.ofNat_toNat]
      exact body (some id)

theorem encodeHandshake_ne :
    encodeHandshake (ourHandshake listenerNode) ≠ encodeHandshake (dialHandshake dialerNode) := by
  decide +kernel

theorem dial_short : (encodeHandshake (dialHandshake dialerNode)).length < 2 ^ 32 := by
  decide +kernel

theorem answer_short : (encodeHandshake (ourHandshake listenerNode)).length < 2 ^ 32 := by
  decide +kernel

theorem sessionCodec_framed {data : List UInt8} (short : data.length < 2 ^ 32) :
    sessionCodec.messageFromBytes (sessionCodec.messageToBytes
        { msgType := handshakeOpcode, id := none, data := data }) =
      some { msgType := handshakeOpcode, id := none, data := data } :=
  decodeMessage_encodeMessage { msgType := handshakeOpcode, id := none, data := data } short

theorem carries_dial : sessionCodec.Carries (dialHandshake dialerNode)
    (encodeHandshake (dialHandshake dialerNode)) where
  written := rfl
  readBack := by simp only [sessionCodec, if_true]
  framed := sessionCodec_framed dial_short

theorem carries_answer : sessionCodec.Carries (ourHandshake listenerNode)
    (encodeHandshake (ourHandshake listenerNode)) where
  written := rfl
  readBack := by simp only [sessionCodec, if_neg encodeHandshake_ne, if_true]
  framed := sessionCodec_framed answer_short

/-- Both handshakes are exchanged. -/
def exchange : List Turn := [.listenerReads none, .dialerReads]

theorem dialerNode_short : ShortVersion asciiCategory dialerNode := by
  unfold ShortVersion
  decide +kernel

theorem listenerNode_short : ShortVersion asciiCategory listenerNode := by
  unfold ShortVersion
  decide +kernel

end Example

open Example in
/-- Two nodes of one network after their handshakes. -/
theorem negotiation_agrees_nodes :
    let m := Stepping.run (Meeting.step asciiCategory sessionCodec dialerNode listenerNode) exchange
      (Meeting.opened sessionCodec dialerNode)
    (forall remote, m.listener = .negotiated remote ->
      dialerNode.networkId = listenerNode.networkId ∧
        remote = dialerSeen asciiCategory dialerNode ∧
        m.dialer = .established (listenerSeen asciiCategory listenerNode)) ∧
      (forall remote, m.dialer = .established remote ->
        dialerNode.networkId = listenerNode.networkId ∧
          remote = listenerSeen asciiCategory listenerNode) ∧
      (dialerNode.networkId ≠ listenerNode.networkId ->
        m.listener.remote = none ∧ m.dialer.remote = none ∧
          forall error, m.dialer = .failed error -> error = .client .missingHandshake) :=
  negotiation_agrees asciiCategory sessionCodec dialerNode listenerNode _ _ carries_dial
    carries_answer exchange

open Example in
/-- The two nodes are connected once both handshakes are delivered. -/
theorem negotiation_completes_nodes :
    let m := Stepping.run (Meeting.step asciiCategory sessionCodec dialerNode listenerNode) exchange
      (Meeting.opened sessionCodec dialerNode)
    m.dialer = .established (listenerSeen asciiCategory listenerNode) ∧
      (m.listener = .awaitingRequest (dialerSeen asciiCategory dialerNode) ∨
        m.listener = .negotiated (dialerSeen asciiCategory dialerNode)) ∧
      forall message,
        sessionCodec.messageFromBytes (sessionCodec.messageToBytes message) = some message ->
        (Stepping.run (Meeting.step asciiCategory sessionCodec dialerNode listenerNode)
          [.dialerSends message, .listenerReads none] m).listener =
            .negotiated (dialerSeen asciiCategory dialerNode) :=
  negotiation_completes asciiCategory sessionCodec dialerNode listenerNode _ _ (bigEndian 4 0)
    carries_dial carries_answer rfl rfl dialerNode_short listenerNode_short exchange
    (by simp [exchange, Turn.Calm]) _ rfl (by decide +kernel)

end Service
end DigGossip
