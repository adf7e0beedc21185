import DigGossip.Foundations.Program
import DigGossip.Relay.RelayClient
import DigGossip.Service.HandshakeValidation
import DigGossip.Service.RelayFold

namespace DigGossip
namespace Relay

open Foundations
open Discovery (maxPeersReceivedPerRequest)
open DigGossip.Types (PeerRecord)
open Program (Recites)

/-!
# Asking a relay for peers

The query opens a socket, registers, asks for the peers of its network, and reads
until some frame is a list of peers or an error.  The relay is not trusted: it
may fault any step, send any frames, or send nothing at all, and the query must
come back with a bounded answer within a bounded number of frames.
-/

def maxRelayDiscoveryFrames : Nat := 64
def relayProtocolVersion : UInt32 := 1

/-! ## The socket -/

/-- `tungstenite::Message`, as the query tells the kinds apart. -/
inductive RelayFrame where
  | text (bytes : List UInt8)
  | binary (bytes : List UInt8)
  | close
  | control
deriving DecidableEq

inductive SocketAction where
  | connect (endpoint : String)
  | send (frame : RelayFrame)
  | next
deriving DecidableEq

/-- A send may answer with a fault, and a stream may end. -/
@[reducible] def SocketAction.Reply : SocketAction -> Type
  | connect _ => Except String Unit
  | send _ => Option String
  | next => Option (Except String RelayFrame)

abbrev RelayProgram (R : Type) := Program SocketAction SocketAction.Reply R

abbrev onSocket (action : SocketAction) : RelayProgram action.Reply :=
  Program.perform action

/-- The package that writes and reads messages as JSON. -/
structure RelayCodec where
  write : RelayMessage -> Except String String
  read : List UInt8 -> Option RelayMessage

/-- `from_relay_peer_info`: the relay addresses its peers by identity only. -/
def recordOf (info : RelayPeerInfo) : PeerRecord where
  peerId := info.peerId
  addresses := []
  networkId := info.networkId
  lastSeen := info.lastSeen
  via := .relay

/-! ## The query -/

section Query

variable (codec : RelayCodec)

/-- Every failure of the query comes this way. -/
def relayFailure (detail : String) : RelayError where
  detail := .fromUntrusted detail

def closedEarly : RelayError where
  detail := .fromStatic "relay closed before returning peers"

/-- What becomes of a message that was sent. -/
def sendResult : Option String -> Except RelayError Unit
  | some error => .error (relayFailure ("send: " ++ error))
  | none => .ok ()

def sendRelay (message : RelayMessage) : RelayProgram (Except RelayError Unit) :=
  match codec.write message with
  | .error error => pure (.error (relayFailure ("encode: " ++ error)))
  | .ok text => do
      let fault <- onSocket (.send (.text (Types.utf8Bytes text)))
      return sendResult fault

/-- What a frame carries, when it carries a message. -/
def RelayCodec.message (codec : RelayCodec) : RelayFrame -> Option RelayMessage
  | .text bytes | .binary bytes => codec.read bytes
  | .close | .control => none

/-- What a frame decides: nothing, unless it closes the stream, lists peers or is
an error. -/
def RelayCodec.decides (codec : RelayCodec) (frame : RelayFrame) :
    Option (Except RelayError (List PeerRecord)) :=
  if frame = .close then some (.error closedEarly)
  else
    match codec.message frame with
    | some (.peers peers) => some (.ok ((peers.take maxPeersReceivedPerRequest).map recordOf))
    | some (.error code message) =>
        some (.error (relayFailure ("code " ++ toString code ++ ": " ++ message)))
    | _ => none

/-- The read loop, with room for so many more frames. -/
def awaitPeers : Nat -> RelayProgram (Except RelayError (List PeerRecord))
  | 0 => pure (.error (relayFailure ("relay sent " ++ toString maxRelayDiscoveryFrames ++
      " frames without a peers/error response (max " ++ toString maxRelayDiscoveryFrames ++ ")")))
  | left + 1 => do
      match <- onSocket .next with
      | none => return .error closedEarly
      | some (.error error) => return .error (relayFailure ("read: " ++ error))
      | some (.ok frame) =>
          match codec.decides frame with
          | some result => return result
          | none => awaitPeers left

/-- `UnifiedDiscoveryConfig`, and how many steps there is time for. -/
structure QueryConfig where
  relayEndpoint : String
  selfPeerIdHex : String
  networkId : String
  deadline : Nat

variable (config : QueryConfig)

def QueryConfig.register : RelayMessage :=
  .register config.selfPeerIdHex config.networkId relayProtocolVersion []

def QueryConfig.getPeers : RelayMessage :=
  .getPeers (some config.networkId)

/-- The query once the socket is open. -/
def openedWork : RelayProgram (Except RelayError (List PeerRecord)) := do
  match <- sendRelay codec config.register with
  | .error error => return .error error
  | .ok () =>
      match <- sendRelay codec config.getPeers with
      | .error error => return .error error
      | .ok () => awaitPeers codec maxRelayDiscoveryFrames

def queryWork : RelayProgram (Except RelayError (List PeerRecord)) := do
  match <- onSocket (.connect config.relayEndpoint) with
  | .error error => return .error (relayFailure ("connect: " ++ error))
  | .ok () => openedWork codec config

/-! ## Any relay -/

/-- What a relay does with each step, and the steps that were taken. -/
structure RelaySocket where
  opens : Except String Unit
  /-- What becomes of each send; later ones go through. -/
  sends : List (Option String)
  /-- What the stream holds until it ends. -/
  frames : List (Except String RelayFrame)
  deeds : List SocketAction

def RelaySocket.exec : (action : SocketAction) -> RelaySocket -> RelaySocket × action.Reply
  | .connect endpoint, s => ({ s with deeds := s.deeds ++ [.connect endpoint] }, s.opens)
  | .send frame, s =>
      ({ s with sends := s.sends.tail, deeds := s.deeds ++ [.send frame] }, s.sends.head?.join)
  | .next, s =>
      ({ s with frames := s.frames.tail, deeds := s.deeds ++ [.next] }, s.frames.head?)

def relayGetPeers (s : RelaySocket) : RelaySocket × Except RelayError (List PeerRecord) :=
  match Program.within RelaySocket.exec config.deadline (queryWork codec config) s with
  | (after, some result) => (after, result)
  | (after, none) => (after, .error { detail := .fromStatic "get_peers timed out" })

/-- A failure of the relay is an empty answer. -/
def unifiedDiscover (s : RelaySocket) : RelaySocket × List PeerRecord :=
  if Service.trim config.relayEndpoint.toList = [] then (s, [])
  else
    match relayGetPeers codec config s with
    | (after, .ok records) => (after, records)
    | (after, .error _) => (after, [])

/-! ## What the query says -/

/-- The step that sends a message, if it can be written. -/
def sayings (message : RelayMessage) : List SocketAction :=
  match codec.write message with
  | .error _ => []
  | .ok text => [.send (.text (Types.utf8Bytes text))]

/-- All that a query ever does to its socket, in order. -/
def querySteps : List SocketAction :=
  .connect config.relayEndpoint ::
    (sayings codec config.register ++
      (sayings codec config.getPeers ++ List.replicate maxRelayDiscoveryFrames .next))

variable {codec config}

theorem recites_sendRelay {R : Type} {message : RelayMessage}
    {rest : Except RelayError Unit -> RelayProgram R} {script : List SocketAction}
    (sent : Recites (rest (.ok ())) script)
    (failed : forall error steps, Recites (rest (.error error)) steps) :
    Recites (sendRelay codec message >>= rest) (sayings codec message ++ script) := by
  unfold sendRelay sayings
  cases codec.write message with
  | error error => exact failed _ _
  | ok text =>
      refine ⟨rfl, fun fault => ?_⟩
      cases fault with
      | none => exact sent
      | some error => exact failed _ _

theorem recites_awaitPeers (left : Nat) :
    Recites (awaitPeers codec left) (List.replicate left .next) := by
  induction left with
  | zero => trivial
  | succ left inner =>
      refine ⟨rfl, fun reply => ?_⟩
      rcases reply with _ | error | frame
      · trivial
      · trivial
      · show Recites (match codec.decides frame with
          | some result => pure result
          | none => awaitPeers codec left) _
        cases codec.decides frame with
        | some result => trivial
        | none => exact inner

theorem recites_queryWork (codec : RelayCodec) (config : QueryConfig) :
    Recites (queryWork codec config) (querySteps codec config) := by
  refine ⟨rfl, fun opened => ?_⟩
  cases opened with
  | error error => trivial
  | ok done =>
      refine recites_sendRelay (recites_sendRelay (recites_awaitPeers _) ?_) ?_
      · exact fun _ _ => trivial
      · exact fun _ _ => trivial

/-! ## What the relay must say -/

/-- A frame that the query reads past. -/
def RelayCodec.Passes (codec : RelayCodec) (frame : RelayFrame) : Prop :=
  frame ≠ .close ∧ ∀ message, codec.message frame = some message ->
    (∀ peers, message ≠ .peers peers) ∧ ∀ code text, message ≠ .error code text

/-- The records of the peers in a list, as many as one request may bring. -/
def recordsOf (peers : List RelayPeerInfo) : List PeerRecord :=
  (peers.take maxPeersReceivedPerRequest).map recordOf

/-- Within so many frames the stream lists peers that make these records, after
none but frames that are read past. -/
inductive Lists (codec : RelayCodec) :
    Nat -> List (Except String RelayFrame) -> List PeerRecord -> Prop
  | here {room : Nat} {frame : RelayFrame} {rest : List (Except String RelayFrame)}
      {peers : List RelayPeerInfo} (told : codec.message frame = some (.peers peers)) :
      Lists codec (room + 1) (.ok frame :: rest) (recordsOf peers)
  | later {room : Nat} {frame : RelayFrame} {rest : List (Except String RelayFrame)}
      {records : List PeerRecord} (passes : codec.Passes frame)
      (lists : Lists codec room rest records) :
      Lists codec (room + 1) (.ok frame :: rest) records

theorem decides_close : codec.decides .close = some (.error closedEarly) :=
  if_pos rfl

theorem decides_of_ne_close {frame : RelayFrame} (stays : frame ≠ .close) :
    codec.decides frame =
      match codec.message frame with
      | some (.peers peers) => some (.ok (recordsOf peers))
      | some (.error code message) =>
          some (.error (relayFailure ("code " ++ toString code ++ ": " ++ message)))
      | _ => none :=
  if_neg stays

theorem decides_eq_none_iff {frame : RelayFrame} :
    codec.decides frame = none ↔ codec.Passes frame := by
  by_cases closes : frame = .close
  · rw [closes, decides_close]
    exact ⟨fun impossible => (by cases impossible), fun passes => absurd rfl passes.1⟩
  · rw [decides_of_ne_close closes]
    constructor
    · intro undecided
      refine ⟨closes, fun message told => ?_⟩
      rw [told] at undecided
      refine ⟨?_, ?_⟩
      · rintro peers rfl
        cases undecided
      · rintro code text rfl
        cases undecided
    · rintro ⟨_, passes⟩
      split
      · rename_i peers told
        exact absurd rfl ((passes _ told).1 peers)
      · rename_i code text told
        exact absurd rfl ((passes _ told).2 code text)
      · rfl

theorem decides_ok_iff {frame : RelayFrame} {records : List PeerRecord} :
    codec.decides frame = some (.ok records) ↔
      ∃ peers, codec.message frame = some (.peers peers) ∧ records = recordsOf peers := by
  by_cases closes : frame = .close
  · rw [closes, decides_close]
    constructor
    · intro impossible
      cases impossible
    · rintro ⟨peers, told, _⟩
      cases told
  · rw [decides_of_ne_close closes]
    constructor
    · intro decided
      split at decided
      · rename_i peers told
        cases decided
        exact ⟨peers, told, rfl⟩
      · cases decided
      · cases decided
    · rintro ⟨peers, told, rfl⟩
      rw [told]

/-! ## The answer -/

/-- The relay after one frame is read. -/
def RelaySocket.heard (s : RelaySocket) : RelaySocket :=
  (RelaySocket.exec .next s).1

/-- The relay after a message is sent. -/
def RelaySocket.told (s : RelaySocket) (text : String) : RelaySocket :=
  (RelaySocket.exec (.send (.text (Types.utf8Bytes text))) s).1

theorem within_awaitPeers_ok {s : RelaySocket} {frame : RelayFrame}
    {rest : List (Except String RelayFrame)} (frames : s.frames = .ok frame :: rest)
    (time left : Nat) :
    Program.within RelaySocket.exec (time + 1) (awaitPeers codec (left + 1)) s =
      Program.within RelaySocket.exec time
        (match codec.decides frame with
          | some result => pure result
          | none => awaitPeers codec left) s.heard := by
  rcases s with ⟨opens, sends, frames', deeds⟩
  cases frames
  rfl

/-- The loop answers with peers just if the stream lists them within the frames
that there is time and room for. -/
theorem within_awaitPeers_iff (time left : Nat) (s : RelaySocket) (records : List PeerRecord) :
    (Program.within RelaySocket.exec time (awaitPeers codec left) s).2 = some (.ok records) ↔
      Lists codec (min time left) s.frames records := by
  induction left generalizing time s with
  | zero =>
      rw [Nat.min_zero, awaitPeers, Program.within_pure]
      constructor
      · intro ends
        cases ends
      · intro lists
        cases lists
  | succ left inner =>
      cases time with
      | zero =>
          rw [Nat.zero_min]
          constructor
          · intro ends
            cases ends
          · intro lists
            cases lists
      | succ time =>
          rw [Nat.succ_min_succ]
          rcases frames : s.frames with _ | ⟨error | frame, rest⟩
          · constructor
            · intro ends
              rcases s with ⟨opens, sends, frames', deeds⟩
              cases frames
              cases time <;> cases ends
            · intro lists
              cases lists
          · constructor
            · intro ends
              rcases s with ⟨opens, sends, frames', deeds⟩
              cases frames
              cases time <;> cases ends
            · intro lists
              cases lists
          · rw [within_awaitPeers_ok frames]
            have remains : s.heard.frames = rest := congrArg List.tail frames
            cases decided : codec.decides frame with
            | some result =>
                rw [Program.within_pure]
                constructor
                · intro ends
                  cases ends
                  rcases decides_ok_iff.mp decided with ⟨peers, told, rfl⟩
                  exact .here told
                · intro lists
                  cases lists with
                  | here told =>
                      rw [decides_ok_iff.mpr ⟨_, told, rfl⟩] at decided
                      exact congrArg some (Option.some.inj decided).symm
                  | later passes lists =>
                      rw [decides_eq_none_iff.mpr passes] at decided
                      cases decided
            | none =>
                rw [inner, remains]
                constructor
                · exact .later (decides_eq_none_iff.mp decided)
                · intro lists
                  cases lists with
                  | here told =>
                      rw [decides_ok_iff.mpr ⟨_, told, rfl⟩] at decided
                      cases decided
                  | later passes lists => exact lists

/-- Saying something takes one step of the time, if it succeeds at all. -/
theorem within_sendRelay_iff {time : Nat} {message : RelayMessage}
    {rest : Except RelayError Unit -> RelayProgram (Except RelayError (List PeerRecord))}
    (failed : forall error, rest (.error error) = pure (.error error)) {s : RelaySocket}
    {records : List PeerRecord} :
    (Program.within RelaySocket.exec time (sendRelay codec message >>= rest) s).2 =
        some (.ok records) ↔
      ∃ text left, codec.write message = .ok text ∧ s.sends.head?.join = none ∧ time = left + 1 ∧
        (Program.within RelaySocket.exec left (rest (.ok ()))
          (s.told text)).2 = some (.ok records) := by
  unfold sendRelay
  cases codec.write message with
  | error error =>
      show (Program.within RelaySocket.exec time (rest (.error _)) s).2 = _ ↔ _
      rw [failed, Program.within_pure]
      constructor
      · intro ends
        cases ends
      · rintro ⟨text, left, impossible, _⟩
        cases impossible
  | ok text =>
      cases time with
      | zero =>
          constructor
          · intro ends
            cases ends
          · rintro ⟨_, left, _, _, impossible, _⟩
            cases impossible
      | succ left =>
          show (Program.within RelaySocket.exec left (rest (sendResult s.sends.head?.join))
            (s.told text)).2 = _ ↔ _
          cases s.sends.head?.join with
          | some error =>
              rw [sendResult, failed, Program.within_pure]
              constructor
              · intro ends
                cases ends
              · rintro ⟨_, _, _, impossible, _⟩
                cases impossible
          | none =>
              constructor
              · intro ends
                exact ⟨text, left, rfl, rfl, rfl, ends⟩
              · rintro ⟨other, time, same, _, equal, ends⟩
                rw [Except.ok.inj same, Nat.succ.inj equal]
                exact ends

/-- What a relay must do for the query to come back with these records: open, let
both messages through, and list the peers in time. -/
structure Answered (codec : RelayCodec) (config : QueryConfig) (s : RelaySocket)
    (records : List PeerRecord) : Prop where
  opens : s.opens = .ok ()
  registers : ∃ text, codec.write config.register = .ok text
  asks : ∃ text, codec.write config.getPeers = .ok text
  unfaulted : ∀ fault ∈ s.sends.take 2, fault = none
  lists : Lists codec (min (config.deadline - 3) maxRelayDiscoveryFrames) s.frames records

theorem relayGetPeers_ok_iff_within {s : RelaySocket} {records : List PeerRecord} :
    (relayGetPeers codec config s).2 = .ok records ↔
      (Program.within RelaySocket.exec config.deadline (queryWork codec config) s).2 =
        some (.ok records) := by
  unfold relayGetPeers
  rcases Program.within RelaySocket.exec config.deadline (queryWork codec config) s with
    ⟨after, _ | result⟩
  · constructor
    · intro ends
      cases ends
    · intro ends
      cases ends
  · exact ⟨congrArg some, Option.some.inj⟩

theorem within_openedWork_iff {time : Nat} {s : RelaySocket} {records : List PeerRecord} :
    (Program.within RelaySocket.exec time (openedWork codec config) s).2 = some (.ok records) ↔
      (∃ text, codec.write config.register = .ok text) ∧
        (∃ text, codec.write config.getPeers = .ok text) ∧ s.sends.head?.join = none ∧
        s.sends.tail.head?.join = none ∧
        Lists codec (min (time - 2) maxRelayDiscoveryFrames) s.frames records := by
  unfold openedWork
  rw [within_sendRelay_iff fun _ => rfl]
  constructor
  · rintro ⟨text, left, registers, first, rfl, ends⟩
    rcases (within_sendRelay_iff fun _ => rfl).mp ends with ⟨other, time, asks, second, rfl, reads⟩
    exact ⟨⟨text, registers⟩, ⟨other, asks⟩, first, second,
      (within_awaitPeers_iff time _ ((s.told text).told other) records).mp reads⟩
  · rintro ⟨⟨text, registers⟩, ⟨other, asks⟩, first, second, lists⟩
    match time with
    | 0 | 1 =>
        rw [Nat.zero_min] at lists
        cases lists
    | time + 2 =>
        refine ⟨text, time + 1, registers, first, rfl, ?_⟩
        refine (within_sendRelay_iff fun _ => rfl).mpr ⟨other, time, asks, second, rfl, ?_⟩
        exact (within_awaitPeers_iff time _ ((s.told text).told other) records).mpr lists

theorem unfaulted_iff {sends : List (Option String)} :
    (∀ fault ∈ sends.take 2, fault = none) ↔
      sends.head?.join = none ∧ sends.tail.head?.join = none := by
  rcases sends with _ | ⟨first, _ | ⟨second, rest⟩⟩
  · simp
  · simp
  · simp

/-- The query comes back with these records exactly if the relay answers with them. -/
theorem relayGetPeers_ok_iff_answered (codec : RelayCodec) (config : QueryConfig) (s : RelaySocket)
    (records : List PeerRecord) :
    (relayGetPeers codec config s).2 = .ok records ↔ Answered codec config s records := by
  rw [relayGetPeers_ok_iff_within]
  cases limit : config.deadline with
  | zero =>
      constructor
      · intro ends
        cases ends
      · intro answered
        have lists := answered.lists
        rw [limit, Nat.zero_sub, Nat.zero_min] at lists
        cases lists
  | succ time =>
      have enough : config.deadline - 3 = time - 2 := by omega
      cases opens : s.opens with
      | error error =>
          constructor
          · intro ends
            rcases s with ⟨opens', sends, frames, deeds⟩
            cases opens
            rw [queryWork, Program.within_succ] at ends
            cases time <;> cases ends
          · intro answered
            rw [answered.opens] at opens
            cases opens
      | ok done =>
          rcases s with ⟨opens', sends, frames, deeds⟩
          cases opens
          refine Iff.trans within_openedWork_iff ⟨?_, ?_⟩
          · rintro ⟨registers, asks, first, second, lists⟩
            exact ⟨rfl, registers, asks, unfaulted_iff.mpr ⟨first, second⟩, enough.symm ▸ lists⟩
          · intro answered
            rcases unfaulted_iff.mp answered.unfaulted with ⟨first, second⟩
            exact ⟨answered.registers, answered.asks, first, second, enough ▸ answered.lists⟩

/-- A discovery pass brings back what the relay answers, and nothing where it is not
asked or does not answer. -/
theorem unified_discover_exact (codec : RelayCodec) (config : QueryConfig) (s : RelaySocket)
    (records : List PeerRecord) :
    (unifiedDiscover codec config s).2 = records ↔
      (Service.trim config.relayEndpoint.toList ≠ [] ∧ Answered codec config s records) ∨
        (records = [] ∧ (Service.trim config.relayEndpoint.toList = [] ∨
          ∀ others, ¬ Answered codec config s others)) := by
  by_cases blank : Service.trim config.relayEndpoint.toList = []
  · rw [unifiedDiscover, if_pos blank]
    constructor
    · exact fun none => Or.inr ⟨none.symm, Or.inl blank⟩
    · rintro (⟨asked, _⟩ | ⟨none, _⟩)
      · exact absurd blank asked
      · exact none.symm
  · rw [unifiedDiscover, if_neg blank]
    rcases answer : relayGetPeers codec config s with ⟨after, error | listed⟩
    · have silent : ∀ others, ¬ Answered codec config s others := by
        intro others answered
        have ends := (relayGetPeers_ok_iff_answered codec config s others).mpr answered
        rw [answer] at ends
        cases ends
      constructor
      · exact fun none => Or.inr ⟨none.symm, Or.inr silent⟩
      · rintro (⟨_, answered⟩ | ⟨none, _⟩)
        · exact absurd answered (silent records)
        · exact none.symm
    · have answered : Answered codec config s listed :=
        (relayGetPeers_ok_iff_answered codec config s listed).mp (congrArg Prod.snd answer)
      constructor
      · rintro rfl
        exact Or.inl ⟨blank, answered⟩
      · rintro (⟨_, other⟩ | ⟨_, blank' | silent⟩)
        · have ends := (relayGetPeers_ok_iff_answered codec config s records).mpr other
          rw [answer] at ends
          exact Except.ok.inj ends
        · exact absurd blank' blank
        · exact absurd answered (silent listed)

/-! ## What an untrusted answer can do -/

theorem Lists.recordsOf {room : Nat} {frames : List (Except String RelayFrame)}
    {records : List PeerRecord} (lists : Lists codec room frames records) :
    ∃ peers, records = Relay.recordsOf peers := by
  induction lists with
  | here told => exact ⟨_, rfl⟩
  | later passes lists inner => exact inner

theorem deeds_exec (action : SocketAction) (s : RelaySocket) :
    (RelaySocket.exec action s).1.deeds = s.deeds ++ [action] := by
  cases action <;> rfl

/-- Nothing that a relay is made to list can be dialed by address. -/
theorem dialableRows_recordsOf (peers : List RelayPeerInfo) :
    Discovery.dialableRows (recordsOf peers) = [] := by
  refine List.filterMap_eq_nil_iff.mpr fun record member => ?_
  rcases List.mem_map.mp member with ⟨info, _, rfl⟩
  rfl

theorem mergeRecordsCapped_of_none_dialable (view : Service.RelayView) {records : List PeerRecord}
    (none : Discovery.dialableRows records = []) (source : Types.PeerInfo) :
    view.mergeRecordsCapped records source = view := by
  unfold Service.RelayView.mergeRecordsCapped Service.RelayView.spend Discovery.capRecords
  simp only [none]
  rfl

theorem relayGetPeers_deeds (codec : RelayCodec) (config : QueryConfig) (s : RelaySocket) :
    ∃ made, made <+: querySteps codec config ∧
      (relayGetPeers codec config s).1.deeds = s.deeds ++ made := by
  have made := (recites_queryWork codec config).within deeds_exec config.deadline s
  unfold relayGetPeers
  generalize Program.within RelaySocket.exec config.deadline (queryWork codec config) s = ended
    at made
  rcases ended with ⟨after, _ | result⟩
  · exact made
  · exact made

/-- Whatever a relay does, a discovery pass does no more than open one socket, send
its two messages and read sixty-four frames; it brings back no more records than one
request may, none of them with an address; and merging them changes neither the
address book nor the budget that other sources share. -/
theorem unified_discover_harmless (codec : RelayCodec) (config : QueryConfig) (s : RelaySocket) :
    (∃ made, made <+: querySteps codec config ∧
      (unifiedDiscover codec config s).1.deeds = s.deeds ++ made) ∧
    (unifiedDiscover codec config s).2.length ≤ maxPeersReceivedPerRequest ∧
    (∀ record ∈ (unifiedDiscover codec config s).2, record.addresses = [] ∧ record.via = .relay) ∧
    ∀ (view : Service.RelayView) (source : Types.PeerInfo),
      view.mergeRecordsCapped (unifiedDiscover codec config s).2 source = view := by
  have listed : ∃ peers, (unifiedDiscover codec config s).2 = recordsOf peers := by
    unfold unifiedDiscover
    split
    · exact ⟨[], rfl⟩
    · split
      · rename_i after records answer
        have ends : (relayGetPeers codec config s).2 = .ok records := congrArg Prod.snd answer
        exact ((relayGetPeers_ok_iff_answered codec config s records).mp ends).lists.recordsOf
      · exact ⟨[], rfl⟩
  rcases listed with ⟨peers, listed⟩
  refine ⟨?_, ?_, ?_, ?_⟩
  · unfold unifiedDiscover
    split
    · exact ⟨[], List.nil_prefix, (List.append_nil _).symm⟩
    · have made := relayGetPeers_deeds codec config s
      split
      · rename_i after records answer
        rw [answer] at made
        exact made
      · rename_i after error answer
        rw [answer] at made
        exact made
  · rw [listed, recordsOf, List.length_map, List.length_take]
    exact Nat.min_le_left _ _
  · rw [listed]
    intro record member
    rcases List.mem_map.mp member with ⟨info, _, rfl⟩
    exact ⟨rfl, rfl⟩
  · intro view source
    rw [listed]
    exact mergeRecordsCapped_of_none_dialable view (dialableRows_recordsOf peers) source

end Query

end Relay
end DigGossip
