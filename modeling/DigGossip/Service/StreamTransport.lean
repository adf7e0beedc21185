import DigGossip.Service.Broadcast
import DigGossip.Service.Broadcaster
import DigGossip.Service.StreamDelivery
import DigGossip.Service.StreamFrame

namespace DigGossip
namespace Service

open Foundations DigGossip.Types

/-!
# A stream between two nodes

A stream is sent as directed messages that carry its frames, and on the other
side the frames are lifted out of the messages and the chunks of one stream are
given to a reassembler.  The messages of several streams and of other kinds come
mixed, late, more than once or not at all.  Two streams may share a correlation
identifier, which is cut to sixteen bits; the frame itself tells them apart.
-/

/-! ## Messages -/

def isDigMessage (msgType : UInt8) : Bool :=
  msgType == digMessage

def digMessagePayload (msg : DigMessage) : Option (List UInt8) :=
  if isDigMessage msg.msgType then some msg.data else none

def frameEnvelope (envelope : List UInt8) (correlationId : Option UInt16) : DigMessage :=
  { msgType := digMessage, id := correlationId, data := envelope }

def StreamFrame.streamId : StreamFrame -> UInt64
  | .open_ streamId => streamId
  | .data streamId _ _ => streamId
  | .close streamId => streamId

/-- What `send_stream_frame` hands to the link. -/
def streamFrameMessage (frame : StreamFrame) : DigMessage :=
  frameEnvelope frame.encode (some (frame.streamId &&& 0xFFFF).toUInt16)

def openDigStream (streamId : UInt64) : DigMessage :=
  streamFrameMessage (.open_ streamId)

def sendDigStreamData (streamId seq : UInt64) (payload : Payload) : DigMessage :=
  streamFrameMessage (.data streamId seq payload)

def closeDigStream (streamId : UInt64) : DigMessage :=
  streamFrameMessage (.close streamId)

/-- The messages of one stream from its opening to its close, the chunks numbered from zero. -/
def streamMessages (streamId : UInt64) (chunks : List Payload) : List DigMessage :=
  openDigStream streamId ::
    (chunks.mapIdx fun index chunk => sendDigStreamData streamId (UInt64.ofNat index) chunk) ++
    [closeDigStream streamId]

/-- The frame in a message, if it is one of a stream. -/
def incomingFrame (msg : DigMessage) : Option StreamFrame :=
  (digMessagePayload msg).bind StreamFrame.decode

/-- A chunk of the stream. -/
def StreamFrame.chunkOf (streamId : UInt64) : StreamFrame -> Option (UInt64 × Payload)
  | .data other seq payload => if other = streamId then some (seq, payload) else none
  | .open_ _ => none
  | .close _ => none

/-- The chunks of one stream among the messages that have come in. -/
def incomingChunks (streamId : UInt64) (received : List DigMessage) : List (UInt64 × Payload) :=
  received.filterMap fun msg => (incomingFrame msg).bind (StreamFrame.chunkOf streamId)

/-! ## Back from a message -/

@[simp] theorem incomingFrame_streamFrameMessage (frame : StreamFrame) :
    incomingFrame (streamFrameMessage frame) = some frame := by
  have carried : digMessagePayload (streamFrameMessage frame) = some frame.encode := rfl
  rw [incomingFrame, carried, Option.bind_some, StreamFrame.decode_encode]

theorem chunkOf_eq_some_iff {streamId seq : UInt64} {frame : StreamFrame} {payload : Payload} :
    frame.chunkOf streamId = some (seq, payload) ↔ frame = .data streamId seq payload := by
  cases frame with
  | open_ other => constructor <;> rintro ⟨⟩
  | close other => constructor <;> rintro ⟨⟩
  | data other number chunk =>
      unfold StreamFrame.chunkOf
      rw [Option.ite_none_right_eq_some, Option.some.injEq, Prod.mk.injEq, StreamFrame.data.injEq]

theorem mem_incomingChunks {streamId seq : UInt64} {received : List DigMessage}
    {payload : Payload} :
    (seq, payload) ∈ incomingChunks streamId received ↔
      ∃ msg ∈ received, incomingFrame msg = some (.data streamId seq payload) := by
  unfold incomingChunks
  rw [List.mem_filterMap]
  refine exists_congr fun msg => and_congr_right fun _ => ?_
  rw [Option.bind_eq_some_iff]
  constructor
  · rintro ⟨frame, lifted, chunk⟩
    rw [lifted, chunkOf_eq_some_iff.mp chunk]
  · intro lifted
    exact ⟨_, lifted, chunkOf_eq_some_iff.mpr rfl⟩

/-- The data among the messages of a stream is its chunks under their numbers. -/
theorem data_of_streamMessages {streamId seq : UInt64} {chunks : List Payload} {msg : DigMessage}
    {payload : Payload} (small : chunks.length ≤ 2 ^ 64) (sent : msg ∈ streamMessages streamId chunks)
    (lifted : incomingFrame msg = some (.data streamId seq payload)) :
    chunks[seq.toNat]? = some payload := by
  unfold streamMessages at sent
  rcases List.mem_append.mp sent with sent | closing
  · rcases List.mem_cons.mp sent with rfl | numbered
    · rw [openDigStream, incomingFrame_streamFrameMessage] at lifted
      cases lifted
    · rcases List.mem_mapIdx.mp numbered with ⟨index, below, rfl⟩
      rw [sendDigStreamData, incomingFrame_streamFrameMessage, Option.some.injEq,
        StreamFrame.data.injEq] at lifted
      rcases lifted with ⟨_, rfl, rfl⟩
      rw [UInt64.toNat_ofNat_of_lt' (Nat.lt_of_lt_of_le below small)]
      exact List.getElem?_eq_getElem below
  · cases List.mem_singleton.mp closing
    rw [closeDigStream, incomingFrame_streamFrameMessage] at lifted
    cases lifted

/-! ## Room -/

namespace StreamReassembler

variable {r : StreamReassembler} {seq : UInt64} {payload : Payload} {known : Nat -> Option Payload}
  {out chunks : List Payload}

/-- All that is known is a chunk of the stream. -/
def KnownOf (chunks : List Payload) (known : Nat -> Option Payload) : Prop :=
  forall number chunk, known number = some chunk -> chunks[number]? = some chunk

theorem KnownOf.arrive (knownOf : KnownOf chunks known) {number : Nat}
    (chunk : chunks[number]? = some payload) :
    KnownOf chunks (Reordering.arrive known number payload) := by
  intro other value found
  unfold Reordering.arrive at found
  rcases Option.or_eq_some_iff.mp found with old | ⟨_, fresh⟩
  · exact knownOf other value old
  · rcases Option.ite_none_right_eq_some.mp fresh with ⟨rfl, same⟩
    rw [<- Option.some.inj same]
    exact chunk

/-- The whole stream fits into the bounds. -/
structure Roomy (chunks : List Payload) (r : StreamReassembler) : Prop where
  count : chunks.length ≤ r.maxChunks.toNat
  volume : (chunks.map List.length).sum ≤ r.maxBytes.toNat

/-- What is held, with one chunk more, are different chunks of the stream. -/
theorem Delivered.room (delivered : Delivered known out r) (knownOf : KnownOf chunks known)
    (fresh : r.buffered.lookup seq = none) (chunk : chunks[seq.toNat]? = some payload) :
    r.buffered.size + 1 ≤ chunks.length ∧
      r.pendingBytes + payload.length ≤ (chunks.map List.length).sum := by
  have distinct : Function.Injective UInt64.toNat := fun _ _ same => UInt64.toNat_inj.mp same
  have listed : forall key value, (r.buffered.insert seq payload).lookup key = some value ->
      chunks[key.toNat]? = some value := by
    intro key value found
    rcases FiniteMap.of_lookup_insert found with ⟨rfl, rfl⟩ | ⟨_, found⟩
    · exact chunk
    · rw [delivered.held] at found
      exact knownOf _ _ (Option.ite_none_left_eq_some.mp found).2
  have size := FiniteMap.size_le_length distinct listed
  have bytes := FiniteMap.total_le_sum distinct listed List.length
  rw [FiniteMap.size_insert_of_none fresh] at size
  rw [FiniteMap.total_insert_of_none fresh] at bytes
  exact ⟨size, bytes⟩

theorem Delivered.not_refused (delivered : Delivered known out r) (knownOf : KnownOf chunks known)
    (roomy : Roomy chunks r) (fresh : r.buffered.lookup seq = none)
    (chunk : chunks[seq.toNat]? = some payload) : r.refusal seq payload = none := by
  rcases delivered.room knownOf fresh chunk with ⟨size, bytes⟩
  have within : r.pendingBytes < 2 ^ 64 :=
    Nat.lt_of_le_of_lt (Nat.le_of_add_right_le (bytes.trans roomy.volume)) r.maxBytes.toNat_lt
  have counter : r.bufferedBytes.toNat = r.pendingBytes := by
    rw [delivered.counter, UInt64.toNat_ofNat_of_lt' within]
  have few : ¬ r.maxChunks.toNat ≤ r.buffered.size :=
    Nat.not_le.mpr (Nat.lt_of_lt_of_le (Nat.lt_of_succ_le size) roomy.count)
  have fits : ¬ r.maxBytes.toNat <
      saturatingAdd u64Max r.bufferedBytes.toNat payload.length := by
    rw [counter]
    exact Nat.not_lt.mpr ((Nat.min_le_left _ _).trans (bytes.trans roomy.volume))
  unfold refusal
  rw [if_neg few, if_neg fits, ite_self]

/-- In a stream that fits no chunk of it is ever refused, in whatever order and how often
it comes. -/
theorem Delivered.run_accepts (delivered : Delivered known out r) (knownOf : KnownOf chunks known)
    (roomy : Roomy chunks r) {calls : List (UInt64 × Payload)}
    (ofStream : ∀ call ∈ calls, chunks[call.1.toNat]? = some call.2)
    (small : ∀ call ∈ calls, call.1.toNat < 2 ^ 64 - 1) :
    ∀ result ∈ (StreamReassembler.run r calls).2, result.toBool = true := by
  induction calls generalizing r known out with
  | nil => exact fun _ none => absurd none List.not_mem_nil
  | cons call calls inner =>
      rcases call with ⟨seq, payload⟩
      have chunk := ofStream (seq, payload) List.mem_cons_self
      have caps := sameCaps_accept delivered.absent seq payload
      rcases delivered.accept (small (seq, payload) List.mem_cons_self) payload with
        ⟨reason, called⟩ | ⟨after, ready, called, arrived⟩
      · exfalso
        have failed := congrArg Prod.snd called
        unfold StreamReassembler.accept at failed
        split at failed
        · cases failed
        split at failed
        · cases failed
        rename_i unheld
        have fresh := Option.not_isSome_iff_eq_none.mp unheld
        rw [delivered.not_refused knownOf roomy fresh chunk] at failed
        cases failed
      · rw [called] at caps
        have roomyAfter : Roomy chunks after :=
          ⟨by rw [caps.1]; exact roomy.count, by rw [caps.2]; exact roomy.volume⟩
        have later := inner arrived (knownOf.arrive chunk) roomyAfter
          (fun call member => ofStream call (List.mem_cons_of_mem _ member))
          (fun call member => small call (List.mem_cons_of_mem _ member))
        intro result member
        rw [StreamReassembler.run, called] at member
        rcases List.mem_cons.mp member with rfl | member
        · rfl
        · exact later result member

/-- What was accepted first was among the calls. -/
theorem call_of_firstAccepted {calls : List (UInt64 × Payload)}
    {results : List (Except ReassembleError (List Payload))} {number : Nat}
    (found : firstAccepted calls results number = some payload) :
    ∃ call ∈ calls, call.1.toNat = number ∧ call.2 = payload := by
  rcases Option.map_eq_some_iff.mp found with ⟨made, found, same⟩
  have passed := found
  apply List.find?_some at passed
  have numbered := (Bool.and_eq_true_iff.mp passed).1
  have member := List.mem_of_find?_eq_some found
  exact ⟨made.1, (List.of_mem_zip member).1, of_decide_eq_true numbered, same⟩

theorem isSome_firstArrival {calls : List (UInt64 × Payload)} (member : (seq, payload) ∈ calls) :
    (firstArrival calls seq.toNat).isSome := by
  unfold firstArrival
  rw [Option.isSome_map, List.find?_isSome]
  exact ⟨_, member, decide_eq_true rfl⟩

end StreamReassembler

/-! ## From one node to the other -/

section Incoming

variable {streamId : UInt64} {chunks : List Payload} {received : List DigMessage}

/-- What comes in for the stream is a chunk of it, under its own number. -/
theorem chunk_of_incomingChunks (numbered : chunks.length < 2 ^ 64)
    (honest : ∀ msg ∈ received, forall seq payload,
      incomingFrame msg = some (.data streamId seq payload) ->
        msg ∈ streamMessages streamId chunks) :
    ∀ call ∈ incomingChunks streamId received, chunks[call.1.toNat]? = some call.2 := by
  intro call member
  rcases mem_incomingChunks.mp member with ⟨msg, present, lifted⟩
  exact data_of_streamMessages (Nat.le_of_lt numbered) (honest msg present _ _ lifted) lifted

/-- Every chunk comes in when every message of the stream does. -/
theorem isSome_firstArrival_of_arrived (numbered : chunks.length < 2 ^ 64)
    (arrived : ∀ msg ∈ streamMessages streamId chunks, msg ∈ received) {index : Nat}
    (below : index < chunks.length) :
    (StreamReassembler.firstArrival (incomingChunks streamId received) index).isSome := by
  have sent : sendDigStreamData streamId (UInt64.ofNat index) chunks[index] ∈
      streamMessages streamId chunks :=
    List.mem_append_left _ (List.mem_cons_of_mem _ (List.mem_mapIdx.mpr ⟨index, below, rfl⟩))
  have member : (UInt64.ofNat index, chunks[index]) ∈ incomingChunks streamId received :=
    mem_incomingChunks.mpr ⟨_, arrived _ sent, incomingFrame_streamFrameMessage _⟩
  have found := StreamReassembler.isSome_firstArrival member
  rw [UInt64.toNat_ofNat_of_lt' (Nat.lt_trans below numbered)] at found
  exact found

end Incoming

open StreamReassembler in
/-- Whatever else comes in, and in whatever order and how often, what comes out
of the stream begins what was put into it; when the stream fits into the bounds
no chunk of it is refused, and once all of it has come in it comes out whole. -/
theorem stream_transport (streamId : UInt64) (chunks : List Payload)
    (numbered : chunks.length < 2 ^ 64) (received : List DigMessage)
    (honest : ∀ msg ∈ received, forall seq payload,
      incomingFrame msg = some (.data streamId seq payload) ->
        msg ∈ streamMessages streamId chunks)
    (maxChunks maxBytes : UInt64) :
    (run (withCaps maxChunks maxBytes) (incomingChunks streamId received)).2.flatMap released <+:
        chunks ∧
      (chunks.length ≤ maxChunks.toNat -> (chunks.map List.length).sum ≤ maxBytes.toNat ->
        ∀ result ∈ (run (withCaps maxChunks maxBytes) (incomingChunks streamId received)).2,
          result.toBool = true) ∧
      (chunks.length ≤ maxChunks.toNat -> (chunks.map List.length).sum ≤ maxBytes.toNat ->
        (∀ msg ∈ streamMessages streamId chunks, msg ∈ received) ->
          (run (withCaps maxChunks maxBytes) (incomingChunks streamId received)).2.flatMap
            released = chunks) := by
  have ofStream := chunk_of_incomingChunks numbered honest
  have small : ∀ call ∈ incomingChunks streamId received, call.1.toNat < 2 ^ 64 - 1 := by
    intro call member
    have below := (List.getElem?_eq_some_iff.mp (ofStream call member)).1
    omega
  have delivered := delivered_run maxChunks maxBytes small
  have knownOf : KnownOf chunks (firstAccepted (incomingChunks streamId received)
      (run (withCaps maxChunks maxBytes) (incomingChunks streamId received)).2) := by
    intro number chunk found
    rcases call_of_firstAccepted found with ⟨call, member, rfl, rfl⟩
    exact ofStream call member
  have begins := delivered.delivered.isPrefix knownOf
  have accepts := fun count volume => (delivered_withCaps maxChunks maxBytes).run_accepts
    (fun _ _ none => by cases none) ⟨count, volume⟩ ofStream small
  refine ⟨begins, accepts, ?_⟩
  intro count volume arrived
  have accepted := accepts count volume
  have known := firstAccepted_eq_firstArrival (length_run _ _) accepted
  have complete : forall index, index < chunks.length ->
      (firstAccepted (incomingChunks streamId received)
        (run (withCaps maxChunks maxBytes) (incomingChunks streamId received)).2 index).isSome := by
    intro index below
    rw [known]
    exact isSome_firstArrival_of_arrived numbered arrived below
  refine begins.eq_of_length_le ?_
  rw [delivered.delivered.length]
  exact delivered.frontier.length_le complete

/-- Two streams under one correlation identifier, the chunks of the first backwards and twice. -/
def mixedStreams : List DigMessage :=
  [closeDigStream 65536, sendDigStreamData 65536 1 [2, 3], sendDigStreamData 0 0 [9],
    { msgType := storeMelted, id := none, data := [1, 0] }, sendDigStreamData 65536 1 [2, 3],
    sendDigStreamData 65536 0 [1], openDigStream 65536]

open StreamReassembler in
theorem stream_transport_mixed :
    (∀ result ∈ (run (withCaps 2 3) (incomingChunks 65536 mixedStreams)).2, result.toBool = true) ∧
      (run (withCaps 2 3) (incomingChunks 65536 mixedStreams)).2.flatMap released =
        [[1], [2, 3]] := by
  have sent : streamMessages 65536 [[1], [2, 3]] = [openDigStream 65536,
      sendDigStreamData 65536 0 [1], sendDigStreamData 65536 1 [2, 3], closeDigStream 65536] := rfl
  have honest : ∀ msg ∈ mixedStreams, forall seq payload,
      incomingFrame msg = some (.data 65536 seq payload) ->
        msg ∈ streamMessages 65536 [[1], [2, 3]] := by
    intro msg member seq payload lifted
    rw [sent]
    rcases List.mem_cons.mp member with rfl | member
    · simp
    rcases List.mem_cons.mp member with rfl | member
    · simp
    rcases List.mem_cons.mp member with rfl | member
    · rw [sendDigStreamData, incomingFrame_streamFrameMessage] at lifted
      cases lifted
    rcases List.mem_cons.mp member with rfl | member
    · cases lifted
    rcases List.mem_cons.mp member with rfl | member
    · simp
    rcases List.mem_cons.mp member with rfl | member
    · simp
    rcases List.mem_singleton.mp member with rfl
    simp
  have transported := stream_transport 65536 [[1], [2, 3]] (by decide) mixedStreams honest 2 3
  refine ⟨transported.2.1 (by decide) (by decide), transported.2.2 (by decide) (by decide) ?_⟩
  rw [sent]
  simp [mixedStreams]

end Service
end DigGossip
