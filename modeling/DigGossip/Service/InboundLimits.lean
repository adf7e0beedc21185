import DigGossip.Foundations.Floats
import DigGossip.Service.FloodMessages

namespace DigGossip
namespace Service

open Foundations DigGossip.Types

/-!
# Inbound limits

Every frame of a link passes a gate of two halves: the bound of the Chia
protocol, which is a parameter here, and for the upper opcodes the bound of a
table by opcode.  A refused frame is dropped, and whether it is also charged to
the peer that delivered it depends on its opcode and its size alone.
-/

/-! ## The table -/

structure RateLimit where
  frequency : Float
  maxSize : Float
  maxTotalSize : Option Float
deriving DecidableEq

/-- `RateLimit::new` without a bound on the total size. -/
def RateLimit.new (frequency maxSize : Nat) : RateLimit where
  frequency := asFloat frequency
  maxSize := asFloat maxSize
  maxTotalSize := none

/-- The message types of the 200 band that have a row. -/
inductive DigMessageType where
  | newAttestation
  | newCheckpointProposal
  | newCheckpointSignature
  | requestCheckpointSignatures
  | respondCheckpointSignatures
  | requestStatus
  | respondStatus
  | newCheckpointSubmission
  | validatorAnnounce
  | registerPeer
  | registerAck
deriving DecidableEq

def DigMessageType.toByte : DigMessageType -> UInt8
  | .newAttestation => 200
  | .newCheckpointProposal => 201
  | .newCheckpointSignature => 202
  | .requestCheckpointSignatures => 203
  | .respondCheckpointSignatures => 204
  | .requestStatus => 205
  | .respondStatus => 206
  | .newCheckpointSubmission => 207
  | .validatorAnnounce => 208
  | .registerPeer => 218
  | .registerAck => 219

def maxProfileBodyFrameBytes : Nat := 1024 * 1024

def digExtensionRateLimits : List (UInt8 × RateLimit) :=
  [ (DigMessageType.newAttestation.toByte, .new 100 4096)
  , (DigMessageType.newCheckpointProposal.toByte, .new 10 8192)
  , (DigMessageType.newCheckpointSignature.toByte, .new 100 4096)
  , (DigMessageType.requestCheckpointSignatures.toByte, .new 10 1024)
  , (DigMessageType.respondCheckpointSignatures.toByte, .new 10 65536)
  , (DigMessageType.requestStatus.toByte, .new 10 1024)
  , (DigMessageType.respondStatus.toByte, .new 10 8192)
  , (DigMessageType.newCheckpointSubmission.toByte, .new 10 65536)
  , (DigMessageType.validatorAnnounce.toByte, .new 10 4096)
  , (DigMessageType.registerPeer.toByte, .new 4 512)
  , (DigMessageType.registerAck.toByte, .new 4 256)
  , (storeMelted, .new 10 StoreMeltedAnnounce.encodedLen)
  , (holdingsAnnounce, .new 20 maxAnnounceFrameBytes)
  , (profileRootAnnounce, .new 20 ProfileRootRef.encodedLen)
  , (profileBodyRequest, .new 60 ProfileRootRef.encodedLen)
  , (profileBody, .new 60 maxProfileBodyFrameBytes)
  , (distributorAnnounce, .new 6 maxDistributorAnnounceBodyBytes) ]

/-- `dig_extension_rate_limits_map`: the rows are inserted one after another. -/
def digExtensionRateLimitsMap : FiniteMap UInt8 RateLimit :=
  digExtensionRateLimits.foldl (fun table row => table.insert row.1 row.2) ∅

/-! ## The limiter of the table -/

structure DigRateLimiter where
  incoming : Bool
  resetSeconds : Nat
  period : Nat
  limitFactor : Float
  limits : FiniteMap UInt8 RateLimit
  counts : FiniteMap UInt8 Float
  sizes : FiniteMap UInt8 Float

def currentPeriod (resetSeconds now : Nat) : Nat := now / resetSeconds

namespace DigRateLimiter

def new (incoming : Bool) (resetSeconds : Nat) (limitFactor : Float)
    (limits : FiniteMap UInt8 RateLimit) (now : Nat) : DigRateLimiter where
  incoming := incoming
  resetSeconds := resetSeconds
  period := currentPeriod resetSeconds now
  limitFactor := limitFactor
  limits := limits
  counts := ∅
  sizes := ∅

def syncPeriod (limiter : DigRateLimiter) (now : Nat) : DigRateLimiter :=
  let period := currentPeriod limiter.resetSeconds now
  if limiter.period ≠ period then { limiter with period := period, counts := ∅, sizes := ∅ }
  else limiter

/-- The verdict on a frame of a type that has a row, after the frame was counted. -/
def passes (limiter : DigRateLimiter) (limits : RateLimit) (newCount size newCumulativeSize : Float) :
    Bool :=
  let maxTotalSize := limits.maxTotalSize.getD (limits.frequency * limits.maxSize)
  decide (newCount ≤ limits.frequency * limiter.limitFactor) && decide (size ≤ limits.maxSize) &&
    decide (newCumulativeSize ≤ maxTotalSize * limiter.limitFactor)

/-- `check`: a refused frame is charged as well, on a limiter of incoming frames. -/
def check (limiter : DigRateLimiter) (wireType : UInt8) (dataLen : UInt32) (now : Nat) :
    Bool × DigRateLimiter :=
  let limiter := limiter.syncPeriod now
  match limiter.limits.lookup wireType with
  | none => (true, limiter)
  | some limits =>
      let size := asFloat dataLen.toNat
      let newCount := (limiter.counts.lookup wireType).getD (asFloat 0) + asFloat 1
      let newCumulativeSize := (limiter.sizes.lookup wireType).getD (asFloat 0) + size
      let passed := limiter.passes limits newCount size newCumulativeSize
      if limiter.incoming || passed then
        (passed, { limiter with
          counts := limiter.counts.insert wireType newCount
          sizes := limiter.sizes.insert wireType newCumulativeSize })
      else (passed, limiter)

end DigRateLimiter

/-! ## The gate -/

def resetSeconds : Nat := 60

def digWireBandStart : UInt8 := 220

/-- The limiter of the Chia protocol for incoming frames, with the clock it reads. -/
structure OpcodeRateLimiter (C : Type) where
  new : (resetSeconds : Nat) -> (rateLimitFactor : Float) -> (now : Nat) -> C
  allow : C -> (msg : DigMessage) -> (now : Nat) -> Bool × C

structure InboundRateLimiter (C : Type) where
  chia : C
  dig : DigRateLimiter

namespace InboundRateLimiter

variable {C : Type}

def new (chia : OpcodeRateLimiter C) (rateLimitFactor : Float) (now nowAgain : Nat) :
    InboundRateLimiter C where
  chia := chia.new resetSeconds rateLimitFactor now
  dig := DigRateLimiter.new true resetSeconds rateLimitFactor digExtensionRateLimitsMap nowAgain

/-- The length of the payload is cut to thirty-two bits for the table. -/
def allows (chia : OpcodeRateLimiter C) (gate : InboundRateLimiter C) (msg : DigMessage)
    (now nowAgain : Nat) : Bool × InboundRateLimiter C :=
  let (allowed, state) := chia.allow gate.chia msg now
  if allowed = false then (false, { gate with chia := state })
  else if digWireBandStart ≤ msg.msgType then
    let (passed, dig) := gate.dig.check msg.msgType (UInt32.ofNat msg.data.length) nowAgain
    (passed, { chia := state, dig := dig })
  else (true, { gate with chia := state })

end InboundRateLimiter

/-! ## Refused frames -/

def isPublicFloodOpcode (msgType : UInt8) : Bool :=
  decide (msgType = storeMelted ∨ msgType = holdingsAnnounce ∨ msgType = profileRootAnnounce ∨
    msgType = distributorAnnounce)

def exceedsDigWireMaxSize (msg : DigMessage) : Bool :=
  ((digExtensionRateLimitsMap.lookup msg.msgType).map fun row =>
    decide (row.maxSize < asFloat msg.data.length)).getD false

def rejectedFrameIncursPenalty (msg : DigMessage) : Bool :=
  if isPublicFloodOpcode msg.msgType then exceedsDigWireMaxSize msg else true

/-- A frame that comes in over a link, with the times at which the two halves look at it. -/
structure Arrival where
  msg : DigMessage
  now : Nat
  nowAgain : Nat

/-! ## What a receiver takes is within its row -/

/-- The four codecs and the verification bound the payloads they let through. -/
theorem accepted_length {keys : KeyLibraries} {msg : DigMessage}
    (accepted : floodAccepted keys msg = true) :
    (msg.msgType = storeMelted ∧ msg.data.length = StoreMeltedAnnounce.encodedLen) ∨
      (msg.msgType = profileRootAnnounce ∧ msg.data.length = ProfileRootRef.encodedLen) ∨
      (msg.msgType = distributorAnnounce ∧ msg.data.length ≤ maxDistributorAnnounceBodyBytes) ∨
      (msg.msgType = holdingsAnnounce ∧ msg.data.length ≤ maxAnnounceFrameBytes) := by
  simp only [floodAccepted, Bool.or_eq_true, Option.isSome_iff_exists] at accepted
  rcases accepted with ((⟨announce, lifted⟩ | ⟨rootRef, lifted⟩) | ⟨announce, lifted⟩) | verified
  · rcases Option.ite_none_right_eq_some.mp lifted with ⟨isMelted, read⟩
    rw [<- StoreMeltedAnnounce.encode_of_decode read]
    exact Or.inl ⟨isMelted, announce.length_encode⟩
  · rcases Option.ite_none_right_eq_some.mp lifted with ⟨isRoot, read⟩
    rw [<- ProfileRootRef.encode_of_decode read]
    exact Or.inr (Or.inl ⟨isRoot, rootRef.length_encode⟩)
  · rcases Option.ite_none_right_eq_some.mp lifted with ⟨isDistributor, read⟩
    rcases DistributorAnnounce.encode_of_decode read with ⟨encoded, few⟩
    refine Or.inr (Or.inr (Or.inl ⟨isDistributor, ?_⟩))
    rw [<- encoded, announce.length_encode]
    exact Nat.add_le_add_left (Nat.mul_le_mul_right 32 few) (32 + 2)
  · rcases (Option.any_eq_true _ _).mp verified with ⟨announce, lifted, verified⟩
    rcases Option.ite_none_right_eq_some.mp lifted with ⟨isHoldings, read⟩
    have accepted := (verify_eq_ok_iff keys announce).mp (of_decide_eq_true verified)
    rw [<- (encode_of_decode read).1]
    exact Or.inr (Or.inr (Or.inr ⟨isHoldings, accepted.frame⟩))

/-- A flood opcode has a row, and no receiver takes a payload beyond its size. -/
theorem exists_floodRow {opcode : UInt8} (flood : isPublicFloodOpcode opcode = true) :
    exists frequency bound, digExtensionRateLimitsMap.lookup opcode =
        some (RateLimit.new frequency bound) ∧ bound < 2 ^ 53 ∧
      forall keys msg, msg.msgType = opcode -> floodAccepted keys msg = true ->
        msg.data.length ≤ bound := by
  have apart : storeMelted ≠ profileRootAnnounce ∧ storeMelted ≠ distributorAnnounce ∧
      storeMelted ≠ holdingsAnnounce ∧ profileRootAnnounce ≠ distributorAnnounce ∧
      profileRootAnnounce ≠ holdingsAnnounce ∧ distributorAnnounce ≠ holdingsAnnounce := by
    decide
  rcases of_decide_eq_true flood with rfl | rfl | rfl | rfl
  · refine ⟨10, StoreMeltedAnnounce.encodedLen, rfl, by decide, fun keys msg same accepted => ?_⟩
    rcases accepted_length accepted with ⟨_, length⟩ | ⟨other, _⟩ | ⟨other, _⟩ | ⟨other, _⟩
    · exact length.le
    · exact absurd (same.symm.trans other) apart.1
    · exact absurd (same.symm.trans other) apart.2.1
    · exact absurd (same.symm.trans other) apart.2.2.1
  · refine ⟨20, maxAnnounceFrameBytes, rfl, by decide, fun keys msg same accepted => ?_⟩
    rcases accepted_length accepted with ⟨other, _⟩ | ⟨other, _⟩ | ⟨other, _⟩ | ⟨_, length⟩
    · exact absurd (other.symm.trans same) apart.2.2.1
    · exact absurd (other.symm.trans same) apart.2.2.2.2.1
    · exact absurd (other.symm.trans same) apart.2.2.2.2.2
    · exact length
  · refine ⟨20, ProfileRootRef.encodedLen, rfl, by decide, fun keys msg same accepted => ?_⟩
    rcases accepted_length accepted with ⟨other, _⟩ | ⟨_, length⟩ | ⟨other, _⟩ | ⟨other, _⟩
    · exact absurd (other.symm.trans same) apart.1
    · exact length.le
    · exact absurd (same.symm.trans other) apart.2.2.2.1
    · exact absurd (same.symm.trans other) apart.2.2.2.2.1
  · refine ⟨6, maxDistributorAnnounceBodyBytes, rfl, by decide, fun keys msg same accepted => ?_⟩
    rcases accepted_length accepted with ⟨other, _⟩ | ⟨other, _⟩ | ⟨_, length⟩ | ⟨other, _⟩
    · exact absurd (other.symm.trans same) apart.2.1
    · exact absurd (other.symm.trans same) apart.2.2.2.1
    · exact length
    · exact absurd (same.symm.trans other) apart.2.2.2.2.2

/-- A flooded frame is charged, once refused, exactly when it exceeds its row. -/
theorem rejectedFrame_iff {msg : DigMessage} (flood : isPublicFloodOpcode msg.msgType = true)
    {frequency bound : Nat} (found : digExtensionRateLimitsMap.lookup msg.msgType =
      some (RateLimit.new frequency bound)) (small : bound < 2 ^ 53) :
    rejectedFrameIncursPenalty msg = true ↔ bound < msg.data.length := by
  unfold rejectedFrameIncursPenalty exceedsDigWireMaxSize
  rw [if_pos flood, found]
  exact decide_eq_true_iff.trans (asFloat_lt_iff small msg.data.length)

/-- What is refused of a flood is charged for its size alone, and no receiver
takes a payload of such a size. -/
theorem honest_relayer_uncharged {C : Type} (chia : OpcodeRateLimiter C) (keys : KeyLibraries)
    (gate : InboundRateLimiter C) (msg : DigMessage) (now nowAgain : Nat)
    (flood : isPublicFloodOpcode msg.msgType = true) :
    exists row, digExtensionRateLimitsMap.lookup msg.msgType = some row ∧
      (floodAccepted keys msg = true -> (gate.allows chia msg now nowAgain).1 = false ->
        rejectedFrameIncursPenalty msg = false) ∧
      (row.maxSize < asFloat msg.data.length -> (gate.allows chia msg now nowAgain).1 = false ->
        rejectedFrameIncursPenalty msg = true) ∧
      (row.maxSize < asFloat msg.data.length -> floodAccepted keys msg = false) := by
  rcases exists_floodRow flood with ⟨frequency, bound, found, small, within⟩
  have charged := rejectedFrame_iff flood found small
  refine ⟨_, found, ?_, ?_, ?_⟩
  · intro accepted _
    have length := within keys msg rfl accepted
    exact Bool.eq_false_iff.mpr fun wrong => absurd (charged.mp wrong) (Nat.not_lt.mpr length)
  · intro exceeds _
    exact charged.mpr ((asFloat_lt_iff small msg.data.length).mp exceeds)
  · intro exceeds
    have longer := (asFloat_lt_iff small msg.data.length).mp exceeds
    exact Bool.eq_false_iff.mpr fun wrong => absurd longer
      (Nat.not_lt.mpr (within keys msg rfl wrong))

namespace Flooding

/-- A frame without launcher ids, for the store of zeros. -/
def bareAnnounce : DigMessage where
  msgType := distributorAnnounce
  id := none
  data := List.replicate 34 0

/-- A base bound that is never reached. -/
def idle : OpcodeRateLimiter Unit where
  new := fun _ _ _ => ()
  allow := fun _ _ _ => (true, ())

def keys : KeyLibraries where
  peerIdFromTlsSpkiDer := fun _ => ⟨List.replicate 32 0, rfl⟩
  fromDer := fun _ => none
  verifyEcdsa := fun _ _ _ => false

/-- The gate after a number of the same frames within one minute. -/
def after : Nat -> InboundRateLimiter Unit
  | 0 => InboundRateLimiter.new idle (asFloat 1) 0 0
  | count + 1 => ((after count).allows idle bareAnnounce 0 0).2

end Flooding

open Flooding

theorem honest_relayer_uncharged_seventh :
    floodAccepted keys bareAnnounce = true ∧
      ((after 6).allows idle bareAnnounce 0 0).1 = false ∧
      rejectedFrameIncursPenalty bareAnnounce = false := by
  have refused : ((after 6).allows idle bareAnnounce 0 0).1 = false := by decide +kernel
  have accepted : floodAccepted keys bareAnnounce = true := by decide +kernel
  rcases honest_relayer_uncharged idle keys (after 6) bareAnnounce 0 0 (by decide) with
    ⟨_, _, uncharged, _⟩
  exact ⟨accepted, refused, uncharged accepted refused⟩

end Service
end DigGossip
