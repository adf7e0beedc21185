import DigGossip.Service.InboundLimits

namespace DigGossip
namespace Service

open Foundations DigGossip.Types

/-!
# The frames of profile bodies

A body stands behind two hashes and its own length.  The length is cut to
thirty-two bits when it is written, the reader bounds the bytes that it got and
not the length they declare, and the limiter bounds a length that was cut again.
The cap is so far below a word that the three agree.
-/

/-- `BODY_FRAME_HEADER_LEN`. -/
def bodyFrameHeaderLen : Nat := ProfileRootRef.encodedLen + 4

structure ProfileBody where
  storeId : Bytes32
  root : Bytes32
  body : List UInt8
deriving DecidableEq

namespace ProfileBody

def encodedLen (p : ProfileBody) : Nat := bodyFrameHeaderLen + p.body.length

def fitsFrameCap (p : ProfileBody) : Bool := decide (p.encodedLen ≤ maxProfileBodyFrameBytes)

/-- A length beyond thirty-two bits is cut. -/
def encode (p : ProfileBody) : List UInt8 :=
  p.storeId.val ++ (p.root.val ++ (bigEndian 4 p.body.length ++ p.body))

def decode (bytes : List UInt8) : Option ProfileBody :=
  if maxProfileBodyFrameBytes < bytes.length then none
  else if bytes.length < bodyFrameHeaderLen then none
  else do
    let storeId <- toOctets 32 (slice bytes 0 32)
    let root <- toOctets 32 (slice bytes 32 64)
    let declared <- toOctets 4 (slice bytes 64 68)
    if bigEndianValue declared.val ≠ bytes.length - bodyFrameHeaderLen then none
    else return { storeId, root, body := bytes.drop bodyFrameHeaderLen }

end ProfileBody

def isProfileBody (msgType : UInt8) : Bool := decide (msgType = profileBody)

def profileBodyPayload (msg : DigMessage) : Option ProfileBody :=
  if isProfileBody msg.msgType then ProfileBody.decode msg.data else none

def frameProfileBody (p : ProfileBody) : Option DigMessage :=
  if p.fitsFrameCap = false then none
  else some { msgType := profileBody, id := none, data := p.encode }

namespace ProfileBody

theorem length_encode (p : ProfileBody) : p.encode.length = p.encodedLen := by
  unfold encode encodedLen
  simp only [List.length_append, length_bigEndian, p.storeId.property, p.root.property]
  rw [<- Nat.add_assoc, <- Nat.add_assoc]
  rfl

/-- Within the cap no length is cut. -/
theorem lt_word_of_fits {p : ProfileBody} (fits : p.encodedLen ≤ maxProfileBodyFrameBytes) :
    p.body.length < 256 ^ 4 := by
  have short : p.body.length ≤ maxProfileBodyFrameBytes :=
    (Nat.le_add_left p.body.length bodyFrameHeaderLen).trans fits
  exact Nat.lt_of_le_of_lt short (by decide)

theorem decode_encode {p : ProfileBody} (fits : p.encodedLen ≤ maxProfileBodyFrameBytes) :
    decode p.encode = some p := by
  have first : slice p.encode 0 32 = p.storeId.val :=
    slice_append [] _ _ rfl (congrArg (0 + ·) p.storeId.property)
  have second : slice p.encode 32 64 = p.root.val :=
    slice_append p.storeId.val _ _ p.storeId.property (congrArg (32 + ·) p.root.property)
  have header : (p.storeId.val ++ p.root.val).length = 64 := by
    rw [List.length_append, p.storeId.property, p.root.property]
  have third : slice p.encode 64 68 = bigEndian 4 p.body.length := by
    unfold encode
    rw [<- List.append_assoc]
    exact slice_append _ _ _ header (congrArg (64 + ·) (length_bigEndian 4 p.body.length))
  have last : p.encode.drop bodyFrameHeaderLen = p.body := by
    unfold encode
    rw [<- List.append_assoc, <- List.append_assoc]
    exact List.drop_left' (by rw [List.length_append, header, length_bigEndian]; rfl)
  have word := toOctets_val (⟨bigEndian 4 p.body.length, length_bigEndian 4 _⟩ : Octets 4)
  have declared : bigEndianValue (bigEndian 4 p.body.length) =
      p.encode.length - bodyFrameHeaderLen := by
    rw [bigEndianValue_bigEndian, Nat.mod_eq_of_lt (lt_word_of_fits fits), length_encode, encodedLen,
      Nat.add_sub_cancel_left]
  unfold decode
  rw [if_neg (Nat.not_lt.mpr (p.length_encode.trans_le fits)),
    if_neg (Nat.not_lt.mpr (by rw [length_encode]; exact Nat.le_add_right _ _)), first, second,
    third, toOctets_val, toOctets_val, word, last]
  exact if_neg (not_not.mpr declared)

/-- What is read is within the cap, and is the encoding of what was read. -/
theorem encode_of_decode {bytes : List UInt8} {p : ProfileBody} (read : decode bytes = some p) :
    bytes = p.encode ∧ bytes.length ≤ maxProfileBodyFrameBytes := by
  unfold decode at read
  split at read
  · cases read
  · rename_i capped
    split at read
    · cases read
    · rename_i long
      have enough : 68 ≤ bytes.length := Nat.le_of_not_lt long
      rcases Option.bind_eq_some_iff.mp read with ⟨storeId, first, read⟩
      rcases Option.bind_eq_some_iff.mp read with ⟨root, second, read⟩
      rcases Option.bind_eq_some_iff.mp read with ⟨declared, third, read⟩
      rcases Option.ite_none_left_eq_some.mp read with ⟨agrees, same⟩
      cases same
      have spelled := bigEndian_bigEndianValue declared.val
      rw [declared.property, of_not_not agrees] at spelled
      refine ⟨?_, Nat.le_of_not_lt capped⟩
      unfold encode
      show bytes = storeId.val ++ (root.val ++ (bigEndian 4 (bytes.drop bodyFrameHeaderLen).length ++
        bytes.drop bodyFrameHeaderLen))
      rw [List.length_drop, spelled, <- eq_of_toOctets first, <- eq_of_toOctets second,
        <- eq_of_toOctets third, <- List.append_assoc, <- List.append_assoc,
        slice_slice bytes (by decide) (by decide), slice_slice bytes (by decide) (by decide)]
      exact (List.take_append_drop 68 bytes).symm

/-- The reader accepts the encodings within the cap and nothing else. -/
theorem decode_eq_some_iff {bytes : List UInt8} {p : ProfileBody} :
    decode bytes = some p ↔ bytes = p.encode ∧ bytes.length ≤ maxProfileBodyFrameBytes := by
  constructor
  · exact encode_of_decode
  · rintro ⟨rfl, capped⟩
    exact decode_encode (p.length_encode.symm.trans_le capped)

theorem isSome_decode_encode (p : ProfileBody) :
    (decode p.encode).isSome = true ↔ p.encodedLen ≤ maxProfileBodyFrameBytes := by
  rw [Option.isSome_iff_exists]
  constructor
  · rintro ⟨read, found⟩
    exact p.length_encode.symm.trans_le (encode_of_decode found).2
  · intro fits
    exact ⟨p, decode_encode fits⟩

end ProfileBody

theorem frameProfileBody_eq_some_iff {p : ProfileBody} {msg : DigMessage} :
    frameProfileBody p = some msg ↔ p.encodedLen ≤ maxProfileBodyFrameBytes ∧
      msg = { msgType := profileBody, id := none, data := p.encode } := by
  unfold frameProfileBody ProfileBody.fitsFrameCap
  rw [Option.ite_none_left_eq_some, decide_eq_false_iff_not, not_not, Option.some_inj]
  exact and_congr_right fun _ => eq_comm

/-- Every frame is lifted as what was framed. -/
theorem profileBodyPayload_of_frame {p : ProfileBody} {msg : DigMessage}
    (framed : frameProfileBody p = some msg) : profileBodyPayload msg = some p := by
  rcases frameProfileBody_eq_some_iff.mp framed with ⟨fits, rfl⟩
  exact ProfileBody.decode_encode fits

/-- A frame is within the row of its opcode, as the limiter measures it. -/
theorem frameProfileBody_within_row {p : ProfileBody} {msg : DigMessage}
    (framed : frameProfileBody p = some msg) :
    exists row, digExtensionRateLimitsMap.lookup msg.msgType = some row ∧
      asFloat (UInt32.ofNat msg.data.length).toNat ≤ row.maxSize := by
  rcases frameProfileBody_eq_some_iff.mp framed with ⟨fits, rfl⟩
  have found : digExtensionRateLimitsMap.lookup profileBody =
      some (RateLimit.new 60 maxProfileBodyFrameBytes) := rfl
  have small : maxProfileBodyFrameBytes < 2 ^ 32 := by decide
  have length : p.encode.length ≤ maxProfileBodyFrameBytes := p.length_encode.trans_le fits
  refine ⟨_, found, ?_⟩
  show asFloat (UInt32.ofNat p.encode.length).toNat ≤ asFloat maxProfileBodyFrameBytes
  rw [UInt32.toNat_ofNat_of_lt' (Nat.lt_of_le_of_lt length small)]
  exact (asFloat_le_iff (by decide) p.encode.length).mpr length

/-- The reader, the builder and the limiter draw the line at the same frames, and
a frame carries the encoding of its body. -/
theorem profileBody_framing :
    (forall bytes p, ProfileBody.decode bytes = some p ↔
      bytes = p.encode ∧ bytes.length ≤ maxProfileBodyFrameBytes) ∧
    (forall p, (frameProfileBody p).isSome = true ↔ (ProfileBody.decode p.encode).isSome = true) ∧
    forall p msg, frameProfileBody p = some msg ->
      msg = { msgType := profileBody, id := none, data := p.encode } ∧
        profileBodyPayload msg = some p ∧
        exists row, digExtensionRateLimitsMap.lookup profileBody = some row ∧
          asFloat (UInt32.ofNat msg.data.length).toNat ≤ row.maxSize := by
  refine ⟨fun bytes p => ProfileBody.decode_eq_some_iff, fun p => ?_, fun p msg framed => ?_⟩
  · rw [p.isSome_decode_encode, Option.isSome_iff_exists]
    constructor
    · rintro ⟨msg, framed⟩
      exact (frameProfileBody_eq_some_iff.mp framed).1
    · intro fits
      exact ⟨_, frameProfileBody_eq_some_iff.mpr ⟨fits, rfl⟩⟩
  · have carried := (frameProfileBody_eq_some_iff.mp framed).2
    have within := frameProfileBody_within_row framed
    rw [congrArg DigMessage.msgType carried] at within
    exact ⟨carried, profileBodyPayload_of_frame framed, within⟩

end Service
end DigGossip
