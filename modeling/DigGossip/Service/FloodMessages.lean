import DigGossip.Service.Broadcaster
import DigGossip.Service.HoldingsCodec

namespace DigGossip
namespace Service

open Foundations DigGossip.Types

/-!
# The flooded messages on the wire

Two of the flooded messages have a fixed length and are read by position, and the
distributor announcement counts its identifiers.  Each is read back from its
encoding, and each frame that is read is the encoding of what was read.  The
holdings announcement has its own modules.
-/

abbrev Octets (count : Nat) := { bytes : List UInt8 // bytes.length = count }

def toOctets (count : Nat) (bytes : List UInt8) : Option (Octets count) :=
  if exact : bytes.length = count then some ⟨bytes, exact⟩ else none

/-- The bytes from one position up to another. -/
def slice (bytes : List UInt8) (start stop : Nat) : List UInt8 :=
  (bytes.drop start).take (stop - start)

/-! ## Store melted -/

structure StoreMeltedAnnounce where
  storeId : Bytes32
  meltHeight : UInt32
  senderPeerId : Bytes32
  signature : Octets 96
deriving DecidableEq

namespace StoreMeltedAnnounce

def encodedLen : Nat := 32 + 4 + 32 + 96

def encode (announce : StoreMeltedAnnounce) : List UInt8 :=
  announce.storeId.val ++ (bigEndian 4 announce.meltHeight.toNat ++
    (announce.senderPeerId.val ++ announce.signature.val))

def decode (bytes : List UInt8) : Option StoreMeltedAnnounce :=
  if bytes.length ≠ encodedLen then none
  else do
    let storeId <- toOctets 32 (slice bytes 0 32)
    let meltHeight <- toOctets 4 (slice bytes 32 36)
    let senderPeerId <- toOctets 32 (slice bytes 36 68)
    let signature <- toOctets 96 (slice bytes 68 164)
    return {
      storeId, meltHeight := UInt32.ofNat (bigEndianValue meltHeight.val), senderPeerId, signature }

end StoreMeltedAnnounce

/-! ## Profile roots -/

structure ProfileRootRef where
  storeId : Bytes32
  root : Bytes32
deriving DecidableEq

namespace ProfileRootRef

def encodedLen : Nat := 64

def encode (rootRef : ProfileRootRef) : List UInt8 :=
  rootRef.storeId.val ++ rootRef.root.val

def decode (bytes : List UInt8) : Option ProfileRootRef :=
  if bytes.length ≠ encodedLen then none
  else do
    let storeId <- toOctets 32 (slice bytes 0 32)
    let root <- toOctets 32 (slice bytes 32 64)
    return { storeId, root }

end ProfileRootRef

/-! ## Distributor announcements -/

def maxLauncherIdsPerAnnounce : Nat := 32

def maxDistributorAnnounceBodyBytes : Nat := 32 + 2 + maxLauncherIdsPerAnnounce * 32

structure DistributorAnnounce where
  storeId : Bytes32
  launcherIds : List Bytes32
deriving DecidableEq

def readDistributorAnnounce : ByteReader DistributorAnnounce := do
  let storeId <- take32
  let count <- ByteReader.number 2
  ByteReader.ensure (count ≤ maxLauncherIdsPerAnnounce)
  let launcherIds <- ByteReader.many take32 count
  return { storeId, launcherIds }

namespace DistributorAnnounce

/-- A count beyond sixteen bits is cut. -/
def encode (announce : DistributorAnnounce) : List UInt8 :=
  announce.storeId.val ++ (bigEndian 2 announce.launcherIds.length ++
    announce.launcherIds.flatMap fun launcherId => launcherId.val)

def decode (bytes : List UInt8) : Option DistributorAnnounce :=
  readDistributorAnnounce.whole bytes

end DistributorAnnounce

/-! ## Lifting a message -/

def storeMeltedPayload (msg : DigMessage) : Option StoreMeltedAnnounce :=
  if msg.msgType = storeMelted then StoreMeltedAnnounce.decode msg.data else none

def holdingsAnnouncePayload (msg : DigMessage) : Option HoldingsAnnounce :=
  if msg.msgType = holdingsAnnounce then HoldingsAnnounce.decode msg.data else none

def profileRootAnnouncePayload (msg : DigMessage) : Option ProfileRootRef :=
  if msg.msgType = profileRootAnnounce then ProfileRootRef.decode msg.data else none

def distributorAnnouncePayload (msg : DigMessage) : Option DistributorAnnounce :=
  if msg.msgType = distributorAnnounce then DistributorAnnounce.decode msg.data else none

/-- What the receivers of the flooded messages take: a payload that decodes, and
for holdings one that is also verified. -/
def floodAccepted (keys : KeyLibraries) (msg : DigMessage) : Bool :=
  (storeMeltedPayload msg).isSome || (profileRootAnnouncePayload msg).isSome ||
    (distributorAnnouncePayload msg).isSome ||
    (holdingsAnnouncePayload msg).any fun announce =>
      decide (verifyHoldingsAnnounce keys announce = .ok ())

/-! ## Reading by position -/

theorem slice_append (before inner after : List UInt8) {start stop : Nat}
    (starts : before.length = start) (stops : start + inner.length = stop) :
    slice (before ++ (inner ++ after)) start stop = inner := by
  unfold slice
  rw [<- stops, <- starts, List.drop_left, Nat.add_sub_cancel_left, List.take_left]

theorem toOctets_val {count : Nat} (octets : Octets count) :
    toOctets count octets.val = some octets :=
  dif_pos octets.property

theorem eq_of_toOctets {count : Nat} {bytes : List UInt8} {octets : Octets count}
    (found : toOctets count bytes = some octets) : bytes = octets.val := by
  unfold toOctets at found
  split at found
  · cases found
    rfl
  · cases found

/-- Slices that meet are one slice. -/
theorem slice_slice (bytes : List UInt8) {start middle stop : Nat} (first : start ≤ middle)
    (second : middle ≤ stop) :
    slice bytes start middle ++ slice bytes middle stop = slice bytes start stop := by
  unfold slice
  have moved : bytes.drop middle = (bytes.drop start).drop (middle - start) := by
    rw [List.drop_drop, Nat.add_sub_of_le first]
  have length : stop - start = (middle - start) + (stop - middle) := by omega
  rw [moved, length, List.take_add]

theorem slice_whole {bytes : List UInt8} {count : Nat} (length : bytes.length = count) :
    slice bytes 0 count = bytes := by
  unfold slice
  rw [List.drop_zero, Nat.sub_zero, <- length, List.take_length]

namespace StoreMeltedAnnounce

theorem length_encode (announce : StoreMeltedAnnounce) : announce.encode.length = encodedLen := by
  unfold encode
  simp only [List.length_append, length_bigEndian, announce.storeId.property,
    announce.senderPeerId.property, announce.signature.property]
  rfl

theorem decode_encode (announce : StoreMeltedAnnounce) :
    decode announce.encode = some announce := by
  have height := length_bigEndian 4 announce.meltHeight.toNat
  have first : slice announce.encode 0 32 = announce.storeId.val :=
    slice_append [] _ _ rfl (by rw [announce.storeId.property])
  have second : slice announce.encode 32 36 = bigEndian 4 announce.meltHeight.toNat :=
    slice_append announce.storeId.val _ _ announce.storeId.property (by rw [height])
  have third : slice announce.encode 36 68 = announce.senderPeerId.val := by
    unfold encode
    rw [<- List.append_assoc]
    exact slice_append _ _ _ (by rw [List.length_append, announce.storeId.property, height])
      (by rw [announce.senderPeerId.property])
  have fourth : slice announce.encode 68 164 = announce.signature.val := by
    have last : announce.encode = announce.storeId.val ++ (bigEndian 4 announce.meltHeight.toNat ++
        announce.senderPeerId.val) ++ (announce.signature.val ++ []) := by
      unfold encode
      rw [List.append_nil, List.append_assoc, List.append_assoc]
    rw [last]
    exact slice_append _ _ _ (by
      rw [List.length_append, List.length_append, announce.storeId.property, height,
        announce.senderPeerId.property]) (by rw [announce.signature.property])
  have value : UInt32.ofNat (bigEndianValue (bigEndian 4 announce.meltHeight.toNat)) =
      announce.meltHeight := by
    have fits : announce.meltHeight.toNat < 256 ^ 4 := announce.meltHeight.toNat_lt
    rw [bigEndianValue_bigEndian, Nat.mod_eq_of_lt fits, UInt32.ofNat_toNat]
  have word := toOctets_val (⟨bigEndian 4 announce.meltHeight.toNat, height⟩ : Octets 4)
  unfold decode
  rw [if_neg (not_not.mpr announce.length_encode), first, second, third, fourth, toOctets_val,
    word, toOctets_val, toOctets_val]
  show some (StoreMeltedAnnounce.mk _ _ _ _) = _
  rw [value]

theorem encode_of_decode {bytes : List UInt8} {announce : StoreMeltedAnnounce}
    (read : decode bytes = some announce) : announce.encode = bytes := by
  unfold decode at read
  split at read
  · cases read
  · rename_i length
    rcases Option.bind_eq_some_iff.mp read with ⟨storeId, first, read⟩
    rcases Option.bind_eq_some_iff.mp read with ⟨meltHeight, second, read⟩
    rcases Option.bind_eq_some_iff.mp read with ⟨senderPeerId, third, read⟩
    rcases Option.bind_eq_some_iff.mp read with ⟨signature, fourth, read⟩
    cases read
    have word : bigEndian 4 (UInt32.ofNat (bigEndianValue meltHeight.val)).toNat =
        meltHeight.val := by
      have fits := bigEndianValue_lt meltHeight.val
      have spelled := bigEndian_bigEndianValue meltHeight.val
      rw [meltHeight.property] at fits spelled
      rw [UInt32.toNat_ofNat_of_lt' fits, spelled]
    unfold encode
    rw [word, <- eq_of_toOctets first, <- eq_of_toOctets second, <- eq_of_toOctets third,
      <- eq_of_toOctets fourth, slice_slice bytes (by decide) (by decide),
      slice_slice bytes (by decide) (by decide), slice_slice bytes (by decide) (by decide)]
    exact slice_whole (of_not_not length)

end StoreMeltedAnnounce

namespace ProfileRootRef

theorem length_encode (rootRef : ProfileRootRef) : rootRef.encode.length = encodedLen := by
  unfold encode
  rw [List.length_append, rootRef.storeId.property, rootRef.root.property]
  rfl

theorem decode_encode (rootRef : ProfileRootRef) : decode rootRef.encode = some rootRef := by
  have first : slice rootRef.encode 0 32 = rootRef.storeId.val :=
    slice_append [] _ _ rfl (by rw [rootRef.storeId.property])
  have second : slice rootRef.encode 32 64 = rootRef.root.val := by
    have last : rootRef.encode = rootRef.storeId.val ++ (rootRef.root.val ++ []) := by
      rw [List.append_nil]
      rfl
    rw [last]
    exact slice_append _ _ _ rootRef.storeId.property (by rw [rootRef.root.property])
  unfold decode
  rw [if_neg (not_not.mpr rootRef.length_encode), first, second, toOctets_val, toOctets_val]
  rfl

theorem encode_of_decode {bytes : List UInt8} {rootRef : ProfileRootRef}
    (read : decode bytes = some rootRef) : rootRef.encode = bytes := by
  unfold decode at read
  split at read
  · cases read
  · rename_i length
    rcases Option.bind_eq_some_iff.mp read with ⟨storeId, first, read⟩
    rcases Option.bind_eq_some_iff.mp read with ⟨root, second, read⟩
    cases read
    unfold encode
    rw [<- eq_of_toOctets first, <- eq_of_toOctets second,
      slice_slice bytes (by decide) (by decide)]
    exact slice_whole (of_not_not length)

end ProfileRootRef

/-! ## Reading a counted list -/

namespace DistributorAnnounce

theorem length_encode (announce : DistributorAnnounce) :
    announce.encode.length = 32 + 2 + announce.launcherIds.length * 32 := by
  have each : announce.launcherIds.map (fun launcherId => launcherId.val.length) =
      announce.launcherIds.map fun _ => 32 :=
    List.map_congr_left fun launcherId _ => launcherId.property
  unfold encode
  rw [List.length_append, List.length_append, announce.storeId.property, length_bigEndian,
    List.length_flatMap, each, List.map_const', List.sum_replicate_nat, Nat.add_assoc]

theorem decode_encode {announce : DistributorAnnounce}
    (few : announce.launcherIds.length ≤ maxLauncherIdsPerAnnounce) :
    decode announce.encode = some announce := by
  have count : announce.launcherIds.length < 256 ^ 2 := Nat.lt_of_le_of_lt few (by decide)
  have launcherIds := ByteReader.Reads.many fun launcherId
    (_ : launcherId ∈ announce.launcherIds) => reads_take32 launcherId
  have all : readDistributorAnnounce.Reads announce.encode announce :=
    ByteReader.Reads.bind (reads_take32 announce.storeId)
      (ByteReader.Reads.bind (ByteReader.Reads.number count)
        (ByteReader.Reads.andThen (ByteReader.Reads.ensure few)
          (ByteReader.Reads.map launcherIds (DistributorAnnounce.mk announce.storeId))))
  exact all.whole

theorem yields_readDistributorAnnounce :
    readDistributorAnnounce.Yields fun announce used => used = announce.encode ∧
      announce.launcherIds.length ≤ maxLauncherIdsPerAnnounce := by
  apply ByteReader.Yields.bind yields_take32
  rintro storeId _ rfl
  apply ByteReader.Yields.bind (ByteReader.Yields.number 2)
  rintro count _ ⟨rfl, _⟩
  apply ByteReader.Yields.bind (ByteReader.Yields.ensure _)
  rintro _ _ ⟨rfl, few⟩
  apply ByteReader.Yields.bind (ByteReader.Yields.many yields_take32 count)
  rintro launcherIds _ ⟨rfl, rfl⟩
  apply ByteReader.Yields.pure
  rw [List.append_nil]
  exact ⟨rfl, few⟩

/-- What is read is within the cap, and is the encoding of what was read. -/
theorem encode_of_decode {bytes : List UInt8} {announce : DistributorAnnounce}
    (read : decode bytes = some announce) :
    announce.encode = bytes ∧ announce.launcherIds.length ≤ maxLauncherIdsPerAnnounce := by
  rcases yields_readDistributorAnnounce.whole read with ⟨encoded, few⟩
  exact ⟨encoded.symm, few⟩

end DistributorAnnounce

end Service
end DigGossip
