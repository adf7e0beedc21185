import Mathlib.Algebra.GroupWithZero.Nat
import DigGossip.Types.IpAddr

namespace DigGossip
namespace Types

/-!
# Address-book rows

The rows of the address manager and the bucket arithmetic that places them.
The digest is a parameter: nothing below depends on which function it is.
Clock readings and other sixty-four bit quantities are natural numbers; the
saturating operations that could reach a word's end say so.
-/

/-- `Sha256::digest`. -/
abbrev Digest := List UInt8 -> Vector UInt8 32

abbrev Key := Vector UInt8 32

def triedBucketsPerGroup : Nat := 8
def newBucketsPerSourceGroup : Nat := 64
def triedBucketCount : Nat := 256
def newBucketCount : Nat := 1024
def bucketSize : Nat := 64
def newBucketsPerAddress : Nat := 8
def horizonDays : Nat := 30
def maxRetries : Nat := 3
def minFailDays : Nat := 7
def maxFailures : Nat := 10

instance : NeZero newBucketCount := ⟨by decide⟩
instance : NeZero triedBucketCount := ⟨by decide⟩
instance : NeZero bucketSize := ⟨by decide⟩

def u32Max : Nat := 4294967295
def u64Max : Nat := 18446744073709551615

/-- `saturating_add` in a word whose greatest value is `max`. -/
def saturatingAdd (max left right : Nat) : Nat :=
  Nat.min (left + right) max

structure PeerInfo where
  host : String
  port : UInt16
deriving DecidableEq

def utf8Bytes (text : String) : List UInt8 :=
  text.toUTF8.data.toList

/-- `String::from_utf8`. -/
def fromUtf8 (bytes : List UInt8) : Option String :=
  String.fromUTF8? ⟨bytes.toArray⟩

theorem fromUtf8_utf8Bytes (text : String) : fromUtf8 (utf8Bytes text) = some text := by
  have valid : text.toUTF8.IsValidUTF8 := text.isValidUTF8
  show (if valid : text.toUTF8.IsValidUTF8 then some (String.fromUTF8 text.toUTF8 valid) else none) = _
  rw [dif_pos valid]
  rfl

theorem utf8Bytes_of_fromUtf8 {bytes : List UInt8} {text : String}
    (read : fromUtf8 bytes = some text) : utf8Bytes text = bytes := by
  unfold fromUtf8 String.fromUTF8? at read
  split at read
  · cases read
    rfl
  · cases read

theorem utf8Bytes_injective {first second : String} (same : utf8Bytes first = utf8Bytes second) :
    first = second := by
  have read := congrArg fromUtf8 same
  rw [fromUtf8_utf8Bytes, fromUtf8_utf8Bytes] at read
  exact Option.some.inj read

/-- The text of bytes below 128. -/
def asciiText (bytes : List UInt8) : String :=
  String.ofList (bytes.map fun byte => Char.ofNat byte.toNat)

theorem utf8Bytes_asciiText {bytes : List UInt8} (ascii : ∀ byte ∈ bytes, byte.toNat < 128) :
    utf8Bytes (asciiText bytes) = bytes := by
  have single : forall value, value < 128 ->
      String.utf8EncodeChar (Char.ofNat value) = [UInt8.ofNat value] := by decide
  have encoded : (bytes.map fun byte => Char.ofNat byte.toNat).flatMap String.utf8EncodeChar =
      bytes := by
    induction bytes with
    | nil => rfl
    | cons byte rest inner =>
        rw [List.map_cons, List.flatMap_cons, single _ (ascii byte List.mem_cons_self),
          UInt8.ofNat_toNat, inner fun other member => ascii other (List.mem_cons_of_mem _ member)]
        rfl
  unfold utf8Bytes asciiText
  rw [String.toUTF8_eq_toByteArray, String.toByteArray_ofList, List.utf8Encode, encoded,
    List.data_toByteArray]

/-- `u16::to_be_bytes`. -/
def portBytes (port : UInt16) : List UInt8 :=
  [(port >>> 8).toUInt8, port.toUInt8]

namespace PeerInfo

variable (sha256 : Digest)

/-- `get_group`: two octets of an IPv4 address, four of an IPv6 address, four
digest bytes of a host name. -/
def getGroup (peer : PeerInfo) : List UInt8 :=
  match parseIpAddr peer.host with
  | some ip =>
      match normalizeIp ip with
      | .v4 bits => (octetsOf 4 bits).take 2
      | .v6 bits => (octetsOf 16 bits).take 4
  | none => (sha256 (utf8Bytes peer.host)).toList.take 4

/-- `get_key`: the address octets, or the digest of a host name, and the port. -/
def getKey (peer : PeerInfo) : List UInt8 :=
  match parseIpAddr peer.host with
  | some ip =>
      match normalizeIp ip with
      | .v4 bits => octetsOf 4 bits ++ portBytes peer.port
      | .v6 bits => octetsOf 16 bits ++ portBytes peer.port
  | none => (sha256 (utf8Bytes peer.host)).toList ++ portBytes peer.port

end PeerInfo

structure TimestampedPeerInfo where
  host : String
  port : UInt16
  timestamp : Nat
deriving DecidableEq

structure ExtendedPeerInfo where
  peerInfo : PeerInfo
  timestamp : Nat
  src : PeerInfo
  randomPos : Option Nat
  isTried : Bool
  refCount : Nat
  lastSuccess : Nat
  lastTry : Nat
  numAttempts : Nat
  lastCountAttempt : Nat
deriving DecidableEq

/-- `chia_std_hash_u64_prefix`: the first eight digest bytes, big-endian. -/
def chiaStdHashU64Prefix (sha256 : Digest) (data : List UInt8) : Nat :=
  ((sha256 data).toList.take 8).foldl (fun value byte => value * 256 + byte.toNat) 0

namespace ExtendedPeerInfo

/-- `is_terrible`: the row may be replaced when its cell is wanted. -/
def isTerrible (row : ExtendedPeerInfo) (now : Nat) : Bool :=
  if 0 < row.lastTry ∧ now - 60 ≤ row.lastTry then false
  else if saturatingAdd u64Max now (10 * 60) < row.timestamp then true
  else if row.timestamp = 0 ∨ horizonDays * 24 * 60 * 60 < now - row.timestamp then true
  else if row.lastSuccess = 0 ∧ maxRetries ≤ row.numAttempts then true
  else if minFailDays * 24 * 60 * 60 < now - row.lastSuccess ∧
      maxFailures ≤ row.numAttempts then true
  else false

variable (sha256 : Digest)

/-- `tried_bucket_index`. -/
def triedBucketIndex (row : ExtendedPeerInfo) (key : Key) : Fin triedBucketCount :=
  let peer := row.peerInfo
  let hash1 := chiaStdHashU64Prefix sha256 (key.toList ++ peer.getKey sha256) %
    triedBucketsPerGroup
  let hash2 := chiaStdHashU64Prefix sha256
    (key.toList ++ peer.getGroup sha256 ++ [UInt8.ofNat hash1])
  ⟨hash2 % triedBucketCount, Nat.mod_lt _ (by decide)⟩

/-- `new_bucket_index`: the new-table bucket for a source's attribution. -/
def newBucketIndex (row : ExtendedPeerInfo) (key : Key) (source : PeerInfo) :
    Fin newBucketCount :=
  let hash1 := chiaStdHashU64Prefix sha256
      (key.toList ++ row.peerInfo.getGroup sha256 ++ source.getGroup sha256) %
    newBucketsPerSourceGroup
  let hash2 := chiaStdHashU64Prefix sha256
    (key.toList ++ source.getGroup sha256 ++ [UInt8.ofNat hash1])
  ⟨hash2 % newBucketCount, Nat.mod_lt _ (by decide)⟩

/-- `bucket_position`: the slot of a row within a bucket. -/
def bucketPosition (row : ExtendedPeerInfo) (key : Key) (isNew : Bool) (bucket : Nat) :
    Fin bucketSize :=
  let letter : UInt8 := if isNew then 78 else 75
  let bucketBytes : List UInt8 :=
    [UInt8.ofNat (bucket / 65536), UInt8.ofNat (bucket / 256), UInt8.ofNat bucket]
  let hash := chiaStdHashU64Prefix sha256
    (key.toList ++ [letter] ++ bucketBytes ++ row.peerInfo.getKey sha256)
  ⟨hash % bucketSize, Nat.mod_lt _ (by decide)⟩

/-- The tried cell a row belongs in. -/
def triedSlot (row : ExtendedPeerInfo) (key : Key) : Fin triedBucketCount × Fin bucketSize :=
  let bucket := row.triedBucketIndex sha256 key
  (bucket, row.bucketPosition sha256 key false bucket)

end ExtendedPeerInfo

end Types
end DigGossip
