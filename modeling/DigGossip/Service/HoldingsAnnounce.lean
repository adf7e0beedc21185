import DigGossip.Foundations.Bytes
import DigGossip.Foundations.Hexadecimal
import DigGossip.Types.Peer

namespace DigGossip
namespace Service

open Foundations DigGossip.Types

/-!
# Holdings announcements

The signed batch of changes that a provider floods, its bytes on the wire, the
message that is signed, and the gate that a receiver puts before the batch.  The
key libraries are parameters: the digest of a key, the reading of a key in DER
and the verification of a signature.
-/

def maxChanges : Nat := 256
def maxAnnounceFrameBytes : Nat := 128 * 1024
def maxAddrsPerChange : Nat := 32
def maxHostLen : Nat := 253
def peerIdHexLen : Nat := 64

def kindAdd : UInt8 := 0x01
def kindRemove : UInt8 := 0x02

/-- `SIG_DOMAIN_TAG`: the bytes of `dig:holdings:v1`. -/
def sigDomainTag : List UInt8 :=
  [100, 105, 103, 58, 104, 111, 108, 100, 105, 110, 103, 115, 58, 118, 49]

abbrev Bytes32 := { bytes : List UInt8 // bytes.length = 32 }

structure CandidateAddr where
  host : String
  port : UInt16
deriving DecidableEq

inductive HoldingsDelta where
  | add (contentKey : Bytes32) (addresses : List CandidateAddr) (expiresAt : UInt64)
  | remove (contentKey : Bytes32)
deriving DecidableEq

structure HoldingsAnnounce where
  providerPeerId : String
  providerSpki : List UInt8
  seq : UInt64
  announcedAt : UInt64
  changes : List HoldingsDelta
  signature : List UInt8
deriving DecidableEq

inductive HoldingsError where
  | tooManyChanges (count : Nat)
  | announceTooLarge (bytes : Nat)
  | tooManyAddresses (count : Nat)
  | hostTooLong (len : Nat)
  | badPeerIdHex
  | badSpki
  | peerIdMismatch
  | invalidSignature
deriving DecidableEq

structure HoldingsSigner where
  sign : List UInt8 -> List UInt8
  spkiDer : List UInt8

/-! ## The key libraries -/

abbrev Oid := List Nat

/-- `id-ecPublicKey`. -/
def oidKeyTypeEcPublicKey : Oid := [1, 2, 840, 10045, 2, 1]

/-- `prime256v1`. -/
def oidEcP256 : Oid := [1, 2, 840, 10045, 3, 1, 7]

/-- A key as it was read; its parameters may be absent, and may be no identifier. -/
structure SubjectPublicKeyInfo where
  algorithm : Oid
  parameters : Option (Option Oid)
  subjectPublicKey : List UInt8

structure KeyLibraries where
  peerIdFromTlsSpkiDer : List UInt8 -> Bytes32
  /-- The key at the front of the bytes, behind the bytes that are left. -/
  fromDer : List UInt8 -> Option (List UInt8 × SubjectPublicKeyInfo)
  verifyEcdsa : (point message signature : List UInt8) -> Bool

/-! ## Writing -/

/-- A byte string behind its length in sixteen bits; a longer length is cut. -/
def putBytes (bytes : List UInt8) : List UInt8 :=
  bigEndian 2 bytes.length ++ bytes

def encodeAddr (addr : CandidateAddr) : List UInt8 :=
  putBytes (utf8Bytes addr.host) ++ bigEndian 2 addr.port.toNat

/-- The bytes of one change in `canonical_encode`. -/
def encodeDelta : HoldingsDelta -> List UInt8
  | .add contentKey addresses expiresAt =>
      [kindAdd] ++ (contentKey.val ++ (bigEndian 2 addresses.length ++
        (addresses.flatMap encodeAddr ++ bigEndian 8 expiresAt.toNat)))
  | .remove contentKey => [kindRemove] ++ contentKey.val

def canonicalEncode (changes : List HoldingsDelta) : List UInt8 :=
  changes.flatMap encodeDelta

def holdingsSigningMessage (providerPeerId : Bytes32) (seq announcedAt : UInt64)
    (changes : List HoldingsDelta) : List UInt8 :=
  sigDomainTag ++ (providerPeerId.val ++ (bigEndian 8 seq.toNat ++
    (bigEndian 8 announcedAt.toNat ++ canonicalEncode changes)))

def HoldingsAnnounce.encode (announce : HoldingsAnnounce) : List UInt8 :=
  putBytes (utf8Bytes announce.providerPeerId) ++ (putBytes announce.providerSpki ++
    (bigEndian 8 announce.seq.toNat ++ (bigEndian 8 announce.announcedAt.toNat ++
      (bigEndian 2 announce.changes.length ++ (canonicalEncode announce.changes ++
        putBytes announce.signature)))))

/-! ## Reading -/

def takeBytes : ByteReader (List UInt8) := do
  let len <- ByteReader.number 2
  ByteReader.take len

def takeU16 : ByteReader UInt16 := do
  let value <- ByteReader.number 2
  return UInt16.ofNat value

def takeU64 : ByteReader UInt64 := do
  let value <- ByteReader.number 8
  return UInt64.ofNat value

def toBytes32 (bytes : List UInt8) : Option Bytes32 :=
  if exact : bytes.length = 32 then some ⟨bytes, exact⟩ else none

def take32 : ByteReader Bytes32 := do
  let bytes <- ByteReader.take 32
  ByteReader.ofOption (toBytes32 bytes)

def takeText : ByteReader String := do
  let bytes <- takeBytes
  ByteReader.ofOption (fromUtf8 bytes)

def takeAddr : ByteReader CandidateAddr := do
  let host <- takeText
  let port <- takeU16
  return { host, port }

/-- The rest of an addition, behind its key. -/
def decodeAdd (contentKey : Bytes32) : ByteReader HoldingsDelta := do
  let addrCount <- ByteReader.number 2
  ByteReader.ensure (addrCount ≤ maxAddrsPerChange)
  let addresses <- ByteReader.many takeAddr addrCount
  let expiresAt <- takeU64
  return .add contentKey addresses expiresAt

def decodeDelta : ByteReader HoldingsDelta := do
  let kind <- ByteReader.byte
  let contentKey <- take32
  if kind = kindAdd then decodeAdd contentKey
  else if kind = kindRemove then pure (.remove contentKey)
  else ByteReader.ofOption none

def readAnnounce : ByteReader HoldingsAnnounce := do
  let providerPeerId <- takeText
  let providerSpki <- takeBytes
  let seq <- takeU64
  let announcedAt <- takeU64
  let changeCount <- ByteReader.number 2
  ByteReader.ensure (changeCount ≤ maxChanges)
  let changes <- ByteReader.many decodeDelta changeCount
  let signature <- takeBytes
  return { providerPeerId, providerSpki, seq, announcedAt, changes, signature }

/-- `decode`: bytes behind the announcement are refused. -/
def HoldingsAnnounce.decode (bytes : List UInt8) : Option HoldingsAnnounce :=
  readAnnounce.whole bytes

/-! ## Building and verifying -/

def peerIdHex (peerId : Bytes32) : String :=
  asciiText (Hexadecimal.encode peerId.val)

def decodePeerId (hexId : String) : Except HoldingsError Bytes32 :=
  if (utf8Bytes hexId).length ≠ peerIdHexLen then .error .badPeerIdHex
  else
    match (Hexadecimal.decode (utf8Bytes hexId)).bind toBytes32 with
    | some peerId => .ok peerId
    | none => .error .badPeerIdHex

def p256PointFromSpki (keys : KeyLibraries) (spki : List UInt8) :
    Except HoldingsError (List UInt8) :=
  match keys.fromDer spki with
  | none => .error .badSpki
  | some (_, info) =>
      if info.algorithm ≠ oidKeyTypeEcPublicKey then .error .badSpki
      else
        match info.parameters.join with
        | none => .error .badSpki
        | some curve =>
            if curve ≠ oidEcP256 then .error .badSpki else .ok info.subjectPublicKey

def checkHost (addr : CandidateAddr) : Except HoldingsError Unit :=
  let len := (utf8Bytes addr.host).length
  if maxHostLen < len then .error (.hostTooLong len) else .ok ()

def checkDelta : HoldingsDelta -> Except HoldingsError Unit
  | .add _ addresses _ =>
      if maxAddrsPerChange < addresses.length then .error (.tooManyAddresses addresses.length)
      else addresses.forM checkHost
  | .remove _ => .ok ()

/-- The bounds on the parts first, in order, then the bound on the frame. -/
def checkAnnounceSize (changes : List HoldingsDelta) (encodedFrameLen : Nat) :
    Except HoldingsError Unit := do
  changes.forM checkDelta
  if maxAnnounceFrameBytes < encodedFrameLen then .error (.announceTooLarge encodedFrameLen)
  else .ok ()

/-- The announcement that `new_signed` builds before it checks the size. -/
def signedAnnounce (keys : KeyLibraries) (signer : HoldingsSigner) (seq announcedAt : UInt64)
    (changes : List HoldingsDelta) : HoldingsAnnounce :=
  let peerId := keys.peerIdFromTlsSpkiDer signer.spkiDer
  { providerPeerId := peerIdHex peerId
    providerSpki := signer.spkiDer
    seq := seq
    announcedAt := announcedAt
    changes := changes
    signature := signer.sign (holdingsSigningMessage peerId seq announcedAt changes) }

def newSigned (keys : KeyLibraries) (signer : HoldingsSigner) (seq announcedAt : UInt64)
    (changes : List HoldingsDelta) : Except HoldingsError HoldingsAnnounce :=
  if maxChanges < changes.length then .error (.tooManyChanges changes.length)
  else do
    let announce := signedAnnounce keys signer seq announcedAt changes
    checkAnnounceSize announce.changes announce.encode.length
    return announce

def verifyHoldingsAnnounce (keys : KeyLibraries) (announce : HoldingsAnnounce) :
    Except HoldingsError Unit :=
  if maxChanges < announce.changes.length then .error (.tooManyChanges announce.changes.length)
  else do
    checkAnnounceSize announce.changes announce.encode.length
    let peerId <- decodePeerId announce.providerPeerId
    let spkiPeerId := keys.peerIdFromTlsSpkiDer announce.providerSpki
    if spkiPeerId ≠ peerId then .error .peerIdMismatch
    else do
      let ecPoint <- p256PointFromSpki keys announce.providerSpki
      let message := holdingsSigningMessage peerId announce.seq announce.announcedAt
        announce.changes
      if keys.verifyEcdsa ecPoint message announce.signature then .ok ()
      else .error .invalidSignature

end Service
end DigGossip
