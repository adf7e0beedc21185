import DigGossip.Types.Error
import DigGossip.Types.Peer

namespace DigGossip
namespace Types

/-!
# Discovered peers

The record that both sources of discovery are brought to, and what the address
book and the pool read from it.
-/

/-- How a candidate address was learned. -/
inductive AddressKind where
  | direct
  | reflexive
  | mapped
  | relay
deriving DecidableEq

namespace AddressKind

/-- Lower is more direct. -/
def rank : AddressKind -> Nat
  | direct => 0
  | mapped => 1
  | reflexive => 2
  | relay => 3

def isDialable : AddressKind -> Bool
  | relay => false
  | direct | reflexive | mapped => true

end AddressKind

inductive Via where
  | direct
  | relay
deriving DecidableEq

structure PeerAddress where
  host : String
  port : UInt16
  kind : AddressKind
deriving DecidableEq

structure PeerRecord where
  peerId : String
  addresses : List PeerAddress
  networkId : String
  lastSeen : Nat
  via : Via
deriving DecidableEq

/-- `dig_nat::wire::RelayPeerInfo`: a peer as the relay reports it. -/
structure RelayPeerInfo where
  peerId : String
  networkId : String
  lastSeen : Nat
  addresses : List SocketAddr
deriving DecidableEq

/-- The stable order of the candidates: IPv6 before IPv4.  Which is which is for
the address library to say. -/
def ipv6First (isV6 : SocketAddr -> Bool) (addresses : List SocketAddr) : List SocketAddr :=
  addresses.filter isV6 ++ addresses.filter fun addr => !isV6 addr

namespace PeerRecord

/-- `from_nat_relay_peer_info`: without an address the peer is known by its identity only. -/
def fromNatRelayPeerInfo (isV6 : SocketAddr -> Bool) (info : RelayPeerInfo) : PeerRecord :=
  if info.addresses.isEmpty then
    { peerId := info.peerId, addresses := [], networkId := info.networkId
      lastSeen := info.lastSeen, via := .relay }
  else
    { peerId := info.peerId
      addresses := (ipv6First isV6 info.addresses).map fun addr =>
        { host := ipText addr.ip, port := addr.port, kind := .direct }
      networkId := info.networkId
      lastSeen := info.lastSeen
      via := .direct }

/-- The first of the dialable addresses of least rank. -/
def bestAddress (record : PeerRecord) : Option PeerAddress :=
  (record.addresses.filter fun address => address.kind.isDialable).foldl
    (fun best address =>
      match best with
      | none => some address
      | some held => if address.kind.rank < held.kind.rank then some address else some held) none

/-- `to_timestamped_peer_info`: a relay-only record has no row in the address book. -/
def toTimestampedPeerInfo (record : PeerRecord) : Option TimestampedPeerInfo :=
  record.bestAddress.map fun address =>
    { host := address.host, port := address.port, timestamp := record.lastSeen }

end PeerRecord

/-! ## Spellings of a peer id -/

/-- `strip_prefix("0x")`, where there is one. -/
def stripHexPrefix : List Char -> List Char
  | '0' :: 'x' :: rest => rest
  | id => id

/-- `normalize_peer_id_hex`. -/
def normalizePeerIdHex (id : String) : String :=
  String.ofList ((stripHexPrefix id.toList).map Char.toLower)

/-- The number that hexadecimal digits spell, if they are digits all of them. -/
def readHex : List UInt8 -> Nat -> Option Nat
  | [], value => some value
  | byte :: rest, value =>
      match Parser.toDigit 16 (Char.ofNat byte.toNat) with
      | some digit => readHex rest (value * 16 + digit)
      | none => none

/-- `peer_id_from_hex`: sixty-four digits in either case, with or without a prefix. -/
def peerIdFromHex (id : String) : Option PeerId :=
  let bytes := utf8Bytes (String.ofList (stripHexPrefix id.toList))
  if bytes.length ≠ 64 then none
  else (readHex bytes 0).map (Fin.ofNat (2 ^ 256))

end Types
end DigGossip
