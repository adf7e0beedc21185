import Mathlib.Algebra.GroupWithZero.Nat
import Mathlib.Data.Fin.Basic
import DigGossip.Types.IpAddr

namespace DigGossip
namespace Types

/-!
# Identities and errors

A peer id is a digest of thirty-two octets, read here as a number so that its
order is the order of the octet strings.  An error that the source renders as
text keeps the values the text is made of.
-/

abbrev PeerId := Fin (2 ^ 256)

instance neZeroPeerIds : NeZero (2 ^ 256) := inferInstance

/-- `dig_nat::TraversalKind`: the tier of the dial ladder a session was reached over. -/
inductive TraversalKind where
  | direct
  | upnp
  | natPmp
  | pcp
  | holePunch
  | relayed
deriving DecidableEq

inductive OutboundDiversityConflict where
  | subnet
  | as
deriving DecidableEq

inductive DisplacementRefusal where
  | rateLimited (retryAfterSecs : Nat)
  | wouldBreachMinPeers
  | noIdleIncumbent
deriving DecidableEq

/-- What the text of a `ConnectionFiltered` error is made of. -/
inductive FilterReason where
  | diversity (kind : OutboundDiversityConflict) (ip : IpAddr)
  | relayedOutboundCap (cap : Nat)
  | poolFull (refusal : DisplacementRefusal)
  | victimNotHeld (victim : PeerId)
  | relayedCircuitOnDirectEntry
  | notARelayedCircuit (method : TraversalKind)
  | dialableSlotHeld (peerId : PeerId)
  | directSlotHeld (peerId : PeerId)
  | acceptedDirectCap (cap : Nat)
  | acceptedRelayedCap (cap : Nat)
  | acceptedInboundCap (cap : Nat)
  | sourceGroupCap (cap : Nat)
deriving DecidableEq

inductive GossipError where
  | invalidConfig (detail : String)
  | ioError (detail : String)
  | clientError (detail : String)
  | serviceNotStarted
  | peerNotConnected (peerId : PeerId)
  | peerBanned (peerId : PeerId)
  | maxConnectionsReached (maxConnections : Nat)
  | selfConnection
  | connectionFiltered (reason : FilterReason)
  | addressManagerStore (message : String)
deriving DecidableEq

end Types
end DigGossip
