import DigGossip.Service.Operations

namespace DigGossip
namespace Service

open Foundations DigGossip.Types
open Program (Only)

/-!
# Footprints

Which actions the shared parts of the operations may do.  A part whose actions
a ledger does not look at leaves that ledger as it is.
-/

/-- The actions that lift expired rows. -/
def Action.isLift : Action -> Bool
  | pruneBanned _ | unbanIp _ | removePenalty _ => true
  | _ => false

/-- The actions that lift expired rows and look a row up. -/
def Action.isBanUpkeep : Action -> Bool
  | pruneBanned _ | unbanIp _ | removePenalty _ | bannedContains _ => true
  | _ => false

theorem Action.isBanUpkeep_of_isLift {action : Action} (only : action.isLift = true) :
    action.isBanUpkeep = true := by
  cases action <;> first | rfl | cases only

theorem only_unbanHost (ip : IpAddr) : Only Action.isLift (unbanHost ip) := by
  unfold unbanHost
  split
  · exact Only.pure ()
  · exact Only.perform rfl

theorem only_unbanExpired (expired : List (PeerId × IpAddr)) :
    Only Action.isLift (unbanExpired expired) := by
  induction expired with
  | nil => exact Only.pure ()
  | cons first rest inner =>
      exact (only_unbanHost first.2).bind fun _ => Only.bind (Only.perform rfl) fun _ => inner

theorem only_pruneExpiredDigBans (now : Nat) : Only Action.isLift (pruneExpiredDigBans now) :=
  Only.bind (Only.perform rfl) only_unbanExpired

theorem only_isPeerIdBannedAt (peerId : PeerId) (now : Nat) :
    Only Action.isBanUpkeep (isPeerIdBannedAt peerId now) :=
  ((only_pruneExpiredDigBans now).mono fun _ => Action.isBanUpkeep_of_isLift).bind fun _ =>
    Only.perform rfl

/-- The actions that record a row and ban its address. -/
def Action.isBanRecord : Action -> Bool
  | insertBan _ _ | banIp _ => true
  | _ => false

theorem only_executeDigTimedBan (peerId : PeerId) (ip : IpAddr) (now : Nat) :
    Only Action.isBanRecord (executeDigTimedBan peerId ip now) := by
  refine Only.bind (Only.perform rfl) fun _ => ?_
  split
  · exact Only.pure ()
  · exact Only.perform rfl

def Action.isEffect : Action -> Bool
  | effect _ => true
  | _ => false

theorem only_closeLive (slot : LiveSlot) : Only Action.isEffect (closeLive slot) :=
  Only.bind (Only.perform rfl) fun _ => Only.perform rfl

theorem only_retireLive (removed : Option PeerSlot) :
    Only Action.isEffect (retireLive removed) := by
  unfold retireLive
  split
  · exact only_closeLive _
  · exact Only.pure ()
  · exact Only.pure ()
  · exact Only.pure ()

/-- The actions that neither count the peers nor touch a reservation, and that
change no slot of the peer map. -/
def Action.isAside : Action -> Bool
  | peers (.containsKey _) => true
  | peers _ | inFlightCount | reserve _ | release _ => false
  | _ => true

/-- The actions that announce a peer or take it out of the tree. -/
def Action.isAnnouncement : Action -> Bool
  | readClock | recordAdmission _ _ | sendEvent _ | tree _ _ => true
  | peers (.containsKey _) => true
  | _ => false

theorem only_publish (event : PoolEvent) : Only Action.isAnnouncement (publish event) := by
  cases event with
  | peerAdded peerId addr =>
      exact Only.bind (Only.perform rfl) fun _ => Only.bind (Only.perform rfl) fun _ =>
        Only.perform rfl
  | peerRemoved peerId reason => exact Only.perform rfl

theorem only_removeFromPlumtree (peerId : PeerId) :
    Only Action.isAnnouncement (removeFromPlumtreeUnlessReconnected peerId) := by
  refine Only.bind (Only.perform rfl) fun held => ?_
  split
  · exact Only.pure ()
  · exact Only.perform rfl

theorem only_announceReaped (reaped : List PeerId) :
    Only Action.isAnnouncement (announceReaped reaped) := by
  induction reaped with
  | nil => exact Only.pure ()
  | cons peerId rest inner =>
      exact (only_publish _).bind fun _ => (only_removeFromPlumtree peerId).bind fun _ => inner

theorem only_retireSlot (slot : PeerSlot) : Only Action.isEffect (retireSlot slot) := by
  cases slot with
  | live slot => exact only_closeLive slot
  | nat slot =>
      rcases slot with ⟨conn, sink, remote, isOutbound, method⟩
      cases conn with
      | observed session => exact Only.perform rfl
      | owned session => exact Only.pure ()
  | stub peer => exact Only.pure ()

theorem only_retireSuperseded (superseded : Option PeerSlot) :
    Only Action.isEffect (retireSuperseded superseded) := by
  cases superseded with
  | none => exact Only.pure ()
  | some stale => exact only_retireSlot stale

theorem Action.isAside_of_isEffect {action : Action} (only : action.isEffect = true) :
    action.isAside = true := by
  cases action <;> first | rfl | cases only

theorem Action.isAside_of_isBanUpkeep {action : Action} (only : action.isBanUpkeep = true) :
    action.isAside = true := by
  cases action <;> first | rfl | cases only

theorem Action.isAside_of_isAnnouncement {action : Action}
    (only : action.isAnnouncement = true) : action.isAside = true := by
  cases action with
  | peers region => cases region <;> first | rfl | cases only
  | _ => first | rfl | cases only

theorem only_joinPool (peerId : PeerId) (addr : SocketAddr) (superseded : Option PeerSlot) :
    Only Action.isAside (joinPool peerId addr superseded) := by
  have retired : Only Action.isAside (retireSuperseded superseded) :=
    (only_retireSuperseded superseded).mono fun _ => Action.isAside_of_isEffect
  refine retired.bind fun _ => Only.bind (Only.perform rfl) fun _ => ?_
  refine Only.bind (Only.perform rfl) fun _ => ?_
  exact (only_publish _).mono fun _ => Action.isAside_of_isAnnouncement

theorem only_announceDisplaced (displaced : Option (PeerId × PeerSlot)) :
    Only Action.isAside (announceDisplaced displaced) := by
  cases displaced with
  | none => exact Only.pure ()
  | some cycled =>
      have retired : Only Action.isAside (retireSlot cycled.2) :=
        (only_retireSlot cycled.2).mono fun _ => Action.isAside_of_isEffect
      refine retired.bind fun _ => Only.mono ?_ fun _ => Action.isAside_of_isAnnouncement
      exact (only_publish _).bind fun _ => only_removeFromPlumtree cycled.1

end Service
end DigGossip
