import DigGossip.Service.Operations

namespace DigGossip
namespace Service

open Foundations DigGossip.Types

/-!
# Records of the held

The pool opens a usefulness record when an admission is announced and drops it
with the slot, in the same region.  Bans and keepalive teardowns take the slot
and leave the record, and an announcement may come after the peer has left.
Along the runs where neither happens the records stay within the peer map.
-/

/-- Every peer with a usefulness record holds a slot. -/
def RecordsAreHeld (s : ServiceState) : Prop :=
  forall peerId row, s.pool.activity.lookup peerId = some row ->
    (s.peers.lookup peerId).isSome = true

/-- A record is opened for a peer that holds a slot, and no slot is taken away
from under a record. -/
def recordsHeld (order : PeerId -> Nat) : Action -> ServiceState -> Bool
  | .peers region, s =>
      FiniteMap.countWhere s.pool.activity
        (fun peerId _ => region.forgets peerId (s.within order region).2) == 0
  | .recordAdmission peerId _, s => (s.peers.lookup peerId).isSome
  | _, _ => true

variable {order : PeerId -> Nat} {s : ServiceState}

theorem RecordsAreHeld.region (rule : RecordsAreHeld s) (region : PeersRegion)
    (holds : recordsHeld order (.peers region) s = true) :
    RecordsAreHeld (exec order (.peers region) s).1 := by
  intro peerId row found
  rcases within_leavesRecords order peerId region row found with ⟨before, keeps⟩
  rcases keeps (rule peerId row before) with held | forgot
  · exact held
  · have counted : 0 < FiniteMap.countWhere s.pool.activity
        (fun peerId _ => region.forgets peerId (s.within order region).2) :=
      FiniteMap.countWhere_pos before forgot
    rw [beq_iff_eq.mp holds] at counted
    cases counted

/-- The guards of the peers change records and open none. -/
theorem RecordsAreHeld.adjust (rule : RecordsAreHeld s) (peerId : PeerId)
    (change : ActivityRecord -> ActivityRecord) :
    RecordsAreHeld (s.adjustActivity peerId change) := by
  intro other row found
  simp only [ServiceState.adjustActivity, FiniteMap.lookup_adjust_eq] at found
  split at found
  · rename_i same
    rcases Option.map_eq_some_iff.mp found with ⟨old, before, _⟩
    subst same
    exact rule other old before
  · exact rule other row found

/-- One action that meets the condition keeps the records within the peer map. -/
theorem RecordsAreHeld.exec (rule : RecordsAreHeld s) (action : Action)
    (holds : recordsHeld order action s = true) :
    RecordsAreHeld (exec order action s).1 := by
  cases action with
  | peers region => exact rule.region region holds
  | recordAdmission peerId now =>
      intro other row found
      rcases FiniteMap.of_lookup_insert found with ⟨rfl, _⟩ | ⟨_, old⟩
      · exact holds
      · exact rule other row old
  | beginActivity peerId now => exact rule.adjust peerId _
  | endActivity peerId now => exact rule.adjust peerId _
  | tryAcquirePermit =>
      simp only [Service.exec]
      split
      · exact rule
      · exact rule
  | _ => exact rule

/-- Along every run that opens records only for held peers and takes no slot
from under a record, every peer with a record holds a slot, in every state. -/
theorem records_are_held (launch : Launch) (moves : List ServiceMove)
    (holds : launch.allows recordsHeld moves = true) :
    RecordsAreHeld (launch.after moves).shared := by
  have start : RecordsAreHeld launch.world.shared := by
    intro peerId row found
    have none : launch.world.shared.pool.activity.lookup peerId = none :=
      Finmap.lookup_empty peerId
    rw [none] at found
    cases found
  exact System.shared_invariant (fun order action s holds rule => rule.exec action holds) holds start

namespace Example

/-- Two peers are dialed and used; one is disconnected, and the other's
connection is superseded by a session. -/
def usedAndLeft : List ServiceMove :=
  inSequence 20 [
    connected 1 (host 10 1), connected 2 (host 20 1), .peerActivityGuard 1, .disconnect 1,
    .dropActivityGuard 1, .adoptNatConnection (direct 2)]

/-- A peer is dialed and banned. -/
def bannedWithRecord : List ServiceMove :=
  inSequence 20 [connected 1 (host 10 1), .banPeer 1]

end Example

theorem records_are_held_left : RecordsAreHeld (Example.launch.after Example.usedAndLeft).shared :=
  records_are_held Example.launch Example.usedAndLeft (by decide +kernel)

theorem records_are_held_fails :
    ¬ forall (launch : Launch) (moves : List ServiceMove),
      (launch.after moves).settled = true -> RecordsAreHeld (launch.after moves).shared := by
  intro always
  have rule := always Example.launch Example.bannedWithRecord (by decide +kernel)
  have recorded : (Example.launch.after Example.bannedWithRecord).shared.pool.activity.lookup 1 =
      some { admittedAt := 1000, lastActiveAt := 1000, inFlight := 0 } := by decide +kernel
  have gone : (Example.launch.after Example.bannedWithRecord).shared.peers.lookup 1 = none := by
    decide +kernel
  have held := rule 1 _ recorded
  rw [gone] at held
  cases held

end Service
end DigGossip
