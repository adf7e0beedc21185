import DigGossip.Service.InboundCaps

namespace DigGossip
namespace Service

open Foundations DigGossip.Types

/-!
# The connection ceiling

The four NAT admissions decide their insertion under the lock that inserts.
`connect_to` and the TLS listener read the number of entries before they dial
or negotiate and insert afterwards without looking again, so the ceiling
holds along the runs in which what they read is still true.
-/

/-- An insertion that is not checked finds the map below the ceiling, or the
peer in it already. -/
def insertsBelowCeiling (s : ServiceState) : PeersRegion -> Bool
  | .admitLive peerId remote _ _ =>
      (s.peers.lookup peerId).isSome ||
        (outboundDiversityConflict s.peers s.asTable peerId remote.ip false).isSome ||
        decide (FiniteMap.size s.peers < s.config.maxConnections)
  | .insertLive peerId _ _ _ =>
      (s.peers.lookup peerId).isSome ||
        decide (FiniteMap.size s.peers < s.config.maxConnections)
  | _ => true

variable {s : ServiceState}

/-- A NAT admission fits into the map it inserts into. -/
theorem fits_of_madeRoom {conn : NatConnection} {source : AdmissionSource} {room : Peers}
    {displaced : Option (PeerId × PeerSlot)} (allowed : s.refuseNat conn source = none)
    (made : MadeRoom s conn.peerId source room displaced)
    (capped : FiniteMap.size s.peers ≤ s.config.maxConnections) :
    (s.peers.lookup conn.peerId).isSome = true ∨ FiniteMap.size room < s.config.maxConnections := by
  cases made with
  | kept fits =>
      rcases fits with held | maintained | below
      · exact Or.inl held
      · unfold ServiceState.refuseNat at allowed
        split at allowed
        · cases allowed
        · rename_i spare
          apply room_of_not
          intro full
          exact spare ⟨full.1, maintained, full.2⟩
      · exact Or.inr below
  | cycled unheld found =>
      have counted := FiniteMap.size_erase_of_lookup found
      right
      omega

/-- Every admission that meets the condition fits. -/
theorem fits_of_admits {region : PeersRegion} {room : Peers} {peerId : PeerId} {slot : PeerSlot}
    (below : insertsBelowCeiling s region = true) (admits : Admits s region room peerId slot)
    (capped : FiniteMap.size s.peers ≤ s.config.maxConnections) :
    (s.peers.lookup peerId).isSome = true ∨ FiniteMap.size room < s.config.maxConnections := by
  cases admits with
  | @live peerId remote link generation allowed =>
      rcases allowed with reconnect | clear
      · exact Or.inl (Option.isSome_of_any reconnect)
      · simp only [insertsBelowCeiling, clear, Option.isSome_none, Bool.or_false, Bool.or_eq_true,
          decide_eq_true_eq] at below
        exact below
  | tls =>
      simp only [insertsBelowCeiling, Bool.or_eq_true, decide_eq_true_eq] at below
      exact below
  | nat allowed made => exact fits_of_madeRoom allowed made capped
  | direct allowed => exact (directCharged_of_allowed allowed).room
  | relayed allowed => exact (relayedCharged_of_allowed allowed).room

/-- Along every run whose unchecked insertions find the map below the ceiling,
the map stays within it. -/
theorem connections_capped (launch : Launch) (moves : List ServiceMove)
    (below : launch.allows (onRegion insertsBelowCeiling) moves = true) :
    FiniteMap.size (launch.after moves).shared.peers ≤ launch.config.maxConnections := by
  let Capped := fun peers : Peers => FiniteMap.size peers ≤ launch.config.maxConnections
  suffices kept : forall s region after, s.config = launch.config -> s.asTable = launch.asTable ->
      insertsBelowCeiling s region = true -> Capped s.peers -> PeersChange s region after ->
      Capped after from peers_invariant kept (Nat.zero_le _) below
  intro s region after config _ below capped change
  have sized : forall peers : Peers, FiniteMap.size peers = slotCount peers fun _ => true :=
    FiniteMap.size_eq_countWhere
  simp only [Capped, <- config] at capped ⊢
  rw [sized] at capped ⊢
  apply slotCount_change capped change fun _ _ => rfl
  intro room peerId slot admits _
  rw [<- sized] at capped ⊢
  rcases fits_of_admits below admits capped with held | fits
  · left
    rw [<- held]
    cases s.peers.lookup peerId <;> rfl
  · exact Or.inr fits

namespace Example

/-- A pool of two connections. -/
def smallLaunch : Launch := { launch with config := { config with maxConnections := 2 } }

/-- Three dials that all read the empty map before any of them inserts. -/
def simultaneous : List ServiceMove :=
  [1, 2, 3].map (fun peerId => .spawn (connected peerId (host peerId.val 1))) ++
    (List.replicate 20 [0, 1, 2]).flatten.map fun thread => .advance thread fun _ => 0

/-- Three dials one after the other. -/
def successive : List ServiceMove :=
  inSequence 20 ([1, 2, 3].map fun peerId => connected peerId (host peerId.val 1))

end Example

theorem connections_capped_successive :
    FiniteMap.size (Example.smallLaunch.after Example.successive).shared.peers ≤ 2 :=
  connections_capped Example.smallLaunch Example.successive (by decide +kernel)

theorem connections_capped_fails :
    ¬ forall (launch : Launch) (moves : List ServiceMove),
      FiniteMap.size (launch.after moves).shared.peers ≤ launch.config.maxConnections := by
  intro always
  have capped := always Example.smallLaunch Example.simultaneous
  have three : FiniteMap.size (Example.smallLaunch.after Example.simultaneous).shared.peers = 3 := by
    decide +kernel
  have two : Example.smallLaunch.config.maxConnections = 2 := rfl
  omega

end Service
end DigGossip
