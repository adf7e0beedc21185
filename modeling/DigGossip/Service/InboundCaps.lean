import DigGossip.Service.Caps

namespace DigGossip
namespace Service

open Foundations DigGossip.Types

/-!
# Inbound admission caps

Accepted sessions are counted by tier, by source group and in all.  An
adoption is exempt from a count only when the peer's own slot is already in
it, so each count moves as its cap allows whatever slot is replaced.
-/

/-- The accepted direct slots of one source group. -/
def isAcceptedFrom (group : InboundSourceGroup) (slot : PeerSlot) : Bool :=
  isAcceptedDirect slot && inboundSourceGroup slot.remote.ip == group

/-- The caps for this many connections; every inbound slot is an accepted session. -/
structure InboundCapped (maxConnections : Nat) (peers : Peers) : Prop where
  accepted : forall peerId slot, peers.lookup peerId = some slot -> slot.isOutbound = false ->
    isAcceptedInbound slot = true
  direct : slotCount peers isAcceptedDirect ≤ maxDirectInbound maxConnections
  relayed : slotCount peers isAcceptedRelayed ≤ maxRelayedInbound maxConnections
  total : slotCount peers isAcceptedInbound ≤ maxInboundTotal maxConnections
  group : forall group, slotCount peers (isAcceptedFrom group) ≤
    maxDirectInboundPerGroup maxConnections

/-- No inbound peer enters but through an adoption. -/
def entersByAdoption (_ : ServiceState) : PeersRegion -> Bool
  | .insertLive _ _ _ _ => false
  | _ => true

theorem inboundCapped_empty (maxConnections : Nat) : InboundCapped maxConnections ∅ where
  accepted := by
    intro peerId slot found
    rw [Finmap.lookup_empty] at found
    cases found
  direct := (slotCount_empty _).trans_le (Nat.zero_le _)
  relayed := (slotCount_empty _).trans_le (Nat.zero_le _)
  total := (slotCount_empty _).trans_le (Nat.zero_le _)
  group := fun _ => (slotCount_empty _).trans_le (Nat.zero_le _)

/-! ## What the two adoptions checked -/

variable {s : ServiceState} {session : InboundSession}

/-- The budgets an adopted direct session was charged to. -/
structure DirectCharged (s : ServiceState) (session : InboundSession) : Prop where
  room : (s.peers.lookup session.peerId).isSome = true ∨
    FiniteMap.size s.peers < s.config.maxConnections
  direct : (s.peers.lookup session.peerId).any isAcceptedDirect = true ∨
    slotCount s.peers isAcceptedDirect < maxDirectInbound s.config.maxConnections
  total : (s.peers.lookup session.peerId).any isAcceptedInbound = true ∨
    slotCount s.peers isAcceptedInbound < maxInboundTotal s.config.maxConnections
  group : (s.peers.lookup session.peerId).any
      (isAcceptedFrom (inboundSourceGroup session.remote.ip)) = true ∨
    slotCount s.peers (isAcceptedFrom (inboundSourceGroup session.remote.ip)) <
      maxDirectInboundPerGroup s.config.maxConnections

/-- A budget that did not refuse either counts the peer's slot or is not exhausted. -/
theorem charged_of_not {held : Bool} {cap count : Nat} (spare : ¬(held = false ∧ cap ≤ count)) :
    held = true ∨ count < cap := by
  cases held with
  | true => exact Or.inl rfl
  | false => exact Or.inr (Nat.lt_of_not_le fun full => spare ⟨rfl, full⟩)

/-- The map grows only below the ceiling. -/
theorem room_of_not {held : Option PeerSlot} {cap count : Nat}
    (spare : ¬(held.isNone = true ∧ cap ≤ count)) : held.isSome = true ∨ count < cap := by
  cases held with
  | some slot => exact Or.inl rfl
  | none => exact Or.inr (Nat.lt_of_not_le fun full => spare ⟨rfl, full⟩)

/-- The group's other slots are below the cap, so its slots are, unless the
peer's own slot is one of them. -/
theorem group_charged {peers : Peers} {peerId : PeerId} {group : InboundSourceGroup} {cap : Nat}
    (others : (FiniteMap.countWhere peers fun other slot =>
      decide (other ≠ peerId) && isAcceptedDirect slot &&
        inboundSourceGroup slot.remote.ip == group) < cap) :
    (peers.lookup peerId).any (isAcceptedFrom group) = true ∨
      slotCount peers (isAcceptedFrom group) < cap := by
  have split := FiniteMap.countWhere_others peers (fun _ slot => isAcceptedFrom group slot) peerId
  simp only [isAcceptedFrom, <- Bool.and_assoc] at split
  cases counted : (peers.lookup peerId).any (isAcceptedFrom group) with
  | true => exact Or.inl rfl
  | false =>
      have nothing : FiniteMap.weight (fun _ slot => isAcceptedFrom group slot) peerId
          (peers.lookup peerId) = 0 := by
        unfold FiniteMap.weight
        rw [if_neg (ne_true_of_eq_false counted)]
      right
      unfold slotCount
      simp only [isAcceptedFrom] at nothing ⊢
      omega

theorem directCharged_of_allowed (allowed : s.refuseDirectInbound session = none) :
    DirectCharged s session := by
  unfold ServiceState.refuseDirectInbound at allowed
  simp only at allowed
  split at allowed
  · cases allowed
  · split at allowed
    · cases allowed
    · rename_i room
      split at allowed
      · cases allowed
      · rename_i direct
        split at allowed
        · cases allowed
        · rename_i total
          split at allowed
          · cases allowed
          · rename_i group
            exact ⟨room_of_not room, charged_of_not direct, charged_of_not total,
              group_charged (Nat.lt_of_not_le group)⟩

/-- The budgets an adopted circuit was charged to. -/
structure RelayedCharged (s : ServiceState) (session : InboundSession) : Prop where
  room : (s.peers.lookup session.peerId).isSome = true ∨
    FiniteMap.size s.peers < s.config.maxConnections
  relayed : (s.peers.lookup session.peerId).any isAcceptedRelayed = true ∨
    slotCount s.peers isAcceptedRelayed < maxRelayedInbound s.config.maxConnections
  total : (s.peers.lookup session.peerId).any isAcceptedInbound = true ∨
    slotCount s.peers isAcceptedInbound < maxInboundTotal s.config.maxConnections

theorem relayedCharged_of_allowed (allowed : s.refuseRelayedInbound session = none) :
    RelayedCharged s session := by
  unfold ServiceState.refuseRelayedInbound at allowed
  simp only at allowed
  split at allowed
  · cases allowed
  · split at allowed
    · cases allowed
    · rename_i room
      split at allowed
      · cases allowed
      · rename_i relayed
        split at allowed
        · cases allowed
        · rename_i total
          exact ⟨room_of_not room, charged_of_not relayed, charged_of_not total⟩

/-! ## The caps along runs -/

variable {region : PeersRegion} {after : Peers}

/-- Every inbound slot stays an accepted session. -/
theorem accepted_change (accepted : forall peerId slot, s.peers.lookup peerId = some slot ->
      slot.isOutbound = false -> isAcceptedInbound slot = true)
    (adoption : entersByAdoption s region = true) (change : PeersChange s region after) :
    forall peerId slot, after.lookup peerId = some slot -> slot.isOutbound = false ->
      isAcceptedInbound slot = true := by
  intro peerId slot found inbound
  cases change with
  | fewer sub => exact accepted peerId slot (sub _ _ found) inbound
  | @wired _ held sink here =>
      rcases FiniteMap.of_lookup_insert found with ⟨rfl, rfl⟩ | ⟨_, old⟩
      · exact accepted _ (.nat held) here inbound
      · exact accepted peerId slot old inbound
  | admitted admits =>
      rcases FiniteMap.of_lookup_insert found with ⟨rfl, rfl⟩ | ⟨_, old⟩
      · cases admits with
        | live allowed => cases inbound
        | tls => cases adoption
        | nat allowed made => cases inbound
        | direct allowed => rfl
        | relayed allowed => rfl
      · exact accepted peerId slot (admits.sub _ _ old) inbound

/-- A slot that counts as accepted was admitted by one of the two adoptions. -/
theorem adopted_of_counts {room : Peers} {peerId : PeerId} {slot : PeerSlot}
    (admits : Admits s region room peerId slot) (counts : isAcceptedInbound slot = true) :
    (exists session : DirectInbound, peerId = session.peerId ∧ slot = session.slot ∧
        DirectCharged s session.toInboundSession) ∨
      exists session : RelayedInbound, peerId = session.peerId ∧ slot = session.slot ∧
        RelayedCharged s session.toInboundSession := by
  cases admits with
  | live allowed => cases counts
  | tls => cases counts
  | nat allowed made => cases counts
  | @direct session allowed =>
      exact Or.inl ⟨session, rfl, rfl, directCharged_of_allowed allowed⟩
  | @relayed session allowed =>
      exact Or.inr ⟨session, rfl, rfl, relayedCharged_of_allowed allowed⟩

theorem InboundCapped.change (capped : InboundCapped s.config.maxConnections s.peers)
    (adoption : entersByAdoption s region = true) (change : PeersChange s region after) :
    InboundCapped s.config.maxConnections after where
  accepted := accepted_change capped.accepted adoption change
  direct := by
    apply slotCount_change capped.direct change fun _ _ => rfl
    intro room peerId slot admits counts
    refine Or.imp_right (slotCount_lt_of_admits admits) ?_
    rcases adopted_of_counts admits (Bool.and_eq_true_iff.mp counts).1 with
      ⟨session, rfl, rfl, charged⟩ | ⟨session, rfl, rfl, _⟩
    · exact charged.direct
    · simp [isAcceptedDirect, session.relayed] at counts
  relayed := by
    apply slotCount_change capped.relayed change fun _ _ => rfl
    intro room peerId slot admits counts
    refine Or.imp_right (slotCount_lt_of_admits admits) ?_
    have accepted : isAcceptedInbound slot = true := by
      cases slot with
      | nat held => exact (Bool.and_eq_true_iff.mp counts).2
      | live held => cases counts
      | stub held => cases counts
    rcases adopted_of_counts admits accepted with
      ⟨session, rfl, rfl, _⟩ | ⟨session, rfl, rfl, charged⟩
    · simp [isAcceptedRelayed, session.direct] at counts
    · exact charged.relayed
  total := by
    apply slotCount_change capped.total change fun _ _ => rfl
    intro room peerId slot admits counts
    refine Or.imp_right (slotCount_lt_of_admits admits) ?_
    rcases adopted_of_counts admits counts with ⟨session, rfl, rfl, charged⟩ | ⟨session, rfl, rfl, charged⟩
    · exact charged.total
    · exact charged.total
  group := by
    intro group
    apply slotCount_change (capped.group group) change fun _ _ => rfl
    intro room peerId slot admits counts
    refine Or.imp_right (slotCount_lt_of_admits admits) ?_
    have both := Bool.and_eq_true_iff.mp counts
    rcases adopted_of_counts admits (Bool.and_eq_true_iff.mp both.1).1 with
      ⟨session, rfl, rfl, charged⟩ | ⟨session, rfl, rfl, _⟩
    · have same := beq_iff_eq.mp both.2
      rw [InboundSession.remote_slot] at same
      rw [<- same]
      exact charged.group
    · simp [isAcceptedDirect, session.relayed] at both

/-- The caps hold along every run in which inbound peers enter by adoption
only, and they always leave a slot that no inbound peer can take and, where any
inbound slot is left, one for a direct peer. -/
theorem inbound_capped :
    (forall (launch : Launch) (moves : List ServiceMove),
      launch.allows (onRegion entersByAdoption) moves = true ->
      InboundCapped launch.config.maxConnections (launch.after moves).shared.peers) ∧
    (forall maxConnections, 1 ≤ maxConnections -> maxInboundTotal maxConnections < maxConnections) ∧
    (forall maxConnections, 1 ≤ maxInboundTotal maxConnections ->
      1 ≤ maxDirectInbound maxConnections) := by
  refine ⟨fun launch moves adoption => ?_, fun _ => reservingAQuarter_lt,
    fun _ => aReservedShareOf_pos⟩
  refine peers_invariant ?_ (inboundCapped_empty _) adoption
  intro s region after config _ adoption capped change
  rw [<- config] at capped ⊢
  exact capped.change adoption change

namespace Example

/-- Accepted sessions from one source, some then converted to the other tier. -/
def adoptions : List ServiceMove :=
  inSequence 20 [
    .adoptDirectInboundHandle 1 (host 30 1) .direct 1 none,
    .adoptDirectInboundHandle 2 (host 30 2) .holePunch 2 none,
    .adoptDirectInboundHandle 3 (host 30 3) .direct 3 none,
    .adoptRelayedInboundHandle 4 (host 0 0) 4 none,
    .adoptDirectInboundHandle 4 (host 40 1) .direct 5 none]

end Example

theorem inbound_capped_adoptions :
    InboundCapped 8 (Example.launch.after Example.adoptions).shared.peers ∧
      maxInboundTotal 8 < 8 ∧ 1 ≤ maxDirectInbound 8 :=
  ⟨inbound_capped.1 Example.launch Example.adoptions (by decide +kernel),
    inbound_capped.2.1 8 (by decide), inbound_capped.2.2 8 (by decide)⟩

/-- The third session of the group is refused; the circuit is converted. -/
example : (Example.launch.after Example.adoptions).shared.peers.keys = {1, 2, 4} := by
  decide +kernel

end Service
end DigGossip
