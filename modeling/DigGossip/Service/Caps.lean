import DigGossip.Service.Operations

namespace DigGossip
namespace Service

open Foundations DigGossip.Types

/-!
# Caps on the peer map

The number of relayed outbound slots, the numbers of accepted slots of each
tier, of each source group and in all, and the number of entries altogether
are each compared with a cap before an insertion.  A cap holds along every run
whose insertions are each charged to it, and what decides a claim is whether
every path charges.
-/

/-- The number of slots passing a test. -/
def slotCount (peers : Peers) (test : PeerSlot -> Bool) : Nat :=
  FiniteMap.countWhere peers fun _ slot => test slot

theorem slotCount_empty (test : PeerSlot -> Bool) : slotCount ∅ test = 0 :=
  FiniteMap.countWhere_empty _

/-- A cap survives a change of the peer map when the test does not look at
sinks and every admission is charged. -/
theorem slotCount_change {s : ServiceState} {region : PeersRegion} {after : Peers} {cap : Nat}
    {test : PeerSlot -> Bool} (capped : slotCount s.peers test ≤ cap)
    (change : PeersChange s region after)
    (sinks : forall slot sink, test (.nat { slot with sink := sink }) = test (.nat slot))
    (charged : forall room peerId slot, Admits s region room peerId slot -> test slot = true ->
      (s.peers.lookup peerId).any test = true ∨ slotCount room test < cap) :
    slotCount after test ≤ cap := by
  cases change with
  | fewer sub => exact Nat.le_trans (sub.countWhere_le _) capped
  | @wired peerId slot sink found =>
      apply FiniteMap.countWhere_insert_le capped
      intro passes
      rw [found, Option.any_some, <- sinks slot (some sink)]
      exact Or.inl passes
  | @admitted room peerId slot admits =>
      apply FiniteMap.countWhere_insert_le (Nat.le_trans (admits.sub.countWhere_le _) capped)
      intro passes
      rw [admits.same]
      exact charged room peerId slot admits passes

/-- A count below its cap is so in the map that a slot is inserted into. -/
theorem slotCount_lt_of_admits {s : ServiceState} {region : PeersRegion} {room : Peers}
    {peerId : PeerId} {slot : PeerSlot} (admits : Admits s region room peerId slot)
    {test : PeerSlot -> Bool} {cap : Nat} (below : slotCount s.peers test < cap) :
    slotCount room test < cap :=
  Nat.lt_of_le_of_lt (admits.sub.countWhere_le fun _ slot => test slot) below

/-! ## Relayed outbound slots -/

/-- A relayed session over a direct outbound slot is admitted only below the cap. -/
def chargesRelayed (s : ServiceState) : PeersRegion -> Bool
  | .admitNat conn _ =>
      conn.method != .relayed || !s.isOutboundReconnect conn.peerId ||
        (s.peers.lookup conn.peerId).any isRelayedOutbound ||
        decide (slotCount s.peers isRelayedOutbound <
          maxRelayedOutbound s.config.targetOutboundCount)
  | _ => true

/-- Any other relayed admission passed the cap's own check. -/
theorem below_of_refuseNat {s : ServiceState} {conn : NatConnection} {source : AdmissionSource}
    (allowed : s.refuseNat conn source = none) (relayed : conn.method = .relayed)
    (newcomer : s.isOutboundReconnect conn.peerId = false) :
    slotCount s.peers isRelayedOutbound < maxRelayedOutbound s.config.targetOutboundCount := by
  unfold ServiceState.refuseNat at allowed
  rw [newcomer, relayed] at allowed
  split at allowed
  · cases allowed
  · simp only [Bool.false_eq_true, if_false, if_true] at allowed
    split at allowed
    · cases allowed
    · exact Nat.lt_of_not_le (by assumption)

/-- Along every run that charges each relayed session put over a direct slot,
the relayed outbound slots stay within their cap. -/
theorem relayed_outbound_capped (launch : Launch) (moves : List ServiceMove)
    (charges : launch.allows (onRegion chargesRelayed) moves = true) :
    slotCount (launch.after moves).shared.peers isRelayedOutbound ≤
      maxRelayedOutbound launch.config.targetOutboundCount := by
  let Capped := fun peers =>
    slotCount peers isRelayedOutbound ≤ maxRelayedOutbound launch.config.targetOutboundCount
  have empty : Capped ∅ := (slotCount_empty _).trans_le (Nat.zero_le _)
  suffices kept : forall s region after, s.config = launch.config -> s.asTable = launch.asTable ->
      chargesRelayed s region = true -> Capped s.peers -> PeersChange s region after ->
      Capped after from peers_invariant kept empty charges
  intro s region after config _ charges capped change
  apply slotCount_change capped change fun _ _ => rfl
  intro room peerId slot admits counts
  refine Or.imp_right (slotCount_lt_of_admits admits) ?_
  cases admits with
  | live allowed => cases counts
  | tls => cases counts
  | @nat conn source room displaced allowed made =>
      have relayed : conn.method = .relayed := by
        simpa [isRelayedOutbound] using counts
      rw [<- config]
      cases reconnect : s.isOutboundReconnect conn.peerId with
      | false => exact Or.inr (below_of_refuseNat allowed relayed reconnect)
      | true =>
          simp only [chargesRelayed, relayed, reconnect, bne_self_eq_false, Bool.not_true,
            Bool.false_or, Bool.or_eq_true, decide_eq_true_eq] at charges
          exact charges
  | direct allowed => simp [isRelayedOutbound] at counts
  | relayed allowed => simp [isRelayedOutbound] at counts

namespace Example

/-- A session to the peer over the tier, at an address of its own subnet. -/
def session (peerId : PeerId) (method : TraversalKind) : NatConnection where
  peerId := peerId
  remoteAddr := host peerId.val 1
  method := method
  session := peerId.val

/-- Four direct sessions are replaced one by one by relayed ones, against a cap of three. -/
def relayedOver : List ServiceMove :=
  inSequence 20 ([.direct, .relayed].flatMap fun method =>
    [1, 2, 3, 4].map fun peerId => .adoptNatConnection (session peerId method))

/-- The same with three peers. -/
def relayedOverThree : List ServiceMove :=
  inSequence 20 ([.direct, .relayed].flatMap fun method =>
    [1, 2, 3].map fun peerId => .adoptNatConnection (session peerId method))

end Example

theorem relayed_outbound_capped_three :
    slotCount (Example.launch.after Example.relayedOverThree).shared.peers isRelayedOutbound ≤ 3 :=
  relayed_outbound_capped Example.launch Example.relayedOverThree (by decide +kernel)

theorem relayed_outbound_capped_fails :
    ¬ forall (launch : Launch) (moves : List ServiceMove),
      slotCount (launch.after moves).shared.peers isRelayedOutbound ≤
        maxRelayedOutbound launch.config.targetOutboundCount := by
  intro always
  have capped := always Example.launch Example.relayedOver
  have four : slotCount (Example.launch.after Example.relayedOver).shared.peers isRelayedOutbound =
      4 := by decide +kernel
  have three : maxRelayedOutbound Example.launch.config.targetOutboundCount = 3 := by decide
  omega

end Service
end DigGossip
