import DigGossip.Service.Operations

namespace DigGossip
namespace Service

open Foundations DigGossip.Types

/-!
# Outbound diversity

Non-relayed outbound slots are kept in different subnet groups and in
different known autonomous systems.  The check is skipped when the peer
already holds an outbound slot, whatever kind of slot that is and wherever it
points, so the rule holds along the runs in which every skipped check would
have passed.
-/

/-- No two peers' occupying slots share a group. -/
def Diverse (asTable : AsLookupTable) (peers : Peers) : Prop :=
  forall first second left right, first ≠ second ->
    peers.lookup first = some left -> peers.lookup second = some right ->
    occupiesDiversity left = true -> occupiesDiversity right = true ->
    Apart asTable left.remote.ip right.remote.ip

variable {asTable : AsLookupTable} {peers base : Peers}

theorem diverse_empty (asTable : AsLookupTable) : Diverse asTable ∅ := by
  intro first second left right _ found
  rw [Finmap.lookup_empty] at found
  cases found

theorem Diverse.sub (diverse : Diverse asTable peers) (sub : FiniteMap.Sub base peers) :
    Diverse asTable base :=
  fun first second left right different atFirst atSecond =>
    diverse first second left right different (sub _ _ atFirst) (sub _ _ atSecond)

/-- A slot apart from every other occupant may be inserted. -/
theorem Diverse.insert (diverse : Diverse asTable peers) {peerId : PeerId} {slot : PeerSlot}
    (clear : occupiesDiversity slot = true -> forall other held, peers.lookup other = some held ->
      other ≠ peerId -> occupiesDiversity held = true ->
      Apart asTable slot.remote.ip held.remote.ip) :
    Diverse asTable (peers.insert peerId slot) := by
  intro first second left right different atFirst atSecond occupiesLeft occupiesRight
  rcases FiniteMap.of_lookup_insert atFirst with ⟨rfl, rfl⟩ | ⟨firstOther, oldFirst⟩
  · rcases FiniteMap.of_lookup_insert atSecond with ⟨same, _⟩ | ⟨secondOther, oldSecond⟩
    · exact absurd same.symm different
    · exact clear occupiesLeft second right oldSecond secondOther occupiesRight
  · rcases FiniteMap.of_lookup_insert atSecond with ⟨rfl, rfl⟩ | ⟨secondOther, oldSecond⟩
    · exact (clear occupiesRight first left oldFirst firstOther occupiesLeft).symm
    · exact diverse first second left right different oldFirst oldSecond occupiesLeft occupiesRight

/-- Wiring a sink changes neither the direction, the tier nor the address of a slot. -/
theorem Diverse.wired (diverse : Diverse asTable peers) {peerId : PeerId} {slot : NatSlot}
    (found : peers.lookup peerId = some (.nat slot)) (sink : SinkId) :
    Diverse asTable (peers.insert peerId (.nat { slot with sink := some sink })) := by
  apply diverse.insert
  intro occupies other held atOther different occupiesHeld
  exact diverse peerId other (.nat slot) held (Ne.symm different) found atOther occupies occupiesHeld

/-- An admission whose diversity check is skipped would have passed it. -/
def skipsOnlyDiverse (s : ServiceState) : PeersRegion -> Bool
  | .admitLive peerId remote _ _ =>
      !s.isOutboundReconnect peerId ||
        (outboundDiversityConflict s.peers s.asTable peerId remote.ip false).isNone
  | .admitNat conn _ =>
      !s.isOutboundReconnect conn.peerId ||
        (outboundDiversityConflict s.peers s.asTable conn.peerId conn.remoteAddr.ip
          (conn.method == .relayed)).isNone
  | _ => true

/-- The check passed, or the condition says that it would have. -/
theorem conflict_eq_none_of_skips {s : ServiceState} {peerId : PeerId}
    {conflict : Option OutboundDiversityConflict}
    (skips : (!s.isOutboundReconnect peerId || conflict.isNone) = true)
    (checked : s.isOutboundReconnect peerId = true ∨ conflict = none) : conflict = none := by
  rcases checked with reconnect | clear
  · rw [reconnect] at skips
    exact Option.isNone_iff_eq_none.mp skips
  · exact clear

/-- `admit_nat_connection` lets a direct session in only past the same check. -/
theorem checked_of_refuseNat {s : ServiceState} {conn : NatConnection} {source : AdmissionSource}
    (allowed : s.refuseNat conn source = none) (direct : conn.method ≠ .relayed) :
    s.isOutboundReconnect conn.peerId = true ∨
      outboundDiversityConflict s.peers s.asTable conn.peerId conn.remoteAddr.ip false = none := by
  unfold ServiceState.refuseNat at allowed
  split at allowed
  · cases allowed
  · split at allowed
    · exact Or.inl (by assumption)
    · exact Or.inr (Option.map_eq_none_iff.mp allowed)

/-- A slot admitted under the condition is apart from the other occupants. -/
theorem apart_of_admits {s : ServiceState} {region : PeersRegion} {room : Peers} {peerId : PeerId}
    {slot : PeerSlot} (skips : skipsOnlyDiverse s region = true)
    (admits : Admits s region room peerId slot) (occupies : occupiesDiversity slot = true) :
    forall other held, s.peers.lookup other = some held -> other ≠ peerId ->
      occupiesDiversity held = true -> Apart s.asTable slot.remote.ip held.remote.ip := by
  cases admits with
  | live allowed =>
      exact outboundDiversityConflict_eq_none.mp (conflict_eq_none_of_skips skips allowed)
  | tls => cases occupies
  | @nat conn source room displaced allowed made =>
      have direct : conn.method ≠ .relayed := by
        intro relayed
        simp [occupiesDiversity, NatConnection.slot, isRelayed, relayed] at occupies
      have tier : (conn.method == TraversalKind.relayed) = false := beq_eq_false_iff_ne.mpr direct
      rw [skipsOnlyDiverse, tier] at skips
      exact outboundDiversityConflict_eq_none.mp
        (conflict_eq_none_of_skips skips (checked_of_refuseNat allowed direct))
  | direct allowed => cases occupies
  | relayed allowed => cases occupies

/-- Along every run whose skipped checks would all have passed, the outbound
slots stay diverse. -/
theorem outbound_diverse (launch : Launch) (moves : List ServiceMove)
    (skips : launch.allows (onRegion skipsOnlyDiverse) moves = true) :
    Diverse launch.asTable (launch.after moves).shared.peers := by
  refine peers_invariant ?_ (diverse_empty launch.asTable) skips
  intro s region after _ table skips diverse change
  cases change with
  | fewer sub => exact diverse.sub sub
  | wired sink found => exact diverse.wired found sink
  | admitted admits =>
      apply (diverse.sub admits.sub).insert
      intro occupies other held found different occupiesHeld
      rw [<- table]
      exact apart_of_admits skips admits occupies other held (admits.sub _ _ found) different
        occupiesHeld

namespace Example

/-- Peer 1 is dialed in one subnet, peer 2 in another, and peer 1 again in the second. -/
def redialed : List ServiceMove :=
  inSequence 20 [connected 1 (host 10 1), connected 2 (host 20 1), connected 1 (host 20 2)]

/-- The same dials, with the second one of peer 1 in its own subnet. -/
def redialedAtHome : List ServiceMove :=
  inSequence 20 [connected 1 (host 10 1), connected 2 (host 20 1), connected 1 (host 10 2)]

end Example

theorem outbound_diverse_redialed :
    Diverse .empty (Example.launch.after Example.redialedAtHome).shared.peers :=
  outbound_diverse Example.launch Example.redialedAtHome (by decide +kernel)

theorem outbound_diverse_fails :
    ¬ forall (launch : Launch) (moves : List ServiceMove),
      Diverse launch.asTable (launch.after moves).shared.peers := by
  intro always
  have diverse := always Example.launch Example.redialed
  have first : (Example.launch.after Example.redialed).shared.peers.lookup 1 =
      some (liveSlot (Example.host 20 2) true 1 2) := by decide +kernel
  have second : (Example.launch.after Example.redialed).shared.peers.lookup 2 =
      some (liveSlot (Example.host 20 1) true 2 1) := by decide +kernel
  have apart := diverse 1 2 _ _ (by decide) first second rfl rfl
  exact apart.1 (by decide +kernel)

end Service
end DigGossip
