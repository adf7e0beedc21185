import DigGossip.Service.RegionSteps

namespace DigGossip
namespace Service

open Foundations DigGossip.Types

/-!
# Displacement

At a full pool a discovered peer is admitted at the expense of an idle session.
The region that does this is made of parts, each one access to the pool's own
state, and a decision to displace says who goes and why.
-/

namespace ServiceState

/-- `retain_admitted` against the held map. -/
def pruneRecords (s : ServiceState) : ServiceState :=
  { s with pool := s.pool.retainAdmitted s.peers.keys }

/-- `activity_of` and the decision made from it. -/
def decideDisplacement (s : ServiceState) (order : PeerId -> Nat) (now : Nat) :
    DisplacementDecision :=
  let cyclable := FiniteMap.keysWhere s.peers fun _ slot => isNat slot
  let request : DisplacementRequest := {
    connected := FiniteMap.size s.peers
    capacity := s.config.maxConnections
    incumbents := activityOf s.pool.activity order cyclable
    lastDisplacementAt := s.pool.lastDisplacementAt
    now := now }
  planDisplacement request (s.config.peerPool.getD {})

/-- The victim's slot and record go, and the interval is charged. -/
def removeVictim (s : ServiceState) (victim : PeerId) (now : Nat) : ServiceState :=
  { s with
    peers := s.peers.erase victim
    pool := { s.pool.recordDeparture victim with lastDisplacementAt := some now } }

def insertNat (s : ServiceState) (conn : NatConnection) : ServiceState :=
  { s with peers := s.peers.insert conn.peerId conn.slot }

end ServiceState

variable (s : ServiceState) (order : PeerId -> Nat)

/-- The region of a displacement is made of its parts. -/
theorem displaceForDiscoveredPeer_parts :
    s.displaceForDiscoveredPeer order =
      match s.pruneRecords.decideDisplacement order s.now with
      | .roomAlready => (s.pruneRecords.locked, .ok none)
      | .displace victim =>
          match s.peers.lookup victim with
          | none => (s.pruneRecords.locked, .error (.connectionFiltered (.victimNotHeld victim)))
          | some slot =>
              ((s.pruneRecords.removeVictim victim s.now).locked, .ok (some (victim, slot)))
      | .refused reason =>
          (s.pruneRecords.locked, .error (.connectionFiltered (.poolFull reason))) := rfl

/-! ## Who is displaced -/

/-- The pool's policy in force. -/
def poolPolicy (config : GossipConfig) : PeerPoolConfig :=
  (config.peerPool.getD {}).normalized

/-- The policy's interval is never below the floor. -/
theorem le_displacementInterval (config : GossipConfig) :
    minPoolDisplacementIntervalSecs ≤ (poolPolicy config).displacementIntervalSecs :=
  Nat.le_max_right _ _

/-- A held session with nothing in flight that has been held and idle for long enough. -/
structure IsIdle (s : ServiceState) (peerId : PeerId) (row : ActivityRecord) : Prop where
  session : exists slot, s.peers.lookup peerId = some slot ∧ ServiceState.isNat slot = true
  recorded : s.pool.activity.lookup peerId = some row
  unused : row.inFlight = 0
  established : (poolPolicy s.config).minEstablishedSecs ≤ s.now - row.admittedAt
  idle : (poolPolicy s.config).minIdleSecs ≤ s.now - row.lastActiveAt

/-- The victim of a displacement: the idlest idle session of a full pool that
is not too small, once the interval is over. -/
structure IsVictim (s : ServiceState) (victim : PeerId) : Prop where
  full : s.config.maxConnections ≤ FiniteMap.size s.peers
  enough : (poolPolicy s.config).minPeers < FiniteMap.size s.peers
  elapsed : forall last, s.pool.lastDisplacementAt = some last ->
    saturatingAdd u64Max last (poolPolicy s.config).displacementIntervalSecs ≤ s.now
  idlest : exists row, IsIdle s victim row ∧ forall other otherRow, IsIdle s other otherRow ->
    row.lastActiveAt ≤ otherRow.lastActiveAt

variable {s order}

/-- What the planner is shown of a held session is what the pool records of it. -/
theorem mem_incumbents {peer : PeerActivity} :
    peer ∈ ServiceState.activityOf s.pruneRecords.pool.activity order
        (FiniteMap.keysWhere s.peers fun _ slot => ServiceState.isNat slot) ↔
      (exists slot, s.peers.lookup peer.peerId = some slot ∧ ServiceState.isNat slot = true) ∧
        s.pool.activity.lookup peer.peerId =
          some ⟨peer.admittedAt, peer.lastActiveAt, peer.inFlight⟩ := by
  rw [mem_activityOf, FiniteMap.mem_keysWhere]
  apply and_congr_right
  rintro ⟨slot, held, _⟩
  have kept : s.pruneRecords.pool.activity.lookup peer.peerId =
      s.pool.activity.lookup peer.peerId := by
    simp only [ServiceState.pruneRecords, PoolState.retainAdmitted, FiniteMap.lookup_retain_eq]
    have member : decide (peer.peerId ∈ s.peers.keys) = true :=
      decide_eq_true (FiniteMap.mem_of_lookup held)
    cases s.pool.activity.lookup peer.peerId with
    | none => rfl
    | some row => simp only [Option.filter_some, member, if_true]
  rw [kept]

/-- A decision to displace names the idlest idle session. -/
theorem isVictim_of_displace {victim : PeerId}
    (decided : s.pruneRecords.decideDisplacement order s.now = .displace victim) :
    IsVictim s victim := by
  rcases displaces_of_displace decided with ⟨peer, rfl, displaces⟩
  have incumbent := mem_incumbents.mp displaces.incumbent
  have idle := of_decide_eq_true displaces.displaceable
  refine ⟨displaces.full, displaces.enough, ?_, ?_⟩
  · intro last charged
    have elapsed := displaces.elapsed
    have shown : s.pruneRecords.pool.lastDisplacementAt = some last := charged
    simp only [DisplacementRequest.retryAfter, shown] at elapsed
    exact Nat.le_of_sub_eq_zero elapsed
  · refine ⟨_, ⟨incumbent.1, incumbent.2, idle.1, idle.2.1, idle.2.2⟩, ?_⟩
    intro other row otherIdle
    let rival : PeerActivity := ⟨other, row.admittedAt, row.lastActiveAt, row.inFlight⟩
    have shown : rival ∈ ServiceState.activityOf s.pruneRecords.pool.activity order
        (FiniteMap.keysWhere s.peers fun _ slot => ServiceState.isNat slot) :=
      mem_incumbents.mpr ⟨otherIdle.session, otherIdle.recorded⟩
    have least := displaces.idlest rival shown
      (decide_eq_true ⟨otherIdle.unused, otherIdle.established, otherIdle.idle⟩)
    exact (Prod.Lex.le_iff.mp least).elim Nat.le_of_lt fun tie => Nat.le_of_eq tie.1

end Service
end DigGossip
