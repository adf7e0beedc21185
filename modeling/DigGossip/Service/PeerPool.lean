import Mathlib.Data.List.MinMax
import DigGossip.Foundations.FiniteMap
import DigGossip.Foundations.Listing
import DigGossip.Types.Error
import DigGossip.Types.Peer

namespace DigGossip
namespace Service

open Foundations DigGossip.Types

/-!
# The connected peer pool

The pool keeps its own bookkeeping next to the peer map: which candidates are
being dialed, which are backed off, how long each member has been useful, and
the stream of membership events.  The two planners are pure functions of a
snapshot: one chooses whom to dial, the other whom to cycle out.
-/

def defaultPoolTargetPeers : Nat := 8
def defaultPoolMinPeers : Nat := 4
def defaultPoolMaxPeers : Nat := 16
def defaultPoolDialBackoffBaseSecs : Nat := 5
def defaultPoolMaxDialBackoffSecs : Nat := 300
def defaultPoolMaxDialFailures : Nat := 5
def defaultPoolMinIdleSecs : Nat := 300
def defaultPoolMinEstablishedSecs : Nat := 600
def defaultPoolDisplacementIntervalSecs : Nat := 600
def minPoolDisplacementIntervalSecs : Nat := defaultPoolDisplacementIntervalSecs

structure PeerPoolConfig where
  targetPeers : Nat := defaultPoolTargetPeers
  minPeers : Nat := defaultPoolMinPeers
  maxPeers : Nat := defaultPoolMaxPeers
  dialBackoffBaseSecs : Nat := defaultPoolDialBackoffBaseSecs
  maxDialBackoffSecs : Nat := defaultPoolMaxDialBackoffSecs
  maxDialFailures : Nat := defaultPoolMaxDialFailures
  minIdleSecs : Nat := defaultPoolMinIdleSecs
  minEstablishedSecs : Nat := defaultPoolMinEstablishedSecs
  displacementIntervalSecs : Nat := defaultPoolDisplacementIntervalSecs
deriving DecidableEq

/-- `normalized`: the bounds put in order, the displacement clocks raised to their floors. -/
def PeerPoolConfig.normalized (cfg : PeerPoolConfig) : PeerPoolConfig :=
  let max := Nat.max cfg.maxPeers 1
  let target := Nat.max 1 (Nat.min cfg.targetPeers max)
  { cfg with
    targetPeers := target
    minPeers := Nat.min cfg.minPeers target
    maxPeers := max
    minEstablishedSecs := Nat.max cfg.minEstablishedSecs cfg.minIdleSecs
    displacementIntervalSecs :=
      Nat.max cfg.displacementIntervalSecs minPoolDisplacementIntervalSecs }

/-! ## Admission caps -/

/-- `reserving_a_quarter`: a quarter, and at least one, is held back. -/
def reservingAQuarter (n : Nat) : Nat :=
  n - Nat.max (n / 4) 1

/-- `a_reserved_share_of`: a tier's share of the inbound budget, at least one
slot of a budget that has one. -/
def aReservedShareOf (inboundBudget : Nat) : Nat :=
  Nat.min (Nat.max (reservingAQuarter inboundBudget) 1) inboundBudget

def maxRelayedOutbound (targetOutboundCount : Nat) : Nat :=
  reservingAQuarter targetOutboundCount

def maxInboundTotal (maxConnections : Nat) : Nat :=
  reservingAQuarter maxConnections

def maxRelayedInbound (maxConnections : Nat) : Nat :=
  aReservedShareOf (maxInboundTotal maxConnections)

def maxDirectInbound (maxConnections : Nat) : Nat :=
  aReservedShareOf (maxInboundTotal maxConnections)

def maxDirectInboundPerGroup (maxConnections : Nat) : Nat :=
  Nat.max ((maxDirectInbound maxConnections + 3) / 4) 2

/-- A non-empty pool always keeps a slot no inbound peer may take. -/
theorem reservingAQuarter_lt {n : Nat} (positive : 1 ≤ n) : reservingAQuarter n < n := by
  have reserve : 1 ≤ Nat.max (n / 4) 1 := Nat.le_max_right _ _
  unfold reservingAQuarter
  omega

/-- A tier's share of a non-empty budget is not empty and stays within the budget. -/
theorem aReservedShareOf_pos {budget : Nat} (positive : 1 ≤ budget) :
    1 ≤ aReservedShareOf budget :=
  Nat.le_min.mpr ⟨Nat.le_max_right _ _, positive⟩

/-! ## Candidates and their backoff -/

inductive CandidateKey where
  | id (peerId : PeerId)
  | addr (addr : SocketAddr)
deriving DecidableEq

structure PoolCandidate where
  peerId : Option PeerId
  addr : Option SocketAddr
deriving DecidableEq

/-- The sentinel address `0.0.0.0:0`. -/
def unspecifiedAddr : SocketAddr := { ip := .v4 0, port := 0 }

def PoolCandidate.dedupKey (candidate : PoolCandidate) : CandidateKey :=
  match candidate.peerId, candidate.addr with
  | some peerId, _ => .id peerId
  | none, some addr => .addr addr
  | none, none => .addr unspecifiedAddr

def PoolCandidate.identityKeys (candidate : PoolCandidate) : List CandidateKey :=
  (candidate.peerId.map CandidateKey.id).toList ++ (candidate.addr.map CandidateKey.addr).toList

structure DialBackoff where
  failures : Nat := 0
  nextRetryAt : Nat := 0
deriving DecidableEq

namespace DialBackoff

def isReady (backoff : DialBackoff) (now : Nat) : Bool :=
  decide (backoff.nextRetryAt ≤ now)

def isDead (backoff : DialBackoff) (maxFailures : Nat) : Bool :=
  decide (maxFailures ≤ backoff.failures)

/-- `record_failure`: the delay doubles with each failure up to a cap. -/
def recordFailure (backoff : DialBackoff) (now baseSecs maxSecs : Nat) : DialBackoff :=
  let failures := saturatingAdd u32Max backoff.failures 1
  let shift := Nat.min (failures - 1) 16
  let delay := Nat.min (Nat.min (baseSecs * 2 ^ shift) u64Max) (Nat.max maxSecs baseSecs)
  { failures := failures, nextRetryAt := saturatingAdd u64Max now delay }

end DialBackoff

/-! ## The dial plan -/

structure PoolSnapshot where
  connected : Nat
  directConnected : Nat
  inFlight : Nat
  connectedKeys : List CandidateKey
  candidates : List PoolCandidate
  backoff : FiniteMap CandidateKey DialBackoff
  now : Nat

structure PoolPlan where
  toDial : List PoolCandidate
  freeSlots : Nat

def freeSlotBudget (connected inFlight : Nat) (cfg : PeerPoolConfig) : Nat :=
  let cfg := cfg.normalized
  let current := connected + inFlight
  Nat.min (cfg.targetPeers - current) (cfg.maxPeers - current)

def minDirectPeers (cfg : PeerPoolConfig) : Nat :=
  Nat.max (cfg.targetPeers / 4) 1

/-- `free_slot_budget_with_direct_floor`: relay-reachable peers shrink the
budget, but never below the shortfall of direct peers. -/
def freeSlotBudgetWithDirectFloor (directConnected relayReachable inFlight : Nat)
    (cfg : PeerPoolConfig) : Nat :=
  let cfg := cfg.normalized
  let relayAware := freeSlotBudget (directConnected + relayReachable) inFlight cfg
  let directCurrent := directConnected + inFlight
  let floorBudget := minDirectPeers cfg - directCurrent
  Nat.min (Nat.max relayAware floorBudget) (cfg.maxPeers - directCurrent)

/-- The loop of `plan_pass`: candidates are taken in order while slots are free. -/
def choose (snap : PoolSnapshot) (cfg : PeerPoolConfig) (freeSlots : Nat) :
    List PoolCandidate -> (chosen : List PoolCandidate) -> (keys : List CandidateKey) ->
      List PoolCandidate
  | [], chosen, _ => chosen
  | candidate :: rest, chosen, keys =>
      if freeSlots ≤ chosen.length then chosen
      else
        let key := candidate.dedupKey
        let backedOff := (snap.backoff.lookup key).any fun backoff =>
          backoff.isDead cfg.maxDialFailures || !backoff.isReady snap.now
        if candidate.identityKeys.any snap.connectedKeys.contains || keys.contains key ||
            backedOff then
          choose snap cfg freeSlots rest chosen keys
        else choose snap cfg freeSlots rest (chosen ++ [candidate]) (key :: keys)

def planPass (snap : PoolSnapshot) (cfg : PeerPoolConfig) : PoolPlan :=
  let cfg := cfg.normalized
  let relayReachable := snap.connected - snap.directConnected
  let freeSlots :=
    freeSlotBudgetWithDirectFloor snap.directConnected relayReachable snap.inFlight cfg
  if freeSlots = 0 then { toDial := [], freeSlots := 0 }
  else { toDial := choose snap cfg freeSlots snap.candidates [] [], freeSlots := freeSlots }

theorem mem_choose {snap : PoolSnapshot} {cfg : PeerPoolConfig} {freeSlots : Nat}
    {candidates chosen : List PoolCandidate} {keys : List CandidateKey} {candidate : PoolCandidate}
    (member : candidate ∈ choose snap cfg freeSlots candidates chosen keys) :
    candidate ∈ chosen ∨ candidate ∈ candidates := by
  induction candidates generalizing chosen keys with
  | nil => exact Or.inl member
  | cons head rest inner =>
      simp only [choose] at member
      split at member
      · exact Or.inl member
      · split at member
        · exact (inner member).imp_right (List.mem_cons_of_mem head)
        · rcases inner member with old | later
          · rw [List.mem_append, List.mem_singleton] at old
            exact old.imp_right fun same => List.mem_cons.mpr (Or.inl same)
          · exact Or.inr (List.mem_cons_of_mem head later)

/-- A pass dials only candidates it was given. -/
theorem mem_planPass {snap : PoolSnapshot} {cfg : PeerPoolConfig} {candidate : PoolCandidate}
    (member : candidate ∈ (planPass snap cfg).toDial) : candidate ∈ snap.candidates := by
  simp only [planPass] at member
  split at member
  · cases member
  · rcases mem_choose member with none | given
    · cases none
    · exact given

theorem length_choose_le {snap : PoolSnapshot} {cfg : PeerPoolConfig} {freeSlots : Nat}
    {candidates chosen : List PoolCandidate} {keys : List CandidateKey}
    (fits : chosen.length ≤ freeSlots) :
    (choose snap cfg freeSlots candidates chosen keys).length ≤ freeSlots := by
  induction candidates generalizing chosen keys with
  | nil => exact fits
  | cons head rest inner =>
      simp only [choose]
      split
      · exact fits
      · rename_i spare
        split
        · exact inner fits
        · apply inner
          rw [List.length_append, List.length_singleton]
          omega

theorem maxPeers_normalized (cfg : PeerPoolConfig) :
    cfg.normalized.normalized.maxPeers = cfg.normalized.maxPeers :=
  Nat.max_eq_left (Nat.le_max_right cfg.maxPeers 1)

/-- A plan leaves room for the direct peers and the dials that it was shown. -/
theorem length_toDial_le (snap : PoolSnapshot) (cfg : PeerPoolConfig) :
    (planPass snap cfg).toDial.length ≤
      cfg.normalized.maxPeers - (snap.directConnected + snap.inFlight) := by
  simp only [planPass]
  split
  · exact Nat.zero_le _
  · have chosen : (choose snap cfg.normalized (freeSlotBudgetWithDirectFloor snap.directConnected
        (snap.connected - snap.directConnected) snap.inFlight cfg.normalized)
        snap.candidates [] []).length ≤ freeSlotBudgetWithDirectFloor snap.directConnected
          (snap.connected - snap.directConnected) snap.inFlight cfg.normalized :=
      length_choose_le (Nat.zero_le _)
    refine Nat.le_trans chosen ?_
    rw [<- maxPeers_normalized cfg]
    exact Nat.min_le_right _ _

/-! ## Usefulness and displacement -/

structure PeerActivity where
  peerId : PeerId
  admittedAt : Nat
  lastActiveAt : Nat
  inFlight : Nat

/-- `is_displaceable`: idle, and held for long enough to have been seen idle. -/
def PeerActivity.isDisplaceable (peer : PeerActivity) (now : Nat) (cfg : PeerPoolConfig) : Bool :=
  decide (peer.inFlight = 0 ∧ cfg.minEstablishedSecs ≤ now - peer.admittedAt ∧
    cfg.minIdleSecs ≤ now - peer.lastActiveAt)

structure DisplacementRequest where
  connected : Nat
  capacity : Nat
  incumbents : List PeerActivity
  lastDisplacementAt : Option Nat
  now : Nat

inductive DisplacementDecision where
  | roomAlready
  | displace (victim : PeerId)
  | refused (reason : DisplacementRefusal)

/-- The seconds left until another displacement is allowed. -/
def DisplacementRequest.retryAfter (req : DisplacementRequest) (cfg : PeerPoolConfig) : Nat :=
  match req.lastDisplacementAt with
  | some last => saturatingAdd u64Max last cfg.displacementIntervalSecs - req.now
  | none => 0

/-- `plan_displacement`: the least recently active displaceable incumbent goes. -/
def planDisplacement (req : DisplacementRequest) (cfg : PeerPoolConfig) : DisplacementDecision :=
  let cfg := cfg.normalized
  if req.connected < req.capacity then .roomAlready
  else if req.connected ≤ cfg.minPeers then .refused .wouldBreachMinPeers
  else if 0 < req.retryAfter cfg then .refused (.rateLimited (req.retryAfter cfg))
  else
    let displaceable := req.incumbents.filter fun peer => peer.isDisplaceable req.now cfg
    match displaceable.argmin fun peer =>
        toLex (peer.lastActiveAt, toLex (peer.admittedAt, peer.peerId)) with
    | some victim => .displace victim.peerId
    | none => .refused .noIdleIncumbent

/-- What the order of the victims goes by: the last use, the admission, the identity. -/
def PeerActivity.rank (peer : PeerActivity) : Nat ×ₗ Nat ×ₗ PeerId :=
  toLex (peer.lastActiveAt, toLex (peer.admittedAt, peer.peerId))

/-- What a decision to displace says of the incumbent it names. -/
structure Displaces (req : DisplacementRequest) (cfg : PeerPoolConfig) (peer : PeerActivity) :
    Prop where
  incumbent : peer ∈ req.incumbents
  full : req.capacity ≤ req.connected
  enough : cfg.normalized.minPeers < req.connected
  elapsed : req.retryAfter cfg.normalized = 0
  displaceable : peer.isDisplaceable req.now cfg.normalized = true
  idlest : ∀ other ∈ req.incumbents, other.isDisplaceable req.now cfg.normalized = true ->
    peer.rank ≤ other.rank

theorem displaces_of_displace {req : DisplacementRequest} {cfg : PeerPoolConfig} {victim : PeerId}
    (decided : planDisplacement req cfg = .displace victim) :
    exists peer, peer.peerId = victim ∧ Displaces req cfg peer := by
  simp only [planDisplacement] at decided
  split at decided
  · cases decided
  · rename_i full
    split at decided
    · cases decided
    · rename_i enough
      split at decided
      · cases decided
      · rename_i elapsed
        split at decided
        · rename_i chosen least
          cases decided
          have member := List.mem_filter.mp (List.argmin_mem least)
          refine ⟨chosen, rfl, member.1, by omega, by omega, by omega, member.2, ?_⟩
          intro other incumbent displaceable
          exact List.le_of_mem_argmin (List.mem_filter.mpr ⟨incumbent, displaceable⟩) least
        · cases decided

/-- Room is found only below the capacity. -/
theorem lt_of_roomAlready {req : DisplacementRequest} {cfg : PeerPoolConfig}
    (decided : planDisplacement req cfg = .roomAlready) : req.connected < req.capacity := by
  simp only [planDisplacement] at decided
  split at decided
  · assumption
  · split at decided
    · cases decided
    · split at decided
      · cases decided
      · split at decided <;> cases decided

/-! ## The state of the pool -/

inductive PoolRemovalReason where
  | disconnected
  | dead
  | banned
  | reaped
  | displaced
deriving DecidableEq

inductive PoolEvent where
  | peerAdded (peerId : PeerId) (addr : SocketAddr)
  | peerRemoved (peerId : PeerId) (reason : PoolRemovalReason)
deriving DecidableEq

structure ActivityRecord where
  admittedAt : Nat
  lastActiveAt : Nat
  inFlight : Nat
deriving DecidableEq

/-- The event channel is the list of the events sent on it since it was
opened, or `none` while it is closed. -/
structure PoolState where
  backoff : FiniteMap CandidateKey DialBackoff
  inFlight : Finset CandidateKey
  eventsTx : Option (List PoolEvent)
  activity : FiniteMap PeerId ActivityRecord
  lastDisplacementAt : Option Nat

namespace PoolState

def new : PoolState where
  backoff := ∅
  inFlight := ∅
  eventsTx := none
  activity := ∅
  lastDisplacementAt := none

/-- `record_admission`: the clocks of a record start over, its count of uses stays. -/
def recordAdmission (pool : PoolState) (peerId : PeerId) (now : Nat) : PoolState :=
  let inFlight := ((pool.activity.lookup peerId).map ActivityRecord.inFlight).getD 0
  let row := { admittedAt := now, lastActiveAt := now, inFlight := inFlight }
  { pool with activity := pool.activity.insert peerId row }

def recordDeparture (pool : PoolState) (peerId : PeerId) : PoolState :=
  { pool with activity := pool.activity.erase peerId }

/-- `retain_admitted`: the records of peers that hold no slot are dropped. -/
def retainAdmitted (pool : PoolState) (held : Finset PeerId) : PoolState :=
  { pool with activity := FiniteMap.retain pool.activity fun peerId _ => decide (peerId ∈ held) }

end PoolState

end Service
end DigGossip
