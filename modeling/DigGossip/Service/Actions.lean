import DigGossip.Foundations.Interleaving
import DigGossip.Service.RegionSteps

namespace DigGossip
namespace Service

open Foundations DigGossip.Types

/-!
# Atomic actions

Everything an operation does to the shared state, one lock-held region or one
atomic access at a time.  The order given to an action is the one its region
traverses a hash map in.
-/

inductive TreeChange where
  | addPeer
  | removePeer
  | demoteToLazy
  | promoteToEager
deriving DecidableEq

def TreeChange.apply : TreeChange -> PlumtreeState -> PeerId -> PlumtreeState
  | addPeer => PlumtreeState.addPeer
  | removePeer => PlumtreeState.removePeer
  | demoteToLazy => PlumtreeState.demoteToLazy
  | promoteToEager => PlumtreeState.promoteToEager

inductive Action where
  | peers (region : PeersRegion)
  | isRunning
  | dialTargetsLocalListen (addr : SocketAddr)
  | readClock
  | pruneBanned (now : Nat)
  | bannedContains (peerId : PeerId)
  | insertBan (peerId : PeerId) (entry : DigBanEntry)
  | banIp (ip : IpAddr)
  | unbanIp (ip : IpAddr)
  | removePenalty (peerId : PeerId)
  | setPenalty (peerId : PeerId) (points : Nat)
  | addPenalty (peerId : PeerId) (points : Nat)
  | applyPenalty (generation : Nat) (reason : PenaltyReason) (now : Nat)
  | nextPeerGeneration
  | countConnection
  | tree (change : TreeChange) (peerId : PeerId)
  | recordAdmission (peerId : PeerId) (now : Nat)
  | sendEvent (event : PoolEvent)
  | reserve (key : CandidateKey)
  | release (key : CandidateKey)
  | inFlightCount
  | recordSuccess (key : CandidateKey)
  | recordFailure (key : CandidateKey) (now : Nat) (cfg : PeerPoolConfig)
  | backoffSnapshot
  | beginActivity (peerId : PeerId) (now : Nat)
  | endActivity (peerId : PeerId) (now : Nat)
  | tryAcquirePermit
  | releasePermit
  | effect (effect : Effect)
  | setClock (now : Nat)
  | closeSession (session : SessionId)

@[reducible] def Action.Reply : Action -> Type
  | peers region => region.Reply
  | isRunning => Bool
  | dialTargetsLocalListen _ => Bool
  | readClock => Nat
  | pruneBanned _ => List (PeerId × IpAddr)
  | bannedContains _ => Bool
  | addPenalty _ _ => Nat
  | applyPenalty _ _ _ => Bool × Nat
  | nextPeerGeneration => Nat
  | reserve _ => Bool
  | inFlightCount => Nat
  | backoffSnapshot => FiniteMap CandidateKey DialBackoff
  | beginActivity _ _ => Bool
  | tryAcquirePermit => Bool
  | insertBan _ _ | banIp _ | unbanIp _ | removePenalty _ | setPenalty _ _ | countConnection
  | tree _ _ | recordAdmission _ _ | sendEvent _ | release _ | recordSuccess _
  | recordFailure _ _ _ | endActivity _ _ | releasePermit | effect _ | setClock _
  | closeSession _ => Unit

namespace ServiceState

/-- The rows whose time is over, in the order of the traversal. -/
def expiredBans (s : ServiceState) (order : PeerId -> Nat) (now : Nat) : List (PeerId × IpAddr) :=
  (listing order s.banned.keys).filterMap fun peerId =>
    match s.banned.lookup peerId with
    | some entry => if entry.untilSecs ≤ now then some (peerId, entry.ip) else none
    | none => none

def pruneBanned (s : ServiceState) (now : Nat) : ServiceState :=
  { s with banned := FiniteMap.retain s.banned fun _ entry => decide (now < entry.untilSecs) }

def addPenalty (s : ServiceState) (peerId : PeerId) (points : Nat) : ServiceState × Nat :=
  let total := saturatingAdd u32Max ((s.penalties.lookup peerId).getD 0) points
  ({ s with penalties := s.penalties.insert peerId total }, total)

def applyPenalty (s : ServiceState) (generation : Nat) (reason : PenaltyReason) (now : Nat) :
    ServiceState × (Bool × Nat) :=
  let (charged, crossed) := (s.reputation generation).applyPenalty reason now
  ({ s with reputations := s.reputations.insert generation charged },
    (crossed, charged.penaltyPoints))

def adjustActivity (s : ServiceState) (peerId : PeerId) (change : ActivityRecord -> ActivityRecord) :
    ServiceState :=
  { s with pool := { s.pool with activity := FiniteMap.adjust s.pool.activity peerId change } }

end ServiceState

/-- The effect of an action and its reply. -/
def exec (order : PeerId -> Nat) : (action : Action) -> ServiceState -> ServiceState × action.Reply
  | .peers region, s =>
      let (after, reply) := s.within order region
      (s.unlock after, reply)
  | .isRunning, s => (s, s.lifecycle == .running)
  | .dialTargetsLocalListen addr, s => (s, s.dialTargetsLocalListen addr)
  | .readClock, s => (s, s.now)
  | .pruneBanned now, s => (s.pruneBanned now, s.expiredBans order now)
  | .bannedContains peerId, s => (s, (s.banned.lookup peerId).isSome)
  | .insertBan peerId entry, s => ({ s with banned := s.banned.insert peerId entry }, ())
  | .banIp ip, s => ({ s with chiaIpBans := insert ip s.chiaIpBans }, ())
  | .unbanIp ip, s => ({ s with chiaIpBans := s.chiaIpBans.erase ip }, ())
  | .removePenalty peerId, s => ({ s with penalties := s.penalties.erase peerId }, ())
  | .setPenalty peerId points, s => ({ s with penalties := s.penalties.insert peerId points }, ())
  | .addPenalty peerId points, s => s.addPenalty peerId points
  | .applyPenalty generation reason now, s => s.applyPenalty generation reason now
  | .nextPeerGeneration, s => ({ s with peerGeneration := s.peerGeneration + 1 }, s.peerGeneration)
  | .countConnection, s => ({ s with totalConnections := s.totalConnections + 1 }, ())
  | .tree change peerId, s => ({ s with plumtree := change.apply s.plumtree peerId }, ())
  | .recordAdmission peerId now, s => ({ s with pool := s.pool.recordAdmission peerId now }, ())
  | .sendEvent event, s =>
      ({ s with pool := { s.pool with eventsTx := s.pool.eventsTx.map (· ++ [event]) } }, ())
  | .reserve key, s =>
      ({ s with pool := { s.pool with inFlight := insert key s.pool.inFlight } },
        decide (key ∉ s.pool.inFlight))
  | .release key, s =>
      ({ s with pool := { s.pool with inFlight := s.pool.inFlight.erase key } }, ())
  | .inFlightCount, s => (s, s.pool.inFlight.card)
  | .recordSuccess key, s =>
      ({ s with pool := { s.pool with backoff := s.pool.backoff.erase key } }, ())
  | .recordFailure key now cfg, s =>
      let failed := ((s.pool.backoff.lookup key).getD {}).recordFailure now
        cfg.dialBackoffBaseSecs cfg.maxDialBackoffSecs
      ({ s with pool := { s.pool with backoff := s.pool.backoff.insert key failed } }, ())
  | .backoffSnapshot, s => (s, s.pool.backoff)
  | .beginActivity peerId now, s =>
      (s.adjustActivity peerId fun row =>
        { row with inFlight := row.inFlight + 1, lastActiveAt := now },
        (s.pool.activity.lookup peerId).isSome)
  | .endActivity peerId now, s =>
      (s.adjustActivity peerId fun row =>
        { row with inFlight := row.inFlight - 1, lastActiveAt := now }, ())
  | .tryAcquirePermit, s =>
      if 0 < s.inflightHandshakes then
        ({ s with inflightHandshakes := s.inflightHandshakes - 1 }, true)
      else (s, false)
  | .releasePermit, s => ({ s with inflightHandshakes := s.inflightHandshakes + 1 }, ())
  | .effect effect, s => ({ s with effects := s.effects ++ [effect] }, ())
  | .setClock now, s => ({ s with now := now }, ())
  | .closeSession session, s => ({ s with closedSessions := insert session s.closedSessions }, ())

section Frames

variable (order : PeerId -> Nat) (action : Action) (s : ServiceState)

@[simp] theorem exec_config : (exec order action s).1.config = s.config := by
  cases action with
  | tryAcquirePermit => simp only [exec]; split <;> rfl
  | _ => rfl

@[simp] theorem exec_asTable : (exec order action s).1.asTable = s.asTable := by
  cases action with
  | tryAcquirePermit => simp only [exec]; split <;> rfl
  | _ => rfl

/-- No operation starts or stops the service. -/
@[simp] theorem exec_lifecycle : (exec order action s).1.lifecycle = s.lifecycle := by
  cases action with
  | tryAcquirePermit => simp only [exec]; split <;> rfl
  | _ => rfl

/-- Only a region of the peers lock changes the peer map. -/
theorem exec_peers :
    (exec order action s).1.peers = s.peers ∨
      exists region, action = .peers region ∧
        (exec order action s).1.peers = (s.within order region).1.peers := by
  cases action with
  | peers region => exact Or.inr ⟨region, rfl, rfl⟩
  | tryAcquirePermit => exact Or.inl (by simp only [exec]; split <;> rfl)
  | _ => exact Or.inl rfl

end Frames

end Service
end DigGossip
