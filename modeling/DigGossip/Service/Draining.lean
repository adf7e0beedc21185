import DigGossip.Service.Stop

namespace DigGossip
namespace Service

open Foundations DigGossip.Types
open Program (Keeps Only)

/-!
# Operations that begin in a stopped service

A service is drained up to a stage when the stop has completed that stage and
those before it.  Once the flag is down every operation that looks at it is
turned away; the two that look for a slot instead find none once the peer map
is empty.  So none of the operations, started in a service drained up to any
stage, undoes it.
-/

/-- A service that has been stopped up to a stage. -/
structure Drained (config : GossipConfig) (stage : Nat) (s : ServiceState) : Prop where
  config : s.config = config
  lifecycle : 1 ≤ stage -> s.lifecycle = .stopped
  peers : 2 ≤ stage -> s.peers = ∅
  banned : 3 ≤ stage -> s.banned = ∅
  penalties : 4 ≤ stage -> s.penalties = ∅
  chiaIpBans : 5 ≤ stage -> s.chiaIpBans = ∅

/-! ## Actions that insert nothing -/

/-- The actions that put no slot, no ban and no penalty into an empty table. -/
def Action.insertsNothing : Action -> Bool
  | peers (.admitLive _ _ _ _) | peers (.insertLive _ _ _ _) | peers (.admitNat _ _) => false
  | peers (.adoptDirectInbound _) | peers (.adoptRelayedInbound _) => false
  | insertBan _ _ | banIp _ | setPenalty _ _ | addPenalty _ _ => false
  | _ => true

section Tables

variable {order : PeerId -> Nat} {action : Action} {s : ServiceState}

theorem exec_peers_empty (nothing : action.insertsNothing = true) (empty : s.peers = ∅) :
    (exec order action s).1.peers = ∅ := by
  rcases exec_peers order action s with same | ⟨region, rfl, entered⟩
  · rw [same, empty]
  · rw [entered]
    have change := within_change s region order
    generalize (s.within order region).1.peers = after at change
    cases change with
    | fewer sub =>
        rw [empty] at sub
        exact FiniteMap.eq_empty_of_sub sub
    | wired sink found =>
        rw [empty, Finmap.lookup_empty] at found
        cases found
    | admitted admits => cases admits <;> cases nothing

theorem exec_banned_empty (nothing : action.insertsNothing = true) (empty : s.banned = ∅) :
    (exec order action s).1.banned = ∅ := by
  cases action with
  | insertBan peerId entry => cases nothing
  | pruneBanned now =>
      apply FiniteMap.eq_empty_of_sub
      rw [<- empty]
      exact FiniteMap.sub_retain s.banned _
  | tryAcquirePermit => simp only [exec]; split <;> exact empty
  | _ => exact empty

theorem exec_penalties_empty (nothing : action.insertsNothing = true) (empty : s.penalties = ∅) :
    (exec order action s).1.penalties = ∅ := by
  cases action with
  | setPenalty peerId points => cases nothing
  | addPenalty peerId points => cases nothing
  | removePenalty peerId =>
      apply FiniteMap.eq_empty_of_sub
      rw [<- empty]
      exact FiniteMap.sub_erase s.penalties peerId
  | tryAcquirePermit => simp only [exec]; split <;> exact empty
  | _ => exact empty

theorem exec_chiaIpBans_empty (nothing : action.insertsNothing = true)
    (empty : s.chiaIpBans = ∅) : (exec order action s).1.chiaIpBans = ∅ := by
  cases action with
  | banIp ip => cases nothing
  | unbanIp ip =>
      simp only [exec]
      rw [empty, Finset.erase_empty]
  | tryAcquirePermit => simp only [exec]; split <;> exact empty
  | _ => exact empty

end Tables

section Operations

variable {config : GossipConfig} {stage : Nat} {R T : Type}

theorem Drained.exec {s : ServiceState} (drained : Drained config stage s) {action : Action}
    (nothing : action.insertsNothing = true) (order : PeerId -> Nat) :
    Drained config stage (exec order action s).1 where
  config := (exec_config order action s).trans drained.config
  lifecycle := fun reached => (exec_lifecycle order action s).trans (drained.lifecycle reached)
  peers := fun reached => exec_peers_empty nothing (drained.peers reached)
  banned := fun reached => exec_banned_empty nothing (drained.banned reached)
  penalties := fun reached => exec_penalties_empty nothing (drained.penalties reached)
  chiaIpBans := fun reached => exec_chiaIpBans_empty nothing (drained.chiaIpBans reached)

/-- The flag alone is kept down by every action. -/
theorem Drained.exec_of_le {s : ServiceState} (drained : Drained config stage s)
    (few : stage ≤ 1) (order : PeerId -> Nat) (action : Action) :
    Drained config stage (Service.exec order action s).1 where
  config := (exec_config order action s).trans drained.config
  lifecycle := fun reached => (exec_lifecycle order action s).trans (drained.lifecycle reached)
  peers := fun reached => absurd reached (by omega)
  banned := fun reached => absurd reached (by omega)
  penalties := fun reached => absurd reached (by omega)
  chiaIpBans := fun reached => absurd reached (by omega)

/-- What a program does not undo of a stage. -/
abbrev KeepsDrained (config : GossipConfig) (stage : Nat) (program : ServiceProgram R) : Prop :=
  Keeps exec (Drained config stage) program

theorem keeps_of_le (few : stage ≤ 1) (program : ServiceProgram R) :
    KeepsDrained config stage program := by
  induction program with
  | done result => trivial
  | act action next inner =>
      exact fun order s drained => ⟨drained.exec_of_le few order action, inner _⟩

theorem keeps_of_only {program : ServiceProgram R} (only : Only Action.insertsNothing program) :
    KeepsDrained config stage program :=
  only.keeps fun _ nothing order _ drained => drained.exec nothing order

theorem keeps_perform_bind {action : Action} (nothing : action.insertsNothing = true)
    {rest : action.Reply -> ServiceProgram R}
    (after : forall order s, Drained config stage s ->
      KeepsDrained config stage (rest (exec order action s).2)) :
    KeepsDrained config stage (perform action >>= rest) :=
  fun order s drained => ⟨drained.exec nothing order, after order s drained⟩

/-- An operation that looks at the flag first is turned away once it is down. -/
theorem keeps_gated (reached : 1 ≤ stage) {rest : Bool -> ServiceProgram R}
    (refused : KeepsDrained config stage (rest false)) :
    KeepsDrained config stage (perform .isRunning >>= rest) := by
  apply keeps_perform_bind rfl
  intro order s drained
  have down : (s.lifecycle == .running) = false := by rw [drained.lifecycle reached]; rfl
  simp only [exec, down]
  exact refused

/-! ## Parts that insert nothing -/

theorem Action.insertsNothing_of_isAnnouncement {action : Action}
    (only : action.isAnnouncement = true) : action.insertsNothing = true := by
  cases action with
  | peers region => cases region <;> first | rfl | cases only
  | _ => first | rfl | cases only

theorem Action.insertsNothing_of_isLift {action : Action} (only : action.isLift = true) :
    action.insertsNothing = true := by
  cases action <;> first | rfl | cases only

theorem Action.insertsNothing_of_isEffect {action : Action} (only : action.isEffect = true) :
    action.insertsNothing = true := by
  cases action <;> first | rfl | cases only

/-! ## Operations that begin in a stopped service -/

theorem keeps_admitNatConnection (reached : 1 ≤ stage) (conn : NatConnection)
    (source : AdmissionSource) :
    KeepsDrained config stage (admitNatConnection config conn source) :=
  keeps_gated reached (Keeps.pure _)

theorem keeps_dialCandidate (reached : 1 ≤ stage)
    (dials : PoolCandidate -> Except GossipError NatConnection) (candidate : PoolCandidate) :
    KeepsDrained config stage (dialCandidate config dials candidate) := by
  unfold dialCandidate
  split
  · exact Keeps.pure _
  · split
    · exact Keeps.pure _
    · exact (keeps_admitNatConnection reached _ _).bind fun _ => Keeps.pure _

theorem keeps_dialPlanned (reached : 1 ≤ stage) (cfg : PeerPoolConfig) (now : Nat)
    (dials : PoolCandidate -> Except GossipError NatConnection) (candidate : PoolCandidate) :
    KeepsDrained config stage (dialPlanned config cfg now dials candidate) := by
  refine keeps_perform_bind rfl fun _ _ _ => ?_
  split
  · exact Keeps.pure 0
  · refine (keeps_dialCandidate reached dials candidate).bind fun result => ?_
    refine keeps_perform_bind rfl fun _ _ _ => ?_
    cases result with
    | error error => exact keeps_perform_bind rfl fun _ _ _ => Keeps.pure 0
    | ok peerId =>
        refine keeps_perform_bind rfl fun _ _ _ => keeps_perform_bind rfl fun _ _ _ => ?_
        refine (keeps_of_only ?_).bind fun _ => Keeps.pure 1
        cases candidate.addr with
        | none => exact Only.pure ()
        | some addr =>
            exact (only_publish (.peerAdded peerId addr)).mono fun _ =>
              Action.insertsNothing_of_isAnnouncement

theorem keeps_dialAll (reached : 1 ≤ stage) (cfg : PeerPoolConfig) (now : Nat)
    (dials : PoolCandidate -> Except GossipError NatConnection) (planned : List PoolCandidate) :
    KeepsDrained config stage (dialAll config cfg now dials planned) := by
  induction planned with
  | nil => exact Keeps.pure 0
  | cons candidate rest inner =>
      exact (keeps_dialPlanned reached cfg now dials candidate).bind fun _ =>
        inner.bind fun _ => Keeps.pure _

theorem keeps_runPoolMaintenanceOnce (reached : 1 ≤ stage) (relayReachable : Nat)
    (candidates : List PoolCandidate) (dials : PoolCandidate -> Except GossipError NatConnection) :
    KeepsDrained config stage (runPoolMaintenanceOnce config relayReachable candidates dials) := by
  unfold runPoolMaintenanceOnce
  split
  · exact Keeps.pure 0
  · refine keeps_perform_bind rfl fun _ _ _ => ?_
    have pruned := fun now =>
      (only_pruneExpiredDigBans now).mono fun _ => Action.insertsNothing_of_isLift
    refine (keeps_of_only (pruned _)).bind fun _ => ?_
    refine keeps_perform_bind rfl fun _ _ _ => keeps_perform_bind rfl fun _ _ _ => ?_
    refine keeps_perform_bind rfl fun _ _ _ => ?_
    refine keeps_perform_bind rfl fun _ _ _ => keeps_perform_bind rfl fun _ _ _ => ?_
    exact keeps_dialAll reached _ _ _ _

/-- A keepalive failure finds no slot to remove once the map is empty. -/
theorem keeps_disconnectAfterKeepaliveFailure (peerId : PeerId) (generation : Nat) :
    KeepsDrained config stage (disconnectAfterKeepaliveFailure peerId generation) := by
  by_cases few : stage ≤ 1
  · exact keeps_of_le few _
  · refine keeps_perform_bind rfl fun _ _ _ => keeps_perform_bind rfl fun order s drained => ?_
    have none : (s.removeIfGeneration peerId generation).2 = none := by
      unfold ServiceState.removeIfGeneration
      rw [drained.peers (by omega), Finmap.lookup_empty]
    simp only [exec, ServiceState.within, none]
    exact Keeps.pure ()

/-- A rate-limit violation finds no reputation to charge once the map is empty. -/
theorem keeps_applyInboundRateLimitViolation (peerId : PeerId) (generation : Nat) :
    KeepsDrained config stage (applyInboundRateLimitViolation peerId generation) := by
  by_cases few : stage ≤ 1
  · exact keeps_of_le few _
  · refine keeps_perform_bind rfl fun _ _ _ => keeps_perform_bind rfl fun order s drained => ?_
    have gone : s.holdsGeneration peerId generation = false := by
      unfold ServiceState.holdsGeneration
      rw [drained.peers (by omega), Finmap.lookup_empty]
    simp only [exec, ServiceState.within, gone]
    exact Keeps.pure ()

/-- No operation that begins in a stopped service undoes a stage of the stop. -/
theorem keeps_operation (op : Operation) : KeepsDrained config stage (op.program config) := by
  by_cases begun : stage ≤ 1
  · exact keeps_of_le begun _
  have reached : 1 ≤ stage := by omega
  cases op with
  | connectTo addr dial =>
      apply Keeps.map
      exact keeps_gated reached (Keeps.pure _)
  | acceptInbound remote tls =>
      apply Keeps.map
      exact keeps_gated reached (Keeps.pure _)
  | adoptNatConnection conn =>
      apply Keeps.map
      exact (keeps_admitNatConnection reached conn _).bind fun _ => Keeps.pure _
  | adoptDiscoveredNatConnection conn =>
      apply Keeps.map
      exact keeps_admitNatConnection reached conn _
  | adoptDirectInboundHandle peerId remote method session sink =>
      apply Keeps.map
      exact keeps_gated reached (Keeps.pure _)
  | adoptRelayedInbound conn =>
      apply Keeps.map
      exact keeps_gated reached (Keeps.pure _)
  | adoptRelayedInboundHandle peerId remote session sink =>
      apply Keeps.map
      exact keeps_gated reached (Keeps.pure _)
  | setNatBroadcastSink peerId sink =>
      apply Keeps.map
      refine keeps_perform_bind rfl fun _ _ _ => ?_
      split <;> exact Keeps.pure _
  | disconnect peerId =>
      apply Keeps.map
      exact keeps_gated reached (Keeps.pure _)
  | reapDepartedPeers =>
      apply Keeps.map
      refine keeps_perform_bind rfl fun _ _ _ => ?_
      have announced := fun reaped =>
        (only_announceReaped reaped).mono fun _ => Action.insertsNothing_of_isAnnouncement
      exact (keeps_of_only (announced _)).bind fun _ => Keeps.pure _
  | banPeer peerId =>
      apply Keeps.map
      exact keeps_gated reached (Keeps.pure _)
  | penalizePeer peerId reason =>
      apply Keeps.map
      exact keeps_gated reached (Keeps.pure _)
  | disconnectAfterKeepaliveFailure peerId generation =>
      exact (keeps_disconnectAfterKeepaliveFailure peerId generation).map _
  | applyInboundRateLimitViolation peerId generation =>
      exact (keeps_applyInboundRateLimitViolation peerId generation).map _
  | runPoolMaintenanceOnce relayReachable candidates dials =>
      exact (keeps_runPoolMaintenanceOnce reached relayReachable candidates dials).map _
  | peerActivityGuard peerId =>
      apply keeps_of_only
      exact Only.bind (Only.perform rfl) fun _ => Only.bind (Only.perform rfl) fun _ => trivial
  | dropActivityGuard peerId =>
      apply keeps_of_only
      exact Only.bind (Only.perform rfl) fun _ => Only.bind (Only.perform rfl) fun _ => trivial
  | setClock now => exact (keeps_of_only (Only.perform rfl)).map _
  | closeSession session => exact (keeps_of_only (Only.perform rfl)).map _
  | demoteToLazy peerId => exact (keeps_of_only (Only.perform rfl)).map _
  | promoteToEager peerId => exact (keeps_of_only (Only.perform rfl)).map _

end Operations

end Service
end DigGossip
