import DigGossip.Service.Footprints

namespace DigGossip
namespace Service

open Foundations DigGossip.Types
open Program (Only wp wp_mono wp_bind wp_of_quiet)

/-!
# What the service counts

A permit of the handshake semaphore is held from its acquisition to its release,
and an admission is counted once the lock is released.  Both are debts of the
operation in between, so that in every interleaving the permits that are out and
the connections that are counted differ from what has happened by what the
running operations still owe.  No operation ever admits this node to its own map.
-/

inductive Outstanding where
  | permit
  | connection
deriving DecidableEq

/-- The debts that an action with this reply opens. -/
def Action.opens : (action : Action) -> action.Reply -> Multiset Outstanding
  | peers region, reply => if (region.admitted reply).isSome then {.connection} else 0
  | tryAcquirePermit, acquired => if acquired then {.permit} else 0
  | _, _ => 0

def Action.clears : Action -> Multiset Outstanding
  | releasePermit => {.permit}
  | countConnection => {.connection}
  | _ => 0

/-- Whom a region may admit. -/
def PeersRegion.mayAdmit : PeersRegion -> Option PeerId
  | admitLive peerId _ _ _ => some peerId
  | insertLive peerId _ _ _ => some peerId
  | admitNat conn _ => some conn.peerId
  | adoptDirectInbound session => some session.peerId
  | adoptRelayedInbound session => some session.peerId
  | _ => none

def Action.mayAdmit : Action -> Option PeerId
  | peers region => region.mayAdmit
  | _ => none

/-- The actions that no tally looks at. -/
def Action.isUncounted : Action -> Bool
  | peers region => region.mayAdmit.isNone
  | tryAcquirePermit | releasePermit | countConnection => false
  | _ => true

/-- An action clears a debt that is open, and admits anyone but the node itself. -/
structure TallyDue (node : PeerId) (open_ : Multiset Outstanding) (action : Action) : Prop where
  asked : action.clears ≤ open_
  other : action.mayAdmit ≠ some node

def settleTally (open_ : Multiset Outstanding) (action : Action) (reply : action.Reply) :
    Multiset Outstanding :=
  action.opens reply + (open_ - action.clears)

theorem PeersRegion.admitted_of_none {region : PeersRegion} (none : region.mayAdmit = none)
    (reply : region.Reply) : region.admitted reply = Option.none := by
  cases region <;> first | rfl | cases none

/-- What a region has admitted it was let to admit. -/
theorem PeersRegion.mayAdmit_of_admitted {region : PeersRegion} {reply : region.Reply}
    {peerId : PeerId} (admitted : region.admitted reply = some peerId) :
    region.mayAdmit = some peerId := by
  cases region with
  | admitLive other remote link generation =>
      cases reply with
      | error kind => cases admitted
      | ok superseded => exact admitted
  | insertLive other remote link generation => exact admitted
  | admitNat conn source =>
      cases reply with
      | error error => cases admitted
      | ok admission => exact admitted
  | adoptDirectInbound session =>
      cases reply with
      | error error => cases admitted
      | ok superseded => exact admitted
  | adoptRelayedInbound session =>
      cases reply with
      | error error => cases admitted
      | ok superseded => exact admitted
  | _ => cases admitted

section Uncounted

variable {action : Action} (uncounted : action.isUncounted = true)
include uncounted

theorem Action.mayAdmit_of_isUncounted : action.mayAdmit = none := by
  cases action with
  | peers region => exact Option.isNone_iff_eq_none.mp uncounted
  | _ => rfl

theorem Action.clears_of_isUncounted : action.clears = 0 := by
  cases action <;> first | rfl | cases uncounted

theorem Action.opens_of_isUncounted (reply : action.Reply) : action.opens reply = 0 := by
  cases action with
  | peers region =>
      rw [opens, PeersRegion.admitted_of_none (Option.isNone_iff_eq_none.mp uncounted)]
      rfl
  | _ => first | rfl | cases uncounted

end Uncounted

theorem Action.isUncounted_of_isBanUpkeep {action : Action} (only : action.isBanUpkeep = true) :
    action.isUncounted = true := by
  cases action <;> first | rfl | cases only

theorem Action.isUncounted_of_isBanRecord {action : Action} (only : action.isBanRecord = true) :
    action.isUncounted = true := by
  cases action <;> first | rfl | cases only

theorem Action.isUncounted_of_isEffect {action : Action} (only : action.isEffect = true) :
    action.isUncounted = true := by
  cases action <;> first | rfl | cases only

theorem Action.isUncounted_of_isAnnouncement {action : Action}
    (only : action.isAnnouncement = true) : action.isUncounted = true := by
  cases action with
  | peers region => cases region <;> first | rfl | cases only
  | _ => first | rfl | cases only

/-! ## Clearing -/

/-- From these debts and any others the program ends with the others alone. -/
def Clears {R : Type} (node : PeerId) (debts : Multiset Outstanding) (program : ServiceProgram R) :
    Prop :=
  forall others, wp (TallyDue node) settleTally program (debts + others) fun _ after =>
    after = others

namespace Clears

variable {R T : Type} {node : PeerId} {debts : Multiset Outstanding}

theorem pure (result : R) : Clears node 0 (Pure.pure result : ServiceProgram R) :=
  fun others => zero_add others

theorem bind {program : ServiceProgram R} {rest : R -> ServiceProgram T}
    (before : Clears node debts program) (after : forall result, Clears node 0 (rest result)) :
    Clears node debts (program >>= rest) := by
  intro others
  rw [wp_bind]
  refine wp_mono (before others) ?_
  intro result left same
  have ends := after result others
  rw [zero_add] at ends
  rw [same]
  exact ends

theorem map {program : ServiceProgram R} (clears : Clears node debts program)
    (change : R -> T) : Clears node debts (change <$> program) :=
  clears.bind fun _ => pure _

/-- A part that no tally looks at leaves the debts for the rest. -/
theorem aside {program : ServiceProgram R} (only : Only Action.isUncounted program)
    {rest : R -> ServiceProgram T} (after : forall result, Clears node debts (rest result)) :
    Clears node debts (program >>= rest) := by
  have quiet : Program.Quiet (TallyDue node) settleTally program :=
    only.quiet
      (fun action free open_ => by
        refine ⟨?_, ?_⟩
        · rw [Action.clears_of_isUncounted free]
          exact Multiset.zero_le _
        · rw [Action.mayAdmit_of_isUncounted free]
          exact (Option.some_ne_none node).symm)
      (fun action free open_ reply => by
        rw [settleTally, Action.opens_of_isUncounted free, Action.clears_of_isUncounted free,
          zero_add, tsub_zero])
  intro others
  rw [wp_bind]
  exact wp_of_quiet quiet fun result => after result others

theorem of_only {program : ServiceProgram R} (only : Only Action.isUncounted program) :
    Clears node 0 program := by
  have whole := @aside R R node 0 program only Pure.pure fun result => pure result
  intro others
  have holds := whole others
  rw [wp_bind] at holds
  exact holds

theorem act {action : Action} {rest : action.Reply -> ServiceProgram T}
    (other : action.mayAdmit ≠ some node)
    (after : forall reply, Clears node (action.opens reply + debts) (rest reply)) :
    Clears node (action.clears + debts) (perform action >>= rest) := by
  intro others
  refine ⟨⟨?_, other⟩, fun reply => ?_⟩
  · rw [add_assoc]
    exact Multiset.le_add_right _ _
  · have settled : settleTally (action.clears + debts + others) action reply =
        action.opens reply + debts + others := by
      rw [settleTally, add_assoc, add_tsub_cancel_left, add_assoc]
    rw [settled]
    exact after reply others

/-- An action that clears nothing. -/
theorem begin {action : Action} {rest : action.Reply -> ServiceProgram T}
    (none : action.clears = 0) (other : action.mayAdmit ≠ some node)
    (after : forall reply, Clears node (action.opens reply + debts) (rest reply)) :
    Clears node debts (perform action >>= rest) := by
  have whole := act other after
  rw [none, zero_add] at whole
  exact whole

end Clears

/-! ## Programs that no tally looks at -/

theorem uncounted_prune (now : Nat) : Only Action.isUncounted (pruneExpiredDigBans now) :=
  (only_pruneExpiredDigBans now).mono fun _ lifts =>
    Action.isUncounted_of_isBanUpkeep (Action.isBanUpkeep_of_isLift lifts)

theorem uncounted_isPeerIdBannedAt (peerId : PeerId) (now : Nat) :
    Only Action.isUncounted (isPeerIdBannedAt peerId now) :=
  (only_isPeerIdBannedAt peerId now).mono fun _ => Action.isUncounted_of_isBanUpkeep

theorem uncounted_executeDigTimedBan (peerId : PeerId) (ip : IpAddr) (now : Nat) :
    Only Action.isUncounted (executeDigTimedBan peerId ip now) :=
  (only_executeDigTimedBan peerId ip now).mono fun _ => Action.isUncounted_of_isBanRecord

theorem uncounted_retireLive (removed : Option PeerSlot) :
    Only Action.isUncounted (retireLive removed) :=
  (only_retireLive removed).mono fun _ => Action.isUncounted_of_isEffect

theorem uncounted_retireSlot (slot : PeerSlot) : Only Action.isUncounted (retireSlot slot) :=
  (only_retireSlot slot).mono fun _ => Action.isUncounted_of_isEffect

theorem uncounted_retireSuperseded (superseded : Option PeerSlot) :
    Only Action.isUncounted (retireSuperseded superseded) :=
  (only_retireSuperseded superseded).mono fun _ => Action.isUncounted_of_isEffect

theorem uncounted_publish (event : PoolEvent) : Only Action.isUncounted (publish event) :=
  (only_publish event).mono fun _ => Action.isUncounted_of_isAnnouncement

theorem uncounted_removeFromPlumtree (peerId : PeerId) :
    Only Action.isUncounted (removeFromPlumtreeUnlessReconnected peerId) :=
  (only_removeFromPlumtree peerId).mono fun _ => Action.isUncounted_of_isAnnouncement

theorem uncounted_announceDisplaced (displaced : Option (PeerId × PeerSlot)) :
    Only Action.isUncounted (announceDisplaced displaced) := by
  cases displaced with
  | none => exact Only.pure ()
  | some cycled =>
      exact (uncounted_retireSlot cycled.2).bind fun _ =>
        (uncounted_publish _).bind fun _ => uncounted_removeFromPlumtree cycled.1

theorem uncounted_enforce (peerId : PeerId) (now : Nat) (callerGeneration : Option Nat) :
    Only Action.isUncounted (enforceTimedBanAndDisconnect peerId now callerGeneration) := by
  refine (uncounted_prune now).bind fun _ => Only.bind (Only.perform rfl) fun removed => ?_
  cases removed with
  | none => exact Only.pure ()
  | some slot =>
      exact (uncounted_retireLive slot).bind fun _ => uncounted_executeDigTimedBan _ _ _

theorem uncounted_chargePenalty (peerId : PeerId) (reason : PenaltyReason) (now : Nat) :
    Only Action.isUncounted (chargePenalty peerId reason now) := by
  refine Only.bind (Only.perform rfl) fun charged => ?_
  cases charged with
  | none => exact Only.bind (Only.perform rfl) fun _ => Only.pure _
  | some outcome => exact Only.bind (Only.perform rfl) fun _ => Only.pure _

theorem uncounted_penalizePeer (peerId : PeerId) (reason : PenaltyReason) :
    Only Action.isUncounted (penalizePeer peerId reason) := by
  refine Only.bind (Only.perform rfl) fun running => ?_
  split
  · exact Only.pure _
  refine Only.bind (Only.perform rfl) fun now => ?_
  refine (uncounted_prune now).bind fun _ => Only.bind (Only.perform rfl) fun banned => ?_
  refine (uncounted_chargePenalty peerId reason now).bind fun crossed => ?_
  split
  · exact (uncounted_enforce peerId now none).bind fun _ => Only.pure _
  · exact Only.pure _

theorem uncounted_disconnect (peerId : PeerId) :
    Only Action.isUncounted (disconnect peerId) := by
  refine Only.bind (Only.perform rfl) fun running => ?_
  split
  · exact Only.pure _
  refine Only.bind (Only.perform rfl) fun removed => ?_
  refine (uncounted_retireLive removed).bind fun _ => ?_
  have announced : Only Action.isUncounted (announceDisconnected peerId removed) := by
    cases removed with
    | none => exact Only.pure ()
    | some slot => exact uncounted_publish (.peerRemoved peerId .disconnected)
  exact announced.bind fun _ => (uncounted_removeFromPlumtree peerId).bind fun _ => Only.pure _

theorem uncounted_keepaliveFailure (peerId : PeerId) (generation : Nat) :
    Only Action.isUncounted (disconnectAfterKeepaliveFailure peerId generation) := by
  refine Only.bind (Only.perform rfl) fun now => Only.bind (Only.perform rfl) fun removed => ?_
  cases removed with
  | none => exact Only.pure ()
  | some live =>
      refine Only.bind (Only.perform rfl) fun charged => Only.bind (Only.perform rfl) fun _ =>
        Only.bind (Only.perform rfl) fun _ => ?_
      split
      · exact uncounted_executeDigTimedBan _ _ _
      · exact Only.pure ()

theorem uncounted_rateLimitViolation (peerId : PeerId) (generation : Nat) :
    Only Action.isUncounted (applyInboundRateLimitViolation peerId generation) := by
  refine Only.bind (Only.perform rfl) fun now => Only.bind (Only.perform rfl) fun current => ?_
  split
  · exact Only.pure ()
  refine Only.bind (Only.perform rfl) fun charged => ?_
  rcases charged with ⟨triggered, points⟩
  simp only
  split
  · exact Only.pure ()
  · exact Only.bind (Only.perform rfl) fun later => uncounted_enforce peerId later _

/-! ## Admissions -/

section Admissions

variable {node : PeerId}

theorem joinPool_clears (peerId : PeerId) (addr : SocketAddr) (superseded : Option PeerSlot) :
    Clears node {.connection} (joinPool peerId addr superseded) := by
  refine Clears.aside (uncounted_retireSuperseded superseded) fun _ => ?_
  refine Clears.aside (Only.perform rfl) fun _ => ?_
  have counted := @Clears.act _ node 0 .countConnection (fun _ => publish (.peerAdded peerId addr))
    (fun none => by cases none) fun _ => Clears.of_only (uncounted_publish _)
  exact counted

variable (config : GossipConfig)

theorem connectTo_clears (addr : SocketAddr) (dial : Except GossipError Dialed) :
    Clears config.peerId 0 (connectTo config addr dial) := by
  refine Clears.aside (Only.perform rfl) fun running => ?_
  split
  · exact Clears.pure _
  refine Clears.aside (Only.perform rfl) fun targets => ?_
  split
  · exact Clears.pure _
  refine Clears.aside (Only.perform rfl) fun held => ?_
  split
  · exact Clears.pure _
  cases dial with
  | error error => exact Clears.pure _
  | ok out =>
      dsimp only
      split
      · exact Clears.aside (Only.perform rfl) fun _ => Clears.pure _
      rename_i other
      refine Clears.aside (Only.perform rfl) fun now => ?_
      refine Clears.aside (uncounted_isPeerIdBannedAt out.peerId now) fun banned => ?_
      split
      · exact Clears.aside (Only.perform rfl) fun _ => Clears.pure _
      cases out.respondPeers with
      | error error => exact Clears.pure _
      | ok answered =>
          refine Clears.aside (Only.perform rfl) fun generation => ?_
          refine Clears.begin rfl (fun same => other (Option.some.inj same)) fun reply => ?_
          cases reply with
          | error kind =>
              exact Clears.aside (Only.perform rfl) fun _ =>
                Clears.aside (Only.perform rfl) fun _ => Clears.pure _
          | ok superseded => exact (joinPool_clears _ _ _).bind fun _ => Clears.pure _

theorem admitNatConnection_clears (conn : NatConnection) (source : AdmissionSource) :
    Clears config.peerId 0 (admitNatConnection config conn source) := by
  refine Clears.aside (Only.perform rfl) fun running => ?_
  split
  · exact Clears.pure _
  split
  · exact Clears.pure _
  rename_i other
  refine Clears.aside (Only.perform rfl) fun now => ?_
  refine Clears.aside (uncounted_isPeerIdBannedAt conn.peerId now) fun banned => ?_
  split
  · exact Clears.pure _
  refine Clears.begin rfl (fun same => other (Option.some.inj same)) fun reply => ?_
  cases reply with
  | error error => exact Clears.pure _
  | ok admission =>
      refine (joinPool_clears _ _ _).bind fun _ => ?_
      exact Clears.aside (uncounted_announceDisplaced _) fun _ => Clears.pure _

theorem adoptNatConnection_clears (conn : NatConnection) :
    Clears config.peerId 0 (adoptNatConnection config conn) :=
  (admitNatConnection_clears config conn .maintained).bind fun _ => Clears.pure _

theorem adoptRelayedInboundInner_clears (session : InboundSession) :
    Clears config.peerId 0 (adoptRelayedInboundInner config session) := by
  refine Clears.aside (Only.perform rfl) fun running => ?_
  split
  · exact Clears.pure _
  split
  · split
    · exact Clears.pure _
    rename_i other
    refine Clears.aside (Only.perform rfl) fun now => ?_
    refine Clears.aside (uncounted_isPeerIdBannedAt session.peerId now) fun banned => ?_
    split
    · exact Clears.pure _
    refine Clears.begin rfl (fun same => other (Option.some.inj same)) fun reply => ?_
    cases reply with
    | error error => exact Clears.pure _
    | ok superseded => exact (joinPool_clears _ _ _).bind fun _ => Clears.pure _
  · exact Clears.pure _

theorem acceptInbound_clears (remote : SocketAddr) (tls : Option AcceptedTls) :
    Clears config.peerId 0 (acceptInbound config remote tls) := by
  have handled : Clears config.peerId 0 (handleInbound config remote tls) := by
    refine Clears.aside (Only.perform rfl) fun running => ?_
    split
    · exact Clears.pure _
    cases tls with
    | none => exact Clears.pure _
    | some session =>
        dsimp only
        split
        · exact Clears.pure _
        rename_i other
        refine Clears.aside (Only.perform rfl) fun now => ?_
        refine Clears.aside (uncounted_isPeerIdBannedAt session.peerId now) fun banned => ?_
        split
        · exact Clears.pure _
        split
        · exact Clears.pure _
        refine Clears.aside (Only.perform rfl) fun generation => ?_
        refine Clears.begin rfl (fun same => other (Option.some.inj same)) fun superseded => ?_
        refine Clears.aside (uncounted_retireLive superseded) fun _ => ?_
        exact @Clears.act _ config.peerId 0 .countConnection Pure.pure (fun none => by cases none)
          fun reply => Clears.pure reply
  refine Clears.aside (Only.perform rfl) fun running => ?_
  split
  · exact Clears.pure _
  refine Clears.aside (Only.perform rfl) fun held => ?_
  split
  · exact Clears.pure _
  refine Clears.begin rfl (fun none => by cases none) fun acquired => ?_
  cases acquired with
  | false => exact Clears.pure _
  | true =>
      have released : Clears config.peerId {.permit} (perform .releasePermit) :=
        @Clears.act _ config.peerId 0 .releasePermit Pure.pure (fun none => by cases none)
          fun reply => Clears.pure reply
      intro others
      have held := handled ({.permit} + others)
      rw [zero_add, <- add_zero ({.permit} : Multiset Outstanding)] at held
      refine (wp_bind ..).mpr (wp_mono held ?_)
      intro result after same
      rw [same, add_zero]
      exact released others

end Admissions

section Pass

variable (config : GossipConfig)

theorem dialPlanned_clears (cfg : PeerPoolConfig) (now : Nat)
    (dials : PoolCandidate -> Except GossipError NatConnection) (candidate : PoolCandidate) :
    Clears config.peerId 0 (dialPlanned config cfg now dials candidate) := by
  have dialed : Clears config.peerId 0 (dialCandidate config dials candidate) := by
    unfold dialCandidate
    split
    · exact Clears.pure _
    split
    · exact Clears.pure _
    · exact adoptNatConnection_clears config _
  refine Clears.aside (Only.perform rfl) fun reserved => ?_
  split
  · exact Clears.pure _
  refine dialed.bind fun result => Clears.aside (Only.perform rfl) fun _ => ?_
  cases result with
  | error error => exact Clears.aside (Only.perform rfl) fun _ => Clears.pure _
  | ok peerId =>
      refine Clears.aside (Only.perform rfl) fun _ => Clears.aside (Only.perform rfl) fun _ => ?_
      have announced : Only Action.isUncounted (announceDialed peerId candidate.addr) := by
        cases candidate.addr with
        | none => exact Only.pure ()
        | some addr => exact uncounted_publish (.peerAdded peerId addr)
      exact Clears.aside announced fun _ => Clears.pure _

theorem dialAll_clears (cfg : PeerPoolConfig) (now : Nat)
    (dials : PoolCandidate -> Except GossipError NatConnection) (planned : List PoolCandidate) :
    Clears config.peerId 0 (dialAll config cfg now dials planned) := by
  induction planned with
  | nil => exact Clears.pure _
  | cons candidate rest inner =>
      refine (dialPlanned_clears config cfg now dials candidate).bind fun added => ?_
      exact inner.bind fun more => Clears.pure _

theorem runPoolMaintenanceOnce_clears (relayReachable : Nat) (candidates : List PoolCandidate)
    (dials : PoolCandidate -> Except GossipError NatConnection) :
    Clears config.peerId 0 (runPoolMaintenanceOnce config relayReachable candidates dials) := by
  unfold runPoolMaintenanceOnce
  cases config.peerPool with
  | none => exact Clears.pure _
  | some cfg =>
      refine Clears.aside (Only.perform rfl) fun started => ?_
      refine Clears.aside (uncounted_prune started) fun _ => ?_
      refine Clears.aside (Only.perform rfl) fun direct => ?_
      refine Clears.aside (Only.perform rfl) fun keys => ?_
      refine Clears.aside (Only.perform rfl) fun now => ?_
      refine Clears.aside (Only.perform rfl) fun backoff => ?_
      refine Clears.aside (Only.perform rfl) fun inFlight => ?_
      exact dialAll_clears config _ _ _ _

end Pass

/-! ## Every operation -/

/-- An operation starts without debts, ends without, and never admits the node itself. -/
theorem Operation.clears (config : GossipConfig) (op : Operation) :
    Clears config.peerId 0 (op.program config) := by
  cases op with
  | connectTo addr dial => exact (connectTo_clears config addr dial).map _
  | acceptInbound remote tls => exact (acceptInbound_clears config remote tls).map _
  | adoptNatConnection conn => exact (adoptNatConnection_clears config conn).map _
  | adoptDiscoveredNatConnection conn => exact (admitNatConnection_clears config conn _).map _
  | adoptDirectInboundHandle peerId remote method session sink =>
      apply Clears.map
      refine Clears.aside (Only.perform rfl) fun running => ?_
      split
      · exact Clears.pure _
      split
      · exact Clears.pure _
      split
      · exact Clears.pure _
      rename_i other
      refine Clears.aside (Only.perform rfl) fun now => ?_
      refine Clears.aside (uncounted_isPeerIdBannedAt peerId now) fun banned => ?_
      split
      · exact Clears.pure _
      refine Clears.begin rfl (fun same => other (Option.some.inj same)) fun reply => ?_
      cases reply with
      | error error => exact Clears.pure _
      | ok superseded => exact (joinPool_clears _ _ _).bind fun _ => Clears.pure _
  | adoptRelayedInbound conn => exact (adoptRelayedInboundInner_clears config _).map _
  | adoptRelayedInboundHandle peerId remote session sink =>
      exact (adoptRelayedInboundInner_clears config _).map _
  | setNatBroadcastSink peerId sink =>
      apply Clears.map
      refine Clears.aside (Only.perform rfl) fun found => ?_
      split <;> exact Clears.pure _
  | disconnect peerId => exact (Clears.of_only (uncounted_disconnect peerId)).map _
  | reapDepartedPeers =>
      apply Clears.map
      refine Clears.aside (Only.perform rfl) fun reaped => ?_
      have announced := (only_announceReaped reaped).mono fun _ =>
        Action.isUncounted_of_isAnnouncement
      exact Clears.aside announced fun _ => Clears.pure _
  | banPeer peerId =>
      apply Clears.map
      refine Clears.aside (Only.perform rfl) fun running => ?_
      split
      · exact Clears.pure _
      refine Clears.aside (Only.perform rfl) fun now => ?_
      exact Clears.aside (uncounted_enforce peerId now none) fun _ => Clears.pure _
  | penalizePeer peerId reason =>
      exact (Clears.of_only (uncounted_penalizePeer peerId reason)).map _
  | disconnectAfterKeepaliveFailure peerId generation =>
      exact (Clears.of_only (uncounted_keepaliveFailure peerId generation)).map _
  | applyInboundRateLimitViolation peerId generation =>
      exact (Clears.of_only (uncounted_rateLimitViolation peerId generation)).map _
  | runPoolMaintenanceOnce relayReachable candidates dials =>
      exact (runPoolMaintenanceOnce_clears config relayReachable candidates dials).map _
  | peerActivityGuard peerId =>
      exact Clears.of_only (Only.bind (Only.perform rfl) fun _ =>
        Only.bind (Only.perform rfl) fun _ => trivial)
  | dropActivityGuard peerId =>
      exact Clears.of_only (Only.bind (Only.perform rfl) fun _ =>
        Only.bind (Only.perform rfl) fun _ => trivial)
  | setClock now => exact (Clears.of_only (Only.perform rfl)).map _
  | closeSession session => exact (Clears.of_only (Only.perform rfl)).map _
  | demoteToLazy peerId => exact (Clears.of_only (Only.perform rfl)).map _
  | promoteToEager peerId => exact (Clears.of_only (Only.perform rfl)).map _

/-! ## Every run -/

/-- The deed takes a permit. -/
def acquires : System.Deed Action Action.Reply -> Bool
  | ⟨.tryAcquirePermit, acquired⟩ => acquired
  | _ => false

def releases : System.Deed Action Action.Reply -> Bool
  | ⟨.releasePermit, _⟩ => true
  | _ => false

/-- The deed puts a connection into the peer map. -/
def admits : System.Deed Action Action.Reply -> Bool
  | ⟨.peers region, reply⟩ => (region.admitted reply).isSome
  | _ => false

def counts : Action -> Bool
  | .countConnection => true
  | _ => false

section Deeds

variable (action : Action) (reply : action.Reply)

theorem count_opens_permit :
    (action.opens reply).count .permit = if acquires ⟨action, reply⟩ then 1 else 0 := by
  cases action with
  | peers region =>
      rw [Action.opens]
      split <;> rfl
  | tryAcquirePermit => cases reply <;> rfl
  | _ => rfl

theorem count_clears_permit :
    action.clears.count .permit = if releases ⟨action, reply⟩ then 1 else 0 := by
  cases action <;> rfl

theorem count_opens_connection :
    (action.opens reply).count .connection = if admits ⟨action, reply⟩ then 1 else 0 := by
  cases action with
  | peers region =>
      rw [Action.opens, admits]
      split <;> rfl
  | tryAcquirePermit => cases reply <;> rfl
  | _ => rfl

theorem count_clears_connection :
    action.clears.count .connection = if counts action then 1 else 0 := by
  cases action <;> rfl

theorem count_settleTally {open_ others : Multiset Outstanding} (asked : action.clears ≤ open_)
    (tally : Outstanding) :
    (others + settleTally open_ action reply).count tally + action.clears.count tally =
      (others + open_).count tally + (action.opens reply).count tally := by
  have least := Multiset.count_le_of_le tally asked
  simp only [settleTally, Multiset.count_add, Multiset.count_sub]
  omega

variable (order : PeerId -> Nat) (s : ServiceState)

/-- The permits that are free, after an action. -/
theorem inflightHandshakes_exec :
    (exec order action s).1.inflightHandshakes +
        (if acquires ⟨action, (exec order action s).2⟩ then 1 else 0) =
      s.inflightHandshakes + if releases ⟨action, (exec order action s).2⟩ then 1 else 0 := by
  cases action with
  | tryAcquirePermit =>
      simp only [exec]
      split
      · rename_i free
        exact Nat.sub_add_cancel free
      · rfl
  | _ => rfl

theorem totalConnections_exec :
    (exec order action s).1.totalConnections =
      s.totalConnections + if counts action then 1 else 0 := by
  cases action with
  | tryAcquirePermit =>
      simp only [exec]
      split <;> rfl
  | _ => rfl

/-- A peer in the map after an action was in it before, or was let in by it. -/
theorem unheld_exec {peerId : PeerId} (unheld : s.peers.lookup peerId = none)
    (other : action.mayAdmit ≠ some peerId) :
    (exec order action s).1.peers.lookup peerId = none := by
  rcases exec_peers order action s with same | ⟨region, rfl, changed⟩
  · rw [same]
    exact unheld
  · rw [changed]
    cases found : (s.within order region).1.peers.lookup peerId with
    | none => rfl
    | some slot =>
        rcases (ServiceState.within_step s order region).held_or_admitted found with held | admitted
        · rw [unheld] at held
          cases held
        · exact absurd (PeersRegion.mayAdmit_of_admitted admitted) other

end Deeds

/-- The permits, the connections and the map against what has happened and what is owed. -/
structure Tallied (config : GossipConfig) (past : List (System.Deed Action Action.Reply))
    (s : ServiceState) (owed : Multiset Outstanding) : Prop where
  permits : s.inflightHandshakes + owed.count .permit = Nat.max config.maxInflightHandshakes 1
  held : past.countP acquires = past.countP releases + owed.count .permit
  connections : s.totalConnections + owed.count .connection = past.countP admits
  stranger : s.peers.lookup config.peerId = none

theorem Tallied.exec {config : GossipConfig} {past : List (System.Deed Action Action.Reply)}
    {s : ServiceState} {order : PeerId -> Nat} {action : Action}
    {others open_ : Multiset Outstanding}
    (tallied : Tallied config past s (others + open_)) (due : TallyDue config.peerId open_ action) :
    Tallied config (past ++ [⟨action, (Service.exec order action s).2⟩])
      (Service.exec order action s).1
      (others + settleTally open_ action (Service.exec order action s).2) := by
  have permit := @count_settleTally action (Service.exec order action s).2 open_ others due.asked
    .permit
  have connection := @count_settleTally action (Service.exec order action s).2 open_ others
    due.asked .connection
  rw [count_opens_permit, count_clears_permit action (Service.exec order action s).2] at permit
  rw [count_opens_connection, count_clears_connection] at connection
  have free := inflightHandshakes_exec action order s
  have counted := totalConnections_exec action order s
  have permits := tallied.permits
  have held := tallied.held
  have connections := tallied.connections
  refine ⟨?_, ?_, ?_, unheld_exec action order s tallied.stranger due.other⟩
  · omega
  · rw [List.countP_append, List.countP_append, List.countP_singleton, List.countP_singleton]
    omega
  · rw [List.countP_append, List.countP_singleton]
    omega

/-- In every interleaving the tallies agree with what has happened, up to the debts. -/
theorem tallied_balanced (launch : Launch) (moves : List ServiceMove) :
    System.BalancedKnowing id (TallyDue launch.config.peerId) settleTally (fun _ _ => True)
      (Tallied launch.config) (launch.trace moves) (launch.after moves) := by
  have start : Tallied launch.config [] launch.world.shared 0 :=
    { permits := rfl
      held := rfl
      connections := rfl
      stranger := Finmap.lookup_empty _ }
  have idle : System.BalancedKnowing id (TallyDue launch.config.peerId) settleTally
      (fun _ _ => True) (Tallied launch.config) [] launch.world :=
    ⟨0, System.Accounts.nil, start⟩
  refine System.balancedKnowing_run (fun w op _ => ⟨0, rfl, trivial, ?_⟩) (fun _ _ _ ok => ok)
    (fun _ _ _ _ _ _ => trivial) (fun _ _ _ _ _ _ => trivial)
    (fun past order action s others open_ _ _ due tallied => tallied.exec due)
    (launch.allows_everything moves) idle
  have clears := op.clears launch.config 0
  rw [zero_add] at clears
  exact clears

/-- The permits that are free and those that are held are always as many as were
made, so that no more handshakes run at once; and none is lost in the end. -/
theorem handshake_permits_conserved (launch : Launch) (moves : List ServiceMove) :
    (launch.after moves).shared.inflightHandshakes + (launch.trace moves).countP acquires =
        Nat.max launch.config.maxInflightHandshakes 1 + (launch.trace moves).countP releases ∧
      (launch.trace moves).countP releases ≤ (launch.trace moves).countP acquires ∧
      ((launch.after moves).settled = true ->
        (launch.after moves).shared.inflightHandshakes =
          Nat.max launch.config.maxInflightHandshakes 1) := by
  have balanced := tallied_balanced launch moves
  refine ⟨?_, ?_, ?_⟩
  · rcases balanced with ⟨owed, _, tallied⟩
    have permits := tallied.permits
    have held := tallied.held
    omega
  · rcases balanced with ⟨owed, _, tallied⟩
    rw [tallied.held]
    exact Nat.le_add_right _ _
  · intro done
    exact (balanced.settled done).permits

/-- Every connection that was put into the map is counted, once, by the time its
operation ends; and the node is never in its own map. -/
theorem admissions_counted (launch : Launch) (moves : List ServiceMove) :
    (launch.after moves).shared.totalConnections ≤ (launch.trace moves).countP admits ∧
      ((launch.after moves).settled = true ->
        (launch.after moves).shared.totalConnections = (launch.trace moves).countP admits) ∧
      (launch.after moves).shared.peers.lookup launch.config.peerId = none := by
  have balanced := tallied_balanced launch moves
  refine ⟨?_, ?_, ?_⟩
  · rcases balanced with ⟨owed, _, tallied⟩
    rw [<- tallied.connections]
    exact Nat.le_add_right _ _
  · intro done
    exact (balanced.settled done).connections
  · rcases balanced with ⟨owed, _, tallied⟩
    exact tallied.stranger

end Service
end DigGossip
