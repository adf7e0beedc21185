import DigGossip.Service.Footprints

namespace DigGossip
namespace Service

open Foundations DigGossip.Types
open Program (Only wp Quiet wp_quiet_bind wp_of_quiet wp_perform_bind)

/-!
# What an operation owes

An operation that changes the set of held peers under the lock announces the
change and adjusts the broadcast tree after the lock is released.  Between the
two it owes an announcement and an adjustment.  A ledger follows these debts
through each program; a program that starts without debts ends without, and
sends no event it does not owe, with one exception: the maintenance pass
announces an addressed peer a second time.
-/

inductive Debt where
  | announceAdded (peerId : PeerId)
  | announceRemoved (peerId : PeerId)
  | join (peerId : PeerId)
  | leave (peerId : PeerId)
deriving DecidableEq

abbrev Ledger := Multiset Debt

/-- The debt an event pays. -/
def PoolEvent.debt : PoolEvent -> Debt
  | peerAdded peerId _ => .announceAdded peerId
  | peerRemoved peerId _ => .announceRemoved peerId

def admissionDebts (peerId : PeerId) : Ledger :=
  .announceAdded peerId ::ₘ .join peerId ::ₘ 0

def departureDebts (peerId : PeerId) : Ledger :=
  .announceRemoved peerId ::ₘ .leave peerId ::ₘ 0

def displacementDebts : Option (PeerId × PeerSlot) -> Ledger
  | some (victim, _) => departureDebts victim
  | none => 0

def reapDebts : List PeerId -> Ledger
  | [] => 0
  | peerId :: rest => departureDebts peerId + reapDebts rest

/-- What a region makes its operation owe.  The unannounced insertion of the
listener and the removals of bans and keepalives make it owe nothing. -/
def PeersRegion.debts : (region : PeersRegion) -> region.Reply -> Ledger
  | admitLive peerId _ _ _, .ok _ => admissionDebts peerId
  | admitNat conn _, .ok admission =>
      admissionDebts conn.peerId + displacementDebts admission.displaced
  | adoptDirectInbound session, .ok _ => admissionDebts session.peerId
  | adoptRelayedInbound session, .ok _ => admissionDebts session.peerId
  | remove peerId, some _ => departureDebts peerId
  | remove peerId, none => {.leave peerId}
  | reapDeparted, reaped => reapDebts reaped
  | _, _ => 0

/-- How an action and its reply change the ledger of its operation. -/
def settle (ledger : Ledger) : (action : Action) -> action.Reply -> Ledger
  | .peers (.containsKey peerId), held => if held then ledger.erase (.leave peerId) else ledger
  | .peers region, reply => region.debts reply + ledger
  | .tree .addPeer peerId, _ => ledger.erase (.join peerId)
  | .tree .removePeer peerId, _ => ledger.erase (.leave peerId)
  | .sendEvent event, _ => ledger.erase event.debt
  | _, _ => ledger

/-- Only an owed event is sent. -/
def owed (ledger : Ledger) : Action -> Prop
  | .sendEvent event => event.debt ∈ ledger
  | _ => True

/-! ## Quiet parts -/

def PeersRegion.isQuiet : PeersRegion -> Bool
  | admitLive _ _ _ _ | admitNat _ _ | adoptDirectInbound _ | adoptRelayedInbound _ => false
  | remove _ | reapDeparted | containsKey _ => false
  | _ => true

/-- The actions that neither make nor pay a debt. -/
def Action.isQuiet : Action -> Bool
  | .peers region => region.isQuiet
  | .tree .addPeer _ | .tree .removePeer _ | .sendEvent _ => false
  | _ => true

theorem PeersRegion.debts_of_isQuiet {region : PeersRegion} (quiet : region.isQuiet = true)
    (reply : region.Reply) : region.debts reply = 0 := by
  cases region with
  | admitLive _ _ _ _ => cases quiet
  | admitNat _ _ => cases quiet
  | adoptDirectInbound _ => cases quiet
  | adoptRelayedInbound _ => cases quiet
  | remove _ => cases quiet
  | reapDeparted => cases quiet
  | _ => rfl

theorem settle_of_isQuiet {action : Action} (quiet : action.isQuiet = true) (ledger : Ledger)
    (reply : action.Reply) : settle ledger action reply = ledger := by
  cases action with
  | peers region =>
      have none := PeersRegion.debts_of_isQuiet quiet reply
      cases region with
      | containsKey peerId => cases quiet
      | _ =>
          simp only [settle]
          rw [none, zero_add]
  | tree change peerId => cases change <;> first | rfl | cases quiet
  | sendEvent event => cases quiet
  | _ => rfl

theorem owed_of_isQuiet {action : Action} (quiet : action.isQuiet = true) (ledger : Ledger) :
    owed ledger action := by
  cases action with
  | sendEvent event => cases quiet
  | _ => trivial

theorem quiet_perform {action : Action} (quiet : action.isQuiet = true) :
    Quiet owed settle (perform action) :=
  Quiet.perform (owed_of_isQuiet quiet) (settle_of_isQuiet quiet)

/-- A part that does only quiet actions is quiet. -/
theorem quiet_of_only {R : Type} {program : ServiceProgram R} {allowed : Action -> Bool}
    (only : Only allowed program)
    (silent : forall action, allowed action = true -> action.isQuiet = true) :
    Quiet owed settle program :=
  (only.mono silent).quiet (fun _ => owed_of_isQuiet) fun _ => settle_of_isQuiet

theorem quiet_pruneExpiredDigBans (now : Nat) : Quiet owed settle (pruneExpiredDigBans now) :=
  quiet_of_only (only_pruneExpiredDigBans now) fun action lift => by
    cases action <;> first | rfl | cases lift

theorem quiet_isPeerIdBannedAt (peerId : PeerId) (now : Nat) :
    Quiet owed settle (isPeerIdBannedAt peerId now) :=
  (quiet_pruneExpiredDigBans now).bind fun _ => quiet_perform rfl

theorem quiet_executeDigTimedBan (peerId : PeerId) (ip : IpAddr) (now : Nat) :
    Quiet owed settle (executeDigTimedBan peerId ip now) :=
  quiet_of_only (only_executeDigTimedBan peerId ip now) fun action recorded => by
    cases action <;> first | rfl | cases recorded

theorem Action.isQuiet_of_isEffect {action : Action} (only : action.isEffect = true) :
    action.isQuiet = true := by
  cases action <;> first | rfl | cases only

theorem quiet_retireLive (removed : Option PeerSlot) : Quiet owed settle (retireLive removed) :=
  quiet_of_only (only_retireLive removed) fun _ => Action.isQuiet_of_isEffect

theorem quiet_retireSlot (slot : PeerSlot) : Quiet owed settle (retireSlot slot) :=
  quiet_of_only (only_retireSlot slot) fun _ => Action.isQuiet_of_isEffect

theorem quiet_retireSuperseded (superseded : Option PeerSlot) :
    Quiet owed settle (retireSuperseded superseded) :=
  quiet_of_only (only_retireSuperseded superseded) fun _ => Action.isQuiet_of_isEffect

/-- A ban pays no debts and makes none, although it removes a slot. -/
theorem quiet_enforceTimedBanAndDisconnect (peerId : PeerId) (now : Nat)
    (callerGeneration : Option Nat) :
    Quiet owed settle (enforceTimedBanAndDisconnect peerId now callerGeneration) := by
  refine (quiet_pruneExpiredDigBans now).bind fun _ => ?_
  refine (quiet_perform rfl).bind fun removed => ?_
  cases removed with
  | none => exact Quiet.pure ()
  | some removed =>
      exact (quiet_retireLive removed).bind fun _ => quiet_executeDigTimedBan _ _ _

/-! ## Paying -/

section Paying

variable {rest : Ledger} {post : Unit -> Ledger -> Prop}

theorem publish_pays (event : PoolEvent) (after : post () rest) :
    wp owed settle (publish event) (event.debt ::ₘ rest) post := by
  have sent : wp owed settle (perform (.sendEvent event)) (event.debt ::ₘ rest) post := by
    refine ⟨Multiset.mem_cons_self _ _, fun _ => ?_⟩
    simp only [settle, Multiset.erase_cons_head]
    exact after
  cases event with
  | peerAdded peerId addr =>
      apply wp_quiet_bind (Quiet.perform (fun _ => trivial) fun _ _ => rfl)
      intro now
      apply wp_quiet_bind (Quiet.perform (fun _ => trivial) fun _ _ => rfl)
      intro _
      exact sent
  | peerRemoved peerId reason => exact sent

theorem removeFromPlumtree_pays (peerId : PeerId) (after : post () rest) :
    wp owed settle (removeFromPlumtreeUnlessReconnected peerId) (.leave peerId ::ₘ rest) post := by
  refine ⟨trivial, fun held => ?_⟩
  cases held with
  | true =>
      simp only [settle, if_true, Multiset.erase_cons_head]
      exact after
  | false =>
      refine ⟨trivial, fun _ => ?_⟩
      simp only [settle, Bool.false_eq_true, if_false, Multiset.erase_cons_head]
      exact after

theorem joinPool_pays (peerId : PeerId) (addr : SocketAddr) (superseded : Option PeerSlot)
    (after : post () rest) :
    wp owed settle (joinPool peerId addr superseded) (admissionDebts peerId + rest) post := by
  apply wp_quiet_bind (quiet_retireSuperseded superseded)
  intro _
  refine ⟨trivial, fun _ => ⟨trivial, fun _ => ?_⟩⟩
  have paid : settle (settle (admissionDebts peerId + rest) (.tree .addPeer peerId) ())
      .countConnection () = .announceAdded peerId ::ₘ rest := by
    simp [settle, admissionDebts]
  rw [paid]
  exact publish_pays (.peerAdded peerId addr) after

theorem announceDisplaced_pays (displaced : Option (PeerId × PeerSlot)) (after : post () rest) :
    wp owed settle (announceDisplaced displaced) (displacementDebts displaced + rest) post := by
  cases displaced with
  | none =>
      rw [displacementDebts, zero_add]
      exact after
  | some cycled =>
      rcases cycled with ⟨victim, slot⟩
      apply wp_quiet_bind (quiet_retireSlot slot)
      intro _
      simp only [Program.wp_bind, displacementDebts, departureDebts, Multiset.cons_add, zero_add]
      exact publish_pays (.peerRemoved victim .displaced) (removeFromPlumtree_pays victim after)

theorem announceReaped_pays (reaped : List PeerId) (after : post () rest) :
    wp owed settle (announceReaped reaped) (reapDebts reaped + rest) post := by
  induction reaped with
  | nil =>
      rw [reapDebts, zero_add]
      exact after
  | cons peerId later inner =>
      simp only [announceReaped, Program.wp_bind, reapDebts, departureDebts, Multiset.cons_add,
        zero_add]
      exact publish_pays (.peerRemoved peerId .reaped) (removeFromPlumtree_pays peerId inner)

end Paying

/-! ## Operations without debts -/

/-- The programs that, started without debts, end without. -/
abbrev Settles {R : Type} (program : ServiceProgram R) : Prop :=
  System.Owes owed settle program 0

theorem settles_of_quiet {R : Type} {program : ServiceProgram R}
    (quiet : Quiet owed settle program) : Settles program :=
  wp_of_quiet quiet fun _ => rfl

section Operations

variable (config : GossipConfig)

theorem connectTo_settles (addr : SocketAddr) (dial : Except GossipError Dialed) :
    Settles (connectTo config addr dial) := by
  refine wp_quiet_bind (quiet_perform rfl) fun running => ?_
  split
  · rfl
  refine wp_quiet_bind (quiet_perform rfl) fun self => ?_
  split
  · rfl
  refine wp_quiet_bind (quiet_perform rfl) fun entries => ?_
  split
  · rfl
  cases dial with
  | error error => rfl
  | ok out =>
      simp only
      split
      · exact settles_of_quiet ((quiet_perform rfl).bind fun _ => Quiet.pure _)
      refine wp_quiet_bind (quiet_perform rfl) fun now => ?_
      refine wp_quiet_bind (quiet_isPeerIdBannedAt out.peerId now) fun banned => ?_
      split
      · exact settles_of_quiet ((quiet_perform rfl).bind fun _ => Quiet.pure _)
      cases out.respondPeers with
      | error error => rfl
      | ok _ =>
          refine wp_quiet_bind (quiet_perform rfl) fun generation => ?_
          refine wp_perform_bind trivial fun admission => ?_
          cases admission with
          | error kind =>
              exact settles_of_quiet
                ((quiet_perform rfl).bind fun _ => (quiet_perform rfl).bind fun _ => Quiet.pure _)
          | ok superseded =>
              rw [Program.wp_bind]
              exact joinPool_pays out.peerId addr superseded rfl

theorem admitNatConnection_settles (conn : NatConnection) (source : AdmissionSource) :
    Settles (admitNatConnection config conn source) := by
  refine wp_quiet_bind (quiet_perform rfl) fun running => ?_
  split
  · rfl
  split
  · rfl
  refine wp_quiet_bind (quiet_perform rfl) fun now => ?_
  refine wp_quiet_bind (quiet_isPeerIdBannedAt conn.peerId now) fun banned => ?_
  split
  · rfl
  refine wp_perform_bind trivial fun admission => ?_
  cases admission with
  | error error => rfl
  | ok admission =>
      have owes : settle 0 (.peers (.admitNat conn source)) (.ok admission) =
          admissionDebts conn.peerId + (displacementDebts admission.displaced + 0) :=
        add_assoc _ _ _
      rw [owes, Program.wp_bind]
      apply joinPool_pays
      rw [Program.wp_bind]
      exact announceDisplaced_pays admission.displaced rfl

theorem adoptNatConnection_settles (conn : NatConnection) :
    Settles (adoptNatConnection config conn) := by
  have settles := admitNatConnection_settles config conn .maintained
  unfold adoptNatConnection
  rw [Settles, System.Owes, Program.wp_bind]
  exact settles

/-- The listener owes nothing, because it announces nothing. -/
theorem quiet_handleInbound (remote : SocketAddr) (tls : Option AcceptedTls) :
    Quiet owed settle (handleInbound config remote tls) := by
  refine (quiet_perform rfl).bind fun running => ?_
  split
  · exact Quiet.pure ()
  cases tls with
  | none => exact Quiet.pure ()
  | some session =>
      simp only
      split
      · exact Quiet.pure ()
      refine (quiet_perform rfl).bind fun now => ?_
      refine (quiet_isPeerIdBannedAt session.peerId now).bind fun banned => ?_
      split
      · exact Quiet.pure ()
      split
      · exact Quiet.pure ()
      refine (quiet_perform rfl).bind fun generation => ?_
      refine (quiet_perform rfl).bind fun superseded => ?_
      exact (quiet_retireLive superseded).bind fun _ => quiet_perform rfl

theorem quiet_acceptInbound (remote : SocketAddr) (tls : Option AcceptedTls) :
    Quiet owed settle (acceptInbound config remote tls) := by
  refine (quiet_perform rfl).bind fun running => ?_
  split
  · exact Quiet.pure ()
  refine (quiet_perform rfl).bind fun entries => ?_
  split
  · exact Quiet.pure ()
  refine (quiet_perform rfl).bind fun acquired => ?_
  split
  · exact Quiet.pure ()
  exact (quiet_handleInbound config remote tls).bind fun _ => quiet_perform rfl

theorem adoptDirectInboundHandle_settles (peerId : PeerId) (remote : SocketAddr)
    (method : TraversalKind) (session : SessionId) (sink : Option SinkId) :
    Settles (adoptDirectInboundHandle config peerId remote method session sink) := by
  refine wp_quiet_bind (quiet_perform rfl) fun running => ?_
  split
  · rfl
  split
  · rfl
  split
  · rfl
  refine wp_quiet_bind (quiet_perform rfl) fun now => ?_
  refine wp_quiet_bind (quiet_isPeerIdBannedAt peerId now) fun banned => ?_
  split
  · rfl
  refine wp_perform_bind trivial fun admission => ?_
  cases admission with
  | error error => rfl
  | ok superseded =>
      rw [Program.wp_bind]
      exact joinPool_pays peerId remote superseded rfl

theorem adoptRelayedInboundInner_settles (session : InboundSession) :
    Settles (adoptRelayedInboundInner config session) := by
  refine wp_quiet_bind (quiet_perform rfl) fun running => ?_
  split
  · rfl
  split
  · split
    · rfl
    refine wp_quiet_bind (quiet_perform rfl) fun now => ?_
    refine wp_quiet_bind (quiet_isPeerIdBannedAt session.peerId now) fun banned => ?_
    split
    · rfl
    refine wp_perform_bind trivial fun admission => ?_
    cases admission with
    | error error => rfl
    | ok superseded =>
        rw [Program.wp_bind]
        exact joinPool_pays session.peerId session.remote superseded rfl
  · rfl

theorem quiet_setNatBroadcastSink (peerId : PeerId) (sink : SinkId) :
    Quiet owed settle (setNatBroadcastSink peerId sink) := by
  refine (quiet_perform rfl).bind fun wired => ?_
  split
  · exact Quiet.pure _
  · exact Quiet.pure _

theorem disconnect_settles (peerId : PeerId) : Settles (disconnect peerId) := by
  refine wp_quiet_bind (quiet_perform rfl) fun running => ?_
  split
  · rfl
  refine wp_perform_bind trivial fun removed => ?_
  refine wp_quiet_bind (quiet_retireLive removed) fun _ => ?_
  simp only [Program.wp_bind]
  cases removed with
  | none =>
      have owes : settle 0 (.peers (.remove peerId)) none = .leave peerId ::ₘ 0 := add_zero _
      rw [owes]
      exact removeFromPlumtree_pays peerId rfl
  | some slot =>
      have owes : settle 0 (.peers (.remove peerId)) (some slot) =
          .announceRemoved peerId ::ₘ .leave peerId ::ₘ 0 := add_zero _
      rw [owes]
      exact publish_pays (.peerRemoved peerId .disconnected) (removeFromPlumtree_pays peerId rfl)

theorem reapDepartedPeers_settles : Settles reapDepartedPeers := by
  refine wp_perform_bind trivial fun reaped => ?_
  rw [Program.wp_bind]
  exact announceReaped_pays reaped rfl

theorem quiet_banPeer (peerId : PeerId) : Quiet owed settle (banPeer peerId) := by
  refine (quiet_perform rfl).bind fun running => ?_
  split
  · exact Quiet.pure _
  refine (quiet_perform rfl).bind fun now => ?_
  exact (quiet_enforceTimedBanAndDisconnect peerId now none).bind fun _ => Quiet.pure _

theorem quiet_chargePenalty (peerId : PeerId) (reason : PenaltyReason) (now : Nat) :
    Quiet owed settle (chargePenalty peerId reason now) := by
  refine (quiet_perform rfl).bind fun charged => ?_
  cases charged with
  | none => exact (quiet_perform rfl).bind fun _ => Quiet.pure _
  | some charged => exact (quiet_perform rfl).bind fun _ => Quiet.pure _

theorem quiet_penalizePeer (peerId : PeerId) (reason : PenaltyReason) :
    Quiet owed settle (penalizePeer peerId reason) := by
  refine (quiet_perform rfl).bind fun running => ?_
  split
  · exact Quiet.pure _
  refine (quiet_perform rfl).bind fun now => ?_
  refine (quiet_pruneExpiredDigBans now).bind fun _ => ?_
  refine (quiet_perform rfl).bind fun alreadyBanned => ?_
  refine (quiet_chargePenalty peerId reason now).bind fun shouldEnforce => ?_
  split
  · exact (quiet_enforceTimedBanAndDisconnect peerId now none).bind fun _ => Quiet.pure _
  · exact Quiet.pure _

theorem quiet_disconnectAfterKeepaliveFailure (peerId : PeerId) (generation : Nat) :
    Quiet owed settle (disconnectAfterKeepaliveFailure peerId generation) := by
  refine (quiet_perform rfl).bind fun now => ?_
  refine (quiet_perform rfl).bind fun removed => ?_
  cases removed with
  | none => exact Quiet.pure ()
  | some live =>
      refine (quiet_perform rfl).bind fun charged => ?_
      refine (quiet_perform rfl).bind fun _ => ?_
      refine (quiet_perform rfl).bind fun _ => ?_
      split
      · exact quiet_executeDigTimedBan _ _ _
      · exact Quiet.pure ()

theorem quiet_applyInboundRateLimitViolation (peerId : PeerId) (generation : Nat) :
    Quiet owed settle (applyInboundRateLimitViolation peerId generation) := by
  refine (quiet_perform rfl).bind fun now => ?_
  refine (quiet_perform rfl).bind fun current => ?_
  split
  · exact Quiet.pure ()
  refine (quiet_perform rfl).bind fun charged => ?_
  rcases charged with ⟨triggered, points⟩
  simp only
  split
  · exact Quiet.pure ()
  refine (quiet_perform rfl).bind fun later => ?_
  exact quiet_enforceTimedBanAndDisconnect peerId later (some generation)

end Operations

/-! ## The maintenance pass -/

section Pass

variable {config : GossipConfig} {cfg : PeerPoolConfig}
  {dials : PoolCandidate -> Except GossipError NatConnection}

/-- The candidate may be dialed successfully. -/
def mayBeDialed (dials : PoolCandidate -> Except GossipError NatConnection)
    (candidate : PoolCandidate) : Bool :=
  candidate.peerId.isSome && (dials candidate).isOk

/-- A dial settles its own debts, and succeeds only for a candidate that may be dialed. -/
theorem dialCandidate_settles (candidate : PoolCandidate) :
    wp owed settle (dialCandidate config dials candidate) 0 fun result after =>
      after = 0 ∧ (result.isOk = true -> mayBeDialed dials candidate = true) := by
  unfold dialCandidate mayBeDialed
  cases candidate.peerId with
  | none => exact ⟨rfl, fun failed => by cases failed⟩
  | some peerId =>
      cases dialed : dials candidate with
      | error error => exact ⟨rfl, fun failed => by cases failed⟩
      | ok conn =>
          apply Program.wp_mono (adoptNatConnection_settles config conn)
          intro result after none
          exact ⟨none, fun _ => rfl⟩

variable {due : Ledger -> Action -> Prop}
  (weaken : forall ledger action, owed ledger action -> due ledger action)

include weaken

variable (config cfg) in
/-- A turn of the pass settles when its own announcement, if it makes one, does. -/
theorem dialPlanned_settles (now : Nat) (candidate : PoolCandidate)
    (announces : forall peerId addr, mayBeDialed dials candidate = true ->
      candidate.addr = some addr ->
      wp due settle (publish (.peerAdded peerId addr)) 0 fun _ after => after = 0) :
    wp due settle (dialPlanned config cfg now dials candidate) 0 fun _ after => after = 0 := by
  have quietly : forall {R : Type} {program : ServiceProgram R} {post : R -> Ledger -> Prop},
      Quiet owed settle program -> (forall result, post result 0) ->
      wp due settle program 0 post :=
    fun quiet holds => Program.wp_of_due (wp_of_quiet quiet holds) weaken
  simp only [dialPlanned, Program.wp_bind]
  refine quietly (quiet_perform rfl) fun reserved => ?_
  split
  · rfl
  simp only [Program.wp_bind]
  apply Program.wp_mono (Program.wp_of_due (dialCandidate_settles candidate) weaken)
  rintro result _ ⟨rfl, dialed⟩
  refine quietly (quiet_perform rfl) fun _ => ?_
  cases result with
  | error error =>
      simp only [Program.wp_bind]
      exact quietly (quiet_perform rfl) fun _ => rfl
  | ok peerId =>
      simp only [Program.wp_bind]
      refine quietly (quiet_perform rfl) fun _ => ?_
      refine quietly (quiet_perform rfl) fun _ => ?_
      cases known : candidate.addr with
      | none => rfl
      | some addr => exact announces peerId addr (dialed rfl) known

theorem dialAll_settles (now : Nat) (planned : List PoolCandidate)
    (announces : ∀ candidate ∈ planned, forall peerId addr, mayBeDialed dials candidate = true ->
      candidate.addr = some addr ->
      wp due settle (publish (.peerAdded peerId addr)) 0 fun _ after => after = 0) :
    wp due settle (dialAll config cfg now dials planned) 0 fun _ after => after = 0 := by
  induction planned with
  | nil => rfl
  | cons candidate rest inner =>
      simp only [dialAll, Program.wp_bind]
      have first := dialPlanned_settles config cfg weaken now candidate
        (announces candidate List.mem_cons_self)
      apply Program.wp_mono first
      rintro added _ rfl
      apply Program.wp_mono (inner fun other later =>
        announces other (List.mem_cons_of_mem candidate later))
      rintro more _ rfl
      rfl

theorem runPoolMaintenanceOnce_settles (relayReachable : Nat) (candidates : List PoolCandidate)
    (announces : ∀ candidate ∈ candidates, forall peerId addr,
      mayBeDialed dials candidate = true -> candidate.addr = some addr ->
      wp due settle (publish (.peerAdded peerId addr)) 0 fun _ after => after = 0) :
    wp due settle (runPoolMaintenanceOnce config relayReachable candidates dials) 0
      fun _ after => after = 0 := by
  have quietly : forall {R : Type} {program : ServiceProgram R} {post : R -> Ledger -> Prop},
      Quiet owed settle program -> (forall result, post result 0) ->
      wp due settle program 0 post :=
    fun quiet holds => Program.wp_of_due (wp_of_quiet quiet holds) weaken
  unfold runPoolMaintenanceOnce
  cases config.peerPool with
  | none => rfl
  | some cfg =>
      simp only [runMaintenancePass, Program.wp_bind]
      refine quietly (quiet_perform rfl) fun started => ?_
      refine quietly (quiet_pruneExpiredDigBans started) fun _ => ?_
      refine quietly (quiet_perform rfl) fun directConnected => ?_
      refine quietly (quiet_perform rfl) fun connectedKeys => ?_
      refine quietly (quiet_perform rfl) fun now => ?_
      refine quietly (quiet_perform rfl) fun backoff => ?_
      refine quietly (quiet_perform rfl) fun inFlight => ?_
      apply dialAll_settles weaken
      intro candidate member
      exact announces candidate (mem_planPass member)

end Pass

/-! ## Every operation -/

/-- The pass is given no addressed candidate that it may dial. -/
def Operation.announcesOnce : Operation -> Bool
  | runPoolMaintenanceOnce _ candidates dials =>
      candidates.all fun candidate => !mayBeDialed dials candidate || candidate.addr.isNone
  | _ => true

/-- An operation ends without debts and sends only what it owes. -/
theorem Operation.settles (config : GossipConfig) (op : Operation) (once : op.announcesOnce = true) :
    Settles (op.program config) := by
  cases op with
  | connectTo addr dial => exact (Program.wp_map ..).mpr (connectTo_settles config addr dial)
  | acceptInbound remote tls =>
      exact settles_of_quiet ((quiet_acceptInbound config remote tls).bind fun _ => Quiet.pure _)
  | adoptNatConnection conn =>
      exact (Program.wp_map ..).mpr (adoptNatConnection_settles config conn)
  | adoptDiscoveredNatConnection conn =>
      exact (Program.wp_map ..).mpr (admitNatConnection_settles config conn .discovered)
  | adoptDirectInboundHandle peerId remote method session sink =>
      exact (Program.wp_map ..).mpr
        (adoptDirectInboundHandle_settles config peerId remote method session sink)
  | adoptRelayedInbound conn =>
      exact (Program.wp_map ..).mpr (adoptRelayedInboundInner_settles config _)
  | adoptRelayedInboundHandle peerId remote session sink =>
      exact (Program.wp_map ..).mpr (adoptRelayedInboundInner_settles config _)
  | setNatBroadcastSink peerId sink =>
      exact settles_of_quiet ((quiet_setNatBroadcastSink peerId sink).bind fun _ => Quiet.pure _)
  | disconnect peerId => exact (Program.wp_map ..).mpr (disconnect_settles peerId)
  | reapDepartedPeers => exact (Program.wp_map ..).mpr reapDepartedPeers_settles
  | banPeer peerId =>
      exact settles_of_quiet ((quiet_banPeer peerId).bind fun _ => Quiet.pure _)
  | penalizePeer peerId reason =>
      exact settles_of_quiet ((quiet_penalizePeer peerId reason).bind fun _ => Quiet.pure _)
  | disconnectAfterKeepaliveFailure peerId generation =>
      exact settles_of_quiet
        ((quiet_disconnectAfterKeepaliveFailure peerId generation).bind fun _ => Quiet.pure _)
  | applyInboundRateLimitViolation peerId generation =>
      exact settles_of_quiet
        ((quiet_applyInboundRateLimitViolation peerId generation).bind fun _ => Quiet.pure _)
  | runPoolMaintenanceOnce relayReachable candidates dials =>
      apply (Program.wp_map ..).mpr
      apply runPoolMaintenanceOnce_settles fun _ _ isOwed => isOwed
      intro candidate member peerId addr dialed known
      have unaddressed := List.all_eq_true.mp once candidate member
      rw [dialed, known] at unaddressed
      cases unaddressed
  | peerActivityGuard peerId =>
      exact settles_of_quiet ((quiet_perform rfl).bind fun _ =>
        (quiet_perform rfl).bind fun _ => Quiet.pure _)
  | dropActivityGuard peerId =>
      exact settles_of_quiet ((quiet_perform rfl).bind fun _ =>
        (quiet_perform rfl).bind fun _ => Quiet.pure _)
  | setClock now => exact settles_of_quiet ((quiet_perform rfl).bind fun _ => Quiet.pure _)
  | closeSession session => exact settles_of_quiet ((quiet_perform rfl).bind fun _ => Quiet.pure _)
  | demoteToLazy peerId => exact settles_of_quiet ((quiet_perform rfl).bind fun _ => Quiet.pure _)
  | promoteToEager peerId => exact settles_of_quiet ((quiet_perform rfl).bind fun _ => Quiet.pure _)

/-- Without the demand that only owed events are sent, the pass settles too. -/
theorem Operation.settles_unasked (config : GossipConfig) (op : Operation) :
    System.Owes (fun _ _ => True) settle (op.program config) 0 := by
  have others : op.announcesOnce = true ->
      System.Owes (fun _ _ => True) settle (op.program config) 0 :=
    fun once => Program.wp_of_due (op.settles config once) fun _ _ _ => trivial
  cases op with
  | runPoolMaintenanceOnce relayReachable candidates dials =>
      apply (Program.wp_map ..).mpr
      apply runPoolMaintenanceOnce_settles fun _ _ _ => trivial
      intro candidate member peerId addr dialed known
      exact ⟨trivial, fun _ => ⟨trivial, fun _ => ⟨trivial, fun _ => rfl⟩⟩⟩
  | _ => exact others rfl

end Service
end DigGossip
