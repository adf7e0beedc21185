import DigGossip.Service.Footprints

namespace DigGossip
namespace Service

open Foundations DigGossip.Types

/-!
# Re-admission

A peer that the map holds comes back over a new session.  The session takes
the peer's slot, so the map does not grow and the ceiling has nothing to say.
Every path looks the peer up before it charges the ceiling, but two: the dial
of an address and the accept loop count the peers before they know who it is,
and a full map turns the peer away from behind its own slot.
-/

/-- The admission paths, each with the session it has authenticated.  A dialed
peer may still leave its `RequestPeers` unanswered. -/
inductive AdmissionPath where
  | connectTo (addr : SocketAddr) (peerId : PeerId) (link : LinkId) (unanswered : Option String)
  | acceptInbound (remote : SocketAddr) (session : AcceptedTls)
  | adoptNatConnection (conn : NatConnection)
  | adoptDiscoveredNatConnection (conn : NatConnection)
  | adoptDirectInboundHandle (peerId : PeerId) (remote : SocketAddr) (method : TraversalKind)
      (session : SessionId) (sink : Option SinkId)
  | adoptRelayedInbound (conn : NatConnection)
  | adoptRelayedInboundHandle (peerId : PeerId) (remote : SocketAddr) (session : SessionId)
      (sink : Option SinkId)

/-- What a dial that authenticated this peer meets. -/
def dialed (peerId : PeerId) (link : LinkId) (unanswered : Option String) : Dialed where
  peerId := peerId
  link := link
  respondPeers :=
    match unanswered with
    | some detail => .error (.clientError detail)
    | none => .ok ()

namespace AdmissionPath

/-- The identity that the session authenticated. -/
def peerId : AdmissionPath -> PeerId
  | connectTo _ peerId _ _ => peerId
  | acceptInbound _ session => session.peerId
  | adoptNatConnection conn => conn.peerId
  | adoptDiscoveredNatConnection conn => conn.peerId
  | adoptDirectInboundHandle peerId _ _ _ _ => peerId
  | adoptRelayedInbound conn => conn.peerId
  | adoptRelayedInboundHandle peerId _ _ _ => peerId

def operation : AdmissionPath -> Operation
  | connectTo addr peerId link unanswered =>
      .connectTo addr (.ok (dialed peerId link unanswered))
  | acceptInbound remote session => .acceptInbound remote (some session)
  | adoptNatConnection conn => .adoptNatConnection conn
  | adoptDiscoveredNatConnection conn => .adoptDiscoveredNatConnection conn
  | adoptDirectInboundHandle peerId remote method session sink =>
      .adoptDirectInboundHandle peerId remote method session sink
  | adoptRelayedInbound conn => .adoptRelayedInbound conn
  | adoptRelayedInboundHandle peerId remote session sink =>
      .adoptRelayedInboundHandle peerId remote session sink

/-- The slot of the new session; a live one is of the next generation. -/
def slot (s : ServiceState) : AdmissionPath -> PeerSlot
  | connectTo addr _ link _ => liveSlot addr true link s.peerGeneration
  | acceptInbound remote session => liveSlot remote false session.link s.peerGeneration
  | adoptNatConnection conn => conn.slot
  | adoptDiscoveredNatConnection conn => conn.slot
  | adoptDirectInboundHandle peerId remote method session sink => InboundSession.slot {
      peerId := peerId, remote := remote, method := method
      transport := .observed session, sink := sink }
  | adoptRelayedInbound conn => InboundSession.slot {
      peerId := conn.peerId, remote := conn.remoteAddr, method := conn.method
      transport := .owned conn.session, sink := none }
  | adoptRelayedInboundHandle peerId remote session sink => InboundSession.slot {
      peerId := peerId, remote := remote, method := .relayed
      transport := .observed session, sink := sink }

end AdmissionPath

/-! ## How a path ends -/

/-- The refusals for want of room in the whole map. -/
def isCeilingRefusal : GossipError -> Bool
  | .maxConnectionsReached _ => true
  | .connectionFiltered (.poolFull _) => true
  | .connectionFiltered (.victimNotHeld _) => true
  | _ => false

def Outcome.refusedAtCeiling : Outcome -> Bool
  | peer (.error error) => isCeilingRefusal error
  | admission (.error error) => isCeilingRefusal error
  | _ => false

def Outcome.admitted : Outcome -> Bool
  | peer (.ok _) => true
  | admission (.ok _) => true
  | _ => false

def Action.isCount : Action -> Bool
  | peers .len => true
  | _ => false

def Action.isInsertLive : Action -> Bool
  | peers (.insertLive _ _ _ _) => true
  | _ => false

namespace AdmissionPath

section Runs

variable (path : AdmissionPath) (order : PeerId -> Nat) (s : ServiceState)

def program : ServiceProgram Outcome :=
  path.operation.program s.config

/-- The state after the path has run. -/
def after : ServiceState :=
  (Program.alone (exec order) (path.program s) s).1

def outcome : Outcome :=
  (Program.alone (exec order) (path.program s) s).2

def trail : List Action :=
  Program.trail (exec order) (path.program s) s

/-- The path turned the session away for the ceiling.  A round of the accept
loop reports nothing: it drops the socket when it ends with the count. -/
def refusedAtCeiling : Bool :=
  match path with
  | acceptInbound _ _ => (path.trail order s).getLast?.any Action.isCount
  | _ => (path.outcome order s).refusedAtCeiling

/-- The path admitted the session; an accepted one when its slot was inserted. -/
def admitted : Bool :=
  match path with
  | acceptInbound _ _ => (path.trail order s).any Action.isInsertLive
  | _ => (path.outcome order s).admitted

/-- Re-admission replaces: the ceiling does not refuse it, and when it is
admitted the map has as many slots as before, the new session in the peer's. -/
def Readmits : Prop :=
  path.refusedAtCeiling order s = false ∧
    (path.admitted order s = true ->
      FiniteMap.size (path.after order s).peers = FiniteMap.size s.peers ∧
        (path.after order s).peers.lookup path.peerId = some (path.slot s))

/-- The peers are counted, and fill the map, before the peer is known. -/
def CountedUnknown : Prop :=
  match path with
  | connectTo addr _ _ _ => s.lifecycle = .running ∧ s.dialTargetsLocalListen addr = false ∧
      s.config.maxConnections ≤ FiniteMap.size s.peers
  | acceptInbound _ _ => s.lifecycle = .running ∧ s.config.maxConnections ≤ FiniteMap.size s.peers
  | _ => False

end Runs

end AdmissionPath

/-! ## What the regions answer for a held peer -/

/-- The answer is no refusal for the ceiling, and an admission left this map. -/
def Replaces {R : Type} (replaced after : Peers) : Except GossipError R -> Prop
  | .error error => isCeilingRefusal error = false
  | .ok _ => after = replaced

section Regions

variable {s : ServiceState}

theorem replaces_admitNat {conn : NatConnection} (order : PeerId -> Nat) (source : AdmissionSource)
    (held : (s.peers.lookup conn.peerId).isSome = true) :
    Replaces (s.peers.insert conn.peerId conn.slot) (s.admitNat order conn source).1.peers
      (s.admitNat order conn source).2 := by
  have known : (s.peers.lookup conn.peerId).isNone = false := Option.isNone_eq_false_iff.mpr held
  unfold ServiceState.admitNat
  cases refused : s.refuseNat conn source with
  | some error =>
      simp only [ServiceState.refuseNat, known, Bool.false_eq_true, false_and, if_false] at refused
      show isCeilingRefusal error = false
      split at refused
      · cases refused
      · split at refused
        · split at refused
          · cases refused
            rfl
          · cases refused
        · rcases Option.map_eq_some_iff.mp refused with ⟨kind, _, rfl⟩
          rfl
  | none =>
      simp only [known, Bool.false_eq_true, false_and, if_false]
      rfl

theorem replaces_adoptInbound {session : InboundSession} {refusal : Option GossipError}
    (otherwise : forall error, refusal = some error -> isCeilingRefusal error = false) :
    Replaces (s.peers.insert session.peerId session.slot) (s.adoptInbound refusal session).1.peers
      (s.adoptInbound refusal session).2 := by
  cases refusal with
  | some error => exact otherwise error rfl
  | none => rfl

theorem refuseDirectInbound_held {session : InboundSession}
    (held : (s.peers.lookup session.peerId).isSome = true) {error : GossipError}
    (refused : s.refuseDirectInbound session = some error) : isCeilingRefusal error = false := by
  have known : (s.peers.lookup session.peerId).isNone = false := Option.isNone_eq_false_iff.mpr held
  simp only [ServiceState.refuseDirectInbound, known, Bool.false_eq_true, false_and,
    if_false] at refused
  split_ifs at refused
  all_goals
    cases refused
    rfl

theorem refuseRelayedInbound_held {session : InboundSession}
    (held : (s.peers.lookup session.peerId).isSome = true) {error : GossipError}
    (refused : s.refuseRelayedInbound session = some error) : isCeilingRefusal error = false := by
  have known : (s.peers.lookup session.peerId).isNone = false := Option.isNone_eq_false_iff.mpr held
  simp only [ServiceState.refuseRelayedInbound, known, Bool.false_eq_true, false_and,
    if_false] at refused
  split_ifs at refused
  all_goals
    cases refused
    rfl

/-- A dialed session that is not refused takes the peer's slot. -/
theorem peers_admitLive {peerId : PeerId} {remote : SocketAddr} {link : LinkId} {generation : Nat}
    {superseded : Option PeerSlot}
    (admitted : (s.admitLive peerId remote link generation).2 = .ok superseded) :
    (s.admitLive peerId remote link generation).1.peers =
      s.peers.insert peerId (liveSlot remote true link generation) := by
  unfold ServiceState.admitLive at admitted ⊢
  simp only at admitted ⊢
  split
  · rename_i refused
    rw [refused] at admitted
    cases admitted
  · rfl

end Regions

/-! ## What stays the same along a path -/

section Programs

variable (order : PeerId -> Nat)

/-- What the regions look at and the expiry of bans leaves as it is. -/
def beforeRegion (s : ServiceState) : Peers × GossipConfig × Nat :=
  (s.peers, s.config, s.peerGeneration)

theorem beforeRegion_of_isBanUpkeep {action : Action} (upkeep : action.isBanUpkeep = true)
    (s : ServiceState) : beforeRegion (exec order action s).1 = beforeRegion s := by
  cases action <;> first | rfl | cases upkeep

theorem exec_isRunning {s : ServiceState} :
    (exec order .isRunning s).2 = true ↔ s.lifecycle = .running :=
  beq_iff_eq

theorem peers_of_isAside {action : Action} (aside : action.isAside = true) (s : ServiceState) :
    (exec order action s).1.peers = s.peers := by
  rcases exec_peers order action s with same | ⟨region, rfl, entered⟩
  · exact same
  · cases region <;> first | exact entered | cases aside

/-- What a program ends with, when nothing else interleaves with it. -/
def EndsReplacing {R : Type} (replaced : Peers) (ended : ServiceState × Except GossipError R) :
    Prop :=
  Replaces replaced ended.1.peers ended.2

/-- What follows the region announces the admission and changes no slot any more. -/
theorem endsReplacing_aside {A R : Type} {program : ServiceProgram A}
    (only : Program.Only Action.isAside program)
    {rest : A -> ServiceProgram (Except GossipError R)} {s : ServiceState}
    (after : forall result t, EndsReplacing t.peers (Program.alone (exec order) (rest result) t)) :
    EndsReplacing s.peers (Program.alone (exec order) (program >>= rest) s) := by
  refine only.alone_bind ServiceState.peers (fun _ aside => peers_of_isAside order aside)
    (EndsReplacing s.peers) ?_
  intro t result kept
  rw [<- kept]
  exact after result t

/-- A banned peer is refused; any other comes to the rest of the path with the
map, the configuration and the generation as they were. -/
theorem endsReplacing_unlessBanned {R : Type} {peerId : PeerId} {now : Nat} {replaced : Peers}
    {s : ServiceState} {banned rest : ServiceProgram (Except GossipError R)}
    (refuses : forall t, EndsReplacing replaced (Program.alone (exec order) banned t))
    (after : forall t, beforeRegion t = beforeRegion s ->
      EndsReplacing replaced (Program.alone (exec order) rest t)) :
    EndsReplacing replaced (Program.alone (exec order)
      (isPeerIdBannedAt peerId now >>= fun found => if found then banned else rest) s) := by
  refine Program.Only.alone_bind (only_isPeerIdBannedAt peerId now) beforeRegion
    (fun _ upkeep => beforeRegion_of_isBanUpkeep order upkeep) (EndsReplacing replaced) ?_
  intro t found kept
  cases found with
  | true => exact refuses t
  | false => exact after t kept

/-! ## The paths -/

section Paths

variable {s : ServiceState}

theorem endsReplacing_admitNat {conn : NatConnection} (source : AdmissionSource)
    (held : (s.peers.lookup conn.peerId).isSome = true) :
    EndsReplacing (s.peers.insert conn.peerId conn.slot)
      (Program.alone (exec order) (admitNatConnection s.config conn source) s) := by
  unfold admitNatConnection perform within
  simp only [Program.alone_perform_bind]
  cases running : (exec order .isRunning s).2 with
  | false => rfl
  | true =>
      simp only [Bool.not_true, Bool.false_eq_true, if_false]
      split
      · rfl
      · apply endsReplacing_unlessBanned order
        · intro t
          rfl
        · intro t kept
          have samePeers : t.peers = s.peers := congrArg Prod.fst kept
          have answer : Replaces (s.peers.insert conn.peerId conn.slot)
              (exec order (.peers (.admitNat conn source)) t).1.peers
              (exec order (.peers (.admitNat conn source)) t).2 := by
            rw [<- samePeers] at held ⊢
            exact replaces_admitNat order source held
          simp only [Program.alone_perform_bind]
          cases reply : (exec order (.peers (.admitNat conn source)) t).2 with
          | error error =>
              rw [reply] at answer
              exact answer
          | ok admission =>
              rw [reply] at answer
              rw [<- show _ = _ from answer]
              refine endsReplacing_aside order (only_joinPool _ _ _) fun _ _ => ?_
              exact endsReplacing_aside order (only_announceDisplaced _) fun _ _ => rfl

/-- The maintained adoption reports the peer alone. -/
theorem endsReplacing_adoptNat {conn : NatConnection}
    (held : (s.peers.lookup conn.peerId).isSome = true) :
    EndsReplacing (s.peers.insert conn.peerId conn.slot)
      (Program.alone (exec order) (adoptNatConnection s.config conn) s) := by
  have ends := endsReplacing_admitNat order .maintained held
  unfold adoptNatConnection EndsReplacing at *
  rw [Program.alone_bind]
  cases result : (Program.alone (exec order)
      (admitNatConnection s.config conn .maintained) s).2 with
  | error error =>
      rw [result] at ends
      exact ends
  | ok admission =>
      rw [result] at ends
      exact ends

theorem endsReplacing_adoptDirect {peerId : PeerId} {remote : SocketAddr} {method : TraversalKind}
    {session : SessionId} {sink : Option SinkId} (held : (s.peers.lookup peerId).isSome = true) :
    EndsReplacing
      (s.peers.insert peerId (InboundSession.slot {
        peerId := peerId, remote := remote, method := method
        transport := .observed session, sink := sink }))
      (Program.alone (exec order)
        (adoptDirectInboundHandle s.config peerId remote method session sink) s) := by
  unfold adoptDirectInboundHandle perform within
  simp only [Program.alone_perform_bind]
  cases running : (exec order .isRunning s).2 with
  | false => rfl
  | true =>
      simp only [Bool.not_true, Bool.false_eq_true, if_false]
      split
      · rfl
      · rename_i tier
        split
        · rfl
        · apply endsReplacing_unlessBanned order
          · intro t
            rfl
          · intro t kept
            have samePeers : t.peers = s.peers := congrArg Prod.fst kept
            rw [<- samePeers] at held ⊢
            let accepted : DirectInbound := {
              peerId := peerId, remote := remote, method := method
              transport := .observed session, sink := sink, direct := tier }
            have answer : Replaces (t.peers.insert peerId accepted.toInboundSession.slot)
                (exec order (.peers (.adoptDirectInbound accepted)) t).1.peers
                (exec order (.peers (.adoptDirectInbound accepted)) t).2 :=
              replaces_adoptInbound fun _ => refuseDirectInbound_held held
            simp only [Program.alone_perform_bind]
            cases reply : (exec order (.peers (.adoptDirectInbound accepted)) t).2 with
            | error error =>
                rw [reply] at answer
                exact answer
            | ok superseded =>
                rw [reply] at answer
                rw [<- show _ = _ from answer]
                exact endsReplacing_aside order (only_joinPool _ _ _) fun _ _ => rfl

theorem endsReplacing_adoptRelayed {session : InboundSession}
    (held : (s.peers.lookup session.peerId).isSome = true) :
    EndsReplacing (s.peers.insert session.peerId session.slot)
      (Program.alone (exec order) (adoptRelayedInboundInner s.config session) s) := by
  unfold adoptRelayedInboundInner perform within
  simp only [Program.alone_perform_bind]
  cases running : (exec order .isRunning s).2 with
  | false => rfl
  | true =>
      simp only [Bool.not_true, Bool.false_eq_true, if_false]
      split
      · rename_i tier
        split
        · rfl
        · apply endsReplacing_unlessBanned order
          · intro t
            rfl
          · intro t kept
            have samePeers : t.peers = s.peers := congrArg Prod.fst kept
            rw [<- samePeers] at held ⊢
            let accepted : RelayedInbound := { session with relayed := tier }
            have answer : Replaces (t.peers.insert session.peerId session.slot)
                (exec order (.peers (.adoptRelayedInbound accepted)) t).1.peers
                (exec order (.peers (.adoptRelayedInbound accepted)) t).2 :=
              replaces_adoptInbound fun _ => refuseRelayedInbound_held held
            simp only [Program.alone_perform_bind]
            cases reply : (exec order (.peers (.adoptRelayedInbound accepted)) t).2 with
            | error error =>
                rw [reply] at answer
                exact answer
            | ok superseded =>
                rw [reply] at answer
                rw [<- show _ = _ from answer]
                exact endsReplacing_aside order (only_joinPool _ _ _) fun _ _ => rfl
      · rfl

/-- A dial that the count does not turn away. -/
theorem endsReplacing_connectTo {addr : SocketAddr} {peerId : PeerId} {link : LinkId}
    {unanswered : Option String}
    (spare : ¬AdmissionPath.CountedUnknown (.connectTo addr peerId link unanswered) s) :
    EndsReplacing (s.peers.insert peerId (liveSlot addr true link s.peerGeneration))
      (Program.alone (exec order)
        (connectTo s.config addr (.ok (dialed peerId link unanswered))) s) := by
  unfold connectTo perform within
  simp only [Program.alone_perform_bind]
  cases running : (exec order .isRunning s).2 with
  | false => rfl
  | true =>
      simp only [Bool.not_true, Bool.false_eq_true, if_false, Program.alone_perform_bind]
      split
      · rfl
      · rename_i elsewhere
        simp only [Program.alone_perform_bind]
        split
        · rename_i full
          exact absurd ⟨(exec_isRunning order).mp running, eq_false_of_ne_true elsewhere, full⟩ spare
        · split
          · rfl
          · apply endsReplacing_unlessBanned order
            · intro t
              rfl
            · intro t kept
              cases unanswered with
              | some detail => rfl
              | none =>
                  have samePeers : t.peers = s.peers := congrArg Prod.fst kept
                  have sameGeneration : t.peerGeneration = s.peerGeneration :=
                    congrArg (fun view => view.2.2) kept
                  rw [<- samePeers, <- sameGeneration]
                  simp only [dialed, Program.alone_perform_bind]
                  cases reply : (exec order (.peers (.admitLive peerId addr link
                      (exec order .nextPeerGeneration t).2)) (exec order .nextPeerGeneration t).1).2 with
                  | error kind => rfl
                  | ok superseded =>
                      refine (congrArg (EndsReplacing · _) (peers_admitLive reply)).mp ?_
                      exact endsReplacing_aside order (only_joinPool _ _ _) fun _ _ => rfl

/-! ## The accept loop -/

/-- A round that inserts a slot leaves this map. -/
def Inserting (replaced : Peers) (program : ServiceProgram Unit) (s : ServiceState) : Prop :=
  (Program.trail (exec order) program s).any Action.isInsertLive = true ->
    (Program.alone (exec order) program s).1.peers = replaced

theorem inserting_perform {replaced : Peers} {action : Action}
    {rest : action.Reply -> ServiceProgram Unit} (other : action.isInsertLive = false)
    (after : Inserting order replaced (rest (exec order action s).2) (exec order action s).1) :
    Inserting order replaced (Program.perform action >>= rest) s := by
  intro inserts
  simp only [Program.trail_perform_bind, List.any_cons, other, Bool.false_or] at inserts
  exact after inserts

/-- The permit given back at the end inserts nothing. -/
theorem inserting_releasePermit {replaced : Peers} {program : ServiceProgram Unit}
    (inserting : Inserting order replaced program s) :
    Inserting order replaced (program >>= fun _ => perform .releasePermit) s := by
  unfold Inserting
  rw [Program.trail_bind, List.any_append, Program.alone_bind]
  intro inserts
  rcases (Bool.or_eq_true _ _).mp inserts with first | last
  · exact inserting first
  · cases last

/-- The expiry of bans inserts no slot, and a banned peer is let go. -/
theorem inserting_unlessBanned {replaced : Peers} {peerId : PeerId} {now : Nat}
    {rest : ServiceProgram Unit} (after : forall t, beforeRegion t = beforeRegion s ->
      Inserting order replaced rest t) :
    Inserting order replaced
      (isPeerIdBannedAt peerId now >>= fun found => if found then pure () else rest) s := by
  have upkeep := only_isPeerIdBannedAt peerId now
  have silent : (Program.trail (exec order) (isPeerIdBannedAt peerId now) s).any
      Action.isInsertLive = false := by
    rw [List.any_eq_false]
    intro action done inserts
    have only := upkeep.mem_trail s action done
    cases action with
    | peers region => cases only
    | _ => cases inserts
  unfold Inserting
  rw [Program.trail_bind, List.any_append, silent, Bool.false_or, Program.alone_bind]
  cases (Program.alone (exec order) (isPeerIdBannedAt peerId now) s).2 with
  | true =>
      intro inserts
      cases inserts
  | false =>
      exact after _ (upkeep.alone beforeRegion
        (fun _ upkeep => beforeRegion_of_isBanUpkeep order upkeep) s)

/-- A handshake that inserts a slot ends with the session in it. -/
theorem inserting_handleInbound (remote : SocketAddr) (session : AcceptedTls)
    (config : GossipConfig) :
    Inserting order
      (s.peers.insert session.peerId (liveSlot remote false session.link s.peerGeneration))
      (handleInbound config remote (some session)) s := by
  unfold handleInbound perform within
  apply inserting_perform order
  · rfl
  cases running : (exec order .isRunning s).2 with
  | false => exact Bool.noConfusion
  | true =>
      simp only [Bool.not_true, Bool.false_eq_true, if_false]
      split
      · exact Bool.noConfusion
      · apply inserting_perform order
        · rfl
        apply inserting_unlessBanned order
        intro t kept
        have samePeers : t.peers = s.peers := congrArg Prod.fst kept
        have sameGeneration : t.peerGeneration = s.peerGeneration :=
          congrArg (fun view => view.2.2) kept
        rw [<- samePeers, <- sameGeneration]
        split
        · exact Bool.noConfusion
        · apply inserting_perform order
          · rfl
          intro _
          have retires : Program.Only Action.isAside
              (retireLive (t.peers.lookup session.peerId) >>= fun _ => perform .countConnection) :=
            ((only_retireLive _).mono fun _ => Action.isAside_of_isEffect).bind fun _ =>
              Program.Only.perform rfl
          exact retires.alone ServiceState.peers (fun _ aside => peers_of_isAside order aside) _

theorem inserting_acceptInbound (remote : SocketAddr) (session : AcceptedTls) :
    Inserting order
      (s.peers.insert session.peerId (liveSlot remote false session.link s.peerGeneration))
      (acceptInbound s.config remote (some session)) s := by
  unfold acceptInbound perform within
  apply inserting_perform order
  · rfl
  split
  · exact Bool.noConfusion
  · apply inserting_perform order
    · rfl
    split
    · exact Bool.noConfusion
    · apply inserting_perform order
      · rfl
      split
      · exact Bool.noConfusion
      · have same : beforeRegion (exec order .tryAcquirePermit s).1 = beforeRegion s := by
          simp only [exec]
          split <;> rfl
        have samePeers : (exec order .tryAcquirePermit s).1.peers = s.peers := congrArg Prod.fst same
        have sameGeneration : (exec order .tryAcquirePermit s).1.peerGeneration =
            s.peerGeneration := congrArg (fun view => view.2.2) same
        rw [<- samePeers, <- sameGeneration]
        exact inserting_releasePermit order (inserting_handleInbound order remote session s.config)

/-- A round ends with the count exactly when the service runs and the map is full. -/
theorem lastCounts_acceptInbound (remote : SocketAddr) (tls : Option AcceptedTls) :
    (Program.trail (exec order) (acceptInbound s.config remote tls) s).getLast?.any Action.isCount =
        true ↔
      s.lifecycle = .running ∧ s.config.maxConnections ≤ FiniteMap.size s.peers := by
  unfold acceptInbound perform within
  simp only [Program.trail_perform_bind]
  cases running : (exec order .isRunning s).2 with
  | false =>
      refine ⟨Bool.noConfusion, fun counted => ?_⟩
      rw [(exec_isRunning order).mpr counted.1] at running
      cases running
  | true =>
      simp only [Bool.not_true, Bool.false_eq_true, if_false, Program.trail_perform_bind]
      split
      · rename_i full
        exact ⟨fun _ => ⟨(exec_isRunning order).mp running, full⟩, fun _ => rfl⟩
      · rename_i room
        refine ⟨?_, fun counted => absurd counted.2 room⟩
        simp only [Program.trail_perform_bind]
        split
        · exact Bool.noConfusion
        · rw [Program.trail_bind, <- List.cons_append, <- List.cons_append, <- List.cons_append,
            show Program.trail (exec order) (Program.perform Action.releasePermit) _ =
              [Action.releasePermit] from rfl, List.getLast?_concat]
          exact Bool.noConfusion

/-! ## Replace, not grow -/

/-- A dial that the count turns away says so. -/
theorem connectTo_counted {addr : SocketAddr} {peerId : PeerId} {link : LinkId}
    {unanswered : Option String}
    (counted : AdmissionPath.CountedUnknown (.connectTo addr peerId link unanswered) s)
    (dial : Except GossipError Dialed) :
    (Program.alone (exec order) (connectTo s.config addr dial) s).2 =
      .error (.maxConnectionsReached s.config.maxConnections) := by
  unfold connectTo perform within
  have running : (exec order .isRunning s).2 = true := (exec_isRunning order).mpr counted.1
  have elsewhere :
      (exec order (.dialTargetsLocalListen addr) (exec order .isRunning s).1).2 = false :=
    counted.2.1
  simp only [Program.alone_perform_bind]
  rw [running]
  simp only [Bool.not_true, Bool.false_eq_true, if_false, Program.alone_perform_bind]
  rw [elsewhere]
  simp only [Bool.false_eq_true, if_false, Program.alone_perform_bind]
  split
  · rfl
  · rename_i room
    exact absurd counted.2.2 room

/-- What an operation that reports its result in this form says of a run. -/
theorem reports {R : Type} {wrap : Except GossipError R -> Outcome}
    {program : ServiceProgram (Except GossipError R)} {replaced : Peers}
    (refusals : forall error, (wrap (.error error)).refusedAtCeiling = isCeilingRefusal error ∧
      (wrap (.error error)).admitted = false)
    (admissions : forall result, (wrap (.ok result)).refusedAtCeiling = false)
    (ends : EndsReplacing replaced (Program.alone (exec order) program s)) :
    (Program.alone (exec order) (wrap <$> program) s).2.refusedAtCeiling = false ∧
      ((Program.alone (exec order) (wrap <$> program) s).2.admitted = true ->
        (Program.alone (exec order) (wrap <$> program) s).1.peers = replaced) := by
  rw [Program.alone_map]
  unfold EndsReplacing at ends
  cases result : (Program.alone (exec order) program s).2 with
  | error error =>
      rw [result] at ends
      refine ⟨(refusals error).1.trans ends, fun admitted => ?_⟩
      rw [(refusals error).2] at admitted
      cases admitted
  | ok value =>
      rw [result] at ends
      exact ⟨admissions value, fun _ => ends⟩

/-- A path that leaves the session in the peer's slot has replaced a held slot. -/
theorem readmits_of_replaced {path : AdmissionPath}
    (held : (s.peers.lookup path.peerId).isSome = true)
    (ends : path.refusedAtCeiling order s = false ∧ (path.admitted order s = true ->
      (path.after order s).peers = s.peers.insert path.peerId (path.slot s))) :
    path.Readmits order s := by
  refine ⟨ends.1, fun admitted => ?_⟩
  rcases Option.isSome_iff_exists.mp held with ⟨old, found⟩
  rw [ends.2 admitted]
  exact ⟨FiniteMap.size_insert_of_lookup found _, by rw [FiniteMap.lookup_insert_eq, if_pos rfl]⟩

theorem readmits_connectTo_iff {addr : SocketAddr} {peerId : PeerId} {link : LinkId}
    {unanswered : Option String} (held : (s.peers.lookup peerId).isSome = true) :
    AdmissionPath.Readmits (.connectTo addr peerId link unanswered) order s ↔
      ¬AdmissionPath.CountedUnknown (.connectTo addr peerId link unanswered) s := by
  constructor
  · intro readmits counted
    have refused : AdmissionPath.refusedAtCeiling (.connectTo addr peerId link unanswered)
        order s = true := by
      show Outcome.refusedAtCeiling (Program.alone (exec order) (Outcome.peer <$> _) s).2 = true
      rw [Program.alone_map, connectTo_counted order counted]
      rfl
    rw [readmits.1] at refused
    cases refused
  · intro spare
    exact readmits_of_replaced order held (reports order (fun _ => ⟨rfl, rfl⟩) (fun _ => rfl)
      (endsReplacing_connectTo order spare))

theorem readmits_acceptInbound_iff {remote : SocketAddr} {session : AcceptedTls}
    (held : (s.peers.lookup session.peerId).isSome = true) :
    AdmissionPath.Readmits (.acceptInbound remote session) order s ↔
      ¬AdmissionPath.CountedUnknown (.acceptInbound remote session) s := by
  have trails : AdmissionPath.trail (.acceptInbound remote session) order s =
      Program.trail (exec order) (acceptInbound s.config remote (some session)) s :=
    Program.trail_map _ _ s
  have counts : AdmissionPath.refusedAtCeiling (.acceptInbound remote session) order s = true ↔
      AdmissionPath.CountedUnknown (.acceptInbound remote session) s := by
    show (AdmissionPath.trail (.acceptInbound remote session) order s).getLast?.any
      Action.isCount = true ↔ _
    rw [trails]
    exact lastCounts_acceptInbound order remote (some session)
  constructor
  · intro readmits counted
    rw [<- counts, readmits.1] at counted
    cases counted
  · intro spare
    refine readmits_of_replaced order held ⟨eq_false_of_ne_true fun refused =>
      spare (counts.mp refused), fun admitted => ?_⟩
    have inserts : (AdmissionPath.trail (.acceptInbound remote session) order s).any
        Action.isInsertLive = true := admitted
    rw [trails] at inserts
    have ends : AdmissionPath.after (.acceptInbound remote session) order s =
        (Program.alone (exec order) (acceptInbound s.config remote (some session)) s).1 :=
      congrArg Prod.fst (Program.alone_map _ _ s)
    rw [ends]
    exact inserting_acceptInbound order remote session inserts

/-- A held peer is re-admitted in its place unless the path counts the peers
before it knows which of them this is, and finds the map full. -/
theorem readmits_iff (path : AdmissionPath) (order : PeerId -> Nat) (s : ServiceState)
    (held : (s.peers.lookup path.peerId).isSome = true) :
    path.Readmits order s ↔ ¬path.CountedUnknown s := by
  cases path with
  | connectTo addr peerId link unanswered => exact readmits_connectTo_iff order held
  | acceptInbound remote session => exact readmits_acceptInbound_iff order held
  | adoptNatConnection conn =>
      exact iff_of_true (readmits_of_replaced order held (reports order (fun _ => ⟨rfl, rfl⟩)
        (fun _ => rfl) (endsReplacing_adoptNat order held))) not_false
  | adoptDiscoveredNatConnection conn =>
      exact iff_of_true (readmits_of_replaced order held (reports order (fun _ => ⟨rfl, rfl⟩)
        (fun _ => rfl) (endsReplacing_admitNat order .discovered held))) not_false
  | adoptDirectInboundHandle peerId remote method session sink =>
      exact iff_of_true (readmits_of_replaced order held (reports order (fun _ => ⟨rfl, rfl⟩)
        (fun _ => rfl) (endsReplacing_adoptDirect order held))) not_false
  | adoptRelayedInbound conn =>
      exact iff_of_true (readmits_of_replaced order held (reports order (fun _ => ⟨rfl, rfl⟩)
        (fun _ => rfl) (@endsReplacing_adoptRelayed order s {
          peerId := conn.peerId, remote := conn.remoteAddr, method := conn.method
          transport := .owned conn.session, sink := none } held))) not_false
  | adoptRelayedInboundHandle peerId remote session sink =>
      exact iff_of_true (readmits_of_replaced order held (reports order (fun _ => ⟨rfl, rfl⟩)
        (fun _ => rfl) (@endsReplacing_adoptRelayed order s {
          peerId := peerId, remote := remote, method := .relayed
          transport := .observed session, sink := sink } held))) not_false

end Paths

end Programs

namespace Example

/-- A node with room for one peer, whose slot is left from a dropped dial. -/
def behindItsSlot : ServiceState :=
  (crowded.after (inSequence 24 [connected 1 (host 1 1)])).shared

/-- The peer dialed again. -/
def dialedAgain : AdmissionPath :=
  .connectTo (host 1 1) 1 9 none

/-- The peer knocking by itself. -/
def knocking : AdmissionPath :=
  .acceptInbound (host 1 2) { peerId := 1, link := 9, negotiated := true }

end Example

open Example in
theorem readmits_iff_adopted : (behindItsSlot.peers.lookup 1).isSome = true ∧
    behindItsSlot.config.maxConnections ≤ FiniteMap.size behindItsSlot.peers ∧
    AdmissionPath.Readmits (.adoptNatConnection (direct 1)) (fun _ => 0) behindItsSlot :=
  ⟨by decide +kernel, by decide +kernel, (readmits_iff (.adoptNatConnection (direct 1)) (fun _ => 0)
    behindItsSlot (by decide +kernel)).mpr not_false⟩

open Example in
/-- The full map keeps its one peer out on both ways back. -/
theorem stale_slot_strands : (behindItsSlot.peers.lookup 1).isSome = true ∧
    dialedAgain.peerId = 1 ∧ ¬dialedAgain.Readmits (fun _ => 0) behindItsSlot ∧
    knocking.peerId = 1 ∧ ¬knocking.Readmits (fun _ => 0) behindItsSlot := by
  have dialRefused : dialedAgain.refusedAtCeiling (fun _ => 0) behindItsSlot = true := by
    decide +kernel
  have knockRefused : knocking.refusedAtCeiling (fun _ => 0) behindItsSlot = true := by
    decide +kernel
  refine ⟨by decide +kernel, rfl, fun readmits => ?_, rfl, fun readmits => ?_⟩
  · rw [readmits.1] at dialRefused
    cases dialRefused
  · rw [readmits.1] at knockRefused
    cases knockRefused

end Service
end DigGossip
