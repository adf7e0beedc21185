import DigGossip.Service.Footprints
import DigGossip.Service.Reservations

namespace DigGossip
namespace Service

open Foundations DigGossip.Types
open Program (Only Quiet wp wp_bind wp_mono wp_perform_bind wp_of_quiet wp_quiet_bind)

/-!
# The dials of the maintenance passes

A pass counts the peers and the dials in flight once and plans its dials for
the room that leaves.  It dials one candidate after another and does not count
again, so the cap holds at the start of a dial as long as what the other
operations have added since fits into the room.
-/

/-- The direct peers together with the dials in flight. -/
def ServiceState.load (s : ServiceState) : Nat :=
  FiniteMap.size s.peers + s.pool.inFlight.card

/-- By how much a change adds peers, and by how much it adds dials in flight. -/
def growth (before after : ServiceState) : Nat :=
  (FiniteMap.size after.peers - FiniteMap.size before.peers) +
    (after.pool.inFlight.card - before.pool.inFlight.card)

/-- What a pass has counted, the dials it has started since, and those of them
whose reservation it still holds. -/
structure Tally where
  counted : Nat
  started : Nat
  dialing : Nat
deriving DecidableEq

namespace Tally

def zero : Tally := { counted := 0, started := 0, dialing := 0 }

def settle (tally : Tally) : (action : Action) -> action.Reply -> Tally
  | .peers .len, direct => { counted := direct, started := 0, dialing := 0 }
  | .inFlightCount, inFlight => { tally with counted := tally.counted + inFlight }
  | .reserve _, true =>
      { tally with started := tally.started + 1, dialing := tally.dialing + 1 }
  | .release _, _ => { tally with dialing := tally.dialing - 1 }
  | _, _ => tally

end Tally

/-- A pass as an observer sees it, and by how much the other operations have
added peers and dials since it counted the peers. -/
structure Watch where
  tally : Tally
  grown : Nat

namespace Watch

def own (view : Watch) (action : Action) (reply : action.Reply) : Watch where
  tally := view.tally.settle action reply
  grown :=
    match action with
    | .peers .len => 0
    | _ => view.grown

def others (view : Watch) (before after : ServiceState) : Watch :=
  { view with grown := view.grown + growth before after }

/-- What the others have added fits next to what the pass has counted and
started and the dial it is to start. -/
def hasRoom (max : Nat) (view : Watch) : Bool :=
  decide (view.grown ≤ max - (view.tally.counted + view.tally.started + 1))

end Watch

namespace Launch

variable (launch : Launch)

/-- The pass of a thread after these moves. -/
def watch (thread : Nat) (moves : List ServiceMove) : Watch :=
  (service launch.config).watch Watch.own Watch.others thread moves launch.world
    { tally := .zero, grown := 0 }

/-- The thread that starts a dial by this move: its candidate is reserved for it. -/
def startsDial (before : List ServiceMove) : ServiceMove -> Option Nat
  | .spawn _ => none
  | .advance thread order =>
      match (service launch.config).deed (launch.after before) (.advance thread order) with
      | some ⟨.reserve _, true⟩ => some thread
      | _ => none

/-- Every dial of a run is started while what the others have added fits. -/
def dialsHaveRoom (max : Nat) (moves : List ServiceMove) : Bool :=
  (List.range moves.length).all fun count =>
    (moves[count]?.bind (launch.startsDial (moves.take count))).all fun thread =>
      (launch.watch thread (moves.take count)).hasRoom max

end Launch

/-! ## What a pass reckons with -/

/-- How far a pass has counted: nothing, the peers, or the dials in flight too. -/
inductive Reckoned where
  | nothing
  | peers
  | whole
deriving DecidableEq

/-- The tally of a pass, how far it has counted, and the room of its present
dial that no admission has taken. -/
structure Reckoning where
  tally : Tally
  reckoned : Reckoned
  spare : Nat

namespace Reckoning

def fresh : Reckoning := { tally := .zero, reckoned := .nothing, spare := 0 }

def settle (reckoning : Reckoning) (action : Action) (reply : action.Reply) : Reckoning where
  tally := reckoning.tally.settle action reply
  reckoned :=
    match action with
    | .peers .len => .peers
    | .inFlightCount => .whole
    | _ => reckoning.reckoned
  spare :=
    match action, reply with
    | .inFlightCount, _ => 0
    | .reserve _, true => reckoning.spare + 1
    | .peers (.admitNat _ _), _ => reckoning.spare - 1
    | _, _ => reckoning.spare

/-- A pass counts before it dials, dials within what it counted one candidate
at a time, and admits at most one peer by each dial. -/
def Due (max : Nat) (reckoning : Reckoning) : Action -> Prop
  | .peers .len => reckoning.reckoned = .nothing
  | .peers .connectedPoolKeys => True
  | .peers (.containsKey _) => True
  | .peers (.admitNat _ _) => reckoning.reckoned = .whole ∧ 1 ≤ reckoning.spare
  | .peers _ => False
  | .inFlightCount => reckoning.reckoned = .peers
  | .reserve _ => reckoning.reckoned = .whole ∧ reckoning.tally.dialing = 0 ∧
      reckoning.tally.counted + reckoning.tally.started + 1 ≤ max
  | .release _ => reckoning.reckoned = .whole ∧ reckoning.tally.dialing = 1
  | _ => True

/-- What the pass has counted bounds what there is, up to what the others have added. -/
def Knows (reckoning : Reckoning) (s : ServiceState) (grown : Nat) : Prop :=
  match reckoning.reckoned with
  | .nothing => True
  | .peers => FiniteMap.size s.peers ≤ reckoning.tally.counted + grown
  | .whole => s.load + reckoning.spare ≤ reckoning.tally.counted + reckoning.tally.started +
      reckoning.tally.dialing + grown

end Reckoning

section Pass

variable {max : Nat} {reckoning : Reckoning}

theorem quiet_of_aside {R : Type} {program : ServiceProgram R}
    (only : Only Action.isAside program) :
    Quiet (Reckoning.Due max) Reckoning.settle program := by
  apply only.quiet
  · intro action aside reckoning
    cases action with
    | peers region => cases region <;> trivial
    | _ => trivial
  · intro action aside reckoning reply
    cases action with
    | peers region => cases region <;> first | rfl | cases aside
    | _ => first | rfl | cases aside

theorem quiet_of_banUpkeep {R : Type} {program : ServiceProgram R}
    (only : Only Action.isBanUpkeep program) :
    Quiet (Reckoning.Due max) Reckoning.settle program :=
  quiet_of_aside (only.mono fun _ => Action.isAside_of_isBanUpkeep)

variable (config : GossipConfig)

theorem admitNatConnection_reckons (conn : NatConnection) (source : AdmissionSource)
    (whole : reckoning.reckoned = .whole) (spare : 1 ≤ reckoning.spare) :
    wp (Reckoning.Due max) Reckoning.settle (admitNatConnection config conn source) reckoning
      fun _ after => after.reckoned = .whole ∧ after.tally = reckoning.tally := by
  refine wp_perform_bind trivial fun running => ?_
  split
  · exact ⟨whole, rfl⟩
  split
  · exact ⟨whole, rfl⟩
  refine wp_perform_bind trivial fun now => ?_
  refine wp_quiet_bind (quiet_of_banUpkeep (only_isPeerIdBannedAt conn.peerId now)) fun banned => ?_
  split
  · exact ⟨whole, rfl⟩
  refine wp_perform_bind ⟨whole, spare⟩ fun admission => ?_
  cases admission with
  | error error => exact ⟨whole, rfl⟩
  | ok admission =>
      refine wp_quiet_bind (quiet_of_aside (only_joinPool _ _ _)) fun _ => ?_
      refine wp_quiet_bind (quiet_of_aside (only_announceDisplaced _)) fun _ => ?_
      exact ⟨whole, rfl⟩

theorem dialCandidate_reckons (dials : PoolCandidate -> Except GossipError NatConnection)
    (candidate : PoolCandidate) (whole : reckoning.reckoned = .whole)
    (spare : 1 ≤ reckoning.spare) :
    wp (Reckoning.Due max) Reckoning.settle (dialCandidate config dials candidate) reckoning
      fun _ after => after.reckoned = .whole ∧ after.tally = reckoning.tally := by
  unfold dialCandidate
  split
  · exact ⟨whole, rfl⟩
  · split
    · exact ⟨whole, rfl⟩
    · rw [adoptNatConnection, wp_bind]
      exact wp_mono (admitNatConnection_reckons config _ .maintained whole spare)
        fun _ _ done => done

/-- Between its dials a pass holds no reservation and has room for the dials still planned. -/
structure Reckoning.Idle (max planned : Nat) (reckoning : Reckoning) : Prop where
  whole : reckoning.reckoned = .whole
  free : reckoning.tally.dialing = 0
  room : 0 < planned -> reckoning.tally.counted + reckoning.tally.started + planned ≤ max

theorem dialPlanned_reckons {planned : Nat} (idle : reckoning.Idle max (planned + 1))
    (cfg : PeerPoolConfig) (now : Nat)
    (dials : PoolCandidate -> Except GossipError NatConnection) (candidate : PoolCandidate) :
    wp (Reckoning.Due max) Reckoning.settle (dialPlanned config cfg now dials candidate) reckoning
      fun _ after => after.Idle max planned := by
  have room := idle.room (Nat.succ_pos planned)
  refine wp_perform_bind ⟨idle.whole, idle.free, by omega⟩ fun reserved => ?_
  cases reserved with
  | false =>
      have fewer : reckoning.tally.counted + reckoning.tally.started + planned ≤ max := by omega
      exact ⟨idle.whole, idle.free, fun _ => fewer⟩
  | true =>
      let dialing := reckoning.settle (.reserve candidate.dedupKey) true
      have dialed : wp (Reckoning.Due max) Reckoning.settle (dialCandidate config dials candidate)
          dialing fun _ after => after.reckoned = .whole ∧ after.tally = dialing.tally :=
        dialCandidate_reckons config dials candidate idle.whole (Nat.succ_pos _)
      change wp _ _ (dialCandidate config dials candidate >>= _) dialing _
      rw [wp_bind]
      refine wp_mono dialed ?_
      rintro result after ⟨whole, same⟩
      have one : after.tally.dialing = 1 := by
        rw [same]
        exact congrArg (· + 1) idle.free
      refine wp_perform_bind ⟨whole, one⟩ fun _ => ?_
      have ended : (after.settle (.release candidate.dedupKey) ()).Idle max planned := by
        refine ⟨whole, ?_, fun _ => ?_⟩
        · change after.tally.dialing - 1 = 0
          omega
        · change after.tally.counted + after.tally.started + planned ≤ max
          rw [same]
          change reckoning.tally.counted + (reckoning.tally.started + 1) + planned ≤ max
          omega
      cases result with
      | error error => exact wp_perform_bind trivial fun _ => ended
      | ok peerId =>
          refine wp_perform_bind trivial fun _ => ?_
          refine wp_perform_bind trivial fun _ => ?_
          have announced : Only Action.isAside (announceDialed peerId candidate.addr) := by
            cases candidate.addr with
            | none => exact Only.pure ()
            | some addr =>
                exact (only_publish (.peerAdded peerId addr)).mono fun _ =>
                  Action.isAside_of_isAnnouncement
          exact wp_quiet_bind (quiet_of_aside announced) fun _ => ended

theorem dialAll_reckons (cfg : PeerPoolConfig) (now : Nat)
    (dials : PoolCandidate -> Except GossipError NatConnection) {planned : List PoolCandidate}
    (idle : reckoning.Idle max planned.length) :
    wp (Reckoning.Due max) Reckoning.settle (dialAll config cfg now dials planned) reckoning
      fun _ after => after.Idle max 0 := by
  induction planned generalizing reckoning with
  | nil => exact idle
  | cons candidate rest inner =>
      unfold dialAll
      rw [wp_bind]
      refine wp_mono (dialPlanned_reckons config idle cfg now dials candidate) ?_
      intro added after still
      rw [wp_bind]
      exact wp_mono (inner still) fun _ _ done => done

/-- A pass plans for the room it counted and ends without a reservation. -/
theorem runPoolMaintenanceOnce_reckons {cfg : PeerPoolConfig} (pool : config.peerPool = some cfg)
    (relayReachable : Nat) (candidates : List PoolCandidate)
    (dials : PoolCandidate -> Except GossipError NatConnection) :
    wp (Reckoning.Due cfg.normalized.maxPeers) Reckoning.settle
      (runPoolMaintenanceOnce config relayReachable candidates dials) .fresh
      fun _ after => after.tally.dialing = 0 := by
  unfold runPoolMaintenanceOnce
  rw [pool]
  refine wp_perform_bind trivial fun started => ?_
  have lifts : Only Action.isBanUpkeep (pruneExpiredDigBans started) :=
    (only_pruneExpiredDigBans started).mono fun _ => Action.isBanUpkeep_of_isLift
  refine wp_quiet_bind (quiet_of_banUpkeep lifts) fun _ => ?_
  refine wp_perform_bind rfl fun (directConnected : Nat) => ?_
  refine wp_perform_bind trivial fun connectedKeys => ?_
  refine wp_perform_bind trivial fun now => ?_
  refine wp_perform_bind trivial fun backoff => ?_
  refine wp_perform_bind rfl fun (inFlight : Nat) => ?_
  let snap : PoolSnapshot :=
    { connected := directConnected + relayReachable, directConnected := directConnected
      inFlight := inFlight, connectedKeys := connectedKeys, candidates := candidates
      backoff := backoff, now := now }
  have fits : (planPass snap cfg.normalized).toDial.length ≤
      cfg.normalized.maxPeers - (directConnected + inFlight) := by
    rw [<- maxPeers_normalized cfg]
    exact length_toDial_le snap cfg.normalized
  have room : 0 < (planPass snap cfg.normalized).toDial.length ->
      directConnected + inFlight + 0 + (planPass snap cfg.normalized).toDial.length ≤
        cfg.normalized.maxPeers := by
    intro some
    omega
  exact wp_mono (dialAll_reckons config _ _ dials ⟨rfl, rfl, room⟩) fun _ _ done => done.free

end Pass

/-! ## The reckoning along a run -/

theorem size_le_of_change {s : ServiceState} {region : PeersRegion} {after : Peers}
    (change : PeersChange s region after) :
    FiniteMap.size after ≤ FiniteMap.size s.peers + 1 := by
  have inserted : forall (peers : Peers) (peerId : PeerId) (slot : PeerSlot),
      FiniteMap.size (peers.insert peerId slot) ≤ FiniteMap.size peers + 1 := by
    intro peers peerId slot
    cases found : peers.lookup peerId with
    | none => rw [FiniteMap.size_insert_of_none found]
    | some old =>
        rw [FiniteMap.size_insert_of_lookup found]
        exact Nat.le_succ _
  cases change with
  | fewer sub => exact Nat.le_succ_of_le sub.size_le
  | wired sink found => exact inserted _ _ _
  | admitted admits => exact Nat.le_trans (inserted _ _ _) (Nat.succ_le_succ admits.sub.size_le)

namespace Reckoning

variable {max grown : Nat} {reckoning : Reckoning} {s : ServiceState}

/-- Knowledge is about the peers and the dials in flight alone. -/
theorem Knows.congr (knows : reckoning.Knows s grown) {after : ServiceState}
    (peers : after.peers = s.peers) (inFlight : after.pool.inFlight = s.pool.inFlight) :
    reckoning.Knows after grown := by
  unfold Knows ServiceState.load at knows ⊢
  rw [peers, inFlight]
  exact knows

/-- What the others add is added to what they have added. -/
theorem Knows.others (knows : reckoning.Knows s grown) (after : ServiceState) :
    reckoning.Knows after (grown + growth s after) := by
  unfold Knows ServiceState.load at knows ⊢
  unfold growth
  cases reckoned : reckoning.reckoned with
  | nothing => trivial
  | peers =>
      rw [reckoned] at knows
      simp only at knows ⊢
      omega
  | whole =>
      rw [reckoned] at knows
      simp only at knows ⊢
      omega

/-- An action of the pass itself; what it releases is in flight. -/
theorem Knows.own {view : Watch} (knows : reckoning.Knows s view.grown) {action : Action}
    (due : reckoning.Due max action)
    (held : forall key, action = .release key -> key ∈ s.pool.inFlight) (order : PeerId -> Nat) :
    (reckoning.settle action (exec order action s).2).Knows (exec order action s).1
      (view.own action (exec order action s).2).grown := by
  cases action with
  | peers region =>
      cases region with
      | len => exact Nat.le_refl _
      | connectedPoolKeys => exact knows.congr rfl rfl
      | containsKey peerId => exact knows.congr rfl rfl
      | admitNat conn source =>
          rcases due with ⟨whole, spare⟩
          have larger : FiniteMap.size (exec order (.peers (.admitNat conn source)) s).1.peers ≤
              FiniteMap.size s.peers + 1 :=
            size_le_of_change (within_change s (.admitNat conn source) order)
          have inFlight : (exec order (.peers (.admitNat conn source)) s).1.pool.inFlight =
              s.pool.inFlight := rfl
          have fewer : (reckoning.settle (.peers (.admitNat conn source))
              (exec order (.peers (.admitNat conn source)) s).2).spare = reckoning.spare - 1 := rfl
          unfold Knows ServiceState.load at knows ⊢
          rw [whole] at knows
          simp only [settle, whole] at fewer ⊢
          simp only [inFlight, Tally.settle, Watch.own] at knows ⊢
          omega
      | _ => cases due
  | inFlightCount =>
      unfold Knows at knows
      rw [due] at knows
      simp only at knows
      simp only [Knows, settle, Tally.settle, Watch.own, exec, ServiceState.load]
      omega
  | reserve key =>
      rcases due with ⟨whole, free, room⟩
      unfold Knows ServiceState.load at knows ⊢
      rw [whole] at knows
      simp only at knows
      simp only [settle, whole, exec, Watch.own]
      by_cases taken : key ∈ s.pool.inFlight
      · rw [Finset.insert_eq_of_mem taken, decide_eq_false (not_not_intro taken)]
        exact knows
      · rw [Finset.card_insert_of_notMem taken, decide_eq_true taken]
        simp only [Tally.settle]
        omega
  | release key =>
      rcases due with ⟨whole, one⟩
      unfold Knows ServiceState.load at knows ⊢
      rw [whole] at knows
      simp only at knows
      have member := held key rfl
      have positive : 0 < s.pool.inFlight.card := Finset.card_pos.mpr ⟨key, member⟩
      simp only [settle, whole, exec, Watch.own, Tally.settle, Finset.card_erase_of_mem member]
      omega
  | tryAcquirePermit =>
      apply knows.congr
      · simp only [exec]
        split
        · rfl
        · rfl
      · exact inFlight_exec_of_not_reservation order s rfl
  | _ => exact knows.congr rfl rfl

end Reckoning

/-- What the program of a pass promises an observer of its thread. -/
def Reckons (max : Nat) (op : Operation) (view : Watch) (s : ServiceState)
    (program : ServiceProgram Outcome) : Prop :=
  op.licence.reserves = true -> exists reckoning : Reckoning, reckoning.tally = view.tally ∧
    reckoning.Knows s view.grown ∧
      wp (Reckoning.Due max) Reckoning.settle program reckoning fun _ after =>
        after.tally.dialing = 0

section Runs

variable {launch : Launch} {cfg : PeerPoolConfig}

theorem reckons (pool : launch.config.peerPool = some cfg) {moves : List ServiceMove}
    {thread : Nat} {op : Operation} {program : ServiceProgram Outcome}
    (started : (System.spawned moves)[thread]? = some op)
    (running : (launch.after moves).threads[thread]? = some program) :
    Reckons cfg.normalized.maxPeers op (launch.watch thread moves) (launch.after moves).shared
      program := by
  let Sound := fun w : ServiceWorld =>
    exists past, DutiesBalanced (fun _ _ => True) ReservationsBalance past w
  let Fresh := fun view : Watch => view.tally = .zero
  have sound : forall moves, Sound (launch.after moves) := fun moves =>
    ⟨_, reservations_balance launch moves⟩
  have begun : forall (op : Operation) (view : Watch) (s : ServiceState), Fresh view ->
      Reckons cfg.normalized.maxPeers op view s (op.program launch.config) := by
    intro op view s fresh licensed
    cases op with
    | runPoolMaintenanceOnce relayReachable candidates dials =>
        refine ⟨.fresh, fresh.symm, trivial, ?_⟩
        change wp _ _ (Outcome.count <$> _) _ _
        rw [Program.wp_map]
        exact runPoolMaintenanceOnce_reckons launch.config pool relayReachable candidates dials
    | _ => cases licensed
  have advanced : forall (op : Operation) (view : Watch) (w : ServiceWorld) (thread : Nat)
      (order : PeerId -> Nat) (action : Action) (next : action.Reply -> ServiceProgram Outcome),
      Sound w -> w.threads[thread]? = some (.act action next) ->
      Reckons cfg.normalized.maxPeers op view w.shared (.act action next) ->
      Reckons cfg.normalized.maxPeers op (view.own action (exec order action w.shared).2)
        (exec order action w.shared).1 (next (exec order action w.shared).2) := by
    rintro op view w thread order action next ⟨past, balanced⟩ running promise licensed
    rcases promise licensed with ⟨reckoning, same, knows, due, after⟩
    refine ⟨reckoning.settle action (exec order action w.shared).2, ?_, ?_, after _⟩
    · exact congrArg (Tally.settle · action (exec order action w.shared).2) same
    · apply knows.own due
      rintro key rfl
      exact inFlight_of_release balanced running
  have undisturbed : forall (op : Operation) (view : Watch) (before after : ServiceState)
      (program : ServiceProgram Outcome),
      Reckons cfg.normalized.maxPeers op view before program ->
      Reckons cfg.normalized.maxPeers op (view.others before after) after program := by
    intro op view before after program promise licensed
    rcases promise licensed with ⟨reckoning, same, knows, rest⟩
    exact ⟨reckoning, same, knows.others after, rest⟩
  exact (@System.watched _ _ _ _ _ _ (service launch.config) _ Watch.own Watch.others Sound Fresh
    (Reckons cfg.normalized.maxPeers) launch.world.shared _ sound rfl (fun _ _ _ fresh => fresh)
    begun advanced undisturbed moves thread).2 op program started running

/-- Only a pass is licensed to reserve. -/
theorem reserves_of_reserve {moves : List ServiceMove} {thread : Nat} {op : Operation}
    {key : CandidateKey} {next : Bool -> ServiceProgram Outcome}
    (started : (System.spawned moves)[thread]? = some op)
    (running : (launch.after moves).threads[thread]? = some (.act (.reserve key) next)) :
    op.licence.reserves = true := by
  let Promise := fun (op : Operation) (program : ServiceProgram Outcome) =>
    exists contract, wp (Contract.Due op.licence) Contract.settle program contract
      fun _ _ => True
  have promise : Promise op (.act (.reserve key) next) := by
    refine launch.promise (fun op => ?_) (fun op order s action next promise => ?_) started running
    · have ends := op.discharges launch.config 0 0 0 (Nat.le_refl 0)
        fun _ _ member => absurd member (Multiset.notMem_zero _)
      exact ⟨_, wp_mono ends fun _ _ _ => trivial⟩
    · rcases promise with ⟨contract, _, after⟩
      exact ⟨_, after _⟩
  rcases promise with ⟨contract, due, _⟩
  have licensed := due.licensed
  simp only [Action.isLicensed, Action.isReservation, Action.isCharge, Bool.not_true,
    Bool.false_or, Bool.not_false, Bool.true_or, Bool.and_true] at licensed
  exact licensed

/-- A thread that starts a dial is a pass about to reserve. -/
theorem of_startsDial {before : List ServiceMove} {move : ServiceMove} {thread : Nat}
    (starts : launch.startsDial before move = some thread) :
    exists op key next, (System.spawned before)[thread]? = some op ∧
      (launch.after before).threads[thread]? = some (.act (.reserve key) next) ∧
      op.licence.reserves = true := by
  cases move with
  | spawn op => cases starts
  | advance index order =>
      unfold Launch.startsDial at starts
      simp only at starts
      split at starts
      · rename_i key done
        cases starts
        simp only [System.deed] at done
        split at done
        · rename_i action next running
          have isReserve : action = .reserve key := congrArg Sigma.fst (Option.some.inj done)
          subst isReserve
          have alive := (List.getElem?_eq_some_iff.mp running).1
          have length : (launch.after before).threads.length = (System.spawned before).length :=
            System.length_threads before launch.world.shared
          have born : thread < (System.spawned before).length := length ▸ alive
          have started := List.getElem?_eq_getElem born
          exact ⟨_, key, next, started, running, reserves_of_reserve started running⟩
        · cases done
        · cases done
      · cases starts

/-- A dial that has room starts below the cap, when the dials of its pass
before it have released their candidates. -/
theorem below_of_hasRoom (pool : launch.config.peerPool = some cfg) {before : List ServiceMove}
    {move : ServiceMove} {thread : Nat} (starts : launch.startsDial before move = some thread)
    (room : (launch.watch thread before).hasRoom cfg.normalized.maxPeers = true) :
    (launch.after before).shared.load < cfg.normalized.maxPeers ∧
      (launch.watch thread before).tally.dialing = 0 := by
  rcases of_startsDial starts with ⟨op, key, next, started, running, reserves⟩
  rcases reckons pool started running reserves with ⟨reckoning, same, knows, ⟨whole, free, planned⟩, _⟩
  unfold Watch.hasRoom at room
  rw [decide_eq_true_eq, <- same] at room
  unfold Reckoning.Knows at knows
  rw [whole] at knows
  simp only at knows
  rw [<- same]
  exact ⟨by omega, free⟩

end Runs

/-- What has been granted of a candidate was released or is in flight, and
nothing is in flight once every operation has completed. -/
structure ReservationsAccounted (launch : Launch) (moves : List ServiceMove) : Prop where
  counts : forall key, (launch.trace moves).countP (grants key) =
    (launch.trace moves).countP (frees key) +
      if key ∈ (launch.after moves).shared.pool.inFlight then 1 else 0
  released : (launch.after moves).settled = true -> (launch.after moves).shared.pool.inFlight = ∅

theorem reservations_accounted (launch : Launch) (moves : List ServiceMove) :
    ReservationsAccounted launch moves where
  counts := by
    intro key
    rcases reservations_balance launch moves with ⟨total, _, balance⟩
    rw [<- balance.owes key]
    exact balance.counts key
  released := fun done => (reservations_released done).1

/-- In every run whose dials all have room next to what the others have added,
each dial is started below the cap, by a pass whose earlier dials have released
their candidates; and every reservation is released exactly once. -/
theorem dials_capped {launch : Launch} {cfg : PeerPoolConfig}
    (pool : launch.config.peerPool = some cfg) {moves : List ServiceMove}
    (room : launch.dialsHaveRoom cfg.normalized.maxPeers moves = true) :
    (forall count move thread, moves[count]? = some move ->
      launch.startsDial (moves.take count) move = some thread ->
        (launch.after (moves.take count)).shared.load < cfg.normalized.maxPeers ∧
          (launch.watch thread (moves.take count)).tally.dialing = 0) ∧
      ReservationsAccounted launch moves := by
  refine ⟨?_, reservations_accounted launch moves⟩
  intro count move thread made starts
  have bound : count < moves.length := (List.getElem?_eq_some_iff.mp made).1
  have here := List.all_eq_true.mp room count (List.mem_range.mpr bound)
  rw [made, Option.bind_some, starts, Option.all_some] at here
  exact below_of_hasRoom pool starts here

namespace Example

/-- A pool that is full with one peer. -/
def single : Launch :=
  { launch with
    config :=
      { config with peerPool := some { targetPeers := 1, minPeers := 0, maxPeers := 1 } } }

/-- A pass that is given one candidate and reaches it. -/
def passOver (peerId : PeerId) : Operation :=
  .runPoolMaintenanceOnce 0 [{ peerId := some peerId, addr := some (host peerId.val 1) }]
    fun _ => .ok (direct peerId)

/-- The pass plans its dial, a peer is adopted, and the dial starts. -/
def overtaken : List ServiceMove :=
  .spawn (passOver 1) :: List.replicate 7 (.advance 0 fun _ => 0) ++
    .spawn (.adoptNatConnection (direct 2)) :: List.replicate 12 (.advance 1 fun _ => 0) ++
    [.advance 0 fun _ => 0]

/-- The pass alone. -/
def alone : List ServiceMove := inSequence 24 [passOver 1]

end Example

theorem dials_capped_alone :
    (forall count move thread, Example.alone[count]? = some move ->
      Example.single.startsDial (Example.alone.take count) move = some thread ->
        (Example.single.after (Example.alone.take count)).shared.load < 1 ∧
          (Example.single.watch thread (Example.alone.take count)).tally.dialing = 0) ∧
      ReservationsAccounted Example.single Example.alone :=
  @dials_capped Example.single { targetPeers := 1, minPeers := 0, maxPeers := 1 } rfl Example.alone
    (by decide +kernel)

/-- The pass starts its dial with one peer connected, where one is the most. -/
theorem dials_capped_fails :
    ¬ forall (launch : Launch) (cfg : PeerPoolConfig), launch.config.peerPool = some cfg ->
      forall (moves : List ServiceMove) count move thread, moves[count]? = some move ->
        launch.startsDial (moves.take count) move = some thread ->
          (launch.after (moves.take count)).shared.load < cfg.normalized.maxPeers := by
  intro always
  have starts : Example.single.startsDial (Example.overtaken.take 21) (.advance 0 fun _ => 0) =
      some 0 := by
    decide +kernel
  have below := always Example.single _ rfl Example.overtaken 21 _ 0 rfl starts
  revert below
  decide +kernel

end Service
end DigGossip
