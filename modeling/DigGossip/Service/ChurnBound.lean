import DigGossip.Service.Displacement
import DigGossip.Service.Footprints

namespace DigGossip
namespace Service

open Foundations DigGossip.Types
open Program (wp Quiet wp_quiet_bind)

/-!
# The bound on displacement

Between two outbound admissions anything may happen to the peer map and the
usefulness records, as long as time does not run backwards.  Along every such
timeline displacements are rare, each takes the idlest idle session of a pool
that is not too small, and an admission that is refused costs nothing.
-/

/-- A displacement: the state it was decided in, and the peer that went. -/
structure Cycling where
  before : ServiceState
  victim : PeerId

/-- The displacements that this admission makes in this state: one or none. -/
def cyclings (s : ServiceState) (order : PeerId -> Nat) (conn : NatConnection)
    (source : AdmissionSource) : List Cycling :=
  match (s.admitNat order conn source).2 with
  | .ok admission => (admission.displaced.map fun (victim, _) => ⟨s, victim⟩).toList
  | .error _ => []

/-! ## One admission -/

/-- What an admission comes to. -/
inductive AdmissionOutcome (s : ServiceState) : Locked -> Except GossipError NatAdmission -> Prop
  | refused {after : Locked} (error : GossipError) (kept : after.peers = s.peers)
      (unspent : after.lastDisplacementAt = s.pool.lastDisplacementAt) :
      AdmissionOutcome s after (.error error)
  | admitted {after : Locked} {superseded : Option PeerSlot}
      (unspent : after.lastDisplacementAt = s.pool.lastDisplacementAt) :
      AdmissionOutcome s after (.ok { superseded := superseded, displaced := none })
  | displaced {after : Locked} {superseded : Option PeerSlot} {victim : PeerId} {slot : PeerSlot}
      (isVictim : IsVictim s victim) (spent : after.lastDisplacementAt = some s.now) :
      AdmissionOutcome s after (.ok { superseded := superseded, displaced := some (victim, slot) })

theorem admitNat_outcome (s : ServiceState) (order : PeerId -> Nat) (conn : NatConnection)
    (source : AdmissionSource) :
    AdmissionOutcome s (s.admitNat order conn source).1 (s.admitNat order conn source).2 := by
  unfold ServiceState.admitNat
  cases s.refuseNat conn source with
  | some error => exact .refused error rfl rfl
  | none =>
      simp only
      by_cases fresh : (s.peers.lookup conn.peerId).isNone ∧ source = .discovered
      · simp only [if_pos fresh, displaceForDiscoveredPeer_parts]
        cases decided : s.pruneRecords.decideDisplacement order s.now with
        | roomAlready => exact .admitted rfl
        | refused reason => exact .refused _ rfl rfl
        | displace victim =>
            simp only
            cases s.peers.lookup victim with
            | none => exact .refused _ rfl rfl
            | some slot => exact .displaced (isVictim_of_displace decided) rfl
      · simp only [if_neg fresh]
        exact .admitted rfl

/-- The ledger of an admission that notes whether it has displaced a peer. -/
def noteDisplaced (displaced : Bool) : (action : Action) -> action.Reply -> Bool
  | .peers (.admitNat _ _), .ok admission => displaced || admission.displaced.isSome
  | _, _ => displaced

/-- An admission that returns an error, wherever it was refused, has displaced nobody. -/
theorem admitNatConnection_refused (config : GossipConfig) (conn : NatConnection)
    (source : AdmissionSource) :
    wp (fun _ _ => True) noteDisplaced (admitNatConnection config conn source) false
      fun result displaced => result.isOk = false -> displaced = false := by
  have upkeep : forall action, action.isBanUpkeep = true -> forall displaced reply,
      noteDisplaced displaced action reply = displaced := by
    intro action isUpkeep displaced reply
    cases action <;> first | rfl | cases isUpkeep
  refine wp_quiet_bind (Quiet.perform (fun _ => trivial) fun _ _ => rfl) fun running => ?_
  split
  · exact fun _ => rfl
  split
  · exact fun _ => rfl
  refine wp_quiet_bind (Quiet.perform (fun _ => trivial) fun _ _ => rfl) fun now => ?_
  have looked : Quiet (fun _ _ => True) noteDisplaced (isPeerIdBannedAt conn.peerId now) :=
    (only_isPeerIdBannedAt conn.peerId now).quiet (fun _ _ _ => trivial) upkeep
  refine wp_quiet_bind looked fun banned => ?_
  split
  · exact fun _ => rfl
  refine Program.wp_perform_bind trivial fun admission => ?_
  cases admission with
  | error error => exact fun _ => rfl
  | ok admission =>
      -- Whatever the ledger says here, the result is no error.
      have ends : forall (rest : ServiceProgram Unit) (peerId : PeerId) (displaced : Option PeerId)
          (noted : Bool),
          wp (fun _ _ => True) noteDisplaced
            (rest >>= fun _ => pure (.ok { peerId := peerId, displaced := displaced })) noted
            fun (result : Except GossipError DiscoveryAdmission) displaced =>
              result.isOk = false -> displaced = false := by
        intro rest peerId displaced noted
        rw [Program.wp_bind]
        exact Program.wp_of_forall (fun _ _ => trivial) fun _ _ failed => by cases failed
      rw [Program.wp_bind]
      exact Program.wp_of_forall (fun _ _ => trivial) fun _ noted => ends _ _ _ noted

/-! ## Timelines -/

/-- What may change between two admissions: all but the configuration and the
pool's last displacement, under a clock that is not set back and stays below
the last sixty-four bit second. -/
structure Meanwhile (s after : ServiceState) : Prop where
  config : after.config = s.config
  asTable : after.asTable = s.asTable
  unspent : after.pool.lastDisplacementAt = s.pool.lastDisplacementAt
  forward : s.now ≤ after.now
  clock : after.now < u64Max

/-- The displacements made since the start, and the state they led to. -/
inductive Timeline (launch : Launch) : List Cycling -> ServiceState -> Prop
  | start (clock : launch.now < u64Max) : Timeline launch [] launch.world.shared
  | admission {past : List Cycling} {s : ServiceState} (timeline : Timeline launch past s)
      (order : PeerId -> Nat) (conn : NatConnection) (source : AdmissionSource) :
      Timeline launch (past ++ cyclings s order conn source)
        (s.unlock (s.admitNat order conn source).1)
  | meanwhile {past : List Cycling} {s after : ServiceState} (timeline : Timeline launch past s)
      (change : Meanwhile s after) : Timeline launch past after

/-- The second displacement comes at least an interval after the first. -/
def Spaced (config : GossipConfig) (first second : Cycling) : Prop :=
  first.before.now + (poolPolicy config).displacementIntervalSecs ≤ second.before.now

/-- What holds along a timeline. -/
structure Bounded (launch : Launch) (past : List Cycling) (s : ServiceState) : Prop where
  config : s.config = launch.config
  clock : s.now < u64Max
  last : s.pool.lastDisplacementAt = past.getLast?.map fun cycling => cycling.before.now
  spaced : past.IsChain (Spaced launch.config)
  victims : ∀ cycling ∈ past, IsVictim cycling.before cycling.victim

/-- An admission that displaces nobody leaves the bound as it is. -/
theorem Bounded.unspent {launch : Launch} {past : List Cycling} {s : ServiceState}
    (bounded : Bounded launch past s) {after : Locked}
    (unspent : after.lastDisplacementAt = s.pool.lastDisplacementAt) :
    Bounded launch past (s.unlock after) :=
  ⟨bounded.config, bounded.clock, unspent.trans bounded.last, bounded.spaced, bounded.victims⟩

theorem Bounded.admission {launch : Launch} {past : List Cycling} {s : ServiceState}
    (bounded : Bounded launch past s) (order : PeerId -> Nat) (conn : NatConnection)
    (source : AdmissionSource) :
    Bounded launch (past ++ cyclings s order conn source)
      (s.unlock (s.admitNat order conn source).1) := by
  have outcome := admitNat_outcome s order conn source
  unfold cyclings
  generalize (s.admitNat order conn source).1 = after at outcome ⊢
  generalize (s.admitNat order conn source).2 = reply at outcome ⊢
  cases outcome with
  | refused error kept unspent =>
      simp only [List.append_nil]
      exact bounded.unspent unspent
  | admitted unspent =>
      simp only [Option.map_none, Option.toList_none, List.append_nil]
      exact bounded.unspent unspent
  | displaced isVictim spent =>
      simp only [Option.map_some, Option.toList_some]
      refine ⟨bounded.config, bounded.clock, ?_, ?_, ?_⟩
      · rw [List.getLast?_concat]
        exact spent
      · refine List.isChain_append.mpr ⟨bounded.spaced, List.isChain_singleton _, ?_⟩
        intro earlier isLast later isFirst
        cases isFirst
        have charged : s.pool.lastDisplacementAt = some earlier.before.now := by
          rw [bounded.last, isLast]
          rfl
        -- The interval cannot have been cut short by the end of the clock's range.
        have elapsed := isVictim.elapsed _ charged
        rw [bounded.config] at elapsed
        rcases min_le_iff.mp elapsed with reached | ended
        · exact reached
        · exact absurd ended (Nat.not_le_of_lt bounded.clock)
      · intro cycling member
        rcases List.mem_append.mp member with old | last
        · exact bounded.victims cycling old
        · rw [List.mem_singleton.mp last]
          exact isVictim

theorem Timeline.bounded {launch : Launch} {past : List Cycling} {s : ServiceState}
    (timeline : Timeline launch past s) : Bounded launch past s := by
  induction timeline with
  | start clock => exact ⟨rfl, clock, rfl, List.isChain_nil, fun cycling member => by cases member⟩
  | admission _ order conn source bounded => exact bounded.admission order conn source
  | meanwhile _ change bounded =>
      exact ⟨change.config.trans bounded.config, change.clock, change.unspent.trans bounded.last,
        bounded.spaced, bounded.victims⟩

/-- An admission that is refused, under the lock or before it, displaces nobody
and leaves the interval unspent. -/
structure RefusalsAreFree (s : ServiceState) : Prop where
  region : forall order conn source error, (s.admitNat order conn source).2 = .error error ->
    (s.admitNat order conn source).1.peers = s.peers ∧
      (s.admitNat order conn source).1.lastDisplacementAt = s.pool.lastDisplacementAt
  operation : forall conn source,
    wp (fun _ _ => True) noteDisplaced (admitNatConnection s.config conn source) false
      fun result displaced => result.isOk = false -> displaced = false

theorem refusalsAreFree (s : ServiceState) : RefusalsAreFree s where
  region := by
    intro order conn source error refused
    have outcome := admitNat_outcome s order conn source
    rw [refused] at outcome
    cases outcome with
    | refused error kept unspent => exact ⟨kept, unspent⟩
  operation := admitNatConnection_refused s.config

/-- Along every timeline two successive displacements are at least the interval
apart, which is never below the floor, each takes the idlest idle session of a
pool that is not too small, and refusals are free. -/
theorem churn_is_bounded {launch : Launch} {past : List Cycling} {s : ServiceState}
    (timeline : Timeline launch past s) :
    past.IsChain (Spaced launch.config) ∧
      minPoolDisplacementIntervalSecs ≤ (poolPolicy launch.config).displacementIntervalSecs ∧
      (∀ cycling ∈ past, IsVictim cycling.before cycling.victim) ∧ RefusalsAreFree s :=
  ⟨timeline.bounded.spaced, le_displacementInterval launch.config, timeline.bounded.victims,
    refusalsAreFree s⟩

/-! ## The runs of the service are timelines -/

/-- The clock is not set back, and stays below the last second of its range. -/
def clockAdvances (_ : PeerId -> Nat) : Action -> ServiceState -> Bool
  | .setClock now, s => decide (s.now ≤ now ∧ now < u64Max)
  | _, _ => true

def Action.isAdmitNat : Action -> Bool
  | peers (.admitNat _ _) => true
  | _ => false

theorem within_unspent (s : ServiceState) (order : PeerId -> Nat) {region : PeersRegion}
    (other : (Action.peers region).isAdmitNat = false) :
    (s.within order region).1.lastDisplacementAt = s.pool.lastDisplacementAt := by
  cases region with
  | admitNat conn source => cases other
  | admitLive peerId remote link generation =>
      simp only [ServiceState.within, ServiceState.admitLive]
      split <;> rfl
  | adoptDirectInbound session =>
      simp only [ServiceState.within, ServiceState.adoptInbound]
      split <;> rfl
  | adoptRelayedInbound session =>
      simp only [ServiceState.within, ServiceState.adoptInbound]
      split <;> rfl
  | setSink peerId sink =>
      simp only [ServiceState.within, ServiceState.setSink]
      split <;> rfl
  | remove peerId =>
      simp only [ServiceState.within, ServiceState.remove]
      split <;> rfl
  | removeForBan peerId callerGeneration =>
      simp only [ServiceState.within, ServiceState.removeForBan]
      split <;> rfl
  | removeIfGeneration peerId generation =>
      simp only [ServiceState.within, ServiceState.removeIfGeneration]
      split
      · split <;> rfl
      · rfl
      · rfl
      · rfl
  | penalizeLive peerId reason now =>
      simp only [ServiceState.within, ServiceState.penalizeLive]
      split <;> rfl
  | _ => rfl

/-- Whatever is no outbound session admission goes on meanwhile. -/
theorem meanwhile_exec {order : PeerId -> Nat} {action : Action} {s : ServiceState}
    (other : action.isAdmitNat = false) (advances : clockAdvances order action s = true)
    (clock : s.now < u64Max) : Meanwhile s (exec order action s).1 := by
  have still : Meanwhile s s := ⟨rfl, rfl, rfl, Nat.le_refl _, clock⟩
  cases action with
  | peers region => exact ⟨rfl, rfl, within_unspent s order other, Nat.le_refl _, clock⟩
  | setClock now =>
      have later := of_decide_eq_true advances
      exact ⟨rfl, rfl, rfl, later.1, later.2⟩
  | tryAcquirePermit =>
      simp only [exec]
      split
      · exact ⟨rfl, rfl, rfl, Nat.le_refl _, clock⟩
      · exact still
  | _ => exact ⟨rfl, rfl, rfl, Nat.le_refl _, clock⟩

/-- The displacements that an action makes. -/
def Action.cyclings (order : PeerId -> Nat) (s : ServiceState) : Action -> List Cycling
  | peers (.admitNat conn source) => Service.cyclings s order conn source
  | _ => []

/-- One action continues a timeline. -/
theorem Timeline.exec {launch : Launch} {past : List Cycling} {s : ServiceState}
    (timeline : Timeline launch past s) {order : PeerId -> Nat} {action : Action}
    (advances : clockAdvances order action s = true) :
    Timeline launch (past ++ action.cyclings order s) (Service.exec order action s).1 := by
  cases isAdmission : action.isAdmitNat with
  | false =>
      have none : action.cyclings order s = [] := by
        cases action with
        | peers region =>
            cases region with
            | admitNat conn source => cases isAdmission
            | _ => rfl
        | _ => rfl
      rw [none, List.append_nil]
      exact timeline.meanwhile (meanwhile_exec isAdmission advances timeline.bounded.clock)
  | true =>
      cases action with
      | peers region =>
          cases region with
          | admitNat conn source => exact timeline.admission order conn source
          | _ => cases isAdmission
      | _ => cases isAdmission

/-- The displacements that a move makes. -/
def cyclingsAt (visit : ServiceWorld × ServiceMove) : List Cycling :=
  match visit.2 with
  | .spawn _ => []
  | .advance thread order =>
      match visit.1.threads[thread]? with
      | some (.act action _) => action.cyclings order visit.1.shared
      | some (.done _) => []
      | none => []

/-- The displacements of a run, in order. -/
def Launch.cyclings (launch : Launch) (moves : List ServiceMove) : List Cycling :=
  (Stepping.history (service launch.config).step moves launch.world).flatMap cyclingsAt

/-- Every run whose clock advances is a timeline of its displacements. -/
theorem timeline_of_run (launch : Launch) (clock : launch.now < u64Max) (moves : List ServiceMove)
    (advances : launch.allows clockAdvances moves = true) :
    Timeline launch (launch.cyclings moves) (launch.after moves).shared := by
  let Along := fun (past : List (ServiceWorld × ServiceMove)) (w : ServiceWorld) =>
    Timeline launch (past.flatMap cyclingsAt) w.shared
  suffices kept : forall past w move, System.onAction clockAdvances w move = true ->
      Along past w -> Along (past ++ [(w, move)]) ((service launch.config).step w move) by
    have start : Along [] launch.world := Timeline.start clock
    exact Stepping.history_invariant kept (Launch.along_of_allows advances) start
  intro past w move allowed timeline
  simp only [Along, List.flatMap_append, List.flatMap_singleton]
  have still : Timeline launch (past.flatMap cyclingsAt ++ []) w.shared := by
    rw [List.append_nil]
    exact timeline
  cases move with
  | spawn op => exact still
  | advance thread order =>
      simp only [System.onAction] at allowed
      simp only [cyclingsAt, System.step]
      cases found : w.threads[thread]? with
      | none => exact still
      | some program =>
          rw [found] at allowed
          cases program with
          | done result => exact still
          | act action next => exact timeline.exec allowed

namespace Example

/-- Each of three discovered peers finds the pool full: the first enters an
empty pool, the second displaces it, and the third comes too soon. -/
def discoveredInTurn : List ServiceMove :=
  inSequence 20 [
    .adoptDiscoveredNatConnection (direct 1), .setClock 2000,
    .adoptDiscoveredNatConnection (direct 2), .setClock 2500,
    .adoptDiscoveredNatConnection (direct 3), .setClock 3000,
    .adoptDiscoveredNatConnection (direct 3)]

end Example

theorem churn_is_bounded_in_turn :
    (Example.crowded.cyclings Example.discoveredInTurn).IsChain (Spaced Example.crowded.config) ∧
      minPoolDisplacementIntervalSecs ≤
        (poolPolicy Example.crowded.config).displacementIntervalSecs ∧
      (∀ cycling ∈ Example.crowded.cyclings Example.discoveredInTurn,
        IsVictim cycling.before cycling.victim) ∧
      RefusalsAreFree (Example.crowded.after Example.discoveredInTurn).shared :=
  churn_is_bounded (timeline_of_run Example.crowded (by decide) Example.discoveredInTurn
    (by decide +kernel))

example : (Example.crowded.cyclings Example.discoveredInTurn).map Cycling.victim = [1, 2] := by
  decide +kernel

end Service
end DigGossip
