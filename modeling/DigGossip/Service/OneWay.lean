import DigGossip.Foundations.Attending
import DigGossip.Service.Lifetime

namespace DigGossip
namespace Service

open Foundations DigGossip.Types
open Program (Ahead Follows Only)

/-!
# A one-way lifecycle

The flag goes from constructed to running to stopped.  Taking it up is a token:
a start has it from its exchange until it puts the flag back, so no two starts
return Ok.  Taking it down is for good, and empties every place, as long as no
start puts the flag back after it and none fills a place that no stop under way
has still to empty.  The code does not see to either.
-/

/-! ## What is stored, and who takes it away -/

/-- What a start stores and a stop takes away. -/
inductive Place where
  | handle (slot : HandleSlot)
  | boundAddr
  | eventsTx
deriving DecidableEq

def LifetimeState.holds (s : LifetimeState) : Place -> Bool
  | .handle slot => (s.handles slot).isSome
  | .boundAddr => s.service.listenBoundAddr.isSome
  | .eventsTx => s.service.pool.eventsTx.isSome

def LifetimeAction.fills : LifetimeAction -> Option Place
  | publish slot _ => some (.handle slot)
  | publishBoundAddr _ => some .boundAddr
  | openEventsTx => some .eventsTx
  | _ => none

def LifetimeAction.empties : LifetimeAction -> Option Place
  | take slot => some (.handle slot)
  | stopping .clearBoundAddr => some .boundAddr
  | stopping .dropEventsTx => some .eventsTx
  | _ => none

def LifetimeAction.isSwap : LifetimeAction -> Bool
  | stopping .swapStopped => true
  | _ => false

def LifetimeAction.isRollBack : LifetimeAction -> Bool
  | storeConstructed => true
  | _ => false

/-- The actions of the operations of the service. -/
def LifetimeAction.isOfService : LifetimeAction -> Bool
  | stopping (.service _) => true
  | _ => false

section Steps

variable {order : PeerId -> Nat} {s : LifetimeState}

/-- The operations of the service neither bind it nor open or close its event channel. -/
theorem exec_boundAddr (action : Action) (s : ServiceState) :
    (exec order action s).1.listenBoundAddr = s.listenBoundAddr := by
  cases action with
  | tryAcquirePermit => simp only [exec]; split <;> rfl
  | _ => rfl

theorem exec_eventsTx (action : Action) (s : ServiceState) :
    (exec order action s).1.pool.eventsTx.isSome = s.pool.eventsTx.isSome := by
  cases action with
  | tryAcquirePermit => simp only [exec]; split <;> rfl
  | sendEvent event => exact Option.isSome_map
  | _ => rfl

/-- The exchange finds the flag as constructed, or leaves everything as it is. -/
theorem compareExchange_eq (s : LifetimeState) :
    (s.service.lifecycle = .constructed ∧ s.compareExchange = (s.withLifecycle .running, .ok ())) ∨
      (s.service.lifecycle ≠ .constructed ∧
        s.compareExchange = (s, .error s.service.lifecycle)) := by
  unfold LifetimeState.compareExchange
  cases s.service.lifecycle with
  | constructed => exact Or.inl ⟨rfl, rfl⟩
  | running => exact Or.inr ⟨nofun, rfl⟩
  | stopped => exact Or.inr ⟨nofun, rfl⟩

theorem holds_setHandle (s : LifetimeState) (slot : HandleSlot) (handle : Option HandleId) :
    (s.setHandle slot handle).holds (.handle slot) = handle.isSome := by
  simp only [LifetimeState.holds, LifetimeState.setHandle, if_pos]

theorem holds_setHandle_ne {slot other : HandleSlot} (different : other ≠ slot)
    (handle : Option HandleId) :
    (s.setHandle slot handle).holds (.handle other) = s.holds (.handle other) := by
  simp only [LifetimeState.holds, LifetimeState.setHandle, if_neg different]

/-- A change of the service that neither binds it nor opens or closes its event channel. -/
theorem holds_service {service : ServiceState}
    (bound : service.listenBoundAddr = s.service.listenBoundAddr)
    (events : service.pool.eventsTx.isSome = s.service.pool.eventsTx.isSome) (place : Place) :
    LifetimeState.holds { s with service := service } place = s.holds place := by
  cases place with
  | handle slot => rfl
  | boundAddr => exact congrArg Option.isSome bound
  | eventsTx => exact events

/-- What is stored after an action was stored before it and not taken, or is put there by it. -/
theorem holds_before (action : LifetimeAction) (place : Place)
    (held : (execLifetime order action s).1.holds place = true) :
    action.empties ≠ some place ∧ (s.holds place = true ∨ action.fills = some place) := by
  cases action with
  | stopping action =>
      cases action with
      | service action =>
          have same : (execLifetime order (.stopping (.service action)) s).1.holds place =
              s.holds place :=
            holds_service (exec_boundAddr action s.service) (exec_eventsTx action s.service) place
          exact ⟨nofun, Or.inl (same.symm.trans held)⟩
      | dropEventsTx => cases place <;> first | exact ⟨nofun, Or.inl held⟩ | cases held
      | clearBoundAddr => cases place <;> first | exact ⟨nofun, Or.inl held⟩ | cases held
      | _ => cases place <;> exact ⟨nofun, Or.inl held⟩
  | publish slot handle =>
      refine ⟨nofun, ?_⟩
      cases place with
      | handle other =>
          by_cases same : other = slot
          · exact Or.inr (by rw [same]; rfl)
          · exact Or.inl ((holds_setHandle_ne same (some handle)).symm.trans held)
      | boundAddr => exact Or.inl held
      | eventsTx => exact Or.inl held
  | take slot =>
      cases place with
      | handle other =>
          by_cases same : other = slot
          · rw [same] at held
            cases (holds_setHandle s slot none).symm.trans held
          · refine ⟨fun taken => same ?_, Or.inl ((holds_setHandle_ne same none).symm.trans held)⟩
            cases taken
            rfl
      | boundAddr => exact ⟨nofun, Or.inl held⟩
      | eventsTx => exact ⟨nofun, Or.inl held⟩
  | compareExchange =>
      rcases compareExchange_eq s with ⟨_, taken⟩ | ⟨_, refused⟩
      · have same : (execLifetime order .compareExchange s).1 = s.withLifecycle .running :=
          congrArg Prod.fst taken
        rw [same] at held
        cases place <;> exact ⟨nofun, Or.inl held⟩
      · have same : (execLifetime order .compareExchange s).1 = s := congrArg Prod.fst refused
        rw [same] at held
        exact ⟨nofun, Or.inl held⟩
  | publishBoundAddr addr =>
      cases place <;> first | exact ⟨nofun, Or.inr rfl⟩ | exact ⟨nofun, Or.inl held⟩
  | openEventsTx => cases place <;> first | exact ⟨nofun, Or.inr rfl⟩ | exact ⟨nofun, Or.inl held⟩
  | _ => cases place <;> exact ⟨nofun, Or.inl held⟩

/-- Only a swap takes the flag down. -/
theorem stopped_before (action : LifetimeAction)
    (stopped : (execLifetime order action s).1.service.lifecycle = .stopped) :
    s.service.lifecycle = .stopped ∨ action.isSwap = true := by
  cases action with
  | stopping action =>
      cases action with
      | service action => exact Or.inl ((exec_lifecycle order action s.service).symm.trans stopped)
      | swapStopped => exact Or.inr rfl
      | _ => exact Or.inl stopped
  | compareExchange =>
      rcases compareExchange_eq s with ⟨_, taken⟩ | ⟨_, refused⟩
      · have same : (execLifetime order .compareExchange s).1 = s.withLifecycle .running :=
          congrArg Prod.fst taken
        rw [same] at stopped
        cases stopped
      · have same : (execLifetime order .compareExchange s).1 = s := congrArg Prod.fst refused
        rw [same] at stopped
        exact Or.inl stopped
  | storeConstructed => cases stopped
  | _ => exact Or.inl stopped

/-- Only a roll-back puts the flag up again. -/
theorem stopped_after {action : LifetimeAction} (stays : action ≠ .storeConstructed)
    (stopped : s.service.lifecycle = .stopped) :
    (execLifetime order action s).1.service.lifecycle = .stopped := by
  cases action with
  | stopping action =>
      cases action with
      | service action => exact (exec_lifecycle order action s.service).trans stopped
      | swapStopped => rfl
      | _ => exact stopped
  | compareExchange =>
      rcases compareExchange_eq s with ⟨free, _⟩ | ⟨_, refused⟩
      · rw [free] at stopped
        cases stopped
      · have same : (execLifetime order .compareExchange s).1 = s := congrArg Prod.fst refused
        rw [same]
        exact stopped
  | storeConstructed => exact absurd rfl stays
  | _ => exact stopped

end Steps

/-! ## What the calls do -/

/-- The actions that leave the flag as it is. -/
def LifetimeAction.leavesFlag : LifetimeAction -> Bool
  | compareExchange | storeConstructed => false
  | stopping .swapStopped => false
  | _ => true

theorem LifetimeAction.leavesFlag_of_isOfService {action : LifetimeAction}
    (only : action.isOfService = true) : action.leavesFlag = true := by
  cases action with
  | stopping action => cases action <;> first | rfl | cases only
  | _ => cases only

theorem LifetimeAction.not_isSwap (action : LifetimeAction) (leaves : action.leavesFlag = true) :
    (!action.isSwap) = true := by
  cases action with
  | stopping action =>
      cases action with
      | swapStopped => cases leaves
      | _ => rfl
  | _ => rfl

theorem liftStop_bind {R T : Type} (program : StopProgram R) (rest : R -> StopProgram T) :
    liftStop (program >>= rest) = liftStop program >>= fun result => liftStop (rest result) := by
  induction program with
  | done result => rfl
  | act action next inner => exact congrArg (Program.act _) (funext inner)

/-- An operation of the service does the actions of the service. -/
theorem only_ofService {R : Type} (program : ServiceProgram R) :
    Only LifetimeAction.isOfService (liftStop (lift program)) := by
  induction program with
  | done result => trivial
  | act action next inner => exact ⟨rfl, inner⟩

theorem only_closeTaken (slots : List PeerSlot) :
    Only LifetimeAction.isOfService (liftStop (closeTaken slots)) := by
  induction slots with
  | nil => trivial
  | cons slot rest inner =>
      rw [closeTaken, liftStop_bind]
      exact (only_ofService _).bind fun _ => inner

theorem only_releaseTaken (slot : HandleSlot) :
    Only LifetimeAction.leavesFlag (GossipService.releaseTaken slot) := by
  refine Only.bind (Only.perform rfl) fun taken => ?_
  cases taken with
  | none => exact Only.pure ()
  | some handle => exact Only.perform rfl

theorem only_tearDown : Only LifetimeAction.leavesFlag GossipService.tearDown := by
  refine (only_releaseTaken _).bind fun _ => (only_releaseTaken _).bind fun _ => ?_
  refine (only_releaseTaken _).bind fun _ => Only.bind (Only.perform rfl) fun _ => ?_
  refine (only_releaseTaken _).bind fun _ => Only.bind (Only.perform rfl) fun _ => ?_
  refine Only.bind (Only.perform rfl) fun _ => Only.bind (Only.perform rfl) fun slots => ?_
  refine ((only_closeTaken slots).mono fun _ => LifetimeAction.leavesFlag_of_isOfService).bind
    fun _ => ?_
  exact Only.bind (Only.perform rfl) fun _ => Only.bind (Only.perform rfl) fun _ => Only.perform rfl

/-- The action takes away what is stored at the place. -/
def LifetimeAction.Empties (place : Place) (action : LifetimeAction) : Prop :=
  action.empties = some place

def LifetimeAction.Swaps (action : LifetimeAction) : Prop :=
  action.isSwap = true

theorem only_publishNew (slot : HandleSlot) :
    Only LifetimeAction.leavesFlag (GossipService.publishNew slot) :=
  Only.bind (Only.perform rfl) fun _ => Only.perform rfl

theorem only_publishAll (config : GossipConfig) (bound : SocketAddr) :
    Only LifetimeAction.leavesFlag (GossipService.publishAll config bound) := by
  refine Only.bind (Only.perform rfl) fun _ => (only_publishNew _).bind fun _ => ?_
  refine (only_publishNew _).bind fun _ => (only_publishNew _).bind fun _ => ?_
  refine Only.bind (Only.perform rfl) fun _ => ?_
  have reaps := (only_publishNew .reaperTask).bind fun _ =>
    Only.pure (Except.ok () : Except StartError Unit)
  split
  · exact (only_publishNew _).bind fun _ => reaps
  · exact reaps

theorem only_start (config : GossipConfig) (binding : Binding) :
    Only (fun action => !action.isSwap) (GossipService.start config binding) := by
  refine Only.bind (Only.perform rfl) fun exchanged => ?_
  have rolledBack : forall detail, Only (fun action => !action.isSwap)
      (GossipService.rollBack detail) :=
    fun detail => Only.bind (Only.perform rfl) fun _ => Only.pure _
  cases exchanged with
  | error found => cases found <;> exact Only.pure _
  | ok =>
      cases binding with
      | error detail => exact rolledBack detail
      | ok asked =>
          cases asked with
          | error detail => exact rolledBack detail
          | ok bound => exact (only_publishAll config bound).mono LifetimeAction.not_isSwap

section Stops

variable {place : Place} {R : Type}

theorem ahead_performLifetime {action : LifetimeAction} (empties : action.empties = some place)
    (rest : action.Reply -> LifetimeProgram R) :
    Ahead (LifetimeAction.Empties place) (performLifetime action >>= rest) :=
  Or.inl empties

theorem ahead_releaseTaken (slot : HandleSlot) (rest : Unit -> LifetimeProgram R) :
    Ahead (LifetimeAction.Empties (.handle slot)) (GossipService.releaseTaken slot >>= rest) :=
  (ahead_performLifetime rfl _).bind rest

/-- Once the flag is down every place is going to be emptied. -/
theorem ahead_tearDown (place : Place) :
    Ahead (LifetimeAction.Empties place) GossipService.tearDown := by
  cases place with
  | handle slot =>
      cases slot with
      | listenerStop => exact ahead_releaseTaken _ _
      | listenerTask => exact Ahead.after (fun _ => ahead_releaseTaken _ _) _
      | poolTask => exact Ahead.after (fun _ => Ahead.after (fun _ => ahead_releaseTaken _ _) _) _
      | reaperTask =>
          refine Ahead.after (fun _ => Ahead.after (fun _ => Ahead.after (fun _ => ?_) _) _) _
          exact Ahead.later fun _ => ahead_releaseTaken _ _
      | inboundTx =>
          refine Ahead.after (fun _ => Ahead.after (fun _ => Ahead.after (fun _ => ?_) _) _) _
          refine Ahead.later fun _ => Ahead.after (fun _ => Ahead.later fun _ => ?_) _
          exact ahead_performLifetime rfl _
  | eventsTx =>
      refine Ahead.after (fun _ => Ahead.after (fun _ => Ahead.after (fun _ => ?_) _) _) _
      exact ahead_performLifetime rfl _
  | boundAddr =>
      refine Ahead.after (fun _ => Ahead.after (fun _ => Ahead.after (fun _ => ?_) _) _) _
      exact Ahead.later fun _ => Ahead.after (fun _ => ahead_performLifetime rfl _) _

end Stops

/-- Whatever an operation does, only a stop takes the flag down, and then it is
going to empty every place. -/
theorem follows_program (config : GossipConfig) (op : LifetimeOperation) (place : Place) :
    (op.program config).Follows LifetimeAction.Swaps (LifetimeAction.Empties place) := by
  have still : forall action : LifetimeAction, (!action.isSwap) = true -> ¬action.Swaps := by
    intro action never swaps
    rw [swaps] at never
    cases never
  cases op with
  | service op =>
      have only := (only_ofService (op.program config)).mono fun action ofService =>
        action.not_isSwap (LifetimeAction.leavesFlag_of_isOfService ofService)
      exact (only.map LifetimeOutcome.service).follows still
  | start binding => exact ((only_start config binding).map LifetimeOutcome.started).follows still
  | stop =>
      refine Follows.begin (fun _ _ => ?_) fun _ => ?_
      · exact (ahead_tearDown place).bind _
      · have only := only_tearDown.mono LifetimeAction.not_isSwap
        exact (only.map fun _ => LifetimeOutcome.stopped).follows still

/-! ## The start that took the flag up -/

/-- Only who has not taken the flag up tries to, and only who has puts it back. -/
def dueStart (took : Bool) : LifetimeAction -> Prop
  | .compareExchange => took = false
  | .storeConstructed => took = true
  | _ => True

def settleStart (took : Bool) : (action : LifetimeAction) -> action.Reply -> Bool
  | .compareExchange, .ok () => true
  | .compareExchange, .error _ => took
  | .storeConstructed, _ => false
  | _, _ => took

def LifetimeOutcome.isStarted : LifetimeOutcome -> Bool
  | started (.ok ()) => true
  | _ => false

/-- A start returns Ok only when it has taken the flag up. -/
def EndsStarted (outcome : LifetimeOutcome) (took : Bool) : Prop :=
  outcome.isStarted = true -> took = true

def IsConstructed (s : LifetimeState) : Prop :=
  s.service.lifecycle = .constructed

/-- A program that leaves the flag as it is keeps what it has and ends with it. -/
theorem wp_leavesFlag {R : Type} {program : LifetimeProgram R}
    (only : Only LifetimeAction.leavesFlag program) {took : Bool} {post : R -> Bool -> Prop}
    (holds : forall result, post result took) : program.wp dueStart settleStart took post := by
  refine Program.wp_of_quiet (only.quiet ?_ ?_) holds
  · intro action leaves took
    cases action <;> trivial
  · intro action leaves took reply
    cases action <;> first | rfl | cases leaves

theorem wp_rollBack (detail : String) : (GossipService.rollBack detail).wp dueStart settleStart true
    fun result took => EndsStarted (.started result) took :=
  ⟨rfl, fun _ => nofun⟩

theorem wp_start (config : GossipConfig) (binding : Binding) :
    (GossipService.start config binding).wp dueStart settleStart false
      fun result took => EndsStarted (.started result) took := by
  refine Program.wp_perform_bind rfl fun exchanged => ?_
  cases exchanged with
  | error found => cases found <;> exact nofun
  | ok =>
      cases binding with
      | error detail => exact wp_rollBack detail
      | ok asked =>
          cases asked with
          | error detail => exact wp_rollBack detail
          | ok bound => exact wp_leavesFlag (only_publishAll config bound) fun _ _ => rfl

/-- No action but the roll-back puts the flag back. -/
theorem constructed_before {order : PeerId -> Nat} {s : LifetimeState} {action : LifetimeAction}
    (other : action ≠ .storeConstructed)
    (constructed : IsConstructed (execLifetime order action s).1) : IsConstructed s := by
  cases action with
  | stopping action =>
      cases action with
      | service action => exact (exec_lifecycle order action s.service).symm.trans constructed
      | swapStopped => cases constructed
      | _ => exact constructed
  | compareExchange =>
      rcases compareExchange_eq s with ⟨free, _⟩ | ⟨_, refused⟩
      · exact free
      · have same : (execLifetime order .compareExchange s).1 = s := congrArg Prod.fst refused
        rw [same] at constructed
        exact constructed
  | storeConstructed => exact absurd rfl other
  | _ => exact constructed

theorem guarded_lifetime (config : GossipConfig) :
    System.Guarded dueStart settleStart EndsStarted IsConstructed (lifetime config) where
  begun := by
    intro op
    cases op with
    | service op =>
        show Program.wp _ _ (LifetimeOutcome.service <$> _) _ _
        rw [Program.wp_map]
        exact wp_leavesFlag ((only_ofService (op.program config)).mono fun _ =>
          LifetimeAction.leavesFlag_of_isOfService) fun _ => nofun
    | start binding =>
        show Program.wp _ _ (LifetimeOutcome.started <$> _) _ _
        rw [Program.wp_map]
        exact wp_start config binding
    | stop =>
        show Program.wp _ _ ((fun _ => LifetimeOutcome.stopped) <$> _) _ _
        rw [Program.wp_map]
        exact Program.wp_perform_bind trivial fun _ => wp_leavesFlag only_tearDown fun _ => nofun
  taken := by
    intro order action s due took
    cases action with
    | compareExchange =>
        rcases compareExchange_eq s with ⟨free, taken⟩ | ⟨_, refused⟩
        · refine ⟨free, fun still => ?_⟩
          have left : IsConstructed s.compareExchange.1 := still
          rw [taken] at left
          cases left
        · have won : settleStart false .compareExchange s.compareExchange.2 = true := took
          rw [refused] at won
          cases won
    | _ => cases took
  kept := by
    intro order action s due took free constructed
    refine free (constructed_before (fun rolledBack => ?_) constructed)
    subst rolledBack
    cases took
  passed := by
    intro order action s due took free constructed
    refine free (constructed_before (fun rolledBack => ?_) constructed)
    subst rolledBack
    cases due

/-! ## Orderly runs -/

def IsStopped (s : LifetimeState) : Prop :=
  s.service.lifecycle = .stopped

def HoldsAt (place : Place) (s : LifetimeState) : Prop :=
  s.holds place = true

def LifetimeAction.Fills (place : Place) (action : LifetimeAction) : Prop :=
  action.fills = some place

/-- Once the flag is down, no start puts it back, and none fills a place that no
stop under way has still to empty. -/
structure Orderly (w : LifetimeWorld) (action : LifetimeAction) : Prop where
  stays : IsStopped w.shared -> action ≠ .storeConstructed
  attended : System.StartsAttended IsStopped LifetimeAction.Fills LifetimeAction.Empties w action

def LifetimeOperation.isCall : LifetimeOperation -> Bool
  | service _ => false
  | start _ => true
  | stop => true

/-- The thread's call of `start` has returned Ok. -/
def StartedAt (w : LifetimeWorld) (thread : Nat) : Prop :=
  w.threads[thread]? = some (.done (.started (.ok ())))

namespace Construction

variable (construction : Construction)

/-- The thread is still to be spawned, or to do its first action. -/
def NotBegun (w : LifetimeWorld) (thread : Nat) : Prop :=
  forall program, w.threads[thread]? = some program ->
    exists op : LifetimeOperation, program = op.program construction.config

/-- Some stop has swapped the flag on the way. -/
def hasStopped (moves : List LifetimeMove) : Bool :=
  ((lifetime construction.config).trace moves construction.world).any fun deed => deed.1.isSwap

/-- Every call of `start` and `stop` has completed. -/
def CallsCompleted (moves : List LifetimeMove) : Prop :=
  forall (thread : Nat) op program, (System.spawned moves)[thread]? = some op ->
    op.isCall = true -> (construction.after moves).threads[thread]? = some program ->
    program.isDone = true

def IsOrderly (moves : List LifetimeMove) : Prop :=
  (lifetime construction.config).Along (System.OnAction Orderly) moves construction.world

/-- At most one start returns Ok; a stop is final, for the flag, for the starts
that have not begun, and for everything that was stored. -/
structure OneWay (earlier later : List LifetimeMove) : Prop where
  once : forall first second, StartedAt (construction.after (earlier ++ later)) first ->
    StartedAt (construction.after (earlier ++ later)) second -> first = second
  stays : construction.hasStopped earlier = true ->
    IsStopped (construction.after (earlier ++ later)).shared
  refused : construction.hasStopped earlier = true -> forall thread,
    construction.NotBegun (construction.after earlier) thread ->
      ¬StartedAt (construction.after (earlier ++ later)) thread
  emptied : construction.hasStopped earlier = true ->
    construction.CallsCompleted (earlier ++ later) -> forall place,
      (construction.after (earlier ++ later)).shared.holds place = false

variable {construction} {moves : List LifetimeMove}

/-- In every run, orderly or not. -/
theorem started_once {first second : Nat} (started : StartedAt (construction.after moves) first)
    (startedToo : StartedAt (construction.after moves) second) : first = second := by
  have start : System.Exclusive dueStart settleStart EndsStarted IsConstructed
      construction.world :=
    ⟨none, nofun, nofun⟩
  have exclusive := start.run (guarded_lifetime construction.config) moves
  exact exclusive.unique (fun result (won : result.isStarted = true) ends =>
    Bool.noConfusion (ends won)) started rfl startedToo rfl

/-- A swap leaves the flag down. -/
theorem stopped_of_deed {w : LifetimeWorld} {move : LifetimeMove}
    {deed : System.Deed LifetimeAction LifetimeAction.Reply}
    (made : (lifetime construction.config).deed w move = some deed)
    (swaps : deed.1.isSwap = true) :
    IsStopped ((lifetime construction.config).step w move).shared := by
  rcases System.of_deed made with ⟨thread, order, next, rfl, found⟩
  rcases deed with ⟨action, reply⟩
  simp only [System.step, found]
  cases action with
  | stopping action => cases action <;> first | rfl | cases swaps
  | _ => cases swaps

theorem stays_stopped {w : LifetimeWorld}
    (orderly : (lifetime construction.config).Along (System.OnAction Orderly) moves w)
    (stopped : IsStopped w.shared) :
    IsStopped ((lifetime construction.config).run moves w).shared := by
  let Down := fun w : LifetimeWorld => IsStopped w.shared
  suffices kept : Down ((lifetime construction.config).run moves w) from kept
  exact System.acting_invariant (fun _ _ down => down)
    (fun _ _ _ _ _ _ conforms down => stopped_after (conforms.stays down) down) orderly stopped

/-- After a swap the flag is down, as long as no start puts it back. -/
theorem stopped_of_hasStopped (orderly : construction.IsOrderly moves)
    (stopped : construction.hasStopped moves = true) : IsStopped (construction.after moves).shared := by
  rcases List.any_eq_true.mp stopped with ⟨deed, done, swaps⟩
  rcases System.of_mem_trace done with ⟨before, move, rest, rfl, made⟩
  have down := stopped_of_deed made swaps
  unfold IsOrderly at orderly
  rw [System.along_append] at orderly
  unfold after
  rw [System.run_append, System.run_cons]
  exact stays_stopped orderly.2.2 down

/-- Everything stored has a stop under way that is going to take it. -/
theorem attended (orderly : construction.IsOrderly moves) :
    System.Attended IsStopped HoldsAt LifetimeAction.Swaps LifetimeAction.Empties
      (construction.after moves) := by
  have start : System.Attended IsStopped HoldsAt LifetimeAction.Swaps LifetimeAction.Empties
      construction.world :=
    ⟨nofun, fun stopped => by cases stopped⟩
  refine System.acting_invariant (fun w op inv => ?_) (fun w thread order action next found conforms
    inv => ?_) orderly start
  · exact inv.spawned (follows_program construction.config op)
  · exact inv.acted found conforms.attended (fun stopped => stopped_before action stopped)
      fun place held => holds_before action place held

/-- No thread has anything to empty once the calls have completed. -/
theorem idle_of_completed (completed : construction.CallsCompleted moves) (place : Place) :
    ∀ program ∈ (construction.after moves).threads,
      ¬program.Ahead (LifetimeAction.Empties place) := by
  intro program member ahead
  rcases List.mem_iff_getElem?.mp member with ⟨thread, running⟩
  have alive := (List.getElem?_eq_some_iff.mp running).1
  have known : thread < (System.spawned moves).length := by
    rw [<- System.length_threads moves construction.state]
    exact alive
  have spawned := List.getElem?_eq_getElem known
  cases call : (System.spawned moves)[thread].isCall with
  | true =>
      have done := completed thread _ program spawned call running
      cases program with
      | done result => exact ahead
      | act action next => cases done
  | false =>
      let Promise := fun (op : LifetimeOperation) (program : LifetimeProgram LifetimeOutcome) =>
        op.isCall = false -> Only LifetimeAction.isOfService program
      have only : Promise (System.spawned moves)[thread] program := by
        refine System.thread_invariant ?_ ?_ moves construction.state thread _ program spawned running
        · intro op service
          cases op with
          | service op => exact (only_ofService _).map LifetimeOutcome.service
          | start binding => cases service
          | stop => cases service
        · intro op order s action next promise service
          exact (promise service).2 _
      refine Only.not_ahead (fun action => (execLifetime (fun _ => 0) action construction.state).2)
        (fun action ofService empties => ?_) (only call) ahead
      cases action with
      | stopping action =>
          cases action with
          | service action => cases empties
          | _ => cases ofService
      | _ => cases ofService

/-- An orderly run is one-way. -/
theorem one_way (construction : Construction) (earlier later : List LifetimeMove)
    (orderly : construction.IsOrderly (earlier ++ later)) : construction.OneWay earlier later := by
  have parts := System.along_append.mp orderly
  have down : construction.hasStopped earlier = true ->
      IsStopped (construction.after earlier).shared := stopped_of_hasStopped parts.1
  have stays : construction.hasStopped earlier = true ->
      IsStopped (construction.after (earlier ++ later)).shared := by
    intro stopped
    unfold after
    rw [System.run_append]
    exact stays_stopped parts.2 (down stopped)
  refine ⟨fun _ _ => started_once, stays, ?_, ?_⟩
  · intro stopped thread notBegun started
    have guarded := guarded_lifetime construction.config
    have idle : forall program, (construction.after earlier).threads[thread]? = some program ->
        program.wp dueStart settleStart false EndsStarted := by
      intro program running
      rcases notBegun program running with ⟨op, rfl⟩
      exact guarded.begun op
    have unfree : forall s, IsStopped s -> ¬IsConstructed s := by
      intro s stopped constructed
      cases constructed.symm.trans stopped
    have never := System.idle_run guarded unfree
      (fun w order action conforms down => stopped_after (conforms.stays down) down) thread parts.2
      (down stopped) idle
    unfold StartedAt after at started
    rw [System.run_append] at started
    cases never.2 _ started rfl
  · intro stopped completed place
    apply eq_false_of_ne_true
    exact (attended orderly).not_held (stays stopped) (idle_of_completed completed place)

/-- When nothing runs any more the calls have completed. -/
theorem completed_of_settled (settled : (construction.after moves).settled = true) :
    construction.CallsCompleted moves := by
  intro thread op program _ _ running
  exact List.all_eq_true.mp settled program (List.mem_of_getElem? running)

/-- Once the flag is down, nothing is put back and nothing filled. -/
def isQuiet (w : LifetimeWorld) (move : LifetimeMove) : Bool :=
  ((lifetime construction.config).deed w move).all fun deed =>
    w.shared.service.lifecycle != .stopped || !deed.1.isRollBack && deed.1.fills.isNone

theorem orderly_of_quiet {w : LifetimeWorld}
    (quiet : (lifetime construction.config).along construction.isQuiet moves w = true) :
    (lifetime construction.config).Along (System.OnAction Orderly) moves w := by
  refine System.along_of_test (fun w move quiet => ?_) quiet
  cases move with
  | spawn op => trivial
  | advance thread order =>
      intro action next found
      unfold isQuiet System.deed at quiet
      simp only [found, Option.all_some] at quiet
      have leaves : IsStopped w.shared -> action.isRollBack = false ∧ action.fills = none := by
        intro stopped
        rw [show w.shared.service.lifecycle = .stopped from stopped] at quiet
        simpa using quiet
      refine ⟨fun stopped rolledBack => ?_, fun stopped place fills => ?_⟩
      · have puts := (leaves stopped).1
        rw [rolledBack] at puts
        cases puts
      · cases (leaves stopped).2.symm.trans fills

/-- Nothing is put back, and the thread that has only swapped the flag waits. -/
def waitsFor (stopping : Nat) (w : LifetimeWorld) (move : LifetimeMove) : Bool :=
  (match move with
    | .spawn _ => true
    | .advance thread _ => thread != stopping) &&
  ((lifetime construction.config).deed w move).all fun deed => !deed.1.isRollBack

/-- While a stop that has swapped the flag has all else ahead, a start may publish. -/
theorem orderly_of_waits {w : LifetimeWorld} {stopping : Nat}
    (waits : w.threads[stopping]? = some ((fun _ => .stopped) <$> GossipService.tearDown))
    (passed : (lifetime construction.config).along (construction.waitsFor stopping) moves w =
      true) :
    (lifetime construction.config).Along (System.OnAction Orderly) moves w := by
  induction moves generalizing w with
  | nil => trivial
  | cons move moves inner =>
      rcases Bool.and_eq_true_iff.mp passed with ⟨here, rest⟩
      rcases Bool.and_eq_true_iff.mp here with ⟨other, kept⟩
      refine ⟨?_, inner (System.thread_beside waits ?_) rest⟩
      · cases move with
        | spawn op => trivial
        | advance thread order =>
            intro action next found
            refine ⟨fun _ rolledBack => ?_, fun _ place _ => ?_⟩
            · subst rolledBack
              simp only [System.deed, found] at kept
              cases kept
            · exact ⟨_, List.mem_of_getElem? waits, Ahead.bind (ahead_tearDown place) _⟩
      · rintro order rfl
        exact bne_iff_ne.mp other rfl

end Construction

namespace Example

def constructed : Construction where
  config := config
  asTable := .empty
  now := 1000

def startBound : LifetimeOperation :=
  .start (.ok (.ok (host 0 0)))

def startBusy : LifetimeOperation :=
  .start (.error "address in use")

/-- A call is spawned as this thread and runs to its end. -/
def call (thread : Nat) (op : LifetimeOperation) : List LifetimeMove :=
  .spawn op :: List.replicate 24 (.advance thread fun _ => 0)

/-- A start has taken the flag up when a stop swaps it. -/
def swappedMidStart : List LifetimeMove :=
  [.spawn startBound, .advance 0 fun _ => 0, .spawn .stop, .advance 1 fun _ => 0]

def publishing : List LifetimeMove :=
  List.replicate 24 (.advance 0 fun _ => 0)

def tearingDown : List LifetimeMove :=
  List.replicate 24 (.advance 1 fun _ => 0)

/-- A start has taken the flag up when a stop runs from end to end; then it goes on. -/
def overtakenStart (start : LifetimeOperation) : List LifetimeMove :=
  .spawn start :: .advance 0 (fun _ => 0) :: call 1 .stop ++
    List.replicate 24 (.advance 0 fun _ => 0)

end Example

open Example in
/-- A start publishes in the middle of a stop, which then takes all of it away;
a later start is refused. -/
theorem one_way_overlapped :
    constructed.hasStopped (swappedMidStart ++ publishing ++ tearingDown) = true ∧
    (constructed.after (swappedMidStart ++ publishing)).shared.holds (.handle .listenerTask) =
      true ∧
    constructed.OneWay (swappedMidStart ++ publishing ++ tearingDown) (call 2 startBound) := by
  refine ⟨by decide +kernel, by decide +kernel, Construction.one_way constructed _ _ ?_⟩
  have begins : (lifetime constructed.config).Along (System.OnAction Orderly) swappedMidStart
      constructed.world := Construction.orderly_of_quiet (by decide +kernel)
  have waits : (constructed.after swappedMidStart).threads[1]? =
      some ((fun _ => .stopped) <$> GossipService.tearDown) := rfl
  have publishes : (lifetime constructed.config).Along (System.OnAction Orderly) publishing
      (constructed.after swappedMidStart) :=
    Construction.orderly_of_waits waits (by decide +kernel)
  have ends : (lifetime constructed.config).Along (System.OnAction Orderly)
      (tearingDown ++ call 2 startBound) (constructed.after (swappedMidStart ++ publishing)) :=
    Construction.orderly_of_quiet (by decide +kernel)
  rw [Construction.IsOrderly, List.append_assoc]
  exact System.along_append.mpr ⟨System.along_append.mpr ⟨begins, publishes⟩, ends⟩

open Example in
/-- A stop that a start was overtaken by is undone: by the roll-back of a failed
bind, after which another start returns Ok, or by what a successful one publishes. -/
theorem stop_undone :
    constructed.hasStopped (overtakenStart startBusy) = true ∧
      (constructed.after (overtakenStart startBusy)).shared.service.lifecycle = .constructed ∧
      ¬constructed.OneWay (overtakenStart startBusy) (call 2 startBound) ∧
    constructed.hasStopped (overtakenStart startBound) = true ∧
      (constructed.after (overtakenStart startBound)).settled = true ∧
      (constructed.after (overtakenStart startBound)).shared.holds (.handle .listenerTask) = true ∧
      ¬constructed.OneWay (overtakenStart startBound) [] := by
  have swapped : constructed.hasStopped (overtakenStart startBusy) = true := by decide +kernel
  have swappedToo : constructed.hasStopped (overtakenStart startBound) = true := by decide +kernel
  have settled : (constructed.after (overtakenStart startBound)).settled = true := by decide +kernel
  have left : (constructed.after (overtakenStart startBound)).shared.holds
      (.handle .listenerTask) = true := by decide +kernel
  refine ⟨swapped, by decide +kernel, fun oneWay => ?_, swappedToo, settled, left, fun oneWay => ?_⟩
  · have down := oneWay.stays swapped
    unfold IsStopped at down
    revert down
    decide +kernel
  · have completed : constructed.CallsCompleted (overtakenStart startBound ++ []) := by
      rw [List.append_nil]
      exact Construction.completed_of_settled settled
    have gone := oneWay.emptied swappedToo completed (.handle .listenerTask)
    rw [List.append_nil, left] at gone
    cases gone

end Service
end DigGossip
