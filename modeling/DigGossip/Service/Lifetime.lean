import DigGossip.Service.Stop

namespace DigGossip
namespace Service

open Foundations DigGossip.Types

/-!
# Starting and stopping

`start` takes the lifecycle flag up by a compare-exchange, binds the listener
and publishes what it has made, each under a lock of its own.  `stop` takes the
flag down by a swap and then empties the same places one after the other.
Nothing else orders the two.  A start that was under way when the flag came
down still takes it back when its bind fails, and still publishes when it
succeeds, though the stop may have been at that place before.

The calls of `start` and `stop` are threads here beside the operations of the
service; a start meets the operating system's answer to its bind.
-/

abbrev HandleId := Nat

/-- The places of the state that hold a channel, a notice or a task. -/
inductive HandleSlot where
  | inboundTx
  | listenerStop
  | listenerTask
  | poolTask
  | reaperTask
deriving DecidableEq

/-- The service state with the handles that `start` stores beside it. -/
structure LifetimeState where
  service : ServiceState
  handles : HandleSlot -> Option HandleId
  created : Nat
  released : List (HandleSlot × HandleId)

inductive LifetimeAction where
  | stopping (action : StopAction)
  | compareExchange
  | storeConstructed
  | create
  | publish (slot : HandleSlot) (handle : HandleId)
  | take (slot : HandleSlot)
  | release (slot : HandleSlot) (handle : HandleId)
  | publishBoundAddr (addr : SocketAddr)
  | openEventsTx

@[reducible] def LifetimeAction.Reply : LifetimeAction -> Type
  | stopping action => action.Reply
  | compareExchange => Except Lifecycle Unit
  | create => HandleId
  | take _ => Option HandleId
  | storeConstructed | publish _ _ | release _ _ | publishBoundAddr _ | openEventsTx => Unit

namespace LifetimeState

def withLifecycle (s : LifetimeState) (lifecycle : Lifecycle) : LifetimeState :=
  { s with service := { s.service with lifecycle := lifecycle } }

/-- The exchange of CONSTRUCTED for RUNNING, or the flag that was found instead. -/
def compareExchange (s : LifetimeState) : LifetimeState × Except Lifecycle Unit :=
  match s.service.lifecycle with
  | .constructed => (s.withLifecycle .running, .ok ())
  | .running => (s, .error .running)
  | .stopped => (s, .error .stopped)

def setHandle (s : LifetimeState) (slot : HandleSlot) (handle : Option HandleId) : LifetimeState :=
  { s with handles := fun other => if other = slot then handle else s.handles other }

end LifetimeState

/-- The effect of an action and its reply, where the service may be started and stopped. -/
def execLifetime (order : PeerId -> Nat) :
    (action : LifetimeAction) -> LifetimeState -> LifetimeState × action.Reply
  | .stopping action, s =>
      let (service, reply) := execStopping order action s.service
      ({ s with service := service }, reply)
  | .compareExchange, s => s.compareExchange
  | .storeConstructed, s => (s.withLifecycle .constructed, ())
  | .create, s => ({ s with created := s.created + 1 }, s.created)
  | .publish slot handle, s => (s.setHandle slot (some handle), ())
  | .take slot, s => (s.setHandle slot none, s.handles slot)
  | .release slot handle, s => ({ s with released := s.released ++ [(slot, handle)] }, ())
  | .publishBoundAddr addr, s =>
      ({ s with service := { s.service with listenBoundAddr := some addr } }, ())
  | .openEventsTx, s =>
      ({ s with service := { s.service with pool := { s.service.pool with eventsTx := some [] } } },
        ())

abbrev LifetimeProgram (R : Type) := Program LifetimeAction LifetimeAction.Reply R

def performLifetime (action : LifetimeAction) : LifetimeProgram action.Reply :=
  Program.perform action

/-- A part of the service or of a stop, where the service may be started. -/
def liftStop {R : Type} : StopProgram R -> LifetimeProgram R
  | .done result => .done result
  | .act action next => .act (.stopping action) fun reply => liftStop (next reply)

/-- The errors of `start`: one of its own, and the rest of `GossipError`. -/
inductive StartError where
  | alreadyStarted
  | gossip (error : GossipError)

/-- What binding the listener meets: an error of the bind, an error of asking
for the bound address, or that address. -/
abbrev Binding := Except String (Except String SocketAddr)

namespace GossipService

/-- A new channel, notice or task, stored in its place. -/
def publishNew (slot : HandleSlot) : LifetimeProgram Unit := do
  let handle <- performLifetime .create
  performLifetime (.publish slot handle)

def rollBack (detail : String) : LifetimeProgram (Except StartError Unit) := do
  performLifetime .storeConstructed
  return .error (.gossip (.ioError detail))

/-- `start` once the listener is bound. -/
def publishAll (config : GossipConfig) (bound : SocketAddr) :
    LifetimeProgram (Except StartError Unit) := do
  performLifetime (.publishBoundAddr bound)
  publishNew .inboundTx
  publishNew .listenerStop
  publishNew .listenerTask
  performLifetime .openEventsTx
  if config.peerPool.isSome then publishNew .poolTask
  publishNew .reaperTask
  return .ok ()

def start (config : GossipConfig) (binding : Binding) :
    LifetimeProgram (Except StartError Unit) := do
  match <- performLifetime .compareExchange with
  | .ok () =>
      match binding with
      | .error detail => rollBack detail
      | .ok (.error detail) => rollBack detail
      | .ok (.ok bound) => publishAll config bound
  | .error .running => return .error .alreadyStarted
  | .error .stopped =>
      return .error (.gossip (.invalidConfig
        "gossip service cannot be restarted after stop() (API-001)"))
  | .error .constructed =>
      return .error (.gossip (.invalidConfig
        "unexpected lifecycle state in GossipService::start"))

/-- Take a handle out of its place; what was there is notified, or aborted and joined. -/
def releaseTaken (slot : HandleSlot) : LifetimeProgram Unit := do
  match <- performLifetime (.take slot) with
  | some handle => performLifetime (.release slot handle)
  | none => pure ()

/-- `stop` once it has taken the flag down. -/
def tearDown : LifetimeProgram Unit := do
  releaseTaken .listenerStop
  releaseTaken .listenerTask
  releaseTaken .poolTask
  performLifetime (.stopping .dropEventsTx)
  releaseTaken .reaperTask
  performLifetime (.stopping .clearBoundAddr)
  let _ <- performLifetime (.take .inboundTx)
  let oldPeers <- performLifetime (.stopping .takePeers)
  liftStop (closeTaken oldPeers)
  performLifetime (.stopping .clearBanned)
  performLifetime (.stopping .clearPenalties)
  performLifetime (.stopping .resetIpBans)

/-- `stop` with the tasks and channels it takes away. -/
def stop : LifetimeProgram Unit := do
  performLifetime (.stopping .swapStopped)
  tearDown

end GossipService

inductive LifetimeOperation where
  | service (op : Operation)
  | start (binding : Binding)
  | stop

inductive LifetimeOutcome where
  | service (outcome : Outcome)
  | started (result : Except StartError Unit)
  | stopped

def LifetimeOperation.program (config : GossipConfig) :
    LifetimeOperation -> LifetimeProgram LifetimeOutcome
  | service op => LifetimeOutcome.service <$> liftStop (lift (op.program config))
  | start binding => LifetimeOutcome.started <$> GossipService.start config binding
  | stop => (fun _ => .stopped) <$> GossipService.stop

abbrev LifetimeWorld := World LifetimeState LifetimeAction LifetimeAction.Reply LifetimeOutcome

abbrev LifetimeMove := Move LifetimeOperation (PeerId -> Nat)

/-- The service with the calls of `start` and `stop`, as a system of threads. -/
def lifetime (config : GossipConfig) :
    System LifetimeState LifetimeAction LifetimeAction.Reply LifetimeOutcome LifetimeOperation
      (PeerId -> Nat) where
  exec := execLifetime
  program := LifetimeOperation.program config

/-- What the service is constructed with, and when. -/
structure Construction where
  config : GossipConfig
  asTable : AsLookupTable
  now : Nat

namespace Construction

variable (construction : Construction)

/-- The state that `GossipService::new` leaves. -/
def state : LifetimeState where
  service := {
    lifecycle := .constructed
    listenBoundAddr := none
    config := construction.config
    asTable := construction.asTable
    peers := ∅
    banned := ∅
    chiaIpBans := ∅
    penalties := ∅
    reputations := ∅
    plumtree := .new
    pool := .new
    peerGeneration := 0
    totalConnections := 0
    inflightHandshakes := Nat.max construction.config.maxInflightHandshakes 1
    now := construction.now
    closedSessions := ∅
    effects := [] }
  handles := fun _ => none
  created := 0
  released := []

def world : LifetimeWorld :=
  World.idle construction.state

/-- The world after these moves of the scheduler. -/
def after (moves : List LifetimeMove) : LifetimeWorld :=
  (lifetime construction.config).run moves construction.world

end Construction

/-- A start that nothing interferes with leaves the state that the service runs from. -/
theorem start_alone (construction : Construction) (bound : SocketAddr) (order : PeerId -> Nat) :
    Prod.map LifetimeState.service id (Program.alone (execLifetime order)
        (GossipService.start construction.config (.ok (.ok bound))) construction.state) =
      (ServiceState.started construction.config construction.asTable bound construction.now,
        .ok ()) := by
  unfold GossipService.start GossipService.publishAll
  cases construction.config.peerPool.isSome <;> rfl

/-! ## Stops without starts -/

/-- The actions on the handles alone. -/
def LifetimeAction.isOfHandles : LifetimeAction -> Bool
  | create | publish _ _ | take _ | release _ _ => true
  | _ => false

/-- The second program is the first without its actions on the handles. -/
inductive Erases {R T : Type} (shape : T -> R) : LifetimeProgram R -> StopProgram T -> Prop
  | done (result : T) : Erases shape (.done (shape result)) (.done result)
  | step {action : StopAction} {next : action.Reply -> LifetimeProgram R}
      {after : action.Reply -> StopProgram T}
      (rest : forall reply, Erases shape (next reply) (after reply)) :
      Erases shape (.act (.stopping action) next) (.act action after)
  | skip {action : LifetimeAction} {next : action.Reply -> LifetimeProgram R}
      {program : StopProgram T} (ofHandles : action.isOfHandles = true)
      (rest : forall reply, Erases shape (next reply) program) :
      Erases shape (.act action next) program

section Erasing

variable {R R' T T' : Type} {shape : T -> R} {shape' : T' -> R'}

theorem Erases.bind {program : LifetimeProgram R} {erased : StopProgram T}
    (erases : Erases shape program erased) {rest : R -> LifetimeProgram R'}
    {rest' : T -> StopProgram T'} (after : forall result, Erases shape' (rest (shape result))
      (rest' result)) : Erases shape' (program >>= rest) (erased >>= rest') := by
  induction erases with
  | done result => exact after result
  | step _ inner => exact Erases.step inner
  | skip ofHandles _ inner => exact Erases.skip ofHandles inner

theorem erases_liftStop (program : StopProgram T) : Erases id (liftStop program) program := by
  induction program with
  | done result => exact Erases.done result
  | act action next inner => exact Erases.step inner

theorem erases_performLifetime {action : StopAction} {rest : action.Reply -> LifetimeProgram R}
    {rest' : action.Reply -> StopProgram T} (after : forall reply, Erases shape (rest reply)
      (rest' reply)) :
    Erases shape (performLifetime (.stopping action) >>= rest) (performStop action >>= rest') :=
  Erases.step after

theorem erases_releaseTaken (slot : HandleSlot) {rest : Unit -> LifetimeProgram R}
    {program : StopProgram T} (after : Erases shape (rest ()) program) :
    Erases shape (GossipService.releaseTaken slot >>= rest) program := by
  refine Erases.skip rfl fun taken => ?_
  cases taken with
  | none => exact after
  | some handle => exact Erases.skip rfl fun _ => after

/-- `stop` is the stop of the service with the handles taken away besides. -/
theorem erases_stop : Erases id GossipService.stop Service.stop := by
  refine erases_performLifetime fun _ => erases_releaseTaken _ (erases_releaseTaken _ ?_)
  refine erases_releaseTaken _ (erases_performLifetime fun _ => erases_releaseTaken _ ?_)
  refine erases_performLifetime fun _ => Erases.skip rfl fun _ => ?_
  refine erases_performLifetime fun slots => (erases_liftStop (closeTaken slots)).bind fun _ => ?_
  refine erases_performLifetime fun _ => erases_performLifetime fun _ => ?_
  exact Erases.step fun _ => Erases.done ()

end Erasing

def LifetimeOutcome.of : StopOutcome -> LifetimeOutcome
  | .service outcome => .service outcome
  | .stopped => .stopped

/-- The operation of the service that may be stopped; a start is none. -/
def LifetimeOperation.erased : LifetimeOperation -> Option StopOperation
  | service op => some (.service op)
  | start _ => none
  | stop => some .stop

theorem erases_program {op : LifetimeOperation} {erased : StopOperation}
    (same : op.erased = some erased) (config : GossipConfig) :
    Erases LifetimeOutcome.of (op.program config) (erased.program config) := by
  cases op with
  | service op =>
      cases same
      exact (erases_liftStop (lift (op.program config))).bind fun outcome =>
        Erases.done (StopOutcome.service outcome)
  | start binding => cases same
  | stop =>
      cases same
      exact erases_stop.bind fun _ => Erases.done StopOutcome.stopped

/-- The same service state, and the same threads up to their actions on the handles. -/
structure Erased (w : LifetimeWorld) (erased : StopWorld) : Prop where
  service : w.shared.service = erased.shared
  length : w.threads.length = erased.threads.length
  threads : forall (thread : Nat) program, w.threads[thread]? = some program ->
    exists partner, erased.threads[thread]? = some partner ∧
      Erases LifetimeOutcome.of program partner

section Simulation

variable {config : GossipConfig} {w : LifetimeWorld} {erased : StopWorld}

theorem Erased.spawn (same : Erased w erased) {op : LifetimeOperation} {partner : StopOperation}
    (known : op.erased = some partner) :
    Erased ((lifetime config).step w (.spawn op))
      ((stoppable config).step erased (.spawn partner)) where
  service := same.service
  length := by
    simp only [System.step, List.length_append, same.length]
    rfl
  threads := by
    intro thread program found
    simp only [System.step] at found ⊢
    rcases Nat.lt_or_ge thread w.threads.length with old | new
    · rw [List.getElem?_append_left old] at found
      rw [List.getElem?_append_left (same.length ▸ old)]
      exact same.threads thread program found
    · rw [List.getElem?_append_right new, same.length] at found
      rw [List.getElem?_append_right (same.length ▸ new)]
      cases last : thread - erased.threads.length with
      | zero =>
          rw [last] at found
          cases found
          exact ⟨_, rfl, erases_program known config⟩
      | succ beyond =>
          rw [last] at found
          cases found

/-- A thread put on in both worlds. -/
theorem Erased.set (same : Erased w erased) {thread : Nat} (alive : thread < w.threads.length)
    {program : LifetimeProgram LifetimeOutcome} {partner : StopProgram StopOutcome}
    (erases : Erases LifetimeOutcome.of program partner) {s : LifetimeState} {s' : ServiceState}
    (service : s.service = s') :
    Erased { shared := s, threads := w.threads.set thread program }
      { shared := s', threads := erased.threads.set thread partner } where
  service := service
  length := by rw [List.length_set, List.length_set, same.length]
  threads := by
    intro place running found
    by_cases here : thread = place
    · subst here
      rw [List.getElem?_set_self alive] at found
      cases found
      exact ⟨partner, List.getElem?_set_self (same.length ▸ alive), erases⟩
    · rw [List.getElem?_set_ne here] at found ⊢
      exact same.threads place running found

/-- An action on the service is done by both, one on the handles by the first alone. -/
theorem Erased.advance (same : Erased w erased) (thread : Nat) (order : PeerId -> Nat) :
    Erased ((lifetime config).step w (.advance thread order)) erased ∨
      Erased ((lifetime config).step w (.advance thread order))
        ((stoppable config).step erased (.advance thread order)) := by
  simp only [System.step]
  cases found : w.threads[thread]? with
  | none => exact Or.inl same
  | some program =>
      have alive := (List.getElem?_eq_some_iff.mp found).1
      rcases same.threads thread program found with ⟨partner, running, erases⟩
      cases erases with
      | done result => exact Or.inl same
      | @step action next after rest =>
          right
          simp only [running, <- same.service]
          exact same.set alive (rest _) rfl
      | @skip action next partner ofHandles rest =>
          left
          have untouched : (execLifetime order action w.shared).1.service = w.shared.service := by
            cases action <;> first | rfl | cases ofHandles
          have put := same.set alive (rest (execLifetime order action w.shared).2)
            (untouched.trans same.service)
          rcases List.getElem?_eq_some_iff.mp running with ⟨held, rfl⟩
          rw [List.set_getElem_self] at put
          exact put

/-- A run without a start is, but for the handles, a run of the service that may
be stopped. -/
theorem stops_simulated (same : Erased w erased) (moves : List LifetimeMove)
    (startless : ∀ op ∈ System.spawned moves, op.erased.isSome = true) :
    exists moves', Erased ((lifetime config).run moves w) ((stoppable config).run moves' erased) := by
  induction moves generalizing w erased with
  | nil => exact ⟨[], same⟩
  | cons move moves inner =>
      cases move with
      | spawn op =>
          rcases Option.isSome_iff_exists.mp (startless op List.mem_cons_self) with ⟨partner, known⟩
          rcases inner (same.spawn known) fun later member =>
            startless later (List.mem_cons_of_mem op member) with ⟨moves', ends⟩
          exact ⟨.spawn partner :: moves', ends⟩
      | advance thread order =>
          rcases same.advance thread order with alone | both
          · exact inner alone startless
          · rcases inner both startless with ⟨moves', ends⟩
            exact ⟨.advance thread order :: moves', ends⟩

end Simulation

end Service
end DigGossip
