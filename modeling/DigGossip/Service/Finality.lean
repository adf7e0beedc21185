import DigGossip.Service.Draining

namespace DigGossip
namespace Service

open Foundations DigGossip.Types
open Program (Breaks Keeps Only wp)

/-!
# A stop is final

Each thread keeps a phase: none for an operation of the service, and for a call
of `stop` the stages it has completed.  While a stop is at a stage the state is
drained up to it and no thread will undo that; the stage itself must be reached
when no other thread still has an insertion into the drained tables ahead of
it, which is the one thing that `stop` does not see to.
-/

/-- The stage that an action of `stop` completes. -/
def StopAction.drains : StopAction -> Option Nat
  | swapStopped => some 1
  | takePeers => some 2
  | clearBanned => some 3
  | clearPenalties => some 4
  | resetIpBans => some 5
  | service _ | dropEventsTx | clearBoundAddr => none

/-- The actions of `stop`: its own, and those that close the slots it took. -/
def StopAction.isOfStop : StopAction -> Bool
  | service action => action.isEffect
  | swapStopped | dropEventsTx | clearBoundAddr | takePeers => true
  | clearBanned | clearPenalties | resetIpBans => true

def StopAction.isOfService : StopAction -> Bool
  | service _ => true
  | swapStopped | dropEventsTx | clearBoundAddr | takePeers => false
  | clearBanned | clearPenalties | resetIpBans => false

theorem StopAction.drains_of_isOfService {action : StopAction}
    (ofService : action.isOfService = true) : action.drains = none := by
  cases action <;> first | rfl | cases ofService

section Stages

variable {config : GossipConfig} {stage : Nat} {s : ServiceState}

/-- No action of a stop undoes a stage. -/
theorem Drained.execStopping (drained : Drained config stage s) {action : StopAction}
    (own : action.isOfStop = true) (order : PeerId -> Nat) :
    Drained config stage (execStopping order action s).1 := by
  rcases drained with ⟨configured, lifecycle, peers, banned, penalties, chiaIpBans⟩
  cases action with
  | service action =>
      have nothing := Action.insertsNothing_of_isEffect own
      exact Drained.exec ⟨configured, lifecycle, peers, banned, penalties, chiaIpBans⟩ nothing order
  | swapStopped => exact ⟨configured, fun _ => rfl, peers, banned, penalties, chiaIpBans⟩
  | dropEventsTx => exact ⟨configured, lifecycle, peers, banned, penalties, chiaIpBans⟩
  | clearBoundAddr => exact ⟨configured, lifecycle, peers, banned, penalties, chiaIpBans⟩
  | takePeers => exact ⟨configured, lifecycle, fun _ => rfl, banned, penalties, chiaIpBans⟩
  | clearBanned => exact ⟨configured, lifecycle, peers, fun _ => rfl, penalties, chiaIpBans⟩
  | clearPenalties => exact ⟨configured, lifecycle, peers, banned, fun _ => rfl, chiaIpBans⟩
  | resetIpBans => exact ⟨configured, lifecycle, peers, banned, penalties, fun _ => rfl⟩

/-- The action that completes the next stage takes the service there. -/
theorem Drained.advance (drained : Drained config stage s) {action : StopAction}
    (completes : action.drains = some (stage + 1)) (order : PeerId -> Nat) :
    Drained config (stage + 1) (Service.execStopping order action s).1 := by
  have own : action.isOfStop = true := by
    cases action <;> first | rfl | cases completes
  have kept := drained.execStopping own order
  have below : forall {emptied : Prop} {rank : Nat}, rank ≠ stage + 1 -> (rank ≤ stage -> emptied) ->
      rank ≤ stage + 1 -> emptied := fun apart held reached => held (by omega)
  cases action with
  | service action => cases completes
  | dropEventsTx => cases completes
  | clearBoundAddr => cases completes
  | swapStopped =>
      have here : 1 = stage + 1 := Option.some.inj completes
      exact ⟨kept.config, fun _ => rfl, below (by omega) kept.peers, below (by omega) kept.banned,
        below (by omega) kept.penalties, below (by omega) kept.chiaIpBans⟩
  | takePeers =>
      have here : 2 = stage + 1 := Option.some.inj completes
      exact ⟨kept.config, below (by omega) kept.lifecycle, fun _ => rfl,
        below (by omega) kept.banned, below (by omega) kept.penalties,
        below (by omega) kept.chiaIpBans⟩
  | clearBanned =>
      have here : 3 = stage + 1 := Option.some.inj completes
      exact ⟨kept.config, below (by omega) kept.lifecycle, below (by omega) kept.peers,
        fun _ => rfl, below (by omega) kept.penalties, below (by omega) kept.chiaIpBans⟩
  | clearPenalties =>
      have here : 4 = stage + 1 := Option.some.inj completes
      exact ⟨kept.config, below (by omega) kept.lifecycle, below (by omega) kept.peers,
        below (by omega) kept.banned, fun _ => rfl, below (by omega) kept.chiaIpBans⟩
  | resetIpBans =>
      have here : 5 = stage + 1 := Option.some.inj completes
      exact ⟨kept.config, below (by omega) kept.lifecycle, below (by omega) kept.peers,
        below (by omega) kept.banned, below (by omega) kept.penalties, fun _ => rfl⟩

end Stages

/-! ## Phases of a thread -/

/-- A stop completes its stages in order; an operation of the service completes none. -/
def dueStop : Option Nat -> StopAction -> Prop
  | none, action => action.isOfService = true
  | some stage, action =>
      action.isOfStop = true ∧ forall next, action.drains = some next -> next = stage + 1

def settleStop (phase : Option Nat) (action : StopAction) (_ : action.Reply) : Option Nat :=
  phase.map fun stage => action.drains.getD stage

/-- From this phase the program does what is due, and a stop ends after the last stage. -/
def Proceeds (program : StopProgram StopOutcome) (phase : Option Nat) : Prop :=
  wp dueStop settleStop program phase fun result after => result = .stopped -> after = some 5

theorem proceeds_service (program : ServiceProgram Outcome) :
    Proceeds (StopOutcome.service <$> lift program) none := by
  induction program with
  | done result => exact fun stopped => by cases stopped
  | act action next inner => exact ⟨rfl, inner⟩

theorem wp_lift_isEffect {program : ServiceProgram Unit} (only : Only Action.isEffect program)
    {stage : Nat} {post : Unit -> Option Nat -> Prop} (holds : post () (some stage)) :
    wp dueStop settleStop (lift program) (some stage) post := by
  induction program with
  | done result => exact holds
  | act action next inner =>
      exact ⟨⟨only.1, fun _ drains => by cases drains⟩, fun reply => inner reply (only.2 reply)⟩

theorem wp_closeTaken (slots : List PeerSlot) {stage : Nat} {post : Unit -> Option Nat -> Prop}
    (holds : post () (some stage)) :
    wp dueStop settleStop (closeTaken slots) (some stage) post := by
  induction slots with
  | nil => exact holds
  | cons slot rest inner =>
      rw [closeTaken, Program.wp_bind]
      exact wp_lift_isEffect (only_retireLive (some slot)) inner

theorem proceeds_stop : Proceeds ((fun _ => .stopped) <$> stop) (some 0) := by
  have due : forall stage (action : StopAction), action.isOfStop = true ->
      action.drains.all (· == stage + 1) = true -> dueStop (some stage) action := by
    intro stage action own ordered
    refine ⟨own, fun next drains => ?_⟩
    rw [drains] at ordered
    exact eq_of_beq ordered
  rw [Proceeds, Program.wp_map]
  refine Program.wp_perform_bind (due 0 _ rfl rfl) fun _ => ?_
  refine Program.wp_perform_bind (due 1 _ rfl rfl) fun _ => ?_
  refine Program.wp_perform_bind (due 1 _ rfl rfl) fun _ => ?_
  refine Program.wp_perform_bind (due 1 _ rfl rfl) fun oldPeers => ?_
  rw [Program.wp_bind]
  apply wp_closeTaken oldPeers
  refine Program.wp_perform_bind (due 2 _ rfl rfl) fun _ => ?_
  refine Program.wp_perform_bind (due 3 _ rfl rfl) fun _ => ?_
  exact ⟨due 4 _ rfl rfl, fun _ _ => rfl⟩

/-! ## What every thread keeps -/

section Keeping

variable {config : GossipConfig} {stage : Nat}

theorem keeps_lift {R : Type} {program : ServiceProgram R}
    (keeps : KeepsDrained config stage program) :
    Keeps execStopping (Drained config stage) (lift program) := by
  induction program with
  | done result => trivial
  | act action next inner =>
      intro order s drained
      have step := keeps order s drained
      exact ⟨step.1, inner _ step.2⟩

/-- What is left of a stop undoes no stage. -/
theorem keeps_of_proceeds {program : StopProgram StopOutcome} {reached : Nat}
    (proceeds : Proceeds program (some reached)) :
    Keeps execStopping (Drained config stage) program := by
  induction program generalizing reached with
  | done result => trivial
  | act action next inner =>
      intro order s drained
      exact ⟨drained.execStopping proceeds.1.1 order, inner _ (proceeds.2 _)⟩

theorem keeps_begun (op : StopOperation) :
    Keeps execStopping (Drained config stage) (op.program config) := by
  cases op with
  | service op => exact (keeps_lift (keeps_operation op)).map _
  | stop => exact keeps_of_proceeds proceeds_stop

/-- Until the peers are taken there is nothing that an insertion would undo. -/
theorem keepsStopping_of_le (few : stage ≤ 1) (program : StopProgram StopOutcome) :
    Keeps execStopping (Drained config stage) program := by
  induction program with
  | done result => trivial
  | act action next inner =>
      intro order s drained
      refine ⟨?_, inner _⟩
      cases action with
      | service action => exact drained.exec_of_le few order action
      | _ => exact drained.execStopping rfl order

end Keeping

/-! ## Runs -/

/-- The stage that a move completes. -/
def completes (w : StopWorld) : StopMove -> Option Nat
  | .spawn _ => none
  | .advance thread _ =>
      match w.threads[thread]? with
      | some (.act action _) => action.drains
      | some (.done _) => none
      | none => none

/-- A move that completes a stage is made when no other thread still has an
insertion ahead of it into a table drained by then.  Only the paths count that a
thread can take in a service drained up to that stage. -/
def DrainsSafely (config : GossipConfig) (w : StopWorld) : StopMove -> Prop
  | .spawn _ => True
  | .advance thread order => forall stage, completes w (.advance thread order) = some stage ->
      forall other program, other ≠ thread -> w.threads[other]? = some program ->
        ¬ Breaks execStopping (Drained config stage) program

/-- Whether this thread is a call of `stop` that has returned. -/
def stopReturned (w : StopWorld) (thread : Nat) : Bool :=
  match w.threads[thread]? with
  | some (.done .stopped) => true
  | some (.done (.service _)) => false
  | some (.act _ _) => false
  | none => false

section Runs

variable {config : GossipConfig}

/-- Every thread is in a phase, and what a stop has drained is drained for good. -/
structure Stopping (config : GossipConfig) (w : StopWorld) : Prop where
  configured : w.shared.config = config
  phases : forall program, program ∈ w.threads -> exists phase, Proceeds program phase ∧
    forall stage, phase = some stage -> (stoppable config).Kept (Drained config stage) w

/-- At first only the configuration is known. -/
theorem kept_zero {w : StopWorld} (configured : w.shared.config = config) :
    (stoppable config).Kept (Drained config 0) w :=
  have drained : Drained config 0 w.shared :=
    ⟨configured, nofun, nofun, nofun, nofun, nofun⟩
  ⟨drained, fun program _ => keepsStopping_of_le (Nat.zero_le 1) program⟩

/-- A stop that completes a stage is in the phase after it. -/
theorem Proceeds.completed {action : StopAction} {next : action.Reply -> StopProgram StopOutcome}
    {stage reached : Nat} (proceeds : Proceeds (.act action next) (some stage))
    (drains : action.drains = some reached) (reply : action.Reply) :
    reached = stage + 1 ∧ Proceeds (next reply) (some reached) := by
  have later := proceeds.2 reply
  simp only [settleStop, drains, Option.map_some, Option.getD_some] at later
  exact ⟨proceeds.1.2 reached drains, later⟩

/-- The action that completes a stage leaves the service drained up to it for good. -/
theorem kept_completed {w : StopWorld} {thread stage reached : Nat} {order : PeerId -> Nat}
    {action : StopAction} {next : action.Reply -> StopProgram StopOutcome}
    (found : w.threads[thread]? = some (.act action next))
    (safe : DrainsSafely config w (.advance thread order))
    (proceeds : Proceeds (.act action next) (some stage))
    (kept : (stoppable config).Kept (Drained config stage) w)
    (drains : action.drains = some reached) :
    (stoppable config).Kept (Drained config reached)
      ((stoppable config).step w (.advance thread order)) := by
  have after := fun reply => proceeds.completed drains reply
  have completed : completes w (.advance thread order) = some reached := by
    simp only [completes, found, drains]
  simp only [System.step, found]
  rcases after (execStopping order action w.shared).2 with ⟨rfl, rest⟩
  refine ⟨kept.1.advance drains order, fun program running => ?_⟩
  rcases List.mem_iff_getElem?.mp running with ⟨other, here⟩
  by_cases same : other = thread
  · subst same
    rw [List.getElem?_set_self (List.getElem?_eq_some_iff.mp found).1] at here
    rw [<- Option.some.inj here]
    exact keeps_of_proceeds rest
  · rw [List.getElem?_set_ne (Ne.symm same)] at here
    exact Program.keeps_iff_not_breaks.mpr (safe _ completed other program same here)

/-- The move that completes a stage leaves the service drained up to it for good. -/
theorem Stopping.completed {w : StopWorld} (stopping : Stopping config w) {move : StopMove}
    (safe : DrainsSafely config w move) {stage : Nat} (done : completes w move = some stage) :
    (stoppable config).Kept (Drained config stage) ((stoppable config).step w move) := by
  cases move with
  | spawn op => cases done
  | advance thread order =>
      cases found : w.threads[thread]? with
      | none => simp only [completes, found, reduceCtorEq] at done
      | some active =>
          cases active with
          | done result => simp only [completes, found, reduceCtorEq] at done
          | act action next =>
              simp only [completes, found] at done
              rcases stopping.phases _ (List.mem_of_getElem? found) with ⟨phase, proceeds, kept⟩
              cases phase with
              | none =>
                  rw [StopAction.drains_of_isOfService proceeds.1] at done
                  cases done
              | some reached => exact kept_completed found safe proceeds (kept reached rfl) done

/-- A thread that has done an action is in the phase its action takes it to. -/
theorem Stopping.advance {w : StopWorld} (stopping : Stopping config w) {thread : Nat}
    {order : PeerId -> Nat} {action : StopAction} {next : action.Reply -> StopProgram StopOutcome}
    (found : w.threads[thread]? = some (.act action next))
    (safe : DrainsSafely config w (.advance thread order)) :
    exists phase, Proceeds (next (execStopping order action w.shared).2) phase ∧
      forall stage, phase = some stage -> (stoppable config).Kept (Drained config stage)
        ((stoppable config).step w (.advance thread order)) := by
  rcases stopping.phases _ (List.mem_of_getElem? found) with ⟨phase, proceeds, kept⟩
  cases phase with
  | none => exact ⟨none, proceeds.2 _, nofun⟩
  | some stage =>
      cases drains : action.drains with
      | none =>
          have later := proceeds.2 (execStopping order action w.shared).2
          simp only [settleStop, drains, Option.map_some, Option.getD_none] at later
          refine ⟨some stage, later, fun reached same => ?_⟩
          cases same
          exact (kept stage rfl).step keeps_begun _
      | some reached =>
          refine ⟨some reached, (proceeds.completed drains _).2, fun _ same => ?_⟩
          cases same
          exact kept_completed found safe proceeds (kept stage rfl) drains

theorem Stopping.step {w : StopWorld} (stopping : Stopping config w) (move : StopMove)
    (safe : DrainsSafely config w move) : Stopping config ((stoppable config).step w move) := by
  have configured := (kept_zero stopping.configured).step keeps_begun move
  refine ⟨configured.1.config, ?_⟩
  have carried : forall program, program ∈ w.threads -> exists phase, Proceeds program phase ∧
      forall stage, phase = some stage -> (stoppable config).Kept (Drained config stage)
        ((stoppable config).step w move) := by
    intro program running
    rcases stopping.phases program running with ⟨phase, proceeds, kept⟩
    exact ⟨phase, proceeds, fun stage same => (kept stage same).step keeps_begun move⟩
  intro program running
  cases move with
  | spawn op =>
      rcases List.mem_append.mp running with old | new
      · exact carried program old
      · rw [List.mem_singleton.mp new]
        cases op with
        | service op => exact ⟨none, proceeds_service (op.program config), nofun⟩
        | stop =>
            refine ⟨some 0, proceeds_stop, fun stage same => ?_⟩
            cases same
            exact configured
  | advance thread order =>
      cases found : w.threads[thread]? with
      | none =>
          have still : (stoppable config).step w (.advance thread order) = w := by
            simp only [System.step, found]
          exact carried program (still ▸ running)
      | some active =>
          cases active with
          | done result =>
              have still : (stoppable config).step w (.advance thread order) = w := by
                simp only [System.step, found]
              exact carried program (still ▸ running)
          | act action next =>
              have moved := stopping.advance found safe
              have among : program ∈
                  w.threads.set thread (next (execStopping order action w.shared).2) := by
                simp only [System.step, found] at running
                exact running
              rcases List.mem_or_eq_of_mem_set among with old | new
              · exact carried program old
              · rw [new]
                exact moved

theorem stopping_after {launch : Launch} {moves : List StopMove}
    (safe : (stoppable launch.config).Along (DrainsSafely launch.config) moves launch.stopWorld) :
    Stopping launch.config (launch.afterStopping moves) := by
  have begun : Stopping launch.config launch.stopWorld := ⟨rfl, nofun⟩
  exact System.conforming_invariant (fun w move safe stopping => stopping.step move safe) safe begun

end Runs

/-- If every stage of every stop is completed while no other thread still has an
insertion into the drained tables ahead of it, then each table stays empty from
the moment a stop drains it, and all of them are empty once a stop has returned,
whatever is started or goes on later. -/
theorem stop_final (launch : Launch) {moves : List StopMove}
    (safe : (stoppable launch.config).Along (DrainsSafely launch.config) moves launch.stopWorld)
    (later : List StopMove) :
    (forall before move after stage, moves = before ++ move :: after ->
      completes (launch.afterStopping before) move = some stage ->
      Drained launch.config stage (launch.afterStopping (moves ++ later)).shared) ∧
    (forall thread, stopReturned (launch.afterStopping moves) thread = true ->
      (launch.afterStopping (moves ++ later)).shared.peers = ∅ ∧
      (launch.afterStopping (moves ++ later)).shared.banned = ∅ ∧
      (launch.afterStopping (moves ++ later)).shared.penalties = ∅ ∧
      (launch.afterStopping (moves ++ later)).shared.chiaIpBans = ∅) := by
  constructor
  · intro before move after stage split completed
    subst split
    have parts := System.along_append.mp safe
    have kept := (stopping_after parts.1).completed parts.2.1 completed
    have good := (kept.run keeps_begun (after ++ later)).1
    rw [<- System.run_cons, Launch.afterStopping, <- System.run_append] at good
    rw [List.append_assoc]
    exact good
  · intro thread returned
    unfold stopReturned at returned
    split at returned
    · rename_i found
      rcases (stopping_after safe).phases _ (List.mem_of_getElem? found) with ⟨phase, ends, kept⟩
      have good := ((kept 5 (ends rfl)).run keeps_begun later).1
      rw [Launch.afterStopping, <- System.run_append] at good
      exact ⟨good.peers (by omega), good.banned (by omega), good.penalties (by omega),
        good.chiaIpBans (by omega)⟩
    · cases returned
    · cases returned
    · cases returned

/-! ## A dial in the middle of a stop, and a stop in the middle of a dial -/

/-- From the taking of the peers on, a stage is completed when every other thread has returned. -/
def othersReturned (w : StopWorld) (move : StopMove) : Bool :=
  (completes w move).all fun stage => decide (stage ≤ 1) ||
    match move with
    | .spawn _ => true
    | .advance thread _ => w.threads.zipIdx.all fun (program, other) =>
        other == thread || program.isDone

theorem drainsSafely_of_othersReturned {config : GossipConfig} (w : StopWorld) (move : StopMove)
    (returned : othersReturned w move = true) : DrainsSafely config w move := by
  cases move with
  | spawn op => trivial
  | advance thread order =>
      intro stage completed other program apart found breaks
      unfold othersReturned at returned
      rw [completed, Option.all_some, Bool.or_eq_true, decide_eq_true_iff] at returned
      rcases returned with few | returned
      · exact Program.keeps_iff_not_breaks.mp (keepsStopping_of_le few program) breaks
      · have settled := List.all_eq_true.mp returned (program, other)
          (List.mem_zipIdx_iff_getElem?.mpr found)
        rw [Bool.or_eq_true, beq_iff_eq] at settled
        rcases settled with same | done
        · exact apart same
        · cases breaks with
          | here good broken => cases done
          | later good rest => cases done

namespace Example

/-- A dial looks at the flag, a stop swaps it, and the dial goes on to its end. -/
def dialedMidStop : List StopMove :=
  .spawn (.service (connected 1 (host 1 1))) :: .advance 0 (fun _ => 0) :: .spawn .stop ::
    .advance 1 (fun _ => 0) :: List.replicate 20 (.advance 0 fun _ => 0)

/-- The rest of the stop, with a dial that comes too late in the middle of it. -/
def stoppedThen : List StopMove :=
  .advance 1 (fun _ => 0) :: .spawn (.service (connected 2 (host 2 1))) ::
    List.replicate 20 (.advance 2 fun _ => 0) ++ List.replicate 12 (.advance 1 fun _ => 0)

/-- A dial after the stop. -/
def dialedAfterwards : List StopMove :=
  .spawn (.service (connected 3 (host 3 1))) :: List.replicate 20 (.advance 3 fun _ => 0)

/-- A dial that has looked at the flag when the whole of a stop comes between. -/
def stoppedMidDial : List StopMove :=
  .spawn (.service (connected 1 (host 1 1))) :: .advance 0 (fun _ => 0) :: .spawn .stop ::
    List.replicate 12 (.advance 1 fun _ => 0) ++ List.replicate 20 (.advance 0 fun _ => 0)

end Example

open Example in
/-- A peer that is dialed while the stop is under way is taken by it. -/
theorem stop_final_overlapped :
    ((launch.afterStopping dialedMidStop).shared.peers.lookup 1).isSome = true ∧
    stopReturned (launch.afterStopping (dialedMidStop ++ stoppedThen)) 1 = true ∧
    (launch.afterStopping (dialedMidStop ++ stoppedThen ++ dialedAfterwards)).shared.peers = ∅ := by
  have returned : stopReturned (launch.afterStopping (dialedMidStop ++ stoppedThen)) 1 = true := by
    decide +kernel
  have passed : (stoppable launch.config).along othersReturned (dialedMidStop ++ stoppedThen)
      launch.stopWorld = true := by
    decide +kernel
  have final := stop_final launch (System.along_of_test drainsSafely_of_othersReturned passed)
    dialedAfterwards
  exact ⟨by decide +kernel, returned, (final.2 1 returned).1⟩

theorem stop_final_fails :
    ¬ forall (launch : Launch) (moves : List StopMove) (thread : Nat),
      stopReturned (launch.afterStopping moves) thread = true ->
      (launch.afterStopping moves).settled = true ->
      (launch.afterStopping moves).shared.peers = ∅ ∧
      (launch.afterStopping moves).shared.banned = ∅ ∧
      (launch.afterStopping moves).shared.penalties = ∅ ∧
      (launch.afterStopping moves).shared.chiaIpBans = ∅ := by
  intro claim
  have empty := (claim Example.launch Example.stoppedMidDial 1 (by decide +kernel)
    (by decide +kernel)).1
  have held : ((Example.launch.afterStopping Example.stoppedMidDial).shared.peers.lookup 1).isSome =
      true := by
    decide +kernel
  rw [empty, Finmap.lookup_empty] at held
  cases held

end Service
end DigGossip
