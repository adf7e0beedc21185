import DigGossip.Service.Footprints

namespace DigGossip
namespace Service

open Foundations DigGossip.Types

/-!
# Stopping the service

`stop` takes the lifecycle flag down and then empties the shared tables one
lock at a time, while the operations begun before it go on.  An operation looks
at the flag once, when it begins; what it inserts several awaits later is
inserted whether or not the table has been emptied meanwhile.

The stages of a stop are numbered: 1 the flag, 2 the peer map, 3 the ban table,
4 the penalties, 5 the banned addresses.  The background tasks that `stop`
aborts are operations here that may simply not be advanced any more, and the
channel of inbound messages is not part of the state.
-/

inductive StopAction where
  | service (action : Action)
  | swapStopped
  | dropEventsTx
  | clearBoundAddr
  | takePeers
  | clearBanned
  | clearPenalties
  | resetIpBans

@[reducible] def StopAction.Reply : StopAction -> Type
  | service action => action.Reply
  | takePeers => List PeerSlot
  | swapStopped | dropEventsTx | clearBoundAddr | clearBanned | clearPenalties | resetIpBans => Unit

/-- The effect of an action and its reply, where the service may be stopped. -/
def execStopping (order : PeerId -> Nat) :
    (action : StopAction) -> ServiceState -> ServiceState × action.Reply
  | .service action, s => exec order action s
  | .swapStopped, s => ({ s with lifecycle := .stopped }, ())
  | .dropEventsTx, s => ({ s with pool := { s.pool with eventsTx := none } }, ())
  | .clearBoundAddr, s => ({ s with listenBoundAddr := none }, ())
  | .takePeers, s =>
      ({ s with peers := ∅ }, (listing order s.peers.keys).filterMap s.peers.lookup)
  | .clearBanned, s => ({ s with banned := ∅ }, ())
  | .clearPenalties, s => ({ s with penalties := ∅ }, ())
  | .resetIpBans, s => ({ s with chiaIpBans := ∅ }, ())

abbrev StopProgram (R : Type) := Program StopAction StopAction.Reply R

def performStop (action : StopAction) : StopProgram action.Reply :=
  Program.perform action

/-- An operation of the service, where the service may be stopped. -/
def lift {R : Type} : ServiceProgram R -> StopProgram R
  | .done result => .done result
  | .act action next => .act (.service action) fun reply => lift (next reply)

/-- The slots taken from the map are closed one after the other; only a live
one has a task and a link of its own. -/
def closeTaken : List PeerSlot -> StopProgram Unit
  | [] => pure ()
  | slot :: rest => do
      lift (retireLive (some slot))
      closeTaken rest

def stop : StopProgram Unit := do
  performStop .swapStopped
  performStop .dropEventsTx
  performStop .clearBoundAddr
  let oldPeers <- performStop .takePeers
  closeTaken oldPeers
  performStop .clearBanned
  performStop .clearPenalties
  performStop .resetIpBans

inductive StopOperation where
  | service (op : Operation)
  | stop

inductive StopOutcome where
  | service (outcome : Outcome)
  | stopped

def StopOperation.program (config : GossipConfig) : StopOperation -> StopProgram StopOutcome
  | service op => StopOutcome.service <$> lift (op.program config)
  | stop => (fun _ => .stopped) <$> Service.stop

abbrev StopWorld := World ServiceState StopAction StopAction.Reply StopOutcome

abbrev StopMove := Move StopOperation (PeerId -> Nat)

/-- The service and the calls of `stop`, as a system of threads. -/
def stoppable (config : GossipConfig) :
    System ServiceState StopAction StopAction.Reply StopOutcome StopOperation (PeerId -> Nat) where
  exec := execStopping
  program := StopOperation.program config

namespace Launch

/-- The world right after `start`, where the service may be stopped. -/
def stopWorld (launch : Launch) : StopWorld :=
  World.idle (ServiceState.started launch.config launch.asTable launch.bound launch.now)

def afterStopping (launch : Launch) (moves : List StopMove) : StopWorld :=
  (stoppable launch.config).run moves launch.stopWorld

end Launch

/-! ## Runs without a stop -/

/-- The world of the service as one that may be stopped. -/
def StopWorld.of (w : ServiceWorld) : StopWorld where
  shared := w.shared
  threads := w.threads.map fun program => StopOutcome.service <$> lift program

def StopMove.of : ServiceMove -> StopMove
  | .spawn op => .spawn (.service op)
  | .advance thread order => .advance thread order

/-- Until `stop` is called the runs are those of the service. -/
theorem run_of (config : GossipConfig) (moves : List ServiceMove) (w : ServiceWorld) :
    (stoppable config).run (moves.map StopMove.of) (StopWorld.of w) =
      StopWorld.of ((service config).run moves w) := by
  induction moves generalizing w with
  | nil => rfl
  | cons move moves inner =>
      rw [List.map_cons, System.run_cons, System.run_cons, <- inner]
      apply congrArg
      cases move with
      | spawn op =>
          simp only [StopMove.of, System.step, StopWorld.of, List.map_append]
          rfl
      | advance thread order =>
          simp only [StopMove.of, System.step, StopWorld.of, List.getElem?_map]
          cases w.threads[thread]? with
          | none => rfl
          | some program =>
              cases program with
              | done result => rfl
              | act action next =>
                  apply congrArg (World.mk _)
                  exact List.map_set.symm

end Service
end DigGossip
