import Mathlib.Data.List.Basic

namespace DigGossip
namespace Foundations

/-!
# Simulation of partial steps

A partial step function takes a state and an event to the next state, or to
nothing when the step fails.  A concrete machine simulates an abstract one
when related states stay related under every event that meets a condition on
the concrete state.  The concrete run then does not fail, and it ends in a
state related to the end of the abstract run.
-/

namespace Simulation

variable {S T E : Type}

def run (step : S -> E -> Option S) (events : List E) (s : S) : Option S :=
  events.foldlM step s

/-- Every event of a run meets a condition in the state that it happens in. -/
def Along (step : S -> E -> Option S) (meets : S -> E -> Prop) : List E -> S -> Prop
  | [], _ => True
  | event :: events, s =>
      meets s event ∧ forall next, step s event = some next -> Along step meets events next

variable {step : S -> E -> Option S} {abstract : T -> E -> Option T} {meets : S -> E -> Prop}

theorem run_cons_of {s next : S} {event : E} (stepped : step s event = some next)
    (events : List E) : run step (event :: events) s = run step events next := by
  unfold run
  rw [List.foldlM_cons, stepped]
  rfl

/-- What every step that does not fail keeps holds after every run that does not fail. -/
theorem run_keeps {Inv : S -> Prop}
    (kept : forall s event next, Inv s -> step s event = some next -> Inv next)
    {events : List E} {s t : S} (holds : Inv s) (ran : run step events s = some t) : Inv t := by
  induction events generalizing s with
  | nil =>
      cases ran
      exact holds
  | cons event events inner =>
      unfold run at ran
      rw [List.foldlM_cons] at ran
      rcases Option.bind_eq_some_iff.mp ran with ⟨next, stepped, rest⟩
      exact inner (kept s event next holds stepped) rest

/-- One step of each, related before and after. -/
def Simulates (step : S -> E -> Option S) (abstract : T -> E -> Option T)
    (meets : S -> E -> Prop) (Related : S -> T -> Prop) : Prop :=
  forall s t event, Related s t -> meets s event ->
    exists next later, step s event = some next ∧ abstract t event = some later ∧ Related next later

/-- A simulation of steps is a simulation of runs. -/
theorem Simulates.run {Related : S -> T -> Prop} (simulates : Simulates step abstract meets Related)
    {events : List E} {s : S} {t : T} (related : Related s t) (met : Along step meets events s) :
    exists next later, Simulation.run step events s = some next ∧
      Simulation.run abstract events t = some later ∧ Related next later := by
  induction events generalizing s t with
  | nil => exact ⟨s, t, rfl, rfl, related⟩
  | cons event events inner =>
      rcases simulates s t event related met.1 with ⟨next, later, stepped, followed, kept⟩
      rw [run_cons_of stepped, run_cons_of followed]
      exact inner kept (met.2 next stepped)

end Simulation

end Foundations
end DigGossip
