import Mathlib.Data.List.Basic

namespace DigGossip
namespace Foundations

/-!
# Runs of a deterministic step

A step function takes a state and an event to the next state; an event that
cannot happen in a state leaves it as it is.  A run folds the step over a list
of events, and its history lists each event with the state it happened in.

Two rules carry a property along every run: an invariant of the states, and an
invariant of the states together with the history so far.
-/

namespace Stepping

variable {S E : Type} (step : S -> E -> S)

def run (events : List E) (s : S) : S :=
  events.foldl step s

/-- A test that every event of a run passes in the state it happens in. -/
def along (test : S -> E -> Bool) : List E -> S -> Bool
  | [], _ => true
  | event :: events, s => test s event && along test events (step s event)

/-- The events of a run, each with the state it happened in. -/
def history : List E -> S -> List (S × E)
  | [], _ => []
  | event :: events, s => (s, event) :: history events (step s event)

variable {step}

@[simp] theorem run_nil (s : S) : run step [] s = s := rfl

@[simp] theorem run_cons (event : E) (events : List E) (s : S) :
    run step (event :: events) s = run step events (step s event) := rfl

theorem run_append (events later : List E) (s : S) :
    run step (events ++ later) s = run step later (run step events s) :=
  List.foldl_append

theorem run_concat (events : List E) (event : E) (s : S) :
    run step (events ++ [event]) s = step (run step events s) event :=
  run_append events [event] s

theorem history_append (events later : List E) (s : S) :
    history step (events ++ later) s =
      history step events s ++ history step later (run step events s) := by
  induction events generalizing s with
  | nil => rfl
  | cons event events inner => exact congrArg (List.cons (s, event)) (inner (step s event))

theorem history_concat (events : List E) (event : E) (s : S) :
    history step (events ++ [event]) s =
      history step events s ++ [(run step events s, event)] :=
  history_append events [event] s

/-- What holds of a run holds of each of its beginnings. -/
theorem along_take {test : S -> E -> Bool} {events : List E} {s : S}
    (passed : along step test events s = true) (count : Nat) :
    along step test (events.take count) s = true := by
  induction events generalizing s count with
  | nil =>
      rw [List.take_nil]
      rfl
  | cons event events inner =>
      cases count with
      | zero => rfl
      | succ count =>
          have both := Bool.and_eq_true_iff.mp passed
          exact Bool.and_eq_true_iff.mpr ⟨both.1, inner both.2 count⟩

/-- Each event of a run passes in the state that the events before it lead to. -/
theorem along_at {test : S -> E -> Bool} {events : List E} {s : S}
    (passed : along step test events s = true) {count : Nat} {event : E}
    (made : events[count]? = some event) :
    test (run step (events.take count) s) event = true := by
  induction events generalizing s count with
  | nil => cases made
  | cons first events inner =>
      have both := Bool.and_eq_true_iff.mp passed
      cases count with
      | zero =>
          cases made
          exact both.1
      | succ count => exact inner both.2 made

/-- An invariant that every passing event keeps holds after every passing run. -/
theorem invariant {test : S -> E -> Bool} {Inv : S -> Prop}
    (kept : forall s event, test s event = true -> Inv s -> Inv (step s event))
    {events : List E} {s : S} (passed : along step test events s = true) (holds : Inv s) :
    Inv (run step events s) := by
  induction events generalizing s with
  | nil => exact holds
  | cons event events inner =>
      have both := Bool.and_eq_true_iff.mp passed
      exact inner both.2 (kept s event both.1 holds)

/-- An invariant of the history and the state it leads to. -/
theorem history_invariant {test : S -> E -> Bool} {Inv : List (S × E) -> S -> Prop}
    (kept : forall past s event, test s event = true -> Inv past s ->
      Inv (past ++ [(s, event)]) (step s event))
    {events : List E} {s : S} (passed : along step test events s = true) {past : List (S × E)}
    (holds : Inv past s) : Inv (past ++ history step events s) (run step events s) := by
  induction events generalizing s past with
  | nil =>
      rw [history, List.append_nil]
      exact holds
  | cons event events inner =>
      have both := Bool.and_eq_true_iff.mp passed
      have later := inner both.2 (kept past s event both.1 holds)
      rw [List.append_assoc] at later
      exact later

theorem along_true (events : List E) (s : S) :
    along step (fun _ _ => true) events s = true := by
  induction events generalizing s with
  | nil => rfl
  | cons event events inner => exact inner (step s event)

/-- An invariant that every event keeps holds of every run and its history. -/
theorem history_kept {Inv : List (S × E) -> S -> Prop}
    (kept : forall past s event, Inv past s -> Inv (past ++ [(s, event)]) (step s event))
    {s : S} (holds : Inv [] s) (events : List E) : Inv (history step events s) (run step events s) :=
  history_invariant (fun past s event _ => kept past s event) (along_true events s) holds

/-- A view that each event sets or leaves alone is what the last event that sets
it makes of it. -/
theorem view_run {W : Type} {view : S -> W} {sets : E -> Option W}
    (kept : forall s event, view (step s event) = (sets event).getD (view s)) (events : List E)
    (s : S) : view (run step events s) = (events.reverse.findSome? sets).getD (view s) := by
  induction events generalizing s with
  | nil => rfl
  | cons event events inner =>
      rw [run_cons, inner (step s event), kept, List.reverse_cons, List.findSome?_append]
      cases events.reverse.findSome? sets with
      | some later => rfl
      | none =>
          rw [List.findSome?_cons, List.findSome?_nil]
          cases sets event <;> rfl

end Stepping
end Foundations
end DigGossip
