import Mathlib.Data.List.DropRight
import Mathlib.Logic.Function.Basic
import DigGossip.Foundations.Selection
import DigGossip.Foundations.Stepping

namespace DigGossip
namespace Foundations

/-!
# Tallies that are cleared with the window

Time is cut into windows, and a meter keeps one tally for each key.  The first
event of another window than the last one clears all the tallies, and an event
then moves the tally of its own key only.  What is found in a tally is therefore
made of the events of its key since the window was entered, whatever the others
were.  Where time does not go back these are all the events of the key in the
window.
-/

/-- Of the elements with two properties, the last stretch of one is cut off by the other alone. -/
theorem filter_rdropWhile_append_rtakeWhile {E : Type} (first second : E -> Prop)
    [DecidablePred first] [DecidablePred second] (events : List E) :
    events.filter (fun event => decide (first event ∧ second event)) =
      (events.rdropWhile fun event => decide (second event)).filter
          (fun event => decide (first event ∧ second event)) ++
        (events.rtakeWhile fun event => decide (second event)).filter
          fun event => decide (first event) := by
  conv_lhs =>
    rw [<- @List.rdropWhile_append_rtakeWhile E (fun event => decide (second event)) events]
  rw [List.filter_append]
  congr 1
  apply List.filter_congr
  intro event member
  have here : second event := by
    have passed := List.mem_rtakeWhile_imp member
    rwa [decide_eq_true_eq] at passed
  exact decide_eq_decide.mpr (and_iff_left here)

/-- What stands before the last stretch stands before it in a longer list too. -/
theorem rdropWhile_prefix_append {E : Type} (test : E -> Bool) (events later : List E) :
    events.rdropWhile test <+: (events ++ later).rdropWhile test := by
  induction later using List.reverseRecOn with
  | nil => exact (List.append_nil events).symm ▸ List.prefix_rfl
  | append_singleton later event inner =>
      rw [<- List.append_assoc, List.rdropWhile_concat]
      split
      · exact inner
      · rw [List.append_assoc]
        exact (List.rdropWhile_prefix _ events).trans (List.prefix_append _ _)

/-- How an event is weighed on the tally of its key. -/
structure Meter (K E T : Type) where
  key : E -> K
  window : E -> Nat
  start : T
  weigh : T -> E -> Bool × T

/-- The tallies of one window. -/
structure Tallies (K T : Type) where
  window : Nat
  tally : K -> T

namespace Meter

variable {K E T : Type} (meter : Meter K E T)

def fresh (window : Nat) : Tallies K T where
  window := window
  tally := fun _ => meter.start

def enter (tallies : Tallies K T) (window : Nat) : Tallies K T :=
  if tallies.window ≠ window then meter.fresh window else tallies

/-- One tally over a list of events. -/
def tallyOf (events : List E) : T :=
  events.foldl (fun tally event => (meter.weigh tally event).2) meter.start

/-- Events in the order of their windows. -/
def Ordered (events : List E) : Prop :=
  events.Pairwise fun earlier later => meter.window earlier ≤ meter.window later

/-- The events of one tally that pass. -/
def passing (events : List E) : List E :=
  keepBy (fun past event => (meter.weigh (meter.tallyOf past) event).1) [] events

variable {meter}

theorem tallyOf_concat (events : List E) (event : E) :
    meter.tallyOf (events ++ [event]) = (meter.weigh (meter.tallyOf events) event).2 := by
  rw [tallyOf, List.foldl_append]
  rfl

theorem passing_concat (events : List E) (event : E) :
    meter.passing (events ++ [event]) =
      meter.passing events ++
        if (meter.weigh (meter.tallyOf events) event).1 then [event] else [] :=
  keepBy_concat _ [] events event

@[simp] theorem window_enter (tallies : Tallies K T) (window : Nat) :
    (meter.enter tallies window).window = window := by
  unfold enter
  split
  · rfl
  · rename_i same
    exact not_not.mp same

theorem enter_of_eq {tallies : Tallies K T} {window : Nat} (same : tallies.window = window) :
    meter.enter tallies window = tallies :=
  if_neg (not_not.mpr same)

theorem enter_of_ne {tallies : Tallies K T} {window : Nat} (apart : tallies.window ≠ window) :
    meter.enter tallies window = meter.fresh window :=
  if_pos apart

/-- The events before the window was entered the last time. -/
def forgotten (meter : Meter K E T) (window : Nat) (events : List E) : List E :=
  events.rdropWhile fun event => decide (meter.window event = window)

variable [DecidableEq K]
variable (meter)

def check (tallies : Tallies K T) (event : E) : Bool × Tallies K T :=
  let tallies := meter.enter tallies (meter.window event)
  let (passed, tally) := meter.weigh (tallies.tally (meter.key event)) event
  (passed, { tallies with tally := Function.update tallies.tally (meter.key event) tally })

def after (tallies : Tallies K T) (events : List E) : Tallies K T :=
  Stepping.run (fun tallies event => (meter.check tallies event).2) events tallies

/-- The events of a key in a window. -/
def inWindow (window : Nat) (key : K) (events : List E) : List E :=
  events.filter fun event => decide (meter.key event = key ∧ meter.window event = window)

/-- The events of a key since the window was entered the last time. -/
def heard (window : Nat) (key : K) (events : List E) : List E :=
  (events.rtakeWhile fun event => decide (meter.window event = window)).filter fun event =>
    decide (meter.key event = key)

variable {meter}

theorem after_concat (tallies : Tallies K T) (events : List E) (event : E) :
    meter.after tallies (events ++ [event]) = (meter.check (meter.after tallies events) event).2 :=
  Stepping.run_concat events event tallies

theorem window_check (tallies : Tallies K T) (event : E) :
    (meter.check tallies event).2.window = meter.window event :=
  window_enter tallies (meter.window event)

theorem tally_check (tallies : Tallies K T) (event : E) (key : K) :
    (meter.check tallies event).2.tally key =
      if key = meter.key event then
        (meter.weigh ((meter.enter tallies (meter.window event)).tally key) event).2
      else (meter.enter tallies (meter.window event)).tally key := by
  change Function.update (meter.enter tallies (meter.window event)).tally _ _ key = _
  rw [Function.update_apply]
  by_cases same : key = meter.key event
  · rw [if_pos same, if_pos same, same]
  · rw [if_neg same, if_neg same]

theorem heard_concat (window : Nat) (key : K) (events : List E) (event : E) :
    meter.heard window key (events ++ [event]) =
      if meter.window event = window then
        meter.heard window key events ++ if meter.key event = key then [event] else []
      else [] := by
  unfold heard
  rw [List.rtakeWhile_concat]
  simp only [decide_eq_true_eq]
  by_cases here : meter.window event = window
  · rw [if_pos here, if_pos here, List.filter_append, List.filter_singleton, Bool.cond_decide]
  · rw [if_neg here, if_neg here]
    rfl

theorem inWindow_concat (window : Nat) (key : K) (events : List E) (event : E) :
    meter.inWindow window key (events ++ [event]) =
      meter.inWindow window key events ++
        if meter.key event = key ∧ meter.window event = window then [event] else [] := by
  unfold inWindow
  rw [List.filter_append, List.filter_singleton, Bool.cond_decide]

/-- A tally holds what its key was charged since the window was entered, and nothing else. -/
theorem tally_after (start window : Nat) (key : K) (events : List E) :
    (meter.enter (meter.after (meter.fresh start) events) window).tally key =
      meter.tallyOf (meter.heard window key events) := by
  induction events using List.reverseRecOn generalizing window with
  | nil =>
      change (meter.enter (meter.fresh start) window).tally key = meter.start
      unfold enter
      split
      · rfl
      · rfl
  | append_singleton events event inner =>
      rw [after_concat, heard_concat]
      by_cases here : meter.window event = window
      · rw [enter_of_eq ((window_check _ event).trans here), tally_check, if_pos here, here, inner]
        by_cases same : meter.key event = key
        · rw [if_pos same, if_pos same.symm, tallyOf_concat]
        · rw [if_neg same, if_neg (Ne.symm same), List.append_nil]
      · rw [if_neg here]
        exact congrFun (congrArg Tallies.tally (enter_of_ne (by rwa [window_check]))) key

/-- The verdict on an event goes by its own key since the window was entered. -/
theorem check_after (start : Nat) (events : List E) (event : E) :
    (meter.check (meter.after (meter.fresh start) events) event).1 =
      (meter.weigh (meter.tallyOf (meter.heard (meter.window event) (meter.key event) events))
        event).1 := by
  rw [<- tally_after start]
  rfl

/-! ## The events that were forgotten -/

/-- What a meter forgot of a key, and what it heard, are the events of the key in the window. -/
theorem inWindow_eq_append (window : Nat) (key : K) (events : List E) :
    meter.inWindow window key events =
      meter.inWindow window key (meter.forgotten window events) ++
        meter.heard window key events :=
  filter_rdropWhile_append_rtakeWhile _ _ events

/-- Where time does not go back, no event of the window is forgotten. -/
theorem heard_of_ordered {events : List E} (ordered : meter.Ordered events) {window : Nat}
    (past : ∀ event ∈ events, meter.window event ≤ window) (key : K) :
    meter.heard window key events = meter.inWindow window key events := by
  induction events using List.reverseRecOn with
  | nil => rfl
  | append_singleton events event inner =>
      rcases List.pairwise_append.mp ordered with ⟨earlier, _, before⟩
      have last : meter.window event ≤ window := past event (by simp)
      have settled : ∀ other ∈ events, meter.window other ≤ meter.window event :=
        fun other member => before other member event (List.mem_singleton_self event)
      rw [heard_concat, inWindow_concat]
      by_cases here : meter.window event = window
      · rw [if_pos here, inner earlier fun other member => (settled other member).trans last]
        simp only [here, and_true]
      · rw [if_neg here, if_neg fun both => here both.2, List.append_nil]
        symm
        apply List.filter_eq_nil_iff.mpr
        intro other member
        rw [decide_eq_true_eq]
        rintro ⟨_, same⟩
        have late := settled other member
        omega

/-! ## The events that pass -/

/-- The events of a run that pass. -/
def admitted (meter : Meter K E T) (tallies : Tallies K T) (events : List E) : List E :=
  keepBy (fun past event => (meter.check (meter.after tallies past) event).1) [] events

theorem admitted_concat (tallies : Tallies K T) (events : List E) (event : E) :
    meter.admitted tallies (events ++ [event]) =
      meter.admitted tallies events ++
        if (meter.check (meter.after tallies events) event).1 then [event] else [] :=
  keepBy_concat _ [] events event

/-- What passes of a key in a window are the events of the two that pass by themselves. -/
theorem inWindow_admitted (start : Nat) {events : List E} (ordered : meter.Ordered events)
    (window : Nat) (key : K) :
    meter.inWindow window key (meter.admitted (meter.fresh start) events) =
      meter.passing (meter.inWindow window key events) := by
  induction events using List.reverseRecOn with
  | nil => rfl
  | append_singleton events event inner =>
      rcases List.pairwise_append.mp ordered with ⟨earlier, _, before⟩
      rw [admitted_concat, inWindow_concat]
      by_cases here : meter.key event = key ∧ meter.window event = window
      · rw [if_pos here, passing_concat, <- inner earlier, check_after, here.1, here.2,
          heard_of_ordered earlier
            (fun other member => here.2 ▸ before other member event (List.mem_singleton_self event))]
        cases (meter.weigh (meter.tallyOf (meter.inWindow window key events)) event).1 with
        | true =>
            rw [if_pos rfl, inWindow_concat, if_pos here]
        | false =>
            rw [if_neg Bool.false_ne_true, List.append_nil, List.append_nil]
      · rw [if_neg here, List.append_nil, <- inner earlier]
        cases (meter.check (meter.after (meter.fresh start) events) event).1 with
        | true =>
            rw [if_pos rfl, inWindow_concat, if_neg here, List.append_nil]
        | false =>
            rw [if_neg Bool.false_ne_true, List.append_nil]

end Meter
end Foundations
end DigGossip
