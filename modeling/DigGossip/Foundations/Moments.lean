import DigGossip.Foundations.Interleaving

namespace DigGossip
namespace Foundations

/-!
# The moments of a thread

A thread gets each of its replies in the state of some moment of the run, one
moment after another.  What a finished thread returns is put together from the
states of these moments, however the other threads move in between.
-/

namespace System

variable {S A R Op C : Type} {Reply : A -> Type}

/-- With replies from the states of these moments the program comes to its result. -/
inductive Answered (sys : System S A Reply R Op C) (moves : List (Move Op C)) (s : S) {T : Type} :
    List Nat -> Program A Reply T -> T -> Prop
  | done (result : T) : Answered sys moves s [] (.done result) result
  | act {moment : Nat} {moments : List Nat} {choice : C} {action : A}
      {next : Reply action -> Program A Reply T} {result : T}
      (rest : Answered sys moves s moments
        (next (sys.exec choice action (sys.run (moves.take moment) (World.idle s)).shared).2)
        result) :
      Answered sys moves s (moment :: moments) (.act action next) result

variable {sys : System S A Reply R Op C} {moves : List (Move Op C)} {s : S} {T U : Type}

/-- A program that begins with an action. -/
theorem Answered.perform_bind {moments : List Nat} {action : A}
    {rest : Reply action -> Program A Reply T} {result : T}
    (answered : Answered sys moves s moments (Program.perform action >>= rest) result) :
    exists moment later choice, moments = moment :: later ∧
      Answered sys moves s later
        (rest (sys.exec choice action (sys.run (moves.take moment) (World.idle s)).shared).2)
        result := by
  cases answered with
  | act rest => exact ⟨_, _, _, rfl, rest⟩

theorem Answered.bind {moments : List Nat} {program : Program A Reply U}
    {rest : U -> Program A Reply T} {result : T}
    (answered : Answered sys moves s moments (program >>= rest) result) :
    exists first later value, moments = first ++ later ∧
      Answered sys moves s first program value ∧
        Answered sys moves s later (rest value) result := by
  induction program generalizing moments with
  | done value => exact ⟨[], moments, value, rfl, .done value, answered⟩
  | act action next inner =>
      cases answered with
      | act answered =>
          rcases inner _ answered with ⟨first, later, value, rfl, own, after⟩
          exact ⟨_ :: first, later, value, rfl, .act own, after⟩

theorem Answered.pure {moments : List Nat} {value result : T}
    (answered : Answered sys moves s moments (Pure.pure value : Program A Reply T) result) :
    moments = [] ∧ value = result := by
  cases answered with
  | done result => exact ⟨rfl, rfl⟩

/-- The moments follow one another and lie within the run. -/
structure Ordered (since : Nat) (moves : List (Move Op C)) (moments : List Nat) : Prop where
  ordered : moments.Pairwise (· < ·)
  since : ∀ moment ∈ moments, since ≤ moment
  within : ∀ moment ∈ moments, moment < moves.length

/-- What a thread has still to do at some moment, it began with before. -/
theorem answered_before {before rest : List (Move Op C)} {thread : Nat} {op : Op}
    {program : Program A Reply R} {result : R} {moments : List Nat}
    (started : (spawned before)[thread]? = some op)
    (running : (sys.run before (World.idle s)).threads[thread]? = some program)
    (ordered : Ordered before.length (before ++ rest) moments)
    (answered : Answered sys (before ++ rest) s moments program result) :
    exists moments, Ordered 0 (before ++ rest) moments ∧
      Answered sys (before ++ rest) s moments (sys.program op) result := by
  induction before using List.reverseRecOn generalizing rest program moments with
  | nil => cases started
  | append_singleton before move inner =>
      have split : before ++ [move] ++ rest = before ++ move :: rest := by
        rw [List.append_assoc, List.singleton_append]
      rw [split] at ordered answered ⊢
      have earlier : Ordered before.length (before ++ move :: rest) moments := by
        refine ⟨ordered.ordered, fun moment member => ?_, ordered.within⟩
        have later := ordered.since moment member
        rw [List.length_append] at later
        omega
      rcases thread_concat started running with rfl | ⟨begun, same | moved⟩
      · exact ⟨moments, ⟨ordered.ordered, fun _ _ => Nat.zero_le _, ordered.within⟩, answered⟩
      · exact inner begun same earlier answered
      · rcases moved with ⟨choice, action, next, -, active, rfl⟩
        have here : (before ++ move :: rest).take before.length = before := List.take_left
        have after : Answered sys (before ++ move :: rest) s moments (next (sys.exec choice action
            (sys.run ((before ++ move :: rest).take before.length) (World.idle s)).shared).2)
            result := by
          rw [here]
          exact answered
        refine @inner (move :: rest) (.act action next) (before.length :: moments) begun active
          ⟨?_, ?_, ?_⟩ (.act after)
        · refine List.pairwise_cons.mpr ⟨fun moment member => ?_, ordered.ordered⟩
          have later := ordered.since moment member
          rw [List.length_append] at later
          exact Nat.lt_of_succ_le later
        · intro moment member
          rcases List.mem_cons.mp member with rfl | member
          · exact Nat.le_refl _
          · exact earlier.since moment member
        · intro moment member
          rcases List.mem_cons.mp member with rfl | member
          · rw [List.length_append, List.length_cons]
            omega
          · exact earlier.within moment member

/-- What a finished thread returns was put together from moments of the run. -/
theorem answered_of_finished {thread : Nat} {op : Op} {result : R}
    (started : (spawned moves)[thread]? = some op)
    (finished : (sys.run moves (World.idle s)).threads[thread]? = some (.done result)) :
    exists moments, Ordered 0 moves moments ∧
      Answered sys moves s moments (sys.program op) result := by
  have none : Ordered moves.length (moves ++ []) [] :=
    ⟨List.Pairwise.nil, fun _ member => (by cases member), fun _ member => (by cases member)⟩
  have before := answered_before started finished none (.done result)
  rw [List.append_nil] at before
  exact before

end System

end Foundations
end DigGossip
