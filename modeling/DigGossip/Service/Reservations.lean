import DigGossip.Service.Duties

namespace DigGossip
namespace Service

open Foundations DigGossip.Types

/-!
# Reservations of candidates

A pass reserves a candidate before it dials it and releases it when the dial
has ended.  A candidate that is in flight is reserved by exactly one operation,
which owes its release; so what has been granted for a candidate and what has
been released differ by what is in flight.
-/

/-- The deed reserves the candidate, which nobody else had reserved. -/
def grants (key : CandidateKey) : System.Deed Action Action.Reply -> Bool
  | ⟨.reserve reserved, granted⟩ => granted && decide (reserved = key)
  | _ => false

def frees (key : CandidateKey) : System.Deed Action Action.Reply -> Bool
  | ⟨.release released, _⟩ => decide (released = key)
  | _ => false

section Duties

variable {action : Action} {reply : action.Reply} (key : CandidateKey)

theorem count_begins_release :
    (action.begins reply).count (.release key) = if grants key ⟨action, reply⟩ then 1 else 0 := by
  have none : (forall reserved, action ≠ .reserve reserved) ->
      (action.begins reply).count (.release key) = 0 := by
    intro other
    apply Multiset.count_eq_zero_of_notMem
    intro member
    have begun := Duty.begunBy_of_mem member
    cases action with
    | reserve reserved => exact other reserved rfl
    | _ => cases begun
  cases action with
  | reserve reserved =>
      cases reply with
      | false => rfl
      | true =>
          simp only [Action.begins, grants, if_true, Bool.true_and, decide_eq_true_eq,
            Multiset.count_singleton, Duty.release.injEq, @eq_comm _ key]
  | _ => exact none fun reserved same => by cases same

theorem count_ends_release :
    action.ends.count (.release key) = if frees key ⟨action, reply⟩ then 1 else 0 := by
  have none : (forall released, action ≠ .release released) ->
      action.ends.count (.release key) = 0 := by
    intro other
    apply Multiset.count_eq_zero_of_notMem
    intro member
    have ended := Duty.endedBy_of_mem member
    cases action with
    | release released => exact other released rfl
    | peers region => cases region <;> cases ended
    | _ => cases ended
  cases action with
  | release released =>
      simp only [Action.ends, frees, decide_eq_true_eq, Multiset.count_singleton,
        Duty.release.injEq, @eq_comm _ key]
  | _ => exact none fun released same => by cases same

theorem inFlight_exec_of_not_reservation (order : PeerId -> Nat) (s : ServiceState)
    (other : action.isReservation = false) :
    (exec order action s).1.pool.inFlight = s.pool.inFlight := by
  cases action with
  | reserve reserved => cases other
  | release released => cases other
  | inFlightCount => cases other
  | tryAcquirePermit =>
      simp only [exec]
      split
      · rfl
      · rfl
  | _ => rfl

end Duties

/-- The candidates in flight are those whose release is owed, each once, and
what was granted was released or is in flight. -/
structure ReservationsBalance (past : List (System.Deed Action Action.Reply)) (s : ServiceState)
    (owed : Multiset Duty) : Prop where
  owes : forall key, owed.count (.release key) = if key ∈ s.pool.inFlight then 1 else 0
  counts : forall key, past.countP (grants key) = past.countP (frees key) + owed.count (.release key)

theorem ReservationsBalance.exec {past : List (System.Deed Action Action.Reply)}
    {s : ServiceState} {order : PeerId -> Nat} {action : Action} {others : Multiset Duty}
    {contract : Contract} (balance : ReservationsBalance past s (others + contract.owed))
    (due : contract.DueOfAll action) :
    ReservationsBalance (past ++ [⟨action, (Service.exec order action s).2⟩])
      (Service.exec order action s).1
      (others + (contract.settle action (Service.exec order action s).2).owed) := by
  have settled : forall key,
      (others + (contract.settle action (Service.exec order action s).2).owed).count
          (.release key) + (if frees key ⟨action, (Service.exec order action s).2⟩ then 1 else 0) =
        (others + contract.owed).count (.release key) +
          (if grants key ⟨action, (Service.exec order action s).2⟩ then 1 else 0) := by
    intro key
    rw [<- count_ends_release, <- count_begins_release]
    exact count_settled due fun link same => by cases same
  constructor
  · intro key
    have before := balance.owes key
    have change := settled key
    cases action with
    | reserve reserved =>
        simp only [Service.exec, grants, frees, Finset.mem_insert] at change ⊢
        by_cases same : reserved = key
        · subst same
          by_cases taken : reserved ∈ s.pool.inFlight <;> simp_all
        · have different : key ≠ reserved := fun equal => same equal.symm
          simp_all
    | release released =>
        simp only [Service.exec, grants, frees, Finset.mem_erase] at change ⊢
        by_cases same : released = key
        · subst same
          by_cases taken : released ∈ s.pool.inFlight <;> simp_all
        · have different : key ≠ released := fun equal => same equal.symm
          simp_all
    | inFlightCount => exact change.trans before
    | _ =>
        rw [inFlight_exec_of_not_reservation order s rfl]
        exact change.trans before
  · intro key
    have before := balance.counts key
    have change := settled key
    rw [List.countP_append, List.countP_append, List.countP_singleton, List.countP_singleton]
    omega

theorem reservations_balance (launch : Launch) (moves : List ServiceMove) :
    DutiesBalanced (fun _ _ => True) ReservationsBalance (launch.trace moves)
      (launch.after moves) := by
  apply duties_balanced (fun _ => trivial) (fun _ _ _ _ _ _ => trivial)
    (fun _ _ _ _ _ _ => trivial) _ _ (launch.allows_everything moves)
  · intro past order action s others contract _ _ due balance
    exact balance.exec due
  · exact { owes := fun key => rfl, counts := fun key => rfl }

/-- Who is about to release a candidate has it in flight. -/
theorem inFlight_of_release {past : List (System.Deed Action Action.Reply)} {w : ServiceWorld}
    (balanced : DutiesBalanced (fun _ _ => True) ReservationsBalance past w) {thread : Nat}
    {key : CandidateKey} {next : Unit -> ServiceProgram Outcome}
    (running : w.threads[thread]? = some (.act (.release key) next)) :
    key ∈ w.shared.pool.inFlight := by
  rcases balanced with ⟨total, accounts, balance⟩
  rcases accounts.advance running with ⟨others, owed, rfl, ⟨contract, rfl, _, due, _⟩, _⟩
  have asked : Action.ends (.release key) ≤ contract.owed := by
    rcases due.asked with ⟨closing, _⟩ | asked
    · cases closing
    · exact asked
  have member : Duty.release key ∈ others + contract.owed :=
    Multiset.mem_add.mpr (Or.inr (Multiset.mem_of_le asked (Multiset.mem_singleton_self _)))
  by_contra absent
  have none := balance.owes key
  rw [if_neg absent] at none
  exact Multiset.count_eq_zero.mp none member

/-- Once every operation has completed nothing is in flight, and every grant
has been followed by one release. -/
theorem reservations_released {launch : Launch} {moves : List ServiceMove}
    (done : (launch.after moves).settled = true) :
    (launch.after moves).shared.pool.inFlight = ∅ ∧
      forall key, (launch.trace moves).countP (grants key) =
        (launch.trace moves).countP (frees key) := by
  have balance := (reservations_balance launch moves).settled done
  constructor
  · apply Finset.eq_empty_of_forall_notMem
    intro key held
    have one := balance.owes key
    rw [if_pos held] at one
    cases one
  · exact balance.counts

end Service
end DigGossip
