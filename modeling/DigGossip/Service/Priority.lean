import Mathlib.Algebra.GroupWithZero.Nat
import DigGossip.Foundations.Stepping
import DigGossip.Service.Broadcast

namespace DigGossip
namespace Service

open Foundations

/-!
# Priority lanes of a connection

Messages wait in three lanes, each first in, first out.  The critical lane goes
before the normal one and both go before the bulk lane, except that a bulk
message is let through when enough of the others have gone since the last one.
The count of these goes on while the bulk lane is empty, so the first bulk
message to arrive after a busy period may go ahead at once.
-/

inductive MessagePriority where
  | critical
  | normal
  | bulk
deriving DecidableEq

def priorityStarvationRatio : Nat := 10

/-- The word in which the messages since the last bulk one are counted. -/
def usizeModulus : Nat := 2 ^ 64

structure PriorityOutbound where
  critical : List DigMessage
  normal : List DigMessage
  bulk : List DigMessage
  highPrioritySinceLastBulk : Nat

namespace PriorityOutbound

def new : PriorityOutbound where
  critical := []
  normal := []
  bulk := []
  highPrioritySinceLastBulk := 0

def enqueue (queue : PriorityOutbound) (msg : DigMessage) : MessagePriority -> PriorityOutbound
  | .critical => { queue with critical := queue.critical ++ [msg] }
  | .normal => { queue with normal := queue.normal ++ [msg] }
  | .bulk => { queue with bulk := queue.bulk ++ [msg] }

/-- The lanes in the order of their priority. -/
def drainByPriority (queue : PriorityOutbound) : Option DigMessage × PriorityOutbound :=
  let counted := (queue.highPrioritySinceLastBulk + 1) % usizeModulus
  match queue.critical, queue.normal, queue.bulk with
  | msg :: rest, _, _ =>
      (some msg, { queue with critical := rest, highPrioritySinceLastBulk := counted })
  | [], msg :: rest, _ =>
      (some msg, { queue with normal := rest, highPrioritySinceLastBulk := counted })
  | [], [], msg :: rest =>
      (some msg, { queue with bulk := rest, highPrioritySinceLastBulk := 0 })
  | [], [], [] => (none, queue)

/-- `drain_next`: a bulk message is due when enough others have gone since the last. -/
def drainNext (queue : PriorityOutbound) : Option DigMessage × PriorityOutbound :=
  if priorityStarvationRatio ≤ queue.highPrioritySinceLastBulk then
    match queue.bulk with
    | msg :: rest => (some msg, { queue with bulk := rest, highPrioritySinceLastBulk := 0 })
    | [] => queue.drainByPriority
  else queue.drainByPriority

def totalLen (queue : PriorityOutbound) : Nat :=
  queue.critical.length + queue.normal.length + queue.bulk.length

def isEmpty (queue : PriorityOutbound) : Bool :=
  queue.critical.isEmpty && queue.normal.isEmpty && queue.bulk.isEmpty

def lane (queue : PriorityOutbound) : MessagePriority -> List DigMessage
  | .critical => queue.critical
  | .normal => queue.normal
  | .bulk => queue.bulk

/-- The next drain shortens the lane. -/
def takes (queue : PriorityOutbound) (priority : MessagePriority) : Bool :=
  decide ((queue.drainNext.2.lane priority).length < (queue.lane priority).length)

/-! ## What one drain does -/

/-- A bulk message is due and there is one. -/
def BulkDue (queue : PriorityOutbound) : Prop :=
  priorityStarvationRatio ≤ queue.highPrioritySinceLastBulk ∧ queue.bulk ≠ []

/-- The drains, each with what it presupposes of the lanes. -/
inductive Drains (queue : PriorityOutbound) : Option DigMessage × PriorityOutbound -> Prop
  | critical {msg : DigMessage} {rest : List DigMessage} (notDue : ¬queue.BulkDue)
      (first : queue.critical = msg :: rest) :
      Drains queue (some msg, { queue with
        critical := rest
        highPrioritySinceLastBulk := (queue.highPrioritySinceLastBulk + 1) % usizeModulus })
  | normal {msg : DigMessage} {rest : List DigMessage} (notDue : ¬queue.BulkDue)
      (calm : queue.critical = []) (first : queue.normal = msg :: rest) :
      Drains queue (some msg, { queue with
        normal := rest
        highPrioritySinceLastBulk := (queue.highPrioritySinceLastBulk + 1) % usizeModulus })
  | bulk {msg : DigMessage} {rest : List DigMessage} (first : queue.bulk = msg :: rest)
      (allowed : queue.critical = [] ∧ queue.normal = [] ∨
        priorityStarvationRatio ≤ queue.highPrioritySinceLastBulk) :
      Drains queue (some msg, { queue with bulk := rest, highPrioritySinceLastBulk := 0 })
  | nothing (noCritical : queue.critical = []) (noNormal : queue.normal = [])
      (noBulk : queue.bulk = []) : Drains queue (none, queue)

theorem drains_byPriority {queue : PriorityOutbound} (notDue : ¬queue.BulkDue) :
    Drains queue queue.drainByPriority := by
  unfold drainByPriority
  split
  · rename_i first
    exact .critical notDue first
  · rename_i calm first
    exact .normal notDue calm first
  · rename_i calm still first
    exact .bulk first (Or.inl ⟨calm, still⟩)
  · rename_i noCritical noNormal noBulk
    exact .nothing noCritical noNormal noBulk

theorem drains_drainNext (queue : PriorityOutbound) : Drains queue queue.drainNext := by
  unfold drainNext
  split
  · rename_i due
    split
    · rename_i msg rest first
      exact .bulk first (Or.inr due)
    · rename_i none
      exact drains_byPriority fun bulkDue => bulkDue.2 none
  · rename_i early
    exact drains_byPriority fun bulkDue => early bulkDue.1

/-- A drain that returns a message takes it off the front of one lane. -/
theorem lane_of_drainNext {queue : PriorityOutbound} {msg : DigMessage}
    (drained : queue.drainNext.1 = some msg) :
    exists priority, queue.lane priority = msg :: queue.drainNext.2.lane priority ∧
      forall other, other ≠ priority -> queue.drainNext.2.lane other = queue.lane other := by
  have drains := drains_drainNext queue
  generalize queue.drainNext = result at drains drained
  cases drains with
  | critical notDue first =>
      cases drained
      refine ⟨.critical, first, ?_⟩
      intro other differ
      cases other with
      | critical => exact absurd rfl differ
      | normal => rfl
      | bulk => rfl
  | normal notDue calm first =>
      cases drained
      refine ⟨.normal, first, ?_⟩
      intro other differ
      cases other with
      | critical => rfl
      | normal => exact absurd rfl differ
      | bulk => rfl
  | bulk first allowed =>
      cases drained
      refine ⟨.bulk, first, ?_⟩
      intro other differ
      cases other with
      | critical => rfl
      | normal => rfl
      | bulk => exact absurd rfl differ
  | nothing noCritical noNormal noBulk => cases drained

/-- Only the lane that a message is taken off is shortened. -/
theorem takes_iff {queue : PriorityOutbound} {msg : DigMessage} {priority : MessagePriority}
    (taken : queue.lane priority = msg :: queue.drainNext.2.lane priority)
    (kept : forall other, other ≠ priority -> queue.drainNext.2.lane other = queue.lane other)
    (other : MessagePriority) : queue.takes other = true ↔ other = priority := by
  rw [takes, decide_eq_true_eq]
  constructor
  · intro shorter
    by_contra differ
    rw [kept other differ] at shorter
    exact Nat.lt_irrefl _ shorter
  · rintro rfl
    rw [taken]
    exact Nat.lt_succ_self _

/-- A drain that returns nothing leaves the queue as it is. -/
theorem drainNext_of_none {queue : PriorityOutbound} (drained : queue.drainNext.1 = none) :
    queue.drainNext.2 = queue := by
  have drains := drains_drainNext queue
  generalize queue.drainNext = result at drains drained
  cases drains with
  | critical notDue first => cases drained
  | normal notDue calm first => cases drained
  | bulk first allowed => cases drained
  | nothing noCritical noNormal noBulk => rfl

theorem takes_of_none {queue : PriorityOutbound} (drained : queue.drainNext.1 = none)
    (priority : MessagePriority) : queue.takes priority = false := by
  rw [takes, drainNext_of_none drained]
  exact decide_eq_false (Nat.lt_irrefl _)

/-- A normal message goes only when no critical one waits. -/
theorem critical_of_takes_normal {queue : PriorityOutbound} (normal : queue.takes .normal = true) :
    queue.critical = [] := by
  have shorter := of_decide_eq_true normal
  have drains := drains_drainNext queue
  generalize queue.drainNext = result at drains shorter
  cases drains with
  | critical notDue first => exact absurd shorter (Nat.lt_irrefl _)
  | normal notDue calm first => exact calm
  | bulk first allowed => exact absurd shorter (Nat.lt_irrefl _)
  | nothing noCritical noNormal noBulk => exact noCritical

/-- A bulk message goes only when no other waits or enough others have gone. -/
theorem allowed_of_takes_bulk {queue : PriorityOutbound} (bulk : queue.takes .bulk = true) :
    queue.critical = [] ∧ queue.normal = [] ∨
      priorityStarvationRatio ≤ queue.highPrioritySinceLastBulk := by
  have shorter := of_decide_eq_true bulk
  have drains := drains_drainNext queue
  generalize queue.drainNext = result at drains shorter
  cases drains with
  | critical notDue first => exact absurd shorter (Nat.lt_irrefl _)
  | normal notDue calm first => exact absurd shorter (Nat.lt_irrefl _)
  | bulk first allowed => exact allowed
  | nothing noCritical noNormal noBulk => exact Or.inl ⟨noCritical, noNormal⟩

/-- While bulk messages wait, a drain that takes none of them had to be early. -/
theorem early_of_not_takes_bulk {queue : PriorityOutbound} (waiting : queue.bulk ≠ [])
    (spared : queue.takes .bulk = false) :
    queue.highPrioritySinceLastBulk < priorityStarvationRatio ∧
      queue.drainNext.2.highPrioritySinceLastBulk = queue.highPrioritySinceLastBulk + 1 := by
  have notShorter := of_decide_eq_false spared
  have small : priorityStarvationRatio < usizeModulus := by decide
  have drains := drains_drainNext queue
  generalize queue.drainNext = result at drains notShorter
  cases drains with
  | critical notDue first =>
      have early : queue.highPrioritySinceLastBulk < priorityStarvationRatio :=
        Nat.lt_of_not_le fun due => notDue ⟨due, waiting⟩
      exact ⟨early, Nat.mod_eq_of_lt (by omega)⟩
  | normal notDue calm first =>
      have early : queue.highPrioritySinceLastBulk < priorityStarvationRatio :=
        Nat.lt_of_not_le fun due => notDue ⟨due, waiting⟩
      exact ⟨early, Nat.mod_eq_of_lt (by omega)⟩
  | bulk first allowed =>
      refine absurd ?_ notShorter
      rw [lane, lane, first]
      exact Nat.lt_succ_self _
  | nothing noCritical noNormal noBulk => exact absurd noBulk waiting

/-- The count starts over with a bulk message and goes up with any other. -/
theorem highPriority_drainNext (queue : PriorityOutbound) :
    queue.drainNext.2.highPrioritySinceLastBulk =
      if queue.takes .bulk = true then 0
      else if queue.drainNext.1.isSome then
        (queue.highPrioritySinceLastBulk + 1) % usizeModulus
      else queue.highPrioritySinceLastBulk := by
  have drains := drains_drainNext queue
  unfold takes
  generalize queue.drainNext = result at drains
  cases drains with
  | critical notDue first => simp [lane]
  | normal notDue calm first => simp [lane]
  | bulk first allowed => simp [lane, first]
  | nothing noCritical noNormal noBulk => simp

theorem totalLen_drainNext (queue : PriorityOutbound) :
    queue.drainNext.2.totalLen = queue.totalLen - 1 := by
  have drains := drains_drainNext queue
  generalize queue.drainNext = result at drains
  cases drains with
  | critical notDue first =>
      simp only [totalLen, first, List.length_cons]
      omega
  | normal notDue calm first =>
      simp only [totalLen, first, List.length_cons]
      omega
  | bulk first allowed =>
      simp only [totalLen, first, List.length_cons]
      omega
  | nothing noCritical noNormal noBulk =>
      simp only [totalLen, noCritical, noNormal, noBulk, List.length_nil]

/-- Nothing is returned exactly when nothing waits. -/
theorem drainNext_eq_none_iff (queue : PriorityOutbound) :
    queue.drainNext.1 = none ↔ queue.totalLen = 0 := by
  have drains := drains_drainNext queue
  generalize queue.drainNext = result at drains
  cases drains with
  | critical notDue first => simp [totalLen, first]
  | normal notDue calm first => simp [totalLen, first]
  | bulk first allowed => simp [totalLen, first]
  | nothing noCritical noNormal noBulk => simp [totalLen, noCritical, noNormal, noBulk]

theorem isEmpty_iff (queue : PriorityOutbound) : queue.isEmpty = true ↔ queue.totalLen = 0 := by
  simp only [isEmpty, totalLen, Bool.and_eq_true, List.isEmpty_iff, <- List.length_eq_zero_iff]
  omega

end PriorityOutbound

/-! ## Runs -/

inductive OutboundCall where
  | enqueue (msg : DigMessage) (priority : MessagePriority)
  | drainNext

namespace OutboundCall

def isDrain : OutboundCall -> Bool
  | enqueue _ _ => false
  | drainNext => true

def apply (queue : PriorityOutbound) : OutboundCall -> PriorityOutbound
  | enqueue msg priority => queue.enqueue msg priority
  | drainNext => queue.drainNext.2

/-- The message that the call puts in the lane. -/
def entering (priority : MessagePriority) : OutboundCall -> Option DigMessage
  | enqueue msg chosen => if chosen = priority then some msg else none
  | drainNext => none

/-- The message that the call takes off the lane. -/
def leaving (priority : MessagePriority) (queue : PriorityOutbound) :
    OutboundCall -> Option DigMessage
  | enqueue _ _ => none
  | drainNext => if queue.takes priority then queue.drainNext.1 else none

/-- The messages of the other lanes that have gone since the last bulk one. -/
def sinceBulk (count : Nat) (queue : PriorityOutbound) : OutboundCall -> Nat
  | enqueue _ _ => count
  | drainNext =>
      if queue.takes .bulk then 0 else if queue.drainNext.1.isSome then count + 1 else count

end OutboundCall

open OutboundCall

/-- The calls of a run, each with the queue it was made on. -/
abbrev OutboundPast := List (PriorityOutbound × OutboundCall)

namespace OutboundPast

def enqueuedIn (past : OutboundPast) (priority : MessagePriority) : List DigMessage :=
  past.filterMap fun entry => entry.2.entering priority

def drainedFrom (past : OutboundPast) (priority : MessagePriority) : List DigMessage :=
  past.filterMap fun entry => entry.2.leaving priority entry.1

def nonBulkSinceBulk (past : OutboundPast) : Nat :=
  past.foldl (fun count entry => entry.2.sinceBulk count entry.1) 0

end OutboundPast

/-- The queue after the calls made on an empty one. -/
def afterCalls (calls : List OutboundCall) : PriorityOutbound :=
  Stepping.run OutboundCall.apply calls .new

def pastOfCalls (calls : List OutboundCall) : OutboundPast :=
  Stepping.history OutboundCall.apply calls .new

/-- What has entered a lane and not left it waits there in its order, and the
count is that of the past, as far as the word can hold it. -/
structure LanesAccounted (past : OutboundPast) (queue : PriorityOutbound) : Prop where
  lanes : forall priority,
    past.enqueuedIn priority = past.drainedFrom priority ++ queue.lane priority
  count : queue.highPrioritySinceLastBulk = past.nonBulkSinceBulk % usizeModulus

namespace LanesAccounted

variable {past : OutboundPast} {queue : PriorityOutbound}

theorem enqueue (accounted : LanesAccounted past queue) (msg : DigMessage)
    (chosen : MessagePriority) :
    LanesAccounted (past ++ [(queue, .enqueue msg chosen)]) (queue.enqueue msg chosen) := by
  have longer : forall priority, (queue.enqueue msg chosen).lane priority =
      queue.lane priority ++ ((OutboundCall.enqueue msg chosen).entering priority).toList := by
    intro priority
    cases chosen <;> cases priority <;> simp [PriorityOutbound.enqueue, PriorityOutbound.lane, entering]
  refine ⟨?_, ?_⟩
  · intro priority
    rw [OutboundPast.enqueuedIn, OutboundPast.drainedFrom, List.filterMap_append,
      List.filterMap_append, longer priority, <- List.append_assoc]
    have earlier := accounted.lanes priority
    rw [OutboundPast.enqueuedIn, OutboundPast.drainedFrom] at earlier
    rw [earlier]
    cases entered : (OutboundCall.enqueue msg chosen).entering priority with
    | none => simp [entered, leaving]
    | some msg => simp [entered, leaving]
  · have same : (queue.enqueue msg chosen).highPrioritySinceLastBulk =
        queue.highPrioritySinceLastBulk := by
      cases chosen <;> rfl
    rw [same, OutboundPast.nonBulkSinceBulk, List.foldl_append]
    exact accounted.count

theorem drained_lane (accounted : LanesAccounted past queue) (priority : MessagePriority) :
    past.enqueuedIn priority =
      past.drainedFrom priority ++ (leaving priority queue .drainNext).toList ++
        queue.drainNext.2.lane priority := by
  rw [accounted.lanes priority, leaving, List.append_assoc]
  cases drained : queue.drainNext.1 with
  | none =>
      rw [PriorityOutbound.takes_of_none drained, PriorityOutbound.drainNext_of_none drained]
      rfl
  | some msg =>
      rcases PriorityOutbound.lane_of_drainNext drained with ⟨chosen, taken, kept⟩
      by_cases same : priority = chosen
      · rw [if_pos ((PriorityOutbound.takes_iff taken kept priority).mpr same), same, taken]
        rfl
      · rw [if_neg fun takes => same ((PriorityOutbound.takes_iff taken kept priority).mp takes),
          kept priority same]
        rfl

theorem drainNext (accounted : LanesAccounted past queue) :
    LanesAccounted (past ++ [(queue, .drainNext)]) queue.drainNext.2 := by
  refine ⟨?_, ?_⟩
  · intro priority
    have earlier := accounted.drained_lane priority
    rw [OutboundPast.enqueuedIn, OutboundPast.drainedFrom] at earlier
    rw [OutboundPast.enqueuedIn, OutboundPast.drainedFrom, List.filterMap_append,
      List.filterMap_append, earlier]
    cases left : leaving priority queue .drainNext with
    | none => simp [left, entering]
    | some msg => simp [left, entering]
  · rw [PriorityOutbound.highPriority_drainNext, OutboundPast.nonBulkSinceBulk,
      List.foldl_append, accounted.count, OutboundPast.nonBulkSinceBulk]
    simp only [List.foldl_cons, List.foldl_nil, sinceBulk]
    split
    · rfl
    · split
      · exact Nat.mod_add_mod _ _ _
      · rfl

/-- The account is kept through every run. -/
theorem afterCalls (calls : List OutboundCall) :
    LanesAccounted (pastOfCalls calls) (afterCalls calls) := by
  have start : LanesAccounted [] .new := by
    refine ⟨?_, rfl⟩
    intro priority
    cases priority <;> rfl
  refine Stepping.history_kept ?_ start calls
  intro past queue call accounted
  cases call with
  | enqueue msg chosen => exact accounted.enqueue msg chosen
  | drainNext => exact accounted.drainNext

end LanesAccounted

theorem totalLen_drains (count : Nat) (queue : PriorityOutbound) :
    (Stepping.run OutboundCall.apply (List.replicate count .drainNext) queue).totalLen =
      queue.totalLen - count := by
  induction count generalizing queue with
  | zero => rfl
  | succ count inner =>
      rw [List.replicate_succ, Stepping.run_cons, inner]
      change queue.drainNext.2.totalLen - count = _
      rw [PriorityOutbound.totalLen_drainNext]
      omega

/-- While bulk messages wait and none goes, the others are let through until the count is due. -/
theorem drains_le_ratio (calls : List OutboundCall) (queue : PriorityOutbound)
    (waits : ∀ entry ∈ Stepping.history OutboundCall.apply calls queue,
      entry.1.bulk ≠ [] ∧ (entry.2.isDrain = true -> entry.1.takes .bulk = false)) :
    calls.countP isDrain ≤ priorityStarvationRatio - queue.highPrioritySinceLastBulk := by
  induction calls generalizing queue with
  | nil => exact Nat.zero_le _
  | cons call calls inner =>
      have first := waits (queue, call) List.mem_cons_self
      have later := inner (call.apply queue) fun entry made =>
        waits entry (List.mem_cons_of_mem _ made)
      cases call with
      | enqueue msg chosen =>
          have same : (queue.enqueue msg chosen).highPrioritySinceLastBulk =
              queue.highPrioritySinceLastBulk := by
            cases chosen <;> rfl
          rw [List.countP_cons_of_neg Bool.false_ne_true]
          exact same ▸ later
      | drainNext =>
          rcases PriorityOutbound.early_of_not_takes_bulk first.1 (first.2 rfl) with ⟨early, next⟩
          have counted : calls.countP isDrain ≤ priorityStarvationRatio -
              queue.drainNext.2.highPrioritySinceLastBulk := later
          rw [next] at counted
          rw [List.countP_cons_of_pos rfl]
          dsimp only at early counted ⊢
          omega

/-- The discipline of the lanes after the calls of a run. -/
structure Disciplined (calls : List OutboundCall) : Prop where
  inOrder : forall priority, (pastOfCalls calls).enqueuedIn priority =
    (pastOfCalls calls).drainedFrom priority ++ (afterCalls calls).lane priority
  fromOneLane : forall msg, (afterCalls calls).drainNext.1 = some msg ->
    exists priority,
      (afterCalls calls).lane priority = msg :: (afterCalls calls).drainNext.2.lane priority ∧
      forall other, other ≠ priority ->
        (afterCalls calls).drainNext.2.lane other = (afterCalls calls).lane other
  drainsEmpty : (Stepping.run OutboundCall.apply
    (List.replicate (afterCalls calls).totalLen .drainNext) (afterCalls calls)).isEmpty = true
  nothingLeft : (afterCalls calls).drainNext.1 = none ↔ (afterCalls calls).isEmpty = true
  afterCritical : (afterCalls calls).takes .normal = true -> (afterCalls calls).critical = []
  afterOthers : (afterCalls calls).takes .bulk = true ->
    (afterCalls calls).critical = [] ∧ (afterCalls calls).normal = [] ∨
      priorityStarvationRatio ≤ (pastOfCalls calls).nonBulkSinceBulk
  noStarvation : forall more,
    (∀ entry ∈ Stepping.history OutboundCall.apply more (afterCalls calls),
      entry.1.bulk ≠ [] ∧ (entry.2.isDrain = true -> entry.1.takes .bulk = false)) ->
    more.countP isDrain ≤ priorityStarvationRatio

/-- Every run of enqueues and drains keeps the discipline of the lanes. -/
theorem disciplined_afterCalls (calls : List OutboundCall) : Disciplined calls := by
  have accounted := LanesAccounted.afterCalls calls
  refine ⟨accounted.lanes, ?_, ?_, ?_, ?_, ?_, ?_⟩
  · intro msg drained
    exact PriorityOutbound.lane_of_drainNext drained
  · rw [PriorityOutbound.isEmpty_iff, totalLen_drains]
    exact Nat.sub_self _
  · rw [PriorityOutbound.drainNext_eq_none_iff, PriorityOutbound.isEmpty_iff]
  · intro normal
    exact PriorityOutbound.critical_of_takes_normal normal
  · intro bulk
    rcases PriorityOutbound.allowed_of_takes_bulk bulk with calm | due
    · exact Or.inl calm
    · rw [accounted.count] at due
      exact Or.inr (Nat.le_trans due (Nat.mod_le _ _))
  · intro more waits
    exact Nat.le_trans (drains_le_ratio more _ waits) (Nat.sub_le _ _)

end Service
end DigGossip
