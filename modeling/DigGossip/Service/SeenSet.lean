import DigGossip.Foundations.Stepping
import DigGossip.Service.Delivery

namespace DigGossip
namespace Service

open Foundations DigGossip.Types

/-!
# What the seen set suppresses over a run of broadcasts

Between two broadcasts anything but the seen set may change: peers come and go,
links break, the service may stop.  A broadcast that is carried puts its hash
in front of the set, one that is suppressed leaves the set alone, so a repeat
of the node's own message keeps its hash alive and a suppressed forward does
not.  Whether a forward is suppressed can be told from the hashes recorded
before it.
-/

/-- A call, and what it finds apart from the seen set. -/
structure Occasion where
  order : PeerId -> Nat
  answers : Answers
  found : GossipState
  call : Call

namespace Occasion

variable (wire : Wire) (occasion : Occasion)

/-- The state of the call, with the seen set that the calls before it left. -/
def start (seen : Lru Key Unit) : GossipState :=
  { occasion.found with seenMessages := seen }

/-- Whom the call finds to serve. -/
def jobs : Jobs :=
  collectJobs occasion.found.service occasion.order occasion.call.exclude

def fanOut (seen : Lru Key Unit) : FanOut :=
  Service.fanOut wire occasion.order occasion.answers (occasion.start seen) occasion.call

/-- The hash that the call records, when it gets to record one. -/
def recorded (seen : Lru Key Unit) : Option Key :=
  if occasion.call.isCarried wire (occasion.start seen) then some (occasion.call.hash wire)
  else none

end Occasion

section Runs

variable (wire : Wire) (maxSeenMessages : Nat)

/-- The seen set after the calls made with an empty one. -/
def seenAfter (occasions : List Occasion) : Lru Key Unit :=
  Stepping.run (fun seen occasion => (occasion.fanOut wire seen).state.seenMessages) occasions
    (.new maxSeenMessages)

/-- The hashes that the calls record, in their order. -/
def hashesRecorded (occasions : List Occasion) : List Key :=
  (Stepping.history (fun seen occasion => (occasion.fanOut wire seen).state.seenMessages) occasions
    (.new maxSeenMessages)).filterMap fun entry => entry.2.recorded wire entry.1

end Runs

/-- The hash is among those recorded, and fewer others than the set holds have
been recorded since its last time. -/
def RecentlyRecorded (capacity : Nat) (recorded : List Key) (hash : Key) : Prop :=
  exists before since, recorded = before ++ hash :: since ∧ hash ∉ since ∧
    since.toFinset.card < capacity

/-- A call that is not carried leaves the seen set, and a carried one puts its hash in it. -/
theorem seenMessages_fanOut (wire : Wire) (occasion : Occasion) (seen : Lru Key Unit) :
    (occasion.fanOut wire seen).state.seenMessages =
      seen.putAll ((occasion.recorded wire seen).toList.map fun hash => (hash, ())) := by
  unfold Occasion.recorded
  cases carried : occasion.call.isCarried wire (occasion.start seen) with
  | true =>
      rw [if_pos rfl]
      exact (sameTables_fanOut carried).2
  | false =>
      rw [if_neg Bool.false_ne_true]
      have kept : (occasion.fanOut wire seen).state = occasion.start seen :=
        (fanOut_of_not_carried carried).2
      rw [kept]
      rfl

section Runs

variable (wire : Wire) (maxSeenMessages : Nat)

theorem seenAfter_concat (past : List Occasion) (next : Occasion) :
    seenAfter wire maxSeenMessages (past ++ [next]) =
      (next.fanOut wire (seenAfter wire maxSeenMessages past)).state.seenMessages :=
  Stepping.run_concat past next _

theorem hashesRecorded_concat (past : List Occasion) (next : Occasion) :
    hashesRecorded wire maxSeenMessages (past ++ [next]) =
      hashesRecorded wire maxSeenMessages past ++
        (next.recorded wire (seenAfter wire maxSeenMessages past)).toList := by
  rw [hashesRecorded, Stepping.history_concat, List.filterMap_append]
  rfl

/-- The seen set is what the recorded hashes leave of an empty one. -/
theorem seenAfter_eq (past : List Occasion) :
    seenAfter wire maxSeenMessages past =
      (Lru.new maxSeenMessages : Lru Key Unit).putAll
        ((hashesRecorded wire maxSeenMessages past).map fun hash => (hash, ())) := by
  induction past using List.reverseRecOn with
  | nil => rfl
  | append_singleton past next inner =>
      rw [seenAfter_concat, hashesRecorded_concat, seenMessages_fanOut, List.map_append,
        Lru.putAll_append, <- inner]

/-- The set finds a hash exactly when it was recorded recently. -/
theorem contains_seenAfter_iff (past : List Occasion) (hash : Key) :
    (seenAfter wire maxSeenMessages past).contains hash = true ↔
      RecentlyRecorded (max maxSeenMessages 1) (hashesRecorded wire maxSeenMessages past) hash := by
  rw [seenAfter_eq, Lru.contains_putAll_new_iff, List.map_map]
  have keys : (hashesRecorded wire maxSeenMessages past).map
      (Prod.fst ∘ fun hash => (hash, ())) = hashesRecorded wire maxSeenMessages past :=
    List.map_id _
  rw [keys]
  exact Iff.rfl

end Runs

/-- A forward of a recent hash is sent to nobody and leaves everything as it is;
every other call is fanned out, with its hash in front of the seen set, and
unless a send fails it tries every peer it finds to serve. -/
structure SuppressesLoops (wire : Wire) (maxSeenMessages : Nat) (past : List Occasion)
    (next : Occasion) : Prop where
  dropped : next.call.origin = .forwarded ->
    RecentlyRecorded (max maxSeenMessages 1) (hashesRecorded wire maxSeenMessages past)
      (next.call.hash wire) ->
    next.fanOut wire (seenAfter wire maxSeenMessages past) =
      { state := next.start (seenAfter wire maxSeenMessages past), result := .ok 0, attempts := [] }
  fannedOut : next.call.origin = .localNode ∨
      ¬RecentlyRecorded (max maxSeenMessages 1) (hashesRecorded wire maxSeenMessages past)
        (next.call.hash wire) ->
    next.fanOut wire (seenAfter wire maxSeenMessages past) =
        deliver next.answers (messageWireLen wire next.call.message) next.jobs
          (next.call.record wire (next.start (seenAfter wire maxSeenMessages past))) ∧
      hashesRecorded wire maxSeenMessages (past ++ [next]) =
        hashesRecorded wire maxSeenMessages past ++ [next.call.hash wire] ∧
      (seenAfter wire maxSeenMessages (past ++ [next])).contains (next.call.hash wire) = true
  reaches : next.call.origin = .localNode ∨
      ¬RecentlyRecorded (max maxSeenMessages 1) (hashesRecorded wire maxSeenMessages past)
        (next.call.hash wire) ->
    (∀ job ∈ next.jobs.eager, next.answers.sends job.2 = true) ->
      (next.fanOut wire (seenAfter wire maxSeenMessages past)).attempts =
          next.jobs.tried next.answers ∧
        (next.fanOut wire (seenAfter wire maxSeenMessages past)).result =
          .ok (next.jobs.stubs.length + next.jobs.eager.length +
            next.jobs.nat.countP fun job => next.answers.offer job.2)

/-- Whatever the calls before it, a call of a running node is suppressed by the
rule of the recent hashes. -/
theorem suppressesLoops (wire : Wire) (maxSeenMessages : Nat) (past : List Occasion)
    {next : Occasion} (running : next.found.service.lifecycle = .running) :
    SuppressesLoops wire maxSeenMessages past next := by
  have starts : (next.start (seenAfter wire maxSeenMessages past)).service.lifecycle = .running :=
    running
  have contains := contains_seenAfter_iff wire maxSeenMessages past (next.call.hash wire)
  have delivers : next.call.origin = .localNode ∨
      ¬RecentlyRecorded (max maxSeenMessages 1) (hashesRecorded wire maxSeenMessages past)
        (next.call.hash wire) ->
      next.call.isCarried wire (next.start (seenAfter wire maxSeenMessages past)) = true := by
    intro spared
    have unsuppressed : next.call.isSuppressed wire
        (next.start (seenAfter wire maxSeenMessages past)) = false := by
      rw [Call.isSuppressed, Bool.and_eq_false_iff, decide_eq_false_iff_not]
      rcases spared with own | stale
      · left
        rw [own]
        decide
      · exact Or.inr (Bool.eq_false_iff.mpr fun found => stale (contains.mp found))
    rw [Call.isCarried, decide_eq_true starts, unsuppressed]
    rfl
  refine ⟨?_, ?_, ?_⟩
  · intro forwarded recent
    have suppressed : next.call.isSuppressed wire
        (next.start (seenAfter wire maxSeenMessages past)) = true := by
      rw [Call.isSuppressed, decide_eq_true forwarded, Bool.true_and]
      exact contains.mpr recent
    rw [Occasion.fanOut, fanOut, if_neg (not_not_intro starts), if_pos suppressed]
  · intro spared
    have carried := delivers spared
    have recorded : next.recorded wire (seenAfter wire maxSeenMessages past) =
        some (next.call.hash wire) := if_pos carried
    refine ⟨fanOut_of_carried carried, ?_, ?_⟩
    · rw [hashesRecorded_concat, recorded]
      rfl
    · rw [seenAfter_concat, seenMessages_fanOut, recorded]
      exact Lru.contains_put_self _ _ _
  · intro spared sends
    have fanned : next.fanOut wire (seenAfter wire maxSeenMessages past) = deliver _ _ _ _ :=
      fanOut_of_carried (delivers spared)
    rw [fanned]
    exact deliver_sent _ sends _

namespace Example

/-- The message is forwarded to the two peers. -/
def forwarding : Occasion where
  order := fun peerId => peerId.val
  answers := .willing
  found := pair
  call := { message := message, exclude := none, origin := .forwarded }

end Example

open Example in
/-- A forward that follows itself is suppressed by the rule. -/
theorem suppressesLoops_again : SuppressesLoops wire 1 [forwarding] forwarding :=
  suppressesLoops wire 1 [forwarding] rfl

end Service
end DigGossip
