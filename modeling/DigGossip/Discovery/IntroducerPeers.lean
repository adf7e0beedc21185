import Mathlib.Data.List.DropRight
import Mathlib.Data.List.Induction
import DigGossip.Foundations.KeyedSet
import DigGossip.Types.Peer

namespace DigGossip
namespace Discovery

open Foundations DigGossip.Types

/-!
# The peers that an introducer vets

A row counts the probes of one address, with a sign for their outcome.  Two rows
are equal when they are of the same address, whatever they have counted, and a
probe takes the row out of the set and puts it back.  What a row has counted is
told by the calls since the one that inserted it.
-/

def i32Max : Int := 2147483647
def i32Min : Int := -2147483648

/-- A sum or difference that stops at the ends of a signed word. -/
def saturatingI32 (value : Int) : Int := max i32Min (min i32Max value)

structure VettedPeer where
  host : String
  port : UInt16
  vetted : Int
  vettedTimestamp : Nat
  lastAttempt : Nat
  timeAdded : Nat
deriving DecidableEq

abbrev Address := String × UInt16

namespace VettedPeer

/-- What equality and the hash look at. -/
def address (peer : VettedPeer) : Address := (peer.host, peer.port)

/-- What `record_success` writes to a row. -/
def succeed (peer : VettedPeer) (now : Nat) : VettedPeer :=
  { peer with
    vetted := if peer.vetted < 0 then 1 else saturatingI32 (peer.vetted + 1)
    vettedTimestamp := now
    lastAttempt := now }

/-- What `record_failure` writes to a row. -/
def fail (peer : VettedPeer) (now : Nat) : VettedPeer :=
  { peer with
    vetted := if 0 < peer.vetted then -1 else saturatingI32 (peer.vetted - 1)
    lastAttempt := now }

end VettedPeer

/-- A row that is equal to any other of its address. -/
def dummy (host : String) (port : UInt16) : VettedPeer where
  host := host
  port := port
  vetted := 0
  vettedTimestamp := 0
  lastAttempt := 0
  timeAdded := 0

structure IntroducerPeers where
  peers : KeyedSet VettedPeer.address

namespace IntroducerPeers

def new : IntroducerPeers where
  peers := KeyedSet.empty

def add (introducer : IntroducerPeers) (host : String) (port : UInt16) (now : Nat) :
    Bool × IntroducerPeers :=
  if port = 0 then (false, introducer)
  else
    let peer := { dummy host port with timeAdded := now }
    let (added, peers) := introducer.peers.insert peer
    (added, ⟨peers⟩)

def remove (introducer : IntroducerPeers) (host : String) (port : UInt16) : Bool × IntroducerPeers :=
  let (removed, peers) := introducer.peers.remove (dummy host port)
  (removed, ⟨peers⟩)

def take (introducer : IntroducerPeers) (host : String) (port : UInt16) :
    Option VettedPeer × IntroducerPeers :=
  let (peer, peers) := introducer.peers.take (dummy host port)
  (peer, ⟨peers⟩)

def recordSuccess (introducer : IntroducerPeers) (host : String) (port : UInt16) (now : Nat) :
    IntroducerPeers :=
  match introducer.take host port with
  | (some peer, introducer) => ⟨(introducer.peers.insert (peer.succeed now)).2⟩
  | (none, introducer) => introducer

def recordFailure (introducer : IntroducerPeers) (host : String) (port : UInt16) (now : Nat) :
    IntroducerPeers :=
  match introducer.take host port with
  | (some peer, introducer) => ⟨(introducer.peers.insert (peer.fail now)).2⟩
  | (none, introducer) => introducer

/-- The rows, in the order in which the set is gone through. -/
def allPeers (introducer : IntroducerPeers) (order : FiniteMap.Traversal introducer.peers.rows) :
    List VettedPeer :=
  introducer.peers.values order

def getVettedPeers (introducer : IntroducerPeers)
    (order : FiniteMap.Traversal introducer.peers.rows) : List VettedPeer :=
  (introducer.allPeers order).filter fun peer => decide (0 < peer.vetted)

end IntroducerPeers

/-! ## Calls -/

inductive VettingCall where
  | add (host : String) (port : UInt16) (now : Nat)
  | remove (host : String) (port : UInt16)
  | recordSuccess (host : String) (port : UInt16) (now : Nat)
  | recordFailure (host : String) (port : UInt16) (now : Nat)
deriving DecidableEq

namespace VettingCall

def address : VettingCall -> Address
  | .add host port _ => (host, port)
  | .remove host port => (host, port)
  | .recordSuccess host port _ => (host, port)
  | .recordFailure host port _ => (host, port)

/-- The outcome that a call records. -/
def outcome : VettingCall -> Option Bool
  | .add _ _ _ => none
  | .remove _ _ => none
  | .recordSuccess _ _ _ => some true
  | .recordFailure _ _ _ => some false

end VettingCall

namespace IntroducerPeers

/-- What a call returns, with the state after it; a record returns nothing. -/
def perform (introducer : IntroducerPeers) : VettingCall -> Bool × IntroducerPeers
  | .add host port now => introducer.add host port now
  | .remove host port => introducer.remove host port
  | .recordSuccess host port now => (false, introducer.recordSuccess host port now)
  | .recordFailure host port now => (false, introducer.recordFailure host port now)

def performAll (introducer : IntroducerPeers) (calls : List VettingCall) : IntroducerPeers :=
  calls.foldl (fun introducer call => (introducer.perform call).2) introducer

/-- The calls of a run, each with what it returned. -/
def trace (introducer : IntroducerPeers) : List VettingCall -> List (VettingCall × Bool)
  | [] => []
  | call :: calls =>
      (call, (introducer.perform call).1) :: trace (introducer.perform call).2 calls

/-- The state after calls that begin with an empty set. -/
def afterCalls (calls : List VettingCall) : IntroducerPeers :=
  new.performAll calls

def lookup (introducer : IntroducerPeers) (address : Address) : Option VettedPeer :=
  introducer.peers.rows.lookup address

end IntroducerPeers

/-! ## Histories -/

/-- An addition or removal of an address that took effect. -/
def changes (address : Address) (entry : VettingCall × Bool) : Bool :=
  entry.2 && decide (entry.1.address = address)

/-- The last addition or removal of an address that took effect. -/
def lastChange (address : Address) (trace : List (VettingCall × Bool)) : Option VettingCall :=
  ((trace.filter (changes address)).getLast?).map Prod.fst

/-- The outcomes recorded for an address since it was added or removed. -/
def probesSince (address : Address) (trace : List (VettingCall × Bool)) : List Bool :=
  (trace.rtakeWhile fun entry => !changes address entry).filterMap fun entry =>
    if entry.1.address = address then entry.1.outcome else none

/-- The length of the run of one outcome at the end. -/
def streak (outcome : Bool) (outcomes : List Bool) : Nat :=
  (outcomes.rtakeWhile fun other => other == outcome).length

/-- The length of the run of equal outcomes at the end, with the sign of the outcome. -/
def signedStreak (outcomes : List Bool) : Int :=
  match outcomes.getLast? with
  | none => 0
  | some true => min (streak true outcomes) i32Max
  | some false => max (-streak false outcomes) i32Min

/-! ## The end of a list of outcomes -/

theorem streak_concat (outcome last : Bool) (outcomes : List Bool) :
    streak outcome (outcomes ++ [last]) =
      if last = outcome then streak outcome outcomes + 1 else 0 := by
  unfold streak
  by_cases same : last = outcome
  · rw [if_pos same, List.rtakeWhile_concat_pos (· == outcome) _ _ (beq_iff_eq.mpr same), List.length_append,
      List.length_singleton]
  · rw [if_neg same, List.rtakeWhile_concat_neg (· == outcome) _ _ (mt beq_iff_eq.mp same), List.length_nil]

theorem signedStreak_true (outcomes : List Bool) :
    signedStreak (outcomes ++ [true]) = min ((streak true outcomes + 1 : Nat) : Int) i32Max := by
  have longer := streak_concat true true outcomes
  rw [if_pos rfl] at longer
  unfold signedStreak
  rw [List.getLast?_concat, <- longer]

theorem signedStreak_false (outcomes : List Bool) :
    signedStreak (outcomes ++ [false]) =
      max (-((streak false outcomes + 1 : Nat) : Int)) i32Min := by
  have longer := streak_concat false false outcomes
  rw [if_pos rfl] at longer
  unfold signedStreak
  rw [List.getLast?_concat, <- longer]

/-- A streak goes on, or begins with one. -/
theorem signedStreak_succeed (outcomes : List Bool) :
    signedStreak (outcomes ++ [true]) =
      if signedStreak outcomes < 0 then 1 else saturatingI32 (signedStreak outcomes + 1) := by
  rw [signedStreak_true]
  rcases List.eq_nil_or_concat' outcomes with rfl | ⟨earlier, last, rfl⟩
  · rfl
  · unfold saturatingI32 i32Min
    cases last with
    | true =>
        rw [streak_concat, if_pos rfl, signedStreak_true]
        unfold i32Max
        split <;> omega
    | false =>
        rw [streak_concat, if_neg (by decide), signedStreak_false]
        unfold i32Max i32Min
        split <;> omega

theorem signedStreak_fail (outcomes : List Bool) :
    signedStreak (outcomes ++ [false]) =
      if 0 < signedStreak outcomes then -1 else saturatingI32 (signedStreak outcomes - 1) := by
  rw [signedStreak_false]
  rcases List.eq_nil_or_concat' outcomes with rfl | ⟨earlier, last, rfl⟩
  · rfl
  · unfold saturatingI32 i32Max
    cases last with
    | true =>
        rw [streak_concat, if_neg (by decide), signedStreak_true]
        unfold i32Max i32Min
        split <;> omega
    | false =>
        rw [streak_concat, if_pos rfl, signedStreak_false]
        unfold i32Min
        split <;> omega

/-- The sign is that of the last outcome. -/
theorem signedStreak_pos_iff (outcomes : List Bool) :
    0 < signedStreak outcomes ↔ outcomes.getLast? = some true := by
  rcases List.eq_nil_or_concat' outcomes with rfl | ⟨earlier, last, rfl⟩
  · exact ⟨fun positive => absurd positive (by decide), fun last => by cases last⟩
  · rw [List.getLast?_concat]
    cases last with
    | true =>
        rw [signedStreak_true]
        unfold i32Max
        exact ⟨fun _ => rfl, fun _ => by omega⟩
    | false =>
        rw [signedStreak_false]
        unfold i32Min
        exact ⟨fun positive => by omega, fun last => by cases last⟩

/-! ## What one call does -/

namespace VettingCall

/-- What a call does to the row of its address. -/
def onRow : VettingCall -> Option VettedPeer -> Option VettedPeer
  | .add host port now, row =>
      if port = 0 then row else some (row.getD { dummy host port with timeAdded := now })
  | .remove _ _, _ => none
  | .recordSuccess _ _ now, row => row.map fun peer => peer.succeed now
  | .recordFailure _ _ now, row => row.map fun peer => peer.fail now

/-- What a call returns, by the row of its address. -/
def returned : VettingCall -> Option VettedPeer -> Bool
  | .add _ port _, row => decide (port ≠ 0) && row.isNone
  | .remove _ _, row => row.isSome
  | .recordSuccess _ _ _, _ => false
  | .recordFailure _ _ _, _ => false

end VettingCall

namespace IntroducerPeers

variable {introducer : IntroducerPeers}

/-- A record rewrites the row of its address, if there is one. -/
theorem lookup_record {host : String} {port : UInt16} {recorded : IntroducerPeers}
    (write : VettedPeer -> VettedPeer) (keeps : forall peer, (write peer).address = peer.address)
    (done : recorded = match introducer.take host port with
      | (some peer, introducer) => ⟨(introducer.peers.insert (write peer)).2⟩
      | (none, introducer) => introducer) (address : Address) :
    recorded.lookup address =
      if address = (host, port) then (introducer.lookup (host, port)).map write
      else introducer.lookup address := by
  have taken : introducer.take host port =
      (introducer.lookup (host, port), ⟨(introducer.peers.take (dummy host port)).2⟩) := rfl
  rw [taken] at done
  cases found : introducer.lookup (host, port) with
  | none =>
      rw [found] at done
      rw [done]
      exact introducer.peers.lookup_take (dummy host port) address
  | some peer =>
      rw [found] at done
      have named : (write peer).address = (dummy host port).address :=
        (keeps peer).trans (introducer.peers.keyed (host, port) peer found)
      rw [done]
      exact introducer.peers.lookup_insert_take named address

/-- A call touches the row of its address and no other. -/
theorem lookup_perform (call : VettingCall) (address : Address) :
    (introducer.perform call).2.lookup address =
      if address = call.address then call.onRow (introducer.lookup call.address)
      else introducer.lookup address := by
  cases call with
  | add host port now =>
      change (introducer.add host port now).2.lookup address =
        if address = (host, port) then
          (VettingCall.add host port now).onRow (introducer.lookup (host, port))
        else introducer.lookup address
      unfold add
      by_cases zero : port = 0
      · have same : (VettingCall.add host port now).onRow (introducer.lookup (host, port)) =
            introducer.lookup (host, port) := if_pos zero
        rw [if_pos zero, same]
        by_cases here : address = (host, port)
        · rw [if_pos here, here]
        · rw [if_neg here]
      · have written : (VettingCall.add host port now).onRow (introducer.lookup (host, port)) =
            some ((introducer.lookup (host, port)).getD
              { dummy host port with timeAdded := now }) := if_neg zero
        rw [if_neg zero, written]
        exact introducer.peers.lookup_insert _ address
  | remove host port => exact introducer.peers.lookup_take (dummy host port) address
  | recordSuccess host port now =>
      exact lookup_record (fun peer => peer.succeed now) (fun _ => rfl) rfl address
  | recordFailure host port now =>
      exact lookup_record (fun peer => peer.fail now) (fun _ => rfl) rfl address

theorem perform_fst (call : VettingCall) :
    (introducer.perform call).1 = call.returned (introducer.lookup call.address) := by
  cases call with
  | add host port now =>
      change (introducer.add host port now).1 =
        (decide (port ≠ 0) && (introducer.lookup (host, port)).isNone)
      unfold add
      by_cases zero : port = 0
      · rw [if_pos zero, decide_eq_false (not_not.mpr zero), Bool.false_and]
      · rw [if_neg zero, decide_eq_true zero, Bool.true_and]
        exact introducer.peers.insert_fst _
  | remove host port => rfl
  | recordSuccess host port now => rfl
  | recordFailure host port now => rfl

/-! ## Runs -/

theorem performAll_concat (calls : List VettingCall) (call : VettingCall) :
    introducer.performAll (calls ++ [call]) = ((introducer.performAll calls).perform call).2 := by
  unfold performAll
  rw [List.foldl_append]
  rfl

theorem trace_concat (calls : List VettingCall) (call : VettingCall) :
    introducer.trace (calls ++ [call]) =
      introducer.trace calls ++ [(call, ((introducer.performAll calls).perform call).1)] := by
  induction calls generalizing introducer with
  | nil => rfl
  | cons first calls inner =>
      rw [List.cons_append, trace, inner, trace, List.cons_append]
      rfl

end IntroducerPeers

variable {address : Address} {past : List (VettingCall × Bool)} {entry : VettingCall × Bool}

theorem lastChange_concat :
    lastChange address (past ++ [entry]) =
      if changes address entry = true then some entry.1 else lastChange address past := by
  unfold lastChange
  rw [List.filter_append]
  cases changed : changes address entry with
  | true =>
      rw [List.filter_cons_of_pos changed, List.filter_nil, List.getLast?_concat]
      rfl
  | false =>
      rw [List.filter_cons_of_neg (Bool.eq_false_iff.mp changed), List.filter_nil,
        List.append_nil]
      rfl

theorem probesSince_of_changed (changed : changes address entry = true) :
    probesSince address (past ++ [entry]) = [] := by
  unfold probesSince
  rw [List.rtakeWhile_concat_neg (fun entry => !changes address entry) _ _
    (Bool.eq_false_iff.mp (congrArg (!·) changed))]
  rfl

theorem probesSince_of_unchanged (unchanged : changes address entry = false) :
    probesSince address (past ++ [entry]) = probesSince address past ++
      (if entry.1.address = address then entry.1.outcome else none).toList := by
  unfold probesSince
  rw [List.rtakeWhile_concat_pos (fun entry => !changes address entry) _ _
    (congrArg (!·) unchanged), List.filterMap_append]
  rw [List.filterMap_cons, List.filterMap_nil]
  cases (if entry.1.address = address then entry.1.outcome else none) with
  | none => rfl
  | some outcome => rfl

/-- What the calls tell of the row of an address. -/
def Told (address : Address) (past : List (VettingCall × Bool)) : Option VettedPeer -> Prop
  | none => forall host port now, lastChange address past ≠ some (.add host port now)
  | some row => address.2 ≠ 0 ∧
      (exists now, lastChange address past = some (.add address.1 address.2 now)) ∧
        row.vetted = signedStreak (probesSince address past)

theorem Told.unchanged_none (told : Told address past none) (unchanged : changes address entry = false) :
    Told address (past ++ [entry]) none := by
  intro host port now
  rw [lastChange_concat, if_neg (Bool.eq_false_iff.mp unchanged)]
  exact told host port now

/-- A row stays told of as long as it counts what was recorded. -/
theorem Told.unchanged_some {row written : VettedPeer} (told : Told address past (some row))
    (unchanged : changes address entry = false)
    (counted : written.vetted = signedStreak (probesSince address past ++
      (if entry.1.address = address then entry.1.outcome else none).toList)) :
    Told address (past ++ [entry]) (some written) := by
  rcases told with ⟨nonzero, added, _⟩
  refine ⟨nonzero, ?_, ?_⟩
  · rw [lastChange_concat, if_neg (Bool.eq_false_iff.mp unchanged)]
    exact added
  · rw [probesSince_of_unchanged unchanged]
    exact counted

/-- A call that neither took effect nor recorded anything of the address. -/
theorem Told.kept {row : Option VettedPeer} (told : Told address past row)
    (unchanged : changes address entry = false)
    (unprobed : (if entry.1.address = address then entry.1.outcome else none) = none) :
    Told address (past ++ [entry]) row := by
  cases row with
  | none => exact told.unchanged_none unchanged
  | some row =>
      apply told.unchanged_some unchanged
      rw [unprobed, Option.toList_none, List.append_nil]
      exact told.2.2

/-- A probe of the address. -/
theorem Told.probed {call : VettingCall} {row : Option VettedPeer} {outcome : Bool}
    {write : VettedPeer -> VettedPeer} (told : Told call.address past row)
    (records : call.outcome = some outcome)
    (counts : forall (peer : VettedPeer) outcomes, peer.vetted = signedStreak outcomes ->
      (write peer).vetted = signedStreak (outcomes ++ [outcome])) :
    Told call.address (past ++ [(call, false)]) (row.map write) := by
  cases row with
  | none => exact told.unchanged_none rfl
  | some row =>
      apply told.unchanged_some rfl
      rw [if_pos rfl, records]
      exact counts row _ told.2.2

/-- One call moves the row of its address as its history says. -/
theorem told_onRow {call : VettingCall} {row : Option VettedPeer}
    (told : Told call.address past row) :
    Told call.address (past ++ [(call, call.returned row)]) (call.onRow row) := by
  have changed : forall returned, changes call.address (call, returned) = returned := by
    intro returned
    unfold changes
    rw [decide_eq_true rfl, Bool.and_true]
  cases call with
  | add host port now =>
      by_cases zero : port = 0
      · have refused : (VettingCall.add host port now).returned row = false := by
          rw [VettingCall.returned, decide_eq_false (not_not.mpr zero), Bool.false_and]
        have same : (VettingCall.add host port now).onRow row = row := if_pos zero
        rw [refused, same]
        exact told.kept rfl (if_pos rfl)
      · have written : (VettingCall.add host port now).onRow row = some (row.getD _) := if_neg zero
        rw [written, VettingCall.returned, decide_eq_true zero, Bool.true_and]
        cases row with
        | none =>
            change Told _ (past ++ [(VettingCall.add host port now, true)]) (some _)
            refine ⟨zero, ⟨now, ?_⟩, ?_⟩
            · rw [lastChange_concat, if_pos (changed true)]
              rfl
            · rw [probesSince_of_changed (changed true)]
              rfl
        | some row => exact told.kept rfl (if_pos rfl)
  | remove host port =>
      cases row with
      | none => exact told.kept rfl (if_pos rfl)
      | some row =>
          intro otherHost otherPort now
          show lastChange _ (past ++ [(VettingCall.remove host port, true)]) ≠ _
          rw [lastChange_concat, if_pos (changed true)]
          intro same
          cases same
  | recordSuccess host port now =>
      refine told.probed rfl fun peer outcomes counted => ?_
      rw [signedStreak_succeed, <- counted]
      rfl
  | recordFailure host port now =>
      refine told.probed rfl fun peer outcomes counted => ?_
      rw [signedStreak_fail, <- counted]
      rfl

namespace IntroducerPeers

variable {introducer : IntroducerPeers}

theorem told_perform (call : VettingCall) (told : Told address past (introducer.lookup address)) :
    Told address (past ++ [(call, (introducer.perform call).1)])
      ((introducer.perform call).2.lookup address) := by
  rw [lookup_perform, perform_fst]
  by_cases here : address = call.address
  · subst here
    rw [if_pos rfl]
    exact told_onRow told
  · rw [if_neg here]
    apply told.kept
    · unfold changes
      rw [decide_eq_false (Ne.symm here), Bool.and_false]
    · exact if_neg (Ne.symm here)

/-- In every run each row is what the calls tell of it. -/
theorem told_afterCalls (calls : List VettingCall) (address : Address) :
    Told address (new.trace calls) ((afterCalls calls).lookup address) := by
  induction calls using List.reverseRecOn with
  | nil =>
      intro host port now never
      cases never
  | append_singleton calls call inner =>
      unfold afterCalls at inner ⊢
      rw [performAll_concat, trace_concat]
      exact told_perform call inner

/-- The rows after a run, told by the calls of the run. -/
structure KeepsVetting (calls : List VettingCall) : Prop where
  single : ∀ first ∈ (afterCalls calls).peers, ∀ second ∈ (afterCalls calls).peers,
    first.host = second.host -> first.port = second.port -> first = second
  held : forall host port,
    (∃ row ∈ (afterCalls calls).peers, row.host = host ∧ row.port = port) ↔
      port ≠ 0 ∧ exists now,
        lastChange (host, port) (new.trace calls) = some (.add host port now)
  inserts : forall host port now, ((afterCalls calls).add host port now).1 = true ↔
    port ≠ 0 ∧ ¬∃ row ∈ (afterCalls calls).peers, row.host = host ∧ row.port = port
  removes : forall host port, ((afterCalls calls).remove host port).1 = true ↔
    ∃ row ∈ (afterCalls calls).peers, row.host = host ∧ row.port = port
  vetted : ∀ row ∈ (afterCalls calls).peers,
    row.vetted = signedStreak (probesSince (row.host, row.port) (new.trace calls))
  again : ∀ row ∈ (afterCalls calls).peers, forall now,
    (afterCalls calls).add row.host row.port now = (false, afterCalls calls)
  recent : forall order row, row ∈ (afterCalls calls).getVettedPeers order ↔
    row ∈ (afterCalls calls).peers ∧
      (probesSince (row.host, row.port) (new.trace calls)).getLast? = some true
  listed : forall order, ((afterCalls calls).getVettedPeers order).Nodup

theorem exists_row_iff_isSome {host : String} {port : UInt16} :
    (∃ row ∈ introducer.peers, row.host = host ∧ row.port = port) ↔
      (introducer.lookup (host, port)).isSome = true := by
  constructor
  · rintro ⟨row, member, rfl, rfl⟩
    exact Option.isSome_of_mem (KeyedSet.mem_iff.mp member)
  · intro held
    rcases Option.isSome_iff_exists.mp held with ⟨row, found⟩
    have named := introducer.peers.keyed (host, port) row found
    exact ⟨row, KeyedSet.mem_of_lookup found, congrArg Prod.fst named, congrArg Prod.snd named⟩

/-- An addition takes effect for an address with a port and no row. -/
theorem add_fst_iff {host : String} {port : UInt16} {now : Nat} :
    (introducer.add host port now).1 = true ↔
      port ≠ 0 ∧ ¬∃ row ∈ introducer.peers, row.host = host ∧ row.port = port := by
  have returned : (introducer.add host port now).1 =
      (decide (port ≠ 0) && (introducer.lookup (host, port)).isNone) :=
    perform_fst (.add host port now)
  rw [returned, Bool.and_eq_true, decide_eq_true_iff, exists_row_iff_isSome,
    Option.not_isSome_iff_eq_none, Option.isNone_iff_eq_none]

/-- An address has a row exactly when it was added last, with a port. -/
theorem exists_row_iff (calls : List VettingCall) (host : String) (port : UInt16) :
    (∃ row ∈ (afterCalls calls).peers, row.host = host ∧ row.port = port) ↔
      port ≠ 0 ∧ exists now,
        lastChange (host, port) (new.trace calls) = some (.add host port now) := by
  have told := told_afterCalls calls (host, port)
  rw [exists_row_iff_isSome]
  cases found : (afterCalls calls).lookup (host, port) with
  | none =>
      rw [found] at told
      refine ⟨fun held => (by cases held), fun ⟨_, now, added⟩ => ?_⟩
      exact absurd added (told host port now)
  | some row =>
      rw [found] at told
      exact ⟨fun _ => ⟨told.1, told.2.1⟩, fun _ => rfl⟩

theorem vetted_eq_signedStreak {calls : List VettingCall} {row : VettedPeer}
    (member : row ∈ (afterCalls calls).peers) :
    row.vetted = signedStreak (probesSince (row.host, row.port) (new.trace calls)) := by
  have told := told_afterCalls calls row.address
  rw [show (afterCalls calls).lookup row.address = some row from member] at told
  exact told.2.2

theorem port_ne_zero {calls : List VettingCall} {row : VettedPeer}
    (member : row ∈ (afterCalls calls).peers) : row.port ≠ 0 :=
  ((exists_row_iff calls row.host row.port).mp ⟨row, member, rfl, rfl⟩).1

theorem keepsVetting_afterCalls (calls : List VettingCall) : KeepsVetting calls where
  single := by
    intro first left second right sameHost samePort
    exact KeyedSet.eq_of_mem left right (Prod.ext sameHost samePort)
  held := exists_row_iff calls
  inserts := fun _ _ _ => add_fst_iff
  removes := fun _ _ => exists_row_iff_isSome.symm
  vetted := fun _ => vetted_eq_signedStreak
  again := by
    intro row member now
    have held : ((afterCalls calls).peers.rows.lookup row.address).isSome = true := by
      rw [KeyedSet.mem_iff.mp member]
      rfl
    have refused : (afterCalls calls).peers.insert
        { dummy row.host row.port with timeAdded := now } = (false, (afterCalls calls).peers) :=
      KeyedSet.insert_of_isSome held
    unfold add
    rw [if_neg (port_ne_zero member)]
    dsimp only
    rw [refused]
  recent := by
    intro order row
    unfold getVettedPeers allPeers
    rw [List.mem_filter, KeyedSet.mem_values, decide_eq_true_iff]
    refine and_congr_right fun member => ?_
    rw [vetted_eq_signedStreak member]
    exact signedStreak_pos_iff _
  listed := fun order => ((afterCalls calls).peers.nodup_values order).filter _

end IntroducerPeers

end Discovery
end DigGossip
