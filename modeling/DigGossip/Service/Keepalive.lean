import Mathlib.Data.List.TakeWhile
import DigGossip.Foundations.Stepping
import DigGossip.Service.Negotiation
import DigGossip.Service.State

namespace DigGossip
namespace Service

open Foundations DigGossip.Types

/-!
# The keepalive of a connection

The loop sleeps, looks at the time since the last success, sends a probe and
waits for the peer's answer on the broadcast.  Every round after which the loop
goes on has set the last success to its own end.  So the time it is compared
with is never more than one sleep, the rounds do not depend on one another, and
a window of several missed probes does not exist.
-/

def pingIntervalSecs : Nat := 30
def peerTimeoutSecs : Nat := 90

def nanosPerSec : Nat := 1000000000
def nanosPerMilli : Nat := 1000000

/-- The two overrides of the configuration. -/
structure KeepaliveConfig where
  keepalivePingIntervalSecs : Option Nat
  keepalivePeerTimeoutSecs : Option Nat

namespace KeepaliveConfig

variable (config : KeepaliveConfig)

/-- The least time a sleep takes, in nanoseconds. -/
def ping : Nat := config.keepalivePingIntervalSecs.getD pingIntervalSecs * nanosPerSec

def timeout : Nat := config.keepalivePeerTimeoutSecs.getD peerTimeoutSecs * nanosPerSec

end KeepaliveConfig

/-- What the subscription to the inbound broadcast gives. -/
inductive BroadcastItem where
  | message (publisher : PeerId) (message : DigMessage)
  | lagged (missed : Nat)
  | closed

/-- The answer of the peer, the end of the broadcast, or nothing before the deadline. -/
def awaitRespondPeers (peerId : PeerId) : List BroadcastItem -> Option Bool
  | [] => none
  | .message publisher message :: rest =>
      if publisher = peerId ∧ message.msgType = respondPeersOpcode then some true
      else awaitRespondPeers peerId rest
  | .lagged _ :: rest => awaitRespondPeers peerId rest
  | .closed :: _ => some false

/-- What one turn of the loop finds.  The times are in nanoseconds. -/
structure Round where
  runningBefore : Bool
  /-- From the end of the round before to the look at the last success. -/
  slept : Nat
  runningAfter : Bool
  subscribed : Bool
  /-- From that look to the start of the probe, or to the reset that skips it. -/
  prepared : Nat
  sent : Bool
  /-- What the subscription gives before the deadline. -/
  items : List BroadcastItem
  /-- From the start of the probe to its answer, and to the reading of the round trip. -/
  waited : Nat
  measured : Nat
  /-- The peer's slot is live and neither lock is poisoned. -/
  slotLive : Bool

inductive KeepaliveEnd where
  | stopped
  | stale
  | unsent
  | unanswered
deriving DecidableEq

/-- The ends that run `disconnect_after_keepalive_failure`. -/
def KeepaliveEnd.disconnects : KeepaliveEnd -> Bool
  | stopped => false
  | _ => true

structure KeepaliveState where
  now : Nat
  lastSuccess : Nat
  probes : Nat
  /-- The round trips given to the reputation, in milliseconds. -/
  samples : List Nat
  ended : Option KeepaliveEnd
deriving DecidableEq

/-- The round trip of an answered probe. -/
def Round.rttMs (round : Round) : Nat :=
  (round.waited + round.measured) / nanosPerMilli % (u64Max + 1)

section Loop

variable (config : KeepaliveConfig) (peerId : PeerId)

namespace KeepaliveState

/-- The loop is entered. -/
def entered (now : Nat) : KeepaliveState :=
  { now := now, lastSuccess := now, probes := 0, samples := [], ended := none }

def finish (s : KeepaliveState) (how : KeepaliveEnd) : KeepaliveState :=
  { s with ended := some how }

/-- The probe has been sent at `start`. -/
def observe (s : KeepaliveState) (start : Nat) (round : Round) : KeepaliveState :=
  match awaitRespondPeers peerId round.items with
  | some true =>
      let answered := start + round.waited
      { s with
        now := answered
        lastSuccess := answered
        samples := if round.slotLive then s.samples ++ [round.rttMs] else s.samples }
  | some false => s.finish .stopped
  | none => s.finish .unanswered

/-- One turn of `keepalive_loop`; the turns after its end do nothing. -/
def step (s : KeepaliveState) (round : Round) : KeepaliveState :=
  if s.ended.isSome then s
  else if !round.runningBefore then s.finish .stopped
  else
    let woken := s.now + round.slept
    if !round.runningAfter then s.finish .stopped
    else if config.timeout < woken - s.lastSuccess then s.finish .stale
    else
      let start := woken + round.prepared
      if !round.subscribed then { s with now := start, lastSuccess := start }
      else if !round.sent then s.finish .unsent
      else { s with probes := s.probes + 1 }.observe peerId start round

end KeepaliveState

/-! ## One round by itself -/

/-- How the loop ends in this round, if it is reached. -/
def Round.verdict (round : Round) : Option KeepaliveEnd :=
  if !round.runningBefore || !round.runningAfter then some .stopped
  else if config.timeout < round.slept then some .stale
  else if !round.subscribed then none
  else if !round.sent then some .unsent
  else
    match awaitRespondPeers peerId round.items with
    | some true => none
    | some false => some .stopped
    | none => some .unanswered

/-- A round that is passed has asked and been answered. -/
def Round.sample (round : Round) : Option Nat :=
  if round.subscribed && round.slotLive then some round.rttMs else none

/-- The rounds before the one that ends the loop. -/
def passedRounds (rounds : List Round) : List Round :=
  rounds.takeWhile fun round => (round.verdict config peerId).isNone

end Loop

section Rounds

variable {config : KeepaliveConfig} {peerId : PeerId} {s : KeepaliveState} {round : Round}

namespace KeepaliveState

/-- The loop goes on, and its last success is the end of the last round. -/
structure Fresh (s : KeepaliveState) : Prop where
  going : s.ended = none
  recent : s.lastSuccess = s.now

theorem fresh_entered (now : Nat) : (entered now).Fresh := ⟨rfl, rfl⟩

/-- What a round without a probe does to a fresh loop. -/
theorem Fresh.step_eq (fresh : s.Fresh) :
    s.step config peerId round =
      if !round.runningBefore || !round.runningAfter then s.finish .stopped
      else if config.timeout < round.slept then s.finish .stale
      else if !round.subscribed then
        { s with
          now := s.now + round.slept + round.prepared
          lastSuccess := s.now + round.slept + round.prepared }
      else if !round.sent then s.finish .unsent
      else { s with probes := s.probes + 1 }.observe peerId (s.now + round.slept + round.prepared)
        round := by
  have elapsed : s.now + round.slept - s.lastSuccess = round.slept := by
    rw [fresh.recent, Nat.add_sub_cancel_left]
  have going : ¬ s.ended.isSome = true := by
    rw [fresh.going]
    exact Bool.false_ne_true
  unfold step
  dsimp only
  rw [if_neg going, elapsed]
  cases round.runningBefore with
  | false => rw [Bool.not_false, Bool.true_or, if_pos rfl, if_pos rfl]
  | true => rw [Bool.not_true, Bool.false_or, if_neg Bool.false_ne_true]

/-- A round that does not end the loop leaves it fresh and adds its own sample. -/
theorem Fresh.step_passed (fresh : s.Fresh) (passed : round.verdict config peerId = none) :
    (s.step config peerId round).Fresh ∧
      (s.step config peerId round).samples = s.samples ++ round.sample.toList := by
  rw [fresh.step_eq]
  unfold Round.verdict at passed
  unfold Round.sample
  split at passed
  · cases passed
  split at passed
  · cases passed
  rename_i running patient
  rw [if_neg running, if_neg patient]
  cases subscribed : round.subscribed with
  | false => exact ⟨⟨fresh.going, rfl⟩, (List.append_nil _).symm⟩
  | true =>
      cases sent : round.sent with
      | false =>
          rw [subscribed, sent] at passed
          cases passed
      | true =>
          rw [subscribed, sent] at passed
          simp only [Bool.not_true, Bool.false_eq_true, if_false, observe] at passed ⊢
          cases heard : awaitRespondPeers peerId round.items with
          | none =>
              rw [heard] at passed
              cases passed
          | some answered =>
              cases answered with
              | false =>
                  rw [heard] at passed
                  cases passed
              | true =>
                  refine ⟨⟨fresh.going, rfl⟩, ?_⟩
                  cases round.slotLive with
                  | false => exact (List.append_nil _).symm
                  | true => rfl

/-- A round that ends the loop adds no sample. -/
theorem Fresh.step_decided (fresh : s.Fresh) {how : KeepaliveEnd}
    (decided : round.verdict config peerId = some how) :
    (s.step config peerId round).ended = some how ∧
      (s.step config peerId round).samples = s.samples := by
  rw [fresh.step_eq]
  unfold Round.verdict at decided
  split at decided
  · rename_i down
    rw [if_pos down]
    exact ⟨decided, rfl⟩
  rename_i running
  rw [if_neg running]
  split at decided
  · rename_i late
    rw [if_pos late]
    exact ⟨decided, rfl⟩
  rename_i patient
  rw [if_neg patient]
  split at decided
  · cases decided
  rename_i subscribed
  rw [if_neg subscribed]
  split at decided
  · rename_i unsent
    rw [if_pos unsent]
    exact ⟨decided, rfl⟩
  rename_i sent
  rw [if_neg sent, observe]
  cases heard : awaitRespondPeers peerId round.items with
  | none =>
      rw [heard] at decided
      exact ⟨decided, rfl⟩
  | some answered =>
      rw [heard] at decided
      cases answered with
      | true => cases decided
      | false => exact ⟨decided, rfl⟩

/-- Nothing happens after the end of the loop. -/
theorem run_ended {how : KeepaliveEnd} (halted : s.ended = some how) (rounds : List Round) :
    Stepping.run (step config peerId) rounds s = s := by
  induction rounds with
  | nil => rfl
  | cons round rounds inner =>
      have still : s.step config peerId round = s := by
        rw [step, halted]
        rfl
      rw [Stepping.run_cons, still, inner]

theorem Fresh.run (fresh : s.Fresh) (rounds : List Round) :
    (Stepping.run (step config peerId) rounds s).ended =
        rounds.findSome? (Round.verdict config peerId) ∧
      (Stepping.run (step config peerId) rounds s).samples =
        s.samples ++ (passedRounds config peerId rounds).filterMap Round.sample := by
  induction rounds generalizing s with
  | nil => exact ⟨fresh.going, (List.append_nil _).symm⟩
  | cons round rounds inner =>
      rw [Stepping.run_cons, List.findSome?_cons]
      cases verdict : round.verdict config peerId with
      | some how =>
          rcases fresh.step_decided verdict with ⟨ended, samples⟩
          rw [run_ended ended, ended, samples, passedRounds, List.takeWhile_cons, verdict]
          exact ⟨rfl, (List.append_nil _).symm⟩
      | none =>
          rcases fresh.step_passed verdict with ⟨still, samples⟩
          rcases inner still with ⟨ended, later⟩
          refine ⟨ended, ?_⟩
          rw [later, samples, passedRounds, passedRounds, List.takeWhile_cons, verdict,
            List.append_assoc]
          cases kept : round.sample with
          | none => simp [kept]
          | some rtt => simp [kept]

end KeepaliveState

end Rounds

/-! ## Whole runs -/

variable {config : KeepaliveConfig} {peerId : PeerId}

/-- Only a sleep longer than the window makes a round stale. -/
theorem Round.not_stale {round : Round} (patient : round.slept ≤ config.timeout) :
    round.verdict config peerId ≠ some .stale := by
  unfold Round.verdict
  intro stale
  split at stale
  · cases stale
  rw [if_neg (Nat.not_lt.mpr patient)] at stale
  split at stale
  · cases stale
  split at stale
  · cases stale
  split at stale <;> cases stale

/-- A round disconnects the peer only while the service runs, and not for want of a broadcast. -/
theorem Round.disconnects {round : Round} {how : KeepaliveEnd}
    (decided : round.verdict config peerId = some how) (disconnects : how.disconnects = true) :
    round.runningBefore = true ∧ round.runningAfter = true ∧
      (config.timeout < round.slept ∨ round.subscribed = true ∧
        (round.sent = false ∨ awaitRespondPeers peerId round.items = none)) := by
  unfold Round.verdict at decided
  split at decided
  · cases decided
    cases disconnects
  rename_i running
  simp only [Bool.or_eq_true, Bool.not_eq_true', not_or, Bool.not_eq_false] at running
  refine ⟨running.1, running.2, ?_⟩
  split at decided
  · rename_i late
    exact Or.inl late
  split at decided
  · cases decided
  rename_i subscribed
  refine Or.inr ⟨by simpa using subscribed, ?_⟩
  split at decided
  · rename_i unsent
    exact Or.inl (by simpa using unsent)
  cases heard : awaitRespondPeers peerId round.items with
  | none => exact Or.inr rfl
  | some answered =>
      rw [heard] at decided
      cases answered with
      | true => cases decided
      | false =>
          cases decided
          cases disconnects

/-- A window shorter than the sleep ends the loop before its first probe. -/
theorem KeepaliveState.Fresh.step_impatient {s : KeepaliveState} (fresh : s.Fresh) {round : Round}
    (late : config.timeout < round.slept) :
    (s.step config peerId round).ended.isSome = true ∧
      (s.step config peerId round).probes = s.probes := by
  rw [fresh.step_eq, if_pos late]
  split <;> exact ⟨rfl, rfl⟩

/-- How the loop ends and what it measures is decided by each round alone.  It
disconnects for an overlong sleep or for one probe that fails, and where the
window is shorter than the interval no probe is ever sent. -/
theorem keepalive_rounds (config : KeepaliveConfig) (peerId : PeerId) (rounds : List Round)
    (now : Nat) :
    (Stepping.run (KeepaliveState.step config peerId) rounds (.entered now)).ended =
        rounds.findSome? (Round.verdict config peerId) ∧
      (Stepping.run (KeepaliveState.step config peerId) rounds (.entered now)).samples =
        (passedRounds config peerId rounds).filterMap Round.sample ∧
      ((∀ round ∈ rounds, round.slept ≤ config.timeout) ->
        (Stepping.run (KeepaliveState.step config peerId) rounds (.entered now)).ended ≠
          some .stale) ∧
      (forall how, (Stepping.run (KeepaliveState.step config peerId) rounds (.entered now)).ended =
          some how -> how.disconnects = true ->
        ∃ round ∈ rounds, round.runningBefore = true ∧ round.runningAfter = true ∧
          (config.timeout < round.slept ∨ round.subscribed = true ∧
            (round.sent = false ∨ awaitRespondPeers peerId round.items = none))) ∧
      (config.timeout < config.ping -> (∀ round ∈ rounds, config.ping ≤ round.slept) ->
        (Stepping.run (KeepaliveState.step config peerId) rounds (.entered now)).probes = 0 ∧
          (rounds ≠ [] -> (Stepping.run (KeepaliveState.step config peerId) rounds
            (.entered now)).ended.isSome = true)) := by
  have fresh := KeepaliveState.fresh_entered now
  rcases @KeepaliveState.Fresh.run config peerId _ fresh rounds with ⟨ended, samples⟩
  refine ⟨ended, samples, ?_, ?_, ?_⟩
  · intro patient stale
    rw [ended] at stale
    rcases List.exists_of_findSome?_eq_some stale with ⟨round, member, late⟩
    exact Round.not_stale (patient round member) late
  · intro how halted disconnects
    rw [ended] at halted
    rcases List.exists_of_findSome?_eq_some halted with ⟨round, member, decided⟩
    exact ⟨round, member, Round.disconnects decided disconnects⟩
  · intro short slow
    cases rounds with
    | nil => exact ⟨rfl, fun none => absurd rfl none⟩
    | cons round rounds =>
        have late := Nat.lt_of_lt_of_le short (slow round List.mem_cons_self)
        rcases @KeepaliveState.Fresh.step_impatient config peerId _ fresh round late with ⟨halted, probes⟩
        rcases Option.isSome_iff_exists.mp halted with ⟨how, halted⟩
        rw [Stepping.run_cons, KeepaliveState.run_ended halted, halted]
        exact ⟨probes, fun _ => rfl⟩

end Service
end DigGossip
