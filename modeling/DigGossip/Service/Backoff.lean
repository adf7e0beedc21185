import Mathlib.Algebra.GroupWithZero.Nat
import DigGossip.Foundations.Stepping
import DigGossip.Service.Actions

namespace DigGossip
namespace Service

open Foundations DigGossip.Types

/-!
# The backoff of a dial candidate over a run of outcomes

A failed dial doubles the wait before the next one, up to a cap, and a
successful dial forgets the failures.  The exponent is clamped to sixteen, so
the doubling ends there even where the cap is higher.  The clamp is invisible
as long as the cap is reached by the seventeenth failure, or the time after the
clamped wait is past what the clock can show.
-/

/-- What a dial of a candidate came to. -/
inductive DialOutcome where
  | success (key : CandidateKey)
  | failure (key : CandidateKey) (now : Nat)
deriving DecidableEq

def DialOutcome.action (cfg : PeerPoolConfig) : DialOutcome -> Action
  | success key => .recordSuccess key
  | failure key now => .recordFailure key now cfg

/-- The delay that the next failure adds to its time. -/
def DialBackoff.delay (backoff : DialBackoff) (baseSecs maxSecs : Nat) : Nat :=
  (backoff.recordFailure 0 baseSecs maxSecs).nextRetryAt

/-- The delay as it is documented: the base doubled with each failure, up to the cap. -/
def documentedDelay (failures baseSecs maxSecs : Nat) : Nat :=
  Nat.min (baseSecs * 2 ^ (failures - 1)) (Nat.max maxSecs baseSecs)

/-- The consecutive failures of a candidate since its last success. -/
def failureStreak (key : CandidateKey) (outcomes : List DialOutcome) : Nat :=
  outcomes.foldl (fun failures outcome =>
    match outcome with
    | .success other => if other = key then 0 else failures
    | .failure other _ => if other = key then failures + 1 else failures) 0

section Outcomes

variable (order : PeerId -> Nat) (cfg : PeerPoolConfig)

def afterOutcomes (outcomes : List DialOutcome) (s : ServiceState) : ServiceState :=
  Stepping.run (fun s outcome => (exec order (outcome.action cfg) s).1) outcomes s

/-- The row of a candidate; one without a row has not failed. -/
def ServiceState.backoffOf (s : ServiceState) (key : CandidateKey) : DialBackoff :=
  (s.pool.backoff.lookup key).getD {}

@[simp] theorem backoffOf_success (s : ServiceState) (key other : CandidateKey) :
    (exec order ((DialOutcome.success other).action cfg) s).1.backoffOf key =
      if other = key then {} else s.backoffOf key := by
  change ((s.pool.backoff.erase other).lookup key).getD {} = _
  rw [FiniteMap.lookup_erase_eq]
  by_cases same : other = key
  · rw [if_pos same, if_pos same.symm]
    rfl
  · rw [if_neg same, if_neg (Ne.symm same)]
    rfl

@[simp] theorem backoffOf_failure (s : ServiceState) (key other : CandidateKey) (now : Nat) :
    (exec order ((DialOutcome.failure other now).action cfg) s).1.backoffOf key =
      if other = key then
        (s.backoffOf key).recordFailure now cfg.dialBackoffBaseSecs cfg.maxDialBackoffSecs
      else s.backoffOf key := by
  change ((s.pool.backoff.insert other _).lookup key).getD {} = _
  rw [FiniteMap.lookup_insert_eq]
  by_cases same : other = key
  · rw [if_pos same, if_pos same.symm, same]
    rfl
  · rw [if_neg same, if_neg (Ne.symm same)]
    rfl

theorem afterOutcomes_concat (outcomes : List DialOutcome) (outcome : DialOutcome)
    (s : ServiceState) :
    afterOutcomes order cfg (outcomes ++ [outcome]) s =
      (exec order (outcome.action cfg) (afterOutcomes order cfg outcomes s)).1 :=
  Stepping.run_concat outcomes outcome s

end Outcomes

theorem failureStreak_concat (key : CandidateKey) (outcomes : List DialOutcome)
    (outcome : DialOutcome) :
    failureStreak key (outcomes ++ [outcome]) =
      match outcome with
      | .success other => if other = key then 0 else failureStreak key outcomes
      | .failure other _ =>
          if other = key then failureStreak key outcomes + 1 else failureStreak key outcomes := by
  rw [failureStreak, List.foldl_append]
  rfl

/-! ## The row and the streak -/

theorem failures_recordFailure (backoff : DialBackoff) (now baseSecs maxSecs : Nat) :
    (backoff.recordFailure now baseSecs maxSecs).failures =
      saturatingAdd u32Max backoff.failures 1 := rfl

/-- The delay in the terms of the source: the shift clamped, the product saturated, then the cap. -/
theorem delay_eq (backoff : DialBackoff) (baseSecs maxSecs : Nat) :
    backoff.delay baseSecs maxSecs =
      Nat.min (Nat.min (baseSecs * 2 ^ Nat.min (saturatingAdd u32Max backoff.failures 1 - 1) 16)
        u64Max) (Nat.max maxSecs baseSecs) := by
  change Nat.min (0 + Nat.min (Nat.min _ u64Max) _) u64Max = _
  rw [Nat.zero_add]
  exact Nat.min_eq_left (Nat.le_trans (Nat.min_le_left _ _) (Nat.min_le_right _ _))

theorem nextRetryAt_recordFailure (backoff : DialBackoff) (now baseSecs maxSecs : Nat) :
    (backoff.recordFailure now baseSecs maxSecs).nextRetryAt =
      saturatingAdd u64Max now (backoff.delay baseSecs maxSecs) := by
  rw [delay_eq]
  rfl

/-- The count of a row is the streak of its candidate, as far as the word can hold it. -/
theorem failures_afterOutcomes (order : PeerId -> Nat) (cfg : PeerPoolConfig)
    {key : CandidateKey} {s : ServiceState} (fresh : s.pool.backoff.lookup key = none)
    (outcomes : List DialOutcome) :
    ((afterOutcomes order cfg outcomes s).backoffOf key).failures =
      Nat.min (failureStreak key outcomes) u32Max := by
  induction outcomes using List.reverseRecOn with
  | nil =>
      change ((s.pool.backoff.lookup key).getD {}).failures = Nat.min 0 u32Max
      rw [fresh]
      rfl
  | append_singleton outcomes outcome inner =>
      rw [afterOutcomes_concat, failureStreak_concat]
      cases outcome with
      | success other =>
          rw [backoffOf_success]
          dsimp only
          split
          · rfl
          · exact inner
      | failure other now =>
          rw [backoffOf_failure]
          dsimp only
          split
          · rw [failures_recordFailure, inner]
            simp only [saturatingAdd, Nat.min_eq_min]
            omega
          · exact inner

/-- The delay that a candidate's next failure adds goes by its streak. -/
theorem delay_afterOutcomes (order : PeerId -> Nat) (cfg : PeerPoolConfig)
    {key : CandidateKey} {s : ServiceState} (fresh : s.pool.backoff.lookup key = none)
    (outcomes : List DialOutcome) (baseSecs maxSecs : Nat) :
    ((afterOutcomes order cfg outcomes s).backoffOf key).delay baseSecs maxSecs =
      Nat.min (Nat.min (baseSecs * 2 ^ Nat.min (failureStreak key outcomes) 16) u64Max)
        (Nat.max maxSecs baseSecs) := by
  have shift : Nat.min (saturatingAdd u32Max (Nat.min (failureStreak key outcomes) u32Max) 1 - 1)
      16 = Nat.min (failureStreak key outcomes) 16 := by
    simp only [saturatingAdd, u32Max, Nat.min_eq_min]
    omega
  rw [delay_eq, failures_afterOutcomes order cfg fresh, shift]

/-! ## The documented delays -/

/-- The clamp of the exponent makes no difference to a failure: the streak is
short, the cap is reached by then, or the clock ends first. -/
def ClampUnseen (cfg : PeerPoolConfig) (failures now : Nat) : Prop :=
  failures ≤ 17 ∨
    Nat.max cfg.maxDialBackoffSecs cfg.dialBackoffBaseSecs ≤ cfg.dialBackoffBaseSecs * 2 ^ 16 ∨
    u64Max ≤ now + cfg.dialBackoffBaseSecs * 2 ^ 16

/-- The clamped delay and the documented one lead to the same time exactly
where the clamp is unseen. -/
theorem saturatingAdd_delay_iff {cfg : PeerPoolConfig} (positive : 1 ≤ cfg.dialBackoffBaseSecs)
    (streak now : Nat) :
    saturatingAdd u64Max now (Nat.min (Nat.min (cfg.dialBackoffBaseSecs * 2 ^ Nat.min streak 16)
        u64Max) (Nat.max cfg.maxDialBackoffSecs cfg.dialBackoffBaseSecs)) =
      saturatingAdd u64Max now
        (documentedDelay (streak + 1) cfg.dialBackoffBaseSecs cfg.maxDialBackoffSecs) ↔
      ClampUnseen cfg (streak + 1) now := by
  have capped : cfg.dialBackoffBaseSecs ≤
      Nat.max cfg.maxDialBackoffSecs cfg.dialBackoffBaseSecs := Nat.le_max_right _ _
  rw [documentedDelay, ClampUnseen, Nat.add_sub_cancel]
  generalize Nat.max cfg.maxDialBackoffSecs cfg.dialBackoffBaseSecs = cap at capped
  by_cases short : streak ≤ 16
  · rw [show Nat.min streak 16 = streak from Nat.min_eq_left short]
    generalize cfg.dialBackoffBaseSecs * 2 ^ streak = wait
    simp only [saturatingAdd, Nat.min_eq_min]
    omega
  · have longer : cfg.dialBackoffBaseSecs * 2 ^ 16 < cfg.dialBackoffBaseSecs * 2 ^ streak := by
      apply Nat.mul_lt_mul_of_pos_left
      · exact Nat.pow_lt_pow_right (by omega) (by omega)
      · exact positive
    rw [show Nat.min streak 16 = 16 from Nat.min_eq_right (by omega)]
    generalize cfg.dialBackoffBaseSecs * 2 ^ streak = wait at longer
    generalize cfg.dialBackoffBaseSecs * 2 ^ 16 = clamped at longer
    simp only [saturatingAdd, Nat.min_eq_min]
    omega

/-- The backoff of a candidate over a run, as documented: each failure waits for
the documented delay, a longer streak never for less, and a success leaves
nothing to wait for. -/
structure BacksOff (order : PeerId -> Nat) (cfg : PeerPoolConfig) (key : CandidateKey)
    (s : ServiceState) (outcomes : List DialOutcome) : Prop where
  doubles : forall before now, before ++ [.failure key now] <+: outcomes ->
    exists row, (afterOutcomes order cfg (before ++ [.failure key now]) s).pool.backoff.lookup key =
        some row ∧
      row.nextRetryAt = saturatingAdd u64Max now (documentedDelay (failureStreak key before + 1)
        cfg.dialBackoffBaseSecs cfg.maxDialBackoffSecs)
  grows : forall before more, before ++ more <+: outcomes ->
    (∀ outcome ∈ more, outcome ≠ .success key) ->
    ((afterOutcomes order cfg before s).backoffOf key).delay
        cfg.dialBackoffBaseSecs cfg.maxDialBackoffSecs ≤
      ((afterOutcomes order cfg (before ++ more) s).backoffOf key).delay
        cfg.dialBackoffBaseSecs cfg.maxDialBackoffSecs
  forgets : forall before, before ++ [.success key] <+: outcomes ->
    (afterOutcomes order cfg (before ++ [.success key]) s).pool.backoff.lookup key = none ∧
    ((afterOutcomes order cfg (before ++ [.success key]) s).backoffOf key).failures = 0 ∧
    forall now,
      ((afterOutcomes order cfg (before ++ [.success key]) s).backoffOf key).isReady now = true

/-- What a failure leaves in the row of its candidate. -/
theorem lookup_after_failure (order : PeerId -> Nat) (cfg : PeerPoolConfig) {key : CandidateKey}
    {s : ServiceState} (fresh : s.pool.backoff.lookup key = none) (before : List DialOutcome)
    (now : Nat) :
    exists row, (afterOutcomes order cfg (before ++ [.failure key now]) s).pool.backoff.lookup key =
        some row ∧
      row.nextRetryAt = saturatingAdd u64Max now
        (Nat.min (Nat.min (cfg.dialBackoffBaseSecs * 2 ^ Nat.min (failureStreak key before) 16)
          u64Max) (Nat.max cfg.maxDialBackoffSecs cfg.dialBackoffBaseSecs)) := by
  rw [afterOutcomes_concat]
  refine ⟨_, Finmap.lookup_insert _, ?_⟩
  rw [nextRetryAt_recordFailure]
  exact congrArg (saturatingAdd u64Max now) (delay_afterOutcomes order cfg fresh before _ _)

theorem failureStreak_le_length (key : CandidateKey) (outcomes : List DialOutcome) :
    failureStreak key outcomes ≤ outcomes.length := by
  induction outcomes using List.reverseRecOn with
  | nil => exact Nat.le_refl 0
  | append_singleton outcomes outcome inner =>
      rw [failureStreak_concat, List.length_append, List.length_singleton]
      cases outcome with
      | success other =>
          dsimp only
          split <;> omega
      | failure other now =>
          dsimp only
          split <;> omega

/-- Without a success between them, later outcomes leave a streak no shorter. -/
theorem failureStreak_le_append {key : CandidateKey} (before more : List DialOutcome)
    (failing : ∀ outcome ∈ more, outcome ≠ .success key) :
    failureStreak key before ≤ failureStreak key (before ++ more) := by
  induction more using List.reverseRecOn with
  | nil => rw [List.append_nil]
  | append_singleton more outcome inner =>
      have earlier := inner fun outcome made => failing outcome (List.mem_append_left _ made)
      refine Nat.le_trans earlier ?_
      rw [<- List.append_assoc, failureStreak_concat]
      cases outcome with
      | success other =>
          have differ : other ≠ key := by
            rintro rfl
            exact failing _ List.mem_concat_self rfl
          dsimp only
          rw [if_neg differ]
      | failure other now =>
          dsimp only
          split
          · exact Nat.le_succ _
          · exact Nat.le_refl _

theorem delay_le_of_streak_le (baseSecs maxSecs : Nat) {shorter longer : Nat}
    (less : shorter ≤ longer) :
    Nat.min (Nat.min (baseSecs * 2 ^ Nat.min shorter 16) u64Max) (Nat.max maxSecs baseSecs) ≤
      Nat.min (Nat.min (baseSecs * 2 ^ Nat.min longer 16) u64Max) (Nat.max maxSecs baseSecs) := by
  have shift : Nat.min shorter 16 ≤ Nat.min longer 16 :=
    Nat.le_min.mpr ⟨Nat.le_trans (Nat.min_le_left _ _) less, Nat.min_le_right _ _⟩
  have product : baseSecs * 2 ^ Nat.min shorter 16 ≤ baseSecs * 2 ^ Nat.min longer 16 :=
    Nat.mul_le_mul_left _ (Nat.pow_le_pow_right (by omega) shift)
  simp only [Nat.min_eq_min] at product ⊢
  omega

/-- A run backs off as documented exactly when the clamp of the exponent is
unseen at each of its failures. -/
theorem backsOff_iff (order : PeerId -> Nat) {cfg : PeerPoolConfig}
    (positive : 1 ≤ cfg.dialBackoffBaseSecs) (key : CandidateKey) {s : ServiceState}
    (fresh : s.pool.backoff.lookup key = none) (outcomes : List DialOutcome) :
    BacksOff order cfg key s outcomes ↔
      forall before now, before ++ [.failure key now] <+: outcomes ->
        ClampUnseen cfg (failureStreak key before + 1) now := by
  constructor
  · intro documented before now begins
    rcases documented.doubles before now begins with ⟨row, found, promised⟩
    rcases lookup_after_failure order cfg fresh before now with ⟨left, leftFound, computed⟩
    cases Option.some.inj (found.symm.trans leftFound)
    exact (saturatingAdd_delay_iff positive _ now).mp (computed.symm.trans promised)
  · intro unseen
    refine ⟨?_, ?_, ?_⟩
    · intro before now begins
      rcases lookup_after_failure order cfg fresh before now with ⟨row, found, computed⟩
      refine ⟨row, found, computed.trans ?_⟩
      exact (saturatingAdd_delay_iff positive _ now).mpr (unseen before now begins)
    · intro before more begins failing
      rw [delay_afterOutcomes order cfg fresh, delay_afterOutcomes order cfg fresh]
      exact delay_le_of_streak_le _ _ (failureStreak_le_append before more failing)
    · intro before begins
      rw [afterOutcomes_concat, backoffOf_success, if_pos rfl]
      refine ⟨Finmap.lookup_erase _ _, rfl, ?_⟩
      intro now
      exact decide_eq_true (Nat.zero_le now)

namespace BackoffExample

/-- A cap far above the base, so that the doubling should go on past the sixteenth step. -/
def patient : PeerPoolConfig := { dialBackoffBaseSecs := 1, maxDialBackoffSecs := 2 ^ 20 }

def node : ServiceState :=
  ServiceState.started
    { peerId := 0
      listenAddr := unspecifiedAddr
      maxConnections := 8
      targetOutboundCount := 4
      peerPool := some patient
      maxInflightHandshakes := 1 }
    .empty unspecifiedAddr 0

def key : CandidateKey := .addr unspecifiedAddr

def failing (count : Nat) : List DialOutcome :=
  List.replicate count (.failure key 0)

/-- Failures, a success among them. -/
def flapping : List DialOutcome := failing 4 ++ .success key :: failing 3

/-- Peers are listed by their numbers. -/
def byNumber (peerId : PeerId) : Nat := peerId.val

end BackoffExample

open BackoffExample in
/-- Few failures back off as documented, before a success and after it. -/
theorem backsOff_flapping :
    1 ≤ patient.dialBackoffBaseSecs ∧ BacksOff byNumber patient key node flapping := by
  refine ⟨by decide, ?_⟩
  refine (backsOff_iff byNumber (by decide) key rfl flapping).mpr ?_
  intro before now begins
  have length : (before ++ [DialOutcome.failure key now]).length ≤ 8 := begins.length_le
  have few := failureStreak_le_length key before
  rw [List.length_append, List.length_singleton] at length
  exact Or.inl (by omega)

open BackoffExample in
/-- The eighteenth failure waits for half of the documented time. -/
theorem not_backsOff_failing_eighteen : ¬BacksOff byNumber patient key node (failing 18) := by
  intro documented
  rcases documented.doubles (failing 17) 0 (List.prefix_refl _) with ⟨row, found, promised⟩
  have fresh : node.pool.backoff.lookup key = none := rfl
  rcases lookup_after_failure byNumber patient fresh (failing 17) 0 with ⟨left, leftFound, computed⟩
  cases Option.some.inj (found.symm.trans leftFound)
  rw [computed] at promised
  exact absurd promised (by decide +kernel)

end Service
end DigGossip
