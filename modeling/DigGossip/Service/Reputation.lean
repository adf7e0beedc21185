import Mathlib
import DigGossip.Foundations.Floats
import DigGossip.Foundations.Stepping
import DigGossip.Service.State

namespace DigGossip
namespace Service

open Foundations DigGossip.Types

/-!
# The reputation of a peer over a run

A reputation counts penalty points towards a ban and keeps a window of the last
round-trip times, from which the score is computed.  A ban is written in three
fields, of which the points and the time say the same as the flag.  The score
follows the points and the average and decides nothing here.
-/

def rttWindowSize : Nat := 10

/-- `PeerReputation` with the window of its round-trip times and its score. -/
structure RatedReputation extends PeerReputation where
  avgRttMs : Option Nat := none
  rttHistory : List Nat := []
  score : Float := 0.0

namespace RatedReputation

/-- From one for a peer without penalties down to zero at the ban threshold. -/
def trustFactor (points : Nat) : Float :=
  max (1.0 - min (asFloat points / asFloat penaltyBanThreshold) 1.0) 0.0

def recomputeScore (reputation : RatedReputation) : RatedReputation :=
  { reputation with
    score :=
      match reputation.avgRttMs with
      | none => 0.0
      | some 0 => 0.0
      | some avg => trustFactor reputation.penaltyPoints * (1.0 / asFloat avg) }

def applyPenalty (reputation : RatedReputation) (reason : PenaltyReason) (now : Nat) :
    RatedReputation × Bool :=
  let (charged, crossed) := reputation.toPeerReputation.applyPenalty reason now
  ({ reputation with toPeerReputation := charged }.recomputeScore, crossed)

/-- `refresh_ban_status`: a ban whose time is over is cleared together with the points. -/
def refreshBanStatus (reputation : RatedReputation) (now : Nat) : RatedReputation :=
  match reputation.banUntil with
  | some untilSecs =>
      if reputation.isBanned = true ∧ untilSecs ≤ now then
        { reputation with isBanned := false, banUntil := none, penaltyPoints := 0 }.recomputeScore
      else reputation
  | none => reputation

def checkUnban (reputation : RatedReputation) (now : Nat) : RatedReputation × Bool :=
  let refreshed := reputation.refreshBanStatus now
  (refreshed, reputation.isBanned && !refreshed.isBanned)

def recomputeRttAverage (reputation : RatedReputation) : RatedReputation :=
  if reputation.rttHistory.isEmpty then { reputation with avgRttMs := none }
  else
    let sum := reputation.rttHistory.sum % (u64Max + 1)
    { reputation with avgRttMs := some (sum / max reputation.rttHistory.length 1) }

/-- `record_rtt_ms`: the oldest time leaves a full window. -/
def recordRttMs (reputation : RatedReputation) (rttMs : Nat) : RatedReputation :=
  let kept :=
    if reputation.rttHistory.length = rttWindowSize then reputation.rttHistory.tail
    else reputation.rttHistory
  { reputation with rttHistory := kept ++ [rttMs] }.recomputeRttAverage.recomputeScore

/-! ## What each operation leaves alone -/

section Fields

variable (reputation : RatedReputation)

@[simp] theorem toPeerReputation_recomputeScore :
    reputation.recomputeScore.toPeerReputation = reputation.toPeerReputation := rfl

@[simp] theorem rttHistory_recomputeScore :
    reputation.recomputeScore.rttHistory = reputation.rttHistory := rfl

@[simp] theorem avgRttMs_recomputeScore :
    reputation.recomputeScore.avgRttMs = reputation.avgRttMs := rfl

@[simp] theorem toPeerReputation_applyPenalty (reason : PenaltyReason) (now : Nat) :
    (reputation.applyPenalty reason now).1.toPeerReputation =
      (reputation.toPeerReputation.applyPenalty reason now).1 := rfl

@[simp] theorem crossed_applyPenalty (reason : PenaltyReason) (now : Nat) :
    (reputation.applyPenalty reason now).2 =
      (reputation.toPeerReputation.applyPenalty reason now).2 := rfl

@[simp] theorem toPeerReputation_recomputeRttAverage :
    reputation.recomputeRttAverage.toPeerReputation = reputation.toPeerReputation := by
  unfold recomputeRttAverage
  split <;> rfl

@[simp] theorem rttHistory_recomputeRttAverage :
    reputation.recomputeRttAverage.rttHistory = reputation.rttHistory := by
  unfold recomputeRttAverage
  split <;> rfl

@[simp] theorem toPeerReputation_recordRttMs (rttMs : Nat) :
    (reputation.recordRttMs rttMs).toPeerReputation = reputation.toPeerReputation := by
  simp only [recordRttMs, toPeerReputation_recomputeScore, toPeerReputation_recomputeRttAverage]

theorem rttHistory_recordRttMs (rttMs : Nat) :
    (reputation.recordRttMs rttMs).rttHistory =
      (if reputation.rttHistory.length = rttWindowSize then reputation.rttHistory.tail
        else reputation.rttHistory) ++ [rttMs] := by
  simp only [recordRttMs, rttHistory_recomputeScore, rttHistory_recomputeRttAverage]

/-- The average is that of the window, the sum taken in its word. -/
theorem avgRttMs_recordRttMs (rttMs : Nat) :
    (reputation.recordRttMs rttMs).avgRttMs =
      some ((reputation.recordRttMs rttMs).rttHistory.sum % (u64Max + 1) /
        (reputation.recordRttMs rttMs).rttHistory.length) := by
  rw [rttHistory_recordRttMs]
  simp only [recordRttMs, avgRttMs_recomputeScore, recomputeRttAverage]
  generalize (if reputation.rttHistory.length = rttWindowSize then reputation.rttHistory.tail
    else reputation.rttHistory) = kept
  have positive : max (kept ++ [rttMs]).length 1 = (kept ++ [rttMs]).length := by
    rw [List.length_append, List.length_singleton]
    omega
  rw [if_neg (by simp), positive]

end Fields

/-- A refresh clears a ban whose time is over and does nothing else. -/
theorem refreshBanStatus_cases (reputation : RatedReputation) (now : Nat) :
    (exists untilSecs, reputation.banUntil = some untilSecs ∧ untilSecs ≤ now ∧
      reputation.isBanned = true ∧ (reputation.refreshBanStatus now).toPeerReputation =
        { reputation.toPeerReputation with
          isBanned := false
          banUntil := none
          penaltyPoints := 0 }) ∨
    ((forall untilSecs, reputation.banUntil = some untilSecs -> untilSecs ≤ now ->
        reputation.isBanned = false) ∧
      (reputation.refreshBanStatus now).toPeerReputation = reputation.toPeerReputation) := by
  unfold refreshBanStatus
  cases ends : reputation.banUntil with
  | none =>
      refine Or.inr ⟨?_, rfl⟩
      intro _ impossible
      cases impossible
  | some untilSecs =>
      dsimp only
      split
      · rename_i ended
        exact Or.inl ⟨untilSecs, rfl, ended.2, ended.1, rfl⟩
      · rename_i running
        refine Or.inr ⟨?_, rfl⟩
        rintro _ ⟨⟩ ended
        exact Bool.eq_false_iff.mpr fun banned => running ⟨banned, ended⟩

@[simp] theorem rttHistory_refreshBanStatus (reputation : RatedReputation) (now : Nat) :
    (reputation.refreshBanStatus now).rttHistory = reputation.rttHistory := by
  unfold refreshBanStatus
  split
  · split <;> rfl
  · rfl

@[simp] theorem avgRttMs_refreshBanStatus (reputation : RatedReputation) (now : Nat) :
    (reputation.refreshBanStatus now).avgRttMs = reputation.avgRttMs := by
  unfold refreshBanStatus
  split
  · split <;> rfl
  · rfl

end RatedReputation

/-- The three fields of a ban say the same. -/
structure PeerReputation.Coherent (reputation : PeerReputation) : Prop where
  end_iff : reputation.isBanned = true ↔ reputation.banUntil.isSome = true
  points_iff : reputation.isBanned = true ↔ penaltyBanThreshold ≤ reputation.penaltyPoints

namespace PeerReputation

/-- A penalty either starts a ban or leaves the ban and its end as they are. -/
theorem applyPenalty_cases (reputation : PeerReputation) (reason : PenaltyReason) (now : Nat) :
    (reputation.isBanned = false ∧ (reputation.applyPenalty reason now).2 = true ∧
      penaltyBanThreshold ≤ (reputation.applyPenalty reason now).1.penaltyPoints ∧
      (reputation.applyPenalty reason now).1.isBanned = true ∧
      (reputation.applyPenalty reason now).1.banUntil =
        some (saturatingAdd u64Max now banDurationSecs)) ∨
    ((reputation.applyPenalty reason now).2 = false ∧
      (reputation.isBanned = true ∨
        (reputation.applyPenalty reason now).1.penaltyPoints < penaltyBanThreshold) ∧
      (reputation.applyPenalty reason now).1.isBanned = reputation.isBanned ∧
      (reputation.applyPenalty reason now).1.banUntil = reputation.banUntil) := by
  simp only [applyPenalty]
  split
  · rename_i crosses
    exact Or.inl ⟨crosses.2, rfl, crosses.1, rfl, rfl⟩
  · rename_i stays
    refine Or.inr ⟨rfl, ?_, rfl, rfl⟩
    cases banned : reputation.isBanned with
    | true => exact Or.inl rfl
    | false => exact Or.inr (Nat.lt_of_not_le fun reached => stays ⟨reached, banned⟩)

/-- Points only go up, and never above what their word holds. -/
theorem le_penaltyPoints_applyPenalty {reputation : PeerReputation}
    (reached : penaltyBanThreshold ≤ reputation.penaltyPoints) (reason : PenaltyReason)
    (now : Nat) : penaltyBanThreshold ≤ (reputation.applyPenalty reason now).1.penaltyPoints := by
  rw [penaltyPoints_applyPenalty]
  exact Nat.le_min.mpr ⟨Nat.le_trans reached (Nat.le_add_right _ _), by decide⟩

theorem Coherent.applyPenalty {reputation : PeerReputation} (coherent : reputation.Coherent)
    (reason : PenaltyReason) (now : Nat) : (reputation.applyPenalty reason now).1.Coherent := by
  rcases reputation.applyPenalty_cases reason now with
    ⟨_, _, reached, banned, ends⟩ | ⟨_, cause, banned, ends⟩
  · refine ⟨?_, ?_⟩
    · rw [banned, ends]
      exact Iff.intro (fun _ => rfl) fun _ => rfl
    · rw [banned]
      exact Iff.intro (fun _ => reached) fun _ => rfl
  · refine ⟨?_, ?_⟩
    · rw [banned, ends]
      exact coherent.end_iff
    · rw [banned]
      constructor
      · intro wasBanned
        exact le_penaltyPoints_applyPenalty (coherent.points_iff.mp wasBanned) reason now
      · intro reached
        rcases cause with wasBanned | below
        · exact wasBanned
        · omega

end PeerReputation

theorem RatedReputation.coherent_refreshBanStatus {reputation : RatedReputation}
    (coherent : reputation.Coherent) (now : Nat) : (reputation.refreshBanStatus now).Coherent := by
  rcases reputation.refreshBanStatus_cases now with ⟨_, _, _, _, cleared⟩ | ⟨_, same⟩
  · rw [cleared]
    refine ⟨?_, ?_⟩
    · exact Iff.intro (fun impossible => nomatch impossible) fun impossible => nomatch impossible
    · refine Iff.intro (fun impossible => nomatch impossible) fun reached => ?_
      have none : penaltyBanThreshold ≤ 0 := reached
      exact absurd none (by decide)
  · rw [same]
    exact coherent

/-! ## The window -/

/-- The last entries of a list, at most as many as the window holds. -/
def lastOf (size : Nat) (samples : List Nat) : List Nat :=
  samples.drop (samples.length - size)

theorem length_lastOf (size : Nat) (samples : List Nat) :
    (lastOf size samples).length = min samples.length size := by
  rw [lastOf, List.length_drop]
  omega

/-- A full window loses its oldest entry to the new one. -/
theorem lastOf_concat {size : Nat} (positive : 0 < size) (samples : List Nat) (sample : Nat) :
    lastOf size (samples ++ [sample]) =
      (if (lastOf size samples).length = size then (lastOf size samples).tail
        else lastOf size samples) ++ [sample] := by
  rw [length_lastOf]
  unfold lastOf
  rw [List.length_append, List.length_singleton]
  by_cases full : size ≤ samples.length
  · rw [if_pos (by omega), List.tail_drop,
      show samples.length + 1 - size = samples.length - size + 1 by omega,
      List.drop_append_of_le_length (by omega)]
  · rw [if_neg (by omega), show samples.length + 1 - size = 0 by omega,
      show samples.length - size = 0 by omega, List.drop_zero, List.drop_zero]

/-- Ten samples below 2^60 add up within the word. -/
theorem sum_lastOf_lt {samples : List Nat} (small : ∀ sample ∈ samples, sample < 2 ^ 60) :
    (lastOf rttWindowSize samples).sum < u64Max + 1 := by
  have bounded : (lastOf rttWindowSize samples).sum ≤
      (lastOf rttWindowSize samples).length * 2 ^ 60 := by
    refine List.sum_le_card_nsmul _ _ ?_
    intro sample kept
    exact Nat.le_of_lt (small sample (List.mem_of_mem_drop kept))
  have short : (lastOf rttWindowSize samples).length ≤ 10 := by
    rw [length_lastOf]
    exact Nat.min_le_right _ _
  calc (lastOf rttWindowSize samples).sum
      ≤ (lastOf rttWindowSize samples).length * 2 ^ 60 := bounded
    _ ≤ 10 * 2 ^ 60 := Nat.mul_le_mul_right _ short
    _ < u64Max + 1 := by decide

/-! ## Runs -/

inductive ReputationCall where
  | applyPenalty (reason : PenaltyReason) (now : Nat)
  | refreshBanStatus (now : Nat)
  | checkUnban (now : Nat)
  | recordRttMs (rttMs : Nat)

namespace ReputationCall

def apply (reputation : RatedReputation) : ReputationCall -> RatedReputation
  | applyPenalty reason now => (reputation.applyPenalty reason now).1
  | refreshBanStatus now => reputation.refreshBanStatus now
  | checkUnban now => (reputation.checkUnban now).1
  | recordRttMs rttMs => reputation.recordRttMs rttMs

/-- The call refreshes the ban at the time. -/
def refreshesAt : ReputationCall -> Option Nat
  | applyPenalty _ _ => none
  | refreshBanStatus now => some now
  | checkUnban now => some now
  | recordRttMs _ => none

def sample : ReputationCall -> Option Nat
  | applyPenalty _ _ => none
  | refreshBanStatus _ => none
  | checkUnban _ => none
  | recordRttMs rttMs => some rttMs

end ReputationCall

/-- The reputation after the calls made on a default one. -/
def afterReputationCalls (calls : List ReputationCall) : RatedReputation :=
  Stepping.run ReputationCall.apply calls {}

/-- A call leaves a ban as it is, unless it is a refresh after its end. -/
theorem apply_of_banned {reputation : RatedReputation} (banned : reputation.isBanned = true)
    (call : ReputationCall) :
    ((call.apply reputation).isBanned = true ∧
      (call.apply reputation).banUntil = reputation.banUntil) ∨
    (exists now untilSecs, call.refreshesAt = some now ∧ reputation.banUntil = some untilSecs ∧
      untilSecs ≤ now ∧ (call.apply reputation).isBanned = false ∧
      (call.apply reputation).penaltyPoints = 0) := by
  have refreshed : forall now,
      ((reputation.refreshBanStatus now).isBanned = true ∧
        (reputation.refreshBanStatus now).banUntil = reputation.banUntil) ∨
      (exists untilSecs, reputation.banUntil = some untilSecs ∧ untilSecs ≤ now ∧
        (reputation.refreshBanStatus now).isBanned = false ∧
        (reputation.refreshBanStatus now).penaltyPoints = 0) := by
    intro now
    rcases reputation.refreshBanStatus_cases now with ⟨untilSecs, ends, ended, _, cleared⟩ | ⟨_, same⟩
    · refine Or.inr ⟨untilSecs, ends, ended, ?_⟩
      rw [cleared]
      exact ⟨rfl, rfl⟩
    · rw [same]
      exact Or.inl ⟨banned, rfl⟩
  cases call with
  | applyPenalty reason now =>
      rcases reputation.toPeerReputation.applyPenalty_cases reason now with
        ⟨free, _⟩ | ⟨_, _, stays, ends⟩
      · rw [free] at banned
        cases banned
      · exact Or.inl ⟨stays.trans banned, ends⟩
  | refreshBanStatus now =>
      rcases refreshed now with kept | ⟨untilSecs, ends, ended, cleared⟩
      · exact Or.inl kept
      · exact Or.inr ⟨now, untilSecs, rfl, ends, ended, cleared⟩
  | checkUnban now =>
      rcases refreshed now with kept | ⟨untilSecs, ends, ended, cleared⟩
      · exact Or.inl kept
      · exact Or.inr ⟨now, untilSecs, rfl, ends, ended, cleared⟩
  | recordRttMs rttMs =>
      refine Or.inl ?_
      change (reputation.recordRttMs rttMs).isBanned = true ∧ _ = _
      rw [ReputationCall.apply, RatedReputation.toPeerReputation_recordRttMs]
      exact ⟨banned, rfl⟩

theorem coherent_apply {reputation : RatedReputation} (coherent : reputation.Coherent)
    (call : ReputationCall) : (call.apply reputation).Coherent := by
  cases call with
  | applyPenalty reason now => exact coherent.applyPenalty reason now
  | refreshBanStatus now => exact RatedReputation.coherent_refreshBanStatus coherent now
  | checkUnban now => exact RatedReputation.coherent_refreshBanStatus coherent now
  | recordRttMs rttMs =>
      rw [ReputationCall.apply, RatedReputation.toPeerReputation_recordRttMs]
      exact coherent

/-- The reputation in terms of the round-trip times recorded so far. -/
structure Sampled (samples : List Nat) (reputation : RatedReputation) : Prop where
  window : reputation.rttHistory = lastOf rttWindowSize samples
  average : reputation.avgRttMs =
    if samples = [] then none
    else some ((lastOf rttWindowSize samples).sum / (lastOf rttWindowSize samples).length)

theorem Sampled.apply {samples : List Nat} {reputation : RatedReputation}
    (sampled : Sampled samples reputation) (call : ReputationCall)
    (small : ∀ sample ∈ samples ++ call.sample.toList, sample < 2 ^ 60) :
    Sampled (samples ++ call.sample.toList) (call.apply reputation) := by
  cases call with
  | applyPenalty reason now =>
      rw [ReputationCall.sample, Option.toList_none, List.append_nil]
      exact ⟨sampled.window, sampled.average⟩
  | refreshBanStatus now =>
      rw [ReputationCall.sample, Option.toList_none, List.append_nil]
      refine ⟨?_, ?_⟩
      · exact (RatedReputation.rttHistory_refreshBanStatus reputation now).trans sampled.window
      · exact (RatedReputation.avgRttMs_refreshBanStatus reputation now).trans sampled.average
  | checkUnban now =>
      rw [ReputationCall.sample, Option.toList_none, List.append_nil]
      refine ⟨?_, ?_⟩
      · exact (RatedReputation.rttHistory_refreshBanStatus reputation now).trans sampled.window
      · exact (RatedReputation.avgRttMs_refreshBanStatus reputation now).trans sampled.average
  | recordRttMs rttMs =>
      rw [ReputationCall.sample, Option.toList_some] at small ⊢
      have window : (reputation.recordRttMs rttMs).rttHistory =
          lastOf rttWindowSize (samples ++ [rttMs]) := by
        rw [RatedReputation.rttHistory_recordRttMs, sampled.window,
          lastOf_concat (by decide : 0 < rttWindowSize)]
      refine ⟨window, ?_⟩
      rw [if_neg (by simp), ReputationCall.apply, RatedReputation.avgRttMs_recordRttMs, window,
        Nat.mod_eq_of_lt (sum_lastOf_lt small)]

/-- The ban and the window of a reputation after a run. -/
structure KeepsBanCycle (calls : List ReputationCall) (reputation : RatedReputation) : Prop where
  hasEnd : reputation.isBanned = true ↔ reputation.banUntil.isSome = true
  hasPoints : reputation.isBanned = true ↔ penaltyBanThreshold ≤ reputation.penaltyPoints
  starts : forall reason now, (reputation.applyPenalty reason now).2 = true ↔
    reputation.isBanned = false ∧ (reputation.applyPenalty reason now).1.isBanned = true
  adds : forall reason now, (reputation.applyPenalty reason now).1.penaltyPoints =
    saturatingAdd u32Max reputation.penaltyPoints reason.penaltyPoints
  bans : forall reason now, reputation.isBanned = false ->
    penaltyBanThreshold ≤
      saturatingAdd u32Max reputation.penaltyPoints reason.penaltyPoints ->
    (reputation.applyPenalty reason now).2 = true ∧
      (reputation.applyPenalty reason now).1.banUntil =
        some (saturatingAdd u64Max now banDurationSecs)
  unmoved : forall reason now untilSecs, reputation.banUntil = some untilSecs ->
    (reputation.applyPenalty reason now).1.banUntil = some untilSecs
  ends : forall call : ReputationCall, reputation.isBanned = true ->
    (call.apply reputation).isBanned = false ->
    exists now untilSecs, call.refreshesAt = some now ∧ reputation.banUntil = some untilSecs ∧
      untilSecs ≤ now ∧ (call.apply reputation).penaltyPoints = 0
  ended : forall (call : ReputationCall) now untilSecs, call.refreshesAt = some now ->
    reputation.banUntil = some untilSecs -> untilSecs ≤ now ->
    (call.apply reputation).isBanned = false
  window : reputation.rttHistory = lastOf rttWindowSize (calls.filterMap ReputationCall.sample)
  average : reputation.avgRttMs =
    if calls.filterMap ReputationCall.sample = [] then none
    else some ((lastOf rttWindowSize (calls.filterMap ReputationCall.sample)).sum /
      (lastOf rttWindowSize (calls.filterMap ReputationCall.sample)).length)

theorem coherent_afterReputationCalls (calls : List ReputationCall) :
    (afterReputationCalls calls).Coherent := by
  have start : ({} : RatedReputation).Coherent := by
    refine ⟨?_, ?_⟩
    · exact Iff.intro (fun impossible => nomatch impossible) fun impossible => nomatch impossible
    · exact Iff.intro (fun impossible => nomatch impossible) fun reached =>
        absurd (show penaltyBanThreshold ≤ 0 from reached) (by decide)
  induction calls using List.reverseRecOn with
  | nil => exact start
  | append_singleton calls call inner =>
      rw [afterReputationCalls, Stepping.run_concat]
      exact coherent_apply inner call

theorem sampled_afterReputationCalls {calls : List ReputationCall}
    (small : ∀ sample ∈ calls.filterMap ReputationCall.sample, sample < 2 ^ 60) :
    Sampled (calls.filterMap ReputationCall.sample) (afterReputationCalls calls) := by
  induction calls using List.reverseRecOn with
  | nil => exact ⟨rfl, rfl⟩
  | append_singleton calls call inner =>
      have split : (calls ++ [call]).filterMap ReputationCall.sample =
          calls.filterMap ReputationCall.sample ++ call.sample.toList := by
        rw [List.filterMap_append]
        cases sampled : call.sample with
        | none => simp [sampled]
        | some sample => simp [sampled]
      rw [split] at small ⊢
      rw [afterReputationCalls, Stepping.run_concat]
      exact (inner fun sample recorded => small sample (List.mem_append_left _ recorded)).apply
        call small

/-- A refresh after the end of a ban ends it. -/
theorem isBanned_apply_of_ended {reputation : RatedReputation} {call : ReputationCall}
    {now untilSecs : Nat} (refreshes : call.refreshesAt = some now)
    (ends : reputation.banUntil = some untilSecs) (ended : untilSecs ≤ now) :
    (call.apply reputation).isBanned = false := by
  have refreshed : (reputation.refreshBanStatus now).isBanned = false := by
    rcases reputation.refreshBanStatus_cases now with ⟨_, _, _, _, cleared⟩ | ⟨free, same⟩
    · rw [cleared]
    · rw [same]
      exact free untilSecs ends ended
  cases call with
  | applyPenalty reason time => cases refreshes
  | refreshBanStatus time =>
      cases refreshes
      exact refreshed
  | checkUnban time =>
      cases refreshes
      exact refreshed
  | recordRttMs rttMs => cases refreshes

/-- Every run keeps the ban cycle and the window of the last samples. -/
theorem keepsBanCycle_afterReputationCalls {calls : List ReputationCall}
    (small : ∀ sample ∈ calls.filterMap ReputationCall.sample, sample < 2 ^ 60) :
    KeepsBanCycle calls (afterReputationCalls calls) := by
  have coherent := coherent_afterReputationCalls calls
  have sampled := sampled_afterReputationCalls small
  refine ⟨coherent.end_iff, coherent.points_iff, ?_, ?_, ?_, ?_, ?_, ?_, sampled.window,
    sampled.average⟩
  · intro reason now
    rw [RatedReputation.crossed_applyPenalty, RatedReputation.toPeerReputation_applyPenalty]
    rcases (afterReputationCalls calls).applyPenalty_cases reason now with
      ⟨free, crossed, _, banned, _⟩ | ⟨crossed, _, stays, _⟩
    · exact Iff.intro (fun _ => ⟨free, banned⟩) fun _ => crossed
    · rw [crossed, stays]
      constructor
      · intro impossible
        cases impossible
      · rintro ⟨free, banned⟩
        rw [free] at banned
        cases banned
  · intro reason now
    rw [RatedReputation.toPeerReputation_applyPenalty]
    exact (afterReputationCalls calls).penaltyPoints_applyPenalty reason now
  · intro reason now free reaches
    rw [RatedReputation.crossed_applyPenalty, RatedReputation.toPeerReputation_applyPenalty]
    rcases (afterReputationCalls calls).applyPenalty_cases reason now with
      ⟨_, crossed, _, _, ends⟩ | ⟨_, banned | below, _⟩
    · exact ⟨crossed, ends⟩
    · rw [free] at banned
      cases banned
    · rw [PeerReputation.penaltyPoints_applyPenalty] at below
      exact absurd reaches (Nat.not_le_of_lt below)
  · intro reason now untilSecs ends
    have banned := coherent.end_iff.mpr (Option.isSome_of_mem ends)
    rcases apply_of_banned banned (.applyPenalty reason now) with
      ⟨_, kept⟩ | ⟨_, _, impossible, _⟩
    · exact kept.trans ends
    · cases impossible
  · intro call banned free
    rcases apply_of_banned banned call with ⟨kept, _⟩ | ⟨now, untilSecs, time, ends, ended, _, zero⟩
    · rw [kept] at free
      cases free
    · exact ⟨now, untilSecs, time, ends, ended, zero⟩
  · intro call now untilSecs refreshes ends ended
    exact isBanned_apply_of_ended refreshes ends ended

/-- A ban that starts after a first sample. -/
theorem keepsBanCycle_banned :
    KeepsBanCycle [.recordRttMs 30, .applyPenalty .invalidBlock 5]
      (afterReputationCalls [.recordRttMs 30, .applyPenalty .invalidBlock 5]) :=
  keepsBanCycle_afterReputationCalls (by decide)

end Service
end DigGossip
