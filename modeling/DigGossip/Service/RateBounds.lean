import Mathlib.Algebra.BigOperators.Group.List.Basic
import Mathlib.Algebra.Order.Ring.Rat
import DigGossip.Service.DigLimiter

namespace DigGossip
namespace Service

open Foundations DigGossip.Types

/-!
# What the limiter of the table admits

Over the rationals the two tallies of an opcode are the number and the total
size of the frames charged to it since the window was entered.  A limiter of
incoming frames charges all of them and one of outgoing frames those it
admitted, and each admitted frame is admitted within the bounds of its row.
-/

def totalSize (frames : List Checked) : ℚ :=
  (frames.map (Checked.size ℚ)).sum

namespace RateLimitIn

/-- A row without a bound on the total size bounds it by its frequency and its size. -/
def totalAllowed (row : RateLimitIn ℚ) : ℚ :=
  row.maxTotalSize.getD (row.frequency * row.maxSize)

/-- The verdict of a row on a frame, after the frames that were charged. -/
def admits (row : RateLimitIn ℚ) (limitFactor : ℚ) (charged : List Checked) (frame : Checked) :
    Bool :=
  decide ((charged.length : ℚ) + 1 ≤ row.frequency * limitFactor) &&
    decide (frame.size ℚ ≤ row.maxSize) &&
    decide (totalSize charged + frame.size ℚ ≤ row.totalAllowed * limitFactor)

end RateLimitIn

namespace DigRateLimiterIn

variable {N : Type} [NatCast N] [Add N] [Mul N] [LE N] [DecidableLE N]

/-- The frames of a run that the limiter admits. -/
def admitted (limiter : DigRateLimiterIn N) (frames : List Checked) : List Checked :=
  keepBy (fun past frame => ((limiter.afterChecks past).check frame).1) [] frames

end DigRateLimiterIn

/-! ## The tallies of one opcode -/

theorem charged_exact (frames : List Checked) :
    DigRateLimiterIn.charged frames = ((frames.length : ℚ), totalSize frames) := by
  induction frames using List.reverseRecOn with
  | nil => rfl
  | append_singleton frames frame inner =>
      rw [DigRateLimiterIn.charged_concat, inner]
      unfold DigRateLimiterIn.charge totalSize
      rw [List.map_append, List.sum_append, List.map_singleton, List.sum_singleton,
        List.length_append, List.length_singleton, Nat.cast_add]

theorem totalSize_concat (frames : List Checked) (frame : Checked) :
    totalSize (frames ++ [frame]) = totalSize frames + frame.size ℚ := by
  unfold totalSize
  rw [List.map_append, List.sum_append, List.map_singleton, List.sum_singleton]

theorem size_nonneg (frame : Checked) : 0 ≤ frame.size ℚ := Nat.cast_nonneg _

section Row

variable {limiter : DigRateLimiterIn ℚ} {opcode : UInt8} {row : RateLimitIn ℚ}

/-- The verdict of the limiter is that of the row on the frames it has charged. -/
theorem weigh_charged {frame : Checked} (found : limiter.limits.lookup frame.wireType = some row)
    (frames : List Checked) :
    (limiter.weigh (DigRateLimiterIn.charged frames) frame).1 =
      row.admits limiter.limitFactor frames frame := by
  rw [DigRateLimiterIn.weigh_row found, charged_exact]
  unfold DigRateLimiterIn.charge DigRateLimiterIn.passes RateLimitIn.admits
    RateLimitIn.totalAllowed
  rw [Nat.cast_one]

/-- A tally is no less than what was admitted on it, which is within the bounds of the row. -/
structure Metered (limiter : DigRateLimiterIn ℚ) (row : RateLimitIn ℚ)
    (frames : List Checked) : Prop where
  counted : ((limiter.meter.passing frames).length : ℚ) ≤ (limiter.meter.tallyOf frames).1
  summed : totalSize (limiter.meter.passing frames) ≤ (limiter.meter.tallyOf frames).2
  count : ((limiter.meter.passing frames).length : ℚ) ≤ max 0 (row.frequency * limiter.limitFactor)
  size : ∀ frame ∈ limiter.meter.passing frames, frame.size ℚ ≤ row.maxSize
  total : totalSize (limiter.meter.passing frames) ≤ max 0 (row.totalAllowed * limiter.limitFactor)

/-- An admitted frame is charged, and its charge was compared with the bounds. -/
theorem Metered.admit {frames : List Checked} {frame : Checked}
    (earlier : Metered limiter row frames)
    (weighed : limiter.meter.weigh (limiter.meter.tallyOf frames) frame =
      (true, DigRateLimiterIn.charge (limiter.meter.tallyOf frames) frame))
    (passed : limiter.passes row
      (DigRateLimiterIn.charge (limiter.meter.tallyOf frames) frame).1 (frame.size ℚ)
      (DigRateLimiterIn.charge (limiter.meter.tallyOf frames) frame).2 = true) :
    Metered limiter row (frames ++ [frame]) := by
  have moved : limiter.meter.tallyOf (frames ++ [frame]) =
      ((limiter.meter.tallyOf frames).1 + 1, (limiter.meter.tallyOf frames).2 + frame.size ℚ) := by
    rw [Meter.tallyOf_concat, weighed]
    exact Prod.ext (congrArg ((limiter.meter.tallyOf frames).1 + ·) Nat.cast_one) rfl
  have kept : limiter.meter.passing (frames ++ [frame]) =
      limiter.meter.passing frames ++ [frame] := by
    rw [Meter.passing_concat, weighed, if_pos rfl]
  simp only [DigRateLimiterIn.passes, Bool.and_eq_true, decide_eq_true_eq,
    DigRateLimiterIn.charge, Nat.cast_one] at passed
  rcases passed with ⟨⟨count, size⟩, total⟩
  have counted : ((limiter.meter.passing (frames ++ [frame])).length : ℚ) ≤
      (limiter.meter.tallyOf frames).1 + 1 := by
    rw [kept, List.length_append, List.length_singleton, Nat.cast_add, Nat.cast_one]
    exact add_le_add_left earlier.counted 1
  have summed : totalSize (limiter.meter.passing (frames ++ [frame])) ≤
      (limiter.meter.tallyOf frames).2 + frame.size ℚ := by
    rw [kept, totalSize_concat]
    exact add_le_add_left earlier.summed _
  refine ⟨?_, ?_, ?_, ?_, ?_⟩
  · rw [moved]
    exact counted
  · rw [moved]
    exact summed
  · exact (counted.trans count).trans (le_max_right _ _)
  · intro other member
    rw [kept, List.mem_append, List.mem_singleton] at member
    rcases member with before | rfl
    · exact earlier.size other before
    · exact size
  · exact (summed.trans total).trans (le_max_right _ _)

/-- A refused frame is charged or not, and the tally gets no smaller. -/
theorem Metered.refuse {frames : List Checked} {frame : Checked} {charges : Bool}
    (earlier : Metered limiter row frames)
    (weighed : limiter.meter.weigh (limiter.meter.tallyOf frames) frame =
      (false, if charges then DigRateLimiterIn.charge (limiter.meter.tallyOf frames) frame
        else limiter.meter.tallyOf frames)) :
    Metered limiter row (frames ++ [frame]) := by
  have kept : limiter.meter.passing (frames ++ [frame]) = limiter.meter.passing frames := by
    rw [Meter.passing_concat, weighed, if_neg Bool.false_ne_true, List.append_nil]
  have grown : (limiter.meter.tallyOf frames).1 ≤ (limiter.meter.tallyOf (frames ++ [frame])).1 ∧
      (limiter.meter.tallyOf frames).2 ≤ (limiter.meter.tallyOf (frames ++ [frame])).2 := by
    rw [Meter.tallyOf_concat, weighed]
    cases charges with
    | true =>
        exact ⟨le_add_of_nonneg_right (Nat.cast_nonneg 1), le_add_of_nonneg_right (size_nonneg frame)⟩
    | false => exact ⟨le_refl _, le_refl _⟩
  refine ⟨?_, ?_, ?_, ?_, ?_⟩
  · rw [kept]
    exact earlier.counted.trans grown.1
  · rw [kept]
    exact earlier.summed.trans grown.2
  · rw [kept]
    exact earlier.count
  · rw [kept]
    exact earlier.size
  · rw [kept]
    exact earlier.total

theorem metered (found : limiter.limits.lookup opcode = some row) {frames : List Checked}
    (same : ∀ frame ∈ frames, frame.wireType = opcode) : Metered limiter row frames := by
  induction frames using List.reverseRecOn with
  | nil =>
      refine ⟨?_, le_refl _, ?_, ?_, le_max_left _ _⟩
      · exact le_refl _
      · exact le_max_left _ _
      · intro frame member
        cases member
  | append_singleton frames frame inner =>
      have ofOpcode : frame.wireType = opcode := same frame (by simp)
      have earlier := inner fun other member => same other (List.mem_append_left _ member)
      have weighed := @DigRateLimiterIn.weigh_row ℚ _ _ _ _ _ limiter frame row (ofOpcode ▸ found)
        (limiter.meter.tallyOf frames)
      cases passed : limiter.passes row
          (DigRateLimiterIn.charge (limiter.meter.tallyOf frames) frame).1 (frame.size ℚ)
          (DigRateLimiterIn.charge (limiter.meter.tallyOf frames) frame).2 with
      | true =>
          rw [passed, Bool.or_true, if_pos rfl] at weighed
          exact earlier.admit weighed passed
      | false =>
          rw [passed, Bool.or_false] at weighed
          exact earlier.refuse weighed

end Row

/-! ## Runs of checks -/

section Runs

variable {limiter : DigRateLimiterIn ℚ}

theorem ordered_of_clock {frames : List Checked}
    (clock : frames.Pairwise fun earlier later => earlier.now ≤ later.now) :
    limiter.meter.Ordered frames :=
  clock.imp fun before => Nat.div_le_div_right before

theorem admitted_eq (frames : List Checked) :
    limiter.admitted frames = limiter.meter.admitted limiter.tallies frames := by
  unfold DigRateLimiterIn.admitted Meter.admitted
  congr 1
  funext past frame
  exact DigRateLimiterIn.check_afterChecks limiter past frame

/-- What is admitted of an opcode in a window goes by its frames in the window alone. -/
theorem inWindow_admitted (empty : limiter.tallies = limiter.meter.fresh limiter.period)
    {frames : List Checked}
    (clock : frames.Pairwise fun earlier later => earlier.now ≤ later.now) (window : Nat)
    (opcode : UInt8) :
    inWindow limiter.resetSeconds window opcode (limiter.admitted frames) =
      limiter.meter.passing (inWindow limiter.resetSeconds window opcode frames) := by
  rw [admitted_eq, empty]
  exact Meter.inWindow_admitted limiter.period (ordered_of_clock clock) window opcode

/-- The verdict on a frame goes by the frames of its opcode in its window. -/
theorem check_clocked (empty : limiter.tallies = limiter.meter.fresh limiter.period)
    {frames : List Checked} {frame : Checked}
    (clock : frames.Pairwise fun earlier later => earlier.now ≤ later.now)
    (later : ∀ earlier ∈ frames, earlier.now ≤ frame.now) :
    ((limiter.afterChecks frames).check frame).1 =
      (limiter.weigh (limiter.meter.tallyOf (inWindow limiter.resetSeconds
        (currentPeriod limiter.resetSeconds frame.now) frame.wireType frames)) frame).1 := by
  have past : ∀ earlier ∈ frames, limiter.meter.window earlier ≤ limiter.meter.window frame :=
    fun earlier member => Nat.div_le_div_right (later earlier member)
  rw [DigRateLimiterIn.check_afterChecks, empty, Meter.check_after,
    Meter.heard_of_ordered (ordered_of_clock clock) past]
  rfl

/-- In a window that no check has been in, a limiter is as if it had just been built. -/
theorem syncPeriod_afterChecks (incoming : Bool) (resetSeconds : Nat) (limitFactor : ℚ)
    (limits : FiniteMap UInt8 (RateLimitIn ℚ)) (start : Nat) {frames : List Checked} {now : Nat}
    (before : ∀ earlier ∈ frames,
      currentPeriod resetSeconds earlier.now < currentPeriod resetSeconds now) :
    ((DigRateLimiterIn.new incoming resetSeconds limitFactor limits start).afterChecks
      frames).syncPeriod now = .new incoming resetSeconds limitFactor limits now := by
  induction frames using List.reverseRecOn with
  | nil =>
      change (DigRateLimiterIn.new incoming resetSeconds limitFactor limits start).syncPeriod now = _
      unfold DigRateLimiterIn.syncPeriod DigRateLimiterIn.new
      dsimp only
      split
      · rfl
      · rename_i same
        rw [not_not.mp same]
  | append_singleton frames frame =>
      have last := before frame (by simp)
      rcases DigRateLimiterIn.afterChecks_fields
        (.new incoming resetSeconds limitFactor limits start) frames with
        ⟨period, counts, sizes, reached⟩
      rw [DigRateLimiterIn.afterChecks_concat, reached]
      rcases DigRateLimiterIn.check_fields { DigRateLimiterIn.new incoming resetSeconds limitFactor
        limits start with period := period, counts := counts, sizes := sizes } frame with
        ⟨newCounts, newSizes, after⟩
      rw [after]
      exact if_pos (Nat.ne_of_lt last)

end Runs

/-- What a limiter keeps to in a run of checks.  A bound below zero admits
nothing, so it is read as zero. -/
structure KeepsRateLimits (limiter : DigRateLimiterIn ℚ) (frames : List Checked) : Prop where
  count : forall window opcode row, limiter.limits.lookup opcode = some row ->
    ((inWindow limiter.resetSeconds window opcode (limiter.admitted frames)).length : ℚ) ≤
      max 0 (row.frequency * limiter.limitFactor)
  size : ∀ frame ∈ limiter.admitted frames, forall row,
    limiter.limits.lookup frame.wireType = some row -> frame.size ℚ ≤ row.maxSize
  total : forall window opcode row, limiter.limits.lookup opcode = some row ->
    totalSize (inWindow limiter.resetSeconds window opcode (limiter.admitted frames)) ≤
      max 0 (row.totalAllowed * limiter.limitFactor)
  unlisted : forall frame, limiter.limits.lookup frame.wireType = none ->
    ((limiter.afterChecks frames).check frame).1 = true
  isolated : forall frame, (∀ earlier ∈ frames, earlier.now ≤ frame.now) ->
    ((limiter.afterChecks frames).check frame).1 =
      ((limiter.afterChecks
        (frames.filter fun other => decide (other.wireType = frame.wireType))).check frame).1
  inbound : limiter.incoming = true -> forall frame row,
    (∀ earlier ∈ frames, earlier.now ≤ frame.now) ->
      limiter.limits.lookup frame.wireType = some row ->
        ((limiter.afterChecks frames).check frame).1 =
          row.admits limiter.limitFactor (inWindow limiter.resetSeconds
            (currentPeriod limiter.resetSeconds frame.now) frame.wireType frames) frame
  outbound : limiter.incoming = false -> forall frame row,
    (∀ earlier ∈ frames, earlier.now ≤ frame.now) ->
      limiter.limits.lookup frame.wireType = some row ->
        ((limiter.afterChecks frames).check frame).1 =
          row.admits limiter.limitFactor (inWindow limiter.resetSeconds
            (currentPeriod limiter.resetSeconds frame.now) frame.wireType
              (limiter.admitted frames)) frame
  renewed : forall frame, (∀ earlier ∈ frames, currentPeriod limiter.resetSeconds earlier.now <
      currentPeriod limiter.resetSeconds frame.now) ->
    (limiter.afterChecks frames).check frame =
      (DigRateLimiterIn.new limiter.incoming limiter.resetSeconds limiter.limitFactor
        limiter.limits frame.now).check frame

/-- A limiter keeps to its table in every run whose clock does not go back. -/
theorem keepsRateLimits (incoming : Bool) (resetSeconds : Nat) (limitFactor : ℚ)
    (limits : FiniteMap UInt8 (RateLimitIn ℚ)) (start : Nat) (frames : List Checked)
    (clock : frames.Pairwise fun earlier later => earlier.now ≤ later.now) :
    KeepsRateLimits (.new incoming resetSeconds limitFactor limits start) frames := by
  have empty : (DigRateLimiterIn.new incoming resetSeconds limitFactor limits start).tallies =
      (DigRateLimiterIn.new incoming resetSeconds limitFactor limits start).meter.fresh
        (currentPeriod resetSeconds start) := rfl
  constructor
  case count =>
    intro window opcode row found
    rw [inWindow_admitted empty clock]
    exact (metered found wireType_of_inWindow).count
  case size =>
    intro frame member row found
    have listed : frame ∈ inWindow resetSeconds (currentPeriod resetSeconds frame.now)
        frame.wireType (DigRateLimiterIn.admitted (.new incoming resetSeconds limitFactor limits
          start) frames) :=
      List.mem_filter.mpr ⟨member, decide_eq_true ⟨rfl, rfl⟩⟩
    have passes := inWindow_admitted empty clock (currentPeriod resetSeconds frame.now)
      frame.wireType ▸ listed
    exact (metered found wireType_of_inWindow).size frame passes
  case total =>
    intro window opcode row found
    rw [inWindow_admitted empty clock]
    exact (metered found wireType_of_inWindow).total
  case unlisted =>
    intro frame absent
    rw [DigRateLimiterIn.check_afterChecks]
    change (DigRateLimiterIn.weigh _ _ frame).1 = true
    unfold DigRateLimiterIn.weigh
    rw [absent]
  case isolated =>
    intro frame later
    rw [check_clocked empty clock later, check_clocked empty (clock.filter _)
      fun earlier member => later earlier (List.mem_filter.mp member).1, inWindow_filter]
  case inbound =>
    intro isIncoming frame row later found
    rw [check_clocked empty clock later,
      DigRateLimiterIn.tallyOf_incoming found isIncoming wireType_of_inWindow]
    exact weigh_charged found _
  case outbound =>
    intro isOutgoing frame row later found
    rw [check_clocked empty clock later, inWindow_admitted empty clock,
      DigRateLimiterIn.tallyOf_outgoing found isOutgoing wireType_of_inWindow]
    exact weigh_charged found _
  case renewed =>
    intro frame before
    apply DigRateLimiterIn.check_congr
    have again : ((DigRateLimiterIn.new incoming resetSeconds limitFactor limits
        frame.now).afterChecks []).syncPeriod frame.now = _ :=
      syncPeriod_afterChecks incoming resetSeconds limitFactor limits frame.now (by simp)
    exact (syncPeriod_afterChecks incoming resetSeconds limitFactor limits start before).trans
      again.symm

namespace Windowed

def meltedLimits : FiniteMap UInt8 (RateLimitIn ℚ) :=
  (∅ : FiniteMap UInt8 (RateLimitIn ℚ)).insert storeMelted
    { frequency := 2, maxSize := 164, maxTotalSize := none }

/-- Three announcements within a minute, and one in the next. -/
def announcements : List Checked :=
  [⟨storeMelted, 164, 0⟩, ⟨storeMelted, 165, 1⟩, ⟨storeMelted, 164, 59⟩, ⟨storeMelted, 164, 60⟩]

end Windowed

open Windowed in
/-- The frame that was refused for its size is charged, and the one after it finds no room. -/
theorem keepsRateLimits_melted :
    KeepsRateLimits (.new true 60 1 meltedLimits 0) announcements ∧
      (DigRateLimiterIn.new true 60 (1 : ℚ) meltedLimits 0).admitted announcements =
        [⟨storeMelted, 164, 0⟩, ⟨storeMelted, 164, 60⟩] :=
  ⟨keepsRateLimits true 60 1 meltedLimits 0 announcements (by decide), by decide +kernel⟩

end Service
end DigGossip
