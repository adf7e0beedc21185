import DigGossip.Foundations.Windows
import DigGossip.Service.InboundLimits

namespace DigGossip
namespace Service

open Foundations DigGossip.Types

/-!
# The limiter of the table over any numbers

The limiter of the table counts in floats.  Its text asks no more of them than a
sum, a product and an order, so it is written here once for any numbers: over
floats it is the limiter of the gate, and over the rationals nothing is rounded.
An opcode's two tallies are moved by its own frames only, and a new window
clears them all, which makes the limiter a meter.
-/

structure RateLimitIn (N : Type) where
  frequency : N
  maxSize : N
  maxTotalSize : Option N

structure DigRateLimiterIn (N : Type) where
  incoming : Bool
  resetSeconds : Nat
  period : Nat
  limitFactor : N
  limits : FiniteMap UInt8 (RateLimitIn N)
  counts : FiniteMap UInt8 N
  sizes : FiniteMap UInt8 N

/-- What a check reads: the opcode, the length of the payload and the clock. -/
structure Checked where
  wireType : UInt8
  dataLen : UInt32
  now : Nat
deriving DecidableEq

def Checked.size (N : Type) [NatCast N] (frame : Checked) : N := (frame.dataLen.toNat : N)

/-- The frames of an opcode in a window. -/
def inWindow (resetSeconds window : Nat) (opcode : UInt8) (frames : List Checked) :
    List Checked :=
  frames.filter fun frame =>
    decide (frame.wireType = opcode ∧ currentPeriod resetSeconds frame.now = window)

/-- The frames of other opcodes are in no window of this one. -/
theorem inWindow_filter (resetSeconds window : Nat) (opcode : UInt8) (frames : List Checked) :
    inWindow resetSeconds window opcode
        (frames.filter fun other => decide (other.wireType = opcode)) =
      inWindow resetSeconds window opcode frames := by
  unfold inWindow
  rw [List.filter_filter]
  apply List.filter_congr
  intro frame _
  by_cases same : frame.wireType = opcode
  · rw [decide_eq_true same, Bool.and_true]
  · rw [decide_eq_false same, Bool.and_false, decide_eq_false fun both => same both.1]

theorem wireType_of_inWindow {resetSeconds window : Nat} {opcode : UInt8} {frames : List Checked} :
    ∀ frame ∈ inWindow resetSeconds window opcode frames, frame.wireType = opcode :=
  fun _ member => (of_decide_eq_true (List.mem_filter.mp member).2).1

namespace DigRateLimiterIn

section Definitions

variable {N : Type}

def new (incoming : Bool) (resetSeconds : Nat) (limitFactor : N)
    (limits : FiniteMap UInt8 (RateLimitIn N)) (now : Nat) : DigRateLimiterIn N where
  incoming := incoming
  resetSeconds := resetSeconds
  period := currentPeriod resetSeconds now
  limitFactor := limitFactor
  limits := limits
  counts := ∅
  sizes := ∅

def syncPeriod (limiter : DigRateLimiterIn N) (now : Nat) : DigRateLimiterIn N :=
  let period := currentPeriod limiter.resetSeconds now
  if limiter.period ≠ period then { limiter with period := period, counts := ∅, sizes := ∅ }
  else limiter

variable [Add N] [Mul N] [LE N] [DecidableLE N]

def passes (limiter : DigRateLimiterIn N) (limits : RateLimitIn N)
    (newCount size newCumulativeSize : N) : Bool :=
  let maxTotalSize := limits.maxTotalSize.getD (limits.frequency * limits.maxSize)
  decide (newCount ≤ limits.frequency * limiter.limitFactor) && decide (size ≤ limits.maxSize) &&
    decide (newCumulativeSize ≤ maxTotalSize * limiter.limitFactor)

variable [NatCast N]

def check (limiter : DigRateLimiterIn N) (frame : Checked) : Bool × DigRateLimiterIn N :=
  let limiter := limiter.syncPeriod frame.now
  match limiter.limits.lookup frame.wireType with
  | none => (true, limiter)
  | some limits =>
      let newCount := (limiter.counts.lookup frame.wireType).getD (0 : Nat) + (1 : Nat)
      let newCumulativeSize := (limiter.sizes.lookup frame.wireType).getD (0 : Nat) + frame.size N
      let passed := limiter.passes limits newCount (frame.size N) newCumulativeSize
      if limiter.incoming || passed then
        (passed, { limiter with
          counts := limiter.counts.insert frame.wireType newCount
          sizes := limiter.sizes.insert frame.wireType newCumulativeSize })
      else (passed, limiter)

/-! ## The limiter as a meter -/

/-- The count and the sum of the sizes, moved by one frame. -/
def charge (tally : N × N) (frame : Checked) : N × N :=
  (tally.1 + (1 : Nat), tally.2 + frame.size N)

/-- What a number of frames is charged. -/
def charged (frames : List Checked) : N × N :=
  frames.foldl charge ((0 : Nat), (0 : Nat))

def weigh (limiter : DigRateLimiterIn N) (tally : N × N) (frame : Checked) : Bool × (N × N) :=
  match limiter.limits.lookup frame.wireType with
  | none => (true, tally)
  | some limits =>
      let moved := charge tally frame
      let passed := limiter.passes limits moved.1 (frame.size N) moved.2
      (passed, if limiter.incoming || passed then moved else tally)

def meter (limiter : DigRateLimiterIn N) : Meter UInt8 Checked (N × N) where
  key := Checked.wireType
  window := fun frame => currentPeriod limiter.resetSeconds frame.now
  start := ((0 : Nat), (0 : Nat))
  weigh := limiter.weigh

def tallies (limiter : DigRateLimiterIn N) : Tallies UInt8 (N × N) where
  window := limiter.period
  tally := fun opcode =>
    ((limiter.counts.lookup opcode).getD (0 : Nat), (limiter.sizes.lookup opcode).getD (0 : Nat))

def afterChecks (limiter : DigRateLimiterIn N) (frames : List Checked) : DigRateLimiterIn N :=
  Stepping.run (fun limiter frame => (limiter.check frame).2) frames limiter

end Definitions

section Meters

variable {N : Type}

theorem syncPeriod_fields (limiter : DigRateLimiterIn N) (now : Nat) :
    exists counts sizes, limiter.syncPeriod now =
      { limiter with
        period := currentPeriod limiter.resetSeconds now, counts := counts, sizes := sizes } := by
  unfold syncPeriod
  dsimp only
  by_cases moved : limiter.period ≠ currentPeriod limiter.resetSeconds now
  · exact ⟨∅, ∅, if_pos moved⟩
  · refine ⟨limiter.counts, limiter.sizes, ?_⟩
    rw [if_neg moved, <- not_not.mp moved]

variable [NatCast N]

theorem tallies_insert (limiter : DigRateLimiterIn N) (opcode : UInt8) (tally : N × N) :
    ({ limiter with
        counts := limiter.counts.insert opcode tally.1
        sizes := limiter.sizes.insert opcode tally.2 } : DigRateLimiterIn N).tallies =
      { limiter.tallies with tally := Function.update limiter.tallies.tally opcode tally } := by
  unfold tallies
  congr 1
  funext other
  rw [Function.update_apply, FiniteMap.lookup_insert_eq, FiniteMap.lookup_insert_eq]
  by_cases same : other = opcode
  · rw [if_pos same, if_pos same, if_pos same]
    rfl
  · rw [if_neg same, if_neg same, if_neg same]

variable [Add N]

theorem charged_concat (frames : List Checked) (frame : Checked) :
    charged (N := N) (frames ++ [frame]) = charge (charged frames) frame :=
  List.foldl_concat ..

variable [Mul N] [LE N] [DecidableLE N]

theorem tallies_syncPeriod (limiter : DigRateLimiterIn N) (now : Nat) :
    (limiter.syncPeriod now).tallies =
      limiter.meter.enter limiter.tallies (currentPeriod limiter.resetSeconds now) := by
  unfold syncPeriod
  dsimp only
  by_cases moved : limiter.period ≠ currentPeriod limiter.resetSeconds now
  · rw [if_pos moved, Meter.enter_of_ne moved]
    rfl
  · rw [if_neg moved, Meter.enter_of_eq (not_not.mp moved)]

theorem meter_syncPeriod (limiter : DigRateLimiterIn N) (now : Nat) :
    (limiter.syncPeriod now).meter = limiter.meter := by
  unfold syncPeriod
  dsimp only
  split
  · rfl
  · rfl

/-- A check leaves everything but the window and the tallies as it was. -/
theorem check_fields (limiter : DigRateLimiterIn N) (frame : Checked) :
    exists counts sizes, (limiter.check frame).2 =
      { limiter with
        period := currentPeriod limiter.resetSeconds frame.now
        counts := counts
        sizes := sizes } := by
  rcases syncPeriod_fields limiter frame.now with ⟨counts, sizes, synced⟩
  unfold check
  rw [synced]
  dsimp only
  split
  · exact ⟨counts, sizes, rfl⟩
  · split
    · exact ⟨_, _, rfl⟩
    · exact ⟨counts, sizes, rfl⟩

theorem check_congr {limiter other : DigRateLimiterIn N} {frame : Checked}
    (same : limiter.syncPeriod frame.now = other.syncPeriod frame.now) :
    limiter.check frame = other.check frame := by
  unfold check
  rw [same]

theorem afterChecks_concat (limiter : DigRateLimiterIn N) (frames : List Checked)
    (frame : Checked) :
    limiter.afterChecks (frames ++ [frame]) = ((limiter.afterChecks frames).check frame).2 :=
  Stepping.run_concat frames frame limiter

theorem afterChecks_fields (limiter : DigRateLimiterIn N) (frames : List Checked) :
    exists period counts sizes, limiter.afterChecks frames =
      { limiter with period := period, counts := counts, sizes := sizes } := by
  induction frames using List.reverseRecOn with
  | nil => exact ⟨limiter.period, limiter.counts, limiter.sizes, rfl⟩
  | append_singleton frames frame inner =>
      rcases inner with ⟨period, counts, sizes, before⟩
      rcases check_fields (limiter.afterChecks frames) frame with ⟨newCounts, newSizes, after⟩
      rw [afterChecks_concat, after, before]
      exact ⟨_, newCounts, newSizes, rfl⟩

/-- A check weighs its frame on the tallies of the frame's window. -/
theorem check_eq (limiter : DigRateLimiterIn N) (frame : Checked) :
    (limiter.check frame).1 = (limiter.meter.check limiter.tallies frame).1 ∧
      (limiter.check frame).2.tallies = (limiter.meter.check limiter.tallies frame).2 := by
  have entered := tallies_syncPeriod limiter frame.now
  have same := meter_syncPeriod limiter frame.now
  have weighs : limiter.weigh = (limiter.syncPeriod frame.now).weigh :=
    (congrArg Meter.weigh same).symm
  have weighed : limiter.meter.check limiter.tallies frame =
      (((limiter.syncPeriod frame.now).weigh
          ((limiter.syncPeriod frame.now).tallies.tally frame.wireType) frame).1,
        { (limiter.syncPeriod frame.now).tallies with
          tally := Function.update (limiter.syncPeriod frame.now).tallies.tally frame.wireType
            ((limiter.syncPeriod frame.now).weigh
              ((limiter.syncPeriod frame.now).tallies.tally frame.wireType) frame).2 }) := by
    rw [entered, <- weighs]
    rfl
  rw [weighed]
  unfold check
  dsimp only
  generalize limiter.syncPeriod frame.now = synced
  unfold weigh
  cases found : synced.limits.lookup frame.wireType with
  | none =>
      dsimp only
      refine ⟨rfl, ?_⟩
      rw [Function.update_eq_self]
  | some limits =>
      dsimp only
      have judged : synced.passes limits
          ((synced.counts.lookup frame.wireType).getD (0 : Nat) + (1 : Nat)) (frame.size N)
          ((synced.sizes.lookup frame.wireType).getD (0 : Nat) + frame.size N) =
            synced.passes limits (charge (synced.tallies.tally frame.wireType) frame).1
              (frame.size N) (charge (synced.tallies.tally frame.wireType) frame).2 := rfl
      rw [judged]
      split
      · exact ⟨rfl, tallies_insert synced frame.wireType
          (charge (synced.tallies.tally frame.wireType) frame)⟩
      · refine ⟨rfl, ?_⟩
        rw [Function.update_eq_self]

theorem meter_afterChecks (limiter : DigRateLimiterIn N) (frames : List Checked) :
    (limiter.afterChecks frames).meter = limiter.meter := by
  rcases afterChecks_fields limiter frames with ⟨period, counts, sizes, after⟩
  rw [after]
  rfl

theorem tallies_afterChecks (limiter : DigRateLimiterIn N) (frames : List Checked) :
    (limiter.afterChecks frames).tallies = limiter.meter.after limiter.tallies frames := by
  induction frames using List.reverseRecOn with
  | nil => rfl
  | append_singleton frames frame inner =>
      rw [afterChecks_concat, Meter.after_concat, (check_eq _ frame).2, meter_afterChecks, inner]

/-- The verdict on a frame in a run is that of the meter. -/
theorem check_afterChecks (limiter : DigRateLimiterIn N) (frames : List Checked)
    (frame : Checked) :
    ((limiter.afterChecks frames).check frame).1 =
      (limiter.meter.check (limiter.meter.after limiter.tallies frames) frame).1 := by
  rw [(check_eq _ frame).1, meter_afterChecks, tallies_afterChecks]

/-! ## The charges of one opcode -/

theorem weigh_row {limiter : DigRateLimiterIn N} {frame : Checked} {row : RateLimitIn N}
    (found : limiter.limits.lookup frame.wireType = some row) (tally : N × N) :
    limiter.weigh tally frame =
      (limiter.passes row (charge tally frame).1 (frame.size N) (charge tally frame).2,
        if limiter.incoming ||
            limiter.passes row (charge tally frame).1 (frame.size N) (charge tally frame).2 then
          charge tally frame
        else tally) := by
  unfold weigh
  rw [found]

section Row

variable {limiter : DigRateLimiterIn N} {opcode : UInt8} {row : RateLimitIn N}
  (found : limiter.limits.lookup opcode = some row)
include found

/-- A limiter of incoming frames charges every one of them. -/
theorem tallyOf_incoming (incoming : limiter.incoming = true) {frames : List Checked}
    (same : ∀ frame ∈ frames, frame.wireType = opcode) :
    limiter.meter.tallyOf frames = charged frames := by
  induction frames using List.reverseRecOn with
  | nil => rfl
  | append_singleton frames frame inner =>
      have ofOpcode : frame.wireType = opcode := same frame (by simp)
      have earlier := inner fun other member => same other (List.mem_append_left _ member)
      rw [Meter.tallyOf_concat, earlier, charged_concat]
      change (limiter.weigh (charged frames) frame).2 = _
      rw [weigh_row (ofOpcode ▸ found), incoming, Bool.true_or]
      rfl

/-- A limiter of outgoing frames charges those it admits. -/
theorem tallyOf_outgoing (outgoing : limiter.incoming = false) {frames : List Checked}
    (same : ∀ frame ∈ frames, frame.wireType = opcode) :
    limiter.meter.tallyOf frames = charged (limiter.meter.passing frames) := by
  induction frames using List.reverseRecOn with
  | nil => rfl
  | append_singleton frames frame inner =>
      have ofOpcode : frame.wireType = opcode := same frame (by simp)
      have earlier := inner fun other member => same other (List.mem_append_left _ member)
      rw [Meter.tallyOf_concat, Meter.passing_concat, earlier]
      change (limiter.weigh _ frame).2 = charged (_ ++ if (limiter.weigh _ frame).1 then _ else _)
      rw [weigh_row (ofOpcode ▸ found), outgoing, Bool.false_or]
      split
      · exact (charged_concat _ frame).symm
      · rw [List.append_nil]

end Row

end Meters

end DigRateLimiterIn

/-! ## Over floats -/

instance natCastFloat : NatCast Float where
  natCast := asFloat

def RateLimit.inFloats (row : RateLimit) : RateLimitIn Float where
  frequency := row.frequency
  maxSize := row.maxSize
  maxTotalSize := row.maxTotalSize

def DigRateLimiter.inFloats (limiter : DigRateLimiter) : DigRateLimiterIn Float where
  incoming := limiter.incoming
  resetSeconds := limiter.resetSeconds
  period := limiter.period
  limitFactor := limiter.limitFactor
  limits := limiter.limits.mapValues RateLimit.inFloats
  counts := limiter.counts
  sizes := limiter.sizes

theorem inFloats_syncPeriod (limiter : DigRateLimiter) (now : Nat) :
    (limiter.syncPeriod now).inFloats = limiter.inFloats.syncPeriod now := by
  unfold DigRateLimiter.syncPeriod DigRateLimiterIn.syncPeriod
  dsimp only
  by_cases moved : limiter.period ≠ currentPeriod limiter.resetSeconds now
  · rw [if_pos moved]
    exact (if_pos moved).symm
  · rw [if_neg moved]
    exact (if_neg moved).symm

/-- The limiter of the gate is the limiter over floats. -/
theorem check_inFloats (limiter : DigRateLimiter) (frame : Checked) :
    limiter.inFloats.check frame =
      ((limiter.check frame.wireType frame.dataLen frame.now).1,
        (limiter.check frame.wireType frame.dataLen frame.now).2.inFloats) := by
  unfold DigRateLimiter.check DigRateLimiterIn.check
  dsimp only
  rw [<- inFloats_syncPeriod]
  generalize limiter.syncPeriod frame.now = synced
  have row : synced.inFloats.limits.lookup frame.wireType =
      (synced.limits.lookup frame.wireType).map RateLimit.inFloats :=
    FiniteMap.lookup_mapValues _ _ _
  rw [row]
  cases found : synced.limits.lookup frame.wireType with
  | none => rfl
  | some limits =>
      dsimp only [Option.map_some]
      by_cases counts : (synced.incoming || synced.passes limits
          ((synced.counts.lookup frame.wireType).getD (asFloat 0) + asFloat 1)
          (asFloat frame.dataLen.toNat)
          ((synced.sizes.lookup frame.wireType).getD (asFloat 0) +
            asFloat frame.dataLen.toNat)) = true
      · rw [if_pos counts]
        exact if_pos counts
      · rw [if_neg counts]
        exact if_neg counts

end Service
end DigGossip
