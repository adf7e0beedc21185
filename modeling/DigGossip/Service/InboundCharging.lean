import DigGossip.Service.DigLimiter

namespace DigGossip
namespace Service

open Foundations DigGossip.Types

/-!
# What the gate charges for the frames it refuses

The half of the table is asked about a frame only after the Chia half has let it
through.  A frame that the Chia half refuses is therefore charged by that half
alone, although the gate is built to charge a refused frame on both sides.  As
long as the Chia half refuses no frame of an opcode in a window, the counter of
the opcode is the number of its frames that were offered.
-/

def Arrival.checked (arrival : Arrival) : Checked where
  wireType := arrival.msg.msgType
  dataLen := UInt32.ofNat arrival.msg.data.length
  now := arrival.nowAgain

section Gate

variable {C : Type} (chia : OpcodeRateLimiter C)

def afterArrivals (gate : InboundRateLimiter C) (arrivals : List Arrival) : InboundRateLimiter C :=
  Stepping.run (fun gate arrival =>
    (gate.allows chia arrival.msg arrival.now arrival.nowAgain).2) arrivals gate

def chiaAfter (state : C) (arrivals : List Arrival) : C :=
  Stepping.run (fun state arrival => (chia.allow state arrival.msg arrival.now).2) arrivals state

/-- The verdict of the Chia half on an arrival, after others. -/
def chiaAllows (state : C) (past : List Arrival) (arrival : Arrival) : Bool :=
  (chia.allow (chiaAfter chia state past) arrival.msg arrival.now).1

/-- The arrivals that the Chia half refuses, as the half of the table would have seen them. -/
def refusedByChia (state : C) (arrivals : List Arrival) : List Checked :=
  (keepBy (fun past arrival => !chiaAllows chia state past arrival) [] arrivals).map Arrival.checked

/-- The arrivals that the half of the table is asked about. -/
def checkedByDig (state : C) (arrivals : List Arrival) : List Checked :=
  ((keepBy (chiaAllows chia state) [] arrivals).map Arrival.checked).filter fun frame =>
    decide (digWireBandStart ≤ frame.wireType)

/-- The half of the table as it is built. -/
def digHalf (rateLimitFactor : Float) (nowAgain : Nat) : DigRateLimiterIn Float :=
  .new true resetSeconds rateLimitFactor (digExtensionRateLimitsMap.mapValues RateLimit.inFloats)
    nowAgain

/-! ## The half of the table in a run -/

variable {chia}

theorem allows_refused {gate : InboundRateLimiter C} {msg : DigMessage} {now : Nat}
    (refused : (chia.allow gate.chia msg now).1 = false) (nowAgain : Nat) :
    gate.allows chia msg now nowAgain =
      (false, { gate with chia := (chia.allow gate.chia msg now).2 }) :=
  if_pos refused

theorem allows_banded {gate : InboundRateLimiter C} {msg : DigMessage} {now : Nat}
    (allowed : (chia.allow gate.chia msg now).1 = true)
    (banded : digWireBandStart ≤ msg.msgType) (nowAgain : Nat) :
    gate.allows chia msg now nowAgain =
      ((gate.dig.check msg.msgType (UInt32.ofNat msg.data.length) nowAgain).1,
        { chia := (chia.allow gate.chia msg now).2
          dig := (gate.dig.check msg.msgType (UInt32.ofNat msg.data.length) nowAgain).2 }) :=
  (if_neg (by rw [allowed]; exact Bool.false_ne_true.symm)).trans (if_pos banded)

theorem allows_below {gate : InboundRateLimiter C} {msg : DigMessage} {now : Nat}
    (allowed : (chia.allow gate.chia msg now).1 = true)
    (below : ¬ digWireBandStart ≤ msg.msgType) (nowAgain : Nat) :
    gate.allows chia msg now nowAgain =
      (true, { gate with chia := (chia.allow gate.chia msg now).2 }) :=
  (if_neg (by rw [allowed]; exact Bool.false_ne_true.symm)).trans (if_neg below)

theorem afterArrivals_concat (gate : InboundRateLimiter C) (arrivals : List Arrival)
    (arrival : Arrival) :
    afterArrivals chia gate (arrivals ++ [arrival]) =
      ((afterArrivals chia gate arrivals).allows chia arrival.msg arrival.now
        arrival.nowAgain).2 :=
  Stepping.run_concat arrivals arrival gate

theorem chiaAfter_concat (state : C) (arrivals : List Arrival) (arrival : Arrival) :
    chiaAfter chia state (arrivals ++ [arrival]) =
      (chia.allow (chiaAfter chia state arrivals) arrival.msg arrival.now).2 :=
  Stepping.run_concat arrivals arrival state

theorem checkedByDig_concat (state : C) (arrivals : List Arrival) (arrival : Arrival) :
    checkedByDig chia state (arrivals ++ [arrival]) =
      checkedByDig chia state arrivals ++
        if chiaAllows chia state arrivals arrival = true ∧ digWireBandStart ≤ arrival.msg.msgType
          then [arrival.checked] else [] := by
  unfold checkedByDig
  rw [keepBy_concat, List.map_append, List.filter_append]
  congr 1
  cases allowed : chiaAllows chia state arrivals arrival with
  | true =>
      rw [List.nil_append, if_pos allowed, List.map_singleton, List.filter_singleton,
        Bool.cond_decide]
      simp only [true_and]
      rfl
  | false =>
      rw [List.nil_append, allowed, if_neg Bool.false_ne_true, if_neg fun both =>
        Bool.false_ne_true both.1]
      rfl

/-- The Chia half goes its own way, and the other half is asked what it lets through. -/
theorem afterArrivals_eq (gate : InboundRateLimiter C) (arrivals : List Arrival) :
    (afterArrivals chia gate arrivals).chia = chiaAfter chia gate.chia arrivals ∧
      (afterArrivals chia gate arrivals).dig.inFloats =
        gate.dig.inFloats.afterChecks (checkedByDig chia gate.chia arrivals) := by
  induction arrivals using List.reverseRecOn with
  | nil => exact ⟨rfl, rfl⟩
  | append_singleton arrivals arrival inner =>
      rcases inner with ⟨base, dig⟩
      rw [afterArrivals_concat, checkedByDig_concat]
      cases allowed : chiaAllows chia gate.chia arrivals arrival with
      | false =>
          rw [if_neg fun both => Bool.false_ne_true both.1, List.append_nil]
          unfold chiaAllows at allowed
          rw [<- base] at allowed
          rw [allows_refused allowed, base]
          exact ⟨(chiaAfter_concat gate.chia arrivals arrival).symm, dig⟩
      | true =>
          unfold chiaAllows at allowed
          rw [<- base] at allowed
          by_cases banded : digWireBandStart ≤ arrival.msg.msgType
          · rw [if_pos ⟨rfl, banded⟩, allows_banded allowed banded, base,
              DigRateLimiterIn.afterChecks_concat, <- dig, check_inFloats]
            exact ⟨(chiaAfter_concat gate.chia arrivals arrival).symm, rfl⟩
          · rw [if_neg fun both => banded both.2, List.append_nil, allows_below allowed banded, base]
            exact ⟨(chiaAfter_concat gate.chia arrivals arrival).symm, dig⟩

end Gate

/-! ## The promise of the gate -/

/-- The counter after a number of frames: one is added for each. -/
def charges (frames : Nat) : Float := (fun count => count + asFloat 1)^[frames] (asFloat 0)

section Promise

variable {C : Type} (chia : OpcodeRateLimiter C)

/-- The counter of an opcode as of a reading of the clock. -/
def InboundRateLimiter.counter (gate : InboundRateLimiter C) (opcode : UInt8) (now : Nat) : Float :=
  ((gate.dig.syncPeriod now).counts.lookup opcode).getD (asFloat 0)

/-- The frames of an opcode offered in the window of a reading of the clock. -/
def offered (opcode : UInt8) (now : Nat) (arrivals : List Arrival) : List Checked :=
  inWindow resetSeconds (currentPeriod resetSeconds now) opcode (arrivals.map Arrival.checked)

/-- The verdict on an arrival if every frame of its opcode that was offered in its window
had been charged, whatever the Chia half decided about it. -/
def allowedIfCharged (rateLimitFactor : Float) (start startAgain : Nat) (past : List Arrival)
    (arrival : Arrival) : Bool :=
  chiaAllows chia (chia.new resetSeconds rateLimitFactor start) past arrival &&
    (decide (arrival.msg.msgType < digWireBandStart) ||
      ((digHalf rateLimitFactor startAgain).weigh (DigRateLimiterIn.charged
        (offered arrival.msg.msgType arrival.nowAgain past)) arrival.checked).1)

/-- The verdict of the gate on an arrival, after others. -/
def allowedByGate (rateLimitFactor : Float) (start startAgain : Nat) (past : List Arrival)
    (arrival : Arrival) : Bool :=
  ((afterArrivals chia (.new chia rateLimitFactor start startAgain) past).allows chia arrival.msg
    arrival.now arrival.nowAgain).1

/-- Every frame of an opcode that was offered in the window is counted, and no more of them are
admitted than if each had been charged. -/
structure ChargesEveryFrame (rateLimitFactor : Float) (start startAgain : Nat)
    (arrivals : List Arrival) (opcode : UInt8) (now : Nat) : Prop where
  counted : (afterArrivals chia (.new chia rateLimitFactor start startAgain) arrivals).counter
    opcode now = charges (offered opcode now arrivals).length
  noGain : (offered opcode now
      (keepBy (allowedByGate chia rateLimitFactor start startAgain) [] arrivals)).length ≤
    (offered opcode now
      (keepBy (allowedIfCharged chia rateLimitFactor start startAgain) [] arrivals)).length

/-- The Chia half let every frame of the opcode in the window through, and the half of the
table was asked about no frame of another window since the first of them. -/
structure Undisturbed (state : C) (arrivals : List Arrival) (opcode : UInt8) (now : Nat) :
    Prop where
  letThrough : inWindow resetSeconds (currentPeriod resetSeconds now) opcode
    (refusedByChia chia state arrivals) = []
  kept : inWindow resetSeconds (currentPeriod resetSeconds now) opcode
    ((checkedByDig chia state arrivals).rdropWhile fun frame =>
      decide (currentPeriod resetSeconds frame.now = currentPeriod resetSeconds now)) = []

/-! ## The counter -/

theorem charges_succ (frames : Nat) : charges (frames + 1) = charges frames + asFloat 1 :=
  Function.iterate_succ_apply' _ frames (asFloat 0)

/-- As long as a mantissa holds it, the counter is the number of the frames. -/
theorem charges_small {frames : Nat} (small : frames < 2 ^ 53) : charges frames = asFloat frames := by
  induction frames with
  | zero => rfl
  | succ frames inner =>
      rw [charges_succ, inner (Nat.lt_of_succ_lt small), asFloat_add small]

theorem charged_fst (frames : List Checked) :
    (DigRateLimiterIn.charged frames).1 = charges frames.length := by
  induction frames using List.reverseRecOn with
  | nil => rfl
  | append_singleton frames frame inner =>
      rw [DigRateLimiterIn.charged_concat, List.length_append, List.length_singleton, charges_succ,
        <- inner]
      rfl

variable {chia} {rateLimitFactor : Float} {start startAgain : Nat} {arrivals : List Arrival}
  {opcode : UInt8} {now : Nat}

/-- The frames of an opcode that the half of the table still counts. -/
def heardByDig (chia : OpcodeRateLimiter C) (state : C) (opcode : UInt8) (now : Nat)
    (arrivals : List Arrival) : List Checked :=
  ((checkedByDig chia state arrivals).rtakeWhile fun frame =>
    decide (currentPeriod resetSeconds frame.now = currentPeriod resetSeconds now)).filter
      fun frame => decide (frame.wireType = opcode)

theorem dig_new (chia : OpcodeRateLimiter C) (rateLimitFactor : Float) (start startAgain : Nat) :
    (InboundRateLimiter.new chia rateLimitFactor start startAgain).dig.inFloats =
      digHalf rateLimitFactor startAgain := rfl

theorem digHalf_row {row : RateLimit} (found : digExtensionRateLimitsMap.lookup opcode = some row)
    (rateLimitFactor : Float) (startAgain : Nat) :
    (digHalf rateLimitFactor startAgain).limits.lookup opcode = some row.inFloats := by
  change (digExtensionRateLimitsMap.mapValues RateLimit.inFloats).lookup opcode = _
  rw [FiniteMap.lookup_mapValues, found]
  rfl

theorem wireType_of_heard {state : C} :
    ∀ frame ∈ heardByDig chia state opcode now arrivals, frame.wireType = opcode :=
  fun _ member => of_decide_eq_true (List.mem_filter.mp member).2

/-- The tally of an opcode is what the half of the table was charged and did not forget. -/
theorem tallies_digHalf {row : RateLimit}
    (found : digExtensionRateLimitsMap.lookup opcode = some row) (state : C) :
    (((digHalf rateLimitFactor startAgain).afterChecks
        (checkedByDig chia state arrivals)).syncPeriod now).tallies.tally opcode =
      DigRateLimiterIn.charged (heardByDig chia state opcode now arrivals) := by
  have seconds : ((digHalf rateLimitFactor startAgain).afterChecks
      (checkedByDig chia state arrivals)).resetSeconds = resetSeconds := by
    rcases (digHalf rateLimitFactor startAgain).afterChecks_fields
      (checkedByDig chia state arrivals) with ⟨period, counts, sizes, after⟩
    rw [after]
    rfl
  rw [DigRateLimiterIn.tallies_syncPeriod, DigRateLimiterIn.meter_afterChecks,
    DigRateLimiterIn.tallies_afterChecks, seconds]
  refine (Meter.tally_after _ _ _ _).trans ?_
  exact DigRateLimiterIn.tallyOf_incoming (digHalf_row found rateLimitFactor startAgain) rfl
    wireType_of_heard

/-- The counter of an opcode is what the half of the table was charged and did not forget. -/
theorem counter_afterArrivals {row : RateLimit}
    (found : digExtensionRateLimitsMap.lookup opcode = some row) :
    (afterArrivals chia (.new chia rateLimitFactor start startAgain) arrivals).counter opcode now =
      charges (heardByDig chia (chia.new resetSeconds rateLimitFactor start) opcode now
        arrivals).length := by
  have dig := (@afterArrivals_eq C chia (.new chia rateLimitFactor start startAgain) arrivals).2
  rw [dig_new] at dig
  have read : forall limiter : DigRateLimiter, ((limiter.syncPeriod now).counts.lookup
      opcode).getD (asFloat 0) = ((limiter.inFloats.syncPeriod now).tallies.tally opcode).1 := by
    intro limiter
    rw [<- inFloats_syncPeriod]
    rfl
  unfold InboundRateLimiter.counter
  rw [read, dig, tallies_digHalf found, charged_fst]
  rfl

/-! ## What is offered, refused and forgotten -/

theorem inWindow_checkedByDig (banded : digWireBandStart ≤ opcode) (state : C) (window : Nat) :
    inWindow resetSeconds window opcode (checkedByDig chia state arrivals) =
      inWindow resetSeconds window opcode
        ((keepBy (chiaAllows chia state) [] arrivals).map Arrival.checked) := by
  unfold inWindow checkedByDig
  rw [List.filter_filter]
  apply List.filter_congr
  intro frame _
  by_cases here : frame.wireType = opcode
  · rw [here, decide_eq_true banded, Bool.and_true]
  · rw [decide_eq_false fun both => here both.1, Bool.false_and]

/-- A frame that was offered is refused by the Chia half, forgotten or counted. -/
theorem length_offered (banded : digWireBandStart ≤ opcode) (state : C) :
    (offered opcode now arrivals).length =
      (inWindow resetSeconds (currentPeriod resetSeconds now) opcode
          ((checkedByDig chia state arrivals).rdropWhile fun frame =>
            decide (currentPeriod resetSeconds frame.now = currentPeriod resetSeconds now))).length +
        (heardByDig chia state opcode now arrivals).length +
        (inWindow resetSeconds (currentPeriod resetSeconds now) opcode
          (refusedByChia chia state arrivals)).length := by
  have shared := ((keepBy_append_perm (chiaAllows chia state) [] arrivals).map
    Arrival.checked).filter fun frame => decide (frame.wireType = opcode ∧
      currentPeriod resetSeconds frame.now = currentPeriod resetSeconds now)
  have both := shared.length_eq
  rw [List.map_append, List.filter_append, List.length_append] at both
  have parted := congrArg List.length ((@inWindow_checkedByDig C chia arrivals opcode banded state
    (currentPeriod resetSeconds now)).symm.trans
      (filter_rdropWhile_append_rtakeWhile _ _ (checkedByDig chia state arrivals)))
  rw [List.length_append] at parted
  exact both.symm.trans (congrArg (· + _) parted)

/-- Nothing is refused or forgotten exactly when all that was offered is counted. -/
theorem undisturbed_iff_length (banded : digWireBandStart ≤ opcode) (state : C) :
    Undisturbed chia state arrivals opcode now ↔
      (heardByDig chia state opcode now arrivals).length =
        (offered opcode now arrivals).length := by
  have shared := @length_offered C chia arrivals opcode now banded state
  constructor
  · rintro ⟨letThrough, kept⟩
    rw [letThrough, kept] at shared
    rw [shared, List.length_nil, Nat.zero_add, Nat.add_zero]
  · intro same
    constructor
    · apply List.length_eq_zero_iff.mp
      omega
    · apply List.length_eq_zero_iff.mp
      omega

theorem heard_of_undisturbed (banded : digWireBandStart ≤ opcode) {state : C}
    (undisturbed : Undisturbed chia state arrivals opcode now) :
    heardByDig chia state opcode now arrivals = offered opcode now arrivals := by
  have parted := (@inWindow_checkedByDig C chia arrivals opcode banded state
    (currentPeriod resetSeconds now)).symm.trans
      (filter_rdropWhile_append_rtakeWhile _ _ (checkedByDig chia state arrivals))
  have heard : inWindow resetSeconds (currentPeriod resetSeconds now) opcode
      ((keepBy (chiaAllows chia state) [] arrivals).map Arrival.checked) =
        heardByDig chia state opcode now arrivals :=
    parted.trans (congrArg (· ++ _) undisturbed.kept)
  have part : (heardByDig chia state opcode now arrivals).Sublist
      (offered opcode now arrivals) := by
    rw [<- heard]
    exact ((keepBy_sublist _ [] arrivals).map Arrival.checked).filter _
  exact part.eq_of_length ((undisturbed_iff_length banded state).mp undisturbed)

theorem undisturbed_prefix {state : C} {before after : List Arrival}
    (undisturbed : Undisturbed chia state (before ++ after) opcode now) :
    Undisturbed chia state before opcode now := by
  have refused : refusedByChia chia state before <+: refusedByChia chia state (before ++ after) := by
    unfold refusedByChia
    rw [keepBy_append, List.map_append]
    exact List.prefix_append _ _
  have checked : checkedByDig chia state before <+:
      checkedByDig chia state (before ++ after) := by
    unfold checkedByDig
    rw [keepBy_append, List.map_append, List.filter_append]
    exact List.prefix_append _ _
  constructor
  · have part := refused.sublist.filter fun frame => decide (frame.wireType = opcode ∧
      currentPeriod resetSeconds frame.now = currentPeriod resetSeconds now)
    exact List.sublist_nil.mp (undisturbed.letThrough ▸ part)
  · rcases checked with ⟨rest, split⟩
    have kept := undisturbed.kept
    rw [<- split] at kept
    have part := (rdropWhile_prefix_append (fun frame => decide (currentPeriod resetSeconds
      frame.now = currentPeriod resetSeconds now)) (checkedByDig chia state before)
        rest).sublist.filter fun frame => decide (frame.wireType = opcode ∧
          currentPeriod resetSeconds frame.now = currentPeriod resetSeconds now)
    exact List.sublist_nil.mp (kept ▸ part)

theorem checkedByDig_sublist (state : C) :
    (checkedByDig chia state arrivals).Sublist (arrivals.map Arrival.checked) :=
  List.filter_sublist.trans ((keepBy_sublist _ [] arrivals).map Arrival.checked)

/-- Where the clock does not go back, no window is left before its last frame. -/
theorem kept_of_clock (rateLimitFactor : Float) (startAgain : Nat) (state : C)
    (clock : arrivals.Pairwise fun earlier later => earlier.nowAgain ≤ later.nowAgain)
    (past : ∀ arrival ∈ arrivals, arrival.nowAgain ≤ now) :
    inWindow resetSeconds (currentPeriod resetSeconds now) opcode
      ((checkedByDig chia state arrivals).rdropWhile fun frame =>
        decide (currentPeriod resetSeconds frame.now = currentPeriod resetSeconds now)) = [] := by
  have ordered : (digHalf rateLimitFactor startAgain).meter.Ordered
      (checkedByDig chia state arrivals) := by
    refine List.Pairwise.sublist (checkedByDig_sublist state) ?_
    rw [List.pairwise_map]
    exact clock.imp fun before => Nat.div_le_div_right before
  have within : ∀ frame ∈ checkedByDig chia state arrivals,
      (digHalf rateLimitFactor startAgain).meter.window frame ≤ currentPeriod resetSeconds now := by
    intro frame member
    rcases List.mem_map.mp ((checkedByDig_sublist state).subset member) with ⟨arrival, arrived, rfl⟩
    exact Nat.div_le_div_right (past arrival arrived)
  have parted := (Meter.heard_of_ordered ordered within opcode).trans
    (Meter.inWindow_eq_append _ _ _)
  exact List.self_eq_append_left.mp parted

/-! ## The verdicts -/

/-- The gate's verdict on a frame of the table, by what is counted of its opcode. -/
theorem allowedByGate_eq {row : RateLimit} {past : List Arrival} {arrival : Arrival}
    (found : digExtensionRateLimitsMap.lookup arrival.msg.msgType = some row)
    (banded : digWireBandStart ≤ arrival.msg.msgType) :
    allowedByGate chia rateLimitFactor start startAgain past arrival =
      (chiaAllows chia (chia.new resetSeconds rateLimitFactor start) past arrival &&
        ((digHalf rateLimitFactor startAgain).weigh (DigRateLimiterIn.charged
          (heardByDig chia (chia.new resetSeconds rateLimitFactor start) arrival.msg.msgType
            arrival.nowAgain past)) arrival.checked).1) := by
  rcases @afterArrivals_eq C chia (.new chia rateLimitFactor start startAgain) past with
    ⟨base, dig⟩
  rw [dig_new] at dig
  unfold allowedByGate
  cases allowed : chiaAllows chia (chia.new resetSeconds rateLimitFactor start) past arrival with
  | false =>
      unfold chiaAllows at allowed
      rw [allows_refused (base ▸ allowed), Bool.false_and]
  | true =>
      unfold chiaAllows at allowed
      rw [allows_banded (base ▸ allowed) banded, Bool.true_and]
      have asked := congrArg Prod.fst (check_inFloats
        (afterArrivals chia (.new chia rateLimitFactor start startAgain) past).dig arrival.checked)
      refine asked.symm.trans ?_
      rw [dig, DigRateLimiterIn.check_afterChecks]
      refine (Meter.check_after (currentPeriod resetSeconds startAgain) _ _).trans ?_
      rw [<- DigRateLimiterIn.tallyOf_incoming (digHalf_row found rateLimitFactor startAgain) rfl
        wireType_of_heard]
      rfl

/-- While nothing was refused or forgotten, a frame is admitted as if all had been charged. -/
theorem allowedByGate_undisturbed {row : RateLimit} {past : List Arrival} {arrival : Arrival}
    (found : digExtensionRateLimitsMap.lookup arrival.msg.msgType = some row)
    (banded : digWireBandStart ≤ arrival.msg.msgType)
    (undisturbed : Undisturbed chia (chia.new resetSeconds rateLimitFactor start) past
      arrival.msg.msgType arrival.nowAgain) :
    allowedByGate chia rateLimitFactor start startAgain past arrival =
      allowedIfCharged chia rateLimitFactor start startAgain past arrival := by
  have above : decide (arrival.msg.msgType < digWireBandStart) = false :=
    decide_eq_false (UInt8.not_lt.mpr banded)
  rw [allowedByGate_eq found banded, heard_of_undisturbed banded undisturbed]
  unfold allowedIfCharged
  rw [above, Bool.false_or]

theorem offered_eq_map (arrivals : List Arrival) :
    offered opcode now arrivals = (arrivals.filter fun arrival =>
      decide (arrival.msg.msgType = opcode ∧
        currentPeriod resetSeconds arrival.nowAgain = currentPeriod resetSeconds now)).map
          Arrival.checked :=
  List.filter_map

/-- What is admitted of an opcode while nothing of it was refused or forgotten. -/
theorem offered_admitted {row : RateLimit}
    (found : digExtensionRateLimitsMap.lookup opcode = some row)
    (banded : digWireBandStart ≤ opcode)
    (undisturbed : Undisturbed chia (chia.new resetSeconds rateLimitFactor start) arrivals
      opcode now) :
    offered opcode now (keepBy (allowedByGate chia rateLimitFactor start startAgain) [] arrivals) =
      offered opcode now
        (keepBy (allowedIfCharged chia rateLimitFactor start startAgain) [] arrivals) := by
  rw [offered_eq_map, offered_eq_map]
  apply congrArg
  apply filter_keepBy_congr
  intro before arrival after split here
  rcases of_decide_eq_true here with ⟨rfl, same⟩
  apply allowedByGate_undisturbed found banded
  have earlier : Undisturbed chia (chia.new resetSeconds rateLimitFactor start) before
      arrival.msg.msgType now :=
    undisturbed_prefix (split ▸ undisturbed)
  refine ⟨?_, ?_⟩
  · rw [same]
    exact earlier.letThrough
  · rw [same]
    exact earlier.kept

/-- A right counter that can still move has counted everything. -/
theorem undisturbed_of_counter {row : RateLimit}
    (found : digExtensionRateLimitsMap.lookup opcode = some row)
    (banded : digWireBandStart ≤ opcode) (few : (offered opcode now arrivals).length < 2 ^ 53)
    (counted : (afterArrivals chia (.new chia rateLimitFactor start startAgain) arrivals).counter
      opcode now = charges (offered opcode now arrivals).length) :
    Undisturbed chia (chia.new resetSeconds rateLimitFactor start) arrivals opcode now := by
  have shared := @length_offered C chia arrivals opcode now banded
    (chia.new resetSeconds rateLimitFactor start)
  rw [counter_afterArrivals found, charges_small few, charges_small (by omega)] at counted
  rw [undisturbed_iff_length banded]
  exact asFloat_inj (by omega) few counted

/-- The gate charges every frame of an opcode in a window if the Chia half refused none of them
and the window was not left, and, as long as the counter can hold them, only then.  Where
the clock does not go back the window is not left. -/
theorem chargesEveryFrame_iff (chia : OpcodeRateLimiter C) (rateLimitFactor : Float)
    (start startAgain : Nat) (arrivals : List Arrival) {opcode : UInt8}
    (banded : digWireBandStart ≤ opcode) {row : RateLimit}
    (found : digExtensionRateLimitsMap.lookup opcode = some row) (now : Nat) :
    (Undisturbed chia (chia.new resetSeconds rateLimitFactor start) arrivals opcode now ->
        ChargesEveryFrame chia rateLimitFactor start startAgain arrivals opcode now) ∧
      ((offered opcode now arrivals).length < 2 ^ 53 ->
        ChargesEveryFrame chia rateLimitFactor start startAgain arrivals opcode now ->
          Undisturbed chia (chia.new resetSeconds rateLimitFactor start) arrivals opcode now) ∧
      (arrivals.Pairwise (fun earlier later => earlier.nowAgain ≤ later.nowAgain) ->
        (∀ arrival ∈ arrivals, arrival.nowAgain ≤ now) ->
          (Undisturbed chia (chia.new resetSeconds rateLimitFactor start) arrivals opcode now ↔
            inWindow resetSeconds (currentPeriod resetSeconds now) opcode
              (refusedByChia chia (chia.new resetSeconds rateLimitFactor start) arrivals) = [])) := by
  refine ⟨?_, ?_, ?_⟩
  · intro undisturbed
    constructor
    · rw [counter_afterArrivals found, heard_of_undisturbed banded undisturbed]
    · rw [offered_admitted found banded undisturbed]
  · intro few charging
    exact undisturbed_of_counter found banded few charging.counted
  · intro clock past
    exact ⟨Undisturbed.letThrough, fun letThrough =>
      ⟨letThrough, kept_of_clock rateLimitFactor startAgain _ clock past⟩⟩

end Promise

namespace Charging

/-- A Chia half with its default bounds, in one window: a hundred frames of at most a mebibyte,
and each frame it is asked about is charged. -/
def defaultBound : OpcodeRateLimiter Nat where
  new := fun _ _ _ => 0
  allow := fun asked msg _ =>
    (decide (asked < 100) && decide (msg.data.length ≤ 1024 * 1024), asked + 1)

def announcement (length : Nat) : Arrival where
  msg := { msgType := storeMelted, id := none, data := List.replicate length 0 }
  now := 0
  nowAgain := 0

/-- A frame beyond a mebibyte, and then as many legal ones as the row admits. -/
def junkFirst : List Arrival :=
  announcement (1024 * 1024 + 1) :: List.replicate 10 (announcement StoreMeltedAnnounce.encodedLen)

theorem defaultBound_long {length : Nat} (long : 1024 * 1024 < length) (past : List Arrival) :
    chiaAllows defaultBound 0 past (announcement length) = false := by
  change (decide (_ < 100) &&
    decide ((announcement length).msg.data.length ≤ 1024 * 1024)) = false
  have size : (announcement length).msg.data.length = length := List.length_replicate
  rw [size, decide_eq_false (Nat.not_le.mpr long), Bool.and_false]

theorem storeMelted_row : digExtensionRateLimitsMap.lookup storeMelted =
    some (RateLimit.new 10 StoreMeltedAnnounce.encodedLen) := rfl

end Charging

open Charging in
theorem chargesEveryFrame_twice :
    ChargesEveryFrame defaultBound (asFloat 1) 0 0
      (List.replicate 2 (announcement StoreMeltedAnnounce.encodedLen)) storeMelted 0 :=
  (chargesEveryFrame_iff defaultBound (asFloat 1) 0 0
    (List.replicate 2 (announcement StoreMeltedAnnounce.encodedLen)) (by decide) storeMelted_row
    0).1 ⟨by decide +kernel, by decide +kernel⟩

open Charging in
/-- The frame that the Chia half refuses for its size is not counted. -/
theorem not_chargesEveryFrame_junk :
    ¬ ChargesEveryFrame defaultBound (asFloat 1) 0 0 junkFirst storeMelted 0 := by
  intro charging
  have refused := defaultBound_long (Nat.lt_succ_self (1024 * 1024)) []
  have listed : announcement (1024 * 1024 + 1) ∈ keepBy
      (fun past arrival => !chiaAllows defaultBound 0 past arrival) [] junkFirst :=
    mem_keepBy.mpr ⟨[], _, rfl, congrArg not refused⟩
  have lost : (announcement (1024 * 1024 + 1)).checked ∈ inWindow resetSeconds
      (currentPeriod resetSeconds 0) storeMelted (refusedByChia defaultBound 0 junkFirst) :=
    List.mem_filter.mpr ⟨List.mem_map_of_mem listed, decide_eq_true ⟨rfl, rfl⟩⟩
  have few : (offered storeMelted 0 junkFirst).length ≤ 11 := by
    refine (List.length_filter_le _ _).trans (Nat.le_of_eq ?_)
    rw [List.length_map]
    rfl
  have undisturbed : Undisturbed defaultBound 0 junkFirst storeMelted 0 :=
    undisturbed_of_counter storeMelted_row (by decide) (by omega) charging.counted
  rw [undisturbed.letThrough] at lost
  cases lost

end Service
end DigGossip
