import Mathlib.Tactic.Abel
import DigGossip.Foundations.Moments
import DigGossip.Service.Retirement
import DigGossip.Service.Sends

namespace DigGossip
namespace Service

open Foundations DigGossip.Types

/-!
# What the statistics add up

A frame handed to a link is metered on the slot that its peer holds afterwards,
and a delivery without a link is counted apart.  A snapshot lists the live
slots, reads the counters of one after the other, then the counters kept apart,
and last the peer map.  The others go on meanwhile, so each figure is exact at
its own moment.  The figures of a connection that has left leave the snapshot
with it, and a connection that takes its place begins at zero.
-/

/-! ## What was metered -/

/-- The generation and the length of a frame whose counters were found. -/
def foundBy : SendDeed -> Option (Nat × Nat)
  | ⟨.inr (.findTraffic _ wireLen), some generation⟩ => some (generation, wireLen)
  | _ => none

def foundFrames (past : List SendDeed) : List (Nat × Nat) :=
  past.filterMap foundBy

/-- The generation and the length of a frame that was metered. -/
def meteredBy : SendDeed -> Option (Nat × Nat)
  | ⟨.inr (.recordMessageSent generation wireLen), _⟩ => some (generation, wireLen)
  | _ => none

def meteredFrames (past : List SendDeed) : List (Nat × Nat) :=
  past.filterMap meteredBy

/-- The deliveries that were counted without a slot. -/
def messagesBy : SendDeed -> Option Nat
  | ⟨.inr (.countMessages deliveries), _⟩ => some deliveries
  | _ => none

def countedMessages (past : List SendDeed) : List Nat :=
  past.filterMap messagesBy

/-- The bytes that were counted without a slot. -/
def bytesBy : SendDeed -> Option Nat
  | ⟨.inr (.countBytes wireLen deliveries), _⟩ => some (Nat.min (wireLen * deliveries) u64Max)
  | _ => none

def countedBytes (past : List SendDeed) : List Nat :=
  past.filterMap bytesBy

/-- The connection of a generation is held. -/
def isHeld (peers : Peers) (generation : Nat) : Bool :=
  decide (0 < heldCount generation peers)

/-- The frames metered on connections that are held now. -/
def meteredOnHeld (past : List SendDeed) (peers : Peers) : List (Nat × Nat) :=
  (meteredFrames past).filter fun frame => isHeld peers frame.1

/-! ## Saturating sums -/

/-- What a capped sum adds twice over, it caps once. -/
theorem saturatingAdd_min (cap left right : Nat) :
    saturatingAdd cap (Nat.min left cap) (Nat.min right cap) = Nat.min (left + right) cap := by
  change min (min left cap + min right cap) cap = min (left + right) cap
  omega

theorem saturatingAdd_min_left (cap left right : Nat) :
    saturatingAdd cap (Nat.min left cap) right = Nat.min (left + right) cap := by
  change min (min left cap + right) cap = min (left + right) cap
  omega

section Figures

/-- The frames of one generation. -/
def framesOf (frames : List (Nat × Nat)) (generation : Nat) : List (Nat × Nat) :=
  frames.filter fun frame => frame.1 == generation

/-- The counters that these frames make. -/
def metricsOf (frames : List (Nat × Nat)) : WireMetrics where
  bytesWritten := Nat.min (frames.map Prod.snd).sum u64Max
  messagesSent := Nat.min frames.length u64Max

/-- The sums of the counters that some lists of frames make. -/
theorem foldl_metricsOf (slots : List (List (Nat × Nat))) (messages bytes : Nat) :
    slots.foldl (fun sums frames => addMetrics sums (metricsOf frames))
        (Nat.min messages u64Max, Nat.min bytes u64Max) =
      (Nat.min (messages + (slots.map List.length).sum) u64Max,
        Nat.min (bytes + (slots.map fun frames => (frames.map Prod.snd).sum).sum) u64Max) := by
  induction slots generalizing messages bytes with
  | nil => rfl
  | cons frames slots inner =>
      rw [List.foldl_cons, List.map_cons, List.map_cons, List.sum_cons, List.sum_cons,
        <- Nat.add_assoc, <- Nat.add_assoc]
      simp only [addMetrics, metricsOf, saturatingAdd_min]
      exact inner _ _

/-- The live slots of a generation. -/
theorem count_liveGenerations (s : ServiceState) (order : PeerId -> Nat) (generation : Nat) :
    (s.liveGenerations order).count generation = heldCount generation s.peers := by
  rw [ServiceState.liveGenerations, List.count_filterMap, countP_listing, heldCount,
    FiniteMap.countWhere, FiniteMap.keysWhere]
  congr 1
  apply Finset.filter_congr
  intro peerId member
  rw [ServiceState.liveGeneration]
  cases s.peers.lookup peerId with
  | none => simp
  | some slot => cases slot <;> simp [PeerSlot.isLiveOf]

/-- A frame counts once for every time its generation is listed. -/
theorem sum_framesOf_cons (weight : Nat × Nat -> Nat) (frame : Nat × Nat)
    (frames : List (Nat × Nat)) (generations : List Nat) :
    (generations.map fun generation =>
        ((framesOf (frame :: frames) generation).map weight).sum).sum =
      weight frame * generations.count frame.1 +
        (generations.map fun generation => ((framesOf frames generation).map weight).sum).sum := by
  induction generations with
  | nil => rfl
  | cons generation generations inner =>
      rw [List.map_cons, List.sum_cons, inner, List.map_cons, List.sum_cons, List.count_cons,
        framesOf, List.filter_cons, framesOf]
      by_cases same : frame.1 = generation
      · rw [if_pos (beq_iff_eq.mpr same), if_pos (beq_iff_eq.mpr same.symm), List.map_cons,
          List.sum_cons, Nat.mul_add, Nat.mul_one]
        omega
      · have apart : ¬ (generation == frame.1) = true := fun equal => same (beq_iff_eq.mp equal).symm
        rw [if_neg fun equal => same (beq_iff_eq.mp equal), if_neg apart, Nat.add_zero]
        omega

/-- Where no generation is held twice, the frames of the live slots are the
frames on held connections. -/
theorem sum_framesOf {s : ServiceState} (once : forall generation, heldCount generation s.peers ≤ 1)
    (weight : Nat × Nat -> Nat) (order : PeerId -> Nat) (frames : List (Nat × Nat)) :
    ((s.liveGenerations order).map fun generation =>
        ((framesOf frames generation).map weight).sum).sum =
      ((frames.filter fun frame => isHeld s.peers frame.1).map weight).sum := by
  induction frames with
  | nil =>
      exact List.sum_eq_zero fun part member => by
        rcases List.mem_map.mp member with ⟨generation, _, rfl⟩
        rfl
  | cons frame frames inner =>
      rw [sum_framesOf_cons, inner, count_liveGenerations, List.filter_cons]
      have most := once frame.1
      by_cases held : isHeld s.peers frame.1 = true
      · have least : 0 < heldCount frame.1 s.peers := of_decide_eq_true held
        rw [if_pos held, List.map_cons, List.sum_cons, Nat.le_antisymm most least, Nat.mul_one]
      · have none : heldCount frame.1 s.peers = 0 :=
          Nat.eq_zero_of_not_pos fun least => held (decide_eq_true least)
        rw [if_neg held, none, Nat.mul_zero, Nat.zero_add]

end Figures

/-! ## The account -/

/-- What was metered and counted so far is what the state has. -/
structure MeterAccount (past : List SendDeed) (s : GossipState) : Prop where
  conserved : forall generation, heldCount generation s.service.peers +
    (departedSlots (serviceDeeds past)).countP (PeerSlot.isLiveOf generation) =
      (placements (serviceDeeds past)).count generation
  placed : ∀ frame ∈ foundFrames past, frame.1 ∈ placements (serviceDeeds past)
  traffic : forall generation, s.metrics generation =
    metricsOf (framesOf (meteredFrames past) generation)
  messages : s.messagesSent = (countedMessages past).sum % (u64Max + 1)
  bytes : s.bytesSent = (countedBytes past).sum % (u64Max + 1)

section Accounts

variable {past : List SendDeed} {s : GossipState}

/-- A deed that is no part of a list of deeds leaves it as it is. -/
theorem filterMap_append_none {K V : Type} {part : K -> Option V} {last : K}
    (apart : part last = none) (past : List K) :
    (past ++ [last]).filterMap part = past.filterMap part := by
  rw [List.filterMap_append, List.filterMap_cons_none apart, List.filterMap_nil, List.append_nil]

theorem filterMap_append_some {K V : Type} {part : K -> Option V} {last : K} {value : V}
    (past : List K) (own : part last = some value) :
    (past ++ [last]).filterMap part = past.filterMap part ++ [value] := by
  rw [List.filterMap_append, List.filterMap_cons_some own, List.filterMap_nil]

theorem serviceDeeds_inner (past : List SendDeed) (action : Action) (reply : action.Reply) :
    serviceDeeds (past ++ [⟨.inl action, reply⟩]) = serviceDeeds past ++ [⟨action, reply⟩] :=
  filterMap_append_some past (by rfl)

theorem serviceDeeds_outer (past : List SendDeed) (action : SendAction) (reply : action.Reply) :
    serviceDeeds (past ++ [⟨.inr action, reply⟩]) = serviceDeeds past :=
  filterMap_append_none rfl past

theorem MeterAccount.inner (account : MeterAccount past s) (order : PeerId -> Nat)
    (action : Action) :
    MeterAccount (past ++ [⟨.inl action, (exec order action s.service).2⟩])
      { s with service := (exec order action s.service).1 } := by
  constructor
  · intro generation
    rw [serviceDeeds_inner]
    exact conserved_exec (account.conserved generation)
  · rw [foundFrames, filterMap_append_none rfl, serviceDeeds_inner]
    intro frame member
    rw [placements, List.filterMap_append]
    exact List.mem_append_left _ (account.placed frame member)
  · rw [meteredFrames, filterMap_append_none rfl]
    exact account.traffic
  · rw [countedMessages, filterMap_append_none rfl]
    exact account.messages
  · rw [countedBytes, filterMap_append_none rfl]
    exact account.bytes

/-- A deed of a send that finds, meters and counts nothing. -/
structure Unmetered (deed : SendDeed) : Prop where
  found : foundBy deed = none
  metered : meteredBy deed = none
  messages : messagesBy deed = none
  bytes : bytesBy deed = none

theorem MeterAccount.quiet (account : MeterAccount past s) {action : SendAction}
    {reply : action.Reply} (unmetered : Unmetered ⟨.inr action, reply⟩) {after : GossipState}
    (service : after.service = s.service) (traffic : after.traffic = s.traffic)
    (messages : after.messagesSent = s.messagesSent) (bytes : after.bytesSent = s.bytesSent) :
    MeterAccount (past ++ [⟨.inr action, reply⟩]) after := by
  constructor
  · rw [serviceDeeds_outer, service]
    exact account.conserved
  · rw [foundFrames, filterMap_append_none unmetered.found, serviceDeeds_outer]
    exact account.placed
  · rw [meteredFrames, filterMap_append_none unmetered.metered]
    intro generation
    rw [GossipState.metrics, traffic]
    exact account.traffic generation
  · rw [countedMessages, filterMap_append_none unmetered.messages, messages]
    exact account.messages
  · rw [countedBytes, filterMap_append_none unmetered.bytes, bytes]
    exact account.bytes

theorem MeterAccount.countMessages (account : MeterAccount past s) (deliveries : Nat) :
    MeterAccount (past ++ [⟨.inr (.countMessages deliveries), ()⟩])
      (s.countMessages deliveries) := by
  have more : countedMessages (past ++ [⟨.inr (.countMessages deliveries), ()⟩]) =
      countedMessages past ++ [deliveries] := filterMap_append_some past (by rfl)
  constructor
  · rw [serviceDeeds_outer]
    exact account.conserved
  · rw [foundFrames, filterMap_append_none rfl, serviceDeeds_outer]
    exact account.placed
  · rw [meteredFrames, filterMap_append_none rfl]
    exact account.traffic
  · rw [more, List.sum_append, <- Nat.mod_add_mod]
    exact congrArg (fun sent => (sent + deliveries) % (u64Max + 1)) account.messages
  · rw [countedBytes, filterMap_append_none rfl]
    exact account.bytes

theorem MeterAccount.countBytes (account : MeterAccount past s) (wireLen deliveries : Nat) :
    MeterAccount (past ++ [⟨.inr (.countBytes wireLen deliveries), ()⟩])
      (s.countBytes wireLen deliveries) := by
  have more : countedBytes (past ++ [⟨.inr (.countBytes wireLen deliveries), ()⟩]) =
      countedBytes past ++ [Nat.min (wireLen * deliveries) u64Max] :=
    filterMap_append_some past (by rfl)
  constructor
  · rw [serviceDeeds_outer]
    exact account.conserved
  · rw [foundFrames, filterMap_append_none rfl, serviceDeeds_outer]
    exact account.placed
  · rw [meteredFrames, filterMap_append_none rfl]
    exact account.traffic
  · rw [countedMessages, filterMap_append_none rfl]
    exact account.messages
  · rw [more, List.sum_append, <- Nat.mod_add_mod]
    exact congrArg (fun sent => (sent + Nat.min (wireLen * deliveries) u64Max) % (u64Max + 1))
      account.bytes

theorem heldCount_pos_of_liveGeneration {s : ServiceState} {peerId : PeerId} {generation : Nat}
    (live : s.liveGeneration peerId = some generation) : 0 < heldCount generation s.peers := by
  unfold ServiceState.liveGeneration at live
  split at live
  · rename_i slot found
    cases live
    exact FiniteMap.countWhere_pos found (beq_self_eq_true slot.generation)
  · cases live
  · cases live
  · cases live

/-- Counters that are found are those of a connection that was placed. -/
theorem MeterAccount.findTraffic (account : MeterAccount past s) (peerId : PeerId)
    (wireLen : Nat) :
    MeterAccount (past ++ [⟨.inr (.findTraffic peerId wireLen), s.service.liveGeneration peerId⟩])
      s := by
  cases live : s.service.liveGeneration peerId with
  | none => exact account.quiet ⟨rfl, rfl, rfl, rfl⟩ rfl rfl rfl rfl
  | some generation =>
      have more : foundFrames (past ++ [⟨.inr (.findTraffic peerId wireLen), some generation⟩]) =
          foundFrames past ++ [(generation, wireLen)] := filterMap_append_some past (by rfl)
      constructor
      · rw [serviceDeeds_outer]
        exact account.conserved
      · rw [more, serviceDeeds_outer]
        intro frame member
        rcases List.mem_append.mp member with old | new
        · exact account.placed frame old
        · rw [List.mem_singleton.mp new]
          have held := heldCount_pos_of_liveGeneration live
          have balance := account.conserved generation
          have positive : 0 < (placements (serviceDeeds past)).count generation := by omega
          exact List.count_pos_iff.mp positive
      · rw [meteredFrames, filterMap_append_none rfl]
        exact account.traffic
      · rw [countedMessages, filterMap_append_none rfl]
        exact account.messages
      · rw [countedBytes, filterMap_append_none rfl]
        exact account.bytes

/-- One more frame on a generation is one more in its counters. -/
theorem metricsOf_append (frames : List (Nat × Nat)) (generation wireLen : Nat) :
    metricsOf (frames ++ [(generation, wireLen)]) =
      (metricsOf frames).recordMessageSent wireLen := by
  unfold metricsOf WireMetrics.recordMessageSent
  simp only [List.map_append, List.sum_append, List.length_append, List.map_cons, List.map_nil,
    List.sum_cons, List.sum_nil, List.length_cons, List.length_nil, Nat.add_zero, Nat.zero_add,
    saturatingAdd_min_left]

theorem MeterAccount.recordMessageSent (account : MeterAccount past s)
    (generation wireLen : Nat) :
    MeterAccount (past ++ [⟨.inr (.recordMessageSent generation wireLen), ()⟩])
      (s.recordMessageSent generation wireLen) := by
  have more : meteredFrames (past ++ [⟨.inr (.recordMessageSent generation wireLen), ()⟩]) =
      meteredFrames past ++ [(generation, wireLen)] := filterMap_append_some past (by rfl)
  constructor
  · rw [serviceDeeds_outer]
    exact account.conserved
  · rw [foundFrames, filterMap_append_none rfl, serviceDeeds_outer]
    exact account.placed
  · rw [more]
    intro other
    rw [GossipState.metrics, GossipState.recordMessageSent, FiniteMap.lookup_insert_eq,
      framesOf, List.filter_append, List.filter_singleton]
    by_cases same : other = generation
    · subst same
      rw [if_pos rfl, Option.getD_some, account.traffic, beq_self_eq_true]
      exact (metricsOf_append _ other wireLen).symm
    · rw [if_neg same, beq_eq_false_iff_ne.mpr fun equal => same equal.symm]
      exact (account.traffic other).trans (congrArg metricsOf (List.append_nil _).symm)
  · rw [countedMessages, filterMap_append_none rfl]
    exact account.messages
  · rw [countedBytes, filterMap_append_none rfl]
    exact account.bytes

/-- Every action keeps the account. -/
theorem MeterAccount.exec (account : MeterAccount past s) (wire : Wire) (meets : Meets)
    (action : Action ⊕ SendAction) :
    MeterAccount (past ++ [⟨action, (execSends wire meets action s).2⟩])
      (execSends wire meets action s).1 := by
  rcases action with action | action
  · exact account.inner meets.order action
  · cases action with
    | countMessages deliveries => exact account.countMessages deliveries
    | countBytes wireLen deliveries => exact account.countBytes wireLen deliveries
    | findTraffic peerId wireLen => exact account.findTraffic peerId wireLen
    | recordMessageSent generation wireLen => exact account.recordMessageSent generation wireLen
    | see call =>
        simp only [execSends, execSend, Call.see]
        split
        · exact account.quiet ⟨rfl, rfl, rfl, rfl⟩ rfl rfl rfl rfl
        · exact account.quiet ⟨rfl, rfl, rfl, rfl⟩ rfl rfl rfl rfl
    | _ => exact account.quiet ⟨rfl, rfl, rfl, rfl⟩ rfl rfl rfl rfl

end Accounts

/-- The account balances along every run. -/
theorem meterAccount_of_run (start : SendLaunch) (moves : List SendMove) :
    MeterAccount (start.trace moves) (start.after moves).shared := by
  have begun : MeterAccount [] start.state := by
    constructor
    · intro generation
      have none : heldCount generation (∅ : Peers) = 0 := FiniteMap.countWhere_empty _
      exact none
    · exact fun _ member => by cases member
    · exact fun _ => rfl
    · rfl
    · rfl
  exact @System.trace_kept _ _ _ _ _ _ (sending start.wire start.launch.config) MeterAccount
    (fun past meets action s account => account.exec start.wire meets action) []
    (World.idle start.state) begun moves

/-! ## What is begun is finished -/

/-- What a send has begun: a frame whose counters are to be looked up, counters
that are to be written, and deliveries whose bytes are to be counted. -/
inductive Begun where
  | lookup (peerId : PeerId) (wireLen : Nat)
  | entry (generation wireLen : Nat)
  | bytes (deliveries : Nat)
deriving DecidableEq

section HandedOver

variable (wire : Wire)

/-- A frame that a link or a sink took is to be metered, and so is the answer of
a forwarder, whatever became of it. -/
def begunBy : SendDeed -> Option Begun
  | ⟨.inr (.sendMessage _ peerId message), .ok _⟩ =>
      some (.lookup peerId (messageWireLen wire message))
  | ⟨.inr (.answer _ peerId reply), _⟩ => some (.lookup peerId (messageWireLen wire reply))
  | ⟨.inr (.offer _ peerId message), true⟩ => some (.lookup peerId (messageWireLen wire message))
  | ⟨.inr (.findTraffic _ wireLen), some generation⟩ => some (.entry generation wireLen)
  | ⟨.inr (.countMessages deliveries), _⟩ => some (.bytes deliveries)
  | _ => none

def begun (past : List SendDeed) : List Begun :=
  past.filterMap (begunBy wire)

/-- What an action finishes. -/
def finishes : Action ⊕ SendAction -> Option Begun
  | .inr (.findTraffic peerId wireLen) => some (.lookup peerId wireLen)
  | .inr (.recordMessageSent generation wireLen) => some (.entry generation wireLen)
  | .inr (.countBytes _ deliveries) => some (.bytes deliveries)
  | _ => none

def finished (past : List SendDeed) : List Begun :=
  past.filterMap fun deed => finishes deed.1

/-- Only what was begun is finished. -/
def finishDue (owed : Multiset Begun) (action : Action ⊕ SendAction) : Prop :=
  forall debt, finishes action = some debt -> debt ∈ owed

def settleBegun (owed : Multiset Begun) (action : Action ⊕ SendAction)
    (reply : Sum.elim Action.Reply SendAction.Reply action) : Multiset Begun :=
  (begunBy wire ⟨action, reply⟩).toList + (owed - (finishes action).toList)

/-- A program that finishes what it owes and what it begins, and nothing else. -/
def Finishes {R : Type} (owed : Multiset Begun) (program : SendProgram R) : Prop :=
  program.wp finishDue (settleBegun wire) owed fun _ after => after = 0

variable {wire} {R T : Type}

theorem Finishes.bind {program : SendProgram R} {owed : Multiset Begun}
    (finishes : Finishes wire owed program) {rest : R -> SendProgram T}
    (after : forall result, Finishes wire 0 (rest result)) :
    Finishes wire owed (program >>= rest) := by
  unfold Finishes
  rw [Program.wp_bind]
  refine Program.wp_mono finishes ?_
  intro result ledger none
  rw [none]
  exact after result

theorem Finishes.pure (result : R) : Finishes wire 0 (Pure.pure result : SendProgram R) :=
  rfl

theorem Finishes.map {program : SendProgram R} (finishes : Finishes wire 0 program)
    (change : R -> T) : Finishes wire 0 (change <$> program) :=
  finishes.bind fun _ => Finishes.pure _

theorem finishes_inService (program : ServiceProgram R) : Finishes wire 0 (inService program) := by
  induction program with
  | done result => rfl
  | act action next inner => exact ⟨fun _ own => (by cases own), fun reply => inner reply⟩

theorem settleBegun_none {action : Action ⊕ SendAction}
    {reply : Sum.elim Action.Reply SendAction.Reply action}
    (starts : begunBy wire ⟨action, reply⟩ = none) (ends : finishes action = none) :
    settleBegun wire 0 action reply = 0 := by
  rw [settleBegun, starts, ends]
  rfl

/-- An action that begins and finishes nothing. -/
theorem finishes_apart {action : SendAction} {rest : action.Reply -> SendProgram R}
    (starts : forall reply, begunBy wire ⟨.inr action, reply⟩ = none)
    (ends : finishes (.inr action) = none) (after : forall reply, Finishes wire 0 (rest reply)) :
    Finishes wire 0 (performSend action >>= rest) := by
  refine ⟨fun debt own => (by rw [ends] at own; cases own), fun reply => ?_⟩
  rw [settleBegun_none (starts reply) ends]
  exact after reply

theorem settleBegun_sent (link : LinkId) (peerId : PeerId) (message : DigMessage) :
    settleBegun wire 0 (.inr (.sendMessage link peerId message)) (.ok ()) =
      {.lookup peerId (messageWireLen wire message)} := by
  simp [settleBegun, begunBy, finishes]

theorem settleBegun_answer (link : LinkId) (peerId : PeerId) (reply : DigMessage)
    (sent : Except String Unit) :
    settleBegun wire 0 (.inr (.answer link peerId reply)) sent =
      {.lookup peerId (messageWireLen wire reply)} := by
  simp [settleBegun, begunBy, finishes]

theorem settleBegun_offered (sink : SinkId) (peerId : PeerId) (message : DigMessage) :
    settleBegun wire 0 (.inr (.offer sink peerId message)) true =
      {.lookup peerId (messageWireLen wire message)} := by
  simp [settleBegun, begunBy, finishes]

/-- What was begun with a frame is finished by looking its counters up and
writing them. -/
theorem finishes_recorded (peerId : PeerId) (wireLen : Nat) :
    Finishes wire {.lookup peerId wireLen} (recordLivePeerOutboundBytes peerId wireLen) := by
  refine ⟨fun debt own => ?_, fun found => ?_⟩
  · cases own
    exact Multiset.mem_singleton_self _
  · cases found with
    | none =>
        have paid : settleBegun wire {.lookup peerId wireLen} (.inr (.findTraffic peerId wireLen))
            none = 0 := by
          simp [settleBegun, begunBy, finishes]
        exact paid
    | some generation =>
        have moved : settleBegun wire {.lookup peerId wireLen} (.inr (.findTraffic peerId wireLen))
            (some generation) = {.entry generation wireLen} := by
          simp [settleBegun, begunBy, finishes]
        have paid : settleBegun wire {.entry generation wireLen}
            (.inr (.recordMessageSent generation wireLen)) () = 0 := by
          simp [settleBegun, begunBy, finishes]
        rw [moved]
        refine ⟨fun debt own => ?_, fun written => paid⟩
        cases own
        exact Multiset.mem_singleton_self _

theorem finishes_countSent (wireLen deliveries : Nat) :
    Finishes wire 0 (countSent wireLen deliveries) := by
  have moved : settleBegun wire 0 (.inr (.countMessages deliveries)) () = {.bytes deliveries} := by
    simp [settleBegun, begunBy, finishes]
  have paid : settleBegun wire {.bytes deliveries} (.inr (.countBytes wireLen deliveries)) () =
      0 := by
    simp [settleBegun, begunBy, finishes]
  refine ⟨fun debt own => (by cases own), fun messages => ?_⟩
  cases messages
  rw [moved]
  refine ⟨fun debt own => ?_, fun bytes => paid⟩
  cases own
  exact Multiset.mem_singleton_self _

theorem finishes_sendUnbanned (peerId : PeerId) (message : DigMessage) :
    Finishes wire 0 (sendUnbanned wire peerId message) := by
  refine finishes_apart (fun _ => rfl) rfl fun found => ?_
  rcases found with _ | _ | link
  · exact Finishes.pure _
  · exact (finishes_countSent _ _).bind fun _ => Finishes.pure _
  · refine ⟨fun debt own => (by cases own), fun answer => ?_⟩
    cases answer with
    | error detail => rfl
    | ok sent =>
        rw [settleBegun_sent]
        exact (finishes_recorded _ _).bind fun _ => Finishes.pure _

theorem finishes_sendDirectedMessage (peerId : PeerId) (message : DigMessage) :
    Finishes wire 0 (sendDirectedMessage wire peerId message) := by
  refine (finishes_inService _).bind fun running => ?_
  cases running with
  | false => exact Finishes.pure _
  | true =>
      refine (finishes_inService _).bind fun now => ?_
      refine (finishes_inService _).bind fun banned => ?_
      cases banned with
      | false => exact finishes_sendUnbanned peerId message
      | true => exact Finishes.pure _

theorem finishes_pushEager (message : DigMessage) (jobs : List (LinkId × PeerId)) :
    Finishes wire 0 (pushEager wire message jobs) := by
  induction jobs with
  | nil => exact Finishes.pure _
  | cons job jobs inner =>
      refine ⟨fun debt own => (by cases own), fun answer => ?_⟩
      cases answer with
      | error detail => rfl
      | ok sent =>
          rw [settleBegun_sent]
          exact (finishes_recorded _ _).bind fun _ => inner

theorem finishes_offerNat (message : DigMessage) (jobs : List (SinkId × PeerId)) :
    Finishes wire 0 (offerNat wire message jobs) := by
  induction jobs with
  | nil => exact Finishes.pure _
  | cons job jobs inner =>
      refine ⟨fun debt own => (by cases own), fun taken => ?_⟩
      cases taken with
      | false => exact inner
      | true =>
          rw [settleBegun_offered]
          exact (finishes_recorded _ _).bind fun _ => inner.bind fun more => Finishes.pure _

theorem finishes_deliverJobs (message : DigMessage) (jobs : Jobs) :
    Finishes wire 0 (deliverJobs wire message jobs) := by
  refine (finishes_countSent _ _).bind fun _ => ?_
  refine (finishes_pushEager message jobs.eager).bind fun result => ?_
  cases result with
  | error error => exact Finishes.pure _
  | ok sent =>
      refine (finishes_offerNat message jobs.nat).bind fun deliveries => ?_
      exact (finishes_countSent _ _).bind fun _ => Finishes.pure _

theorem finishes_fanOutSteps (call : Call) : Finishes wire 0 (fanOutSteps wire call) := by
  refine (finishes_inService _).bind fun running => ?_
  cases running with
  | false => exact Finishes.pure _
  | true =>
      refine finishes_apart (fun _ => rfl) rfl fun suppressed => ?_
      cases suppressed with
      | true => exact Finishes.pure _
      | false =>
          refine finishes_apart (fun _ => rfl) rfl fun _ => ?_
          refine finishes_apart (fun _ => rfl) rfl fun jobs => ?_
          exact finishes_deliverJobs call.message jobs

theorem finishes_forwardFrame (emptyRespondPeers : Except String (List UInt8)) (link : LinkId)
    (peerId : PeerId) (message : DigMessage) :
    Finishes wire 0 (forwardFrame wire emptyRespondPeers link peerId message) := by
  unfold forwardFrame
  split
  · cases emptyRespondPeers with
    | error detail => exact Finishes.pure _
    | ok body =>
        refine ⟨fun debt own => (by cases own), fun sent => ?_⟩
        have opened : settleBegun wire 0 (.inr (.answer link peerId
            { msgType := respondPeersOpcode, id := message.id, data := body })) sent =
            {.lookup peerId (messageWireLen wire
              { msgType := respondPeersOpcode, id := message.id, data := body })} :=
          settleBegun_answer link peerId _ sent
        rw [opened]
        exact finishes_recorded _ _
  · exact Finishes.pure _

theorem finishes_sumTraffic (sums : Nat × Nat) (generations : List Nat) :
    Finishes wire 0 (sumTraffic sums generations) := by
  induction generations generalizing sums with
  | nil => exact Finishes.pure _
  | cons generation generations inner =>
      exact finishes_apart (fun _ => rfl) rfl fun metrics => inner _

theorem finishes_stats : Finishes wire 0 stats := by
  refine Finishes.bind (finishes_apart (fun _ => rfl) rfl (finishes_sumTraffic _)) fun live => ?_
  refine finishes_apart (fun _ => rfl) rfl fun messagesSent => ?_
  refine finishes_apart (fun _ => rfl) rfl fun bytesSent => ?_
  refine finishes_apart (fun _ => rfl) rfl fun totalConnections => ?_
  refine finishes_apart (fun _ => rfl) rfl fun peers => ?_
  exact finishes_apart (fun _ => rfl) rfl fun seenMessages => Finishes.pure _

theorem finishes_program (config : GossipConfig) (op : SendOperation) :
    Finishes wire 0 (op.program wire config) := by
  cases op with
  | service op => exact (finishes_inService _).map _
  | sendFrame peerId message => exact (finishes_sendDirectedMessage peerId message).map _
  | broadcast message exclude => exact (finishes_fanOutSteps _).map _
  | broadcastLocal message exclude => exact (finishes_fanOutSteps _).map _
  | forward emptyRespondPeers link peerId message =>
      exact (finishes_forwardFrame emptyRespondPeers link peerId message).map _
  | stats => exact finishes_stats.map _

end HandedOver

/-- What was begun is what was finished and what is owed. -/
def HandOver (wire : Wire) (past : List SendDeed) (owed : Multiset Begun) : Prop :=
  (begun wire past : Multiset Begun) = finished past + owed

theorem finishes_le_of_due {owed : Multiset Begun} {action : Action ⊕ SendAction}
    (due : finishDue owed action) : ((finishes action).toList : Multiset Begun) ≤ owed := by
  cases own : finishes action with
  | none => exact Multiset.zero_le owed
  | some debt => exact Multiset.singleton_le.mpr (due debt own)

/-- What is opened and closed at once moves across the balance. -/
theorem add_settled {K : Type} [DecidableEq K] (past others opened : Multiset K)
    {closed owed : Multiset K} (covered : closed ≤ owed) :
    past + (others + owed) + opened = past + closed + (others + (opened + (owed - closed))) := by
  rcases exists_add_of_le covered with ⟨rest, rfl⟩
  rw [add_tsub_cancel_left]
  abel

theorem filterMap_append_single {K V : Type} (part : K -> Option V) (past : List K) (last : K) :
    (past ++ [last]).filterMap part = past.filterMap part ++ (part last).toList := by
  rw [List.filterMap_append]
  cases found : part last <;> simp [found]

theorem HandOver.exec {wire : Wire} {past : List SendDeed} {others owed : Multiset Begun}
    {action : Action ⊕ SendAction} (balance : HandOver wire past (others + owed))
    (due : finishDue owed action) (reply : Sum.elim Action.Reply SendAction.Reply action) :
    HandOver wire (past ++ [⟨action, reply⟩])
      (others + settleBegun wire owed action reply) := by
  have beginning : (begun wire (past ++ [⟨action, reply⟩]) : Multiset Begun) =
      begun wire past + (begunBy wire ⟨action, reply⟩).toList := by
    rw [begun, filterMap_append_single, <- Multiset.coe_add, begun]
  have finishing : (finished (past ++ [⟨action, reply⟩]) : Multiset Begun) =
      finished past + (finishes action).toList := by
    rw [finished, filterMap_append_single, <- Multiset.coe_add, finished]
  rw [HandOver] at balance
  rw [HandOver, beginning, finishing, balance]
  exact add_settled _ _ _ (finishes_le_of_due due)

/-- Along every run what was begun is what was finished and what the sends under
way still owe. -/
theorem handOver_of_run (start : SendLaunch) (moves : List SendMove) :
    System.BalancedKnowing id finishDue (settleBegun start.wire) (fun _ _ => True)
      (fun past _ => HandOver start.wire past) (start.trace moves) (start.after moves) := by
  have begun : System.BalancedKnowing id finishDue (settleBegun start.wire) (fun _ _ => True)
      (fun past _ => HandOver start.wire past) [] (World.idle start.state : SendWorld) :=
    ⟨0, System.Accounts.nil, rfl⟩
  have free : (sending start.wire start.launch.config).along
      (System.onAction fun _ _ _ => true) moves (World.idle start.state) = true := by
    refine System.along_always (fun w move => ?_) moves _
    cases move with
    | spawn op => rfl
    | advance thread meets =>
        simp only [System.onAction]
        split <;> rfl
  refine System.balancedKnowing_run (fun w op _ => ⟨0, rfl, trivial, ?_⟩) (fun _ _ _ ok => ok)
    (fun _ _ _ _ _ _ => trivial) (fun _ _ _ _ _ _ => trivial)
    (fun past meets action s others owed _ _ due balance => balance.exec due _) free begun
  exact finishes_program start.launch.config op

/-- Once no send is under way, everything begun is finished, and nothing else. -/
theorem begun_perm_finished (start : SendLaunch) (moves : List SendMove)
    (settled : (start.after moves).settled = true) :
    (begun start.wire (start.trace moves)).Perm (finished (start.trace moves)) := by
  have final := (handOver_of_run start moves).settled settled
  rw [HandOver, add_zero] at final
  exact Multiset.coe_eq_coe.mp final

theorem mem_finished_of_metered {past : List SendDeed} {frame : Nat × Nat}
    (metered : frame ∈ meteredFrames past) : Begun.entry frame.1 frame.2 ∈ finished past := by
  rcases List.mem_filterMap.mp metered with ⟨deed, done, own⟩
  refine List.mem_filterMap.mpr ⟨deed, done, ?_⟩
  unfold meteredBy at own
  split at own
  · cases own
    rfl
  · cases own

theorem found_of_mem_begun {wire : Wire} {past : List SendDeed} {generation wireLen : Nat}
    (entered : Begun.entry generation wireLen ∈ begun wire past) :
    (generation, wireLen) ∈ foundFrames past := by
  rcases List.mem_filterMap.mp entered with ⟨deed, done, own⟩
  refine List.mem_filterMap.mpr ⟨deed, done, ?_⟩
  unfold begunBy at own
  split at own <;> cases own
  rfl

/-- A frame is metered only on counters that were found. -/
theorem found_of_metered (start : SendLaunch) (moves : List SendMove) {frame : Nat × Nat}
    (metered : frame ∈ meteredFrames (start.trace moves)) :
    frame ∈ foundFrames (start.trace moves) := by
  rcases handOver_of_run start moves with ⟨owed, _, balance⟩
  have entered : Begun.entry frame.1 frame.2 ∈
      (begun start.wire (start.trace moves) : Multiset Begun) := by
    rw [HandOver] at balance
    rw [balance]
    exact Multiset.mem_add.mpr (Or.inl (mem_finished_of_metered metered))
  exact found_of_mem_begun entered

/-! ## The snapshot -/

/-- When a snapshot read what it reports: the list of the live slots, the
counters of each generation on it, and the rest.  A moment is the number of the
moves before it. -/
structure StatsMoments where
  listed : Nat
  traffic : List (Nat × Nat)
  messagesSent : Nat
  bytesSent : Nat
  totalConnections : Nat
  peers : Nat
  seenMessages : Nat

def StatsMoments.inOrder (moments : StatsMoments) : List Nat :=
  moments.listed :: (moments.traffic.map Prod.snd ++
    [moments.messagesSent, moments.bytesSent, moments.totalConnections, moments.peers,
      moments.seenMessages])

namespace SendLaunch

variable (start : SendLaunch) (moves : List SendMove)

/-- The state at a moment of a run. -/
def stateAt (moment : Nat) : GossipState :=
  (start.after (moves.take moment)).shared

/-- What was done before a moment of a run. -/
def pastAt (moment : Nat) : List SendDeed :=
  start.trace (moves.take moment)

/-- The frames metered on a generation until its counters were read. -/
def framesRead (row : Nat × Nat) : List (Nat × Nat) :=
  framesOf (meteredFrames (start.pastAt moves row.2)) row.1

end SendLaunch

/-- What a snapshot says is sent, and which connections it counts, each figure
as it was when it was read. -/
structure StatsExact (start : SendLaunch) (moves : List SendMove) (moments : StatsMoments)
    (snapshot : GossipStats) : Prop where
  inOrder : System.Ordered 0 moves moments.inOrder
  listed : exists order, moments.traffic.map Prod.fst =
    (start.stateAt moves moments.listed).service.liveGenerations order
  once : (moments.traffic.map Prod.fst).Nodup
  messages : snapshot.messagesSent =
    (Nat.min (moments.traffic.map fun row => (start.framesRead moves row).length).sum u64Max +
      (countedMessages (start.pastAt moves moments.messagesSent)).sum) % (u64Max + 1)
  bytes : snapshot.bytesSent =
    (Nat.min (moments.traffic.map fun row =>
        ((start.framesRead moves row).map Prod.snd).sum).sum u64Max +
      (countedBytes (start.pastAt moves moments.bytesSent)).sum) % (u64Max + 1)
  total : snapshot.totalConnections =
    (start.stateAt moves moments.totalConnections).service.totalConnections
  peers : snapshot.toPeerCounts = (start.stateAt moves moments.peers).service.peerCounts
  sides : snapshot.inboundConnections + snapshot.outboundConnections = snapshot.connectedPeers
  seen : snapshot.seenMessages =
    (start.stateAt moves moments.seenMessages).seenMessages.entries.length

/-- What a snapshot says is sent that nothing interferes with. -/
structure StatsAlone (past : List SendDeed) (peers : Peers) (snapshot : GossipStats) : Prop where
  messages : snapshot.messagesSent =
    (Nat.min (meteredOnHeld past peers).length u64Max + (countedMessages past).sum) %
      (u64Max + 1)
  bytes : snapshot.bytesSent =
    (Nat.min ((meteredOnHeld past peers).map Prod.snd).sum u64Max + (countedBytes past).sum) %
      (u64Max + 1)

theorem inbound_add_outbound (peers : Peers) :
    (FiniteMap.countWhere peers fun _ slot => !slot.isOutbound) +
        (FiniteMap.countWhere peers fun _ slot => slot.isOutbound) = FiniteMap.size peers := by
  have sides : (FiniteMap.countWhere peers fun _ slot => !slot.isOutbound) +
      (FiniteMap.countWhere peers fun _ slot => slot.isOutbound) =
        (FiniteMap.countWhere peers fun _ _ => true) +
          FiniteMap.countWhere peers fun _ _ => false := by
    apply FiniteMap.countWhere_add
    intro peerId slot found
    simp only [FiniteMap.weight_some]
    cases slot.isOutbound <;> rfl
  have nobody : (FiniteMap.countWhere peers fun _ _ => false) = 0 :=
    FiniteMap.countWhere_eq_zero fun _ _ _ => rfl
  rw [sides, nobody, FiniteMap.size_eq_countWhere, Nat.add_zero]

section Snapshots

variable {start : SendLaunch} {moves : List SendMove}

/-- No two connections of a run share a generation. -/
theorem nodup_placements_of_sends (start : SendLaunch) (moves : List SendMove) :
    (placements (serviceDeeds (start.trace moves))).Nodup := by
  rcases start.service_run moves with ⟨moves', _, sameTrace⟩
  rw [<- sameTrace]
  exact (nodup_spendings start.launch moves').sublist (placements_sublist _)

theorem heldCount_le_one (start : SendLaunch) (moves : List SendMove) (generation : Nat) :
    heldCount generation (start.after moves).shared.service.peers ≤ 1 := by
  have balance := (meterAccount_of_run start moves).conserved generation
  have most := List.nodup_iff_count_le_one.mp (nodup_placements_of_sends start moves) generation
  omega

theorem nodup_liveGenerations (start : SendLaunch) (moves : List SendMove)
    (order : PeerId -> Nat) :
    ((start.after moves).shared.service.liveGenerations order).Nodup := by
  rw [List.nodup_iff_count_le_one]
  intro generation
  rw [count_liveGenerations]
  exact heldCount_le_one start moves generation

/-- A program of a send that begins with an action of its own. -/
theorem answered_performSend {T : Type} {moments : List Nat} {action : SendAction}
    {rest : action.Reply -> SendProgram T} {result : T}
    (answered : System.Answered (sending start.wire start.launch.config) moves start.state moments
      (performSend action >>= rest) result) :
    exists moment later meets, moments = moment :: later ∧
      System.Answered (sending start.wire start.launch.config) moves start.state later
        (rest (execSend start.wire meets action (start.stateAt moves moment)).2) result :=
  System.Answered.perform_bind answered

/-- The loop adds the counters of each generation as they were when it came to them. -/
theorem answered_sumTraffic {moments : List Nat} {sums result : Nat × Nat}
    {generations : List Nat}
    (answered : System.Answered (sending start.wire start.launch.config) moves start.state moments
      (sumTraffic sums generations) result) :
    exists rows : List (Nat × Nat), rows.map Prod.fst = generations ∧
      rows.map Prod.snd = moments ∧
      result = rows.foldl
        (fun sums row => addMetrics sums ((start.stateAt moves row.2).metrics row.1)) sums := by
  induction generations generalizing moments sums with
  | nil =>
      rcases answered.pure with ⟨rfl, rfl⟩
      exact ⟨[], rfl, rfl, rfl⟩
  | cons generation generations inner =>
      rcases answered_performSend answered with ⟨moment, later, meets, rfl, rest⟩
      rcases inner rest with ⟨rows, rfl, rfl, rfl⟩
      exact ⟨(generation, moment) :: rows, rfl, rfl, rfl⟩

/-- The sums of counters that were read one after the other. -/
theorem sums_of_rows (rows : List (Nat × Nat)) :
    rows.foldl (fun sums row => addMetrics sums ((start.stateAt moves row.2).metrics row.1))
        (0, 0) =
      (Nat.min (rows.map fun row => (start.framesRead moves row).length).sum u64Max,
        Nat.min (rows.map fun row => ((start.framesRead moves row).map Prod.snd).sum).sum
          u64Max) := by
  have counters : forall row : Nat × Nat, (start.stateAt moves row.2).metrics row.1 =
      metricsOf (start.framesRead moves row) := fun row =>
    (meterAccount_of_run start (moves.take row.2)).traffic row.1
  simp only [counters]
  have summed := foldl_metricsOf (rows.map (start.framesRead moves)) 0 0
  rw [List.foldl_map, List.map_map, List.map_map, Nat.zero_add, Nat.zero_add] at summed
  exact summed

theorem stats_of_thread {thread : Nat} {snapshot : GossipStats}
    (started : (System.spawned moves)[thread]? = some .stats)
    (done : (start.after moves).threads[thread]? = some (.done (.stats snapshot))) :
    exists moments, StatsExact start moves moments snapshot := by
  rcases System.answered_of_finished started done with ⟨all, inOrder, answered⟩
  rcases System.Answered.bind answered with ⟨own, none, value, rfl, read, ended⟩
  rcases ended.pure with ⟨rfl, same⟩
  cases same
  rcases read.bind with ⟨summing, _, live, rfl, summed, first⟩
  rcases answered_performSend summed with ⟨listed, reading, meets, rfl, looped⟩
  rcases answered_sumTraffic looped with ⟨rows, generations, rfl, rfl⟩
  rcases answered_performSend first with ⟨messagesSent, _, _, rfl, second⟩
  rcases answered_performSend second with ⟨bytesSent, _, _, rfl, third⟩
  rcases answered_performSend third with ⟨totalConnections, _, _, rfl, fourth⟩
  rcases answered_performSend fourth with ⟨peers, _, _, rfl, fifth⟩
  rcases answered_performSend fifth with ⟨seenMessages, _, _, rfl, returned⟩
  rcases returned.pure with ⟨rfl, rfl⟩
  rw [List.append_nil] at inOrder
  refine ⟨⟨listed, rows, messagesSent, bytesSent, totalConnections, peers, seenMessages⟩, ?_⟩
  constructor
  · exact inOrder
  · exact ⟨meets.order, generations⟩
  · rw [generations]
    exact nodup_liveGenerations start (moves.take listed) meets.order
  · have counted := (meterAccount_of_run start (moves.take messagesSent)).messages
    exact (congrArg₂ (fun sums sent => (sums + sent) % (u64Max + 1))
      (congrArg Prod.fst (sums_of_rows rows)) counted).trans (Nat.add_mod_mod ..)
  · have counted := (meterAccount_of_run start (moves.take bytesSent)).bytes
    exact (congrArg₂ (fun sums sent => (sums + sent) % (u64Max + 1))
      (congrArg Prod.snd (sums_of_rows rows)) counted).trans (Nat.add_mod_mod ..)
  · rfl
  · rfl
  · exact inbound_add_outbound _
  · rfl

/-- The loop alone, in a state that balances. -/
theorem sumTraffic_alone (wire : Wire) (meets : Meets) (sums : Nat × Nat) (generations : List Nat)
    (s : GossipState) :
    Program.alone (execSends wire meets) (sumTraffic sums generations) s =
      (s, generations.foldl (fun sums generation => addMetrics sums (s.metrics generation))
        sums) := by
  induction generations generalizing sums with
  | nil => rfl
  | cons generation generations inner => exact inner _

theorem stats_alone (start : SendLaunch) (moves : List SendMove) (meets : Meets) :
    StatsAlone (start.trace moves) (start.after moves).shared.service.peers
      (Program.alone (execSends start.wire meets) stats (start.after moves).shared).2 := by
  have account := meterAccount_of_run start moves
  have once := heldCount_le_one start moves
  generalize (start.after moves).shared = s at account once ⊢
  have length : forall frames : List (Nat × Nat), frames.length = (frames.map fun _ => 1).sum := by
    intro frames
    rw [List.map_const', List.sum_replicate_nat, Nat.mul_one]
  have summed := foldl_metricsOf
    ((s.service.liveGenerations meets.order).map (framesOf (meteredFrames (start.trace moves)))) 0 0
  have messages := sum_framesOf once (fun _ => 1) meets.order (meteredFrames (start.trace moves))
  have bytes := sum_framesOf once Prod.snd meets.order (meteredFrames (start.trace moves))
  simp only [<- length] at messages
  rw [List.foldl_map, List.map_map, List.map_map, Nat.zero_add, Nat.zero_add] at summed
  simp only [<- account.traffic] at summed
  have live : (s.service.liveGenerations meets.order).foldl
      (fun sums generation => addMetrics sums (s.metrics generation)) (0, 0) =
        (Nat.min (meteredOnHeld (start.trace moves) s.service.peers).length u64Max,
          Nat.min ((meteredOnHeld (start.trace moves) s.service.peers).map Prod.snd).sum
            u64Max) := by
    rw [meteredOnHeld, <- messages, <- bytes]
    exact summed
  have read : (Program.alone (execSends start.wire meets) sumLivePeerWireMetrics s) = (s, _) :=
    (sumTraffic_alone start.wire meets (0, 0) (s.service.liveGenerations meets.order) s).trans
      (congrArg (Prod.mk s) live)
  rw [stats, Program.alone_bind, read]
  constructor
  · exact (congrArg (fun sent => (_ + sent) % (u64Max + 1)) account.messages).trans
      (Nat.add_mod_mod ..)
  · exact (congrArg (fun sent => (_ + sent) % (u64Max + 1)) account.bytes).trans
      (Nat.add_mod_mod ..)

end Snapshots

/-- In every interleaving of the service with its sends, what a finished snapshot
reports as sent is, each figure at its own moment of the run and one after the
other, the frames metered on the slots that were live when it began and the
deliveries counted apart; nothing interfering, these are the frames metered on
the connections held.  Every metered frame was metered on a connection that had
been placed, and no two connections share the counters.  Once no send is under
way, everything begun is finished, and nothing else. -/
theorem stats_exact (start : SendLaunch) (moves : List SendMove) :
    (forall (thread : Nat) (snapshot : GossipStats),
      (System.spawned moves)[thread]? = some .stats ->
      (start.after moves).threads[thread]? = some (.done (.stats snapshot)) ->
        exists moments, StatsExact start moves moments snapshot) ∧
      (forall meets, StatsAlone (start.trace moves) (start.after moves).shared.service.peers
        (Program.alone (execSends start.wire meets) stats (start.after moves).shared).2) ∧
      (∀ frame ∈ meteredFrames (start.trace moves),
        frame.1 ∈ placements (serviceDeeds (start.trace moves))) ∧
      (placements (serviceDeeds (start.trace moves))).Nodup ∧
      ((start.after moves).settled = true ->
        (begun start.wire (start.trace moves)).Perm (finished (start.trace moves))) :=
  ⟨fun _ _ started done => stats_of_thread started done, stats_alone start moves,
    fun _ metered =>
      (meterAccount_of_run start moves).placed _ (found_of_metered start moves metered),
    nodup_placements_of_sends start moves, begun_perm_finished start moves⟩

namespace Example

def metering : SendLaunch where
  launch := launch
  wire := { sha256 := fun _ => Vector.replicate 32 0, toBytes := fun _ => [20, 0, 0, 0, 0, 0] }
  maxSeenMessages := 8
  maxCached := 8

/-- A peer connects, a frame goes to it, and a snapshot is taken. -/
def sentThenRead : List SendMove :=
  let meets : Meets := { order := fun _ => 0, answers := .willing }
  [.service (connected 1 (host 10 1)), .sendFrame 1 { msgType := 20, id := none, data := [] },
    .stats].zipIdx.flatMap fun (op, thread) =>
      .spawn op :: List.replicate 16 (.advance thread meets)

def reported : Program (Action ⊕ SendAction) (Sum.elim Action.Reply SendAction.Reply) SendOutcome ->
    Option (Nat × Nat × Nat)
  | .done (.stats snapshot) =>
      some (snapshot.connectedPeers, snapshot.messagesSent, snapshot.bytesSent)
  | _ => none

end Example

example : ((Example.metering.after Example.sentThenRead).threads[2]?.map Example.reported) =
    some (some (1, 1, 6)) := by decide +kernel

end Service
end DigGossip
