import DigGossip.Foundations.Selection
import DigGossip.Service.PeerPool

namespace DigGossip
namespace Service

open Foundations DigGossip.Types

/-!
# What a maintenance pass dials

The loop of the planner compares a candidate with the connected peers by both
of its identities, but with the candidates already taken and with the backoff
table by one key only: its peer id when known, else its address.  The loop is
described here without its accumulators, by the position of a candidate in the
list, and compared with a plan that would look at both identities everywhere.
-/

namespace PoolCandidate

/-- One known peer id or one known address names both candidates. -/
def SharesIdentity (first second : PoolCandidate) : Prop :=
  (exists peerId, first.peerId = some peerId ∧ second.peerId = some peerId) ∨
    exists addr, first.addr = some addr ∧ second.addr = some addr

theorem mem_identityKeys {candidate : PoolCandidate} {key : CandidateKey} :
    key ∈ candidate.identityKeys ↔
      (exists peerId, candidate.peerId = some peerId ∧ key = .id peerId) ∨
        exists addr, candidate.addr = some addr ∧ key = .addr addr := by
  simp only [identityKeys, List.mem_append, Option.mem_toList, Option.map_eq_some_iff]
  constructor
  · rintro (⟨peerId, known, rfl⟩ | ⟨addr, known, rfl⟩)
    · exact Or.inl ⟨peerId, known, rfl⟩
    · exact Or.inr ⟨addr, known, rfl⟩
  · rintro (⟨peerId, known, rfl⟩ | ⟨addr, known, rfl⟩)
    · exact Or.inl ⟨peerId, known, rfl⟩
    · exact Or.inr ⟨addr, known, rfl⟩

/-- The dedup key is one of the identities, unless the candidate has none. -/
theorem unnamed_of_dedupKey {candidate : PoolCandidate} (apart : candidate.dedupKey ∉
    candidate.identityKeys) : candidate.peerId = none ∧ candidate.addr = none := by
  rcases candidate with ⟨peerId, addr⟩
  cases peerId with
  | some peerId => exact absurd (mem_identityKeys.mpr (Or.inl ⟨peerId, rfl, rfl⟩)) apart
  | none =>
      cases addr with
      | some addr => exact absurd (mem_identityKeys.mpr (Or.inr ⟨addr, rfl, rfl⟩)) apart
      | none => exact ⟨rfl, rfl⟩

theorem dedupKey_of_peerId {candidate : PoolCandidate} {peerId : PeerId}
    (known : candidate.peerId = some peerId) : candidate.dedupKey = .id peerId := by
  rcases candidate with ⟨_, _⟩
  cases known
  rfl

/-- Candidates of one dedup key share an identity, unless the key is the sentinel. -/
theorem sharesIdentity_of_dedupKey {first second : PoolCandidate}
    (same : first.dedupKey = second.dedupKey) :
    first.SharesIdentity second ∨ (first.dedupKey = .addr unspecifiedAddr ∧
      (first.addr = none ∨ second.addr = none)) := by
  rcases first with ⟨firstId, firstAddr⟩
  rcases second with ⟨secondId, secondAddr⟩
  cases firstId with
  | some firstId =>
      cases secondId with
      | some secondId =>
          have equal : firstId = secondId := CandidateKey.id.inj same
          exact Or.inl (Or.inl ⟨secondId, congrArg some equal, rfl⟩)
      | none => cases secondAddr <;> cases same
  | none =>
      cases secondId with
      | some secondId => cases firstAddr <;> cases same
      | none =>
          cases firstAddr with
          | none => exact Or.inr ⟨rfl, Or.inl rfl⟩
          | some firstAddr =>
              cases secondAddr with
              | none => exact Or.inr ⟨same, Or.inr rfl⟩
              | some secondAddr =>
                  have equal : firstAddr = secondAddr := CandidateKey.addr.inj same
                  exact Or.inl (Or.inr ⟨secondAddr, congrArg some equal, rfl⟩)

end PoolCandidate

/-! ## The loop without its accumulators -/

namespace PoolSnapshot

/-- The budget of a pass, as a function of the counts of the snapshot. -/
def freeSlots (snap : PoolSnapshot) (cfg : PeerPoolConfig) : Nat :=
  freeSlotBudgetWithDirectFloor snap.directConnected (snap.connected - snap.directConnected)
    snap.inFlight cfg.normalized

/-- A key whose backoff row is dead or not yet ready. -/
def isBackedOff (snap : PoolSnapshot) (cfg : PeerPoolConfig) (key : CandidateKey) : Bool :=
  (snap.backoff.lookup key).any fun backoff =>
    backoff.isDead cfg.maxDialFailures || !backoff.isReady snap.now

/-- A candidate that no connected key matches and whose dedup key is not backed off. -/
def isOpen (snap : PoolSnapshot) (cfg : PeerPoolConfig) (candidate : PoolCandidate) : Bool :=
  !candidate.identityKeys.any snap.connectedKeys.contains &&
    !snap.isBackedOff cfg candidate.dedupKey

/-- The dedup keys of the open candidates of a list. -/
def openKeys (snap : PoolSnapshot) (cfg : PeerPoolConfig) (candidates : List PoolCandidate) :
    Finset CandidateKey :=
  ((candidates.filter (snap.isOpen cfg)).map PoolCandidate.dedupKey).toFinset

/-- An open candidate, the first with its dedup key, met while a slot is free. -/
def isReached (snap : PoolSnapshot) (cfg : PeerPoolConfig) (before : List PoolCandidate)
    (candidate : PoolCandidate) : Bool :=
  snap.isOpen cfg candidate && decide (candidate.dedupKey ∉ snap.openKeys cfg before ∧
    (snap.openKeys cfg before).card < snap.freeSlots cfg)

variable {snap : PoolSnapshot} {cfg : PeerPoolConfig}

theorem isReached_iff {before : List PoolCandidate} {candidate : PoolCandidate} :
    snap.isReached cfg before candidate = true ↔
      snap.isOpen cfg candidate = true ∧ candidate.dedupKey ∉ snap.openKeys cfg before ∧
        (snap.openKeys cfg before).card < snap.freeSlots cfg := by
  rw [isReached, Bool.and_eq_true, decide_eq_true_eq]

theorem isOpen_iff {candidate : PoolCandidate} :
    snap.isOpen cfg candidate = true ↔
      (∀ key ∈ candidate.identityKeys, key ∉ snap.connectedKeys) ∧
        snap.isBackedOff cfg candidate.dedupKey = false := by
  rw [isOpen, Bool.and_eq_true, Bool.not_eq_true', Bool.not_eq_true', List.any_eq_false]
  simp only [List.contains_iff_mem]

theorem openKeys_append (before after : List PoolCandidate) :
    snap.openKeys cfg (before ++ after) = snap.openKeys cfg before ∪ snap.openKeys cfg after := by
  rw [openKeys, List.filter_append, List.map_append, List.toFinset_append]
  rfl

theorem openKeys_singleton (candidate : PoolCandidate) :
    snap.openKeys cfg [candidate] =
      if snap.isOpen cfg candidate then {candidate.dedupKey} else ∅ := by
  unfold openKeys
  cases opened : snap.isOpen cfg candidate with
  | true =>
      rw [List.filter_cons_of_pos opened]
      rfl
  | false =>
      rw [List.filter_cons_of_neg (Bool.eq_false_iff.mp opened)]
      rfl

theorem mem_openKeys {candidates : List PoolCandidate} {key : CandidateKey} :
    key ∈ snap.openKeys cfg candidates ↔
      ∃ candidate ∈ candidates, snap.isOpen cfg candidate = true ∧ candidate.dedupKey = key := by
  simp only [openKeys, List.mem_toFinset, List.mem_map, List.mem_filter, and_assoc]

theorem card_openKeys_le (snap : PoolSnapshot) (cfg : PeerPoolConfig)
    (before after : List PoolCandidate) :
    (snap.openKeys cfg before).card ≤ (snap.openKeys cfg (before ++ after)).card := by
  rw [openKeys_append]
  exact Finset.card_le_card Finset.subset_union_left

/-- Going over a candidate that is reached takes one slot, and over any other none,
as long as a slot is free. -/
theorem openKeys_snoc {before : List PoolCandidate} (candidate : PoolCandidate)
    (spare : (snap.openKeys cfg before).card < snap.freeSlots cfg) :
    snap.openKeys cfg (before ++ [candidate]) =
      if snap.isReached cfg before candidate then
        insert candidate.dedupKey (snap.openKeys cfg before)
      else snap.openKeys cfg before := by
  rw [openKeys_append, openKeys_singleton]
  by_cases opened : snap.isOpen cfg candidate = true
  · rw [if_pos opened]
    by_cases seen : candidate.dedupKey ∈ snap.openKeys cfg before
    · rw [if_neg fun reached => (isReached_iff.mp reached).2.1 seen]
      exact Finset.union_eq_left.mpr (Finset.singleton_subset_iff.mpr seen)
    · rw [if_pos (isReached_iff.mpr ⟨opened, seen, spare⟩), Finset.union_comm]
      rfl
  · rw [if_neg opened, if_neg fun reached => opened (isReached_iff.mp reached).1,
      Finset.union_empty]

/-- No candidate is reached behind a list that fills the slots. -/
theorem isReached_of_full {before : List PoolCandidate} {candidate : PoolCandidate}
    (full : snap.freeSlots cfg ≤ (snap.openKeys cfg before).card) (between : List PoolCandidate) :
    snap.isReached cfg (before ++ between) candidate = false := by
  apply Bool.eq_false_iff.mpr
  intro reached
  have spare := (isReached_iff.mp reached).2.2
  have more := card_openKeys_le snap cfg before between
  omega

/-- The loop of the planner keeps the candidates that are reached. -/
theorem choose_eq (candidates : List PoolCandidate) {before chosen : List PoolCandidate}
    {keys : List CandidateKey} (seen : forall key, key ∈ keys ↔ key ∈ snap.openKeys cfg before)
    (taken : chosen.length = (snap.openKeys cfg before).card) :
    choose snap cfg.normalized (snap.freeSlots cfg) candidates chosen keys =
      chosen ++ keepBy (snap.isReached cfg) before candidates := by
  induction candidates generalizing before chosen keys with
  | nil => exact (List.append_nil chosen).symm
  | cons candidate rest inner =>
      have refused : (candidate.identityKeys.any snap.connectedKeys.contains ||
          keys.contains candidate.dedupKey ||
          (snap.backoff.lookup candidate.dedupKey).any fun backoff =>
            backoff.isDead cfg.maxDialFailures || !backoff.isReady snap.now) =
          !(snap.isOpen cfg candidate && !keys.contains candidate.dedupKey) := by
        show (_ || _ || snap.isBackedOff cfg candidate.dedupKey) = _
        unfold isOpen
        cases candidate.identityKeys.any snap.connectedKeys.contains <;>
          cases keys.contains candidate.dedupKey <;>
            cases snap.isBackedOff cfg candidate.dedupKey <;> rfl
      rw [choose]
      split
      · rename_i full
        rw [keepBy_eq_nil fun between x => isReached_of_full (taken ▸ full) between,
          List.append_nil]
      · rename_i free
        have spare : (snap.openKeys cfg before).card < snap.freeSlots cfg := by omega
        have kept : (snap.isOpen cfg candidate && !keys.contains candidate.dedupKey) =
            snap.isReached cfg before candidate := by
          rw [Bool.eq_iff_iff, isReached_iff, Bool.and_eq_true, Bool.not_eq_true',
            <- Bool.not_eq_true, List.contains_iff_mem, seen]
          exact ⟨fun held => ⟨held.1, held.2, spare⟩, fun held => ⟨held.1, held.2.1⟩⟩
        simp only [show cfg.normalized.maxDialFailures = cfg.maxDialFailures from rfl]
        rw [refused, kept]
        have moved := openKeys_snoc candidate spare
        cases reached : snap.isReached cfg before candidate with
        | false =>
            rw [reached] at moved
            rw [keepBy_cons_of_dropped reached]
            apply inner
            · intro key
              rw [seen, moved]
              rfl
            · rw [taken, moved]
              rfl
        | true =>
            rw [reached] at moved
            have fresh := (isReached_iff.mp reached).2.1
            have later := @inner (before ++ [candidate]) (chosen ++ [candidate])
              (candidate.dedupKey :: keys) ?_ ?_
            · rw [keepBy_cons_of_kept reached]
              exact later.trans (List.append_cons chosen candidate _).symm
            · intro key
              rw [moved, if_pos rfl, Finset.mem_insert, List.mem_cons, seen]
            · rw [moved, if_pos rfl, Finset.card_insert_of_notMem fresh, List.length_append, taken]
              rfl

/-- As many candidates are reached as there are dedup keys, up to the slots. -/
theorem length_reached (candidates : List PoolCandidate) {before : List PoolCandidate}
    (within : (snap.openKeys cfg before).card ≤ snap.freeSlots cfg) :
    (keepBy (snap.isReached cfg) before candidates).length + (snap.openKeys cfg before).card =
      min (snap.openKeys cfg (before ++ candidates)).card (snap.freeSlots cfg) := by
  induction candidates generalizing before with
  | nil =>
      rw [List.append_nil, Nat.min_eq_left within]
      exact Nat.zero_add _
  | cons candidate rest inner =>
      rcases Nat.lt_or_ge (snap.openKeys cfg before).card (snap.freeSlots cfg) with spare | full
      · have moved := openKeys_snoc candidate spare
        rw [List.append_cons]
        cases reached : snap.isReached cfg before candidate with
        | false =>
            rw [reached] at moved
            have same : snap.openKeys cfg (before ++ [candidate]) = snap.openKeys cfg before := moved
            rw [keepBy_cons_of_dropped reached, <- inner (same ▸ within), same]
        | true =>
            rw [reached, if_pos rfl] at moved
            have grown : (snap.openKeys cfg (before ++ [candidate])).card =
                (snap.openKeys cfg before).card + 1 := by
              rw [moved, Finset.card_insert_of_notMem (isReached_iff.mp reached).2.1]
            rw [keepBy_cons_of_kept reached, <- inner (grown ▸ spare), grown, List.length_cons]
            omega
      · have more := card_openKeys_le snap cfg before (candidate :: rest)
        rw [keepBy_eq_nil fun between x => isReached_of_full full between,
          Nat.min_eq_right (Nat.le_trans full more)]
        exact (Nat.zero_add _).trans (Nat.le_antisymm within full)

/-- Every open candidate stands behind one that has its dedup key and is the first with it. -/
theorem exists_first {candidates : List PoolCandidate} {key : CandidateKey}
    (member : key ∈ snap.openKeys cfg candidates) :
    exists before candidate after, candidates = before ++ candidate :: after ∧
      snap.isOpen cfg candidate = true ∧ candidate.dedupKey = key ∧
        key ∉ snap.openKeys cfg before := by
  rcases mem_openKeys.mp member with ⟨other, listed, opened, keyed⟩
  have found : (candidates.find? fun candidate =>
      snap.isOpen cfg candidate && candidate.dedupKey == key).isSome := by
    rw [List.find?_isSome]
    exact ⟨other, listed, by rw [opened, keyed, beq_self_eq_true]; rfl⟩
  rcases Option.isSome_iff_exists.mp found with ⟨candidate, first⟩
  rcases List.find?_eq_some_iff_append.mp first with ⟨passes, before, after, split, earlier⟩
  rw [Bool.and_eq_true, beq_iff_eq] at passes
  refine ⟨before, candidate, after, split, passes.1, passes.2, ?_⟩
  intro seen
  rcases mem_openKeys.mp seen with ⟨former, inside, formerOpened, formerKeyed⟩
  have refused := earlier former inside
  rw [formerOpened, formerKeyed, beq_self_eq_true] at refused
  cases refused

end PoolSnapshot

theorem planPass_freeSlots (snap : PoolSnapshot) (cfg : PeerPoolConfig) :
    (planPass snap cfg).freeSlots = snap.freeSlots cfg := by
  simp only [planPass]
  split
  · rename_i none
    exact none.symm
  · rfl

/-- A pass dials the candidates that are reached, in their order. -/
theorem planPass_toDial (snap : PoolSnapshot) (cfg : PeerPoolConfig) :
    (planPass snap cfg).toDial = keepBy (snap.isReached cfg) [] snap.candidates := by
  simp only [planPass]
  split
  · rename_i none
    symm
    apply keepBy_eq_nil
    intro between candidate
    apply @PoolSnapshot.isReached_of_full snap cfg []
    exact Nat.le_trans (Nat.le_of_eq none) (Nat.zero_le _)
  · exact PoolSnapshot.choose_eq snap.candidates (fun key => Iff.rfl) rfl

/-! ## A plan by both identities -/

/-- What a plan promises when both identities of a candidate count everywhere. -/
structure PlansByIdentity (snap : PoolSnapshot) (cfg : PeerPoolConfig) (plan : PoolPlan) :
    Prop where
  ordered : plan.toDial.Sublist snap.candidates
  bounded : plan.toDial.length ≤ plan.freeSlots
  distinct : plan.toDial.Pairwise fun first second => ¬ first.SharesIdentity second
  unconnected : ∀ candidate ∈ plan.toDial, ∀ key ∈ candidate.identityKeys,
    key ∉ snap.connectedKeys
  ready : ∀ candidate ∈ plan.toDial, ∀ key ∈ candidate.identityKeys,
    snap.isBackedOff cfg key = false
  maximal : plan.toDial.length < plan.freeSlots ->
    ∀ candidate ∈ snap.candidates.diff plan.toDial,
      (∃ key ∈ candidate.identityKeys, key ∈ snap.connectedKeys ∨ snap.isBackedOff cfg key = true) ∨
        ∃ other ∈ plan.toDial, candidate.SharesIdentity other

/-- The dedup keys settle what both identities would: a candidate that is
reached has no backed off address and shares its address with no other one
reached; and when slots stay free, the sentinel key keeps none from being
reached that has no identity, or that shares none with the candidates reached. -/
structure SettledByDedupKey (snap : PoolSnapshot) (cfg : PeerPoolConfig) : Prop where
  ready : forall before candidate after, snap.candidates = before ++ candidate :: after ->
    snap.isReached cfg before candidate = true -> forall addr, candidate.addr = some addr ->
      snap.isBackedOff cfg (.addr addr) = false
  apart : forall before first middle second after,
    snap.candidates = before ++ first :: (middle ++ second :: after) ->
      snap.isReached cfg before first = true ->
      snap.isReached cfg (before ++ first :: middle) second = true ->
        forall addr, first.addr = some addr -> second.addr ≠ some addr
  sentinel : (snap.openKeys cfg snap.candidates).card < snap.freeSlots cfg ->
    forall before candidate after, snap.candidates = before ++ candidate :: after ->
      candidate.dedupKey = .addr unspecifiedAddr ->
      candidate.addr = none ∨ snap.isOpen cfg candidate = true ->
        snap.isReached cfg before candidate = true ∨
          exists addr earlier other later, candidate.addr = some addr ∧
            snap.candidates = earlier ++ other :: later ∧
              snap.isReached cfg earlier other = true ∧ other.addr = some addr

section

variable {snap : PoolSnapshot} {cfg : PeerPoolConfig}

/-- A candidate is dialed where it is reached. -/
theorem mem_toDial {candidate : PoolCandidate} :
    candidate ∈ (planPass snap cfg).toDial ↔
      exists before after, snap.candidates = before ++ candidate :: after ∧
        snap.isReached cfg before candidate = true := by
  rw [planPass_toDial]
  exact mem_keepBy

/-- A candidate is left out where it is not reached. -/
theorem mem_leftOut {candidate : PoolCandidate} :
    candidate ∈ snap.candidates.diff (planPass snap cfg).toDial ↔
      exists before after, snap.candidates = before ++ candidate :: after ∧
        snap.isReached cfg before candidate = false := by
  rw [planPass_toDial, (diff_keepBy _ [] snap.candidates).mem_iff, mem_keepBy]
  simp only [List.nil_append, Bool.not_eq_true']

theorem length_toDial :
    (planPass snap cfg).toDial.length =
      min (snap.openKeys cfg snap.candidates).card (snap.freeSlots cfg) := by
  rw [planPass_toDial]
  exact @PoolSnapshot.length_reached snap cfg snap.candidates [] (Nat.zero_le _)

/-- A plan is short exactly when there are fewer keys than slots. -/
theorem toDial_short :
    (planPass snap cfg).toDial.length < (planPass snap cfg).freeSlots ↔
      (snap.openKeys cfg snap.candidates).card < snap.freeSlots cfg := by
  rw [length_toDial, planPass_freeSlots]
  omega

/-- An open candidate that is not reached while slots stay free has its dedup
key from a candidate that is. -/
theorem exists_reached_of_open (short : (snap.openKeys cfg snap.candidates).card <
    snap.freeSlots cfg) {before after : List PoolCandidate} {candidate : PoolCandidate}
    (split : snap.candidates = before ++ candidate :: after)
    (opened : snap.isOpen cfg candidate = true) :
    exists earlier other later, snap.candidates = earlier ++ other :: later ∧
      snap.isReached cfg earlier other = true ∧ other.dedupKey = candidate.dedupKey := by
  have member : candidate.dedupKey ∈ snap.openKeys cfg snap.candidates := by
    refine PoolSnapshot.mem_openKeys.mpr ⟨candidate, ?_, opened, rfl⟩
    rw [split]
    exact List.mem_append_right before List.mem_cons_self
  rcases PoolSnapshot.exists_first member with ⟨earlier, other, later, found, held, keyed, fresh⟩
  refine ⟨earlier, other, later, found, ?_, keyed⟩
  refine PoolSnapshot.isReached_iff.mpr ⟨held, by rw [keyed]; exact fresh, ?_⟩
  have fewer := PoolSnapshot.card_openKeys_le snap cfg earlier (other :: later)
  rw [<- found] at fewer
  omega

/-- While slots stay free, what is left out of a settled plan is connected, backed
off or named by a candidate that is dialed. -/
theorem leftOut_of_settled (settled : SettledByDedupKey snap cfg)
    (short : (snap.openKeys cfg snap.candidates).card < snap.freeSlots cfg)
    {candidate : PoolCandidate}
    (member : candidate ∈ snap.candidates.diff (planPass snap cfg).toDial) :
    (∃ key ∈ candidate.identityKeys, key ∈ snap.connectedKeys ∨ snap.isBackedOff cfg key = true) ∨
      ∃ other ∈ (planPass snap cfg).toDial, candidate.SharesIdentity other := by
  rcases mem_leftOut.mp member with ⟨before, after, split, skipped⟩
  have sentinel := settled.sentinel short before candidate after split
  have offered : forall {earlier other later}, snap.candidates = earlier ++ other :: later ->
      snap.isReached cfg earlier other = true -> candidate.SharesIdentity other ->
        ∃ other ∈ (planPass snap cfg).toDial, candidate.SharesIdentity other :=
    fun found reached shared => ⟨_, mem_toDial.mpr ⟨_, _, found, reached⟩, shared⟩
  have settledBySentinel : candidate.dedupKey = .addr unspecifiedAddr ->
      candidate.addr = none ∨ snap.isOpen cfg candidate = true ->
        ∃ other ∈ (planPass snap cfg).toDial, candidate.SharesIdentity other := by
    intro keyed unnamed
    rcases sentinel keyed unnamed with reached | ⟨addr, _, other, _, has, found, reached, shared⟩
    · rw [skipped] at reached
      cases reached
    · exact offered found reached (Or.inr ⟨addr, has, shared⟩)
  by_cases connected : ∃ key ∈ candidate.identityKeys, key ∈ snap.connectedKeys
  · rcases connected with ⟨key, known, held⟩
    exact Or.inl ⟨key, known, Or.inl held⟩
  · by_cases known : candidate.dedupKey ∈ candidate.identityKeys
    · cases waiting : snap.isBackedOff cfg candidate.dedupKey with
      | true => exact Or.inl ⟨candidate.dedupKey, known, Or.inr waiting⟩
      | false =>
          have opened : snap.isOpen cfg candidate = true := by
            refine PoolSnapshot.isOpen_iff.mpr ⟨?_, waiting⟩
            exact fun key known held => connected ⟨key, known, held⟩
          rcases exists_reached_of_open short split opened with
            ⟨_, other, _, found, reached, keyed⟩
          rcases PoolCandidate.sharesIdentity_of_dedupKey keyed.symm with shared | ⟨unnamed, _⟩
          · exact Or.inr (offered found reached shared)
          · exact Or.inr (settledBySentinel unnamed (Or.inr opened))
    · have nameless := PoolCandidate.unnamed_of_dedupKey known
      have keyed : candidate.dedupKey = .addr unspecifiedAddr := by
        rcases candidate with ⟨_, _⟩
        rcases nameless with ⟨rfl, rfl⟩
        rfl
      exact Or.inr (settledBySentinel keyed (Or.inl nameless.2))

/-- What the plan promises follows from the dedup keys settling it. -/
theorem plansByIdentity_of_settled (settled : SettledByDedupKey snap cfg) :
    PlansByIdentity snap cfg (planPass snap cfg) where
  ordered := by
    rw [planPass_toDial]
    exact keepBy_sublist _ _ _
  bounded := by
    rw [length_toDial, planPass_freeSlots]
    exact Nat.min_le_right _ _
  distinct := by
    rw [planPass_toDial, pairwise_keepBy]
    rintro before first _ split reachedFirst middle second after rfl reachedSecond shared
    rcases shared with ⟨peerId, knownFirst, knownSecond⟩ | ⟨addr, knownFirst, knownSecond⟩
    · -- the first candidate's dedup key is its peer id, and the second one has it too
      apply (PoolSnapshot.isReached_iff.mp reachedSecond).2.1
      rw [PoolCandidate.dedupKey_of_peerId knownSecond]
      refine PoolSnapshot.mem_openKeys.mpr ⟨first, ?_,
        (PoolSnapshot.isReached_iff.mp reachedFirst).1,
        PoolCandidate.dedupKey_of_peerId knownFirst⟩
      exact List.mem_append_right _ List.mem_cons_self
    · exact settled.apart before first middle second after split reachedFirst reachedSecond addr
        knownFirst knownSecond
  unconnected := by
    intro candidate member
    rcases mem_toDial.mp member with ⟨before, after, _, reached⟩
    exact (PoolSnapshot.isOpen_iff.mp (PoolSnapshot.isReached_iff.mp reached).1).1
  ready := by
    intro candidate member key known
    rcases mem_toDial.mp member with ⟨before, after, split, reached⟩
    rcases PoolCandidate.mem_identityKeys.mp known with ⟨peerId, has, rfl⟩ | ⟨addr, has, rfl⟩
    · rw [<- PoolCandidate.dedupKey_of_peerId has]
      exact (PoolSnapshot.isOpen_iff.mp (PoolSnapshot.isReached_iff.mp reached).1).2
    · exact settled.ready before candidate after split reached addr has
  maximal := fun unfilled _ member =>
    leftOut_of_settled settled (toDial_short.mp unfilled) member

/-- A plan that keeps what both identities promise had it settled by the dedup keys. -/
theorem settled_of_plansByIdentity (plans : PlansByIdentity snap cfg (planPass snap cfg)) :
    SettledByDedupKey snap cfg where
  ready := by
    intro before candidate after split reached addr has
    apply plans.ready candidate (mem_toDial.mpr ⟨before, after, split, reached⟩)
    exact PoolCandidate.mem_identityKeys.mpr (Or.inr ⟨addr, has, rfl⟩)
  apart := by
    intro before first middle second after split reachedFirst reachedSecond addr has shared
    have distinct := plans.distinct
    rw [planPass_toDial, pairwise_keepBy] at distinct
    exact distinct before first _ split reachedFirst middle second after rfl reachedSecond
      (Or.inr ⟨addr, has, shared⟩)
  sentinel := by
    intro short before candidate after split keyed unnamed
    by_cases reached : snap.isReached cfg before candidate = true
    · exact Or.inl reached
    · have member : candidate ∈ snap.candidates.diff (planPass snap cfg).toDial :=
        mem_leftOut.mpr ⟨before, after, split, Bool.eq_false_iff.mpr reached⟩
      have nobody : candidate.peerId = none := by
        rcases candidate with ⟨peerId, _⟩
        cases peerId with
        | none => rfl
        | some peerId => cases keyed
      have only : ∀ key ∈ candidate.identityKeys,
          snap.isOpen cfg candidate = true ∧ key = candidate.dedupKey := by
        intro key known
        rcases PoolCandidate.mem_identityKeys.mp known with ⟨_, has, _⟩ | ⟨addr, has, rfl⟩
        · rw [nobody] at has
          cases has
        · rcases unnamed with missing | opened
          · rw [missing] at has
            cases has
          · refine ⟨opened, ?_⟩
            rcases candidate with ⟨_, _⟩
            cases nobody
            cases has
            rfl
      rcases plans.maximal (toDial_short.mpr short) candidate member with
        ⟨key, known, held | waiting⟩ | ⟨other, dialed, shared⟩
      · exact absurd held ((PoolSnapshot.isOpen_iff.mp (only key known).1).1 key known)
      · have free := (PoolSnapshot.isOpen_iff.mp (only key known).1).2
        rw [(only key known).2, free] at waiting
        cases waiting
      · rcases mem_toDial.mp dialed with ⟨earlier, later, found, reachedOther⟩
        rcases shared with ⟨peerId, has, _⟩ | ⟨addr, has, same⟩
        · rw [nobody] at has
          cases has
        · exact Or.inr ⟨addr, earlier, other, later, has, found, reachedOther, same⟩

end

/-- A plan by one key is a plan by both identities exactly when the dedup keys settle it. -/
theorem plan_by_identity_iff (snap : PoolSnapshot) (cfg : PeerPoolConfig) :
    PlansByIdentity snap cfg (planPass snap cfg) ↔ SettledByDedupKey snap cfg :=
  ⟨settled_of_plansByIdentity, plansByIdentity_of_settled⟩

/-- A pool of nobody that is offered one peer by its id and address, and the
same address without the id. -/
def spelledTwice : PoolSnapshot where
  connected := 0
  directConnected := 0
  inFlight := 0
  connectedKeys := []
  candidates :=
    [{ peerId := some 7, addr := some { ip := .v4 16909060, port := 9444 } },
      { peerId := none, addr := some { ip := .v4 16909060, port := 9444 } }]
  backoff := ∅
  now := 1000

/-- Both spellings are dialed in one pass. -/
theorem spelledTwice_dialed_twice :
    (planPass spelledTwice {}).toDial = spelledTwice.candidates ∧
      ¬ PlansByIdentity spelledTwice {} (planPass spelledTwice {}) := by
  have dialed : (planPass spelledTwice {}).toDial = spelledTwice.candidates := by decide +kernel
  refine ⟨dialed, fun plans => ?_⟩
  have distinct := plans.distinct
  rw [dialed] at distinct
  exact (List.pairwise_cons.mp distinct).1 _ (List.mem_singleton.mpr rfl) (Or.inr ⟨_, rfl, rfl⟩)

end Service
end DigGossip
