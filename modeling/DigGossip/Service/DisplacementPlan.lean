import Mathlib.Data.List.Perm.Basic
import DigGossip.Service.PeerPool

namespace DigGossip
namespace Service

open DigGossip.Types

/-!
# What the displacement planner decides

The planner refuses in a fixed order: a free slot first, then the floor of
peers, then the churn bound.  Only a request that passes all three looks at the
incumbents, and then it is the order of the ranks, not that of the list, that
says who goes.  Two displaceable incumbents of one rank are one and the same,
since neither has anything in flight.
-/

/-- The churn bound allows another displacement `wait` seconds from now, and not before. -/
def DisplacementRequest.IsAhead (req : DisplacementRequest) (cfg : PeerPoolConfig) (wait : Nat) :
    Prop :=
  exists last, req.lastDisplacementAt = some last ∧ 0 < wait ∧
    saturatingAdd u64Max last cfg.displacementIntervalSecs = req.now + wait

/-- The request passes the rules that come before the choice of an incumbent. -/
structure DisplacementRequest.MayDisplace (req : DisplacementRequest) (cfg : PeerPoolConfig) :
    Prop where
  full : req.capacity ≤ req.connected
  enough : cfg.minPeers < req.connected
  elapsed : forall wait, ¬req.IsAhead cfg wait

/-- The incumbent is unused, and has been held and idle for long enough. -/
structure PeerActivity.IsIdle (peer : PeerActivity) (now : Nat) (cfg : PeerPoolConfig) :
    Prop where
  unused : peer.inFlight = 0
  established : cfg.minEstablishedSecs ≤ now - peer.admittedAt
  idle : cfg.minIdleSecs ≤ now - peer.lastActiveAt

/-- The incumbent ranks strictly below every other one that may be cycled out. -/
structure DisplacementRequest.IsVictim (req : DisplacementRequest) (cfg : PeerPoolConfig)
    (peer : PeerActivity) : Prop where
  incumbent : peer ∈ req.incumbents
  isIdle : peer.IsIdle req.now cfg
  least : ∀ other ∈ req.incumbents, other.IsIdle req.now cfg -> other ≠ peer ->
    peer.rank < other.rank

theorem PeerActivity.isDisplaceable_iff {peer : PeerActivity} {now : Nat} {cfg : PeerPoolConfig} :
    peer.isDisplaceable now cfg = true ↔ peer.IsIdle now cfg := by
  rw [isDisplaceable, decide_eq_true_eq]
  constructor
  · rintro ⟨unused, established, idle⟩
    exact ⟨unused, established, idle⟩
  · intro holds
    exact ⟨holds.unused, holds.established, holds.idle⟩

/-- An incumbent admitted no later than it was last active is idle under the
configuration as it stands exactly when it is under the normalized one. -/
theorem PeerActivity.isIdle_normalized {peer : PeerActivity} {now : Nat} {cfg : PeerPoolConfig}
    (used : peer.admittedAt ≤ peer.lastActiveAt) :
    peer.IsIdle now cfg.normalized ↔ peer.IsIdle now cfg := by
  have raised : cfg.normalized.minEstablishedSecs = Nat.max cfg.minEstablishedSecs cfg.minIdleSecs :=
    rfl
  constructor
  · intro holds
    refine ⟨holds.unused, ?_, holds.idle⟩
    exact Nat.le_trans (Nat.le_max_left _ _) (raised ▸ holds.established)
  · intro holds
    have longer : now - peer.lastActiveAt ≤ now - peer.admittedAt := Nat.sub_le_sub_left used now
    refine ⟨holds.unused, ?_, holds.idle⟩
    rw [raised]
    exact Nat.max_le.mpr ⟨holds.established, Nat.le_trans holds.idle longer⟩

/-- The rank and the absence of work in flight make up the whole record. -/
theorem PeerActivity.eq_of_rank_eq {peer other : PeerActivity} (same : peer.rank = other.rank)
    (unused : peer.inFlight = 0) (otherUnused : other.inFlight = 0) : peer = other := by
  cases peer with
  | mk peerId admittedAt lastActiveAt inFlight =>
      cases other with
      | mk otherId otherAdmitted otherActive otherInFlight =>
          have parts := Prod.mk.inj (toLex.injective same)
          have inner := Prod.mk.inj (toLex.injective parts.2)
          cases parts.1
          cases inner.1
          cases inner.2
          cases unused
          cases otherUnused
          rfl

/-- There is at most one victim. -/
theorem DisplacementRequest.IsVictim.unique {req : DisplacementRequest} {cfg : PeerPoolConfig}
    {peer other : PeerActivity} (victim : req.IsVictim cfg peer)
    (otherVictim : req.IsVictim cfg other) : other = peer := by
  by_contra differ
  have below := victim.least other otherVictim.incumbent otherVictim.isIdle differ
  have above := otherVictim.least peer victim.incumbent victim.isIdle (Ne.symm differ)
  exact lt_asymm below above

/-- The incumbents that may be cycled out, in the order of the request. -/
def DisplacementRequest.displaceable (req : DisplacementRequest) (cfg : PeerPoolConfig) :
    List PeerActivity :=
  req.incumbents.filter fun peer => peer.isDisplaceable req.now cfg

theorem DisplacementRequest.mem_displaceable {req : DisplacementRequest} {cfg : PeerPoolConfig}
    {peer : PeerActivity} :
    peer ∈ req.displaceable cfg ↔ peer ∈ req.incumbents ∧ peer.IsIdle req.now cfg := by
  rw [displaceable, List.mem_filter, PeerActivity.isDisplaceable_iff]

/-- The least rank among the incumbents that may be cycled out is taken by the victim. -/
theorem DisplacementRequest.isVictim_of_argmin {req : DisplacementRequest} {cfg : PeerPoolConfig}
    {peer : PeerActivity} (least : (req.displaceable cfg).argmin PeerActivity.rank = some peer) :
    req.IsVictim cfg peer := by
  have member := mem_displaceable.mp (List.argmin_mem least)
  refine ⟨member.1, member.2, ?_⟩
  intro other incumbent otherIdle differ
  have kept := mem_displaceable.mpr ⟨incumbent, otherIdle⟩
  refine lt_of_le_of_ne (List.le_of_mem_argmin kept least) ?_
  intro same
  exact differ (PeerActivity.eq_of_rank_eq same member.2.unused otherIdle.unused).symm

/-- A wait is ahead exactly when it is what the source computes it to be. -/
theorem DisplacementRequest.isAhead_iff {req : DisplacementRequest} {cfg : PeerPoolConfig}
    {wait : Nat} : req.IsAhead cfg wait ↔ 0 < wait ∧ req.retryAfter cfg = wait := by
  unfold IsAhead retryAfter
  cases req.lastDisplacementAt with
  | none =>
      constructor
      · rintro ⟨last, impossible, _⟩
        cases impossible
      · rintro ⟨positive, rfl⟩
        cases positive
  | some last =>
      dsimp only
      constructor
      · rintro ⟨_, same, positive, ahead⟩
        cases same
        exact ⟨positive, by omega⟩
      · rintro ⟨positive, left⟩
        exact ⟨last, rfl, positive, by omega⟩

/-! ## The rules -/

/-- The decision each rule makes, in the order in which the rules apply. -/
inductive Decides (req : DisplacementRequest) (cfg : PeerPoolConfig) :
    DisplacementDecision -> Prop
  | roomAlready (room : req.connected < req.capacity) : Decides req cfg .roomAlready
  | wouldBreachMinPeers (full : req.capacity ≤ req.connected)
      (few : req.connected ≤ cfg.minPeers) : Decides req cfg (.refused .wouldBreachMinPeers)
  | rateLimited (full : req.capacity ≤ req.connected) (enough : cfg.minPeers < req.connected)
      {wait : Nat} (ahead : req.IsAhead cfg wait) : Decides req cfg (.refused (.rateLimited wait))
  | displace (allowed : req.MayDisplace cfg) {victim : PeerActivity}
      (isVictim : req.IsVictim cfg victim) : Decides req cfg (.displace victim.peerId)
  | noIdleIncumbent (allowed : req.MayDisplace cfg)
      (busy : ∀ peer ∈ req.incumbents, ¬peer.IsIdle req.now cfg) :
      Decides req cfg (.refused .noIdleIncumbent)

/-- The planner decides by the rules. -/
theorem decides_planDisplacement (req : DisplacementRequest) (cfg : PeerPoolConfig) :
    Decides req cfg.normalized (planDisplacement req cfg) := by
  simp only [planDisplacement]
  split
  · rename_i room
    exact .roomAlready room
  · rename_i full
    split
    · rename_i few
      exact .wouldBreachMinPeers (Nat.le_of_not_lt full) few
    · rename_i enough
      split
      · rename_i ahead
        exact .rateLimited (Nat.le_of_not_lt full) (Nat.lt_of_not_le enough)
          (DisplacementRequest.isAhead_iff.mpr ⟨ahead, rfl⟩)
      · rename_i elapsed
        have allowed : req.MayDisplace cfg.normalized := by
          refine ⟨Nat.le_of_not_lt full, Nat.lt_of_not_le enough, ?_⟩
          intro wait ahead
          rcases DisplacementRequest.isAhead_iff.mp ahead with ⟨positive, rfl⟩
          exact elapsed positive
        split
        · rename_i victim least
          exact .displace allowed (DisplacementRequest.isVictim_of_argmin least)
        · rename_i none
          refine .noIdleIncumbent allowed ?_
          intro peer incumbent isIdle
          have kept := DisplacementRequest.mem_displaceable.mpr ⟨incumbent, isIdle⟩
          have empty : req.displaceable cfg.normalized = [] := List.argmin_eq_none.mp none
          rw [empty] at kept
          cases kept

theorem DisplacementRequest.MayDisplace.retryAfter_eq_zero {req : DisplacementRequest}
    {cfg : PeerPoolConfig} (allowed : req.MayDisplace cfg) : req.retryAfter cfg = 0 := by
  by_contra waits
  exact allowed.elapsed _ (isAhead_iff.mpr ⟨Nat.pos_of_ne_zero waits, rfl⟩)

/-- Past the refusals that look at no incumbent, the planner looks for the least rank. -/
theorem planDisplacement_of_mayDisplace {req : DisplacementRequest} {cfg : PeerPoolConfig}
    (allowed : req.MayDisplace cfg.normalized) :
    planDisplacement req cfg =
      match (req.displaceable cfg.normalized).argmin PeerActivity.rank with
      | some victim => .displace victim.peerId
      | none => .refused .noIdleIncumbent := by
  have full := allowed.full
  have enough := allowed.enough
  simp only [planDisplacement]
  rw [if_neg (by omega), if_neg (by omega), allowed.retryAfter_eq_zero,
    if_neg (Nat.lt_irrefl 0)]
  rfl

/-- What a rule decides is what the planner computes. -/
theorem planDisplacement_eq_of_decides {req : DisplacementRequest} {cfg : PeerPoolConfig}
    {decision : DisplacementDecision} (decided : Decides req cfg.normalized decision) :
    planDisplacement req cfg = decision := by
  cases decided with
  | roomAlready room =>
      simp only [planDisplacement]
      rw [if_pos room]
  | wouldBreachMinPeers full few =>
      simp only [planDisplacement]
      rw [if_neg (by omega), if_pos few]
  | rateLimited full enough ahead =>
      rcases DisplacementRequest.isAhead_iff.mp ahead with ⟨positive, rfl⟩
      simp only [planDisplacement]
      rw [if_neg (by omega), if_neg (by omega), if_pos positive]
  | displace allowed isVictim =>
      rw [planDisplacement_of_mayDisplace allowed]
      cases least : (req.displaceable cfg.normalized).argmin PeerActivity.rank with
      | none =>
          have kept := DisplacementRequest.mem_displaceable.mpr
            ⟨isVictim.incumbent, isVictim.isIdle⟩
          rw [List.argmin_eq_none.mp least] at kept
          cases kept
      | some victim =>
          cases isVictim.unique (DisplacementRequest.isVictim_of_argmin least)
          rfl
  | noIdleIncumbent allowed busy =>
      rw [planDisplacement_of_mayDisplace allowed]
      cases least : (req.displaceable cfg.normalized).argmin PeerActivity.rank with
      | none => rfl
      | some victim =>
          have isVictim := DisplacementRequest.isVictim_of_argmin least
          exact absurd isVictim.isIdle (busy victim isVictim.incumbent)

/-- A permutation of the incumbents leaves the decision of the rules as it is. -/
theorem Decides.perm {req : DisplacementRequest} {cfg : PeerPoolConfig}
    {decision : DisplacementDecision} {incumbents : List PeerActivity}
    (decided : Decides req cfg decision) (same : incumbents.Perm req.incumbents) :
    Decides { req with incumbents := incumbents } cfg decision := by
  cases decided with
  | roomAlready room => exact .roomAlready room
  | wouldBreachMinPeers full few => exact .wouldBreachMinPeers full few
  | rateLimited full enough ahead =>
      apply Decides.rateLimited
      · exact full
      · exact enough
      · exact ahead
  | displace allowed isVictim =>
      apply Decides.displace
      · exact ⟨allowed.full, allowed.enough, allowed.elapsed⟩
      refine ⟨same.mem_iff.mpr isVictim.incumbent, isVictim.isIdle, ?_⟩
      intro other incumbent
      exact isVictim.least other (same.mem_iff.mp incumbent)
  | noIdleIncumbent allowed busy =>
      refine .noIdleIncumbent ⟨allowed.full, allowed.enough, allowed.elapsed⟩ ?_
      intro peer incumbent
      exact busy peer (same.mem_iff.mp incumbent)

/-- The planner makes a decision exactly when its rule applies, names the one
incumbent of least rank, and does not look at the order of the incumbents.  Its
thresholds are the normalized ones, which for an incumbent that was admitted
before it was last active are those of the configuration. -/
theorem planDisplacement_by_rules (req : DisplacementRequest) (cfg : PeerPoolConfig) :
    (forall decision, planDisplacement req cfg = decision ↔ Decides req cfg.normalized decision) ∧
      (forall peer other, req.IsVictim cfg.normalized peer -> req.IsVictim cfg.normalized other ->
        other = peer) ∧
      (forall incumbents : List PeerActivity, incumbents.Perm req.incumbents ->
        planDisplacement { req with incumbents := incumbents } cfg = planDisplacement req cfg) ∧
      (forall peer : PeerActivity, peer.admittedAt ≤ peer.lastActiveAt ->
        (peer.IsIdle req.now cfg.normalized ↔ peer.IsIdle req.now cfg)) := by
  refine ⟨?_, ?_, ?_, ?_⟩
  · intro decision
    constructor
    · rintro rfl
      exact decides_planDisplacement req cfg
    · intro decided
      exact planDisplacement_eq_of_decides decided
  · intro peer other victim otherVictim
    exact victim.unique otherVictim
  · intro incumbents same
    exact planDisplacement_eq_of_decides ((decides_planDisplacement req cfg).perm same)
  · intro peer used
    exact PeerActivity.isIdle_normalized used

namespace Example

/-- No time of tenure is asked for, and five minutes of idleness. -/
def untenured : PeerPoolConfig := { minPeers := 0, minEstablishedSecs := 0, minIdleSecs := 300 }

/-- The only incumbent of a full pool: it was last active before it was admitted. -/
def lateAdmission : DisplacementRequest where
  connected := 1
  capacity := 1
  incumbents := [{ peerId := 1, admittedAt := 900, lastActiveAt := 600, inFlight := 0 }]
  lastDisplacementAt := none
  now := 1000

end Example

/-- With the configured times in place of the normalized ones the rules are not
those of the planner: the incumbent has been held for as long as was asked and is
idle, and the planner finds nobody to displace. -/
theorem planDisplacement_as_configured :
    ¬ forall (req : DisplacementRequest) (cfg : PeerPoolConfig) decision,
      planDisplacement req cfg = decision ↔
        Decides req { cfg.normalized with minEstablishedSecs := cfg.minEstablishedSecs }
          decision := by
  intro claim
  have refused : planDisplacement Example.lateAdmission Example.untenured =
      .refused .noIdleIncumbent := rfl
  cases (claim _ _ _).mp refused with
  | noIdleIncumbent allowed busy =>
      exact busy _ List.mem_cons_self ⟨rfl, by decide, by decide⟩

end Service
end DigGossip
