import DigGossip.Service.PeerPool

namespace DigGossip
namespace Service

open Foundations DigGossip.Types

/-!
# The floor under direct dialing

Two budgets are combined.  The first counts the peers a relay advertises as
connected, so that the pool does not dial for slots the relay already fills;
the second counts direct peers only, and asks for a quarter of the target.
Both are read off the normalized configuration, whose bounds are positive and
in order.  A configuration that is not normalized has bounds the budget does
not follow: a maximum of zero still leaves one slot to fill.
-/

namespace PeerPoolConfig

theorem maxPeers_pos (cfg : PeerPoolConfig) : 1 ≤ cfg.normalized.maxPeers :=
  Nat.le_max_right _ _

theorem targetPeers_pos (cfg : PeerPoolConfig) : 1 ≤ cfg.normalized.targetPeers :=
  Nat.le_max_left _ _

theorem targetPeers_le_maxPeers (cfg : PeerPoolConfig) :
    cfg.normalized.targetPeers ≤ cfg.normalized.maxPeers :=
  Nat.max_le.mpr ⟨cfg.maxPeers_pos, Nat.min_le_right _ _⟩

/-- Normalizing twice changes no bound of the budgets. -/
theorem targetPeers_normalized (cfg : PeerPoolConfig) :
    cfg.normalized.normalized.targetPeers = cfg.normalized.targetPeers := by
  show Nat.max 1 (Nat.min cfg.normalized.targetPeers cfg.normalized.normalized.maxPeers) = _
  rw [maxPeers_normalized cfg]
  have positive := cfg.targetPeers_pos
  have below := cfg.targetPeers_le_maxPeers
  rw [show Nat.min cfg.normalized.targetPeers cfg.normalized.maxPeers = cfg.normalized.targetPeers
    from Nat.min_eq_left below]
  exact Nat.max_eq_right positive

end PeerPoolConfig

/-- The target of a normalized configuration is the tighter of its two bounds. -/
theorem freeSlotBudget_eq (connected inFlight : Nat) (cfg : PeerPoolConfig) :
    freeSlotBudget connected inFlight cfg = cfg.normalized.targetPeers - (connected + inFlight) := by
  have below := cfg.targetPeers_le_maxPeers
  apply Nat.min_eq_left
  omega

theorem minDirectPeers_le_target (cfg : PeerPoolConfig) :
    minDirectPeers cfg.normalized ≤ cfg.normalized.targetPeers :=
  Nat.max_le.mpr ⟨Nat.div_le_self _ _, cfg.targetPeers_pos⟩

/-- The budget without its inner definitions. -/
theorem freeSlotBudgetWithDirectFloor_eq (directConnected relayReachable inFlight : Nat)
    (cfg : PeerPoolConfig) :
    freeSlotBudgetWithDirectFloor directConnected relayReachable inFlight cfg =
      Nat.min
        (Nat.max (cfg.normalized.targetPeers - (directConnected + relayReachable + inFlight))
          (minDirectPeers cfg.normalized - (directConnected + inFlight)))
        (cfg.normalized.maxPeers - (directConnected + inFlight)) := by
  show Nat.min (Nat.max (freeSlotBudget (directConnected + relayReachable) inFlight cfg.normalized)
    _) _ = _
  rw [freeSlotBudget_eq, PeerPoolConfig.targetPeers_normalized]

/-- The budget only falls when any of the three counts rises. -/
theorem freeSlotBudgetWithDirectFloor_antitone (cfg : PeerPoolConfig)
    {direct direct' relay relay' inFlight inFlight' : Nat} (directLe : direct ≤ direct')
    (relayLe : relay ≤ relay') (inFlightLe : inFlight ≤ inFlight') :
    freeSlotBudgetWithDirectFloor direct' relay' inFlight' cfg ≤
      freeSlotBudgetWithDirectFloor direct relay inFlight cfg := by
  rw [freeSlotBudgetWithDirectFloor_eq, freeSlotBudgetWithDirectFloor_eq]
  have aware : cfg.normalized.targetPeers - (direct' + relay' + inFlight') ≤
      cfg.normalized.targetPeers - (direct + relay + inFlight) := by omega
  have floor : minDirectPeers cfg.normalized - (direct' + inFlight') ≤
      minDirectPeers cfg.normalized - (direct + inFlight) := by omega
  have room : cfg.normalized.maxPeers - (direct' + inFlight') ≤
      cfg.normalized.maxPeers - (direct + inFlight) := by omega
  refine Nat.le_min.mpr ⟨?_, Nat.le_trans (Nat.min_le_right _ _) room⟩
  refine Nat.le_trans (Nat.min_le_left _ _) (Nat.max_le.mpr ⟨?_, ?_⟩)
  · exact Nat.le_trans aware (Nat.le_max_left _ _)
  · exact Nat.le_trans floor (Nat.le_max_right _ _)

/-- The budget stays below the room, reaches the shortfall of direct peers
where there is room for it, falls with every count, and is the plain budget
when no peer is reachable through a relay.  The bounds are those of the
normalized configuration, and a dial in flight counts as a direct peer. -/
theorem direct_floor (cfg : PeerPoolConfig) (direct relay inFlight : Nat) :
    freeSlotBudgetWithDirectFloor direct relay inFlight cfg ≤
        cfg.normalized.maxPeers - (direct + inFlight) ∧
      Nat.min (cfg.normalized.maxPeers - (direct + inFlight))
          (Nat.max (cfg.normalized.targetPeers / 4) 1 - (direct + inFlight)) ≤
        freeSlotBudgetWithDirectFloor direct relay inFlight cfg ∧
      (forall more, relay ≤ more ->
        freeSlotBudgetWithDirectFloor direct more inFlight cfg ≤
          freeSlotBudgetWithDirectFloor direct relay inFlight cfg) ∧
      (forall more, direct ≤ more ->
        freeSlotBudgetWithDirectFloor more relay inFlight cfg ≤
          freeSlotBudgetWithDirectFloor direct relay inFlight cfg) ∧
      (forall more, inFlight ≤ more ->
        freeSlotBudgetWithDirectFloor direct relay more cfg ≤
          freeSlotBudgetWithDirectFloor direct relay inFlight cfg) ∧
      freeSlotBudgetWithDirectFloor direct 0 inFlight cfg = freeSlotBudget direct inFlight cfg ∧
      (direct + inFlight < Nat.max (cfg.normalized.targetPeers / 4) 1 ->
        direct + inFlight < cfg.normalized.maxPeers ->
        0 < freeSlotBudgetWithDirectFloor direct relay inFlight cfg) := by
  have shortfall : Nat.min (cfg.normalized.maxPeers - (direct + inFlight))
      (minDirectPeers cfg.normalized - (direct + inFlight)) ≤
        freeSlotBudgetWithDirectFloor direct relay inFlight cfg := by
    rw [freeSlotBudgetWithDirectFloor_eq]
    refine Nat.le_min.mpr ⟨?_, Nat.min_le_left _ _⟩
    exact Nat.le_trans (Nat.min_le_right _ _) (Nat.le_max_right _ _)
  refine ⟨?_, shortfall, ?_, ?_, ?_, ?_, ?_⟩
  · rw [freeSlotBudgetWithDirectFloor_eq]
    exact Nat.min_le_right _ _
  · intro more rises
    exact freeSlotBudgetWithDirectFloor_antitone cfg (Nat.le_refl _) rises (Nat.le_refl _)
  · intro more rises
    exact freeSlotBudgetWithDirectFloor_antitone cfg rises (Nat.le_refl _) (Nat.le_refl _)
  · intro more rises
    exact freeSlotBudgetWithDirectFloor_antitone cfg (Nat.le_refl _) (Nat.le_refl _) rises
  · -- without relay peers the target is above the floor and below the maximum
    rw [freeSlotBudgetWithDirectFloor_eq, freeSlotBudget_eq, Nat.add_zero]
    have floor := minDirectPeers_le_target cfg
    have below := cfg.targetPeers_le_maxPeers
    have above : minDirectPeers cfg.normalized - (direct + inFlight) ≤
        cfg.normalized.targetPeers - (direct + inFlight) := by omega
    have inside : cfg.normalized.targetPeers - (direct + inFlight) ≤
        cfg.normalized.maxPeers - (direct + inFlight) := by omega
    exact (congrArg (fun budget => Nat.min budget _) (Nat.max_eq_left above)).trans
      (Nat.min_eq_left inside)
  · intro short room
    refine Nat.lt_of_lt_of_le ?_ shortfall
    exact Nat.lt_min.mpr ⟨Nat.sub_pos_of_lt room, Nat.sub_pos_of_lt short⟩

/-- The bounds of a configuration that is not normalized are not kept, and a
node with one direct peer and one dial in flight, below its floor of two, dials
no further when a relay advertises eight peers. -/
theorem direct_floor_as_written :
    ¬ freeSlotBudgetWithDirectFloor 0 0 0 { maxPeers := 0 } ≤
        ({ maxPeers := 0 } : PeerPoolConfig).maxPeers - (0 + 0) ∧
      ¬ (1 < Nat.max (({} : PeerPoolConfig).targetPeers / 4) 1 ->
        1 + 1 < ({} : PeerPoolConfig).maxPeers ->
        0 < freeSlotBudgetWithDirectFloor 1 8 1 {}) := by
  decide

end Service
end DigGossip
