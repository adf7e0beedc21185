import DigGossip.Service.Operations

namespace DigGossip
namespace Service

open Foundations DigGossip.Types

/-!
# Banned peers hold no slot

A ban removes the slot first and records the row afterwards, and an admission
looks the row up first and inserts the slot afterwards.  Either window can be
entered by the other, and the rule holds along the runs in which neither is:
what was checked is still true when it is acted on.
-/

/-- The peer has an unexpired row. -/
def isBanned (s : ServiceState) (peerId : PeerId) : Bool :=
  (s.banned.lookup peerId).any fun entry => decide (s.now < entry.untilSecs)

/-- A peer with an unexpired row holds no slot. -/
def BannedHoldNoSlot (s : ServiceState) : Prop :=
  forall peerId slot, s.peers.lookup peerId = some slot -> isBanned s peerId = false

/-- An admission finds no unexpired row, a row is recorded for a peer that
holds no slot, and the clock is not set back into the term of a slot's holder. -/
def checksStillHold (order : PeerId -> Nat) : Action -> ServiceState -> Bool
  | .peers region, s => (region.admitted (s.within order region).2).all fun peerId => !isBanned s peerId
  | .insertBan peerId entry, s =>
      (s.peers.lookup peerId).isNone || decide (entry.untilSecs ≤ s.now)
  | .setClock now, s =>
      FiniteMap.countWhere s.peers (fun peerId _ => isBanned { s with now := now } peerId) == 0
  | _, _ => true

variable {order : PeerId -> Nat} {s : ServiceState}

/-- A peer without an unexpired row has none after expired rows are dropped. -/
theorem isBanned_pruneBanned {peerId : PeerId} (clear : isBanned s peerId = false) (now : Nat) :
    isBanned (s.pruneBanned now) peerId = false := by
  unfold isBanned ServiceState.pruneBanned at *
  simp only [FiniteMap.lookup_retain_eq]
  cases found : s.banned.lookup peerId with
  | none => rfl
  | some entry =>
      rw [found] at clear
      cases kept : decide (now < entry.untilSecs) with
      | true => simpa [kept] using clear
      | false => simp [kept]

theorem isBanned_insertBan {peerId other : PeerId} {entry : DigBanEntry}
    (clear : isBanned s other = false)
    (recorded : other = peerId -> entry.untilSecs ≤ s.now) :
    isBanned { s with banned := s.banned.insert peerId entry } other = false := by
  unfold isBanned at *
  simp only [FiniteMap.lookup_insert_eq]
  by_cases same : other = peerId
  · rw [if_pos same, Option.any_some]
    exact decide_eq_false (Nat.not_lt_of_le (recorded same))
  · rw [if_neg same]
    exact clear

/-- One action that meets the condition keeps the rule. -/
theorem BannedHoldNoSlot.exec (rule : BannedHoldNoSlot s) (action : Action)
    (holds : checksStillHold order action s = true) :
    BannedHoldNoSlot (exec order action s).1 := by
  cases action with
  | peers region =>
      intro peerId slot found
      rcases (s.within_step order region).held_or_admitted found with held | admitted
      · rcases Option.isSome_iff_exists.mp held with ⟨old, here⟩
        exact rule peerId old here
      · rw [checksStillHold, admitted, Option.all_some, Bool.not_eq_true'] at holds
        exact holds
  | pruneBanned now =>
      intro peerId slot found
      exact isBanned_pruneBanned (rule peerId slot found) now
  | insertBan peerId entry =>
      intro other slot found
      apply isBanned_insertBan (rule other slot found)
      rintro rfl
      have here : s.peers.lookup other = some slot := found
      rw [checksStillHold, here] at holds
      exact of_decide_eq_true holds
  | setClock now =>
      intro peerId slot found
      have here : s.peers.lookup peerId = some slot := found
      cases revived : isBanned { s with now := now } peerId with
      | false => exact revived
      | true =>
          have counted : 0 < FiniteMap.countWhere s.peers fun peerId _ =>
              isBanned { s with now := now } peerId := FiniteMap.countWhere_pos here revived
          rw [beq_iff_eq.mp holds] at counted
          cases counted
  | tryAcquirePermit =>
      simp only [Service.exec]
      split
      · exact rule
      · exact rule
  | _ => exact rule

/-- Along every run whose checks still hold when they are acted on, a peer with
an unexpired row holds no slot, even while a ban is midway. -/
theorem banned_hold_no_slot (launch : Launch) (moves : List ServiceMove)
    (holds : launch.allows checksStillHold moves = true) :
    BannedHoldNoSlot (launch.after moves).shared := by
  have start : BannedHoldNoSlot launch.world.shared := by
    intro peerId slot found
    have none : launch.world.shared.peers.lookup peerId = none := Finmap.lookup_empty peerId
    rw [none] at found
    cases found
  exact System.shared_invariant (fun order action s holds rule => rule.exec action holds) holds start

namespace Example

/-- A ban completes after a dial of the peer has passed its ban check. -/
def bannedDuringDial : List ServiceMove :=
  [.spawn (connected 1 (host 10 1))] ++ List.replicate 6 (.advance 0 fun _ => 0) ++
  [.spawn (.banPeer 1)] ++ List.replicate 20 (.advance 1 fun _ => 0) ++
  List.replicate 20 (.advance 0 fun _ => 0)

/-- A ban, a refused dial, and a dial after the ban has expired. -/
def bannedThenExpired : List ServiceMove :=
  inSequence 20 [
    connected 1 (host 10 1), .banPeer 1, connected 1 (host 10 1), .setClock 5000,
    connected 1 (host 10 1)]

end Example

theorem banned_hold_no_slot_expired :
    BannedHoldNoSlot (Example.launch.after Example.bannedThenExpired).shared :=
  banned_hold_no_slot Example.launch Example.bannedThenExpired (by decide +kernel)

theorem banned_hold_no_slot_fails :
    ¬ forall (launch : Launch) (moves : List ServiceMove),
      (launch.after moves).settled = true -> BannedHoldNoSlot (launch.after moves).shared := by
  intro always
  have rule := always Example.launch Example.bannedDuringDial (by decide +kernel)
  have held : (Example.launch.after Example.bannedDuringDial).shared.peers.lookup 1 =
      some (liveSlot (Example.host 10 1) true 1 0) := by decide +kernel
  have banned : isBanned (Example.launch.after Example.bannedDuringDial).shared 1 = true := by
    decide +kernel
  have free := rule 1 _ held
  rw [banned] at free
  cases free

end Service
end DigGossip
