import DigGossip.Service.Duties
import DigGossip.Service.Footprints

namespace DigGossip
namespace Service

open Foundations DigGossip.Types
open Program (Only Quiet wp wp_bind wp_mono wp_perform_bind wp_of_quiet wp_quiet_bind)

/-!
# What an operation that charges a penalty pledges

Three operations charge penalties.  Each charges one peer, writes back the
points it has reached and nothing else, and records a ban of that peer when its
charge has crossed the threshold.  A pledge holds what such an operation has
learned and what it still owes.
-/

/-- The peer whose points an operation charges. -/
def Operation.charged : Operation -> Option PeerId
  | penalizePeer peerId _ => some peerId
  | disconnectAfterKeepaliveFailure peerId _ => some peerId
  | applyInboundRateLimitViolation peerId _ => some peerId
  | _ => none

/-- The operation also records what it charges in the service-wide map. -/
def Operation.records : Operation -> Bool
  | penalizePeer _ _ => true
  | disconnectAfterKeepaliveFailure _ _ => true
  | _ => false

/-- Whether the operation has seen a row of the peer, owes a ban, and has still
to write back the points it has reached. -/
structure Pledge where
  sawRow : Bool
  owesBan : Bool
  writes : Bool
  points : Nat
deriving DecidableEq

namespace Pledge

def none : Pledge := { sawRow := false, owesBan := false, writes := false, points := 0 }

/-- A charge that reaches the threshold owes a ban, unless a row was there. -/
def charge (pledge : Pledge) (crossed : Bool) : Pledge :=
  { pledge with owesBan := pledge.owesBan || (crossed && !pledge.sawRow) }

def settle (pledge : Pledge) : (action : Action) -> action.Reply -> Pledge
  | .bannedContains _, found => { pledge with sawRow := found }
  | .peers (.penalizeLive _ _ _), some (crossed, points) =>
      { pledge.charge crossed with writes := true, points := points }
  | .peers (.removeForBan _ _), .none => { pledge with owesBan := false }
  | .applyPenalty _ _ _, (crossed, points) =>
      { pledge.charge crossed with writes := true, points := points }
  | .addPenalty _ _, (total : Nat) =>
      { pledge.charge (decide (penaltyBanThreshold ≤ total)) with writes := false }
  | .setPenalty _ _, _ => { pledge with writes := false }
  | .insertBan _ _, _ => { pledge with owesBan := false }
  | _, _ => pledge

/-- An operation charges and bans its own peer only, and writes back what it has reached. -/
def Due (op : Operation) (pledge : Pledge) : Action -> Prop
  | .peers (.penalizeLive peerId _ _) => op.charged = some peerId
  | .peers (.removeForBan peerId _) => forall charged, op.charged = some charged -> charged = peerId
  | .applyPenalty _ _ _ => op.charged ≠ .none
  | .addPenalty peerId _ => op.charged = some peerId
  | .setPenalty peerId points => op.charged = some peerId ∧ op.records = true ∧
      pledge.writes = true ∧ pledge.points = points
  | .insertBan peerId _ => forall charged, op.charged = some charged -> charged = peerId
  | _ => True

end Pledge

/-- The operation's program does what is due and an operation that charges ends
without owing a ban. -/
def Pledges {R : Type} (op : Operation) (pledge : Pledge) (program : ServiceProgram R) : Prop :=
  wp (Pledge.Due op) Pledge.settle program pledge fun _ after =>
    op.charged ≠ none -> after.owesBan = false

/-- The actions a pledge does not look at. -/
def Action.isUnpledged : Action -> Bool
  | peers (.penalizeLive _ _ _) | peers (.removeForBan _ _) => false
  | bannedContains _ | applyPenalty _ _ _ | addPenalty _ _ | setPenalty _ _ | insertBan _ _ => false
  | _ => true

section Parts

variable {op : Operation} {pledge : Pledge}

theorem quiet_of_isUnpledged {R : Type} {program : ServiceProgram R} {allowed : Action -> Bool}
    (only : Only allowed program)
    (unpledged : forall action, allowed action = true -> action.isUnpledged = true) :
    Quiet (Pledge.Due op) Pledge.settle program := by
  apply (only.mono unpledged).quiet
  · intro action free pledge
    cases action with
    | peers region => cases region <;> trivial
    | _ => trivial
  · intro action free pledge reply
    cases action with
    | peers region => cases region <;> first | rfl | cases free
    | _ => first | rfl | cases free

theorem pruneExpiredDigBans_pledges (now : Nat) :
    Quiet (Pledge.Due op) Pledge.settle (pruneExpiredDigBans now) :=
  quiet_of_isUnpledged (only_pruneExpiredDigBans now) fun action lift => by
    cases action <;> first | rfl | cases lift

theorem retireLive_pledges (removed : Option PeerSlot) :
    Quiet (Pledge.Due op) Pledge.settle (retireLive removed) :=
  quiet_of_isUnpledged (only_retireLive removed) fun action effect => by
    cases action <;> first | rfl | cases effect

variable {peerId : PeerId}

/-- A ban that is executed is no longer owed. -/
theorem executeDigTimedBan_pledges (charged : op.charged = some peerId) (ip : IpAddr) (now : Nat) :
    Pledges op pledge (executeDigTimedBan peerId ip now) := by
  have own : forall other, op.charged = some other -> other = peerId := by
    intro other same
    rw [charged] at same
    exact (Option.some.inj same).symm
  refine wp_perform_bind own fun _ => ?_
  split
  · exact fun _ => rfl
  · exact ⟨trivial, fun _ _ => rfl⟩

theorem enforceTimedBanAndDisconnect_pledges (charged : op.charged = some peerId) (now : Nat)
    (callerGeneration : Option Nat) :
    Pledges op pledge (enforceTimedBanAndDisconnect peerId now callerGeneration) := by
  have own : forall other, op.charged = some other -> other = peerId := by
    intro other same
    rw [charged] at same
    exact (Option.some.inj same).symm
  refine wp_quiet_bind (pruneExpiredDigBans_pledges now) fun _ => ?_
  refine wp_perform_bind own fun removed => ?_
  cases removed with
  | none => exact fun _ => rfl
  | some removed =>
      refine wp_quiet_bind (retireLive_pledges removed) fun _ => ?_
      exact executeDigTimedBan_pledges charged _ now

end Parts

section Operations

variable {op : Operation} {peerId : PeerId}

theorem penalizePeer_pledges (charged : op.charged = some peerId) (records : op.records = true)
    (reason : PenaltyReason) : Pledges op .none (penalizePeer peerId reason) := by
  refine wp_perform_bind trivial fun running => ?_
  split
  · exact fun _ => rfl
  refine wp_perform_bind trivial fun now => ?_
  refine wp_quiet_bind (pruneExpiredDigBans_pledges now) fun _ => ?_
  refine wp_perform_bind trivial fun (alreadyBanned : Bool) => ?_
  rw [wp_bind]
  refine wp_perform_bind charged fun live => ?_
  cases live with
  | none =>
      refine wp_perform_bind charged fun (total : Nat) => ?_
      change wp _ _ (ite _ _ _) _ _
      split
      · rw [wp_bind]
        exact enforceTimedBanAndDisconnect_pledges charged now none
      · rename_i spared
        exact fun _ => Bool.eq_false_of_not_eq_true spared
  | some reached =>
      rcases reached with ⟨crossed, points⟩
      refine wp_perform_bind ⟨charged, records, rfl, rfl⟩ fun _ => ?_
      change wp _ _ (ite _ _ _) _ _
      split
      · rw [wp_bind]
        exact enforceTimedBanAndDisconnect_pledges charged now none
      · rename_i spared
        exact fun _ => Bool.eq_false_of_not_eq_true spared

theorem disconnectAfterKeepaliveFailure_pledges (charged : op.charged = some peerId)
    (records : op.records = true) (generation : Nat) :
    Pledges op .none (disconnectAfterKeepaliveFailure peerId generation) := by
  have charges : op.charged ≠ none := by
    rw [charged]
    exact Option.some_ne_none peerId
  refine wp_perform_bind trivial fun now => ?_
  refine wp_perform_bind trivial fun removed => ?_
  cases removed with
  | none => exact fun _ => rfl
  | some live =>
      refine wp_perform_bind charges fun (triggered, points) => ?_
      refine wp_perform_bind trivial fun _ => ?_
      refine wp_perform_bind ⟨charged, records, rfl, rfl⟩ fun _ => ?_
      split
      · exact executeDigTimedBan_pledges charged _ now
      · rename_i spared
        exact fun _ => (Bool.and_true _).trans (Bool.eq_false_of_not_eq_true spared)

theorem applyInboundRateLimitViolation_pledges (charged : op.charged = some peerId)
    (generation : Nat) : Pledges op .none (applyInboundRateLimitViolation peerId generation) := by
  have charges : op.charged ≠ none := by
    rw [charged]
    exact Option.some_ne_none peerId
  refine wp_perform_bind trivial fun now => ?_
  refine wp_perform_bind trivial fun current => ?_
  split
  · exact fun _ => rfl
  refine wp_perform_bind charges fun reached => ?_
  rcases reached with ⟨triggered, points⟩
  simp only
  split
  · rename_i spared
    exact fun _ => (Bool.and_true _).trans ((Bool.not_eq_true' _).mp spared)
  refine wp_perform_bind trivial fun later => ?_
  exact enforceTimedBanAndDisconnect_pledges charged later (some generation)

end Operations

/-- An operation that charges nobody does none of what only the others may do. -/
theorem only_unlicensed (config : GossipConfig) {op : Operation} (free : op.charged = none) :
    Only (fun action => !action.isCharge) (op.program config) := by
  have unlicensed : op.licence.charges = false := by
    cases op <;> first | rfl | cases free
  have ends := op.discharges config 0 0 0 (Nat.le_refl 0)
    fun _ _ member => absurd member (Multiset.notMem_zero _)
  apply Program.only_of_wp ends
  intro contract action due
  have licensed := due.licensed
  rw [Action.isLicensed, unlicensed, Bool.or_false, Bool.and_eq_true_iff] at licensed
  exact licensed.2

theorem Operation.pledges (config : GossipConfig) (op : Operation) :
    Pledges op .none (op.program config) := by
  cases free : op.charged with
  | none =>
      refine (only_unlicensed config free).wp ?_ fun _ _ charges => absurd free charges
      intro action uncharged pledge
      cases action with
      | peers region =>
          cases region with
          | penalizeLive peerId reason now => cases uncharged
          | removeForBan peerId callerGeneration => exact fun _ same => by rw [free] at same; cases same
          | _ => trivial
      | insertBan peerId entry => exact fun _ same => by rw [free] at same; cases same
      | _ => trivial
  | some peerId =>
      cases op with
      | penalizePeer charged reason =>
          exact (Program.wp_map ..).mpr (penalizePeer_pledges rfl rfl reason)
      | disconnectAfterKeepaliveFailure charged generation =>
          exact (Program.wp_map ..).mpr (disconnectAfterKeepaliveFailure_pledges rfl rfl generation)
      | applyInboundRateLimitViolation charged generation =>
          exact (Program.wp_map ..).mpr (applyInboundRateLimitViolation_pledges rfl generation)
      | _ => cases free

end Service
end DigGossip
