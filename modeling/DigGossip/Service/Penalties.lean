import DigGossip.Foundations.Auditing
import DigGossip.Service.IpBans
import DigGossip.Service.Pledges

namespace DigGossip
namespace Service

open Foundations DigGossip.Types
open Program (wp)

/-!
# Penalties accumulate up to a ban

The points charged to a peer are kept in the reputation of its live slot and in
the service-wide map, and a ban is recorded when the place that is charged
reaches the threshold.  A reconnect begins with a fresh reputation, a charge to
a live slot writes its points over those of the map, and a violation of the
rate limit is charged to the reputation alone.  So the points charged since the
last ban can be in several places, none of which reaches the threshold.

The law holds along the runs in which what is charged is added to what there
is: no charge finds a reputation that lags behind the record, no record of
points is overtaken by a higher one, and the charge that reaches the threshold
finds all points where it is made.
-/

namespace ServiceState

/-- The total recorded for a peer. -/
def recordedTotal (s : ServiceState) (peerId : PeerId) : Nat :=
  (s.penalties.lookup peerId).getD 0

/-- The peer is recorded as banned. -/
def hasRow (s : ServiceState) (peerId : PeerId) : Bool :=
  (s.banned.lookup peerId).isSome

/-- What an action adds points to, as it stands, and how many it adds.  The
map is read as a reputation that is never banned by itself. -/
def charged (s : ServiceState) : Action -> Option (PeerReputation × Nat)
  | .peers (.penalizeLive peerId reason _) =>
      match s.peers.lookup peerId with
      | some (.live slot) => some (s.reputation slot.generation, reason.penaltyPoints)
      | some (.nat _) => none
      | some (.stub _) => none
      | none => none
  | .applyPenalty generation reason _ => some (s.reputation generation, reason.penaltyPoints)
  | .addPenalty peerId points => some ({ penaltyPoints := s.recordedTotal peerId }, points)
  | _ => none

end ServiceState

/-- The points that an action with this reply has added. -/
def Action.charge : (action : Action) -> action.Reply -> Nat
  | peers (.penalizeLive _ reason _), some _ => reason.penaltyPoints
  | applyPenalty _ reason _, _ => reason.penaltyPoints
  | addPenalty _ points, _ => points
  | _, _ => 0

/-- The deed lifts an expired row of the peer. -/
def lifts (peerId : PeerId) : System.Deed Action Action.Reply -> Bool
  | ⟨.pruneBanned _, expired⟩ => expired.any fun row => decide (row.1 = peerId)
  | _ => false

/-- The deed forgets the points recorded for the peer. -/
def forgets (peerId : PeerId) : System.Deed Action Action.Reply -> Bool
  | ⟨.removePenalty freed, _⟩ => decide (freed = peerId)
  | _ => false

/-! ## The audit of a peer's penalties -/

/-- The pledge of an operation, and whether the others have recorded more than
the points it has reached and not written back. -/
structure PenaltyView where
  pledge : Pledge
  overtaken : Bool

def PenaltyView.own (view : PenaltyView) (action : Action) (reply : action.Reply) :
    PenaltyView where
  pledge := view.pledge.settle action reply
  overtaken :=
    match action, reply with
    | .peers (.penalizeLive _ _ _), some _ => false
    | .applyPenalty _ _ _, _ => false
    | _, _ => view.overtaken

/-- The book of a peer holds the points charged to it since its last ban ended. -/
def penaltyAuditor (peerId : PeerId) :
    Auditor ServiceState Action Action.Reply Operation PenaltyView Nat where
  unseen := { pledge := .none, overtaken := false }
  own := PenaltyView.own
  others := fun view _ after =>
    { view with
      overtaken := view.overtaken || decide (view.pledge.points < after.recordedTotal peerId) }
  enter := fun book op action reply =>
    if lifts peerId ⟨action, reply⟩ then 0
    else if op.charged = some peerId then book + action.charge reply
    else book

abbrev PenaltyAudit := Audit ServiceState Action Action.Reply Outcome Operation PenaltyView Nat

/-- A charge that brings the points of the peer to the threshold finds a row, or
brings the place it is made in there too, and neither that place nor the
operation takes the peer for banned already. -/
def reachesBan (peerId : PeerId) (audit : PenaltyAudit) (view : PenaltyView)
    (reputation : PeerReputation) (points : Nat) : Bool :=
  audit.shared.hasRow peerId || decide (penaltyBanThreshold ≤ audit.book) ||
    decide (audit.book + points < penaltyBanThreshold) ||
    (decide (penaltyBanThreshold ≤ reputation.penaltyPoints + points) && !reputation.isBanned &&
      !view.pledge.sawRow)

/-- What an operation that charges the peer meets: a charge that is to be
recorded ends no lower than the record, the record has not been overtaken when
it is written, and the ban of a connection finds the connection still there. -/
def keepsPoints (peerId : PeerId) (audit : PenaltyAudit) (op : Operation) (view : PenaltyView)
    (action : Action) : Bool :=
  op.charged != some peerId ||
    match action with
    | .setPenalty _ _ => !view.overtaken
    | .peers (.removeForBan banned callerGeneration) =>
        audit.shared.hasRow banned || callerGeneration.all (audit.shared.holdsGeneration banned)
    | _ => (audit.shared.charged action).all fun (reputation, points) =>
        reachesBan peerId audit view reputation points &&
          (!op.records ||
            decide (audit.shared.recordedTotal peerId ≤ reputation.penaltyPoints + points))

namespace Launch

variable (launch : Launch)

def penaltyAudit (peerId : PeerId) (moves : List ServiceMove) : PenaltyAudit :=
  Stepping.run ((service launch.config).auditMove (penaltyAuditor peerId)) moves
    (.idle launch.world.shared 0)

/-- The points charged to the peer since its last ban ended. -/
def chargedSince (peerId : PeerId) (moves : List ServiceMove) : Nat :=
  (launch.penaltyAudit peerId moves).book

/-- The operations that charge the peer have completed. -/
def chargesDone (peerId : PeerId) (moves : List ServiceMove) : Bool :=
  (launch.penaltyAudit peerId moves).threads.all fun thread =>
    thread.op.charged != some peerId || thread.program.isDone

/-- All points of the peer are kept together along these moves. -/
def pointsKept (peerId : PeerId) (moves : List ServiceMove) : Bool :=
  Stepping.along ((service launch.config).auditMove (penaltyAuditor peerId))
    (System.onNoted (keepsPoints peerId)) moves (.idle launch.world.shared 0)

theorem world_penaltyAudit (peerId : PeerId) (moves : List ServiceMove) :
    (launch.penaltyAudit peerId moves).world = launch.after moves :=
  System.world_audited moves _

end Launch

/-! ## What one action does to the points and the rows -/

/-- The total recorded for a peer after an action. -/
def Action.total (peerId : PeerId) (before : Nat) : Action -> Nat
  | removePenalty freed => if peerId = freed then 0 else before
  | setPenalty charged points => if peerId = charged then points else before
  | addPenalty charged points =>
      if peerId = charged then saturatingAdd u32Max before points else before
  | _ => before

section Actions

variable {order : PeerId -> Nat} {action : Action} {s : ServiceState} {peerId : PeerId}

theorem recordedTotal_exec :
    (exec order action s).1.recordedTotal peerId = action.total peerId (s.recordedTotal peerId) := by
  cases action with
  | removePenalty freed =>
      simp only [exec, ServiceState.recordedTotal, Action.total, FiniteMap.lookup_erase_eq]
      split
      · rfl
      · rfl
  | setPenalty charged points =>
      simp only [exec, ServiceState.recordedTotal, Action.total, FiniteMap.lookup_insert_eq]
      split
      · rfl
      · rfl
  | addPenalty charged points =>
      simp only [exec, ServiceState.recordedTotal, ServiceState.addPenalty, Action.total,
        FiniteMap.lookup_insert_eq]
      split
      · rename_i same
        rw [same]
        rfl
      · rfl
  | tryAcquirePermit =>
      simp only [exec]
      split
      · rfl
      · rfl
  | _ => rfl

/-- A row stays until it is lifted. -/
theorem hasRow_exec (row : s.hasRow peerId = true)
    (kept : lifts peerId ⟨action, (exec order action s).2⟩ = false) :
    (exec order action s).1.hasRow peerId = true := by
  rcases Option.isSome_iff_exists.mp row with ⟨entry, found⟩
  cases action with
  | pruneBanned now =>
      by_cases expired : entry.untilSecs ≤ now
      · have lifted : lifts peerId ⟨.pruneBanned now, s.expiredBans order now⟩ = true :=
          List.any_eq_true.mpr ⟨_, mem_expiredBans found expired, decide_eq_true rfl⟩
        exact absurd lifted (Bool.eq_false_iff.mp kept)
      · have still := lookup_pruneBanned.mpr ⟨found, Nat.lt_of_not_le expired⟩
        exact Option.isSome_iff_exists.mpr ⟨entry, still⟩
  | insertBan banned recorded =>
      simp only [exec, ServiceState.hasRow, FiniteMap.lookup_insert_eq]
      split
      · rfl
      · exact row
  | banIp ip => exact row
  | unbanIp ip => exact row
  | setClock now => exact row
  | _ =>
      rw [ServiceState.hasRow, (exec_keepsBans rfl).1]
      exact row

theorem PeerReputation.applyPenalty_crosses {reputation : PeerReputation} {reason : PenaltyReason}
    {now : Nat} (reached : penaltyBanThreshold ≤ reputation.penaltyPoints + reason.penaltyPoints)
    (free : reputation.isBanned = false) : (reputation.applyPenalty reason now).2 = true := by
  have within : penaltyBanThreshold ≤
      saturatingAdd u32Max reputation.penaltyPoints reason.penaltyPoints :=
    Nat.le_min.mpr ⟨reached, by decide⟩
  simp only [PeerReputation.applyPenalty]
  rw [if_pos ⟨within, free⟩]

/-- What a charge of a live slot replies. -/
theorem penalizeLive_reply (charged : PeerId) (reason : PenaltyReason) (now : Nat) :
    (exec order (.peers (.penalizeLive charged reason now)) s).2 =
      (s.charged (.peers (.penalizeLive charged reason now))).map fun (reputation, _) =>
        let (after, crossed) := reputation.applyPenalty reason now
        (crossed, after.penaltyPoints) := by
  simp only [exec, ServiceState.within, ServiceState.penalizeLive, ServiceState.charged]
  cases found : s.peers.lookup charged with
  | none => rfl
  | some slot =>
      cases slot with
      | live slot => rfl
      | nat slot => rfl
      | stub peer => rfl

theorem charged_penalizeLive {charged : PeerId} {reason : PenaltyReason} {now points : Nat}
    {reputation : PeerReputation}
    (made : s.charged (.peers (.penalizeLive charged reason now)) = some (reputation, points)) :
    points = reason.penaltyPoints := by
  simp only [ServiceState.charged] at made
  split at made
  · exact (congrArg Prod.snd (Option.some.inj made)).symm
  · cases made
  · cases made
  · cases made

/-- The points an action has added are those it was to add. -/
theorem charge_exec :
    action.charge (exec order action s).2 = ((s.charged action).map Prod.snd).getD 0 := by
  cases action with
  | peers region =>
      cases region with
      | penalizeLive charged reason now =>
          rw [penalizeLive_reply]
          cases made : s.charged (.peers (.penalizeLive charged reason now)) with
          | none => rfl
          | some place =>
              rcases place with ⟨reputation, points⟩
              exact (charged_penalizeLive made).symm
      | _ => rfl
  | _ => rfl

/-- A charge that reaches the threshold, of a peer that is not banned there and
had no row, owes a ban. -/
theorem owesBan_of_charged {pledge : Pledge} {reputation : PeerReputation} {points : Nat}
    (made : s.charged action = some (reputation, points))
    (reached : penaltyBanThreshold ≤ reputation.penaltyPoints + points)
    (free : reputation.isBanned = false) (unseen : pledge.sawRow = false) :
    (pledge.settle action (exec order action s).2).owesBan = true := by
  have owed : (pledge.charge true).owesBan = true := by
    rw [Pledge.charge, unseen]
    exact Bool.or_true _
  cases action with
  | peers region =>
      cases region with
      | penalizeLive charged reason now =>
          rw [charged_penalizeLive made] at reached
          rw [penalizeLive_reply, made, Option.map_some]
          simp only [Pledge.settle, PeerReputation.applyPenalty_crosses reached free]
          exact owed
      | _ => cases made
  | applyPenalty generation reason now =>
      cases made
      simp only [exec, ServiceState.applyPenalty, Pledge.settle,
        PeerReputation.applyPenalty_crosses reached free]
      exact owed
  | addPenalty charged added =>
      cases made
      have within : penaltyBanThreshold ≤ saturatingAdd u32Max (s.recordedTotal charged) points :=
        Nat.le_min.mpr ⟨reached, by decide⟩
      change (pledge.charge (decide (penaltyBanThreshold ≤
        saturatingAdd u32Max (s.recordedTotal charged) points))).owesBan = true
      rw [decide_eq_true within]
      exact owed
  | _ => cases made

/-- The points an operation has reached are those of its charge, or it has
charged no slot and has nothing new to write back. -/
theorem PenaltyView.own_cases (view : PenaltyView) :
    (exists reputation points, s.charged action = some (reputation, points) ∧
      (view.own action (exec order action s).2).pledge.points =
        saturatingAdd u32Max reputation.penaltyPoints points) ∨
      ((view.own action (exec order action s).2).pledge.points = view.pledge.points ∧
        (view.own action (exec order action s).2).overtaken = view.overtaken ∧
        ((view.own action (exec order action s).2).pledge.writes = true ->
          view.pledge.writes = true)) := by
  cases action with
  | peers region =>
      cases region with
      | penalizeLive charged reason now =>
          rw [penalizeLive_reply]
          cases made : s.charged (.peers (.penalizeLive charged reason now)) with
          | none => exact Or.inr ⟨rfl, rfl, id⟩
          | some place =>
              rcases place with ⟨reputation, points⟩
              refine Or.inl ⟨reputation, points, rfl, ?_⟩
              rw [charged_penalizeLive made, <- PeerReputation.penaltyPoints_applyPenalty]
              rfl
      | removeForBan banned callerGeneration =>
          generalize (exec order (.peers (.removeForBan banned callerGeneration)) s).2 = reply
          cases reply with
          | none => exact Or.inr ⟨rfl, rfl, id⟩
          | some removed => exact Or.inr ⟨rfl, rfl, id⟩
      | _ => exact Or.inr ⟨rfl, rfl, id⟩
  | applyPenalty generation reason now =>
      refine Or.inl ⟨s.reputation generation, reason.penaltyPoints, rfl, ?_⟩
      exact PeerReputation.penaltyPoints_applyPenalty _ _ now
  | addPenalty charged added => exact Or.inr ⟨rfl, rfl, fun writes => by cases writes⟩
  | setPenalty charged points => exact Or.inr ⟨rfl, rfl, fun writes => by cases writes⟩
  | _ => exact Or.inr ⟨rfl, rfl, id⟩

/-- A ban that is owed stays owed, or the row is there, when the ban of a
connection finds the connection there. -/
theorem owesBan_exec {pledge : Pledge} {op : Operation} (due : pledge.Due op action)
    (charged : op.charged = some peerId) (owes : pledge.owesBan = true)
    (there : forall banned callerGeneration,
      action = .peers (.removeForBan banned callerGeneration) ->
        s.hasRow banned = true ∨ callerGeneration.all (s.holdsGeneration banned) = true) :
    (pledge.settle action (exec order action s).2).owesBan = true ∨
      (exec order action s).1.hasRow peerId = true := by
  have still : forall crossed, (pledge.charge crossed).owesBan = true :=
    fun crossed => Bool.or_eq_true_iff.mpr (Or.inl owes)
  cases action with
  | peers region =>
      cases region with
      | penalizeLive banned reason now =>
          generalize (exec order (.peers (.penalizeLive banned reason now)) s).2 = reply
          cases reply with
          | none => exact Or.inl owes
          | some reached => exact Or.inl (still reached.1)
      | removeForBan banned callerGeneration =>
          have own : peerId = banned := due peerId charged
          subst own
          rcases there peerId callerGeneration rfl with row | held
          · exact Or.inr row
          · simp only [exec, ServiceState.within, ServiceState.removeForBan]
            rw [if_pos held]
            exact Or.inl owes
      | _ => exact Or.inl owes
  | insertBan banned entry =>
      have own : peerId = banned := due peerId charged
      subst own
      simp only [exec, ServiceState.hasRow, FiniteMap.lookup_insert_eq, if_true]
      exact Or.inr rfl
  | applyPenalty generation reason now => exact Or.inl (still _)
  | addPenalty banned points => exact Or.inl (still _)
  | _ => exact Or.inl owes

end Actions

/-! ## The invariant of the audit -/

/-- The peer has a row, or an operation that charges it owes the ban. -/
def BannedOrOwed (peerId : PeerId) (audit : PenaltyAudit) : Prop :=
  audit.shared.hasRow peerId = true ∨ ∃ thread ∈ audit.threads,
    thread.op.charged = some peerId ∧ thread.view.pledge.owesBan = true

/-- Every operation keeps its pledge, what is to be written back is no lower
than the record unless it was overtaken, and when the points charged since the
last ban reach the threshold there is a row or a ban is owed. -/
structure PointsKept (peerId : PeerId) (audit : PenaltyAudit) : Prop where
  pledged : ∀ thread ∈ audit.threads, Pledges thread.op thread.view.pledge thread.program
  totals : forall other, audit.shared.recordedTotal other ≤ u32Max
  points : ∀ thread ∈ audit.threads, thread.view.pledge.points ≤ u32Max
  written : ∀ thread ∈ audit.threads, thread.op.charged = some peerId -> thread.op.records = true ->
    thread.view.pledge.writes = true -> thread.view.overtaken = false ->
      audit.shared.recordedTotal peerId ≤ thread.view.pledge.points
  banned : penaltyBanThreshold ≤ audit.book -> BannedOrOwed peerId audit

section Acted

variable {peerId : PeerId} {audit : PenaltyAudit} {index : Nat} {order : PeerId -> Nat}
  {op : Operation} {view : PenaltyView} {action : Action}
  {next : action.Reply -> ServiceProgram Outcome}

/-- What a charge of the peer meets, when the points are kept. -/
theorem keepsPoints_charge {reputation : PeerReputation} {points : Nat}
    (keeps : keepsPoints peerId audit op view action = true) (charged : op.charged = some peerId)
    (made : audit.shared.charged action = some (reputation, points)) :
    reachesBan peerId audit view reputation points = true ∧ (op.records = true ->
      audit.shared.recordedTotal peerId ≤ reputation.penaltyPoints + points) := by
  have mine : (op.charged != some peerId) = false := by
    rw [charged]
    exact bne_self_eq_false _
  unfold keepsPoints at keeps
  rw [mine, Bool.false_or] at keeps
  have meets : (audit.shared.charged action).all (fun (reputation, points) =>
      reachesBan peerId audit view reputation points && (!op.records ||
        decide (audit.shared.recordedTotal peerId ≤ reputation.penaltyPoints + points))) = true := by
    cases action with
    | peers region =>
        cases region with
        | removeForBan banned callerGeneration => rfl
        | _ => exact keeps
    | setPenalty charged points => rfl
    | _ => exact keeps
  rw [made, Option.all_some, Bool.and_eq_true_iff] at meets
  refine ⟨meets.1, fun records => ?_⟩
  have outgrows := meets.2
  rw [records, Bool.not_true, Bool.false_or] at outgrows
  exact of_decide_eq_true outgrows

/-- The recorded total is written over by a lower one neither by a charge nor by
a write of points that are still ahead of it. -/
theorem recordedTotal_le_exec (kept : PointsKept peerId audit)
    (running : audit.threads[index]? = some ⟨op, view, .act action next⟩)
    (keeps : keepsPoints peerId audit op view action = true) :
    audit.shared.recordedTotal peerId ≤ (exec order action audit.shared).1.recordedTotal peerId ∨
      action = .removePenalty peerId := by
  have member := List.mem_of_getElem? running
  have due : view.pledge.Due op action := (kept.pledged _ member).1
  rw [recordedTotal_exec]
  cases action with
  | removePenalty freed =>
      by_cases same : peerId = freed
      · exact Or.inr (congrArg Action.removePenalty same.symm)
      · refine Or.inl ?_
        rw [Action.total, if_neg same]
  | setPenalty charged points =>
      refine Or.inl ?_
      rw [Action.total]
      split
      · rename_i same
        subst same
        rcases due with ⟨charges, records, writes, rfl⟩
        have ahead : view.overtaken = false := by
          rw [keepsPoints, charges, bne_self_eq_false, Bool.false_or] at keeps
          exact (Bool.not_eq_true' _).mp keeps
        exact kept.written _ member charges records writes ahead
      · exact Nat.le_refl _
  | addPenalty charged points =>
      refine Or.inl ?_
      rw [Action.total]
      split
      · exact Nat.le_min.mpr ⟨Nat.le_add_right _ _, kept.totals peerId⟩
      · exact Nat.le_refl _
  | _ => exact Or.inl (Nat.le_refl _)

theorem totals_exec (kept : PointsKept peerId audit)
    (running : audit.threads[index]? = some ⟨op, view, .act action next⟩) (other : PeerId) :
    (exec order action audit.shared).1.recordedTotal other ≤ u32Max := by
  have member := List.mem_of_getElem? running
  have due : view.pledge.Due op action := (kept.pledged _ member).1
  rw [recordedTotal_exec]
  cases action with
  | removePenalty freed =>
      rw [Action.total]
      split
      · exact Nat.zero_le _
      · exact kept.totals other
  | setPenalty charged points =>
      rw [Action.total]
      split
      · rcases due with ⟨_, _, _, rfl⟩
        exact kept.points _ member
      · exact kept.totals other
  | addPenalty charged points =>
      rw [Action.total]
      split
      · exact Nat.min_le_right _ _
      · exact kept.totals other
  | _ => exact kept.totals other

/-- What an operation has still to write back is ahead of the record. -/
theorem written_own (kept : PointsKept peerId audit)
    (running : audit.threads[index]? = some ⟨op, view, .act action next⟩)
    (keeps : keepsPoints peerId audit op view action = true) (charged : op.charged = some peerId)
    (records : op.records = true)
    (writes : (view.own action (exec order action audit.shared).2).pledge.writes = true)
    (ahead : (view.own action (exec order action audit.shared).2).overtaken = false) :
    (exec order action audit.shared).1.recordedTotal peerId ≤
      (view.own action (exec order action audit.shared).2).pledge.points := by
  have member := List.mem_of_getElem? running
  have lower : (exec order action audit.shared).1.recordedTotal peerId ≤
      audit.shared.recordedTotal peerId := by
    rw [recordedTotal_exec]
    cases action with
    | removePenalty freed =>
        rw [Action.total]
        split
        · exact Nat.zero_le _
        · exact Nat.le_refl _
    | setPenalty written points => cases writes
    | addPenalty added points => cases writes
    | _ => exact Nat.le_refl _
  apply Nat.le_trans lower
  rcases view.own_cases with ⟨reputation, points, made, reached⟩ | ⟨same, seen, before⟩
  · rw [reached]
    exact Nat.le_min.mpr ⟨(keepsPoints_charge keeps charged made).2 records, kept.totals peerId⟩
  · rw [same]
    exact kept.written _ member charged records (before writes) (seen.symm.trans ahead)

/-- The points an operation has reached fit into the word. -/
theorem points_own (kept : PointsKept peerId audit)
    (running : audit.threads[index]? = some ⟨op, view, .act action next⟩) :
    (view.own action (exec order action audit.shared).2).pledge.points ≤ u32Max := by
  rcases view.own_cases with ⟨reputation, points, _, reached⟩ | ⟨same, _⟩
  · rw [reached]
    exact Nat.min_le_right _ _
  · rw [same]
    exact kept.points _ (List.mem_of_getElem? running)

/-- The charge that brings the points to the threshold finds the row or owes the ban. -/
theorem banned_of_charge {reputation : PeerReputation} {points : Nat}
    (finds : reachesBan peerId audit view reputation points = true)
    (made : audit.shared.charged action = some (reputation, points))
    (below : ¬ penaltyBanThreshold ≤ audit.book)
    (reached : penaltyBanThreshold ≤ audit.book + points) :
    audit.shared.hasRow peerId = true ∨
      (view.own action (exec order action audit.shared).2).pledge.owesBan = true := by
  simp only [reachesBan, Bool.or_eq_true, Bool.and_eq_true, decide_eq_true_eq,
    Bool.not_eq_true'] at finds
  rcases finds with ((row | above) | under) | ⟨⟨enough, free⟩, unseen⟩
  · exact Or.inl row
  · exact absurd above below
  · exact absurd reached (Nat.not_le_of_lt under)
  · exact Or.inr (owesBan_of_charged made enough free unseen)

/-- The operation that acts owes the ban. -/
theorem bannedOrOwed_own (running : audit.threads[index]? = some ⟨op, view, .act action next⟩)
    (charged : op.charged = some peerId)
    (owes : (view.own action (exec order action audit.shared).2).pledge.owesBan = true) :
    BannedOrOwed peerId ((penaltyAuditor peerId).note audit index op view action next
      (exec order action audit.shared)) :=
  Or.inr ⟨_, Auditor.mem_note_self running, charged, owes⟩

/-- A row stays and a ban that is owed is recorded or stays owed. -/
theorem BannedOrOwed.note (banned : BannedOrOwed peerId audit)
    (running : audit.threads[index]? = some ⟨op, view, .act action next⟩)
    (due : view.pledge.Due op action) (keeps : keepsPoints peerId audit op view action = true)
    (unlifted : lifts peerId ⟨action, (exec order action audit.shared).2⟩ = false) :
    BannedOrOwed peerId ((penaltyAuditor peerId).note audit index op view action next
      (exec order action audit.shared)) := by
  rcases banned with row | ⟨thread, member, charged, owes⟩
  · exact Or.inl (hasRow_exec row unlifted)
  · rcases Auditor.mem_note running member with same | observed
    · subst same
      have there : forall banned callerGeneration,
          action = .peers (.removeForBan banned callerGeneration) ->
          audit.shared.hasRow banned = true ∨
            callerGeneration.all (audit.shared.holdsGeneration banned) = true := by
        rintro banned callerGeneration rfl
        unfold keepsPoints at keeps
        rw [charged, bne_self_eq_false, Bool.false_or] at keeps
        exact Bool.or_eq_true_iff.mp keeps
      rcases owesBan_exec due charged owes there with still | row
      · exact bannedOrOwed_own running charged still
      · exact Or.inl row
    · exact Or.inr ⟨_, observed, charged, owes⟩

/-- The charge that brings the points to the threshold leaves the row or owes the ban. -/
theorem bannedOrOwed_crossed (running : audit.threads[index]? = some ⟨op, view, .act action next⟩)
    (charged : op.charged = some peerId) (keeps : keepsPoints peerId audit op view action = true)
    (unlifted : lifts peerId ⟨action, (exec order action audit.shared).2⟩ = false)
    (below : ¬ penaltyBanThreshold ≤ audit.book)
    (reached : penaltyBanThreshold ≤
      audit.book + action.charge (exec order action audit.shared).2) :
    BannedOrOwed peerId ((penaltyAuditor peerId).note audit index op view action next
      (exec order action audit.shared)) := by
  rw [charge_exec] at reached
  cases made : audit.shared.charged action with
  | none =>
      rw [made] at reached
      exact absurd reached below
  | some place =>
      rcases place with ⟨reputation, points⟩
      rw [made] at reached
      have finds := (keepsPoints_charge keeps charged made).1
      rcases banned_of_charge finds made below reached with row | owes
      · exact Or.inl (hasRow_exec row unlifted)
      · exact bannedOrOwed_own running charged owes

/-- When the points charged reach the threshold there is still the row, or the
ban that an operation owes. -/
theorem banned_note (kept : PointsKept peerId audit)
    (running : audit.threads[index]? = some ⟨op, view, .act action next⟩)
    (keeps : keepsPoints peerId audit op view action = true)
    (reached : penaltyBanThreshold ≤ (penaltyAuditor peerId).enter audit.book op action
      (exec order action audit.shared).2) :
    BannedOrOwed peerId ((penaltyAuditor peerId).note audit index op view action next
      (exec order action audit.shared)) := by
  have due : view.pledge.Due op action := (kept.pledged _ (List.mem_of_getElem? running)).1
  have unlifted : lifts peerId ⟨action, (exec order action audit.shared).2⟩ = false := by
    apply Bool.eq_false_of_not_eq_true
    intro lifted
    simp only [penaltyAuditor, lifted, if_true] at reached
    cases reached
  by_cases before : penaltyBanThreshold ≤ audit.book
  · exact (kept.banned before).note running due keeps unlifted
  · simp only [penaltyAuditor, unlifted, Bool.false_eq_true, if_false] at reached
    split at reached
    · rename_i charged
      exact bannedOrOwed_crossed running charged keeps unlifted before reached
    · exact absurd reached before

/-- An action that keeps the points together keeps the invariant. -/
theorem PointsKept.note (kept : PointsKept peerId audit)
    (running : audit.threads[index]? = some ⟨op, view, .act action next⟩)
    (keeps : keepsPoints peerId audit op view action = true) :
    PointsKept peerId ((penaltyAuditor peerId).note audit index op view action next
      (exec order action audit.shared)) where
  pledged := by
    intro thread member
    rcases Auditor.of_mem_note member with rfl | ⟨old, held, rfl⟩
    · have pledged : Pledges op view.pledge (.act action next) :=
        kept.pledged _ (List.mem_of_getElem? running)
      exact pledged.2 _
    · exact kept.pledged old held
  totals := totals_exec kept running
  points := by
    intro thread member
    rcases Auditor.of_mem_note member with rfl | ⟨old, held, rfl⟩
    · exact points_own kept running
    · exact kept.points old held
  written := by
    intro thread member charged records writes ahead
    rcases Auditor.of_mem_note member with rfl | ⟨old, held, rfl⟩
    · exact written_own kept running keeps charged records writes ahead
    · have caught := (Bool.or_eq_false_iff.mp ahead).2
      exact Nat.le_of_not_lt (of_decide_eq_false caught)
  banned := banned_note kept running keeps

end Acted

theorem PointsKept.idle (launch : Launch) (peerId : PeerId) :
    PointsKept peerId (.idle launch.world.shared 0) where
  pledged := fun _ member => absurd member List.not_mem_nil
  totals := fun _ => Nat.zero_le _
  points := fun _ member => absurd member List.not_mem_nil
  written := fun _ member => absurd member List.not_mem_nil
  banned := fun reached => by cases reached

/-- A new operation has charged and seen nothing. -/
theorem PointsKept.spawn {peerId : PeerId} {audit : PenaltyAudit} (kept : PointsKept peerId audit)
    (config : GossipConfig) (op : Operation) :
    PointsKept peerId { audit with
      threads := audit.threads ++ [⟨op, (penaltyAuditor peerId).unseen, op.program config⟩] } := by
  have split : forall thread : Thread Action Action.Reply Outcome Operation PenaltyView,
      thread ∈ audit.threads ++ [⟨op, (penaltyAuditor peerId).unseen, op.program config⟩] ->
      thread ∈ audit.threads ∨
        thread = ⟨op, (penaltyAuditor peerId).unseen, op.program config⟩ := by
    intro thread member
    rcases List.mem_append.mp member with old | new
    · exact Or.inl old
    · exact Or.inr (List.mem_singleton.mp new)
  constructor
  · intro thread member
    rcases split thread member with old | rfl
    · exact kept.pledged thread old
    · exact op.pledges config
  · exact kept.totals
  · intro thread member
    rcases split thread member with old | rfl
    · exact kept.points thread old
    · exact Nat.zero_le _
  · intro thread member charged records writes
    rcases split thread member with old | rfl
    · exact kept.written thread old charged records writes
    · cases writes
  · intro reached
    rcases kept.banned reached with row | ⟨thread, member, owing⟩
    · exact Or.inl row
    · exact Or.inr ⟨thread, List.mem_append_left _ member, owing⟩

theorem pointsKept_of_run {launch : Launch} {peerId : PeerId} {moves : List ServiceMove}
    (passed : launch.pointsKept peerId moves = true) :
    PointsKept peerId (launch.penaltyAudit peerId moves) := by
  refine System.audit_invariant ?_ ?_ passed (PointsKept.idle launch peerId)
  · intro audit op kept
    exact kept.spawn launch.config op
  · intro audit index order op view action next running keeps kept
    exact kept.note running keeps

/-! ## Points are forgotten only when a ban has expired -/

section Expiry

variable {order : PeerId -> Nat} {action : Action} {s : ServiceState} {peerId : PeerId}

theorem count_lift_expiryDuties (expired : List (PeerId × IpAddr)) :
    (expiryDuties expired).count (.lift peerId) = (expired.map Prod.fst).count peerId := by
  induction expired with
  | nil => rfl
  | cons row rest inner =>
      have unban : (unbanDuties row.2).count (.lift peerId) = 0 := by
        unfold unbanDuties
        split
        · rfl
        · exact Multiset.count_eq_zero_of_notMem fun member => by
            cases Multiset.mem_singleton.mp member
      rw [expiryDuties, Multiset.count_add, unban, Nat.zero_add, Multiset.count_cons, inner,
        List.map_cons, List.count_cons]
      simp only [Duty.lift.injEq, beq_iff_eq, @eq_comm _ peerId]

/-- An expiry pass lifts each row once. -/
theorem nodup_expiredBans (now : Nat) : ((s.expiredBans order now).map Prod.fst).Nodup := by
  rw [ServiceState.expiredBans, List.map_filterMap]
  apply List.Nodup.filterMap _ (nodup_listing order s.banned.keys)
  intro first second freed left right
  split at left
  · split at left
    · split at right
      · split at right
        · exact (Option.some.inj left).trans (Option.some.inj right).symm
        · cases right
      · cases right
    · cases left
  · cases left

theorem count_begins_lift :
    (action.begins (exec order action s).2).count (.lift peerId) =
      if lifts peerId ⟨action, (exec order action s).2⟩ then 1 else 0 := by
  have none : (forall now, action ≠ .pruneBanned now) ->
      (action.begins (exec order action s).2).count (.lift peerId) = 0 := by
    intro other
    apply Multiset.count_eq_zero_of_notMem
    intro member
    have begun := Duty.begunBy_of_mem member
    cases action with
    | pruneBanned now => exact other now rfl
    | _ => cases begun
  cases action with
  | pruneBanned now =>
      change (expiryDuties (s.expiredBans order now)).count (.lift peerId) = _
      rw [count_lift_expiryDuties]
      have listed : lifts peerId ⟨.pruneBanned now, s.expiredBans order now⟩ = true ↔
          peerId ∈ (s.expiredBans order now).map Prod.fst := by
        simp [lifts]
      by_cases freed : peerId ∈ (s.expiredBans order now).map Prod.fst
      · exact (List.count_eq_one_of_mem (nodup_expiredBans now) freed).trans
          (if_pos (listed.mpr freed)).symm
      · exact (List.count_eq_zero_of_not_mem freed).trans
          (if_neg fun lifted => freed (listed.mp lifted)).symm
  | _ => exact none fun now same => by cases same

theorem count_ends_lift {reply : action.Reply} :
    action.ends.count (.lift peerId) = if forgets peerId ⟨action, reply⟩ then 1 else 0 := by
  have none : (forall freed, action ≠ .removePenalty freed) ->
      action.ends.count (.lift peerId) = 0 := by
    intro other
    apply Multiset.count_eq_zero_of_notMem
    intro member
    have ended := Duty.endedBy_of_mem member
    cases action with
    | removePenalty freed => exact other freed rfl
    | peers region => cases region <;> cases ended
    | _ => cases ended
  cases action with
  | removePenalty freed =>
      simp only [Action.ends, forgets, decide_eq_true_eq, Multiset.count_singleton,
        Duty.lift.injEq, @eq_comm _ peerId]
  | _ => exact none fun freed same => by cases same

end Expiry

/-- Each expiry of a peer's ban is followed by at most one removal of its points. -/
theorem forgets_le_lifts (launch : Launch) (moves : List ServiceMove) (peerId : PeerId) :
    (launch.trace moves).countP (forgets peerId) ≤ (launch.trace moves).countP (lifts peerId) := by
  let Global := fun (past : List (System.Deed Action Action.Reply)) (_ : ServiceState)
      (owed : Multiset Duty) =>
    past.countP (lifts peerId) = past.countP (forgets peerId) + owed.count (.lift peerId)
  have balanced : DutiesBalanced (fun _ _ => True) Global (launch.trace moves)
      (launch.after moves) := by
    apply duties_balanced (fun _ => trivial) (fun _ _ _ _ _ _ => trivial)
      (fun _ _ _ _ _ _ => trivial) _ rfl (launch.allows_everything moves)
    intro past order action s others contract _ _ due balance
    have linked : forall link, Duty.lift peerId ≠ .effect (.linkClosed link) :=
      fun link same => by cases same
    have change := @count_settled others contract action (exec order action s).2 _ due linked
    rw [count_begins_lift, @count_ends_lift action peerId (exec order action s).2] at change
    have before : past.countP (lifts peerId) =
        past.countP (forgets peerId) + (others + contract.owed).count (.lift peerId) := balance
    change (past ++ _).countP _ = (past ++ _).countP _ + _
    rw [List.countP_append, List.countP_append, List.countP_singleton, List.countP_singleton]
    omega
  rcases balanced with ⟨total, _, balance⟩
  exact Nat.le.intro balance.symm

/-- The penalties of a peer accumulate along a run: the recorded total falls
only where an expired ban is forgotten, and whenever the points charged since
the last ban have reached the threshold and those who charged them are done,
the peer is recorded as banned. -/
structure PenaltiesAccumulate (launch : Launch) (peerId : PeerId) (moves : List ServiceMove) :
    Prop where
  grows : forall count move, moves[count]? = some move ->
    (launch.after (moves.take count)).shared.recordedTotal peerId ≤
        (launch.after (moves.take (count + 1))).shared.recordedTotal peerId ∨
      (service launch.config).deed (launch.after (moves.take count)) move =
        some ⟨.removePenalty peerId, ()⟩
  expired : (launch.trace moves).countP (forgets peerId) ≤
    (launch.trace moves).countP (lifts peerId)
  banned : forall count, penaltyBanThreshold ≤ launch.chargedSince peerId (moves.take count) ->
    launch.chargesDone peerId (moves.take count) = true ->
      (launch.after (moves.take count)).shared.hasRow peerId = true

/-- An operation that charges is done only when it owes no ban. -/
theorem PointsKept.hasRow {peerId : PeerId} {audit : PenaltyAudit} (kept : PointsKept peerId audit)
    (reached : penaltyBanThreshold ≤ audit.book)
    (done : (audit.threads.all fun thread =>
      thread.op.charged != some peerId || thread.program.isDone) = true) :
    audit.shared.hasRow peerId = true := by
  rcases kept.banned reached with row | ⟨thread, member, charged, owes⟩
  · exact row
  · have finished := List.all_eq_true.mp done thread member
    rw [charged, bne_self_eq_false, Bool.false_or] at finished
    have pledged := kept.pledged thread member
    rcases thread with ⟨op, view, program⟩
    cases program with
    | act action next => cases finished
    | done result =>
        have free : view.pledge.owesBan = false := pledged (by
          rw [charged]
          exact Option.some_ne_none peerId)
        rw [free] at owes
        cases owes

/-- A move that keeps the points together does not lower the recorded total,
unless it forgets an expired ban. -/
theorem PointsKept.grows {peerId : PeerId} {audit : PenaltyAudit} (kept : PointsKept peerId audit)
    (config : GossipConfig) {move : ServiceMove}
    (keeps : System.onNoted (keepsPoints peerId) audit move = true) :
    audit.world.shared.recordedTotal peerId ≤
        ((service config).step audit.world move).shared.recordedTotal peerId ∨
      (service config).deed audit.world move = some ⟨.removePenalty peerId, ()⟩ := by
  cases move with
  | spawn op => exact Or.inl (Nat.le_refl _)
  | advance index order =>
      simp only [System.onNoted] at keeps
      simp only [System.step, System.deed, Audit.world, List.getElem?_map]
      cases running : audit.threads[index]? with
      | none => exact Or.inl (Nat.le_refl _)
      | some thread =>
          rw [running] at keeps
          rcases thread with ⟨op, view, program⟩
          cases program with
          | done result => exact Or.inl (Nat.le_refl _)
          | act action next =>
              rcases recordedTotal_le_exec kept running keeps with grown | forgotten
              · exact Or.inl grown
              · subst forgotten
                exact Or.inr rfl

/-- In every run that keeps the points of a peer together its penalties accumulate. -/
theorem penalties_accumulate {launch : Launch} {peerId : PeerId} {moves : List ServiceMove}
    (kept : launch.pointsKept peerId moves = true) : PenaltiesAccumulate launch peerId moves where
  grows := by
    intro count move made
    have invariant : PointsKept peerId (launch.penaltyAudit peerId (moves.take count)) :=
      pointsKept_of_run (Stepping.along_take kept count)
    have keeps : System.onNoted (keepsPoints peerId)
        (launch.penaltyAudit peerId (moves.take count)) move = true := Stepping.along_at kept made
    rw [List.take_add_one, made, Option.toList_some, Launch.after_concat,
      <- launch.world_penaltyAudit peerId]
    exact invariant.grows launch.config keeps
  expired := forgets_le_lifts launch moves peerId
  banned := by
    intro count reached done
    have invariant : PointsKept peerId (launch.penaltyAudit peerId (moves.take count)) :=
      pointsKept_of_run (Stepping.along_take kept count)
    have same := launch.world_penaltyAudit peerId (moves.take count)
    rw [<- same]
    exact invariant.hasRow reached done

namespace Example

/-- A peer is charged, reconnects, and is charged as many points again. -/
def chargedAcrossReconnect : List ServiceMove :=
  inSequence 16 [
    connected 1 (host 10 1), .penalizePeer 1 .protocolViolation, .disconnect 1,
    connected 1 (host 10 1), .penalizePeer 1 .spam, .penalizePeer 1 .spam]

/-- A peer is charged up to a ban, and once more when the ban has expired. -/
def chargedThroughout : List ServiceMove :=
  inSequence 16 [
    connected 1 (host 10 1), .penalizePeer 1 .protocolViolation,
    .penalizePeer 1 .protocolViolation, .setClock 5000, .penalizePeer 1 .spam]

end Example

theorem penalties_accumulate_throughout :
    PenaltiesAccumulate Example.launch 1 Example.chargedThroughout :=
  penalties_accumulate (by decide +kernel)

/-- A hundred points are charged with a reconnect between them, and there is no ban. -/
theorem penalties_accumulate_fails :
    ¬ forall (launch : Launch) (peerId : PeerId) (moves : List ServiceMove),
      PenaltiesAccumulate launch peerId moves := by
  intro always
  have law := always Example.launch 1 Example.chargedAcrossReconnect
  have banned := law.banned 102 (by decide +kernel) (by decide +kernel)
  revert banned
  decide +kernel

end Service
end DigGossip
