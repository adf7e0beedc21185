import DigGossip.Service.Duties
import DigGossip.Service.Footprints

namespace DigGossip
namespace Service

open Foundations DigGossip.Types
open Program (wp Quiet Only wp_quiet_bind wp_perform_bind)

/-!
# The generation guard

A keepalive and a frame forwarder outlive the slot they were started for.  What
they remove, and which reputation they charge, is checked against the generation
of that slot under the lock.  As every generation is drawn once and placed once,
a later connection of the same peer has another one.

The total and the ban that the service keeps for the identity are written once
the lock is released and the link is closed, and nothing is checked again.  They
fall on a later connection if the peer comes back in between.
-/

/-! ## Generations are placed once -/

/-- The generation an action uses up, whether or not its slot is admitted. -/
def spends : System.Deed Action Action.Reply -> Option Nat
  | ⟨.peers (.admitLive _ _ _ generation), _⟩ => some generation
  | ⟨.peers (.insertLive _ _ _ generation), _⟩ => some generation
  | _ => none

/-- The generation of a live slot that an action put into the map. -/
def places : System.Deed Action Action.Reply -> Option Nat
  | ⟨.peers (.admitLive _ _ _ generation), .ok _⟩ => some generation
  | ⟨.peers (.insertLive _ _ _ generation), _⟩ => some generation
  | _ => none

/-- The generations of the live slots ever put into the map, in order. -/
def placements (past : List (System.Deed Action Action.Reply)) : List Nat :=
  past.filterMap places

def spendings (past : List (System.Deed Action Action.Reply)) : List Nat :=
  past.filterMap spends

theorem spends_of_places {deed : System.Deed Action Action.Reply} {generation : Nat}
    (placed : places deed = some generation) : spends deed = some generation := by
  unfold places at placed
  split at placed
  · exact placed
  · exact placed
  · cases placed

theorem placements_sublist (past : List (System.Deed Action Action.Reply)) :
    (placements past).Sublist (spendings past) := by
  induction past with
  | nil => exact List.Sublist.refl _
  | cons deed rest inner =>
      cases placed : places deed with
      | none =>
          rw [placements, List.filterMap_cons_none placed]
          cases spent : spends deed with
          | none =>
              rw [spendings, List.filterMap_cons_none spent]
              exact inner
          | some generation =>
              rw [spendings, List.filterMap_cons_some spent]
              exact inner.cons generation
      | some generation =>
          rw [placements, List.filterMap_cons_some placed, spendings,
            List.filterMap_cons_some (spends_of_places placed)]
          exact inner.cons_cons generation

/-- A generation drawn so far is used up or still to be placed, once. -/
structure DrawnOnce (past : List (System.Deed Action Action.Reply)) (s : ServiceState)
    (owed : Multiset Duty) : Prop where
  once : forall generation,
    (spendings past).count generation + owed.count (.place generation) ≤ 1
  drawn : forall generation,
    0 < (spendings past).count generation + owed.count (.place generation) ->
      generation < s.peerGeneration

section Drawing

variable {past : List (System.Deed Action Action.Reply)} {order : PeerId -> Nat} {action : Action}
  {s : ServiceState} {others : Multiset Duty} {contract : Contract}

/-- An action uses up the generation whose placing it ends. -/
theorem count_spends (reply : action.Reply) (generation : Nat) :
    (spendings [⟨action, reply⟩]).count generation = action.ends.count (.place generation) := by
  have single : forall drawn, [drawn].count generation =
      ({.place drawn} : Multiset Duty).count (.place generation) := by
    intro drawn
    rw [List.count_singleton, Multiset.count_singleton]
    by_cases same : drawn = generation
    · simp [same]
    · have apart : Duty.place generation ≠ Duty.place drawn :=
        fun equal => same (Duty.place.inj equal).symm
      rw [if_neg apart, if_neg (by simpa using same)]
  cases action with
  | peers region =>
      cases region with
      | admitLive peerId remote link drawn => exact single drawn
      | insertLive peerId remote link drawn => exact single drawn
      | _ => rfl
  | unbanIp ip => exact (Multiset.count_eq_zero_of_notMem (by simp [Action.ends])).symm
  | removePenalty peerId => exact (Multiset.count_eq_zero_of_notMem (by simp [Action.ends])).symm
  | banIp ip => exact (Multiset.count_eq_zero_of_notMem (by simp [Action.ends])).symm
  | effect done => exact (Multiset.count_eq_zero_of_notMem (by simp [Action.ends])).symm
  | release key => exact (Multiset.count_eq_zero_of_notMem (by simp [Action.ends])).symm
  | _ => rfl

theorem peerGeneration_exec (other : action ≠ .nextPeerGeneration) :
    (exec order action s).1.peerGeneration = s.peerGeneration := by
  cases action with
  | nextPeerGeneration => exact absurd rfl other
  | tryAcquirePermit =>
      simp only [exec]
      split
      · rfl
      · rfl
  | _ => rfl

theorem DrawnOnce.exec (drawnOnce : DrawnOnce past s (others + contract.owed))
    (due : contract.DueOfAll action) :
    DrawnOnce (past ++ [⟨action, (exec order action s).2⟩]) (exec order action s).1
      (others + (contract.settle action (exec order action s).2).owed) := by
  have counted : forall generation,
      (spendings (past ++ [⟨action, (Service.exec order action s).2⟩])).count generation +
          (others + (contract.settle action (Service.exec order action s).2).owed).count
            (.place generation) =
        (spendings past).count generation + (others + contract.owed).count (.place generation) +
          (action.begins (Service.exec order action s).2).count (.place generation) := by
    intro generation
    have moved := @count_settled others contract action (Service.exec order action s).2
      (.place generation) due fun link same => by cases same
    have spent := count_spends (Service.exec order action s).2 generation
    rw [spendings, List.filterMap_append, List.count_append]
    simp only [spendings] at spent ⊢
    omega
  by_cases draws : action = .nextPeerGeneration
  · subst draws
    have fresh : (spendings past).count s.peerGeneration +
        (others + contract.owed).count (.place s.peerGeneration) = 0 := by
      by_contra taken
      exact Nat.lt_irrefl _ (drawnOnce.drawn s.peerGeneration (Nat.pos_of_ne_zero taken))
    have begun : forall generation, (Action.begins .nextPeerGeneration s.peerGeneration).count
        (.place generation) = if generation = s.peerGeneration then 1 else 0 := by
      intro generation
      simp [Action.begins, Multiset.count_singleton]
    constructor
    · intro generation
      have once := drawnOnce.once generation
      rw [counted generation]
      simp only [Service.exec, begun]
      split
      · rename_i same
        subst same
        omega
      · exact once
    · intro generation positive
      rw [counted generation] at positive
      simp only [Service.exec, begun] at positive ⊢
      split at positive
      · omega
      · exact Nat.lt_succ_of_lt (drawnOnce.drawn generation positive)
  · have none : forall generation,
        (action.begins (Service.exec order action s).2).count (.place generation) = 0 := by
      intro generation
      apply Multiset.count_eq_zero_of_notMem
      intro member
      have begun := Duty.begunBy_of_mem member
      cases action with
      | nextPeerGeneration => exact draws rfl
      | _ => cases begun
    constructor
    · intro generation
      rw [counted, none]
      exact drawnOnce.once generation
    · intro generation positive
      rw [counted, none] at positive
      rw [peerGeneration_exec draws]
      exact drawnOnce.drawn generation positive

end Drawing

/-- Along every run a generation is drawn once and used up at most once. -/
theorem drawnOnce_of_run (launch : Launch) (moves : List ServiceMove) :
    exists owed, DrawnOnce (launch.trace moves) (launch.after moves).shared owed := by
  have start : DrawnOnce [] launch.world.shared 0 := by
    constructor
    · intro generation
      exact Nat.zero_le 1
    · intro generation positive
      cases positive
  have balanced : DutiesBalanced (fun _ _ => True) DrawnOnce (launch.trace moves)
      (launch.after moves) := by
    refine duties_balanced (fun _ => trivial) (fun _ _ _ _ _ _ => trivial)
      (fun _ _ _ _ _ _ => trivial) ?_ start (launch.allows_everything moves)
    intro past order action s others contract _ _ due drawnOnce
    exact drawnOnce.exec due
  rcases balanced with ⟨total, _, drawnOnce⟩
  exact ⟨total, drawnOnce⟩

theorem nodup_spendings (launch : Launch) (moves : List ServiceMove) :
    (spendings (launch.trace moves)).Nodup := by
  rcases drawnOnce_of_run launch moves with ⟨owed, drawnOnce⟩
  rw [List.nodup_iff_count_le_one]
  intro generation
  have once := drawnOnce.once generation
  omega

/-! ## What falls on an identity -/

/-- The actions that charge the total of a peer or ban it. -/
def Action.charges (peerId : PeerId) : Action -> Bool
  | setPenalty charged _ | addPenalty charged _ | insertBan charged _ => charged == peerId
  | _ => false

/-- The peer's total and its ban are lifted at most. -/
structure Uncharged (peerId : PeerId) (s after : ServiceState) : Prop where
  total : forall points, after.penalties.lookup peerId = some points ->
    s.penalties.lookup peerId = some points
  ban : forall entry, after.banned.lookup peerId = some entry ->
    s.banned.lookup peerId = some entry

/-- What is written for another key is not read here. -/
theorem lookup_insert_other {V : Type} {table : FiniteMap PeerId V} {peerId written : PeerId}
    (other : (written == peerId) = false) {value seen : V}
    (found : (table.insert written value).lookup peerId = some seen) :
    table.lookup peerId = some seen := by
  rw [FiniteMap.lookup_insert_eq, if_neg fun same => by simp [same] at other] at found
  exact found

theorem Uncharged.refl (peerId : PeerId) (s : ServiceState) : Uncharged peerId s s :=
  ⟨fun _ found => found, fun _ found => found⟩

theorem uncharged_exec {action : Action} {peerId : PeerId}
    (apart : action.charges peerId = false) (order : PeerId -> Nat) (s : ServiceState) :
    Uncharged peerId s (exec order action s).1 := by
  cases action with
  | pruneBanned now =>
      refine ⟨fun _ found => found, fun entry found => ?_⟩
      simp only [exec, ServiceState.pruneBanned, FiniteMap.lookup_retain_eq] at found
      exact (Option.filter_eq_some_iff.mp found).1
  | insertBan charged entry =>
      exact ⟨fun _ found => found, fun _ found => lookup_insert_other apart found⟩
  | removePenalty lifted =>
      exact ⟨fun _ found => (FiniteMap.of_lookup_erase found).2, fun _ found => found⟩
  | setPenalty charged points =>
      exact ⟨fun _ found => lookup_insert_other apart found, fun _ found => found⟩
  | addPenalty charged points =>
      exact ⟨fun _ found => lookup_insert_other apart found, fun _ found => found⟩
  | tryAcquirePermit =>
      simp only [exec]
      split
      · exact ⟨fun _ found => found, fun _ found => found⟩
      · exact ⟨fun _ found => found, fun _ found => found⟩
  | _ => exact ⟨fun _ found => found, fun _ found => found⟩

/-! ## What a stale task may do -/

/-- The connection that a task acts for. -/
def Operation.actsFor : Operation -> Option (PeerId × Nat)
  | disconnectAfterKeepaliveFailure peerId generation => some (peerId, generation)
  | applyInboundRateLimitViolation peerId generation => some (peerId, generation)
  | _ => none

/-- What a task of one connection may do in one step: remove its slot, while it
is there, and charge its reputation and its peer. -/
structure ActsOnlyFor (peerId : PeerId) (generation : Nat) (s after : ServiceState) : Prop where
  removes : after.peers = s.peers ∨
    exists slot, s.peers.lookup peerId = some (.live slot) ∧ slot.generation = generation ∧
      after.peers = s.peers.erase peerId
  charges : forall other, other ≠ generation ->
    after.reputations.lookup other = s.reputations.lookup other
  spares : forall slot, s.peers.lookup peerId = some (.live slot) -> slot.generation ≠ generation ->
    after.peers.lookup peerId = some (.live slot) ∧
      after.reputations.lookup slot.generation = s.reputations.lookup slot.generation
  others : forall other, other ≠ peerId -> Uncharged other s after

/-- The regions that such a task may enter. -/
def PeersRegion.isGuarded (peerId : PeerId) (generation : Nat) : PeersRegion -> Bool
  | removeIfGeneration removed asked => removed == peerId && asked == generation
  | removeForBan banned asked => banned == peerId && asked == some generation
  | liveReputation _ _ => true
  | _ => false

/-- What such a task may do: it charges the generation it acts for, or one that
it was given with a slot it took, and no other peer. -/
def guardedDue (peerId : PeerId) (generation : Nat) (taken : List Nat) : Action -> Prop
  | .peers region => region.isGuarded peerId generation = true
  | .applyPenalty charged _ _ => charged = generation ∨ charged ∈ taken
  | .setPenalty charged _ | .insertBan charged _ => charged = peerId
  | .addPenalty _ _ => False
  | _ => True

def noteTaken (taken : List Nat) : (action : Action) -> action.Reply -> List Nat
  | .peers (.removeIfGeneration _ _), some slot => slot.generation :: taken
  | _, _ => taken

/-- The rest of a task that has taken only slots of the generation it acts for. -/
def Guarded {R : Type} (peerId : PeerId) (generation : Nat) (program : ServiceProgram R) : Prop :=
  exists taken : List Nat, (∀ drawn ∈ taken, drawn = generation) ∧
    wp (guardedDue peerId generation) noteTaken program taken fun _ _ => True

section Guarding

variable {peerId : PeerId} {generation : Nat}

/-- The actions that touch neither the peer map nor a reputation, and charge no
peer but this one. -/
def Action.isApart (peerId : PeerId) : Action -> Bool
  | peers _ | applyPenalty _ _ _ | addPenalty _ _ => false
  | setPenalty charged _ | insertBan charged _ => charged == peerId
  | _ => true

theorem quiet_guarded {R : Type} {program : ServiceProgram R}
    (only : Only (Action.isApart peerId) program) :
    Quiet (guardedDue peerId generation) noteTaken program := by
  refine only.quiet ?_ ?_
  · intro action isApart taken
    cases action with
    | peers region => cases isApart
    | applyPenalty charged reason now => cases isApart
    | addPenalty charged points => cases isApart
    | setPenalty charged points => exact beq_iff_eq.mp isApart
    | insertBan charged entry => exact beq_iff_eq.mp isApart
    | _ => trivial
  · intro action isApart taken reply
    cases action with
    | peers region => cases isApart
    | _ => rfl

theorem quiet_pruneExpired (now : Nat) :
    Quiet (guardedDue peerId generation) noteTaken (pruneExpiredDigBans now) :=
  quiet_guarded <| (only_pruneExpiredDigBans now).mono fun action upkeep => by
    cases action <;> first | rfl | cases upkeep

theorem quiet_banRecord (ip : IpAddr) (now : Nat) :
    Quiet (guardedDue peerId generation) noteTaken (executeDigTimedBan peerId ip now) := by
  have own : forall entry, (Action.insertBan peerId entry).isApart peerId = true :=
    fun _ => beq_self_eq_true peerId
  refine quiet_guarded (Only.bind (Only.perform (own _)) fun _ => ?_)
  split
  · exact Only.pure ()
  · exact Only.perform rfl

theorem quiet_teardown (removed : Option PeerSlot) :
    Quiet (guardedDue peerId generation) noteTaken (retireLive removed) :=
  quiet_guarded <| (only_retireLive removed).mono fun action torn => by
    cases action <;> first | rfl | cases torn

theorem quiet_apart {action : Action} (apart : action.isApart peerId = true) :
    Quiet (guardedDue peerId generation) noteTaken (perform action) :=
  quiet_guarded (Only.perform apart)

theorem disconnectAfterKeepaliveFailure_guarded (taken : List Nat) :
    wp (guardedDue peerId generation) noteTaken
      (disconnectAfterKeepaliveFailure peerId generation) taken fun _ _ => True := by
  refine wp_quiet_bind (quiet_apart rfl) fun now => ?_
  refine wp_perform_bind (by simp [guardedDue, PeersRegion.isGuarded]) fun removed => ?_
  cases removed with
  | none => trivial
  | some live =>
      refine wp_perform_bind (Or.inr List.mem_cons_self) fun charged => ?_
      refine wp_quiet_bind (quiet_apart rfl) fun _ => ?_
      refine wp_perform_bind rfl fun _ => ?_
      split
      · exact Program.wp_of_quiet (quiet_banRecord _ _) fun _ => trivial
      · trivial

theorem applyInboundRateLimitViolation_guarded (taken : List Nat) :
    wp (guardedDue peerId generation) noteTaken
      (applyInboundRateLimitViolation peerId generation) taken fun _ _ => True := by
  refine wp_quiet_bind (quiet_apart rfl) fun now => ?_
  refine wp_perform_bind rfl fun current => ?_
  split
  · trivial
  refine wp_perform_bind (Or.inl rfl) fun charged => ?_
  rcases charged with ⟨triggered, points⟩
  simp only
  split
  · trivial
  refine wp_quiet_bind (quiet_apart rfl) fun later => ?_
  refine wp_quiet_bind (quiet_pruneExpired later) fun _ => ?_
  refine wp_perform_bind (by simp [guardedDue, PeersRegion.isGuarded]) fun removed => ?_
  cases removed with
  | none => trivial
  | some removed =>
      refine wp_quiet_bind (quiet_teardown removed) fun _ => ?_
      exact Program.wp_of_quiet (quiet_banRecord _ _) fun _ => trivial

/-- A task is guarded from the start. -/
theorem guarded_of_actsFor (config : GossipConfig) {op : Operation}
    (issued : op.actsFor = some (peerId, generation)) :
    Guarded peerId generation (op.program config) := by
  have none : ∀ drawn ∈ ([] : List Nat), drawn = generation := fun drawn member => by cases member
  refine ⟨[], none, ?_⟩
  cases op with
  | disconnectAfterKeepaliveFailure failed asked =>
      cases issued
      exact (Program.wp_map ..).mpr (disconnectAfterKeepaliveFailure_guarded [])
  | applyInboundRateLimitViolation tripped asked =>
      cases issued
      exact (Program.wp_map ..).mpr (applyInboundRateLimitViolation_guarded [])
  | _ => cases issued

variable {order : PeerId -> Nat} {s : ServiceState} {action : Action} {R : Type}
  {next : action.Reply -> ServiceProgram R}

/-- What was taken with a slot is the generation asked for. -/
theorem Guarded.step (guarded : Guarded peerId generation (.act action next)) :
    Guarded peerId generation (next (exec order action s).2) := by
  rcases guarded with ⟨taken, same, due, rest⟩
  refine ⟨noteTaken taken action (exec order action s).2, ?_, rest _⟩
  cases action with
  | peers region =>
      cases region with
      | removeIfGeneration removed asked =>
          have right : asked = generation := by
            have both := due
            simp only [guardedDue, PeersRegion.isGuarded, Bool.and_eq_true, beq_iff_eq] at both
            exact both.2
          simp only [exec, ServiceState.within, ServiceState.removeIfGeneration]
          split
          · split
            · rename_i slot _ held
              intro drawn member
              rcases List.mem_cons.mp member with rfl | old
              · exact held.trans right
              · exact same drawn old
            · exact same
          · exact same
          · exact same
          · exact same
      | _ => exact same
  | _ => exact same

theorem removeForBan_guarded {s : ServiceState} :
    ((s.removeForBan peerId (some generation)).1.peers = s.peers ∨
      exists slot, s.peers.lookup peerId = some (.live slot) ∧ slot.generation = generation ∧
        (s.removeForBan peerId (some generation)).1.peers = s.peers.erase peerId) ∧
      (s.removeForBan peerId (some generation)).1.reputations = s.reputations := by
  unfold ServiceState.removeForBan
  split
  · rename_i held
    refine ⟨Or.inr ?_, rfl⟩
    rw [Option.all_some, ServiceState.holdsGeneration] at held
    split at held
    · rename_i slot found
      exact ⟨slot, found, beq_iff_eq.mp held, rfl⟩
    · cases held
    · cases held
    · cases held
  · exact ⟨Or.inl rfl, rfl⟩

theorem removeIfGeneration_guarded {s : ServiceState} :
    ((s.removeIfGeneration peerId generation).1.peers = s.peers ∨
      exists slot, s.peers.lookup peerId = some (.live slot) ∧ slot.generation = generation ∧
        (s.removeIfGeneration peerId generation).1.peers = s.peers.erase peerId) ∧
      (s.removeIfGeneration peerId generation).1.reputations = s.reputations := by
  unfold ServiceState.removeIfGeneration
  split
  · rename_i slot found
    split
    · rename_i held
      exact ⟨Or.inr ⟨slot, found, held, rfl⟩, rfl⟩
    · exact ⟨Or.inl rfl, rfl⟩
  · exact ⟨Or.inl rfl, rfl⟩
  · exact ⟨Or.inl rfl, rfl⟩
  · exact ⟨Or.inl rfl, rfl⟩

/-- A slot of another generation is spared by what removes at most the slot of
this generation and charges at most its reputation. -/
theorem actsOnlyFor_of {s after : ServiceState}
    (removes : after.peers = s.peers ∨
      exists slot, s.peers.lookup peerId = some (.live slot) ∧ slot.generation = generation ∧
        after.peers = s.peers.erase peerId)
    (charges : forall other, other ≠ generation ->
      after.reputations.lookup other = s.reputations.lookup other)
    (others : forall other, other ≠ peerId -> Uncharged other s after) :
    ActsOnlyFor peerId generation s after := by
  refine ⟨removes, charges, fun slot found newer => ⟨?_, charges slot.generation newer⟩, others⟩
  rcases removes with same | ⟨old, held, drawn, _⟩
  · rw [same]
    exact found
  · rw [found] at held
    cases held
    exact absurd drawn newer

theorem charges_of_guardedDue {taken : List Nat} (due : guardedDue peerId generation taken action)
    {other : PeerId} (different : other ≠ peerId) : action.charges other = false := by
  cases action with
  | setPenalty charged points => exact beq_eq_false_iff_ne.mpr (due ▸ different.symm)
  | insertBan charged entry => exact beq_eq_false_iff_ne.mpr (due ▸ different.symm)
  | addPenalty charged points => cases due
  | _ => rfl

theorem Guarded.actsOnlyFor (guarded : Guarded peerId generation (.act action next)) :
    ActsOnlyFor peerId generation s (exec order action s).1 := by
  rcases guarded with ⟨taken, same, due, _⟩
  have others : forall other, other ≠ peerId -> Uncharged other s (exec order action s).1 :=
    fun other different => uncharged_exec (charges_of_guardedDue due different) order s
  cases action with
  | peers region =>
      cases region with
      | removeIfGeneration removed asked =>
          have both := due
          simp only [guardedDue, PeersRegion.isGuarded, Bool.and_eq_true, beq_iff_eq] at both
          rcases both with ⟨rfl, rfl⟩
          have taken := @removeIfGeneration_guarded removed asked s
          exact actsOnlyFor_of taken.1 (fun other _ => by rw [<- taken.2]; rfl) others
      | removeForBan banned asked =>
          have both := due
          simp only [guardedDue, PeersRegion.isGuarded, Bool.and_eq_true, beq_iff_eq] at both
          rcases both with ⟨rfl, rfl⟩
          have taken := @removeForBan_guarded banned generation s
          exact actsOnlyFor_of taken.1 (fun other _ => by rw [<- taken.2]; rfl) others
      | liveReputation checked asked => exact actsOnlyFor_of (Or.inl rfl) (fun _ _ => rfl) others
      | _ => cases due
  | applyPenalty charged reason now =>
      have right : charged = generation := due.elim id fun member => same charged member
      refine actsOnlyFor_of (Or.inl rfl) (fun other different => ?_) others
      have written : (exec order (.applyPenalty charged reason now) s).1.reputations =
          s.reputations.insert charged ((s.reputation charged).applyPenalty reason now).1 := rfl
      rw [written, FiniteMap.lookup_insert_eq, if_neg (right ▸ different)]
  | tryAcquirePermit =>
      refine actsOnlyFor_of (Or.inl ?_) (fun other _ => ?_) others
      · simp only [exec]
        split <;> rfl
      · simp only [exec]
        split <;> rfl
  | _ => exact actsOnlyFor_of (Or.inl rfl) (fun _ _ => rfl) others

end Guarding

/-! ## A peer that comes back -/

/-- What a task may do to the identity: charge it once it took the slot. -/
def chargeDue (peerId : PeerId) (taken : Bool) (action : Action) : Prop :=
  action.charges peerId = true -> taken = true

/-- Whether the task has taken a slot. -/
def noteSlot (taken : Bool) : (action : Action) -> action.Reply -> Bool
  | .peers (.removeIfGeneration _ _), some _ => true
  | .peers (.removeForBan _ _), some _ => true
  | _, _ => taken

/-- The rest of a task charges the peer only after it has taken a slot. -/
def TakesFirst {R : Type} (peerId : PeerId) (program : ServiceProgram R) : Prop :=
  wp (chargeDue peerId) noteSlot program false fun _ _ => True

section Taking

variable {peerId : PeerId} {generation : Nat}

/-- A task that has taken its slot is free to charge the peer. -/
theorem wp_taken {R : Type} (program : ServiceProgram R) :
    wp (chargeDue peerId) noteSlot program true fun _ _ => True := by
  induction program with
  | done result => trivial
  | act action next inner =>
      refine ⟨fun _ => rfl, fun reply => ?_⟩
      have still : noteSlot true action reply = true := by
        unfold noteSlot
        split <;> rfl
      rw [still]
      exact inner reply

/-- The actions that neither charge the peer nor take a slot. -/
def Action.isBefore (peerId : PeerId) : Action -> Bool
  | peers (.removeIfGeneration _ _) | peers (.removeForBan _ _) => false
  | action => !action.charges peerId

theorem quiet_before {R : Type} {program : ServiceProgram R}
    (only : Only (Action.isBefore peerId) program) :
    Quiet (chargeDue peerId) noteSlot program := by
  refine only.quiet ?_ ?_
  · intro action isBefore taken charged
    cases action with
    | peers region => cases charged
    | setPenalty other points => simp_all [Action.isBefore]
    | addPenalty other points => simp_all [Action.isBefore]
    | insertBan other entry => simp_all [Action.isBefore]
    | _ => cases charged
  · intro action isBefore taken reply
    cases action with
    | peers region =>
        cases region with
        | removeIfGeneration removed asked => cases isBefore
        | removeForBan banned asked => cases isBefore
        | _ => rfl
    | _ => rfl

theorem disconnectAfterKeepaliveFailure_takesFirst :
    TakesFirst peerId (disconnectAfterKeepaliveFailure peerId generation) := by
  refine wp_quiet_bind (quiet_before (Only.perform rfl)) fun now => ?_
  refine wp_perform_bind (fun charged => by cases charged) fun removed => ?_
  cases removed with
  | none => trivial
  | some live => exact wp_taken _

theorem applyInboundRateLimitViolation_takesFirst :
    TakesFirst peerId (applyInboundRateLimitViolation peerId generation) := by
  refine wp_quiet_bind (quiet_before (Only.perform rfl)) fun now => ?_
  refine wp_quiet_bind (quiet_before (Only.perform rfl)) fun current => ?_
  split
  · trivial
  refine wp_quiet_bind (quiet_before (Only.perform rfl)) fun charged => ?_
  rcases charged with ⟨triggered, points⟩
  simp only
  split
  · trivial
  refine wp_quiet_bind (quiet_before (Only.perform rfl)) fun later => ?_
  have lifts : Only (Action.isBefore peerId) (pruneExpiredDigBans later) :=
    (only_pruneExpiredDigBans later).mono fun action lift => by
      cases action <;> first | rfl | cases lift
  refine wp_quiet_bind (quiet_before lifts) fun _ => ?_
  refine wp_perform_bind (fun charged => by cases charged) fun removed => ?_
  cases removed with
  | none => trivial
  | some removed => exact wp_taken _

theorem takesFirst_of_actsFor (config : GossipConfig) {op : Operation}
    (issued : op.actsFor = some (peerId, generation)) :
    TakesFirst peerId (op.program config) := by
  cases op with
  | disconnectAfterKeepaliveFailure failed asked =>
      cases issued
      exact (Program.wp_map ..).mpr disconnectAfterKeepaliveFailure_takesFirst
  | applyInboundRateLimitViolation tripped asked =>
      cases issued
      exact (Program.wp_map ..).mpr applyInboundRateLimitViolation_takesFirst
  | _ => cases issued

end Taking

/-- The move puts a slot under a peer that has none. -/
def Reconnects (peerId : PeerId) (s after : ServiceState) : Prop :=
  s.peers.lookup peerId = none ∧ after.peers.lookup peerId ≠ none

/-- No task for a connection of the peer is between taking its slot and charging
the peer. -/
def Launch.NoneUnderway (launch : Launch) (moves : List ServiceMove) (peerId : PeerId) : Prop :=
  forall (thread : Nat) (op : Operation) generation program,
    (System.spawned moves)[thread]? = some op -> op.actsFor = some (peerId, generation) ->
      (launch.after moves).threads[thread]? = some program -> TakesFirst peerId program

/-- A peer comes back only while none of its tasks is underway. -/
def Launch.ReconnectsClear (launch : Launch) (moves : List ServiceMove) : Prop :=
  forall before move rest peerId, moves = before ++ move :: rest ->
    Reconnects peerId (launch.after before).shared (launch.after (before ++ [move])).shared ->
    launch.NoneUnderway before peerId

/-- A peer that holds a slot is neither charged nor banned. -/
def SparesHolder (peerId : PeerId) (s after : ServiceState) : Prop :=
  s.peers.lookup peerId ≠ none -> Uncharged peerId s after

section Returning

variable {launch : Launch} {moves : List ServiceMove} {peerId : PeerId} {generation : Nat}

theorem Launch.ReconnectsClear.before {move : ServiceMove}
    (clear : launch.ReconnectsClear (moves ++ [move])) : launch.ReconnectsClear moves := by
  intro before first rest peerId split
  apply clear before first (rest ++ [move]) peerId
  rw [split, List.append_assoc, List.cons_append]

variable (launch) in
theorem Launch.shared_advance (order : PeerId -> Nat) {thread : Nat} {action : Action}
    {next : action.Reply -> ServiceProgram Outcome}
    (active : (launch.after moves).threads[thread]? = some (.act action next)) :
    (launch.after (moves ++ [.advance thread order])).shared =
      (exec order action (launch.after moves).shared).1 := by
  rw [launch.after_concat]
  simp only [System.step, active]
  rfl

/-- The task of a thread is guarded in every world. -/
theorem guarded_of_running {thread : Nat} {op : Operation} {program : ServiceProgram Outcome}
    (started : (System.spawned moves)[thread]? = some op)
    (issued : op.actsFor = some (peerId, generation))
    (running : (launch.after moves).threads[thread]? = some program) :
    Guarded peerId generation program := by
  let Promise := fun (op : Operation) (program : ServiceProgram Outcome) =>
    forall peerId generation, op.actsFor = some (peerId, generation) ->
      Guarded peerId generation program
  have promise : Promise op program := launch.promise
    (fun op peerId generation issued => guarded_of_actsFor launch.config issued)
    (fun op order s action next promise peerId generation issued =>
      (promise peerId generation issued).step) started running
  exact promise peerId generation issued

/-- What such a task takes is the slot of its peer. -/
theorem Guarded.vacates {action : Action} {next : action.Reply -> ServiceProgram Outcome}
    (guarded : Guarded peerId generation (.act action next)) {order : PeerId -> Nat}
    {s : ServiceState} (took : noteSlot false action (exec order action s).2 = true) :
    (exec order action s).1.peers.lookup peerId = none := by
  rcases guarded with ⟨taken, _, due, _⟩
  cases action with
  | peers region =>
      cases region with
      | removeIfGeneration removed asked =>
          simp only [guardedDue, PeersRegion.isGuarded, Bool.and_eq_true, beq_iff_eq] at due
          rcases due with ⟨rfl, rfl⟩
          simp only [exec, ServiceState.within, ServiceState.removeIfGeneration] at took ⊢
          split at took
          · split at took
            · simp [*, ServiceState.unlock]
            · cases took
          · cases took
          · cases took
          · cases took
      | removeForBan banned asked =>
          simp only [guardedDue, PeersRegion.isGuarded, Bool.and_eq_true, beq_iff_eq] at due
          rcases due with ⟨rfl, rfl⟩
          simp only [exec, ServiceState.within, ServiceState.removeForBan] at took ⊢
          split at took
          · simp [*, ServiceState.unlock]
          · cases took
      | _ => cases took
  | _ => cases took

/-- A peer that holds a slot has no task underway. -/
theorem noneUnderway_of_holder (clear : launch.ReconnectsClear moves)
    (held : (launch.after moves).shared.peers.lookup peerId ≠ none) :
    launch.NoneUnderway moves peerId := by
  induction moves using List.reverseRecOn with
  | nil =>
      intro thread op generation program started
      cases started
  | append_singleton moves move inner =>
      have earlier : launch.NoneUnderway moves peerId := by
        by_cases absent : (launch.after moves).shared.peers.lookup peerId = none
        · exact clear moves move [] peerId rfl ⟨absent, held⟩
        · exact inner clear.before absent
      intro thread op generation program started issued running
      rcases System.thread_concat started running with rfl | ⟨before, same | moved⟩
      · exact takesFirst_of_actsFor launch.config issued
      · exact earlier thread op generation program before issued same
      · rcases moved with ⟨order, action, next, rfl, active, rfl⟩
        have takesFirst := earlier thread op generation _ before issued active
        have guarded := guarded_of_running before issued active
        have shared := launch.shared_advance order active
        have untaken : noteSlot false action (exec order action (launch.after moves).shared).2 =
            false := by
          by_contra took
          apply held
          rw [shared]
          exact guarded.vacates (Bool.eq_true_of_not_eq_false took)
        have rest := takesFirst.2 (exec order action (launch.after moves).shared).2
        rw [untaken] at rest
        exact rest

end Returning

/-- In every run each step of a task started for one connection of a peer
removes at most the live slot of that connection and charges at most its
reputation and its peer, and no two connections share a generation.  Where a
peer comes back only while none of its tasks is underway, such a step charges
the peer, or bans it, only while it holds no slot. -/
theorem generation_guard (launch : Launch) (moves : List ServiceMove) {thread : Nat}
    {op : Operation} {peerId : PeerId} {generation : Nat}
    (started : (System.spawned moves)[thread]? = some op)
    (issued : op.actsFor = some (peerId, generation)) (order : PeerId -> Nat) :
    ActsOnlyFor peerId generation (launch.after moves).shared
        (launch.after (moves ++ [.advance thread order])).shared ∧
      (placements (launch.trace (moves ++ [.advance thread order]))).Nodup ∧
      (launch.ReconnectsClear moves ->
        SparesHolder peerId (launch.after moves).shared
          (launch.after (moves ++ [.advance thread order])).shared) := by
  have idle : ActsOnlyFor peerId generation (launch.after moves).shared
      (launch.after moves).shared :=
    actsOnlyFor_of (Or.inl rfl) (fun _ _ => rfl) fun other _ => Uncharged.refl other _
  have spared : SparesHolder peerId (launch.after moves).shared (launch.after moves).shared :=
    fun _ => Uncharged.refl peerId _
  refine and_left_comm.mp ⟨(nodup_spendings launch _).sublist (placements_sublist _), ?_⟩
  rw [launch.after_concat]
  simp only [System.step]
  cases running : (launch.after moves).threads[thread]? with
  | none => exact ⟨idle, fun _ => spared⟩
  | some program =>
      have guarded := guarded_of_running started issued running
      cases program with
      | done result => exact ⟨idle, fun _ => spared⟩
      | act action next =>
          refine ⟨guarded.actsOnlyFor, fun clear held => ?_⟩
          have takesFirst := noneUnderway_of_holder clear held thread op generation _ started
            issued running
          have apart : action.charges peerId = false := by
            by_contra charged
            cases takesFirst.1 (Bool.eq_true_of_not_eq_false charged)
          exact uncharged_exec apart order _

/-- Every task for a connection is done. -/
def Launch.tasksDone (launch : Launch) (moves : List ServiceMove) : Bool :=
  ((System.spawned moves).zip (launch.after moves).threads).all fun (op, program) =>
    op.actsFor.isNone || program.isDone

theorem noneUnderway_of_tasksDone {launch : Launch} {moves : List ServiceMove}
    (done : launch.tasksDone moves = true) (peerId : PeerId) :
    launch.NoneUnderway moves peerId := by
  intro thread op generation program started issued running
  have both : (op, program) ∈ (System.spawned moves).zip (launch.after moves).threads := by
    refine List.mem_of_getElem? (@List.getElem?_zip_eq_some _ _ _ _ _ thread |>.mpr ?_)
    exact ⟨started, running⟩
  have finished := List.all_eq_true.mp done _ both
  simp only [issued, Option.isNone_some, Bool.false_or] at finished
  cases program with
  | done result => trivial
  | act action next => cases finished

/-- Slots are put into the map only while every task for a connection is done. -/
theorem reconnectsClear_of_steps {launch : Launch} {moves : List ServiceMove}
    (steps : ∀ count < moves.length, launch.tasksDone (moves.take count) = true ∨
      (launch.after (moves.take (count + 1))).shared.peers.keys ⊆
        (launch.after (moves.take count)).shared.peers.keys) :
    launch.ReconnectsClear moves := by
  intro before move rest peerId split reconnects
  have shorter : before.length < moves.length := by
    rw [split, List.length_append, List.length_cons]
    omega
  have here : moves.take before.length = before := by
    rw [split, List.take_left]
  have next : moves.take (before.length + 1) = before ++ [move] := by
    rw [split, List.take_length_add_append]
    rfl
  rcases steps before.length shorter with done | kept
  · rw [here] at done
    exact noneUnderway_of_tasksDone done peerId
  · rw [here, next] at kept
    have absent := FiniteMap.not_mem_keys_iff.mpr reconnects.1
    exact absurd (FiniteMap.not_mem_keys_iff.mp fun held => absent (kept held)) reconnects.2

namespace Example

/-- A teardown takes its slot, and its peer comes back before it is done. -/
def lateTotal : List ServiceMove :=
  inSequence 14 [connected 1 (host 10 1)] ++
    .spawn (.disconnectAfterKeepaliveFailure 1 0) :: List.replicate 4 (.advance 1 fun _ => 0) ++
    .spawn (.adoptNatConnection (direct 1)) :: List.replicate 14 (.advance 2 fun _ => 0)

/-- The peer comes back after the teardown, and a second one is late. -/
def staleTeardown : List ServiceMove :=
  inSequence 14 [connected 1 (host 10 1), .disconnectAfterKeepaliveFailure 1 0,
      connected 1 (host 10 1)] ++
    [.spawn (.disconnectAfterKeepaliveFailure 1 0), .advance 3 fun _ => 0]

end Example

theorem generation_guard_stale :
    ActsOnlyFor 1 0 (Example.launch.after Example.staleTeardown).shared
        (Example.launch.after (Example.staleTeardown ++ [.advance 3 fun _ => 0])).shared ∧
      (placements (Example.launch.trace
        (Example.staleTeardown ++ [.advance 3 fun _ => 0]))).Nodup ∧
      SparesHolder 1 (Example.launch.after Example.staleTeardown).shared
        (Example.launch.after (Example.staleTeardown ++ [.advance 3 fun _ => 0])).shared := by
  have started : (System.spawned Example.staleTeardown)[3]? =
      some (.disconnectAfterKeepaliveFailure 1 0) := rfl
  have steps : ∀ count < Example.staleTeardown.length,
      Example.launch.tasksDone (Example.staleTeardown.take count) = true ∨
        (Example.launch.after (Example.staleTeardown.take (count + 1))).shared.peers.keys ⊆
          (Example.launch.after (Example.staleTeardown.take count)).shared.peers.keys := by
    decide +kernel
  have clear := reconnectsClear_of_steps steps
  have guard := generation_guard Example.launch Example.staleTeardown started rfl fun _ => 0
  exact ⟨guard.1, guard.2.1, guard.2.2 clear⟩

/-- The total of a teardown falls on the connection that its peer holds by then. -/
theorem generation_guard_fails :
    ¬ forall (launch : Launch) (moves : List ServiceMove) (thread : Nat) (op : Operation)
      (peerId : PeerId) (generation : Nat) (order : PeerId -> Nat),
      (System.spawned moves)[thread]? = some op -> op.actsFor = some (peerId, generation) ->
      (launch.after moves).shared.peers.lookup peerId ≠ none ->
      (launch.after moves).shared.holdsGeneration peerId generation = false ->
      Uncharged peerId (launch.after moves).shared
        (launch.after (moves ++ [.advance thread order])).shared := by
  intro always
  have spared := always Example.launch Example.lateTotal 1 _ 1 0 (fun _ => 0) rfl rfl
    (by decide +kernel) (by decide +kernel)
  have charged : (Example.launch.after
      (Example.lateTotal ++ [.advance 1 fun _ => 0])).shared.penalties.lookup 1 = some 10 := by
    decide +kernel
  have before : (Example.launch.after Example.lateTotal).shared.penalties.lookup 1 = none := by
    decide +kernel
  rw [spared.total 10 charged] at before
  cases before

end Service
end DigGossip
