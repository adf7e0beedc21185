import DigGossip.Foundations.Interleaving
import DigGossip.Types.PeerRecord

namespace DigGossip
namespace Discovery

open Foundations DigGossip.Types

/-!
# The budget of received peers

Every list of peers that arrives from outside is cut to what one request may
bring and to what is left of a budget that all sources share.  The budget is a
counter that a call reads and adds to in two separate steps, so calls may
overlap between them.
-/

def maxPeersReceivedPerRequest : Nat := 1000
def maxTotalPeersReceived : Nat := 3000

/-! ## The counter -/

inductive CounterAction where
  | load
  | fetchAdd (amount : Nat)

/-- Both steps answer with the value they find. -/
@[reducible] def CounterAction.Reply : CounterAction -> Type
  | load => Nat
  | fetchAdd _ => Nat

/-- The steps on a counter of sixty-four bits; an addition wraps. -/
def CounterAction.exec : (action : CounterAction) -> Nat -> Nat × action.Reply
  | load, total => (total, total)
  | fetchAdd amount, total => ((total + amount) % (u64Max + 1), total)

abbrev CounterProgram (R : Type) := Program CounterAction CounterAction.Reply R

/-- The part of a list that one request may bring. -/
def cutToRequest (peers : List TimestampedPeerInfo) : List TimestampedPeerInfo :=
  if maxPeersReceivedPerRequest < peers.length then peers.take maxPeersReceivedPerRequest
  else peers

theorem length_cutToRequest (peers : List TimestampedPeerInfo) :
    (cutToRequest peers).length = min peers.length maxPeersReceivedPerRequest := by
  unfold cutToRequest
  split
  · rw [List.length_take]
    exact Nat.min_comm _ _
  · rename_i fits
    exact (Nat.min_eq_left (Nat.le_of_not_lt fits)).symm

def capReceivedPeers (peers : List TimestampedPeerInfo) :
    CounterProgram (List TimestampedPeerInfo) := do
  let capped := cutToRequest peers
  let currentTotal <- Program.perform .load
  if maxTotalPeersReceived ≤ currentTotal then return []
  let remaining := maxTotalPeersReceived - currentTotal
  let accepted := min capped.length remaining
  let _ <- Program.perform (.fetchAdd accepted)
  return capped.take accepted

/-- The rows of the records that can be dialed. -/
def dialableRows (records : List PeerRecord) : List TimestampedPeerInfo :=
  records.filterMap PeerRecord.toTimestampedPeerInfo

/-- The part of `merge_records_into_address_manager_capped` that spends the
budget: the rows it hands to the address book. -/
def capRecords (records : List PeerRecord) : CounterProgram (List TimestampedPeerInfo) :=
  let dialable := dialableRows records
  if dialable.isEmpty then pure [] else capReceivedPeers dialable

/-! ## One call alone -/

/-- What the caps grant a batch of so many rows. -/
def granted (total rows : Nat) : Nat :=
  min (min rows maxPeersReceivedPerRequest) (maxTotalPeersReceived - total)

/-- A call that nothing comes between counts exactly what it grants. -/
theorem alone_capReceivedPeers (listed : List TimestampedPeerInfo) {total : Nat}
    (within : total ≤ maxTotalPeersReceived) :
    (Program.alone CounterAction.exec (capReceivedPeers listed) total).1 =
      total + granted total listed.length := by
  unfold granted
  by_cases spent : maxTotalPeersReceived ≤ total
  · have ends : Program.alone CounterAction.exec (capReceivedPeers listed) total = (total, []) := by
      show Program.alone CounterAction.exec (if maxTotalPeersReceived ≤ total then _ else _) total = _
      rw [if_pos spent]
      rfl
    rw [ends]
    omega
  · have adds : (Program.alone CounterAction.exec (capReceivedPeers listed) total).1 =
        (total + min (cutToRequest listed).length (maxTotalPeersReceived - total)) %
          (u64Max + 1) := by
      show (Program.alone CounterAction.exec (if maxTotalPeersReceived ≤ total then _ else _)
        total).1 = _
      rw [if_neg spent]
      rfl
    rw [adds, length_cutToRequest]
    apply Nat.mod_eq_of_lt
    simp only [maxTotalPeersReceived, u64Max] at within ⊢
    omega

theorem alone_capRecords (records : List PeerRecord) {total : Nat}
    (within : total ≤ maxTotalPeersReceived) :
    (Program.alone CounterAction.exec (capRecords records) total).1 =
      total + granted total (dialableRows records).length := by
  unfold capRecords
  simp only
  split
  · rename_i none
    rw [List.isEmpty_iff.mp none, List.length_nil, granted, Nat.zero_min, Nat.zero_min]
    rfl
  · exact alone_capReceivedPeers _ within

/-! ## Concurrent batches -/

/-- A batch of received peers: from an exchange with a peer or the introducer,
or from the relay. -/
inductive ReceivedBatch where
  | peers (peers : List TimestampedPeerInfo)
  | records (records : List PeerRecord)

def ReceivedBatch.program : ReceivedBatch -> CounterProgram (List TimestampedPeerInfo)
  | peers listed => capReceivedPeers listed
  | records known => capRecords known

abbrev BudgetWorld := World Nat CounterAction CounterAction.Reply (List TimestampedPeerInfo)

abbrev BudgetMove := Move ReceivedBatch Unit

/-- The calls that spend one shared budget, interleaved step by step. -/
def budget : System Nat CounterAction CounterAction.Reply (List TimestampedPeerInfo)
    ReceivedBatch Unit where
  exec _ := CounterAction.exec
  program := ReceivedBatch.program

/-- The world after these moves, from an untouched budget. -/
def spentBy (moves : List BudgetMove) : BudgetWorld :=
  budget.run moves (World.idle 0)

/-- The number of peers a call has accepted. -/
def acceptedBy : CounterProgram (List TimestampedPeerInfo) -> Nat
  | .done taken => taken.length
  | .act _ _ => 0

/-- The number of peers a call has settled on and not yet counted. -/
def pledgedBy : CounterProgram (List TimestampedPeerInfo) -> Nat
  | .act (.fetchAdd amount) _ => amount
  | .act .load _ => 0
  | .done _ => 0

/-- The accepted peers are within the budget, and those of each call within
what one request may bring. -/
def WithinBudget (w : BudgetWorld) : Prop :=
  w.total acceptedBy ≤ maxTotalPeersReceived ∧
    ∀ call ∈ w.threads, acceptedBy call ≤ maxPeersReceivedPerRequest

/-! ## The stages of a call -/

/-- A call is about to read the counter, about to add what it settled on, or done. -/
inductive Stage : CounterProgram (List TimestampedPeerInfo) -> Prop
  | loading (listed : List TimestampedPeerInfo) : Stage (capReceivedPeers listed)
  | adding (taken : List TimestampedPeerInfo) (amount : Nat) (exact : taken.length = amount)
      (short : amount ≤ maxPeersReceivedPerRequest) :
      Stage (.act (.fetchAdd amount) fun _ => .done taken)
  | done (taken : List TimestampedPeerInfo)
      (short : taken.length ≤ maxPeersReceivedPerRequest) : Stage (.done taken)

theorem stage_program (batch : ReceivedBatch) : Stage batch.program := by
  cases batch with
  | peers listed => exact .loading listed
  | records known =>
      unfold ReceivedBatch.program capRecords
      simp only
      split
      · exact .done [] (Nat.zero_le _)
      · exact .loading _

/-- What a call does with the value it reads: it settles on as much of its
batch as the budget still holds. -/
theorem capReceivedPeers_load (listed : List TimestampedPeerInfo) :
    exists next, capReceivedPeers listed = .act .load next ∧ forall total : Nat, Stage (next total) ∧
      acceptedBy (next total) = 0 ∧
      pledgedBy (next total) =
        min (cutToRequest listed).length (maxTotalPeersReceived - total) := by
  let next (total : Nat) : CounterProgram (List TimestampedPeerInfo) :=
    if maxTotalPeersReceived ≤ total then .done []
    else
      let accepted := min (cutToRequest listed).length (maxTotalPeersReceived - total)
      .act (.fetchAdd accepted) fun _ => .done ((cutToRequest listed).take accepted)
  refine ⟨next, rfl, fun total => ?_⟩
  by_cases spent : maxTotalPeersReceived ≤ total
  · have none : maxTotalPeersReceived - total = 0 := Nat.sub_eq_zero_of_le spent
    have ends : next total = .done [] := if_pos spent
    rw [ends, none]
    exact ⟨.done [] (Nat.zero_le _), rfl, (Nat.min_zero _).symm⟩
  · have adds : next total =
        .act (.fetchAdd (min (cutToRequest listed).length (maxTotalPeersReceived - total)))
          fun _ => .done ((cutToRequest listed).take
            (min (cutToRequest listed).length (maxTotalPeersReceived - total))) := if_neg spent
    rw [adds]
    refine ⟨.adding _ _ ?_ ?_, rfl, rfl⟩
    · rw [List.length_take]
      exact Nat.min_eq_left (Nat.min_le_left _ _)
    · apply (Nat.min_le_left _ _).trans
      rw [length_cutToRequest]
      exact Nat.min_le_right _ _

/-- The length of the batch a call is about to ask for: what an untouched
budget would grant it. -/
def batchLength : CounterProgram (List TimestampedPeerInfo) -> Nat
  | .act .load next => pledgedBy (next 0)
  | .act (.fetchAdd _) _ => 0
  | .done _ => 0

theorem batchLength_capReceivedPeers (listed : List TimestampedPeerInfo) :
    batchLength (capReceivedPeers listed) = (cutToRequest listed).length := by
  rcases capReceivedPeers_load listed with ⟨next, begins, facts⟩
  rw [begins]
  show pledgedBy (next 0) = _
  rw [(facts 0).2.2]
  apply Nat.min_eq_left
  rw [length_cutToRequest]
  exact (Nat.min_le_right _ _).trans (by decide)

/-! ## Steps -/

/-- Every call is at one of its stages. -/
def Staged (w : BudgetWorld) : Prop :=
  ∀ call ∈ w.threads, Stage call

theorem Staged.at {w : BudgetWorld} (staged : Staged w) {thread : Nat}
    {call : CounterProgram (List TimestampedPeerInfo)} (found : w.threads[thread]? = some call) :
    Stage call :=
  staged call (List.mem_of_getElem? found)

/-- What an advance can do: nothing, a read that settles what the call takes,
or the addition of what a call had settled on. -/
theorem advance_cases {w : BudgetWorld} (staged : Staged w) (thread : Nat) :
    ((forall action next, w.threads[thread]? ≠ some (.act action next)) ∧
      budget.step w (.advance thread ()) = w) ∨
    (exists next, w.threads[thread]? = some (.act .load next) ∧
      (budget.step w (.advance thread ())).shared = w.shared ∧
      (budget.step w (.advance thread ())).total acceptedBy = w.total acceptedBy ∧
      (budget.step w (.advance thread ())).total pledgedBy = w.total pledgedBy +
        min (batchLength (.act .load next)) (maxTotalPeersReceived - w.shared)) ∨
    (exists amount next, w.threads[thread]? = some (.act (.fetchAdd amount) next) ∧
      (budget.step w (.advance thread ())).shared = (w.shared + amount) % (u64Max + 1) ∧
      (budget.step w (.advance thread ())).total acceptedBy = w.total acceptedBy + amount ∧
      (budget.step w (.advance thread ())).total pledgedBy + amount = w.total pledgedBy) := by
  cases found : w.threads[thread]? with
  | none => exact Or.inl ⟨fun _ _ acts => (by cases acts), by simp only [System.step, found]⟩
  | some call =>
      cases staged.at found with
      | done taken short =>
          exact Or.inl ⟨fun _ _ acts => (by cases acts), by simp only [System.step, found]⟩
      | adding taken amount exact short =>
          refine Or.inr (Or.inr ⟨amount, _, rfl, ?_, ?_, ?_⟩)
          · simp only [System.step, found]
            rfl
          · have traded := @System.total_advance _ _ _ _ _ _ budget acceptedBy w thread _ _ found ()
            rw [show acceptedBy (.act (.fetchAdd amount) fun _ => .done taken) = 0 from rfl,
              Nat.add_zero] at traded
            rw [traded, <- exact]
            rfl
          · exact @System.total_advance _ _ _ _ _ _ budget pledgedBy w thread _ _ found ()
      | loading listed =>
          rcases capReceivedPeers_load listed with ⟨next, begins, facts⟩
          have asked := batchLength_capReceivedPeers listed
          rw [begins] at found asked ⊢
          refine Or.inr (Or.inl ⟨next, rfl, ?_, ?_, ?_⟩)
          · simp only [System.step, found]
            rfl
          · have traded := @System.total_advance _ _ _ _ _ _ budget acceptedBy w thread _ _ found ()
            rw [show acceptedBy (.act .load next) = 0 from rfl, Nat.add_zero] at traded
            exact traded.trans (congrArg (w.total acceptedBy + ·) (facts w.shared).2.1)
          · have traded := @System.total_advance _ _ _ _ _ _ budget pledgedBy w thread _ _ found ()
            rw [show pledgedBy (.act .load next) = 0 from rfl, Nat.add_zero] at traded
            rw [asked]
            exact traded.trans (congrArg (w.total pledgedBy + ·) (facts w.shared).2.2)

/-- The program of a stage is again at a stage after its action. -/
theorem Stage.next {action : CounterAction}
    {next : action.Reply -> CounterProgram (List TimestampedPeerInfo)} {call}
    (stage : Stage call) (acts : call = .act action next) (reply : action.Reply) :
    Stage (next reply) := by
  cases stage with
  | done taken short => cases acts
  | adding taken amount exact short =>
      cases acts
      exact .done taken (exact.trans_le short)
  | loading listed =>
      rcases capReceivedPeers_load listed with ⟨after, begins, facts⟩
      cases begins.symm.trans acts
      exact (facts reply).1

theorem staged_step {w : BudgetWorld} (staged : Staged w) (move : BudgetMove) :
    Staged (budget.step w move) := by
  cases move with
  | spawn batch =>
      intro call member
      rcases List.mem_append.mp member with old | new
      · exact staged call old
      · rw [List.mem_singleton.mp new]
        exact stage_program batch
  | advance thread choice =>
      simp only [System.step]
      cases found : w.threads[thread]? with
      | none => exact staged
      | some program =>
          cases program with
          | done result => exact staged
          | act action next =>
              intro call member
              rcases List.mem_or_eq_of_mem_set member with old | new
              · exact staged call old
              · rw [new]
                exact (staged.at found).next rfl _

/-- No call accepts more than one request may bring. -/
theorem Staged.each {w : BudgetWorld} (staged : Staged w) :
    ∀ call ∈ w.threads, acceptedBy call ≤ maxPeersReceivedPerRequest := by
  intro call member
  cases staged call member with
  | done taken short => exact short
  | adding taken amount exact short => exact Nat.zero_le _
  | loading listed => exact Nat.zero_le _

/-! ## The budget -/

/-- A call reads the counter while no other call is between its read and its
addition, or while the budget holds its batch beside all that those calls take. -/
def findsRoom (w : BudgetWorld) : BudgetMove -> Bool
  | .spawn _ => true
  | .advance thread _ =>
      match w.threads[thread]? with
      | some (.act .load next) =>
          decide (w.total pledgedBy = 0 ∨
            w.shared + w.total pledgedBy + batchLength (.act .load next) ≤ maxTotalPeersReceived)
      | some (.act (.fetchAdd _) _) => true
      | some (.done _) => true
      | none => true

/-- The counter counts what was accepted, and holds room for all that is pledged. -/
structure Solvent (w : BudgetWorld) : Prop where
  staged : Staged w
  counted : w.shared = w.total acceptedBy
  covered : w.total acceptedBy + w.total pledgedBy ≤ maxTotalPeersReceived

theorem Solvent.within {w : BudgetWorld} (solvent : Solvent w) : WithinBudget w :=
  ⟨(Nat.le_add_right _ _).trans solvent.covered, solvent.staged.each⟩

/-- What calls have accepted and pledged together never shrinks. -/
theorem committed_step {w : BudgetWorld} (staged : Staged w) (move : BudgetMove) :
    w.total acceptedBy + w.total pledgedBy ≤
      (budget.step w move).total acceptedBy + (budget.step w move).total pledgedBy := by
  cases move with
  | spawn batch =>
      rw [System.total_spawn, System.total_spawn]
      omega
  | advance thread choice =>
      rcases advance_cases staged thread with ⟨_, same⟩ | ⟨next, _, _, accepted, pledged⟩ |
        ⟨amount, next, _, _, accepted, pledged⟩
      · exact (congrArg (fun w : BudgetWorld => w.total acceptedBy + w.total pledgedBy) same).ge
      · refine Nat.le_trans ?_ (Nat.add_le_add accepted.ge pledged.ge)
        omega
      · have traded : (budget.step w (.advance thread choice)).total pledgedBy + amount =
            w.total pledgedBy := pledged
        have counted : (budget.step w (.advance thread choice)).total acceptedBy =
            w.total acceptedBy + amount := accepted
        omega

theorem committed_run (moves : List BudgetMove) {w : BudgetWorld} (staged : Staged w) :
    w.total acceptedBy + w.total pledgedBy ≤
      (budget.run moves w).total acceptedBy + (budget.run moves w).total pledgedBy := by
  induction moves generalizing w with
  | nil => exact Nat.le_refl _
  | cons move moves inner =>
      exact (committed_step staged move).trans (inner (staged_step staged move))

/-- A move that finds room keeps the budget solvent. -/
theorem Solvent.step {w : BudgetWorld} (solvent : Solvent w) {move : BudgetMove}
    (room : findsRoom w move = true) : Solvent (budget.step w move) := by
  have staged := staged_step solvent.staged move
  have counted := solvent.counted
  have covered := solvent.covered
  cases move with
  | spawn batch =>
      have fresh : acceptedBy batch.program = 0 ∧ pledgedBy batch.program = 0 := by
        cases batch with
        | peers listed => exact ⟨rfl, rfl⟩
        | records known =>
            unfold ReceivedBatch.program capRecords
            simp only
            split
            · exact ⟨rfl, rfl⟩
            · exact ⟨rfl, rfl⟩
      refine ⟨staged, ?_, ?_⟩
      · rw [System.total_spawn, show budget.program batch = batch.program from rfl, fresh.1]
        exact counted
      · rw [System.total_spawn, System.total_spawn,
          show budget.program batch = batch.program from rfl, fresh.1, fresh.2]
        exact covered
  | advance thread choice =>
      rcases advance_cases solvent.staged thread with ⟨_, same⟩ |
        ⟨next, found, shared, accepted, pledged⟩ |
        ⟨amount, next, found, shared, accepted, pledged⟩
      · rw [show budget.step w (.advance thread choice) = w from same]
        exact solvent
      · refine ⟨staged, shared.trans (counted.trans accepted.symm), ?_⟩
        refine (Nat.add_le_add accepted.le pledged.le).trans ?_
        simp only [findsRoom, found, decide_eq_true_eq] at room
        omega
      · have small : w.shared + amount < u64Max + 1 := by
          simp only [u64Max, maxTotalPeersReceived] at covered ⊢
          omega
        refine ⟨staged, ?_, ?_⟩
        · refine shared.trans ?_
          rw [Nat.mod_eq_of_lt small, counted]
          exact accepted.symm
        · refine (Nat.add_le_add_right accepted.le _).trans ?_
          have traded : (budget.step w (.advance thread choice)).total pledgedBy + amount =
            w.total pledgedBy := pledged
          omega

/-- A call that reads the counter where there is no room commits more than the budget. -/
theorem Solvent.overdrawn {w : BudgetWorld} (solvent : Solvent w) {move : BudgetMove}
    (crowded : findsRoom w move = false) :
    maxTotalPeersReceived <
      (budget.step w move).total acceptedBy + (budget.step w move).total pledgedBy := by
  have counted := solvent.counted
  have covered := solvent.covered
  cases move with
  | spawn batch => cases crowded
  | advance thread choice =>
      rcases advance_cases solvent.staged thread with ⟨idle, _⟩ |
        ⟨next, found, _, accepted, pledged⟩ | ⟨amount, next, found, _⟩
      · cases found : w.threads[thread]? with
        | none =>
            simp only [findsRoom, found] at crowded
            cases crowded
        | some program =>
            cases program with
            | done taken =>
                simp only [findsRoom, found] at crowded
                cases crowded
            | act action next => exact absurd found (idle action next)
      · refine Nat.lt_of_lt_of_le ?_ (Nat.add_le_add accepted.ge pledged.ge)
        simp only [findsRoom, found, decide_eq_false_iff_not, not_or] at crowded
        omega
      · simp only [findsRoom, found] at crowded
        cases crowded

/-- Calls that have all returned have nothing pledged. -/
theorem pledged_of_settled {w : BudgetWorld} (settled : w.settled = true) :
    w.total pledgedBy = 0 := by
  unfold World.total
  apply List.sum_eq_zero_iff_forall_eq_nat.mpr
  intro pledged member
  rcases List.mem_map.mp member with ⟨call, listed, rfl⟩
  have done := List.all_eq_true.mp settled call listed
  cases call with
  | done taken => rfl
  | act action next => cases done

/-- Calls that end within the budget have found room for every batch. -/
theorem room_of_settled {moves : List BudgetMove} {w : BudgetWorld} (solvent : Solvent w)
    (settled : (budget.run moves w).settled = true)
    (within : (budget.run moves w).total acceptedBy ≤ maxTotalPeersReceived) :
    budget.along findsRoom moves w = true := by
  induction moves generalizing w with
  | nil => rfl
  | cons move moves inner =>
      cases room : findsRoom w move with
      | true =>
          exact Bool.and_eq_true_iff.mpr ⟨room, inner (solvent.step room) settled within⟩
      | false =>
          have overdrawn := solvent.overdrawn room
          have committed := committed_run moves (staged_step solvent.staged move)
          have returned : (budget.run moves (budget.step w move)).total pledgedBy = 0 :=
            pledged_of_settled settled
          rw [System.run_cons] at within
          omega

/-- Whatever calls overlap and however, what they accept stays within the
budget as long as each call that reads the counter finds room for its batch
beside what the calls in flight take; and calls that all return without having
found room have accepted more. -/
theorem received_peers_within_budget (moves : List BudgetMove) :
    (budget.along findsRoom moves (World.idle 0) = true ->
      forall count, WithinBudget (spentBy (moves.take count))) ∧
    ((spentBy moves).settled = true -> WithinBudget (spentBy moves) ->
      budget.along findsRoom moves (World.idle 0) = true) := by
  have fresh : Solvent (World.idle 0 : BudgetWorld) :=
    { staged := fun call member => by cases member
      counted := rfl
      covered := Nat.zero_le _ }
  constructor
  · intro room count
    have kept := @System.run_invariant _ _ _ _ _ _ budget findsRoom Solvent
      (fun w move found solvent => solvent.step found) _ _ (System.along_take room count) fresh
    exact kept.within
  · intro settled within
    exact room_of_settled fresh settled within.1

/-! ## Overlapping batches -/

namespace Example

/-- A full batch, so many peers as one request may bring. -/
def fullBatch : ReceivedBatch :=
  .peers (List.replicate maxPeersReceivedPerRequest { host := "a", port := 1, timestamp := 0 })

/-- Four full batches that all read the counter before any adds to it. -/
def overlapping : List BudgetMove :=
  List.replicate 4 (.spawn fullBatch) ++ (List.range 4).map (.advance · ()) ++
    (List.range 4).map (.advance · ())

/-- Four full batches, one after the other. -/
def successive : List BudgetMove :=
  List.replicate 4 (.spawn fullBatch) ++
    (List.range 4).flatMap fun thread => [.advance thread (), .advance thread ()]

end Example

open Example in
theorem received_peers_within_budget_successive : WithinBudget (spentBy (successive.take 12)) :=
  (received_peers_within_budget successive).1 (by decide +kernel) 12

open Example in
/-- Four full batches that overlap are accepted whole, a thousand peers over the budget. -/
theorem received_peers_budget_fails :
    ¬ forall moves : List BudgetMove, WithinBudget (spentBy moves) := by
  intro claim
  have total := (claim overlapping).1
  revert total
  decide +kernel

end Discovery
end DigGossip
