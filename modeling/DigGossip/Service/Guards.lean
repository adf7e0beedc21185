import DigGossip.Foundations.Stepping
import DigGossip.Service.Displacement
import DigGossip.Service.Operations

namespace DigGossip
namespace Service

open Foundations DigGossip.Types

/-!
# Usefulness guards

A guard counts as one use of the record its peer has at that moment; its drop
takes one use from whatever record the peer has then.  Guards take the activity
lock only, so they may be begun and dropped at any point of a displacement,
which holds the peers lock and takes the activity lock three times: to prune
the records, to read them for the decision, and to forget the victim.

The model below runs the actions of the service one at a time, with guards that
have an identity and with the admission of a discovered peer taken apart at
those points.  Run without interruption it is the region of the peers lock.
-/

abbrev GuardId := Nat

/-- A live guard: its peer, and how many records of the peer had been dropped
when it was begun. -/
structure Guard where
  peerId : PeerId
  dropped : Nat

/-- The guard was begun on the peer's record after so many had been dropped. -/
def Guard.isOn (guard : Guard) (peerId : PeerId) (dropped : Nat) : Bool :=
  decide (guard.peerId = peerId ∧ guard.dropped = dropped)

theorem Guard.isOn_iff {guard : Guard} {peerId : PeerId} {dropped : Nat} :
    guard.isOn peerId dropped = true ↔ guard.peerId = peerId ∧ guard.dropped = dropped :=
  decide_eq_true_iff

/-- Where `displace_for_discovered_peer` stands: records pruned, clock read,
victim chosen. -/
inductive DisplacementPhase where
  | pruned
  | timed (now : Nat)
  | chosen (victim : PeerId) (now : Nat)

/-- An admission that holds the peers lock. -/
structure Displacing where
  conn : NatConnection
  phase : DisplacementPhase

/-- The service with its live guards.  `dropped` counts the records of each peer
that are gone, and `cycledOut` lists the victims with the guards each had on
its record when it was removed; nothing the service does depends on either. -/
structure GuardedState where
  service : ServiceState
  displacing : Option Displacing
  guards : FiniteMap GuardId Guard
  dropped : PeerId -> Nat
  cycledOut : List (PeerId × Nat)

inductive GuardEvent where
  | act (order : PeerId -> Nat) (action : Action)
  | beginGuard (guard : GuardId) (peerId : PeerId) (now : Nat)
  | dropGuard (guard : GuardId) (now : Nat)
  | admitDiscovered (conn : NatConnection)
  | readNow
  | plan (order : PeerId -> Nat)
  | cycleOut

namespace GuardedState

/-- The uses counted by the peer's record. -/
def uses (s : GuardedState) (peerId : PeerId) : Nat :=
  ((s.service.pool.activity.lookup peerId).map ActivityRecord.inFlight).getD 0

/-- The live guards begun on the record the peer has now. -/
def liveGuards (s : GuardedState) (peerId : PeerId) : Nat :=
  FiniteMap.countWhere s.guards fun _ guard => guard.isOn peerId (s.dropped peerId)

/-- The service moves on, and the records it dropped are counted. -/
def advance (s : GuardedState) (service : ServiceState) : GuardedState :=
  { s with
    service := service
    dropped := fun peerId =>
      if (s.service.pool.activity.lookup peerId).isSome &&
          (service.pool.activity.lookup peerId).isNone then
        s.dropped peerId + 1
      else s.dropped peerId }

/-- What a thread may do: no region of the peers lock while another holds it.
Discovered peers and guards have events of their own. -/
def permits (s : GuardedState) : Action -> Bool
  | .peers (.admitNat _ .discovered) => false
  | .peers _ => s.displacing.isNone
  | .beginActivity _ _ => false
  | .endActivity _ _ => false
  | _ => true

/-- The admission of a discovered peer up to the pruning of the records. -/
def enterDiscovered (s : GuardedState) (conn : NatConnection) : GuardedState :=
  match s.service.refuseNat conn .discovered with
  | some _ => s
  | none =>
      if (s.service.peers.lookup conn.peerId).isSome then s.advance (s.service.insertNat conn)
      else { s.advance s.service.pruneRecords with displacing := some ⟨conn, .pruned⟩ }

/-- The decision: there is room, nobody may be displaced, or a victim is chosen. -/
def decideVictim (s : GuardedState) (conn : NatConnection) (now : Nat) (order : PeerId -> Nat) :
    GuardedState :=
  match s.service.decideDisplacement order now with
  | .roomAlready => { s.advance (s.service.insertNat conn) with displacing := none }
  | .displace victim => { s with displacing := some ⟨conn, .chosen victim now⟩ }
  | .refused _ => { s with displacing := none }

/-- The removal of the victim and the insertion of the newcomer. -/
def replaceVictim (s : GuardedState) (conn : NatConnection) (victim : PeerId) (now : Nat) :
    GuardedState :=
  match s.service.peers.lookup victim with
  | none => { s with displacing := none }
  | some _ =>
      { s.advance ((s.service.removeVictim victim now).insertNat conn) with
        displacing := none
        cycledOut := s.cycledOut ++ [(victim, s.liveGuards victim)] }

def step (s : GuardedState) : GuardEvent -> GuardedState
  | .act order action =>
      if s.permits action then s.advance (exec order action s.service).1 else s
  | .beginGuard guard peerId now =>
      if (s.guards.lookup guard).isNone && (s.service.pool.activity.lookup peerId).isSome then
        { s with
          service := (exec (fun _ => 0) (.beginActivity peerId now) s.service).1
          guards := s.guards.insert guard { peerId := peerId, dropped := s.dropped peerId } }
      else s
  | .dropGuard guard now =>
      match s.guards.lookup guard with
      | some held =>
          { s with
            service := (exec (fun _ => 0) (.endActivity held.peerId now) s.service).1
            guards := s.guards.erase guard }
      | none => s
  | .admitDiscovered conn =>
      match s.displacing with
      | none => s.enterDiscovered conn
      | some _ => s
  | .readNow =>
      match s.displacing with
      | some ⟨conn, .pruned⟩ => { s with displacing := some ⟨conn, .timed s.service.now⟩ }
      | some _ => s
      | none => s
  | .plan order =>
      match s.displacing with
      | some ⟨conn, .timed now⟩ => s.decideVictim conn now order
      | some _ => s
      | none => s
  | .cycleOut =>
      match s.displacing with
      | some ⟨conn, .chosen victim now⟩ => s.replaceVictim conn victim now
      | some _ => s
      | none => s

/-- The service without guards, and with no admission under way. -/
def start (service : ServiceState) : GuardedState where
  service := service
  displacing := none
  guards := ∅
  dropped := fun _ => 0
  cycledOut := []

end GuardedState

/-! ## The parts make the whole -/

/-- The events of one displacement that nobody interrupts. -/
def uninterrupted (conn : NatConnection) (order : PeerId -> Nat) : List GuardEvent :=
  [.admitDiscovered conn, .readNow, .plan order, .cycleOut]

section Parts

variable {s : GuardedState} (conn : NatConnection) (order : PeerId -> Nat)

/-- An admission that is refused, or that replaces a held slot, displaces nobody. -/
theorem run_uninterrupted_of_settled (free : s.displacing = none)
    (after : (s.enterDiscovered conn).displacing = none) :
    Stepping.run GuardedState.step (uninterrupted conn order) s = s.enterDiscovered conn := by
  simp only [uninterrupted, Stepping.run_cons, Stepping.run_nil, GuardedState.step, free, after]

/-- What the decision makes of an admission whose records are pruned. -/
theorem run_uninterrupted_of_entered (free : s.displacing = none)
    (enters : s.enterDiscovered conn =
      { s.advance s.service.pruneRecords with displacing := some ⟨conn, .pruned⟩ }) :
    Stepping.run GuardedState.step (uninterrupted conn order) s =
      GuardedState.step
        (GuardedState.decideVictim
          { s.advance s.service.pruneRecords with
            displacing := some ⟨conn, .timed s.service.now⟩ }
          conn s.service.now order) .cycleOut := by
  simp only [uninterrupted, Stepping.run_cons, Stepping.run_nil, GuardedState.step, free, enters]
  rfl

/-- Without interruption the events of a displacement do what the region does. -/
theorem run_uninterrupted (free : s.displacing = none) :
    (Stepping.run GuardedState.step (uninterrupted conn order) s).service =
        s.service.unlock (s.service.admitNat order conn .discovered).1 ∧
      (Stepping.run GuardedState.step (uninterrupted conn order) s).displacing = none := by
  cases refused : s.service.refuseNat conn .discovered with
  | some error =>
      have stays : s.enterDiscovered conn = s := by simp only [GuardedState.enterDiscovered, refused]
      rw [run_uninterrupted_of_settled conn order free (by rw [stays, free]), stays]
      refine ⟨?_, free⟩
      simp only [ServiceState.admitNat, refused]
      rfl
  | none =>
      cases held : s.service.peers.lookup conn.peerId with
      | some slot =>
          have enters : s.enterDiscovered conn = s.advance (s.service.insertNat conn) := by
            simp [GuardedState.enterDiscovered, refused, held]
          rw [run_uninterrupted_of_settled conn order free (by rw [enters]; exact free), enters]
          refine ⟨?_, free⟩
          simp only [ServiceState.admitNat, refused, held]
          rfl
      | none =>
          have enters : s.enterDiscovered conn =
              { s.advance s.service.pruneRecords with displacing := some ⟨conn, .pruned⟩ } := by
            simp [GuardedState.enterDiscovered, refused, held]
          rw [run_uninterrupted_of_entered conn order free enters]
          simp only [ServiceState.admitNat, refused, held, Option.isNone_none, and_self, if_true,
            displaceForDiscoveredPeer_parts]
          cases decision : s.service.pruneRecords.decideDisplacement order s.service.now with
          | roomAlready =>
              simp only [GuardedState.decideVictim, GuardedState.advance, decision]
              exact ⟨rfl, rfl⟩
          | displace victim =>
              simp only [GuardedState.decideVictim, GuardedState.advance, decision,
                GuardedState.step, GuardedState.replaceVictim]
              cases found : s.service.peers.lookup victim with
              | none =>
                  have here : s.service.pruneRecords.peers.lookup victim = none := found
                  simp only [here]
                  exact ⟨rfl, trivial⟩
              | some slot =>
                  have here : s.service.pruneRecords.peers.lookup victim = some slot := found
                  simp only [here]
                  exact ⟨rfl, trivial⟩
          | refused reason =>
              simp only [GuardedState.decideVictim, GuardedState.advance, decision]
              exact ⟨rfl, rfl⟩

end Parts

/-! ## The uses of a record -/

/-- Records may be dropped, and a new one starts without uses; no count changes. -/
def KeepsUses (before after : FiniteMap PeerId ActivityRecord) : Prop :=
  forall peerId row, after.lookup peerId = some row ->
    row.inFlight = ((before.lookup peerId).map ActivityRecord.inFlight).getD 0

theorem keepsUses_of_sub {before after : FiniteMap PeerId ActivityRecord}
    (sub : FiniteMap.Sub after before) : KeepsUses before after := by
  intro peerId row found
  rw [sub peerId row found]
  rfl

theorem keepsUses_refl (activity : FiniteMap PeerId ActivityRecord) : KeepsUses activity activity :=
  keepsUses_of_sub (FiniteMap.Sub.refl activity)

theorem keepsUses_recordAdmission (pool : PoolState) (admitted : PeerId) (now : Nat) :
    KeepsUses pool.activity (pool.recordAdmission admitted now).activity := by
  intro peerId row found
  rcases FiniteMap.of_lookup_insert found with ⟨rfl, rfl⟩ | ⟨_, old⟩
  · rfl
  · rw [old]
    rfl

/-- No action but a guard's changes the count of a record. -/
theorem keepsUses_exec {s : GuardedState} {action : Action} (permitted : s.permits action = true)
    (order : PeerId -> Nat) :
    KeepsUses s.service.pool.activity (exec order action s.service).1.pool.activity := by
  cases action with
  | peers region =>
      apply keepsUses_of_sub
      intro peerId row found
      exact (within_leavesRecords order peerId region row found).1
  | recordAdmission peerId now => exact keepsUses_recordAdmission s.service.pool peerId now
  | beginActivity peerId now => cases permitted
  | endActivity peerId now => cases permitted
  | tryAcquirePermit =>
      simp only [exec]
      split
      · exact keepsUses_refl _
      · exact keepsUses_refl _
  | _ => exact keepsUses_refl _

/-! ## What the counts mean -/

/-- The peer is the victim that a displacement under way has chosen. -/
def GuardedState.isChosen (s : GuardedState) (peerId : PeerId) : Bool :=
  match s.displacing with
  | some ⟨_, .chosen victim _⟩ => victim == peerId
  | some _ => false
  | none => false

/-- A record counts the live guards begun on it, a chosen victim has none, and
nobody was removed who had one. -/
structure Counted (s : GuardedState) : Prop where
  counted : forall peerId, s.liveGuards peerId = s.uses peerId
  earlier : forall name guard, s.guards.lookup name = some guard ->
    guard.dropped ≤ s.dropped guard.peerId
  unused : forall peerId, s.isChosen peerId = true -> s.uses peerId = 0
  idle : ∀ victim ∈ s.cycledOut, victim.2 = 0

namespace Counted

variable {s : GuardedState}

theorem start (service : ServiceState) (empty : service.pool.activity = ∅) :
    Counted (GuardedState.start service) where
  counted := by
    intro peerId
    have none : service.pool.activity.lookup peerId = none := by
      rw [empty]
      exact Finmap.lookup_empty peerId
    simp [GuardedState.liveGuards, GuardedState.uses, GuardedState.start, none,
      FiniteMap.countWhere_empty]
  earlier := by
    intro name guard found
    have none : (GuardedState.start service).guards.lookup name = none := Finmap.lookup_empty name
    rw [none] at found
    cases found
  unused := fun peerId chosen => by cases chosen
  idle := fun victim member => by cases member

/-- The counts stay right when records are dropped and new ones start. -/
theorem advance (counted : Counted s) {service : ServiceState}
    (keeps : KeepsUses s.service.pool.activity service.pool.activity) :
    Counted (s.advance service) := by
  have used : forall peerId, (s.advance service).uses peerId = s.uses peerId ∨
      (s.advance service).uses peerId = 0 ∧ service.pool.activity.lookup peerId = none := by
    intro peerId
    cases found : service.pool.activity.lookup peerId with
    | none => exact Or.inr ⟨by simp [GuardedState.uses, GuardedState.advance, found], rfl⟩
    | some row =>
        refine Or.inl ?_
        have same := keeps peerId row found
        simpa [GuardedState.uses, GuardedState.advance, found] using same
  refine ⟨?_, ?_, ?_, counted.idle⟩
  · intro peerId
    by_cases gone : ((s.service.pool.activity.lookup peerId).isSome &&
        (service.pool.activity.lookup peerId).isNone) = true
    · -- Every guard of the peer was begun on an earlier record than the next one.
      have more : (s.advance service).dropped peerId = s.dropped peerId + 1 := if_pos gone
      have unguarded : (s.advance service).liveGuards peerId = 0 := by
        apply FiniteMap.countWhere_eq_zero
        intro name guard found
        have earlier := counted.earlier name guard found
        apply decide_eq_false
        rintro ⟨rfl, now⟩
        rw [more] at now
        omega
      have absent := Option.isNone_iff_eq_none.mp (Bool.and_eq_true_iff.mp gone).2
      rw [unguarded]
      simp [GuardedState.uses, GuardedState.advance, absent]
    · have same : (s.advance service).dropped peerId = s.dropped peerId := if_neg gone
      have guards : (s.advance service).liveGuards peerId = s.liveGuards peerId := by
        simp only [GuardedState.liveGuards, same]
        rfl
      rw [guards, counted.counted peerId]
      rcases used peerId with kept | ⟨zero, absent⟩
      · exact kept.symm
      · rw [zero]
        cases before : s.service.pool.activity.lookup peerId with
        | none => simp [GuardedState.uses, before]
        | some row => simp [before, absent] at gone
  · intro name guard found
    refine (counted.earlier name guard found).trans ?_
    simp only [GuardedState.advance]
    split
    · exact Nat.le_succ _
    · exact Nat.le_refl _
  · intro peerId chosen
    rcases used peerId with same | none
    · rw [same]
      exact counted.unused peerId chosen
    · exact none.1

section Guarding

variable (s)

theorem uses_adjust (peerId other : PeerId) (change : ActivityRecord -> ActivityRecord)
    (guards : FiniteMap GuardId Guard) :
    GuardedState.uses
        { s with service := s.service.adjustActivity peerId change, guards := guards } other =
      if other = peerId then
        (((s.service.pool.activity.lookup peerId).map change).map ActivityRecord.inFlight).getD 0
      else s.uses other := by
  simp only [GuardedState.uses, ServiceState.adjustActivity, FiniteMap.lookup_adjust_eq]
  by_cases same : other = peerId
  · rw [if_pos same, if_pos same]
  · rw [if_neg same, if_neg same]

end Guarding

/-- A guard begun on a record adds one use to it, if no displacement has chosen its peer. -/
theorem beginGuard (counted : Counted s) {name : GuardId} {peerId : PeerId} (now : Nat)
    (fresh : s.guards.lookup name = none) (tracked : (s.service.pool.activity.lookup peerId).isSome)
    (unchosen : s.isChosen peerId = false) :
    Counted { s with
      service := (exec (fun _ => 0) (.beginActivity peerId now) s.service).1
      guards := s.guards.insert name { peerId := peerId, dropped := s.dropped peerId } } := by
  rcases Option.isSome_iff_exists.mp tracked with ⟨row, here⟩
  refine ⟨?_, ?_, ?_, counted.idle⟩
  · intro other
    simp only [exec]
    rw [uses_adjust s]
    have inserted := FiniteMap.countWhere_insert s.guards
      (fun _ guard => guard.isOn other (s.dropped other)) name
      { peerId := peerId, dropped := s.dropped peerId }
    rw [fresh, FiniteMap.weight_none, FiniteMap.weight_some] at inserted
    have before := counted.counted other
    simp only [GuardedState.liveGuards] at before ⊢
    by_cases same : other = peerId
    · subst same
      have one : s.uses other = row.inFlight := by rw [GuardedState.uses, here]; rfl
      rw [if_pos (Guard.isOn_iff.mpr ⟨rfl, rfl⟩)] at inserted
      rw [if_pos rfl, here, Option.map_some, Option.map_some, Option.getD_some]
      dsimp only
      omega
    · have off : ¬ ({ peerId := peerId, dropped := s.dropped peerId } : Guard).isOn other
          (s.dropped other) = true := fun on => same (Guard.isOn_iff.mp on).1.symm
      rw [if_neg off] at inserted
      rw [if_neg same]
      omega
  · intro other guard found
    rcases FiniteMap.of_lookup_insert found with ⟨_, rfl⟩ | ⟨_, old⟩
    · exact Nat.le_refl _
    · exact counted.earlier other guard old
  · intro other chosen
    have different : other ≠ peerId := by
      rintro rfl
      have clash := unchosen.symm.trans chosen
      cases clash
    simp only [exec]
    rw [uses_adjust s, if_neg different]
    exact counted.unused other chosen

/-- The drop of a guard takes the use it added, or none where there is none to take. -/
theorem dropGuard (counted : Counted s) {name : GuardId} {guard : Guard} (now : Nat)
    (found : s.guards.lookup name = some guard)
    (own : guard.dropped = s.dropped guard.peerId ∨ s.uses guard.peerId = 0) :
    Counted { s with
      service := (exec (fun _ => 0) (.endActivity guard.peerId now) s.service).1
      guards := s.guards.erase name } := by
  have fewer : (((s.service.pool.activity.lookup guard.peerId).map fun row =>
      { row with inFlight := row.inFlight - 1, lastActiveAt := now }).map
        ActivityRecord.inFlight).getD 0 = s.uses guard.peerId - 1 := by
    cases here : s.service.pool.activity.lookup guard.peerId with
    | none => simp [GuardedState.uses, here]
    | some row => simp [GuardedState.uses, here]
  refine ⟨?_, ?_, ?_, counted.idle⟩
  · intro other
    simp only [exec]
    rw [uses_adjust s, fewer]
    have erased := FiniteMap.countWhere_erase s.guards
      (fun _ guard => guard.isOn other (s.dropped other)) name
    rw [found, FiniteMap.weight_some] at erased
    have before := counted.counted other
    simp only [GuardedState.liveGuards] at before ⊢
    by_cases same : other = guard.peerId
    · subst same
      rw [if_pos rfl]
      rcases own with current | unused
      · rw [if_pos (Guard.isOn_iff.mpr ⟨rfl, current⟩)] at erased
        omega
      · omega
    · have off : ¬ guard.isOn other (s.dropped other) = true :=
        fun on => same (Guard.isOn_iff.mp on).1.symm
      rw [if_neg off] at erased
      rw [if_neg same]
      omega
  · intro other held here
    rcases FiniteMap.of_lookup_erase here with ⟨_, old⟩
    exact counted.earlier other held old
  · intro other chosen
    have unused := counted.unused other chosen
    simp only [exec]
    rw [uses_adjust s, fewer]
    split
    · rename_i same
      rw [<- same, unused]
    · exact unused

/-- The place of an admission may change when the victim it chooses is unused. -/
theorem move (counted : Counted s) (displacing : Option Displacing)
    (unused : forall peerId, { s with displacing := displacing }.isChosen peerId = true ->
      s.uses peerId = 0) : Counted { s with displacing := displacing } :=
  ⟨counted.counted, counted.earlier, unused, counted.idle⟩

theorem enterDiscovered (counted : Counted s) (conn : NatConnection) :
    Counted (s.enterDiscovered conn) := by
  unfold GuardedState.enterDiscovered
  split
  · exact counted
  · split
    · exact counted.advance (keepsUses_refl _)
    · have pruned : KeepsUses s.service.pool.activity s.service.pruneRecords.pool.activity :=
        keepsUses_of_sub (FiniteMap.sub_retain _ _)
      exact (counted.advance pruned).move _ fun peerId chosen => by cases chosen

/-- A victim is chosen among the unused. -/
theorem decideVictim (counted : Counted s) (conn : NatConnection) (now : Nat)
    (order : PeerId -> Nat) : Counted (s.decideVictim conn now order) := by
  unfold GuardedState.decideVictim
  cases decision : s.service.decideDisplacement order now with
  | roomAlready =>
      have entered : Counted (s.advance (s.service.insertNat conn)) :=
        counted.advance (keepsUses_refl _)
      exact entered.move none fun peerId chosen => by cases chosen
  | refused reason => exact counted.move none fun peerId chosen => by cases chosen
  | displace victim =>
      apply counted.move
      intro peerId chosen
      have same : victim = peerId := beq_iff_eq.mp chosen
      rcases displaces_of_displace decision with ⟨peer, named, displaces⟩
      have idle : peer.inFlight = 0 := (of_decide_eq_true displaces.displaceable).1
      have recorded := (mem_activityOf.mp displaces.incumbent).2
      rw [GuardedState.uses, <- same, <- named, recorded]
      exact idle

theorem replaceVictim (counted : Counted s) (conn : NatConnection) {victim : PeerId} (now : Nat)
    (chosen : s.isChosen victim = true) : Counted (s.replaceVictim conn victim now) := by
  unfold GuardedState.replaceVictim
  split
  · exact counted.move none fun peerId chosen => by cases chosen
  · have forgets : KeepsUses s.service.pool.activity
        ((s.service.removeVictim victim now).insertNat conn).pool.activity :=
      keepsUses_of_sub (FiniteMap.sub_erase _ _)
    have after := counted.advance forgets
    refine ⟨after.counted, after.earlier, (fun peerId chosen => by cases chosen), ?_⟩
    intro entry member
    rcases List.mem_append.mp member with old | last
    · exact counted.idle entry old
    · rw [List.mem_singleton.mp last]
      exact (counted.counted victim).trans (counted.unused victim chosen)

end Counted

/-! ## Runs -/

/-- No guard is begun on the victim of a displacement under way, and a guard
begun on an earlier record of its peer is not dropped on a record in use. -/
def guardsCarefully (s : GuardedState) : GuardEvent -> Bool
  | .beginGuard _ peerId _ => !s.isChosen peerId
  | .dropGuard guard _ =>
      (s.guards.lookup guard).all fun held =>
        held.dropped == s.dropped held.peerId || s.uses held.peerId == 0
  | _ => true

/-- One careful event keeps the counts right. -/
theorem Counted.step {s : GuardedState} (counted : Counted s) (event : GuardEvent)
    (careful : guardsCarefully s event = true) : Counted (s.step event) := by
  cases event with
  | act order action =>
      simp only [GuardedState.step]
      split
      · rename_i permitted
        exact counted.advance (keepsUses_exec permitted order)
      · exact counted
  | beginGuard guard peerId now =>
      simp only [GuardedState.step]
      split
      · rename_i allowed
        have both := Bool.and_eq_true_iff.mp allowed
        exact counted.beginGuard now (Option.isNone_iff_eq_none.mp both.1) both.2
          (Bool.not_eq_true' _ ▸ careful)
      · exact counted
  | dropGuard guard now =>
      simp only [GuardedState.step]
      cases found : s.guards.lookup guard with
      | none => exact counted
      | some held =>
          simp only [guardsCarefully, found, Option.all_some, Bool.or_eq_true, beq_iff_eq] at careful
          exact counted.dropGuard now found careful
  | admitDiscovered conn =>
      simp only [GuardedState.step]
      split
      · exact counted.enterDiscovered conn
      · exact counted
  | readNow =>
      simp only [GuardedState.step]
      split
      · exact counted.move _ fun peerId chosen => by cases chosen
      · exact counted
      · exact counted
  | plan order =>
      simp only [GuardedState.step]
      split
      · exact counted.decideVictim _ _ order
      · exact counted
      · exact counted
  | cycleOut =>
      simp only [GuardedState.step]
      split
      · rename_i conn victim now under
        exact counted.replaceVictim conn now (by simp [GuardedState.isChosen, under])
      · exact counted
      · exact counted

/-- The service after these events. -/
def Launch.guarded (launch : Launch) (events : List GuardEvent) : GuardedState :=
  Stepping.run GuardedState.step events (GuardedState.start launch.world.shared)

def Launch.guardsCarefully (launch : Launch) (events : List GuardEvent) : Bool :=
  Stepping.along GuardedState.step Service.guardsCarefully events
    (GuardedState.start launch.world.shared)

/-- A record counts at least the live guards begun on it, and nobody was
displaced who had one. -/
def InUseIsKept (s : GuardedState) : Prop :=
  (forall peerId row, s.service.pool.activity.lookup peerId = some row ->
    s.liveGuards peerId ≤ row.inFlight) ∧
  ∀ victim ∈ s.cycledOut, victim.2 = 0

theorem in_use_is_kept (launch : Launch) (events : List GuardEvent)
    (careful : launch.guardsCarefully events = true) : InUseIsKept (launch.guarded events) := by
  have counted : Counted (launch.guarded events) :=
    Stepping.invariant (fun s event careful counted => counted.step event careful) careful
      (Counted.start _ rfl)
  refine ⟨fun peerId row found => ?_, counted.idle⟩
  rw [counted.counted peerId, GuardedState.uses, found]
  exact Nat.le_refl _

namespace Example

def act (action : Action) : GuardEvent :=
  .act (fun _ => 0) action

/-- The region and the announcement of an adoption. -/
def adopted (peerId : PeerId) (now : Nat) : List GuardEvent :=
  [act (.peers (.admitNat (direct peerId) .maintained)), act (.recordAdmission peerId now)]

/-- A peer is used, idle for long enough, and then displaced. -/
def cycledWhenIdle : List GuardEvent :=
  adopted 1 1000 ++ [.beginGuard 0 1 1000, .dropGuard 0 1100, act (.setClock 2000)] ++
  uninterrupted (direct 2) fun _ => 0

/-- A guard outlives its peer's departure and is dropped after the peer has
come back and is in use again. -/
def droppedLate : List GuardEvent :=
  adopted 1 1000 ++ [.beginGuard 0 1 1000, act (.peers (.remove 1))] ++
  adopted 1 1001 ++ [.beginGuard 1 1 1001, .dropGuard 0 1002]

end Example

theorem in_use_is_kept_idle : InUseIsKept (Example.crowded.guarded Example.cycledWhenIdle) :=
  in_use_is_kept Example.crowded Example.cycledWhenIdle (by decide +kernel)

theorem in_use_is_kept_fails :
    ¬ forall (launch : Launch) (events : List GuardEvent), InUseIsKept (launch.guarded events) := by
  intro always
  have kept := (always Example.crowded Example.droppedLate).1
  have tracked : (Example.crowded.guarded Example.droppedLate).service.pool.activity.lookup 1 =
      some { admittedAt := 1001, lastActiveAt := 1002, inFlight := 0 } := by decide +kernel
  have guarded : (Example.crowded.guarded Example.droppedLate).liveGuards 1 = 1 := by
    decide +kernel
  have none := kept 1 _ tracked
  rw [guarded] at none
  cases none

end Service
end DigGossip
