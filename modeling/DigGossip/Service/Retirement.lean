import DigGossip.Service.Generations

namespace DigGossip
namespace Service

open Foundations DigGossip.Types

/-!
# Replaced slots are retired

A slot that another connection replaces is handed to `retire_slot` after the
lock is released.  Three accounts meet here: the effects an operation owes for
what it took out of the map, the live slots that were placed, are held and have
left, and the generations, each drawn once.  Together they say that every
replaced slot is retired once, save one: the listener does not tell the owner
of an observed session that it replaces.
-/

def replacedBy : System.Deed Action Action.Reply -> List PeerSlot
  | ⟨.peers region, reply⟩ => region.replaced reply
  | _ => []

/-- The slots that left the map because another connection took their place. -/
def replacedSlots (past : List (System.Deed Action Action.Reply)) : List PeerSlot :=
  past.flatMap replacedBy

def PeerSlot.isObserved (session : SessionId) : PeerSlot -> Bool
  | nat slot => slot.conn == .observed session
  | live _ => false
  | stub _ => false

def PeerSlot.isLiveOf (generation : Nat) : PeerSlot -> Bool
  | live slot => slot.generation == generation
  | nat _ => false
  | stub _ => false

def PeerSlot.holdsLink (link : LinkId) : PeerSlot -> Bool
  | live slot => slot.peer == link
  | nat _ => false
  | stub _ => false

/-- Each replaced slot is retired: an observed session's owner is told once for
each time it was replaced and never otherwise, a live slot's keepalive is
aborted once, and its link is closed. -/
structure SupersededAreRetired (past : List (System.Deed Action Action.Reply)) (s : ServiceState) :
    Prop where
  notices : forall session, s.effects.count (.noticeFired session) =
    (replacedSlots past).countP (PeerSlot.isObserved session)
  keepalives : forall slot, .live slot ∈ replacedSlots past ->
    s.effects.count (.keepaliveAborted slot.generation) = 1
  links : forall link, (replacedSlots past).countP (PeerSlot.holdsLink link) ≤
    s.effects.count (.linkClosed link)

def PeerSlot.hasOwner : PeerSlot -> Bool
  | nat slot =>
      match slot.conn with
      | .observed _ => true
      | .owned _ => false
  | live _ => false
  | stub _ => false

/-- The listener replaces no session that has an owner to be told. -/
def tellsOwners (_ : PeerId -> Nat) : Action -> ServiceState -> Bool
  | .peers (.insertLive peerId _ _ _), s =>
      (s.peers.lookup peerId).all fun slot => !slot.hasOwner
  | _, _ => true

/-! ## The live slots -/

def departedBy : System.Deed Action Action.Reply -> List PeerSlot
  | ⟨.peers (.removeIfGeneration _ _), some slot⟩ => [.live slot]
  | ⟨.peers region, reply⟩ => region.replaced reply ++ region.relinquished reply
  | _ => []

/-- The slots that left the map, reaped sessions aside. -/
def departedSlots (past : List (System.Deed Action Action.Reply)) : List PeerSlot :=
  past.flatMap departedBy

section Conservation

variable {s : ServiceState} {order : PeerId -> Nat} {region : PeersRegion} {after : Peers}
  {reply : region.Reply} (generation : Nat)

theorem weight_isLiveOf (peerId : PeerId) (row : Option PeerSlot) :
    FiniteMap.weight (fun _ slot => PeerSlot.isLiveOf generation slot) peerId row =
      row.toList.countP (PeerSlot.isLiveOf generation) := by
  cases row with
  | none => rfl
  | some slot => rw [FiniteMap.weight_some, Option.toList_some, List.countP_singleton]

/-- The live slots of a generation that are held. -/
def heldCount (peers : Peers) : Nat :=
  FiniteMap.countWhere peers fun _ slot => PeerSlot.isLiveOf generation slot

theorem heldCount_insert (peers : Peers) (peerId : PeerId) (slot : PeerSlot) :
    heldCount generation (peers.insert peerId slot) +
        (peers.lookup peerId).toList.countP (PeerSlot.isLiveOf generation) =
      heldCount generation peers + if slot.isLiveOf generation then 1 else 0 := by
  have exchange := FiniteMap.countWhere_insert peers
    (fun _ slot => PeerSlot.isLiveOf generation slot) peerId slot
  rw [weight_isLiveOf, FiniteMap.weight_some] at exchange
  exact exchange

theorem heldCount_erase (peers : Peers) (peerId : PeerId) :
    heldCount generation (peers.erase peerId) +
        (peers.lookup peerId).toList.countP (PeerSlot.isLiveOf generation) =
      heldCount generation peers := by
  have less := FiniteMap.countWhere_erase peers
    (fun _ slot => PeerSlot.isLiveOf generation slot) peerId
  rw [weight_isLiveOf] at less
  exact less

theorem heldCount_placed (peers : Peers) (peerId : PeerId) (remote : SocketAddr)
    (isOutbound : Bool) (link : LinkId) (drawn : Nat) :
    heldCount generation (peers.insert peerId (liveSlot remote isOutbound link drawn)) +
        (peers.lookup peerId).toList.countP (PeerSlot.isLiveOf generation) =
      heldCount generation peers + [drawn].count generation := by
  rw [heldCount_insert, List.count_singleton]
  rfl

theorem heldCount_session (peers : Peers) (peerId : PeerId) (slot : NatSlot) :
    heldCount generation (peers.insert peerId (.nat slot)) +
        (peers.lookup peerId).toList.countP (PeerSlot.isLiveOf generation) =
      heldCount generation peers :=
  heldCount_insert generation peers peerId (.nat slot)

/-- Reaping takes no live slot. -/
theorem heldCount_reaped (s : ServiceState) :
    heldCount generation (FiniteMap.retain s.peers fun _ slot => !s.slotIsDeparted slot) =
      heldCount generation s.peers := by
  apply FiniteMap.countWhere_congr
  intro peerId
  rw [FiniteMap.lookup_retain_eq]
  cases s.peers.lookup peerId with
  | none => rfl
  | some slot =>
      cases slot with
      | live slot => rfl
      | stub peer => rfl
      | nat slot =>
          rw [Option.filter_some]
          split <;> rfl

/-- The live slots that are held or have left are those that were placed. -/
theorem RegionStep.conserves (step : RegionStep s order region after reply) :
    heldCount generation after +
        (departedBy ⟨.peers region, reply⟩).countP (PeerSlot.isLiveOf generation) =
      heldCount generation s.peers + (placements [⟨.peers region, reply⟩]).count generation := by
  cases step with
  | read reads reply => cases region <;> first | rfl | cases reads
  | looked peerId => rfl
  | liveRefused kind => rfl
  | liveAdmitted allowed =>
      simp only [departedBy, PeersRegion.replaced, PeersRegion.relinquished, List.append_nil]
      exact heldCount_placed generation _ _ _ _ _ _
  | tlsInserted =>
      simp only [departedBy, PeersRegion.replaced, PeersRegion.relinquished, List.append_nil]
      exact heldCount_placed generation _ _ _ _ _ _
  | natRefused error => rfl
  | @natAdmitted conn source room displaced allowed made =>
      simp only [departedBy, PeersRegion.replaced, PeersRegion.relinquished, List.append_nil,
        List.countP_append]
      have entered := heldCount_session generation room conn.peerId {
        conn := .owned conn.session, sink := none, remote := conn.remoteAddr, isOutbound := true
        method := conn.method }
      have none : (placements [⟨.peers (.admitNat conn source),
          .ok { superseded := room.lookup conn.peerId, displaced := displaced }⟩]).count
            generation = 0 := rfl
      rw [none]
      cases made with
      | kept fits =>
          simp only [Option.map_none, Option.toList_none, List.countP_nil]
          exact entered
      | @cycled victim slot unheld found =>
          have left := heldCount_erase generation s.peers victim
          rw [found] at left
          simp only [Option.map_some]
          have entered' : heldCount generation ((s.peers.erase victim).insert conn.peerId conn.slot) +
              ((s.peers.erase victim).lookup conn.peerId).toList.countP
                (PeerSlot.isLiveOf generation) =
                  heldCount generation (s.peers.erase victim) := entered
          omega
  | directRefused error => rfl
  | directAdopted allowed =>
      simp only [departedBy, PeersRegion.replaced, PeersRegion.relinquished, List.append_nil]
      exact heldCount_session generation _ _ _
  | relayedRefused error => rfl
  | relayedAdopted allowed =>
      simp only [departedBy, PeersRegion.replaced, PeersRegion.relinquished, List.append_nil]
      exact heldCount_session generation _ _ _
  | sinkRefused => rfl
  | @sinkSet peerId sink slot found =>
      have wired := heldCount_session generation s.peers peerId { slot with sink := some sink }
      rw [found] at wired
      exact wired
  | removedNothing unheld => rfl
  | @removed peerId slot found =>
      have left := heldCount_erase generation s.peers peerId
      rw [found] at left
      exact left
  | reaped => exact heldCount_reaped generation s
  | banSuperseded => rfl
  | banRemoved => exact heldCount_erase generation s.peers _
  | keepaliveSuperseded => rfl
  | @keepaliveRemoved peerId asked slot found =>
      have left := heldCount_erase generation s.peers peerId
      rw [found] at left
      exact left

end Conservation

/-! ## The effects -/

def obligedBy : System.Deed Action Action.Reply -> List Effect
  | ⟨.peers region, reply⟩ => region.obliges reply
  | _ => []

/-- Every effect that the regions made their operations owe. -/
def obligedEffects (past : List (System.Deed Action Action.Reply)) : List Effect :=
  past.flatMap obligedBy

section Effects

variable {past : List (System.Deed Action Action.Reply)}

theorem obligedEffects_append (deed : System.Deed Action Action.Reply) :
    obligedEffects (past ++ [deed]) = obligedEffects past ++ obligedBy deed := by
  rw [obligedEffects, List.flatMap_append, List.flatMap_singleton]
  rfl

theorem departedSlots_append (deed : System.Deed Action Action.Reply) :
    departedSlots (past ++ [deed]) = departedSlots past ++ departedBy deed := by
  rw [departedSlots, List.flatMap_append, List.flatMap_singleton]
  rfl

/-- The slots that an effect retires. -/
def Effect.retiresSlot : Effect -> PeerSlot -> Bool
  | noticeFired session => PeerSlot.isObserved session
  | keepaliveAborted generation => PeerSlot.isLiveOf generation
  | linkClosed link => PeerSlot.holdsLink link

/-- Retiring a slot has each effect once on the slots it is meant for. -/
theorem count_retirement (effect : Effect) (slots : List PeerSlot) :
    (slots.flatMap PeerSlot.retirement).count effect = slots.countP effect.retiresSlot := by
  induction slots with
  | nil => rfl
  | cons slot rest inner =>
      rw [List.flatMap_cons, List.count_append, inner, List.countP_cons, Nat.add_comm]
      congr 1
      rcases slot with peer | slot | ⟨conn, _, _, _, _⟩
      · cases effect <;> rfl
      · cases effect <;>
          simp [PeerSlot.retirement, Effect.retiresSlot, PeerSlot.isObserved, PeerSlot.isLiveOf,
            PeerSlot.holdsLink, List.count_cons]
      · cases conn <;> cases effect <;>
          simp [PeerSlot.retirement, Effect.retiresSlot, PeerSlot.isObserved, PeerSlot.isLiveOf,
            PeerSlot.holdsLink, List.count_cons]

/-- The paths that know only live slots are right about all but the notices. -/
theorem count_teardown {effect : Effect} (silent : forall session, effect ≠ .noticeFired session)
    (slots : List PeerSlot) :
    (slots.flatMap PeerSlot.teardown).count effect = slots.countP effect.retiresSlot := by
  induction slots with
  | nil => rfl
  | cons slot rest inner =>
      rw [List.flatMap_cons, List.count_append, inner, List.countP_cons, Nat.add_comm]
      congr 1
      have single := count_retirement effect [slot]
      rw [List.flatMap_singleton, List.countP_singleton] at single
      cases slot with
      | live slot => exact single
      | stub peer => cases effect <;> rfl
      | nat slot =>
          cases effect with
          | noticeFired session => exact absurd rfl (silent session)
          | keepaliveAborted generation => rfl
          | linkClosed link => rfl

theorem count_teardown_notice (session : SessionId) (slots : List PeerSlot) :
    (slots.flatMap PeerSlot.teardown).count (.noticeFired session) = 0 := by
  rw [List.count_eq_zero]
  intro member
  rcases List.mem_flatMap.mp member with ⟨slot, _, told⟩
  cases slot with
  | live slot => simp [PeerSlot.teardown, PeerSlot.retirement] at told
  | nat slot => cases told
  | stub peer => cases told

variable {region : PeersRegion} (reply : region.Reply)

/-- What a region closes besides is no session of an owner, and a keepalive
only of a connection whose generation is spent unplaced. -/
theorem count_closes (generation : Nat) :
    (region.closes reply).count (.keepaliveAborted generation) +
        (placements [⟨.peers region, reply⟩]).count generation ≤
      (spendings [⟨.peers region, reply⟩]).count generation := by
  cases region with
  | admitLive peerId remote link drawn =>
      cases reply with
      | error kind =>
          simp only [PeersRegion.closes, placements, spendings, List.filterMap_cons, places, spends,
            List.filterMap_nil, List.count_nil, List.count_cons, Nat.add_zero]
          simp
      | ok superseded =>
          exact Nat.le_of_eq (Nat.zero_add _)
  | insertLive peerId remote link drawn => exact Nat.le_of_eq (Nat.zero_add _)
  | removeIfGeneration peerId asked =>
      cases reply with
      | none => exact Nat.le_refl 0
      | some slot => exact Nat.le_refl 0
  | _ => exact Nat.le_refl 0

theorem count_closes_notice (session : SessionId) :
    (region.closes reply).count (.noticeFired session) = 0 := by
  rw [List.count_eq_zero]
  intro member
  cases region with
  | admitLive peerId remote link drawn =>
      cases reply with
      | error kind => simp [PeersRegion.closes] at member
      | ok superseded => cases member
  | removeIfGeneration peerId asked =>
      cases reply with
      | none => cases member
      | some slot => simp [PeersRegion.closes] at member
  | _ => cases member

/-- What a region retires, it retires by the effects meant for it, except that
the listener gives no notice. -/
theorem count_retires {effect : Effect} (silent : forall session, effect ≠ .noticeFired session)
    (slots : List PeerSlot) :
    (slots.flatMap region.retires).count effect = slots.countP effect.retiresSlot := by
  cases region with
  | insertLive peerId remote link drawn => exact count_teardown silent slots
  | _ => exact count_retirement effect slots

theorem replaced_le_obliged {effect : Effect} (silent : forall session, effect ≠ .noticeFired session) :
    (region.replaced reply).countP effect.retiresSlot ≤ (region.obliges reply).count effect := by
  rw [PeersRegion.obliges, List.count_append, List.count_append, count_retires silent]
  omega

/-- Keepalives are aborted of slots that have left, or of connections never placed. -/
theorem aborted_le (generation : Nat) :
    (region.obliges reply).count (.keepaliveAborted generation) +
        (placements [⟨.peers region, reply⟩]).count generation ≤
      (departedBy ⟨.peers region, reply⟩).countP (PeerSlot.isLiveOf generation) +
        (spendings [⟨.peers region, reply⟩]).count generation := by
  have closed := count_closes reply generation
  have silent : forall session, Effect.keepaliveAborted generation ≠ .noticeFired session :=
    fun session same => by cases same
  rw [PeersRegion.obliges, List.count_append, List.count_append, count_retires silent,
    count_teardown silent]
  have departed : (region.replaced reply).countP (PeerSlot.isLiveOf generation) +
      (region.relinquished reply).countP (PeerSlot.isLiveOf generation) ≤
        (departedBy ⟨.peers region, reply⟩).countP (PeerSlot.isLiveOf generation) := by
    rw [<- List.countP_append]
    cases region with
    | removeIfGeneration peerId asked =>
        cases reply with
        | none => exact Nat.le_refl 0
        | some slot => exact Nat.zero_le _
    | _ => exact Nat.le_refl _
  simp only [Effect.retiresSlot]
  omega

omit region in
theorem count_retires_le (past : List (System.Deed Action Action.Reply)) {effect : Effect}
    (silent : forall session, effect ≠ .noticeFired session) :
    (replacedSlots past).countP effect.retiresSlot ≤ (obligedEffects past).count effect := by
  induction past with
  | nil => exact Nat.le_refl 0
  | cons deed rest inner =>
      rw [replacedSlots, List.flatMap_cons, List.countP_append, obligedEffects, List.flatMap_cons,
        List.count_append]
      have first : (replacedBy deed).countP effect.retiresSlot ≤ (obligedBy deed).count effect := by
        rcases deed with ⟨action, reply⟩
        cases action with
        | peers region => exact replaced_le_obliged reply silent
        | _ => exact Nat.le_refl 0
      exact Nat.add_le_add first inner

theorem count_aborted_le (past : List (System.Deed Action Action.Reply)) (generation : Nat) :
    (obligedEffects past).count (.keepaliveAborted generation) +
        (placements past).count generation ≤
      (departedSlots past).countP (PeerSlot.isLiveOf generation) +
        (spendings past).count generation := by
  induction past with
  | nil => exact Nat.le_refl 0
  | cons deed rest inner =>
      have first : (obligedBy deed).count (.keepaliveAborted generation) +
          (placements [deed]).count generation ≤
            (departedBy deed).countP (PeerSlot.isLiveOf generation) +
              (spendings [deed]).count generation := by
        rcases deed with ⟨action, reply⟩
        cases action with
        | peers region => exact aborted_le reply generation
        | _ => exact Nat.le_refl 0
      have place : placements (deed :: rest) = placements [deed] ++ placements rest :=
        @List.filterMap_append _ _ [deed] rest places
      have spend : spendings (deed :: rest) = spendings [deed] ++ spendings rest :=
        @List.filterMap_append _ _ [deed] rest spends
      rw [obligedEffects, List.flatMap_cons, List.count_append, place, spend, departedSlots,
        List.flatMap_cons, List.countP_append, List.count_append, List.count_append]
      simp only [obligedEffects, departedSlots] at inner
      omega

/-- A listener's insertion that replaced no session with an owner. -/
def toldBy : System.Deed Action Action.Reply -> Bool
  | ⟨.peers (.insertLive _ _ _ _), superseded⟩ => superseded.all fun slot => !slot.hasOwner
  | _ => true

/-- Where the listener replaced no session with an owner, every owner is told. -/
theorem count_notices {past : List (System.Deed Action Action.Reply)}
    (told : ∀ deed ∈ past, toldBy deed = true) (session : SessionId) :
    (obligedEffects past).count (.noticeFired session) =
      (replacedSlots past).countP (PeerSlot.isObserved session) := by
  induction past with
  | nil => rfl
  | cons deed rest inner =>
      rw [replacedSlots, List.flatMap_cons, List.countP_append, obligedEffects, List.flatMap_cons,
        List.count_append]
      have later := inner fun other member => told other (List.mem_cons_of_mem deed member)
      rw [obligedEffects, replacedSlots] at later
      rw [later]
      congr 1
      have here := told deed List.mem_cons_self
      rcases deed with ⟨action, reply⟩
      cases action with
      | peers region =>
          simp only [obligedBy, replacedBy, PeersRegion.obliges]
          rw [List.count_append, List.count_append, count_teardown_notice, count_closes_notice]
          cases region with
          | insertLive peerId remote link drawn =>
              have none : (PeersRegion.replaced (.insertLive peerId remote link drawn) reply).countP
                  (PeerSlot.isObserved session) = 0 := by
                apply List.countP_eq_zero.mpr
                intro slot member observed
                cases reply with
                | none => cases member
                | some stale =>
                    cases List.mem_singleton.mp member
                    rcases slot with peer | live | ⟨conn, _, _, _, _⟩
                    · cases observed
                    · cases observed
                    · cases conn with
                      | observed owner => cases here
                      | owned owner => simp [PeerSlot.isObserved] at observed
              rw [none]
              exact count_teardown_notice session _
          | _ => exact count_retirement (.noticeFired session) _
      | _ => rfl

end Effects

/-! ## The accounts -/

/-- The accounts while operations are under way. -/
structure Accounted (past : List (System.Deed Action Action.Reply)) (s : ServiceState)
    (owed : Multiset Duty) : Prop where
  drawnOnce : DrawnOnce past s owed
  conserved : forall generation, heldCount generation s.peers +
    (departedSlots past).countP (PeerSlot.isLiveOf generation) = (placements past).count generation
  done : forall effect, (forall link, effect ≠ .linkClosed link) ->
    s.effects.count effect + owed.count (.effect effect) = (obligedEffects past).count effect
  closed : forall link, (obligedEffects past).count (.linkClosed link) ≤
    s.effects.count (.linkClosed link) + owed.count (.effect (.linkClosed link))
  told : ∀ deed ∈ past, toldBy deed = true

section Accounts

variable {past : List (System.Deed Action Action.Reply)} {order : PeerId -> Nat} {action : Action}
  {s : ServiceState} {others : Multiset Duty} {contract : Contract}

theorem count_effects (effect : Effect) :
    (exec order action s).1.effects.count effect =
      s.effects.count effect + action.ends.count (.effect effect) := by
  cases action with
  | effect done =>
      have written : (exec order (.effect done) s).1.effects = s.effects ++ [done] := rfl
      have single : Action.ends (.effect done) = {.effect done} := rfl
      rw [written, single, List.count_append, List.count_singleton, Multiset.count_singleton]
      by_cases same : done = effect
      · simp [same]
      · have apart : Duty.effect effect ≠ Duty.effect done :=
          fun equal => same (Duty.effect.inj equal).symm
        rw [if_neg apart, if_neg (by simpa using same)]
  | peers region =>
      have none : Duty.effect effect ∉ Action.ends (.peers region) := by
        intro member
        have ended := Duty.endedBy_of_mem member
        cases region <;> cases ended
      rw [Multiset.count_eq_zero_of_notMem none]
      rfl
  | tryAcquirePermit =>
      simp only [exec]
      split
      · rfl
      · rfl
  | _ =>
      rw [Multiset.count_eq_zero_of_notMem fun member => by cases Duty.endedBy_of_mem member]
      rfl

theorem count_begins (reply : action.Reply) (effect : Effect) :
    (action.begins reply).count (.effect effect) =
      (obligedBy ⟨action, reply⟩).count effect := by
  cases action with
  | peers region =>
      simp only [Action.begins, effectDuties, obligedBy, Multiset.coe_count]
      exact List.count_map_of_injective _ _ (fun _ _ same => Duty.effect.inj same) _
  | _ =>
      rw [Multiset.count_eq_zero_of_notMem fun member => by cases Duty.begunBy_of_mem member]
      rfl

theorem conserved_exec {generation : Nat} (conserved : heldCount generation s.peers +
      (departedSlots past).countP (PeerSlot.isLiveOf generation) =
        (placements past).count generation) :
    heldCount generation (exec order action s).1.peers +
        (departedSlots (past ++ [⟨action, (exec order action s).2⟩])).countP
          (PeerSlot.isLiveOf generation) =
      (placements (past ++ [⟨action, (exec order action s).2⟩])).count generation := by
  rw [departedSlots_append, List.countP_append, placements, List.filterMap_append,
    List.count_append]
  cases action with
  | peers region =>
      have step := (s.within_step order region).conserves generation
      simp only [exec, ServiceState.unlock, placements] at step conserved ⊢
      omega
  | tryAcquirePermit =>
      simp only [exec]
      split
      · exact conserved
      · exact conserved
  | _ => exact conserved

theorem Accounted.exec (accounted : Accounted past s (others + contract.owed))
    (due : contract.DueOfAll action) (tells : tellsOwners order action s = true) :
    Accounted (past ++ [⟨action, (exec order action s).2⟩]) (exec order action s).1
      (others + (contract.settle action (exec order action s).2).owed) where
  drawnOnce := accounted.drawnOnce.exec due
  conserved generation := conserved_exec (accounted.conserved generation)
  done effect other := by
    have linked : forall link, Duty.effect effect ≠ .effect (.linkClosed link) :=
      fun link same => other link (Duty.effect.inj same)
    have moved := @count_settled others contract action (Service.exec order action s).2
      (.effect effect) due linked
    have before := accounted.done effect other
    rw [count_begins] at moved
    rw [count_effects, obligedEffects_append, List.count_append]
    omega
  closed link := by
    have moved := @count_settled_le others contract action (Service.exec order action s).2
      (.effect (.linkClosed link))
    have before := accounted.closed link
    rw [count_begins] at moved
    rw [count_effects, obligedEffects_append, List.count_append]
    omega
  told := by
    intro deed member
    rcases List.mem_append.mp member with old | new
    · exact accounted.told deed old
    · rw [List.mem_singleton.mp new]
      cases action with
      | peers region =>
          cases region with
          | insertLive peerId remote link drawn => exact tells
          | _ => rfl
      | _ => rfl

/-- When nothing is owed every replaced slot has been retired. -/
theorem Accounted.retired (accounted : Accounted past s 0) : SupersededAreRetired past s where
  notices session := by
    have done := accounted.done (.noticeFired session) fun link same => by cases same
    rw [Multiset.count_zero, Nat.add_zero] at done
    rw [done]
    exact count_notices accounted.told session
  keepalives slot member := by
    have silent : forall session, Effect.keepaliveAborted slot.generation ≠ .noticeFired session :=
      fun session same => by cases same
    have done := accounted.done (.keepaliveAborted slot.generation) fun link same => by cases same
    rw [Multiset.count_zero, Nat.add_zero] at done
    have replaced : 0 < (replacedSlots past).countP (PeerSlot.isLiveOf slot.generation) :=
      List.countP_pos_iff.mpr ⟨_, member, beq_self_eq_true slot.generation⟩
    have least := count_retires_le past silent
    have most := count_aborted_le past slot.generation
    have conserved := accounted.conserved slot.generation
    have once := accounted.drawnOnce.once slot.generation
    simp only [Effect.retiresSlot] at least
    omega
  links link := by
    have silent : forall session, Effect.linkClosed link ≠ .noticeFired session :=
      fun session same => by cases same
    have closed := accounted.closed link
    rw [Multiset.count_zero, Nat.add_zero] at closed
    exact Nat.le_trans (count_retires_le past silent) closed

end Accounts

/-- Along every run in which the listener replaces no session that has an owner
to be told, once the operations have completed every replaced slot is retired
as its kind demands, once, and nobody else is told. -/
theorem superseded_are_retired (launch : Launch) (moves : List ServiceMove)
    (tells : launch.allows tellsOwners moves = true)
    (settled : (launch.after moves).settled = true) :
    SupersededAreRetired (launch.trace moves) (launch.after moves).shared := by
  have start : Accounted [] launch.world.shared 0 := by
    constructor
    · exact ⟨fun _ => Nat.zero_le 1, fun _ positive => by cases positive⟩
    · intro generation
      have none : heldCount generation (∅ : Peers) = 0 := FiniteMap.countWhere_empty _
      exact none
    · exact fun _ _ => rfl
    · exact fun _ => Nat.le_refl 0
    · exact fun _ member => by cases member
  have balanced : DutiesBalanced (fun _ _ => True) Accounted (launch.trace moves)
      (launch.after moves) := by
    refine duties_balanced (fun _ => trivial) (fun _ _ _ _ _ _ => trivial)
      (fun _ _ _ _ _ _ => trivial) ?_ start tells
    intro past order action s others contract allowed _ due accounted
    exact accounted.exec due allowed
  exact (balanced.settled settled).retired

namespace Example

/-- A peer's session is adopted, owned by whoever accepted it, and the peer then
connects to the listener. -/
def adoptedThenAccepted : List ServiceMove :=
  inSequence 20 [
    .adoptDirectInboundHandle 1 (host 10 1) .direct 7 none,
    .acceptInbound (host 10 2) (some { peerId := 1, link := 5, negotiated := true })]

/-- The peer is dialed instead, and accepted when it holds a live slot. -/
def adoptedThenDialed : List ServiceMove :=
  inSequence 20 [
    .adoptDirectInboundHandle 1 (host 10 1) .direct 7 none, connected 1 (host 10 2),
    .acceptInbound (host 10 2) (some { peerId := 1, link := 5, negotiated := true })]

end Example

theorem superseded_are_retired_dialed :
    SupersededAreRetired (Example.launch.trace Example.adoptedThenDialed)
      (Example.launch.after Example.adoptedThenDialed).shared :=
  superseded_are_retired Example.launch Example.adoptedThenDialed (by decide +kernel)
    (by decide +kernel)

theorem superseded_are_retired_fails :
    ¬ forall (launch : Launch) (moves : List ServiceMove),
      (launch.after moves).settled = true ->
      SupersededAreRetired (launch.trace moves) (launch.after moves).shared := by
  intro always
  have retired := always Example.launch Example.adoptedThenAccepted (by decide +kernel)
  have told := retired.notices 7
  revert told
  decide +kernel

end Service
end DigGossip
