import DigGossip.Service.Ledger

namespace DigGossip
namespace Service

open Foundations DigGossip.Types

/-!
# Membership of the broadcast tree

The tree follows the peer map by one adjustment after each region.  A held peer
is in the tree or about to join it, and a peer in the tree is held or about to
leave it.  The rule is lost where a region changes the map and no adjustment
follows, and where an adjustment comes too late for the map it was decided on.
-/

/-- The peers of the tree, eager or lazy. -/
def PlumtreeState.members (tree : PlumtreeState) : Finset PeerId :=
  tree.eagerPeers ∪ tree.lazyPeers

section Members

variable (tree : PlumtreeState) (peerId other : PeerId)

@[simp] theorem mem_members_addPeer :
    other ∈ (tree.addPeer peerId).members ↔ other = peerId ∨ other ∈ tree.members := by
  simp [PlumtreeState.members, PlumtreeState.addPeer]

@[simp] theorem mem_members_removePeer :
    other ∈ (tree.removePeer peerId).members ↔ other ≠ peerId ∧ other ∈ tree.members := by
  simp [PlumtreeState.members, PlumtreeState.removePeer, and_or_left]

@[simp] theorem mem_members_demoteToLazy :
    other ∈ (tree.demoteToLazy peerId).members ↔ other = peerId ∨ other ∈ tree.members := by
  by_cases same : other = peerId <;>
    simp [PlumtreeState.members, PlumtreeState.demoteToLazy, same]

@[simp] theorem mem_members_promoteToEager :
    other ∈ (tree.promoteToEager peerId).members ↔ other = peerId ∨ other ∈ tree.members := by
  by_cases same : other = peerId <;>
    simp [PlumtreeState.members, PlumtreeState.promoteToEager, same]

end Members

/-- The tree follows the held set up to the adjustments owed. -/
structure Follows (tree : PlumtreeState) (held : Finset PeerId) (debts : Ledger) : Prop where
  apart : Disjoint tree.eagerPeers tree.lazyPeers
  joined : ∀ peerId ∈ held, peerId ∈ tree.members ∨ .join peerId ∈ debts
  left : ∀ peerId ∈ tree.members, peerId ∈ held ∨ .leave peerId ∈ debts

/-- Every held peer is in exactly one set of the tree, and no other peer is in either. -/
def MembersAreHeld (s : ServiceState) : Prop :=
  (∀ peerId ∈ s.peers.keys,
      Xor (peerId ∈ s.plumtree.eagerPeers) (peerId ∈ s.plumtree.lazyPeers)) ∧
    forall peerId, s.peers.lookup peerId = none ->
      peerId ∉ s.plumtree.eagerPeers ∧ peerId ∉ s.plumtree.lazyPeers

namespace Follows

variable {tree : PlumtreeState} {held : Finset PeerId} {debts : Ledger}

theorem start : Follows .new ∅ 0 where
  apart := Finset.disjoint_empty_left _
  joined := by simp
  left := by simp [PlumtreeState.members, PlumtreeState.new]

/-- The held set may change where the tree or the debts account for it. -/
theorem change (follows : Follows tree held debts) {now : Finset PeerId} {more : Ledger}
    (kept : ∀ debt ∈ debts, debt ∈ more)
    (entered : ∀ peerId ∈ now, peerId ∈ held ∨ peerId ∈ tree.members ∨ .join peerId ∈ more)
    (gone : ∀ peerId ∈ held, peerId ∈ now ∨ peerId ∉ tree.members ∨ .leave peerId ∈ more) :
    Follows tree now more where
  apart := follows.apart
  joined := by
    intro peerId isHeld
    rcases entered peerId isHeld with before | inTree | owes
    · exact (follows.joined peerId before).imp_right (kept _)
    · exact Or.inl inTree
    · exact Or.inr owes
  left := by
    intro peerId inTree
    rcases follows.left peerId inTree with before | owes
    · rcases gone peerId before with still | outside | owes
      · exact Or.inl still
      · exact absurd inTree outside
      · exact Or.inr owes
    · exact Or.inr (kept _ owes)

theorem widen (follows : Follows tree held debts) {more : Ledger}
    (kept : ∀ debt ∈ debts, debt ∈ more) : Follows tree held more :=
  follows.change kept (fun _ isHeld => Or.inl isHeld) fun _ isHeld => Or.inl isHeld

/-- A peer that is held from now on is in the tree or will be. -/
theorem enter (follows : Follows tree held debts) {peerId : PeerId}
    (accounted : peerId ∈ held ∨ peerId ∈ tree.members ∨ .join peerId ∈ debts) :
    Follows tree (insert peerId held) debts := by
  apply follows.change (fun _ owes => owes)
  · intro other isHeld
    rcases Finset.mem_insert.mp isHeld with rfl | before
    · exact accounted
    · exact Or.inl before
  · intro other isHeld
    exact Or.inl (Finset.mem_insert_of_mem isHeld)

/-- A peer that is held no longer is not in the tree or will not be. -/
theorem depart (follows : Follows tree held debts) {peerId : PeerId}
    (accounted : peerId ∉ tree.members ∨ .leave peerId ∈ debts) :
    Follows tree (held.erase peerId) debts := by
  apply follows.change (fun _ owes => owes)
  · intro other isHeld
    exact Or.inl (Finset.mem_of_mem_erase isHeld)
  · intro other isHeld
    by_cases gone : other = peerId
    · subst gone
      exact Or.inr accounted
    · exact Or.inl (Finset.mem_erase.mpr ⟨gone, isHeld⟩)

/-- Debts that nobody relies on may go. -/
theorem pay (follows : Follows tree held debts) {paid : Ledger}
    (joins : forall peerId, .join peerId ∈ debts -> .join peerId ∈ paid)
    (leaves : forall peerId, peerId ∉ held -> .leave peerId ∈ debts -> .leave peerId ∈ paid) :
    Follows tree held paid where
  apart := follows.apart
  joined := fun peerId isHeld => (follows.joined peerId isHeld).imp_right (joins peerId)
  left := by
    intro peerId inTree
    by_cases isHeld : peerId ∈ held
    · exact Or.inl isHeld
    · exact (follows.left peerId inTree).imp_right (leaves peerId isHeld)

theorem addPeer (follows : Follows tree held debts) {peerId : PeerId} {paid : Ledger}
    (kept : ∀ debt ∈ debts, debt ≠ .join peerId -> debt ∈ paid) (notLazy : peerId ∉ tree.lazyPeers)
    (member : peerId ∈ held ∨ peerId ∈ tree.members) :
    Follows (tree.addPeer peerId) held paid where
  apart := Finset.disjoint_insert_left.mpr ⟨notLazy, follows.apart⟩
  joined := by
    intro other isHeld
    rw [mem_members_addPeer]
    by_cases same : other = peerId
    · exact Or.inl (Or.inl same)
    · rcases follows.joined other isHeld with inTree | owes
      · exact Or.inl (Or.inr inTree)
      · exact Or.inr (kept _ owes (by simpa using same))
  left := by
    have leaves : ∀ other ∈ tree.members, other ∈ held ∨ .leave other ∈ paid := fun other inTree =>
      (follows.left other inTree).imp_right fun owes => kept _ owes (by simp)
    intro other inTree
    rcases (mem_members_addPeer tree peerId other).mp inTree with rfl | before
    · exact member.elim Or.inl (leaves other)
    · exact leaves other before

/-- A peer that is not both held and in the tree may be taken out of the tree. -/
theorem removePeer (follows : Follows tree held debts) {peerId : PeerId} {paid : Ledger}
    (kept : ∀ debt ∈ debts, debt ≠ .leave peerId -> debt ∈ paid)
    (outside : peerId ∉ held ∨ peerId ∉ tree.members) :
    Follows (tree.removePeer peerId) held paid where
  apart := follows.apart.mono (Finset.erase_subset _ _) (Finset.erase_subset _ _)
  joined := by
    intro other isHeld
    rw [mem_members_removePeer]
    rcases follows.joined other isHeld with inTree | owes
    · refine Or.inl ⟨?_, inTree⟩
      rintro rfl
      exact outside.elim (absurd isHeld) (absurd inTree)
    · exact Or.inr (kept _ owes (by simp))
  left := by
    intro other inTree
    rcases (mem_members_removePeer tree peerId other).mp inTree with ⟨different, before⟩
    exact (follows.left other before).imp_right fun owes => kept _ owes (by simpa using different)

/-- A move between the two sets keeps the members, or adds one that is held. -/
theorem move (follows : Follows tree held debts) {peerId : PeerId} {moved : PlumtreeState}
    (apart : Disjoint moved.eagerPeers moved.lazyPeers)
    (members : forall other, other ∈ moved.members ↔ other = peerId ∨ other ∈ tree.members)
    (member : peerId ∈ held ∨ peerId ∈ tree.members) : Follows moved held debts where
  apart := apart
  joined := by
    intro other isHeld
    rw [members]
    exact (follows.joined other isHeld).imp_left Or.inr
  left := by
    intro other inTree
    rcases (members other).mp inTree with rfl | before
    · exact member.elim Or.inl (follows.left other)
    · exact follows.left other before

end Follows

theorem apart_demoteToLazy {tree : PlumtreeState} (apart : Disjoint tree.eagerPeers tree.lazyPeers)
    (peerId : PeerId) :
    Disjoint (tree.demoteToLazy peerId).eagerPeers (tree.demoteToLazy peerId).lazyPeers :=
  Finset.disjoint_insert_right.mpr
    ⟨Finset.notMem_erase _ _, apart.mono_left (Finset.erase_subset _ _)⟩

theorem apart_promoteToEager {tree : PlumtreeState}
    (apart : Disjoint tree.eagerPeers tree.lazyPeers) (peerId : PeerId) :
    Disjoint (tree.promoteToEager peerId).eagerPeers (tree.promoteToEager peerId).lazyPeers :=
  Finset.disjoint_insert_left.mpr
    ⟨Finset.notMem_erase _ _, apart.mono_right (Finset.erase_subset _ _)⟩

/-- Paying one debt leaves the others. -/
theorem mem_add_erase {others ledger : Ledger} {debt paid : Debt} (owes : debt ∈ others + ledger)
    (different : debt ≠ paid) : debt ∈ others + ledger.erase paid := by
  rw [Multiset.mem_add, Multiset.mem_erase_of_ne different, <- Multiset.mem_add]
  exact owes

/-! ## Regions and adjustments -/

theorem leave_mem_reapDebts {departed : List PeerId} {peerId : PeerId} (member : peerId ∈ departed) :
    Debt.leave peerId ∈ reapDebts departed := by
  induction departed with
  | nil => cases member
  | cons first rest inner =>
      rw [reapDebts, Multiset.mem_add]
      rcases List.mem_cons.mp member with rfl | later
      · exact Or.inl (by simp [departureDebts])
      · exact Or.inr (inner later)

/-- The peer holds a slot or is in the tree. -/
def isKnown (s : ServiceState) (peerId : PeerId) : Bool :=
  (s.peers.lookup peerId).isSome || decide (peerId ∈ s.plumtree.members)

/-- The change of the map is one the operation adjusts the tree for, or none is needed. -/
def PeersRegion.isAdjusted (s : ServiceState) : (region : PeersRegion) -> region.Reply -> Bool
  | insertLive peerId _ _ _, _ => isKnown s peerId
  | removeForBan peerId _, removed =>
      removed.all Option.isNone || decide (peerId ∉ s.plumtree.members)
  | removeIfGeneration peerId _, removed =>
      removed.isNone || decide (peerId ∉ s.plumtree.members)
  | _, _ => true

/-- The adjustment is still right for the map it meets. -/
def TreeChange.isTimely (s : ServiceState) (peerId : PeerId) : TreeChange -> Bool
  | addPeer => isKnown s peerId && decide (peerId ∉ s.plumtree.lazyPeers)
  | removePeer => (s.peers.lookup peerId).isNone || decide (peerId ∉ s.plumtree.members)
  | demoteToLazy => isKnown s peerId
  | promoteToEager => isKnown s peerId

/-- Each region is followed by its adjustment, and each adjustment is timely. -/
def adjustsTree (order : PeerId -> Nat) : Action -> ServiceState -> Bool
  | .peers region, s => region.isAdjusted s (s.within order region).2
  | .tree change peerId, s => change.isTimely s peerId
  | _, _ => true

section Regions

variable {s : ServiceState} {order : PeerId -> Nat} {debts : Ledger}

theorem isKnown_iff {peerId : PeerId} :
    isKnown s peerId = true ↔ peerId ∈ s.peers.keys ∨ peerId ∈ s.plumtree.members := by
  rw [isKnown, Bool.or_eq_true, decide_eq_true_eq, FiniteMap.mem_keys_iff]

/-- A region that is adjusted for leaves a tree that lags by what its operation now owes. -/
theorem Follows.region (follows : Follows s.plumtree s.peers.keys debts) {region : PeersRegion}
    {after : Peers} {reply : region.Reply} (step : RegionStep s order region after reply)
    (adjusted : region.isAdjusted s reply = true) :
    Follows s.plumtree after.keys (region.debts reply + debts) := by
  have same : Follows s.plumtree s.peers.keys (region.debts reply + debts) :=
    follows.widen fun debt owes => Multiset.mem_add.mpr (Or.inr owes)
  have admitted : forall peerId slot, .join peerId ∈ region.debts reply ->
      Follows s.plumtree (s.peers.insert peerId slot).keys (region.debts reply + debts) := by
    intro peerId slot owes
    rw [FiniteMap.keys_insert]
    exact same.enter (Or.inr (Or.inr (Multiset.mem_add.mpr (Or.inl owes))))
  have removed : forall peerId, peerId ∉ s.plumtree.members ∨ .leave peerId ∈ region.debts reply ->
      Follows s.plumtree (s.peers.erase peerId).keys (region.debts reply + debts) := by
    intro peerId accounted
    rw [Finmap.keys_erase]
    exact same.depart (accounted.imp_right fun owes => Multiset.mem_add.mpr (Or.inl owes))
  cases step with
  | read reads reply => exact same
  | looked peerId => exact same
  | liveRefused kind => exact same
  | liveAdmitted allowed => exact admitted _ _ (by simp [PeersRegion.debts, admissionDebts])
  | @tlsInserted peerId remote link generation =>
      rw [FiniteMap.keys_insert]
      exact same.enter ((isKnown_iff.mp adjusted).imp_right Or.inl)
  | natRefused error => exact same
  | @natAdmitted conn source room displaced allowed made =>
      cases made with
      | kept fits => exact admitted _ _ (by simp [PeersRegion.debts, admissionDebts])
      | @cycled victim slot unheld found =>
          rw [FiniteMap.keys_insert, Finmap.keys_erase]
          apply Follows.enter
          · apply same.depart
            exact Or.inr (by simp [PeersRegion.debts, displacementDebts, departureDebts])
          · exact Or.inr (Or.inr (by simp [PeersRegion.debts, admissionDebts]))
  | directRefused error => exact same
  | directAdopted allowed => exact admitted _ _ (by simp [PeersRegion.debts, admissionDebts])
  | relayedRefused error => exact same
  | relayedAdopted allowed => exact admitted _ _ (by simp [PeersRegion.debts, admissionDebts])
  | sinkRefused => exact same
  | sinkSet found =>
      rw [FiniteMap.keys_insert, Finset.insert_eq_of_mem (FiniteMap.mem_of_lookup found)]
      exact same
  | removedNothing unheld => exact same
  | removed found => exact removed _ (Or.inr (by simp [PeersRegion.debts, departureDebts]))
  | reaped =>
      rw [FiniteMap.keys_retain]
      apply same.change (fun debt owes => owes)
      · intro other isHeld
        exact Or.inl (Finset.mem_sdiff.mp isHeld).1
      · intro other isHeld
        by_cases gone : other ∈ FiniteMap.keysWhere s.peers fun _ slot => s.slotIsDeparted slot
        · refine Or.inr (Or.inr (Multiset.mem_add.mpr (Or.inl ?_)))
          exact leave_mem_reapDebts (mem_listing.mpr gone)
        · exact Or.inl (Finset.mem_sdiff.mpr ⟨isHeld, gone⟩)
  | banSuperseded => exact same
  | @banRemoved peerId callerGeneration =>
      simp only [PeersRegion.isAdjusted, Option.all_some, Bool.or_eq_true,
        decide_eq_true_eq] at adjusted
      rcases adjusted with unheld | outside
      · rw [Finmap.keys_erase, Finset.erase_eq_of_notMem
          (FiniteMap.not_mem_keys_iff.mpr (Option.isNone_iff_eq_none.mp unheld))]
        exact same
      · exact removed peerId (Or.inl outside)
  | keepaliveSuperseded => exact same
  | @keepaliveRemoved peerId generation slot found =>
      simp only [PeersRegion.isAdjusted, Option.isNone_some, Bool.false_or,
        decide_eq_true_eq] at adjusted
      exact removed peerId (Or.inl adjusted)

/-- One adjusted action keeps the tree following the map, and pays its operation's debts. -/
theorem Follows.exec {others ledger : Ledger}
    (follows : Follows s.plumtree s.peers.keys (others + ledger)) (action : Action)
    (adjusts : adjustsTree order action s = true) :
    Follows (exec order action s).1.plumtree (exec order action s).1.peers.keys
      (others + settle ledger action (exec order action s).2) := by
  cases action with
  | peers region =>
      have after := follows.region (s.within_step order region) adjusts
      rw [add_left_comm] at after
      cases region with
      | containsKey peerId =>
          cases held : (s.peers.lookup peerId).isSome with
          | false =>
              have still : settle ledger (.peers (.containsKey peerId)) false = ledger := rfl
              simp only [Service.exec, ServiceState.within, held, still]
              exact follows
          | true =>
              have paid : settle ledger (.peers (.containsKey peerId)) true =
                  ledger.erase (.leave peerId) := rfl
              simp only [Service.exec, ServiceState.within, held, paid]
              apply follows.pay
              · exact fun other owes => mem_add_erase owes (by simp)
              · intro other unheld owes
                apply mem_add_erase owes
                rintro ⟨rfl⟩
                exact unheld (FiniteMap.mem_keys_iff.mpr held)
      | _ => exact after
  | tree change peerId =>
      cases change with
      | addPeer =>
          have timely := Bool.and_eq_true_iff.mp adjusts
          exact follows.addPeer (fun debt => mem_add_erase) (of_decide_eq_true timely.2)
            (isKnown_iff.mp timely.1)
      | removePeer =>
          apply follows.removePeer fun debt => mem_add_erase
          have timely := Bool.or_eq_true_iff.mp adjusts
          refine timely.imp (fun unheld => ?_) of_decide_eq_true
          exact FiniteMap.not_mem_keys_iff.mpr (Option.isNone_iff_eq_none.mp unheld)
      | demoteToLazy =>
          exact follows.move (apart_demoteToLazy follows.apart peerId)
            (mem_members_demoteToLazy _ peerId) (isKnown_iff.mp adjusts)
      | promoteToEager =>
          exact follows.move (apart_promoteToEager follows.apart peerId)
            (mem_members_promoteToEager _ peerId) (isKnown_iff.mp adjusts)
  | sendEvent event =>
      cases event <;>
        exact follows.pay (fun other owes => mem_add_erase owes (by simp [PoolEvent.debt]))
          fun other _ owes => mem_add_erase owes (by simp [PoolEvent.debt])
  | tryAcquirePermit =>
      simp only [Service.exec]
      split
      · exact follows
      · exact follows
  | _ => exact follows

/-- Without debts the members are the held peers, each in one set. -/
theorem Follows.membersAreHeld (follows : Follows s.plumtree s.peers.keys 0) : MembersAreHeld s := by
  have apart := Finset.disjoint_left.mp follows.apart
  constructor
  · intro peerId isHeld
    rcases follows.joined peerId isHeld with inTree | owes
    · rcases Finset.mem_union.mp inTree with eager | lazy
      · exact Or.inl ⟨eager, apart eager⟩
      · exact Or.inr ⟨lazy, fun eager => apart eager lazy⟩
    · exact absurd owes (Multiset.notMem_zero _)
  · intro peerId unheld
    have outside : peerId ∉ s.plumtree.members := by
      intro inTree
      rcases follows.left peerId inTree with isHeld | owes
      · exact FiniteMap.not_mem_keys_iff.mpr unheld isHeld
      · exact Multiset.notMem_zero _ owes
    exact not_or.mp (mt Finset.mem_union.mpr outside)

end Regions

/-! ## Runs -/

/-- Along every run whose regions are adjusted for and whose adjustments are
timely, once all operations have completed every held peer is in exactly one
set of the tree and no other peer is in either. -/
theorem members_are_held (launch : Launch) (moves : List ServiceMove)
    (adjusts : launch.allows adjustsTree moves = true)
    (settled : (launch.after moves).settled = true) : MembersAreHeld (launch.after moves).shared := by
  have balanced : System.Balanced (fun _ _ => True) settle
      (fun s debts => Follows s.plumtree s.peers.keys debts) (launch.after moves) := by
    refine System.balanced_run ?_ (fun _ _ _ allowed => allowed) ?_ adjusts
      ⟨0, .nil, Follows.start⟩
    · exact fun w op _ => op.settles_unasked launch.config
    · exact fun order action s others ledger allowed _ follows => follows.exec action allowed
  exact (balanced.settled settled).membersAreHeld

namespace Example

/-- Two peers are dialed, one is demoted, and the other is disconnected. -/
def demotedAndLeft : List ServiceMove :=
  inSequence 20 [connected 1 (host 10 1), connected 2 (host 20 1), .demoteToLazy 1, .disconnect 2]

/-- One TLS session is accepted. -/
def acceptedOnly : List ServiceMove :=
  inSequence 20 [.acceptInbound (host 10 1) (some { peerId := 1, link := 1, negotiated := true })]

end Example

theorem members_are_held_demoted :
    MembersAreHeld (Example.launch.after Example.demotedAndLeft).shared :=
  members_are_held Example.launch Example.demotedAndLeft (by decide +kernel) (by decide +kernel)

theorem members_are_held_fails :
    ¬ forall (launch : Launch) (moves : List ServiceMove),
      (launch.after moves).settled = true -> MembersAreHeld (launch.after moves).shared := by
  intro always
  have members := (always Example.launch Example.acceptedOnly (by decide +kernel)).1
  have held : (Example.launch.after Example.acceptedOnly).shared.peers.lookup 1 =
      some (liveSlot (Example.host 10 1) false 1 0) := by decide +kernel
  have outside : (1 : PeerId) ∉ (Example.launch.after Example.acceptedOnly).shared.plumtree.members := by
    decide +kernel
  rcases members 1 (FiniteMap.mem_of_lookup held) with eager | lazy
  · exact outside (Finset.mem_union_left _ eager.1)
  · exact outside (Finset.mem_union_right _ lazy.1)

end Service
end DigGossip
