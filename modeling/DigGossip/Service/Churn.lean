import DigGossip.Service.Ledger

namespace DigGossip
namespace Service

open Foundations DigGossip.Types

/-!
# The churn stream

A subscriber folds the membership events into a set.  That set lags behind the
peer map by the announcements that are still owed: at most one for each peer,
and the one that closes the gap.  The rule is lost when the map changes at a
peer whose last change is not announced yet, when a change is never announced,
or when an addition is announced that was none.
-/

/-- What a subscriber holds after these events. -/
def view (events : List PoolEvent) : Finset PeerId :=
  events.foldl (fun seen event =>
    match event with
    | .peerAdded peerId _ => insert peerId seen
    | .peerRemoved peerId _ => seen.erase peerId) ∅

@[simp] theorem view_append_added (events : List PoolEvent) (peerId : PeerId) (addr : SocketAddr) :
    view (events ++ [.peerAdded peerId addr]) = insert peerId (view events) := by
  simp [view]

@[simp] theorem view_append_removed (events : List PoolEvent) (peerId : PeerId)
    (reason : PoolRemovalReason) :
    view (events ++ [.peerRemoved peerId reason]) = (view events).erase peerId := by
  simp [view]

/-- No peer is added that a subscriber already holds. -/
def AddedOnce (events : List PoolEvent) : Prop :=
  forall before peerId addr after, events = before ++ .peerAdded peerId addr :: after ->
    peerId ∉ view before

/-- The stream reflects the held set up to the announcements owed. -/
structure Reflects (held : Finset PeerId) (events : List PoolEvent) (debts : Ledger) : Prop where
  added : forall peerId, debts.count (.announceAdded peerId) =
    if peerId ∈ held ∧ peerId ∉ view events then 1 else 0
  removed : forall peerId, debts.count (.announceRemoved peerId) =
    if peerId ∉ held ∧ peerId ∈ view events then 1 else 0
  once : AddedOnce events

/-- An addition in a stream that ends with a removal is in the earlier part. -/
theorem addedOnce_split {events before after : List PoolEvent} {peerId other : PeerId}
    {addr : SocketAddr} {reason : PoolRemovalReason}
    (split : events ++ [.peerRemoved peerId reason] = before ++ .peerAdded other addr :: after) :
    exists rest, events = before ++ .peerAdded other addr :: rest := by
  rcases List.eq_nil_or_concat after with rfl | ⟨rest, last, rfl⟩
  · have lasts := congrArg List.getLast? split
    simp at lasts
  · refine ⟨rest, ?_⟩
    rw [List.concat_eq_append, <- List.cons_append, <- List.append_assoc] at split
    exact (List.append_inj' split rfl).1

namespace Reflects

variable {held : Finset PeerId} {events : List PoolEvent} {debts : Ledger}

theorem start : Reflects ∅ [] 0 where
  added := by simp
  removed := by simp [view]
  once := by
    intro before peerId addr after split
    cases before <;> cases split

/-- Without debts a subscriber holds what the map holds. -/
theorem view_eq (reflects : Reflects held events 0) : view events = held := by
  ext peerId
  have added := reflects.added peerId
  have removed := reflects.removed peerId
  by_cases isHeld : peerId ∈ held <;> by_cases seen : peerId ∈ view events <;>
    simp [isHeld, seen] at added removed ⊢

/-- Only the debts of announcements matter. -/
theorem congr (reflects : Reflects held events debts) {others : Ledger}
    (added : forall peerId, others.count (.announceAdded peerId) =
      debts.count (.announceAdded peerId))
    (removed : forall peerId, others.count (.announceRemoved peerId) =
      debts.count (.announceRemoved peerId)) : Reflects held events others where
  added := fun peerId => (added peerId).trans (reflects.added peerId)
  removed := fun peerId => (removed peerId).trans (reflects.removed peerId)
  once := reflects.once

/-- An unseen newcomer is owed one announcement. -/
theorem enter (reflects : Reflects held events debts) {peerId : PeerId} (fresh : peerId ∉ held)
    (unseen : peerId ∉ view events) :
    Reflects (insert peerId held) events (admissionDebts peerId + debts) where
  added := by
    intro other
    rw [Multiset.count_add, reflects.added other]
    by_cases same : other = peerId
    · subst same
      simp [admissionDebts, fresh, unseen]
    · simp [admissionDebts, same]
  removed := by
    intro other
    rw [Multiset.count_add, reflects.removed other]
    by_cases same : other = peerId
    · subst same
      simp [admissionDebts, unseen]
    · simp [admissionDebts, same]
  once := reflects.once

/-- A held peer the subscriber has seen is owed one announcement of its departure. -/
theorem depart (reflects : Reflects held events debts) {peerId : PeerId} (isHeld : peerId ∈ held)
    (seen : peerId ∈ view events) :
    Reflects (held.erase peerId) events (departureDebts peerId + debts) where
  added := by
    intro other
    rw [Multiset.count_add, reflects.added other]
    by_cases same : other = peerId
    · subst same
      simp [departureDebts, seen]
    · simp [departureDebts, same]
  removed := by
    intro other
    rw [Multiset.count_add, reflects.removed other]
    by_cases same : other = peerId
    · subst same
      simp [departureDebts, isHeld, seen]
    · simp [departureDebts, same]
  once := reflects.once

theorem departAll (reflects : Reflects held events debts) {departed : List PeerId}
    (distinct : departed.Nodup) (areHeld : ∀ peerId ∈ departed, peerId ∈ held)
    (seen : ∀ peerId ∈ departed, peerId ∈ view events) :
    Reflects (held \ departed.toFinset) events (reapDebts departed + debts) := by
  induction departed with
  | nil => simpa [reapDebts] using reflects
  | cons peerId rest inner =>
      have apart := List.nodup_cons.mp distinct
      have others := inner apart.2 (fun other later => areHeld other (List.mem_cons_of_mem _ later))
        (fun other later => seen other (List.mem_cons_of_mem _ later))
      have left : peerId ∈ held \ rest.toFinset := by
        simp [areHeld peerId List.mem_cons_self, apart.1]
      have gone := others.depart left (seen peerId List.mem_cons_self)
      rw [reapDebts, add_assoc, List.toFinset_cons, Finset.sdiff_insert]
      exact gone

theorem append_added (reflects : Reflects held events debts) {peerId : PeerId}
    (owes : .announceAdded peerId ∈ debts) (addr : SocketAddr) :
    Reflects held (events ++ [.peerAdded peerId addr]) (debts.erase (.announceAdded peerId)) := by
  have counted := reflects.added peerId
  have positive := Multiset.count_pos.mpr owes
  have gap : peerId ∈ held ∧ peerId ∉ view events := by
    by_contra none
    rw [if_neg none] at counted
    omega
  refine ⟨?_, ?_, ?_⟩
  · intro other
    by_cases same : other = peerId
    · subst same
      rw [Multiset.count_erase_self, counted]
      simp [gap]
    · rw [Multiset.count_erase_of_ne (by simp [same]), reflects.added other]
      simp [same]
  · intro other
    rw [Multiset.count_erase_of_ne (by simp), reflects.removed other]
    by_cases same : other = peerId
    · subst same
      simp [gap.1]
    · simp [same]
  · intro before other place after split
    rcases List.append_eq_append_iff.mp split with ⟨middle, start, finish⟩ | ⟨middle, start, finish⟩
    · cases middle with
      | nil =>
          rw [List.nil_append] at finish
          cases finish
          rw [start, List.append_nil]
          exact gap.2
      | cons head tail =>
          have short := congrArg List.length finish
          simp at short
    · cases middle with
      | nil =>
          rw [List.nil_append] at finish
          cases finish
          rw [List.append_nil] at start
          rw [<- start]
          exact gap.2
      | cons head tail =>
          rw [List.cons_append] at finish
          cases finish
          exact reflects.once before other place tail start

theorem append_removed (reflects : Reflects held events debts) {peerId : PeerId}
    (owes : .announceRemoved peerId ∈ debts) (reason : PoolRemovalReason) :
    Reflects held (events ++ [.peerRemoved peerId reason])
      (debts.erase (.announceRemoved peerId)) := by
  have counted := reflects.removed peerId
  have positive := Multiset.count_pos.mpr owes
  have gap : peerId ∉ held ∧ peerId ∈ view events := by
    by_contra none
    rw [if_neg none] at counted
    omega
  refine ⟨?_, ?_, ?_⟩
  · intro other
    rw [Multiset.count_erase_of_ne (by simp), reflects.added other]
    by_cases same : other = peerId
    · subst same
      simp [gap.1]
    · simp [same]
  · intro other
    by_cases same : other = peerId
    · subst same
      rw [Multiset.count_erase_self, counted]
      simp [gap]
    · rw [Multiset.count_erase_of_ne (by simp [same]), reflects.removed other]
      simp [same]
  · intro before other place after split
    rcases addedOnce_split split with ⟨rest, earlier⟩
    exact reflects.once before other place rest earlier

end Reflects

/-! ## Regions in step with the stream -/

/-- The region changes the map only at peers whose last change a subscriber has
seen, and its operation announces each change it makes. -/
def PeersRegion.changesInSync (seen : Finset PeerId) : (region : PeersRegion) -> region.Reply -> Bool
  | admitLive peerId _ _ _, .ok superseded => superseded.isNone && decide (peerId ∉ seen)
  | insertLive _ _ _ _, superseded => superseded.isSome
  | admitNat conn _, .ok admission =>
      admission.superseded.isNone && decide (conn.peerId ∉ seen) &&
        admission.displaced.all fun (victim, _) => decide (victim ∈ seen)
  | adoptDirectInbound session, .ok superseded =>
      superseded.isNone && decide (session.peerId ∉ seen)
  | adoptRelayedInbound session, .ok superseded =>
      superseded.isNone && decide (session.peerId ∉ seen)
  | remove peerId, removed => removed.isNone || decide (peerId ∈ seen)
  | reapDeparted, reaped => reaped.all fun peerId => decide (peerId ∈ seen)
  | removeForBan _ _, removed => removed.all Option.isNone
  | removeIfGeneration _ _, removed => removed.isNone
  | _, _ => true

/-- The events sent since the channel was opened. -/
def published (s : ServiceState) : List PoolEvent :=
  s.pool.eventsTx.getD []

/-- Each region entered changes the map in step with the stream. -/
def changesInSync (order : PeerId -> Nat) : Action -> ServiceState -> Bool
  | .peers region, s => region.changesInSync (view (published s)) (s.within order region).2
  | _, _ => true

section Regions

variable {s : ServiceState} {order : PeerId -> Nat} {events : List PoolEvent} {debts : Ledger}

theorem toFinset_listing (rank : PeerId -> Nat) (peerIds : Finset PeerId) :
    (listing rank peerIds).toFinset = peerIds := by
  ext peerId
  rw [List.mem_toFinset, mem_listing]

/-- A newcomer that a subscriber has not seen enters with its debts. -/
theorem Reflects.insert {peers : Peers} (reflects : Reflects peers.keys events debts)
    {peerId : PeerId} (fresh : (peers.lookup peerId).isNone = true)
    (unseen : peerId ∉ view events) (slot : PeerSlot) :
    Reflects (peers.insert peerId slot).keys events (admissionDebts peerId + debts) := by
  rw [FiniteMap.keys_insert]
  exact reflects.enter (FiniteMap.not_mem_keys_iff.mpr (Option.isNone_iff_eq_none.mp fresh)) unseen

theorem Reflects.replace {peers : Peers} (reflects : Reflects peers.keys events debts)
    {peerId : PeerId} (held : (peers.lookup peerId).isSome = true) (slot : PeerSlot) :
    Reflects (peers.insert peerId slot).keys events debts := by
  rw [FiniteMap.keys_insert, Finset.insert_eq_of_mem (FiniteMap.mem_keys_iff.mpr held)]
  exact reflects

theorem Reflects.remove {peers : Peers} (reflects : Reflects peers.keys events debts)
    {peerId : PeerId} {slot : PeerSlot} (found : peers.lookup peerId = some slot)
    (seen : peerId ∈ view events) :
    Reflects (peers.erase peerId).keys events (departureDebts peerId + debts) := by
  rw [Finmap.keys_erase]
  exact reflects.depart (FiniteMap.mem_of_lookup found) seen

/-- A region that changes the map in step leaves a stream that lags by what its
operation now owes. -/
theorem Reflects.region (reflects : Reflects s.peers.keys events debts) {region : PeersRegion}
    {after : Peers} {reply : region.Reply} (step : RegionStep s order region after reply)
    (sync : region.changesInSync (view events) reply = true) :
    Reflects after.keys events (region.debts reply + debts) := by
  have still : Reflects s.peers.keys events (0 + debts) := by rwa [zero_add]
  cases step with
  | read reads reply =>
      have quiet : region.debts reply = 0 := by
        cases region <;> first | rfl | cases reads
      rw [quiet]
      exact still
  | looked peerId => exact still
  | liveRefused kind => exact still
  | liveAdmitted allowed =>
      simp only [PeersRegion.changesInSync, Bool.and_eq_true, decide_eq_true_eq] at sync
      exact reflects.insert sync.1 sync.2 _
  | tlsInserted => exact still.replace sync _
  | natRefused error => exact still
  | @natAdmitted conn source room displaced allowed made =>
      simp only [PeersRegion.changesInSync, Bool.and_eq_true, decide_eq_true_eq] at sync
      rcases sync with ⟨⟨fresh, unseen⟩, cycled⟩
      have roomy : Reflects room.keys events (displacementDebts displaced + debts) := by
        cases made with
        | kept fits => exact still
        | cycled unheld found =>
            exact reflects.remove found (of_decide_eq_true cycled)
      have entered := roomy.insert fresh unseen conn.slot
      rw [<- add_assoc] at entered
      exact entered
  | directRefused error => exact still
  | directAdopted allowed =>
      simp only [PeersRegion.changesInSync, Bool.and_eq_true, decide_eq_true_eq] at sync
      exact reflects.insert sync.1 sync.2 _
  | relayedRefused error => exact still
  | relayedAdopted allowed =>
      simp only [PeersRegion.changesInSync, Bool.and_eq_true, decide_eq_true_eq] at sync
      exact reflects.insert sync.1 sync.2 _
  | sinkRefused => exact still
  | sinkSet found =>
      exact still.replace (Option.isSome_of_eq_some found) _
  | @removedNothing peerId unheld =>
      apply reflects.congr <;> intro other <;> simp [PeersRegion.debts]
  | removed found =>
      simp only [PeersRegion.changesInSync, Option.isNone_some, Bool.false_or,
        decide_eq_true_eq] at sync
      exact reflects.remove found sync
  | reaped =>
      simp only [PeersRegion.changesInSync, List.all_eq_true, decide_eq_true_eq] at sync
      have departed := reflects.departAll (nodup_listing order _)
        (fun peerId member => by
          rcases FiniteMap.mem_keysWhere.mp (mem_listing.mp member) with ⟨slot, found, _⟩
          exact FiniteMap.mem_of_lookup found)
        sync
      rw [toFinset_listing, <- FiniteMap.keys_retain] at departed
      exact departed
  | banSuperseded => exact still
  | @banRemoved peerId callerGeneration =>
      have unheld : s.peers.lookup peerId = none := Option.isNone_iff_eq_none.mp sync
      rw [Finmap.keys_erase, Finset.erase_eq_of_notMem (FiniteMap.not_mem_keys_iff.mpr unheld)]
      exact still
  | keepaliveSuperseded => exact still
  | keepaliveRemoved found => cases sync

/-- One action in step with the stream keeps it, and pays its operation's debts. -/
theorem Reflects.exec {others ledger : Ledger} (opened : s.pool.eventsTx = some events)
    (reflects : Reflects s.peers.keys events (others + ledger)) (action : Action)
    (sync : changesInSync order action s = true) (due : owed ledger action) :
    exists sent, (exec order action s).1.pool.eventsTx = some sent ∧
      Reflects (exec order action s).1.peers.keys sent
        (others + settle ledger action (exec order action s).2) := by
  cases action with
  | peers region =>
      have seen : published s = events := by rw [published, opened, Option.getD_some]
      rw [changesInSync, seen] at sync
      have after := reflects.region (s.within_step order region) sync
      refine ⟨events, opened, ?_⟩
      rw [add_left_comm] at after
      cases region with
      | containsKey peerId =>
          apply reflects.congr <;> intro other <;> simp only [settle, Multiset.count_add] <;>
            split <;> simp
      | _ => exact after
  | sendEvent event =>
      have owes : event.debt ∈ others + ledger := Multiset.mem_add.mpr (Or.inr due)
      have opened' : (Service.exec order (.sendEvent event) s).1.pool.eventsTx =
          some (events ++ [event]) := by simp [Service.exec, opened]
      refine ⟨_, opened', ?_⟩
      simp only [settle]
      rw [<- Multiset.erase_add_right_pos others due]
      cases event with
      | peerAdded peerId addr => exact reflects.append_added owes addr
      | peerRemoved peerId reason => exact reflects.append_removed owes reason
  | tree change peerId =>
      refine ⟨events, opened, ?_⟩
      cases change with
      | addPeer => apply reflects.congr <;> intro other <;> simp [settle]
      | removePeer => apply reflects.congr <;> intro other <;> simp [settle]
      | demoteToLazy => exact reflects
      | promoteToEager => exact reflects
  | tryAcquirePermit =>
      simp only [Service.exec]
      split
      · exact ⟨events, opened, reflects⟩
      · exact ⟨events, opened, reflects⟩
  | _ => exact ⟨events, opened, reflects⟩

end Regions

/-! ## Runs -/

/-- Each change of the map is in step with the stream, and no pass is started
that announces a peer by itself. -/
def inSync (w : ServiceWorld) (move : ServiceMove) : Bool :=
  System.onAction changesInSync w move && System.onSpawn Operation.announcesOnce w move

/-- The stream reflects the map up to what the operations under way owe. -/
theorem reflects_of_run (launch : Launch) (moves : List ServiceMove)
    (sync : launch.along inSync moves = true) :
    System.Balanced owed settle (fun s debts =>
      exists events, s.pool.eventsTx = some events ∧ Reflects s.peers.keys events debts)
      (launch.after moves) := by
  have advanced : forall w thread choice, inSync w (.advance thread choice) = true ->
      System.onAction changesInSync w (.advance thread choice : ServiceMove) = true :=
    fun w thread choice allowed => (Bool.and_eq_true_iff.mp allowed).1
  refine System.balanced_run ?_ advanced ?_ sync ⟨0, .nil, [], rfl, Reflects.start⟩
  · intro w op allowed
    exact op.settles launch.config (Bool.and_eq_true_iff.mp allowed).2
  · rintro order action s others ledger allowed due ⟨events, opened, reflects⟩
    exact reflects.exec opened action allowed due

/-- Along every run that is in step, no peer is added twice without a removal
between, and once all operations have completed a subscriber holds what the
peer map holds. -/
theorem churn_reflected (launch : Launch) (moves : List ServiceMove)
    (sync : launch.along inSync moves = true) :
    AddedOnce (published (launch.after moves).shared) ∧
      ((launch.after moves).settled = true ->
        view (published (launch.after moves).shared) = (launch.after moves).shared.peers.keys) := by
  have balanced := reflects_of_run launch moves sync
  constructor
  · rcases balanced with ⟨debts, _, events, opened, reflects⟩
    rw [published, opened]
    exact reflects.once
  · intro settled
    rcases balanced.settled settled with ⟨events, opened, reflects⟩
    rw [published, opened]
    exact reflects.view_eq

namespace Example

/-- Two peers are dialed, one of them is disconnected and dialed again. -/
def comeAndGo : List ServiceMove :=
  inSequence 20 [
    connected 1 (host 10 1), connected 2 (host 20 1), .disconnect 1, connected 1 (host 10 1)]

/-- A peer is dialed and then banned. -/
def bannedSilently : List ServiceMove :=
  inSequence 20 [connected 1 (host 10 1), .banPeer 1]

end Example

theorem churn_reflected_comeAndGo :
    AddedOnce (published (Example.launch.after Example.comeAndGo).shared) ∧
      ((Example.launch.after Example.comeAndGo).settled = true ->
        view (published (Example.launch.after Example.comeAndGo).shared) =
          (Example.launch.after Example.comeAndGo).shared.peers.keys) :=
  churn_reflected Example.launch Example.comeAndGo (by decide +kernel)

theorem churn_reflected_fails :
    ¬ forall (launch : Launch) (moves : List ServiceMove),
      AddedOnce (published (launch.after moves).shared) ∧
        ((launch.after moves).settled = true ->
          view (published (launch.after moves).shared) =
            (launch.after moves).shared.peers.keys) := by
  intro always
  have agrees := (always Example.launch Example.bannedSilently).2 (by decide +kernel)
  have seen : (1 : PeerId) ∈ view (published (Example.launch.after Example.bannedSilently).shared) := by
    decide +kernel
  have gone : (Example.launch.after Example.bannedSilently).shared.peers.lookup 1 = none := by
    decide +kernel
  rw [agrees, FiniteMap.mem_keys_iff, gone] at seen
  cases seen

end Service
end DigGossip
