import DigGossip.Service.Regions

namespace DigGossip
namespace Service

open Foundations DigGossip.Types

/-!
# What a region does to the peer map

One case for each way a region can end, with the map it leaves, its reply and
the guards that led there.  Everything later about the peer map is a case
analysis of this relation; a coarser one below keeps only the change of the
map.
-/

/-- The regions that only read the peer map. -/
def PeersRegion.isRead : PeersRegion -> Bool
  | len => true
  | connectedPoolKeys => true
  | liveReputation _ _ => true
  | penalizeLive _ _ _ => true
  | _ => false

/-- The map an admission inserts into: the map as it is, or without the peer
that was cycled out for an identity holding no slot. -/
inductive MadeRoom (s : ServiceState) (peerId : PeerId) (source : AdmissionSource) :
    Peers -> Option (PeerId × PeerSlot) -> Prop
  | kept (fits : (s.peers.lookup peerId).isSome ∨ source = .maintained ∨
        FiniteMap.size s.peers < s.config.maxConnections) :
      MadeRoom s peerId source s.peers none
  | cycled {victim : PeerId} {slot : PeerSlot} (unheld : s.peers.lookup peerId = none)
      (found : s.peers.lookup victim = some slot) :
      MadeRoom s peerId source (s.peers.erase victim) (some (victim, slot))

inductive RegionStep (s : ServiceState) (order : PeerId -> Nat) :
    (region : PeersRegion) -> Peers -> region.Reply -> Prop
  | read {region : PeersRegion} (reads : region.isRead = true) (reply : region.Reply) :
      RegionStep s order region s.peers reply
  | looked (peerId : PeerId) :
      RegionStep s order (.containsKey peerId) s.peers (s.peers.lookup peerId).isSome
  | liveRefused {peerId remote link generation} (kind : OutboundDiversityConflict) :
      RegionStep s order (.admitLive peerId remote link generation) s.peers (.error kind)
  | liveAdmitted {peerId remote link generation}
      (allowed : s.isOutboundReconnect peerId = true ∨
        outboundDiversityConflict s.peers s.asTable peerId remote.ip false = none) :
      RegionStep s order (.admitLive peerId remote link generation)
        (s.peers.insert peerId (liveSlot remote true link generation))
        (.ok (s.peers.lookup peerId))
  | tlsInserted {peerId remote link generation} :
      RegionStep s order (.insertLive peerId remote link generation)
        (s.peers.insert peerId (liveSlot remote false link generation)) (s.peers.lookup peerId)
  | natRefused {conn source} (error : GossipError) :
      RegionStep s order (.admitNat conn source) s.peers (.error error)
  | natAdmitted {conn source room displaced} (allowed : s.refuseNat conn source = none)
      (made : MadeRoom s conn.peerId source room displaced) :
      RegionStep s order (.admitNat conn source) (room.insert conn.peerId conn.slot)
        (.ok { superseded := room.lookup conn.peerId, displaced := displaced })
  | directRefused {session} (error : GossipError) :
      RegionStep s order (.adoptDirectInbound session) s.peers (.error error)
  | directAdopted {session : DirectInbound}
      (allowed : s.refuseDirectInbound session.toInboundSession = none) :
      RegionStep s order (.adoptDirectInbound session)
        (s.peers.insert session.peerId session.slot) (.ok (s.peers.lookup session.peerId))
  | relayedRefused {session} (error : GossipError) :
      RegionStep s order (.adoptRelayedInbound session) s.peers (.error error)
  | relayedAdopted {session : RelayedInbound}
      (allowed : s.refuseRelayedInbound session.toInboundSession = none) :
      RegionStep s order (.adoptRelayedInbound session)
        (s.peers.insert session.peerId session.slot) (.ok (s.peers.lookup session.peerId))
  | sinkRefused {peerId sink} : RegionStep s order (.setSink peerId sink) s.peers false
  | sinkSet {peerId sink slot} (found : s.peers.lookup peerId = some (.nat slot)) :
      RegionStep s order (.setSink peerId sink)
        (s.peers.insert peerId (.nat { slot with sink := some sink })) true
  | removedNothing {peerId} (unheld : s.peers.lookup peerId = none) :
      RegionStep s order (.remove peerId) s.peers none
  | removed {peerId slot} (found : s.peers.lookup peerId = some slot) :
      RegionStep s order (.remove peerId) (s.peers.erase peerId) (some slot)
  | reaped :
      RegionStep s order .reapDeparted
        (FiniteMap.retain s.peers fun _ slot => !s.slotIsDeparted slot)
        (listing order (FiniteMap.keysWhere s.peers fun _ slot => s.slotIsDeparted slot))
  | banSuperseded {peerId callerGeneration} :
      RegionStep s order (.removeForBan peerId callerGeneration) s.peers none
  | banRemoved {peerId callerGeneration} :
      RegionStep s order (.removeForBan peerId callerGeneration) (s.peers.erase peerId)
        (some (s.peers.lookup peerId))
  | keepaliveSuperseded {peerId generation} :
      RegionStep s order (.removeIfGeneration peerId generation) s.peers none
  | keepaliveRemoved {peerId generation slot} (found : s.peers.lookup peerId = some (.live slot)) :
      RegionStep s order (.removeIfGeneration peerId generation) (s.peers.erase peerId) (some slot)

namespace ServiceState

variable {s : ServiceState} {order : PeerId -> Nat}

theorem admitLive_step (peerId : PeerId) (remote : SocketAddr) (link : LinkId) (generation : Nat) :
    RegionStep s order (.admitLive peerId remote link generation)
      (s.admitLive peerId remote link generation).1.peers
      (s.admitLive peerId remote link generation).2 := by
  unfold admitLive
  cases reconnect : s.isOutboundReconnect peerId with
  | true => exact RegionStep.liveAdmitted (Or.inl reconnect)
  | false =>
      cases clear : outboundDiversityConflict s.peers s.asTable peerId remote.ip false with
      | some kind => exact RegionStep.liveRefused kind
      | none => exact RegionStep.liveAdmitted (Or.inr clear)

/-- What displacement leaves: the map as it is when there is room or it refuses,
or the map without an incumbent. -/
theorem displaceForDiscoveredPeer_cases :
    (exists error, (s.displaceForDiscoveredPeer order).2 = .error error ∧
      (s.displaceForDiscoveredPeer order).1.peers = s.peers) ∨
    ((s.displaceForDiscoveredPeer order).2 = .ok none ∧
      (s.displaceForDiscoveredPeer order).1.peers = s.peers ∧
      FiniteMap.size s.peers < s.config.maxConnections) ∨
    (exists victim slot, (s.displaceForDiscoveredPeer order).2 = .ok (some (victim, slot)) ∧
      s.peers.lookup victim = some slot ∧
      (s.displaceForDiscoveredPeer order).1.peers = s.peers.erase victim) := by
  unfold displaceForDiscoveredPeer
  simp only
  split
  · rename_i room
    refine Or.inr (Or.inl ⟨rfl, rfl, ?_⟩)
    exact lt_of_roomAlready room
  · rename_i victim _
    split
    · exact Or.inl ⟨_, rfl, rfl⟩
    · rename_i slot found
      exact Or.inr (Or.inr ⟨victim, slot, rfl, found, rfl⟩)
  · exact Or.inl ⟨_, rfl, rfl⟩

theorem admitNat_step (conn : NatConnection) (source : AdmissionSource) :
    RegionStep s order (.admitNat conn source) (s.admitNat order conn source).1.peers
      (s.admitNat order conn source).2 := by
  unfold admitNat
  cases allowed : s.refuseNat conn source with
  | some error => exact RegionStep.natRefused error
  | none =>
      simp only
      by_cases fresh : (s.peers.lookup conn.peerId).isNone ∧ source = .discovered
      · simp only [if_pos fresh]
        have unheld := Option.isNone_iff_eq_none.mp fresh.1
        rcases @displaceForDiscoveredPeer_cases s order with
          ⟨error, refused, same⟩ | ⟨kept, same, room⟩ | ⟨victim, slot, cycled, found, less⟩
        · rw [refused]
          simp only
          rw [same]
          exact RegionStep.natRefused error
        · rw [kept]
          simp only
          rw [same]
          exact RegionStep.natAdmitted allowed (.kept (Or.inr (Or.inr room)))
        · rw [cycled]
          simp only
          rw [less]
          exact RegionStep.natAdmitted allowed (.cycled unheld found)
      · simp only [if_neg fresh]
        apply RegionStep.natAdmitted allowed (.kept _)
        cases held : s.peers.lookup conn.peerId with
        | some slot => exact Or.inl rfl
        | none =>
            cases source with
            | maintained => exact Or.inr (Or.inl rfl)
            | discovered => exact absurd ⟨by rw [held]; rfl, rfl⟩ fresh

theorem adoptDirectInbound_step (session : DirectInbound) :
    RegionStep s order (.adoptDirectInbound session)
      (s.within order (.adoptDirectInbound session)).1.peers
      (s.within order (.adoptDirectInbound session)).2 := by
  simp only [within]
  cases allowed : s.refuseDirectInbound session.toInboundSession with
  | some error => exact RegionStep.directRefused error
  | none => exact RegionStep.directAdopted allowed

theorem adoptRelayedInbound_step (session : RelayedInbound) :
    RegionStep s order (.adoptRelayedInbound session)
      (s.within order (.adoptRelayedInbound session)).1.peers
      (s.within order (.adoptRelayedInbound session)).2 := by
  simp only [within]
  cases allowed : s.refuseRelayedInbound session.toInboundSession with
  | some error => exact RegionStep.relayedRefused error
  | none => exact RegionStep.relayedAdopted allowed

theorem setSink_step (peerId : PeerId) (sink : SinkId) :
    RegionStep s order (.setSink peerId sink) (s.setSink peerId sink).1.peers
      (s.setSink peerId sink).2 := by
  unfold setSink
  split
  · rename_i slot found
    exact RegionStep.sinkSet found
  · exact RegionStep.sinkRefused
  · exact RegionStep.sinkRefused
  · exact RegionStep.sinkRefused

theorem remove_step (peerId : PeerId) :
    RegionStep s order (.remove peerId) (s.remove peerId).1.peers (s.remove peerId).2 := by
  unfold remove
  cases found : s.peers.lookup peerId with
  | none => exact RegionStep.removedNothing found
  | some slot => exact RegionStep.removed found

theorem removeForBan_step (peerId : PeerId) (callerGeneration : Option Nat) :
    RegionStep s order (.removeForBan peerId callerGeneration)
      (s.removeForBan peerId callerGeneration).1.peers
      (s.removeForBan peerId callerGeneration).2 := by
  unfold removeForBan
  split
  · exact RegionStep.banRemoved
  · exact RegionStep.banSuperseded

theorem removeIfGeneration_step (peerId : PeerId) (generation : Nat) :
    RegionStep s order (.removeIfGeneration peerId generation)
      (s.removeIfGeneration peerId generation).1.peers
      (s.removeIfGeneration peerId generation).2 := by
  unfold removeIfGeneration
  split
  · rename_i slot found
    split
    · exact RegionStep.keepaliveRemoved found
    · exact RegionStep.keepaliveSuperseded
  · exact RegionStep.keepaliveSuperseded
  · exact RegionStep.keepaliveSuperseded
  · exact RegionStep.keepaliveSuperseded

theorem penalizeLive_peers (peerId : PeerId) (reason : PenaltyReason) (now : Nat) :
    (s.penalizeLive peerId reason now).1.peers = s.peers := by
  unfold penalizeLive
  split
  · rfl
  · rfl
  · rfl
  · rfl

variable (s order) in
/-- Every region ends in one of the listed ways. -/
theorem within_step (region : PeersRegion) :
    RegionStep s order region (s.within order region).1.peers (s.within order region).2 := by
  cases region with
  | len => exact RegionStep.read rfl _
  | containsKey peerId => exact RegionStep.looked peerId
  | connectedPoolKeys => exact RegionStep.read rfl _
  | admitLive peerId remote link generation => exact admitLive_step peerId remote link generation
  | insertLive peerId remote link generation => exact RegionStep.tlsInserted
  | admitNat conn source => exact admitNat_step conn source
  | adoptDirectInbound session => exact adoptDirectInbound_step session
  | adoptRelayedInbound session => exact adoptRelayedInbound_step session
  | setSink peerId sink => exact setSink_step peerId sink
  | remove peerId => exact remove_step peerId
  | reapDeparted => exact RegionStep.reaped
  | removeForBan peerId callerGeneration => exact removeForBan_step peerId callerGeneration
  | removeIfGeneration peerId generation => exact removeIfGeneration_step peerId generation
  | liveReputation peerId generation => exact RegionStep.read rfl _
  | penalizeLive peerId reason now =>
      have same := penalizeLive_peers (s := s) peerId reason now
      simp only [within]
      rw [same]
      exact RegionStep.read rfl _

end ServiceState

/-! ## The change of the map alone -/

/-- The guards under which a region inserts a slot, and the map it inserts into. -/
inductive Admits (s : ServiceState) : PeersRegion -> Peers -> PeerId -> PeerSlot -> Prop
  | live {peerId remote link generation}
      (allowed : s.isOutboundReconnect peerId = true ∨
        outboundDiversityConflict s.peers s.asTable peerId remote.ip false = none) :
      Admits s (.admitLive peerId remote link generation) s.peers peerId
        (liveSlot remote true link generation)
  | tls {peerId remote link generation} :
      Admits s (.insertLive peerId remote link generation) s.peers peerId
        (liveSlot remote false link generation)
  | nat {conn source room displaced} (allowed : s.refuseNat conn source = none)
      (made : MadeRoom s conn.peerId source room displaced) :
      Admits s (.admitNat conn source) room conn.peerId conn.slot
  | direct {session : DirectInbound}
      (allowed : s.refuseDirectInbound session.toInboundSession = none) :
      Admits s (.adoptDirectInbound session) s.peers session.peerId session.slot
  | relayed {session : RelayedInbound}
      (allowed : s.refuseRelayedInbound session.toInboundSession = none) :
      Admits s (.adoptRelayedInbound session) s.peers session.peerId session.slot

/-- A region takes rows away, wires a sink, or admits one peer. -/
inductive PeersChange (s : ServiceState) (region : PeersRegion) : Peers -> Prop
  | fewer {after : Peers} (sub : FiniteMap.Sub after s.peers) : PeersChange s region after
  | wired {peerId : PeerId} {slot : NatSlot} (sink : SinkId)
      (found : s.peers.lookup peerId = some (.nat slot)) :
      PeersChange s region (s.peers.insert peerId (.nat { slot with sink := some sink }))
  | admitted {base : Peers} {peerId : PeerId} {slot : PeerSlot}
      (admits : Admits s region base peerId slot) :
      PeersChange s region (base.insert peerId slot)

variable {s : ServiceState} {region : PeersRegion}

theorem MadeRoom.sub {peerId : PeerId} {source : AdmissionSource} {room : Peers}
    {displaced : Option (PeerId × PeerSlot)} (made : MadeRoom s peerId source room displaced) :
    FiniteMap.Sub room s.peers := by
  cases made with
  | kept fits => exact FiniteMap.Sub.refl s.peers
  | cycled unheld found => exact FiniteMap.sub_erase _ _

theorem MadeRoom.same {peerId : PeerId} {source : AdmissionSource} {room : Peers}
    {displaced : Option (PeerId × PeerSlot)} (made : MadeRoom s peerId source room displaced) :
    room.lookup peerId = s.peers.lookup peerId := by
  cases made with
  | kept fits => rfl
  | cycled unheld found => rw [FiniteMap.lookup_erase_eq, unheld, ite_self]

theorem Admits.sub {base : Peers} {peerId : PeerId} {slot : PeerSlot}
    (admits : Admits s region base peerId slot) : FiniteMap.Sub base s.peers := by
  cases admits with
  | live allowed => exact FiniteMap.Sub.refl s.peers
  | tls => exact FiniteMap.Sub.refl s.peers
  | nat allowed made => exact made.sub
  | direct allowed => exact FiniteMap.Sub.refl s.peers
  | relayed allowed => exact FiniteMap.Sub.refl s.peers

theorem Admits.same {base : Peers} {peerId : PeerId} {slot : PeerSlot}
    (admits : Admits s region base peerId slot) :
    base.lookup peerId = s.peers.lookup peerId := by
  cases admits with
  | live allowed => rfl
  | tls => rfl
  | nat allowed made => exact made.same
  | direct allowed => rfl
  | relayed allowed => rfl

theorem RegionStep.change {order : PeerId -> Nat} {after : Peers} {reply : region.Reply}
    (step : RegionStep s order region after reply) : PeersChange s region after := by
  have whole := FiniteMap.Sub.refl s.peers
  cases step with
  | read reads reply => exact .fewer whole
  | looked peerId => exact .fewer whole
  | liveRefused kind => exact .fewer whole
  | liveAdmitted allowed => exact .admitted (.live allowed)
  | tlsInserted => exact .admitted .tls
  | natRefused error => exact .fewer whole
  | natAdmitted allowed made => exact .admitted (.nat allowed made)
  | directRefused error => exact .fewer whole
  | directAdopted allowed => exact .admitted (.direct allowed)
  | relayedRefused error => exact .fewer whole
  | relayedAdopted allowed => exact .admitted (.relayed allowed)
  | sinkRefused => exact .fewer whole
  | sinkSet found => exact .wired _ found
  | removedNothing unheld => exact .fewer whole
  | removed found => exact .fewer (FiniteMap.sub_erase _ _)
  | reaped => exact .fewer (FiniteMap.sub_retain _ _)
  | banSuperseded => exact .fewer whole
  | banRemoved => exact .fewer (FiniteMap.sub_erase _ _)
  | keepaliveSuperseded => exact .fewer whole
  | keepaliveRemoved found => exact .fewer (FiniteMap.sub_erase _ _)

/-- The peer a region admitted. -/
def PeersRegion.admitted : (region : PeersRegion) -> region.Reply -> Option PeerId
  | admitLive peerId _ _ _, .ok _ => some peerId
  | insertLive peerId _ _ _, _ => some peerId
  | admitNat conn _, .ok _ => some conn.peerId
  | adoptDirectInbound session, .ok _ => some session.peerId
  | adoptRelayedInbound session, .ok _ => some session.peerId
  | _, _ => none

/-- A peer in the map after a region was in it before, or was admitted. -/
theorem RegionStep.held_or_admitted {order : PeerId -> Nat} {after : Peers} {reply : region.Reply}
    (step : RegionStep s order region after reply) {peerId : PeerId} {slot : PeerSlot}
    (found : after.lookup peerId = some slot) :
    (s.peers.lookup peerId).isSome = true ∨ region.admitted reply = some peerId := by
  have kept : forall part : Peers, FiniteMap.Sub part s.peers -> part.lookup peerId = some slot ->
      (s.peers.lookup peerId).isSome = true := by
    intro part sub here
    rw [sub _ _ here]
    rfl
  have whole := FiniteMap.Sub.refl s.peers
  cases step with
  | liveAdmitted allowed =>
      rcases FiniteMap.of_lookup_insert found with ⟨rfl, _⟩ | ⟨_, old⟩
      · exact Or.inr rfl
      · exact Or.inl (kept _ whole old)
  | tlsInserted =>
      rcases FiniteMap.of_lookup_insert found with ⟨rfl, _⟩ | ⟨_, old⟩
      · exact Or.inr rfl
      · exact Or.inl (kept _ whole old)
  | natAdmitted allowed made =>
      rcases FiniteMap.of_lookup_insert found with ⟨rfl, _⟩ | ⟨_, old⟩
      · exact Or.inr rfl
      · exact Or.inl (kept _ made.sub old)
  | directAdopted allowed =>
      rcases FiniteMap.of_lookup_insert found with ⟨rfl, _⟩ | ⟨_, old⟩
      · exact Or.inr rfl
      · exact Or.inl (kept _ whole old)
  | relayedAdopted allowed =>
      rcases FiniteMap.of_lookup_insert found with ⟨rfl, _⟩ | ⟨_, old⟩
      · exact Or.inr rfl
      · exact Or.inl (kept _ whole old)
  | sinkSet here =>
      rcases FiniteMap.of_lookup_insert found with ⟨rfl, _⟩ | ⟨_, old⟩
      · rw [here]
        exact Or.inl rfl
      · exact Or.inl (kept _ whole old)
  | read reads reply => exact Or.inl (kept _ whole found)
  | looked other => exact Or.inl (kept _ whole found)
  | liveRefused kind => exact Or.inl (kept _ whole found)
  | natRefused error => exact Or.inl (kept _ whole found)
  | directRefused error => exact Or.inl (kept _ whole found)
  | relayedRefused error => exact Or.inl (kept _ whole found)
  | sinkRefused => exact Or.inl (kept _ whole found)
  | removedNothing unheld => exact Or.inl (kept _ whole found)
  | removed held => exact Or.inl (kept _ (FiniteMap.sub_erase _ _) found)
  | reaped => exact Or.inl (kept _ (FiniteMap.sub_retain _ _) found)
  | banSuperseded => exact Or.inl (kept _ whole found)
  | banRemoved => exact Or.inl (kept _ (FiniteMap.sub_erase _ _) found)
  | keepaliveSuperseded => exact Or.inl (kept _ whole found)
  | keepaliveRemoved held => exact Or.inl (kept _ (FiniteMap.sub_erase _ _) found)

/-! ## The change of the usefulness records -/

/-- The planner is shown the record of every eligible peer that has one. -/
theorem mem_activityOf {activity : FiniteMap PeerId ActivityRecord} {order : PeerId -> Nat}
    {eligible : Finset PeerId} {peer : PeerActivity} :
    peer ∈ ServiceState.activityOf activity order eligible ↔ peer.peerId ∈ eligible ∧
      activity.lookup peer.peerId =
        some ⟨peer.admittedAt, peer.lastActiveAt, peer.inFlight⟩ := by
  simp only [ServiceState.activityOf, List.mem_filterMap, mem_listing, Option.map_eq_some_iff]
  constructor
  · rintro ⟨peerId, member, row, found, rfl⟩
    exact ⟨member, found⟩
  · rintro ⟨member, found⟩
    exact ⟨peer.peerId, member, _, found, rfl⟩

/-- The region takes the peer's slot and leaves its record. -/
def PeersRegion.forgets (peerId : PeerId) : (region : PeersRegion) -> region.Reply -> Bool
  | removeForBan banned _, removed => decide (banned = peerId) && removed.any Option.isSome
  | removeIfGeneration failed _, removed => decide (failed = peerId) && removed.isSome
  | _, _ => false

/-- A record that is left was there before, and its peer keeps its slot or is excused. -/
def LeavesRecords (s : ServiceState) (after : Locked) (peerId : PeerId) (excused : Prop) : Prop :=
  forall row, after.activity.lookup peerId = some row -> s.pool.activity.lookup peerId = some row ∧
    ((s.peers.lookup peerId).isSome = true ->
      (after.peers.lookup peerId).isSome = true ∨ excused)

section Records

variable (order : PeerId -> Nat) (peerId : PeerId) {excused : Prop}

theorem leavesRecords_of_insert {after : Locked} (leaves : LeavesRecords s after peerId excused)
    (inserted : PeerId) (slot : PeerSlot) :
    LeavesRecords s { after with peers := after.peers.insert inserted slot } peerId excused := by
  intro row found
  rcases leaves row found with ⟨before, keeps⟩
  refine ⟨before, fun held => (keeps held).imp_left fun still => ?_⟩
  rw [FiniteMap.lookup_insert_eq]
  split
  · rfl
  · exact still

/-- A slot may go when its peer is excused. -/
theorem leavesRecords_of_erase {after : Locked} (leaves : LeavesRecords s after peerId excused)
    {removed : PeerId} (gone : removed = peerId -> (s.peers.lookup peerId).isSome = true -> excused) :
    LeavesRecords s { after with peers := after.peers.erase removed } peerId excused := by
  intro row found
  rcases leaves row found with ⟨before, keeps⟩
  refine ⟨before, fun held => ?_⟩
  by_cases same : removed = peerId
  · exact Or.inr (gone same held)
  · rw [FiniteMap.lookup_erase_eq, if_neg (Ne.symm same)]
    exact keeps held

theorem leavesRecords_locked : LeavesRecords s s.locked peerId excused :=
  fun _ found => ⟨found, Or.inl⟩

theorem displaceForDiscoveredPeer_leavesRecords :
    LeavesRecords s (s.displaceForDiscoveredPeer order).1 peerId excused := by
  have pruned : forall row, (s.pool.retainAdmitted s.peers.keys).activity.lookup peerId = some row ->
      s.pool.activity.lookup peerId = some row := by
    intro row found
    exact FiniteMap.sub_retain _ _ _ _ found
  unfold ServiceState.displaceForDiscoveredPeer
  simp only
  split
  · exact fun row found => ⟨pruned row found, Or.inl⟩
  · split
    · exact fun row found => ⟨pruned row found, Or.inl⟩
    · intro row found
      rcases FiniteMap.of_lookup_erase found with ⟨other, left⟩
      refine ⟨pruned row left, fun held => Or.inl ?_⟩
      rw [FiniteMap.lookup_erase_eq, if_neg other]
      exact held
  · exact fun row found => ⟨pruned row found, Or.inl⟩

theorem admitNat_leavesRecords (conn : NatConnection) (source : AdmissionSource) :
    LeavesRecords s (s.admitNat order conn source).1 peerId excused := by
  unfold ServiceState.admitNat
  split
  · exact leavesRecords_locked peerId
  · simp only
    by_cases fresh : (s.peers.lookup conn.peerId).isNone ∧ source = .discovered
    · rw [if_pos fresh]
      have leaves : LeavesRecords s (s.displaceForDiscoveredPeer order).1 peerId excused :=
        displaceForDiscoveredPeer_leavesRecords order peerId
      cases made : s.displaceForDiscoveredPeer order with
      | mk room displaced =>
          rw [made] at leaves
          cases displaced with
          | error error => exact leaves
          | ok displaced => exact leavesRecords_of_insert peerId leaves conn.peerId conn.slot
    · rw [if_neg fresh]
      exact leavesRecords_of_insert peerId (leavesRecords_locked peerId) conn.peerId conn.slot

theorem remove_leavesRecords (removed : PeerId) :
    LeavesRecords s (s.remove removed).1 peerId excused := by
  unfold ServiceState.remove
  split
  · exact leavesRecords_locked peerId
  · intro row found
    rcases FiniteMap.of_lookup_erase found with ⟨other, left⟩
    refine ⟨left, fun held => Or.inl ?_⟩
    rw [FiniteMap.lookup_erase_eq, if_neg other]
    exact held

theorem reapDeparted_leavesRecords : LeavesRecords s (s.reapDeparted order).1 peerId excused := by
  intro row found
  simp only [ServiceState.reapDeparted, FiniteMap.lookup_retain_eq] at found ⊢
  cases before : s.pool.activity.lookup peerId with
  | none => simp [before] at found
  | some old =>
      simp only [before, Option.filter_some] at found
      split at found
      · rename_i stays
        refine ⟨found, fun held => Or.inl ?_⟩
        rcases Option.isSome_iff_exists.mp held with ⟨slot, here⟩
        have present : s.slotIsDeparted slot = false := by
          by_contra departed
          rw [Bool.not_eq_false] at departed
          exact of_decide_eq_true stays (FiniteMap.mem_keysWhere.mpr ⟨slot, here, departed⟩)
        simp [here, present]
      · cases found

/-- A region leaves only records that were there, of peers that keep their slot
or that it forgets. -/
theorem within_leavesRecords (region : PeersRegion) :
    LeavesRecords s (s.within order region).1 peerId
      (region.forgets peerId (s.within order region).2 = true) := by
  cases region with
  | admitLive admitted remote link generation =>
      simp only [ServiceState.within, ServiceState.admitLive]
      split
      · exact leavesRecords_locked peerId
      · exact leavesRecords_of_insert peerId (leavesRecords_locked peerId) admitted _
  | insertLive admitted remote link generation =>
      exact leavesRecords_of_insert peerId (leavesRecords_locked peerId) admitted _
  | admitNat conn source => exact admitNat_leavesRecords order peerId conn source
  | adoptDirectInbound session =>
      simp only [ServiceState.within, ServiceState.adoptInbound]
      split
      · exact leavesRecords_locked peerId
      · exact leavesRecords_of_insert peerId (leavesRecords_locked peerId) session.peerId _
  | adoptRelayedInbound session =>
      simp only [ServiceState.within, ServiceState.adoptInbound]
      split
      · exact leavesRecords_locked peerId
      · exact leavesRecords_of_insert peerId (leavesRecords_locked peerId) session.peerId _
  | setSink wired sink =>
      simp only [ServiceState.within, ServiceState.setSink]
      split
      · exact leavesRecords_of_insert peerId (leavesRecords_locked peerId) wired _
      · exact leavesRecords_locked peerId
      · exact leavesRecords_locked peerId
      · exact leavesRecords_locked peerId
  | remove removed => exact remove_leavesRecords peerId removed
  | reapDeparted => exact reapDeparted_leavesRecords order peerId
  | removeForBan banned callerGeneration =>
      simp only [ServiceState.within, ServiceState.removeForBan]
      by_cases allowed : callerGeneration.all (s.holdsGeneration banned) = true
      · simp only [if_pos allowed]
        apply leavesRecords_of_erase peerId (leavesRecords_locked peerId)
        rintro rfl held
        simp [PeersRegion.forgets, held]
      · simp only [if_neg allowed]
        exact leavesRecords_locked peerId
  | removeIfGeneration failed generation =>
      simp only [ServiceState.within, ServiceState.removeIfGeneration]
      split
      · split
        · apply leavesRecords_of_erase peerId (leavesRecords_locked peerId)
          rintro rfl held
          simp [PeersRegion.forgets]
        · exact leavesRecords_locked peerId
      · exact leavesRecords_locked peerId
      · exact leavesRecords_locked peerId
      · exact leavesRecords_locked peerId
  | penalizeLive peer reason now =>
      simp only [ServiceState.within, ServiceState.penalizeLive]
      split
      · exact leavesRecords_locked peerId
      · exact leavesRecords_locked peerId
      · exact leavesRecords_locked peerId
      · exact leavesRecords_locked peerId
  | _ => exact leavesRecords_locked peerId

end Records

variable (s region) in
theorem within_change (order : PeerId -> Nat) :
    PeersChange s region (s.within order region).1.peers :=
  (s.within_step order region).change

end Service
end DigGossip
