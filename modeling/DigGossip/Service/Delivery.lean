import DigGossip.Service.FanOut
import DigGossip.Service.Operations

namespace DigGossip
namespace Service

open Foundations DigGossip.Types

/-!
# Who a broadcast reaches

A failed send ends a broadcast after its message entered the seen set.  Unless
the message is the node's own, a repeat is then dropped, so the peers after the
failure are never served; and even an own message leaves them to the repeat.
The count of unreachable peers is kept apart from the delivery path and takes
every session peer for one, with a sink or without.
-/

/-- The call is neither refused nor dropped as a repeat. -/
def Call.isCarried (wire : Wire) (call : Call) (s : GossipState) : Bool :=
  decide (s.service.lifecycle = .running) && !call.isSuppressed wire s

/-- The peers a call is to serve: those with a route, unless it is for nobody. -/
def Call.eligible (wire : Wire) (call : Call) (s : GossipState) : Finset PeerId :=
  if call.isCarried wire s then
    s.service.peers.keys.filter fun peerId => (routeTo s.service call.exclude peerId).isSome
  else ∅

/-- A peer is among the attempts and was served. -/
def Serves (attempts : List Attempt) (peerId : PeerId) : Prop :=
  ∃ attempt ∈ attempts, attempt.peerId = peerId ∧ attempt.served = true

/-- Every eligible peer is tried once and served when its transport takes the
message, and an error leaves no eligible peer that a repeat with willing
transports would not serve, in whatever order that repeat goes. -/
structure FailureIsolated (wire : Wire) (order : PeerId -> Nat) (answers : Answers)
    (s : GossipState) (call : Call) : Prop where
  once : ∀ peerId ∈ call.eligible wire s,
    attemptsTo peerId (fanOut wire order answers s call).attempts = 1
  serves : ∀ peerId ∈ call.eligible wire s, forall route,
    routeTo s.service call.exclude peerId = some route -> answers.takes peerId route = true ->
      Serves (fanOut wire order answers s call).attempts peerId
  retried : forall error, (fanOut wire order answers s call).result = .error error ->
    ∀ peerId ∈ call.eligible wire s,
      Serves (fanOut wire order answers s call).attempts peerId ∨
        forall again : PeerId -> Nat,
          Serves (fanOut wire again .willing (fanOut wire order answers s call).state call).attempts
            peerId

/-- No send fails, or the message is the node's own, no peer is served over a
sink, and no send but the last fails. -/
def SendsHold (order : PeerId -> Nat) (answers : Answers) (s : GossipState) (call : Call) : Prop :=
  (∀ peerId ∈ routed s.service order call.exclude Route.isLink, answers.sends peerId = true) ∨
    call.origin = .localNode ∧ routed s.service order call.exclude Route.isSink = [] ∧
      ∀ peerId ∈ (routed s.service order call.exclude Route.isLink).dropLast,
        answers.sends peerId = true

section Isolation

variable {wire : Wire} {order : PeerId -> Nat} {answers : Answers} {s : GossipState} {call : Call}

theorem mem_eligible {peerId : PeerId} :
    peerId ∈ call.eligible wire s ↔
      call.isCarried wire s = true ∧ (routeTo s.service call.exclude peerId).isSome = true := by
  unfold Call.eligible
  by_cases carried : call.isCarried wire s = true
  · rw [if_pos carried, Finset.mem_filter]
    constructor
    · exact fun member => ⟨carried, member.2⟩
    · exact fun routes => ⟨mem_listing.mp (mem_listing_of_route (fun _ => 0) routes.2), routes.2⟩
  · rw [if_neg carried]
    constructor
    · exact fun member => absurd member (Finset.notMem_empty _)
    · exact fun routes => absurd routes.1 carried

/-- A carried call delivers what it collects, after its hash is recorded. -/
theorem fanOut_of_carried (carried : call.isCarried wire s = true) :
    fanOut wire order answers s call =
      deliver answers (messageWireLen wire call.message)
        (collectJobs s.service order call.exclude) (call.record wire s) := by
  unfold Call.isCarried at carried
  rw [Bool.and_eq_true, decide_eq_true_eq, Bool.not_eq_true'] at carried
  rw [fanOut, if_neg (not_not_intro carried.1), carried.2]
  rfl

/-- A call that is not carried tries nobody and leaves the state as it was. -/
theorem fanOut_of_not_carried (idle : call.isCarried wire s = false) :
    (fanOut wire order answers s call).attempts = [] ∧
      (fanOut wire order answers s call).state = s := by
  unfold Call.isCarried at idle
  rw [Bool.and_eq_false_iff, decide_eq_false_iff_not, Bool.not_eq_false'] at idle
  unfold fanOut
  by_cases stopped : s.service.lifecycle ≠ .running
  · rw [if_pos stopped]
    exact ⟨rfl, rfl⟩
  · rw [if_neg stopped, idle.resolve_left stopped]
    exact ⟨rfl, rfl⟩

/-- A carried call leaves its hash in the seen set and the service as it was. -/
theorem sameTables_fanOut (carried : call.isCarried wire s = true) :
    SameTables (call.record wire s) (fanOut wire order answers s call).state := by
  rw [fanOut_of_carried carried]
  exact sameTables_deliver _ _ _

/-- The attempts of a carried call that reaches its end serve every willing peer. -/
theorem serves_tried {peerId : PeerId} {route : Route}
    (routes : routeTo s.service call.exclude peerId = some route)
    (takes : answers.takes peerId route = true) :
    Serves ((collectJobs s.service order call.exclude).tried answers) peerId :=
  ⟨_, tried_of_route routes order, rfl, takes⟩

/-- A call that tries every job serves as it should, up to the repeat. -/
theorem isolated_of_tried
    (tried : (fanOut wire order answers s call).attempts =
      (collectJobs s.service order call.exclude).tried answers)
    (retried : forall error, (fanOut wire order answers s call).result = .error error ->
      call.isCarried wire (fanOut wire order answers s call).state = true ∧
        (fanOut wire order answers s call).state.service = s.service) :
    FailureIsolated wire order answers s call where
  once := by
    intro peerId eligible
    rw [tried]
    exact attemptsTo_tried _ _ _ (mem_eligible.mp eligible).2
  serves := by
    intro peerId eligible route routes takes
    rw [tried]
    exact serves_tried routes takes
  retried := by
    intro error failed peerId eligible
    right
    intro again
    rcases retried error failed with ⟨carried, service⟩
    rcases Option.isSome_iff_exists.mp (mem_eligible.mp eligible).2 with ⟨route, routes⟩
    let left := (fanOut wire order answers s call).state
    have repeated : (fanOut wire again .willing left call).attempts =
        (collectJobs left.service again call.exclude).tried .willing := by
      rw [fanOut_of_carried carried]
      exact (deliver_sent _ (fun _ _ => rfl) _).1
    have routesThen : routeTo left.service call.exclude peerId = some route := by
      rw [service]
      exact routes
    rw [repeated]
    exact serves_tried routesThen (Answers.takes_willing peerId route)

/-- A call that no failed send ends. -/
theorem isolated_of_sends
    (sends : ∀ peerId ∈ routed s.service order call.exclude Route.isLink,
      answers.sends peerId = true)
    (carried : call.isCarried wire s = true) : FailureIsolated wire order answers s call := by
  rw [<- collectJobs_links] at sends
  have delivered := deliver_sent (messageWireLen wire call.message)
    (fun job member => sends job.2 (List.mem_map_of_mem member)) (call.record wire s)
  rw [<- fanOut_of_carried carried] at delivered
  apply isolated_of_tried delivered.1
  intro error failed
  rw [delivered.2] at failed
  cases failed

/-- An own message is carried again, so a failure of the last thing tried costs nobody. -/
theorem isolated_of_last {before : List (LinkId × PeerId)} {job : LinkId × PeerId}
    (carried : call.isCarried wire s = true) (origin : call.origin = .localNode)
    (jobs : (collectJobs s.service order call.exclude).eager = before ++ [job])
    (sinks : (collectJobs s.service order call.exclude).nat = [])
    (sends : ∀ job ∈ before, answers.sends job.2 = true) (fails : answers.sends job.2 = false) :
    FailureIsolated wire order answers s call := by
  have delivered := deliver_failed (messageWireLen wire call.message) jobs sends fails
    (call.record wire s)
  have tables : SameTables (call.record wire s) (fanOut wire order answers s call).state :=
    sameTables_fanOut carried
  rw [<- fanOut_of_carried carried] at delivered
  apply isolated_of_tried
  · rw [delivered.1, Jobs.tried, jobs, sinks, List.map_nil, List.append_nil]
  · intro error failed
    refine ⟨?_, tables.1⟩
    unfold Call.isCarried Call.isSuppressed at carried ⊢
    rw [tables.1, origin]
    rw [origin] at carried
    exact carried

theorem eligible_of_mem_tried (carried : call.isCarried wire s = true) {attempt : Attempt}
    (tried : attempt ∈ (collectJobs s.service order call.exclude).tried answers) :
    attempt.peerId ∈ call.eligible wire s := by
  rw [mem_eligible, (mem_tried tried).1]
  exact ⟨carried, rfl⟩

/-- A call that attempts every eligible peer leaves nothing of what it was to try. -/
theorem nothing_left {left : List Attempt} (isolated : FailureIsolated wire order answers s call)
    (carried : call.isCarried wire s = true)
    (whole : (collectJobs s.service order call.exclude).tried answers =
      (fanOut wire order answers s call).attempts ++ left) : left = [] := by
  rw [List.eq_nil_iff_forall_not_mem]
  intro attempt member
  have tried : attempt ∈ (collectJobs s.service order call.exclude).tried answers := by
    rw [whole]
    exact List.mem_append_right _ member
  have eligible := eligible_of_mem_tried carried tried
  have total : attemptsTo attempt.peerId
      ((collectJobs s.service order call.exclude).tried answers) = 1 :=
    attemptsTo_tried _ _ _ (mem_eligible.mp eligible).2
  have again : 0 < attemptsTo attempt.peerId left :=
    List.countP_pos_iff.mpr ⟨attempt, member, decide_eq_true rfl⟩
  rw [whole, attemptsTo, List.countP_append] at total
  have once := isolated.once attempt.peerId eligible
  unfold attemptsTo at once again
  omega

/-- A message that is forwarded is not carried again, so who was not served is not. -/
theorem localNode_of_failed {job : LinkId × PeerId} {error : GossipError}
    (isolated : FailureIsolated wire order answers s call)
    (carried : call.isCarried wire s = true)
    (failed : (fanOut wire order answers s call).result = .error error)
    (whole : (collectJobs s.service order call.exclude).tried answers =
      (fanOut wire order answers s call).attempts)
    (reached : sendAttempt answers job ∈ (fanOut wire order answers s call).attempts)
    (fails : answers.sends job.2 = false) : call.origin = .localNode := by
  have tables : SameTables (call.record wire s) (fanOut wire order answers s call).state :=
    sameTables_fanOut carried
  have tried : sendAttempt answers job ∈
      (collectJobs s.service order call.exclude).tried answers := by
    rw [whole]
    exact reached
  cases origin : call.origin with
  | localNode => rfl
  | forwarded =>
      exfalso
      rcases isolated.retried error failed job.2 (eligible_of_mem_tried carried tried) with
        served | repeated
      · rcases served with ⟨attempt, made, same, served⟩
        rw [<- whole] at made
        rw [eq_of_mem_tried made tried same, sendAttempt, fails] at served
        cases served
      · rcases repeated order with ⟨attempt, made, _⟩
        have suppressed : call.isCarried wire (fanOut wire order answers s call).state = false := by
          unfold Call.isCarried Call.isSuppressed
          rw [tables.2, origin]
          simp [Call.record]
        rw [(fanOut_of_not_carried suppressed).1] at made
        cases made

/-- A call that a failed send ends serves as it should only if it is the
node's own and the failure is the last thing tried. -/
theorem last_of_isolated {before after : List (LinkId × PeerId)} {job : LinkId × PeerId}
    (isolated : FailureIsolated wire order answers s call)
    (carried : call.isCarried wire s = true)
    (jobs : (collectJobs s.service order call.exclude).eager = before ++ job :: after)
    (sends : ∀ job ∈ before, answers.sends job.2 = true) (fails : answers.sends job.2 = false) :
    call.origin = .localNode ∧ (collectJobs s.service order call.exclude).nat = [] ∧
      after = [] := by
  have delivered := deliver_failed (messageWireLen wire call.message) jobs sends fails
    (call.record wire s)
  rw [<- fanOut_of_carried carried] at delivered
  rcases delivered with ⟨attempts, error, failed⟩
  have whole : (collectJobs s.service order call.exclude).tried answers =
      (fanOut wire order answers s call).attempts ++
        (after.map (sendAttempt answers) ++
          (collectJobs s.service order call.exclude).nat.map (offerAttempt answers)) := by
    rw [attempts, Jobs.tried, jobs, List.append_cons, List.map_append]
    simp only [List.append_assoc]
  have none := nothing_left isolated carried whole
  rw [none, List.append_nil] at whole
  rcases List.append_eq_nil_iff.mp none with ⟨links, sinks⟩
  refine ⟨?_, List.map_eq_nil_iff.mp sinks, List.map_eq_nil_iff.mp links⟩
  apply localNode_of_failed isolated carried failed whole _ fails
  rw [attempts]
  exact List.mem_append_right _ (List.mem_map_of_mem (List.mem_append_right _ (by simp)))

/-- A broadcast isolates failures exactly when it is for nobody or its sends hold. -/
theorem fanOut_isolates_iff (wire : Wire) (order : PeerId -> Nat) (answers : Answers)
    (s : GossipState) (call : Call) :
    FailureIsolated wire order answers s call ↔
      (call.isCarried wire s = false ∨ SendsHold order answers s call) := by
  cases carried : call.isCarried wire s with
  | false =>
      have nobody : forall peerId, peerId ∉ call.eligible wire s := by
        intro peerId eligible
        rw [mem_eligible, carried] at eligible
        cases eligible.1
      constructor
      · exact fun _ => Or.inl rfl
      · intro _
        exact
          { once := fun peerId eligible => absurd eligible (nobody peerId)
            serves := fun peerId eligible => absurd eligible (nobody peerId)
            retried := fun _ _ peerId eligible => absurd eligible (nobody peerId) }
  | true =>
      rw [SendsHold, <- collectJobs_links, <- collectJobs_sinks, List.map_eq_nil_iff,
        <- List.map_dropLast, List.forall_mem_map, List.forall_mem_map]
      rcases sends_or_fails answers (collectJobs s.service order call.exclude).eager
        with sends | ⟨before, job, after, jobs, sends, fails⟩
      · constructor
        · exact fun _ => Or.inr (Or.inl sends)
        · intro _
          apply isolated_of_sends _ carried
          rw [<- collectJobs_links]
          exact List.forall_mem_map.mpr sends
      · constructor
        · intro isolated
          rcases last_of_isolated isolated carried jobs sends fails with ⟨origin, sinks, rfl⟩
          refine Or.inr (Or.inr ⟨origin, sinks, ?_⟩)
          rw [jobs, List.dropLast_concat]
          exact sends
        · intro holds
          rcases holds with idle | all | ⟨origin, sinks, others⟩
          · cases idle
          · have failed := all job (by rw [jobs]; simp)
            rw [fails] at failed
            cases failed
          · cases after with
            | nil => exact isolated_of_last carried origin jobs sinks sends fails
            | cons next rest =>
                have failed := others job (by rw [jobs]; simp)
                rw [fails] at failed
                cases failed

end Isolation

namespace Example

/-- The digest of the one octet 20, and the frame of a message without an id or a body. -/
def wire : Wire where
  sha256 := fun _ =>
    ⟨⟨[131, 137, 29, 127, 232, 92, 51, 229, 44, 139, 78, 88, 20, 201, 47, 182,
      163, 185, 70, 114, 153, 32, 5, 56, 166, 186, 186, 168, 180, 82, 216, 121]⟩, rfl⟩
  toBytes := fun message => [message.msgType, 0, 0, 0, 0, 0]

def message : DigMessage where
  msgType := 20
  id := none
  data := []

/-- An outbound live slot over the link of the peer's number. -/
def liveSlot (peerId : PeerId) : PeerSlot :=
  .live
    { metadata := { remote := host peerId.val 1, isOutbound := true }
      peer := peerId.val
      generation := peerId.val }

/-- An outbound session slot, with the sink of the peer's number. -/
def sunkSlot (peerId : PeerId) : PeerSlot :=
  .nat
    { conn := .owned peerId.val
      sink := some peerId.val
      remote := host peerId.val 1
      isOutbound := true
      method := .direct }

/-- A running node that holds the peers, all of them eager. -/
def holding (peers : Peers) : GossipState where
  service :=
    { ServiceState.started config .empty (host 0 0) 1000 with
      peers := peers
      plumtree := { eagerPeers := peers.keys, lazyPeers := ∅ } }
  seenMessages := .new 100000
  messageCache := .new 1000
  messagesSent := 0
  bytesSent := 0
  traffic := ∅

def pair : GossipState :=
  holding (((∅ : Peers).insert 1 (liveSlot 1)).insert 2 (liveSlot 2))

/-- The link to the peer 1 is broken. -/
def firstBroken : Answers where
  sendMessage := fun peerId => if peerId = 1 then .error "closed" else .ok ()
  offer := fun _ => true

end Example

/-- The peer behind the broken link is never tried, and the repeat is dropped. -/
theorem fanOut_skips_the_rest :
    ¬ FailureIsolated Example.wire (fun peerId => peerId.val) Example.firstBroken Example.pair
      { message := Example.message, exclude := none, origin := .forwarded } := by
  intro isolated
  have once := isolated.once 2 (by decide +kernel)
  revert once
  decide +kernel

/-! ## Delivered and unreachable peers -/

def PeerSlot.hasSink : PeerSlot -> Bool
  | .nat slot => slot.sink.isSome
  | .live _ => false
  | .stub _ => false

/-- The peers of the jobs that a call without exclusion collects. -/
theorem length_tried (answers : Answers) (s : ServiceState) (order : PeerId -> Nat) :
    ((collectJobs s order none).tried answers).length =
      FiniteMap.countWhere s.peers fun peerId slot => (s.plumtree.routeTo peerId slot).isSome := by
  calc
    ((collectJobs s order none).tried answers).length
        = ((listing order s.peers.keys).filterMap (answers.attempt s none)).length :=
          (tried_collectJobs answers s none order).length_eq
    _ = (listing order s.peers.keys).countP fun peerId => (routeTo s none peerId).isSome := by
      rw [List.length_filterMap_eq_countP]
      apply List.countP_congr
      intro peerId member
      rw [isSome_attempt]
    _ = FiniteMap.countWhere s.peers fun peerId slot =>
          (s.plumtree.routeTo peerId slot).isSome := by
      rw [countP_listing, FiniteMap.countWhere, FiniteMap.keysWhere]
      congr 1
      apply Finset.filter_congr
      intro peerId member
      rw [routeTo, if_neg (by simp)]
      cases s.peers.lookup peerId <;> rfl

/-- The routes and the unreachable peers cover the map, the peers with a sink twice. -/
theorem routes_add_unreachable (s : ServiceState) :
    (FiniteMap.countWhere s.peers fun peerId slot => (s.plumtree.routeTo peerId slot).isSome) +
        unreachablePeerCount s =
      FiniteMap.size s.peers + FiniteMap.countWhere s.peers fun _ slot => slot.hasSink := by
  rw [FiniteMap.size_eq_countWhere]
  apply FiniteMap.countWhere_add
  intro peerId slot found
  simp only [FiniteMap.weight_some]
  cases slot with
  | stub peer => rfl
  | live slot =>
      unfold PlumtreeState.routeTo
      by_cases eager : s.plumtree.isEager peerId = true
      · simp [eager, PeerSlot.hasSink]
      · simp [eager, PeerSlot.hasSink]
  | nat slot =>
      rw [PeerSlot.hasSink, PlumtreeState.routeTo, Option.isSome_map]
      exact Nat.add_comm _ _

/-- A broadcast that excludes nobody and finds every transport willing, whatever
the tree holds: its count and the unreachable count add up to the connected
peers exactly when no session peer has a sink. -/
theorem fanOut_accounts_iff (wire : Wire) (order : PeerId -> Nat) {answers : Answers}
    {s : GossipState} {message : DigMessage} {origin : MessageOrigin}
    (carried : Call.isCarried wire { message := message, exclude := none, origin := origin } s = true)
    (willing : forall peerId, answers.sends peerId = true ∧ answers.offer peerId = true) :
    (exists delivered,
        (fanOut wire order answers s
          { message := message, exclude := none, origin := origin }).result = .ok delivered ∧
        delivered + unreachablePeerCount s.service = FiniteMap.size s.service.peers) ↔
      forall peerId slot, s.service.peers.lookup peerId = some slot -> slot.hasSink = false := by
  have offers : (collectJobs s.service order none).nat.countP (fun job => answers.offer job.2) =
      (collectJobs s.service order none).nat.length :=
    List.countP_eq_length.mpr fun job _ => (willing job.2).2
  have counted : (collectJobs s.service order none).stubs.length +
      (collectJobs s.service order none).eager.length +
        (collectJobs s.service order none).nat.length =
      FiniteMap.countWhere s.service.peers fun peerId slot =>
        (s.service.plumtree.routeTo peerId slot).isSome := by
    rw [<- length_tried answers s.service order, Jobs.tried]
    simp only [List.length_append, List.length_map]
  have covers := routes_add_unreachable s.service
  rw [fanOut_of_carried carried,
    (deliver_sent _ (fun job _ => (willing job.2).1) _).2, offers, counted]
  constructor
  · rintro ⟨delivered, answer, total⟩
    cases answer
    have noSink : FiniteMap.countWhere s.service.peers (fun _ slot => slot.hasSink) = 0 := by
      omega
    intro peerId slot found
    by_contra sinks
    have positive : 0 < FiniteMap.countWhere s.service.peers fun _ slot => slot.hasSink :=
      FiniteMap.countWhere_pos found (Bool.eq_true_of_not_eq_false sinks)
    omega
  · intro noSink
    refine ⟨_, rfl, ?_⟩
    rw [covers, FiniteMap.countWhere_eq_zero noSink]
    rfl

namespace Example

def sunk : GossipState :=
  holding ((∅ : Peers).insert 3 (sunkSlot 3))

end Example

/-- The one peer is delivered to and counted as unreachable. -/
theorem fanOut_counts_twice :
    ¬ exists delivered,
      (fanOut Example.wire (fun _ => 0) .willing Example.sunk
        { message := Example.message, exclude := none, origin := .forwarded }).result =
          .ok delivered ∧
      delivered + unreachablePeerCount Example.sunk.service =
        FiniteMap.size Example.sunk.service.peers := by
  rintro ⟨delivered, answer, total⟩
  have counted : (fanOut Example.wire (fun _ => 0) .willing Example.sunk
      { message := Example.message, exclude := none, origin := .forwarded }).result = .ok 1 := by
    decide +kernel
  rw [counted] at answer
  cases answer
  revert total
  decide +kernel

/-- Two live peers are both delivered to, and none is unreachable. -/
theorem fanOut_accounts_for_pair :
    (exists delivered,
        (fanOut Example.wire (fun _ => 0) .willing Example.pair
          { message := Example.message, exclude := none, origin := .forwarded }).result =
            .ok delivered ∧
        delivered + unreachablePeerCount Example.pair.service =
          FiniteMap.size Example.pair.service.peers) :=
  (fanOut_accounts_iff Example.wire (fun _ => 0) (by decide +kernel) fun _ => ⟨rfl, rfl⟩).mpr (by
    intro peerId slot found
    rcases FiniteMap.of_lookup_insert found with ⟨rfl, rfl⟩ | ⟨_, found⟩
    · rfl
    · rcases FiniteMap.of_lookup_insert found with ⟨rfl, rfl⟩ | ⟨_, found⟩
      · rfl
      · cases found)

end Service
end DigGossip
