import DigGossip.Foundations.Listing
import DigGossip.Service.Broadcast

namespace DigGossip
namespace Service

open Foundations DigGossip.Types

/-!
# What a fan-out serves

The jobs that a fan-out collects, tried one after another, are the routes to
the peers of the map.  A fan-out that reaches its end tries each of them; one
that a failed send ends has tried the stubs and the links up to that one, and
its message is in the seen set by then.
-/

/-- How the slot of a peer is served, if it is. -/
def PlumtreeState.routeTo (tree : PlumtreeState) (peerId : PeerId) : PeerSlot -> Option Route
  | .stub _ => some .stub
  | .live slot => if tree.isEager peerId then some (.link slot.peer) else none
  | .nat slot => slot.sink.map .sink

/-- How a broadcast that excludes one peer serves another. -/
def routeTo (s : ServiceState) (exclude : Option PeerId) (peerId : PeerId) : Option Route :=
  if exclude = some peerId then none
  else (s.peers.lookup peerId).bind (s.plumtree.routeTo peerId)

namespace Answers

/-- The send to a peer succeeds. -/
def sends (answers : Answers) (peerId : PeerId) : Bool :=
  (answers.sendMessage peerId).isOk

def takes (answers : Answers) (peerId : PeerId) : Route -> Bool
  | .stub => true
  | .link _ => answers.sends peerId
  | .sink _ => answers.offer peerId

/-- Every send and every offer succeeds. -/
def willing : Answers where
  sendMessage := fun _ => .ok ()
  offer := fun _ => true

theorem takes_willing (peerId : PeerId) (route : Route) :
    willing.takes peerId route = true := by
  cases route <;> rfl

/-- What trying the route to a peer comes to. -/
def attempt (answers : Answers) (s : ServiceState) (exclude : Option PeerId) (peerId : PeerId) :
    Option Attempt :=
  (routeTo s exclude peerId).map fun route =>
    { peerId := peerId, route := route, served := answers.takes peerId route }

end Answers

section Attempts

variable {answers : Answers} {s : ServiceState} {exclude : Option PeerId} {peerId : PeerId}

theorem mem_attempt {attempt : Attempt} (tried : answers.attempt s exclude peerId = some attempt) :
    attempt.peerId = peerId ∧ routeTo s exclude peerId = some attempt.route ∧
      attempt.served = answers.takes peerId attempt.route := by
  unfold Answers.attempt at tried
  cases routes : routeTo s exclude peerId with
  | none => rw [routes] at tried; cases tried
  | some route =>
      rw [routes] at tried
      cases tried
      exact ⟨rfl, rfl, rfl⟩

theorem isSome_attempt (answers : Answers) (s : ServiceState) (exclude : Option PeerId)
    (peerId : PeerId) :
    (answers.attempt s exclude peerId).isSome = (routeTo s exclude peerId).isSome := by
  rw [Answers.attempt, Option.isSome_map]

end Attempts

/-! ## The jobs are the routes -/

section Links

variable (answers : Answers)

def sendAttempt (job : LinkId × PeerId) : Attempt where
  peerId := job.2
  route := .link job.1
  served := answers.sends job.2

def offerAttempt (job : SinkId × PeerId) : Attempt where
  peerId := job.2
  route := .sink job.1
  served := answers.offer job.2

def stubAttempt (peerId : PeerId) : Attempt where
  peerId := peerId
  route := .stub
  served := true

/-- Every job, tried. -/
def Jobs.tried (jobs : Jobs) : List Attempt :=
  jobs.stubs.map stubAttempt ++ jobs.eager.map (sendAttempt answers) ++
    jobs.nat.map (offerAttempt answers)

end Links

section Collecting

variable (answers : Answers) (s : ServiceState) (exclude : Option PeerId)

/-- One slot adds the attempt of its route. -/
theorem tried_collect (jobs : Jobs) (peerId : PeerId) :
    ((jobs.collect s.peers s.plumtree exclude peerId).tried answers).Perm
      ((answers.attempt s exclude peerId).toList ++ jobs.tried answers) := by
  unfold Jobs.collect Answers.attempt routeTo
  by_cases excluded : exclude = some peerId
  · rw [if_pos excluded, if_pos excluded]
    exact List.Perm.refl _
  rw [if_neg excluded, if_neg excluded]
  cases s.peers.lookup peerId with
  | none => exact List.Perm.refl _
  | some slot =>
      cases slot with
      | stub peer =>
          simp only [Jobs.tried, List.map_append, List.append_assoc]
          exact List.perm_middle
      | live slot =>
          simp only [Option.bind_some, PlumtreeState.routeTo]
          cases s.plumtree.isEager peerId with
          | false => exact List.Perm.refl _
          | true =>
              simp only [Jobs.tried, List.map_append, if_true]
              rw [<- List.append_assoc, List.append_assoc]
              exact List.perm_middle
      | nat slot =>
          simp only [Option.bind_some, PlumtreeState.routeTo]
          cases slot.sink with
          | none => exact List.Perm.refl _
          | some sink =>
              simp only [Jobs.tried, List.map_append]
              rw [<- List.append_assoc]
              exact List.perm_append_singleton _ _

theorem tried_foldl (peers : List PeerId) (jobs : Jobs) :
    ((peers.foldl (Jobs.collect s.peers s.plumtree exclude) jobs).tried answers).Perm
      (peers.filterMap (answers.attempt s exclude) ++ jobs.tried answers) := by
  induction peers generalizing jobs with
  | nil => exact List.Perm.refl _
  | cons peerId peers inner =>
      have rest := inner (jobs.collect s.peers s.plumtree exclude peerId)
      have both := rest.trans ((tried_collect answers s exclude jobs peerId).append_left _)
      rw [List.foldl_cons]
      cases tried : answers.attempt s exclude peerId with
      | none =>
          rw [List.filterMap_cons_none tried]
          rw [tried] at both
          exact both
      | some attempt =>
          rw [List.filterMap_cons_some tried]
          rw [tried] at both
          exact both.trans List.perm_middle

/-- The jobs of a fan-out, tried, are the attempts of the routes, one for each peer. -/
theorem tried_collectJobs (order : PeerId -> Nat) :
    ((collectJobs s order exclude).tried answers).Perm
      ((listing order s.peers.keys).filterMap (answers.attempt s exclude)) := by
  have jobs := tried_foldl answers s exclude (listing order s.peers.keys) .none
  have nothing : Jobs.none.tried answers = [] := rfl
  rw [nothing, List.append_nil] at jobs
  exact jobs

theorem mem_listing_of_route {s : ServiceState} {exclude : Option PeerId}
    (order : PeerId -> Nat) {peerId : PeerId}
    (routes : (routeTo s exclude peerId).isSome = true) : peerId ∈ listing order s.peers.keys := by
  rw [mem_listing, FiniteMap.mem_keys_iff]
  unfold routeTo at routes
  split at routes
  · cases routes
  · cases found : s.peers.lookup peerId with
    | none => rw [found] at routes; cases routes
    | some slot => rfl

/-- The attempts that go to a peer. -/
def attemptsTo (peerId : PeerId) (attempts : List Attempt) : Nat :=
  attempts.countP fun attempt => decide (attempt.peerId = peerId)

/-- Each peer with a route is tried once. -/
theorem attemptsTo_tried {order : PeerId -> Nat} {peerId : PeerId}
    (routes : (routeTo s exclude peerId).isSome = true) :
    attemptsTo peerId ((collectJobs s order exclude).tried answers) = 1 := by
  have held := mem_listing_of_route order routes
  calc
    attemptsTo peerId ((collectJobs s order exclude).tried answers)
        = attemptsTo peerId ((listing order s.peers.keys).filterMap
            (answers.attempt s exclude)) := (tried_collectJobs answers s exclude order).countP_eq _
    _ = (listing order s.peers.keys).countP fun other => decide (other = peerId) := by
      rw [attemptsTo, List.countP_filterMap]
      apply List.countP_congr
      intro other member
      cases tried : answers.attempt s exclude other with
      | none =>
          have silent := isSome_attempt answers s exclude other
          rw [tried] at silent
          simp only [Option.map_none, Option.getD_none, Bool.false_eq_true, false_iff,
            decide_eq_true_eq]
          rintro rfl
          rw [routes] at silent
          cases silent
      | some attempt =>
          simp only [Option.map_some, Option.getD_some]
          rw [(mem_attempt tried).1]
    _ = 1 := List.count_eq_one_of_mem (nodup_listing order s.peers.keys) held

variable {answers s exclude}

theorem mem_tried {order : PeerId -> Nat} {attempt : Attempt}
    (tried : attempt ∈ (collectJobs s order exclude).tried answers) :
    routeTo s exclude attempt.peerId = some attempt.route ∧
      attempt.served = answers.takes attempt.peerId attempt.route := by
  have member := (tried_collectJobs answers s exclude order).mem_iff.mp tried
  rcases List.mem_filterMap.mp member with ⟨peerId, held, isAttempt⟩
  rcases mem_attempt isAttempt with ⟨rfl, routes, served⟩
  exact ⟨routes, served⟩

/-- A peer with a route is tried on it. -/
theorem tried_of_route {peerId : PeerId} {route : Route}
    (routes : routeTo s exclude peerId = some route) (order : PeerId -> Nat) :
    { peerId := peerId, route := route, served := answers.takes peerId route } ∈
      (collectJobs s order exclude).tried answers := by
  have isAttempt : answers.attempt s exclude peerId =
      some { peerId := peerId, route := route, served := answers.takes peerId route } := by
    rw [Answers.attempt, routes]
    rfl
  have held : peerId ∈ listing order s.peers.keys :=
    mem_listing_of_route order (by rw [routes]; rfl)
  apply (tried_collectJobs answers s exclude order).mem_iff.mpr
  exact List.mem_filterMap.mpr ⟨peerId, held, isAttempt⟩

/-- A peer is tried in one way. -/
theorem eq_of_mem_tried {order : PeerId -> Nat} {first second : Attempt}
    (firstTried : first ∈ (collectJobs s order exclude).tried answers)
    (secondTried : second ∈ (collectJobs s order exclude).tried answers)
    (same : first.peerId = second.peerId) : first = second := by
  rcases mem_tried firstTried with ⟨firstRoutes, firstServed⟩
  rcases mem_tried secondTried with ⟨secondRoutes, secondServed⟩
  rcases first with ⟨peerId, route, served⟩
  rcases second with ⟨other, otherRoute, otherServed⟩
  simp only at same firstRoutes secondRoutes firstServed secondServed
  subst same
  rw [firstRoutes] at secondRoutes
  cases secondRoutes
  rw [firstServed, secondServed]

end Collecting

/-! ## The loops -/

/-- What a fan-out's state keeps while it delivers. -/
def SameTables (before after : GossipState) : Prop :=
  after.service = before.service ∧ after.seenMessages = before.seenMessages

theorem SameTables.trans {first second third : GossipState} (before : SameTables first second)
    (after : SameTables second third) : SameTables first third :=
  ⟨after.1.trans before.1, after.2.trans before.2⟩

theorem sameTables_countSent (s : GossipState) (wireLen deliveries : Nat) :
    SameTables s (s.countSent wireLen deliveries) :=
  ⟨rfl, rfl⟩

theorem sameTables_recordLivePeerOutboundBytes (s : GossipState) (peerId : PeerId)
    (wireLen : Nat) : SameTables s (s.recordLivePeerOutboundBytes peerId wireLen) := by
  unfold GossipState.recordLivePeerOutboundBytes
  split
  · exact ⟨rfl, rfl⟩
  · exact ⟨rfl, rfl⟩

section Loops

variable (answers : Answers) (wireLen : Nat)

theorem sameTables_eagerPush (jobs : List (LinkId × PeerId)) (s : GossipState) :
    SameTables s (eagerPush answers wireLen jobs s).state := by
  induction jobs generalizing s with
  | nil => exact ⟨rfl, rfl⟩
  | cons job jobs inner =>
      unfold eagerPush
      cases answers.sendMessage job.2 with
      | error detail => exact ⟨rfl, rfl⟩
      | ok sent => exact (sameTables_recordLivePeerOutboundBytes s job.2 wireLen).trans (inner _)

theorem sameTables_natOffers (jobs : List (SinkId × PeerId)) (s : GossipState) :
    SameTables s (natOffers answers wireLen jobs s).state := by
  induction jobs generalizing s with
  | nil => exact ⟨rfl, rfl⟩
  | cons job jobs inner =>
      unfold natOffers
      cases answers.offer job.2 with
      | false => exact inner s
      | true => exact (sameTables_recordLivePeerOutboundBytes s job.2 wireLen).trans (inner _)

/-- The sink loop offers to every peer of its list. -/
theorem natOffers_attempts (jobs : List (SinkId × PeerId)) (s : GossipState) :
    (natOffers answers wireLen jobs s).attempts = jobs.map (offerAttempt answers) ∧
      (natOffers answers wireLen jobs s).deliveries = jobs.countP fun job => answers.offer job.2 := by
  induction jobs generalizing s with
  | nil => exact ⟨rfl, rfl⟩
  | cons job jobs inner =>
      unfold natOffers
      rw [List.map_cons, List.countP_cons, offerAttempt]
      cases taken : answers.offer job.2 with
      | false => exact ⟨congrArg _ (inner s).1, (inner s).2⟩
      | true => exact ⟨congrArg _ (inner _).1, congrArg (· + 1) (inner _).2⟩

variable {answers}

/-- Without a failure the eager loop sends to every peer of its list. -/
theorem eagerPush_sent {jobs : List (LinkId × PeerId)}
    (sends : ∀ job ∈ jobs, answers.sends job.2 = true) (s : GossipState) :
    (eagerPush answers wireLen jobs s).attempts = jobs.map (sendAttempt answers) ∧
      (eagerPush answers wireLen jobs s).result = .ok () := by
  induction jobs generalizing s with
  | nil => exact ⟨rfl, rfl⟩
  | cons job jobs inner =>
      have here := sends job List.mem_cons_self
      have later := inner fun other member => sends other (List.mem_cons_of_mem job member)
      unfold eagerPush
      rw [List.map_cons, sendAttempt]
      unfold Answers.sends at here ⊢
      cases sent : answers.sendMessage job.2 with
      | error detail => rw [sent] at here; cases here
      | ok sent => exact ⟨congrArg _ (later _).1, (later _).2⟩

/-- The first failure ends the eager loop. -/
theorem eagerPush_failed {before after : List (LinkId × PeerId)} {job : LinkId × PeerId}
    (sends : ∀ job ∈ before, answers.sends job.2 = true) (fails : answers.sends job.2 = false)
    (s : GossipState) :
    (eagerPush answers wireLen (before ++ job :: after) s).attempts =
        (before ++ [job]).map (sendAttempt answers) ∧
      exists error, (eagerPush answers wireLen (before ++ job :: after) s).result = .error error := by
  induction before generalizing s with
  | nil =>
      rw [List.nil_append, List.nil_append, List.map_singleton, sendAttempt]
      unfold eagerPush
      unfold Answers.sends at fails ⊢
      cases failed : answers.sendMessage job.2 with
      | error detail => exact ⟨rfl, _, rfl⟩
      | ok sent => rw [failed] at fails; cases fails
  | cons first before inner =>
      have here := sends first List.mem_cons_self
      have later := inner fun other member => sends other (List.mem_cons_of_mem first member)
      rw [List.cons_append, List.cons_append, List.map_cons, sendAttempt]
      unfold eagerPush
      unfold Answers.sends at here ⊢
      cases sent : answers.sendMessage first.2 with
      | error detail => rw [sent] at here; cases here
      | ok sent => exact ⟨congrArg _ (later _).1, (later _).2⟩

theorem sameTables_deliver (jobs : Jobs) (s : GossipState) :
    SameTables s (deliver answers wireLen jobs s).state := by
  have pushed := (sameTables_countSent s wireLen jobs.stubs.length).trans
    (sameTables_eagerPush answers wireLen jobs.eager _)
  unfold deliver
  simp only
  split
  · exact pushed
  · exact (pushed.trans (sameTables_natOffers answers wireLen jobs.nat _)).trans
      (sameTables_countSent _ _ _)

/-- Without a failed send every job is tried and the answer counts the served ones. -/
theorem deliver_sent {jobs : Jobs} (sends : ∀ job ∈ jobs.eager, answers.sends job.2 = true)
    (s : GossipState) :
    (deliver answers wireLen jobs s).attempts = jobs.tried answers ∧
      (deliver answers wireLen jobs s).result =
        .ok (jobs.stubs.length + jobs.eager.length +
          jobs.nat.countP fun job => answers.offer job.2) := by
  have pushed := eagerPush_sent wireLen sends (s.countSent wireLen jobs.stubs.length)
  have offered := natOffers_attempts answers wireLen jobs.nat
    (eagerPush answers wireLen jobs.eager (s.countSent wireLen jobs.stubs.length)).state
  unfold deliver
  simp only
  rw [pushed.2]
  simp only
  rw [pushed.1, offered.1, offered.2]
  exact ⟨rfl, rfl⟩

/-- A failed send leaves the later links and all sinks untried. -/
theorem deliver_failed {jobs : Jobs} {before after : List (LinkId × PeerId)}
    {job : LinkId × PeerId} (split : jobs.eager = before ++ job :: after)
    (sends : ∀ job ∈ before, answers.sends job.2 = true) (fails : answers.sends job.2 = false)
    (s : GossipState) :
    (deliver answers wireLen jobs s).attempts =
        jobs.stubs.map stubAttempt ++ (before ++ [job]).map (sendAttempt answers) ∧
      exists error, (deliver answers wireLen jobs s).result = .error error := by
  rcases eagerPush_failed wireLen sends fails (s.countSent wireLen jobs.stubs.length)
    with ⟨attempts, error, failed⟩
  unfold deliver
  simp only
  rw [split, failed]
  simp only
  rw [attempts]
  exact ⟨rfl, error, rfl⟩

/-- The first failed send, if there is one. -/
theorem sends_or_fails (answers : Answers) (jobs : List (LinkId × PeerId)) :
    (∀ job ∈ jobs, answers.sends job.2 = true) ∨
      exists before job after, jobs = before ++ job :: after ∧
        (∀ job ∈ before, answers.sends job.2 = true) ∧ answers.sends job.2 = false := by
  cases found : jobs.find? fun job => !answers.sends job.2 with
  | none =>
      left
      intro job member
      simpa using List.find?_eq_none.mp found job member
  | some job =>
      right
      rcases List.find?_eq_some_iff_append.mp found with ⟨fails, before, after, split, sends⟩
      refine ⟨before, job, after, split, ?_, by simpa using fails⟩
      intro other member
      simpa using sends other member

end Loops

/-! ## The peers a fan-out is for -/

namespace Route

def isLink : Route -> Bool
  | .link _ => true
  | _ => false

def isSink : Route -> Bool
  | .sink _ => true
  | _ => false

end Route

/-- The peers served over one kind of route, in the order of the traversal. -/
def routed (s : ServiceState) (order : PeerId -> Nat) (exclude : Option PeerId)
    (kind : Route -> Bool) : List PeerId :=
  (listing order s.peers.keys).filter fun peerId => (routeTo s exclude peerId).any kind

section Routed

variable (s : ServiceState) (exclude : Option PeerId)

theorem collect_links (jobs : Jobs) (peerId : PeerId) :
    (jobs.collect s.peers s.plumtree exclude peerId).eager.map Prod.snd =
        jobs.eager.map Prod.snd ++
          [peerId].filter (fun peerId => (routeTo s exclude peerId).any Route.isLink) ∧
      (jobs.collect s.peers s.plumtree exclude peerId).nat.map Prod.snd =
        jobs.nat.map Prod.snd ++
          [peerId].filter (fun peerId => (routeTo s exclude peerId).any Route.isSink) := by
  have nothing : forall peers : List PeerId, peers = peers ++ [] := fun peers =>
    (List.append_nil peers).symm
  rw [List.filter_singleton, List.filter_singleton]
  unfold Jobs.collect routeTo
  by_cases excluded : exclude = some peerId
  · rw [if_pos excluded, if_pos excluded]
    exact ⟨nothing _, nothing _⟩
  rw [if_neg excluded, if_neg excluded]
  cases s.peers.lookup peerId with
  | none => exact ⟨nothing _, nothing _⟩
  | some slot =>
      cases slot with
      | stub peer => exact ⟨nothing _, nothing _⟩
      | live slot =>
          simp only [Option.bind_some, PlumtreeState.routeTo]
          cases s.plumtree.isEager peerId with
          | false => exact ⟨nothing _, nothing _⟩
          | true => exact ⟨List.map_append, nothing _⟩
      | nat slot =>
          simp only [Option.bind_some, PlumtreeState.routeTo]
          cases slot.sink with
          | none => exact ⟨nothing _, nothing _⟩
          | some sink => exact ⟨nothing _, List.map_append⟩

theorem foldl_links (peers : List PeerId) (jobs : Jobs) :
    (peers.foldl (Jobs.collect s.peers s.plumtree exclude) jobs).eager.map Prod.snd =
        jobs.eager.map Prod.snd ++
          peers.filter (fun peerId => (routeTo s exclude peerId).any Route.isLink) ∧
      (peers.foldl (Jobs.collect s.peers s.plumtree exclude) jobs).nat.map Prod.snd =
        jobs.nat.map Prod.snd ++
          peers.filter (fun peerId => (routeTo s exclude peerId).any Route.isSink) := by
  induction peers generalizing jobs with
  | nil => exact ⟨(List.append_nil _).symm, (List.append_nil _).symm⟩
  | cons peerId peers inner =>
      rcases inner (jobs.collect s.peers s.plumtree exclude peerId) with ⟨links, sinks⟩
      rcases collect_links s exclude jobs peerId with ⟨link, sink⟩
      rw [List.foldl_cons, links, sinks, link, sink, List.append_assoc, List.append_assoc,
        <- List.filter_append, <- List.filter_append]
      exact ⟨rfl, rfl⟩

theorem collectJobs_links (order : PeerId -> Nat) :
    (collectJobs s order exclude).eager.map Prod.snd = routed s order exclude Route.isLink :=
  (foldl_links s exclude (listing order s.peers.keys) .none).1

theorem collectJobs_sinks (order : PeerId -> Nat) :
    (collectJobs s order exclude).nat.map Prod.snd = routed s order exclude Route.isSink :=
  (foldl_links s exclude (listing order s.peers.keys) .none).2

end Routed

end Service
end DigGossip
