import DigGossip.Discovery.ReceivedPeers
import DigGossip.Discovery.Runs
import DigGossip.Foundations.Simulation

namespace DigGossip
namespace Discovery

open Foundations DigGossip.Types

/-!
# The discovery loop

The loop looks at the size of the address book, seeds an empty one from the DNS
and, when that gives nothing, from the introducer, and backs off when both fail.
Other tasks work on the same book before every turn and while the loop waits for
an answer.  The book is therefore only ever changed by operations of its own,
and what the loop reports follows a grammar whatever the other tasks do.
-/

def maxIntroducerBackoffSecs : Nat := 300

inductive DiscoveryAction where
  | dnsSeeded (count : Nat)
  | introducerQueried (count : Nat)
  | introducerBackoff (backoffSecs : Nat)
  | cycleSleep
  | cancelled
deriving DecidableEq

/-- What a query of the introducer meets.  The certificate is loaded or
generated, and the list is answered over the network; each peer stands with what
its addition draws, and `total` is the counter of received peers at its load. -/
inductive IntroducerQuery where
  | notConfigured
  | certificateFails (detail : String)
  | queryFails (detail : String)
  | answers (peers : List (TimestampedPeerInfo × Inner.AddInputs)) (total : Nat)

/-- The answered list after both caps, each peer still with its draws. -/
def cappedAnswer (peers : List (TimestampedPeerInfo × Inner.AddInputs)) (total : Nat) :
    List (TimestampedPeerInfo × Inner.AddInputs) :=
  peers.take
    (Program.alone CounterAction.exec (capReceivedPeers (peers.map Prod.fst)) total).2.length

def introducerSource : PeerInfo := { host := "introducer", port := 0 }

/-- `try_introducer_query`, and what it does to the book. -/
def tryIntroducerQuery : IntroducerQuery -> Except String Nat × List Operation
  | .notConfigured => (.ok 0, [])
  | .certificateFails detail => (.error detail, [])
  | .queryFails detail => (.error detail, [])
  | .answers peers total =>
      let capped := cappedAnswer peers total
      (.ok capped.length,
        if capped.isEmpty then [] else [.addToNewTable capped introducerSource 0])

/-- What one turn of the loop finds. -/
structure DiscoveryTurn where
  /-- What other tasks do to the book before the turn. -/
  others : List Operation
  cancelled : Bool
  /-- What they do between the look at the size and the addition of the peers. -/
  meanwhile : List Operation
  dns : List ((String × UInt16) × Inner.AddInputs)
  timestamp : Nat
  introducer : IntroducerQuery
  cancelledAsleep : Bool

/-- `timestamped_peer_infos_from_dns_addrs`. -/
def DiscoveryTurn.dnsRows (turn : DiscoveryTurn) : List (TimestampedPeerInfo × Inner.AddInputs) :=
  turn.dns.map fun addr =>
    ({ host := addr.1.1, port := addr.1.2, timestamp := turn.timestamp }, addr.2)

structure DiscoveryLoop where
  book : Inner
  introducerBackoffSecs : Nat
  log : List DiscoveryAction
  ended : Bool

/-- How an empty book is seeded: what is reported, if any peer came, and what is done
to the book. -/
def DiscoveryTurn.seed (listenPort : UInt16) (turn : DiscoveryTurn) :
    Option DiscoveryAction × List Operation :=
  if turn.dns.isEmpty then
    match tryIntroducerQuery turn.introducer with
    | (.ok (count + 1), added) => (some (.introducerQueried (count + 1)), added)
    | (_, added) => (none, added)
  else
    (some (.dnsSeeded turn.dns.length),
      [.addToNewTable turn.dnsRows { host := "127.0.0.1", port := listenPort } 0])

namespace DiscoveryLoop

def started (book : Inner) : DiscoveryLoop :=
  { book := book, introducerBackoffSecs := 1, log := [], ended := false }

def report (d : DiscoveryLoop) (action : DiscoveryAction) : DiscoveryLoop :=
  { d with log := d.log ++ [action] }

def cancel (d : DiscoveryLoop) : DiscoveryLoop :=
  { d.report .cancelled with ended := true }

/-- The sleep between two cycles. -/
def sleep (d : DiscoveryLoop) (turn : DiscoveryTurn) : DiscoveryLoop :=
  let slept := d.report .cycleSleep
  if turn.cancelledAsleep then slept.cancel else slept

/-- The sleep after a failure; it doubles the next one. -/
def backOff (d : DiscoveryLoop) (turn : DiscoveryTurn) : DiscoveryLoop :=
  let waiting := d.report (.introducerBackoff d.introducerBackoffSecs)
  if turn.cancelledAsleep then waiting.cancel
  else
    { waiting with
      introducerBackoffSecs :=
        Nat.min (Nat.min (d.introducerBackoffSecs * 2) u64Max) maxIntroducerBackoffSecs }

variable (sha256 : Digest) (listenPort : UInt16)

/-- A turn once the other tasks have left this book, which is empty. -/
def seedEmpty (d : DiscoveryLoop) (turn : DiscoveryTurn) : Option DiscoveryLoop :=
  (Discovery.run sha256 (turn.meanwhile ++ (turn.seed listenPort).2) d.book).map fun book =>
    match (turn.seed listenPort).1 with
    | some action =>
        ({ d with book := book, introducerBackoffSecs := 1 }.report action).sleep turn
    | none => { d with book := book }.backOff turn

/-- A turn of `run_discovery_loop`; once it has ended only the other tasks go on.
It fails only when an operation on the book panics. -/
def step (d : DiscoveryLoop) (turn : DiscoveryTurn) : Option DiscoveryLoop :=
  (Discovery.run sha256 turn.others d.book).bind fun book =>
    let d := { d with book := book }
    if d.ended then some d
    else if turn.cancelled then some d.cancel
    else if book.size = 0 then d.seedEmpty sha256 listenPort turn
    else some (d.sleep turn)

/-- The operations on the book in a turn, those of the other tasks among them. -/
def operationsOf (d : DiscoveryLoop) (turn : DiscoveryTurn) : List Operation :=
  turn.others ++
    match Discovery.run sha256 turn.others d.book with
    | none => []
    | some book =>
        if !d.ended && !turn.cancelled && decide (book.size = 0) then
          turn.meanwhile ++ (turn.seed listenPort).2
        else []

def operations : List DiscoveryTurn -> DiscoveryLoop -> List Operation
  | [], _ => []
  | turn :: turns, d =>
      d.operationsOf sha256 listenPort turn ++
        match d.step sha256 listenPort turn with
        | none => []
        | some next => operations turns next

end DiscoveryLoop

/-! ## What is reported -/

/-- The failures reported since peers were last received. -/
def backoffStreak (log : List DiscoveryAction) : Nat :=
  log.foldl (fun failures action =>
    match action with
    | .dnsSeeded _ => 0
    | .introducerQueried _ => 0
    | .introducerBackoff _ => failures + 1
    | .cycleSleep => failures
    | .cancelled => failures) 0

def DiscoveryAction.seeds : DiscoveryAction -> Bool
  | .dnsSeeded _ => true
  | .introducerQueried _ => true
  | .introducerBackoff _ => false
  | .cycleSleep => false
  | .cancelled => false

/-- The introducer has been asked, or would have been. -/
def DiscoveryAction.asks : DiscoveryAction -> Bool
  | .introducerQueried _ => true
  | .introducerBackoff _ => true
  | .dnsSeeded _ => false
  | .cycleSleep => false
  | .cancelled => false

/-- The delay after so many failures in a row. -/
def backoffAfter (failures : Nat) : Nat :=
  min (2 ^ failures) maxIntroducerBackoffSecs

/-- What the numbers of a report may be. -/
def DiscoveryAction.sound (before : List DiscoveryAction) : DiscoveryAction -> Prop
  | .dnsSeeded count => 0 < count
  | .introducerQueried count => 0 < count ∧ count ≤ maxPeersReceivedPerRequest
  | .introducerBackoff backoffSecs => backoffSecs = backoffAfter (backoffStreak before)
  | .cycleSleep => True
  | .cancelled => True

/-- What may be reported after what. -/
structure DiscoveryAction.Follows (before : List DiscoveryAction) (action : DiscoveryAction) :
    Prop where
  live : .cancelled ∉ before
  /-- After a seeding the loop sleeps. -/
  sleeps : forall last, before.getLast? = some last -> last.seeds = true -> action = .cycleSleep
  sound : action.sound before

/-- Every report of a log is one that may follow what was reported before it. -/
def LawfulLog (log : List DiscoveryAction) : Prop :=
  forall before action after, log = before ++ action :: after -> action.Follows before

theorem backoffStreak_concat (log : List DiscoveryAction) (action : DiscoveryAction) :
    backoffStreak (log ++ [action]) =
      match action with
      | .dnsSeeded _ => 0
      | .introducerQueried _ => 0
      | .introducerBackoff _ => backoffStreak log + 1
      | .cycleSleep => backoffStreak log
      | .cancelled => backoffStreak log := by
  rw [backoffStreak, List.foldl_append]
  rfl

theorem backoffStreak_of_seeds (log : List DiscoveryAction) {action : DiscoveryAction}
    (seeds : action.seeds = true) : backoffStreak (log ++ [action]) = 0 := by
  rw [backoffStreak_concat]
  cases action with
  | dnsSeeded count => rfl
  | introducerQueried count => rfl
  | introducerBackoff backoffSecs => cases seeds
  | cycleSleep => cases seeds
  | cancelled => cases seeds

/-- Doubling below the cap is the power of two below the cap. -/
theorem backoffAfter_succ (failures : Nat) :
    Nat.min (Nat.min (backoffAfter failures * 2) u64Max) maxIntroducerBackoffSecs =
      backoffAfter (failures + 1) := by
  have small : backoffAfter failures * 2 ≤ u64Max :=
    (Nat.mul_le_mul_right 2 (Nat.min_le_right _ _)).trans (by decide)
  have least := Nat.min_eq_left small
  unfold backoffAfter maxIntroducerBackoffSecs at least ⊢
  rw [show Nat.min (min (2 ^ failures) 300 * 2) u64Max = min (2 ^ failures) 300 * 2 from least,
    Nat.pow_succ]
  show min (min (2 ^ failures) 300 * 2) 300 = min (2 ^ failures * 2) 300
  omega

theorem lawful_nil : LawfulLog [] :=
  fun before action after split =>
    absurd split.symm (List.append_ne_nil_of_right_ne_nil before (List.cons_ne_nil action after))

theorem LawfulLog.concat {log : List DiscoveryAction} (lawful : LawfulLog log)
    {action : DiscoveryAction} (follows : action.Follows log) : LawfulLog (log ++ [action]) := by
  intro before reported after split
  rcases List.eq_nil_or_concat after with rfl | ⟨earlier, last, rfl⟩
  · rcases List.append_inj' split rfl with ⟨rfl, same⟩
    cases same
    exact follows
  · rw [List.concat_eq_append, <- List.cons_append, <- List.append_assoc] at split
    exact lawful before reported earlier (List.append_inj' split rfl).1

theorem length_capReceivedPeers_le (listed : List TimestampedPeerInfo) (total : Nat) :
    (Program.alone CounterAction.exec (capReceivedPeers listed) total).2.length ≤
      maxPeersReceivedPerRequest := by
  let taken := if maxTotalPeersReceived ≤ total then []
    else (cutToRequest listed).take (min (cutToRequest listed).length (maxTotalPeersReceived - total))
  have answered : (Program.alone CounterAction.exec (capReceivedPeers listed) total).2 = taken := by
    show (Program.alone CounterAction.exec (if maxTotalPeersReceived ≤ total then _ else _)
      total).2 = if maxTotalPeersReceived ≤ total then [] else _
    split <;> rfl
  have cut : taken.length ≤ (cutToRequest listed).length := by
    show (if maxTotalPeersReceived ≤ total then [] else _ : List TimestampedPeerInfo).length ≤ _
    split
    · exact Nat.zero_le _
    · rw [List.length_take]
      exact Nat.min_le_right _ _
  rw [length_cutToRequest] at cut
  rw [answered]
  exact cut.trans (Nat.min_le_right _ _)

/-- What an empty book is seeded with is reported with a sound number. -/
theorem DiscoveryTurn.seed_sound (listenPort : UInt16) {turn : DiscoveryTurn}
    {action : DiscoveryAction} (seeded : (turn.seed listenPort).1 = some action)
    (before : List DiscoveryAction) : action.seeds = true ∧ action.sound before := by
  unfold seed at seeded
  by_cases silent : turn.dns.isEmpty = true
  · rw [if_pos silent] at seeded
    cases query : turn.introducer with
    | notConfigured =>
        rw [query] at seeded
        cases seeded
    | certificateFails detail =>
        rw [query] at seeded
        cases seeded
    | queryFails detail =>
        rw [query] at seeded
        cases seeded
    | answers peers total =>
        have short : (cappedAnswer peers total).length ≤ maxPeersReceivedPerRequest := by
          unfold cappedAnswer
          rw [List.length_take]
          exact (Nat.min_le_left _ _).trans (length_capReceivedPeers_le _ _)
        rw [query] at seeded
        simp only [tryIntroducerQuery] at seeded
        cases counted : (cappedAnswer peers total).length with
        | zero =>
            rw [counted] at seeded
            cases seeded
        | succ count =>
            rw [counted] at seeded
            cases seeded
            exact ⟨rfl, Nat.succ_pos count, counted ▸ short⟩
  · rw [if_neg silent] at seeded
    cases seeded
    refine ⟨rfl, List.length_pos_iff.mpr fun none => silent ?_⟩
    rw [none]
    rfl

/-! ## One turn -/

namespace DiscoveryLoop

variable {sha256 : Digest} {listenPort : UInt16} {d : DiscoveryLoop} {turn : DiscoveryTurn}

/-- The loop goes on, and its delay is what the log says. -/
structure Awake (d : DiscoveryLoop) : Prop where
  lawful : LawfulLog d.log
  live : .cancelled ∉ d.log
  going : d.ended = false
  delay : d.introducerBackoffSecs = backoffAfter (backoffStreak d.log)

/-- Between the turns nothing has just been seeded. -/
structure Rested (d : DiscoveryLoop) : Prop extends Awake d where
  rested : forall last, d.log.getLast? = some last -> last.seeds = false

structure Over (d : DiscoveryLoop) : Prop where
  lawful : LawfulLog d.log
  last : d.log.getLast? = some .cancelled
  halted : d.ended = true

theorem rested_started (book : Inner) : (started book).Rested where
  lawful := lawful_nil
  live := List.not_mem_nil
  going := rfl
  delay := rfl
  rested := fun _ none => by cases none

theorem Rested.follows (rested : d.Rested) {action : DiscoveryAction}
    (sound : action.sound d.log) : action.Follows d.log where
  live := rested.live
  sleeps := fun last found seeds => by
    rw [rested.rested last found] at seeds
    cases seeds
  sound := sound

theorem Awake.cycleSleep (awake : d.Awake) : DiscoveryAction.cycleSleep.Follows d.log where
  live := awake.live
  sleeps := fun _ _ _ => rfl
  sound := trivial

theorem Rested.cancel (rested : d.Rested) : d.cancel.Over where
  lawful := rested.lawful.concat (rested.follows trivial)
  last := List.getLast?_concat
  halted := rfl

theorem Awake.slept (awake : d.Awake) : (d.report .cycleSleep).Rested where
  lawful := awake.lawful.concat awake.cycleSleep
  live := fun member => by
    rcases List.mem_append.mp member with before | last
    · exact awake.live before
    · cases List.mem_singleton.mp last
  going := awake.going
  delay := by
    show d.introducerBackoffSecs = backoffAfter (backoffStreak (d.log ++ [.cycleSleep]))
    rw [backoffStreak_concat, awake.delay]
  rested := fun last found => by
    rw [report, List.getLast?_concat] at found
    cases found
    rfl

theorem Awake.sleep (awake : d.Awake) (turn : DiscoveryTurn) :
    (d.sleep turn).Rested ∨ (d.sleep turn).Over := by
  unfold DiscoveryLoop.sleep
  cases turn.cancelledAsleep with
  | false => exact Or.inl awake.slept
  | true => exact Or.inr awake.slept.cancel

theorem Rested.seeded (rested : d.Rested) {action : DiscoveryAction} (seeds : action.seeds = true)
    (sound : action.sound d.log) :
    ({ d with introducerBackoffSecs := 1 }.report action).Awake where
  lawful := rested.lawful.concat (rested.follows sound)
  live := fun member => by
    rcases List.mem_append.mp member with before | last
    · exact rested.live before
    · cases List.mem_singleton.mp last
      cases seeds
  going := rested.going
  delay := by
    show 1 = backoffAfter (backoffStreak (d.log ++ [action]))
    rw [backoffStreak_of_seeds d.log seeds]
    rfl

theorem Rested.backOff (rested : d.Rested) (turn : DiscoveryTurn) :
    (d.backOff turn).Rested ∨ (d.backOff turn).Over := by
  have follows : (DiscoveryAction.introducerBackoff d.introducerBackoffSecs).Follows d.log :=
    rested.follows rested.delay
  have lawful := rested.lawful.concat follows
  have live : .cancelled ∉ (d.report (.introducerBackoff d.introducerBackoffSecs)).log := by
    intro member
    rcases List.mem_append.mp member with before | last
    · exact rested.live before
    · cases List.mem_singleton.mp last
  have quiet : forall last,
      (d.report (.introducerBackoff d.introducerBackoffSecs)).log.getLast? = some last ->
        last.seeds = false := by
    intro last found
    rw [report, List.getLast?_concat] at found
    cases found
    rfl
  unfold DiscoveryLoop.backOff
  cases turn.cancelledAsleep with
  | false =>
      refine Or.inl ⟨⟨lawful, live, rested.going, ?_⟩, quiet⟩
      show Nat.min (Nat.min (d.introducerBackoffSecs * 2) u64Max) maxIntroducerBackoffSecs =
        backoffAfter (backoffStreak (d.log ++ [.introducerBackoff d.introducerBackoffSecs]))
      rw [backoffStreak_concat, rested.delay, backoffAfter_succ]
  | true =>
      refine Or.inr ⟨@LawfulLog.concat _ lawful .cancelled ⟨live, ?_, trivial⟩, List.getLast?_concat, rfl⟩
      intro last found seeds
      rw [quiet last found] at seeds
      cases seeds

/-- Nothing here depends on the book. -/
theorem Rested.withBook (rested : d.Rested) (book : Inner) : ({ d with book := book }).Rested where
  lawful := rested.lawful
  live := rested.live
  going := rested.going
  delay := rested.delay
  rested := rested.rested

/-- The loop is between two turns, or has ended. -/
def Keeping (d : DiscoveryLoop) : Prop := d.Rested ∨ d.Over

theorem Rested.seedEmpty (rested : d.Rested) {next : DiscoveryLoop}
    (stepped : d.seedEmpty sha256 listenPort turn = some next) : next.Keeping := by
  rcases Option.map_eq_some_iff.mp stepped with ⟨book, _, rfl⟩
  have rested := rested.withBook book
  cases seeded : (turn.seed listenPort).1 with
  | none => exact rested.backOff turn
  | some action =>
      rcases DiscoveryTurn.seed_sound listenPort seeded d.log with ⟨seeds, sound⟩
      exact (rested.seeded seeds sound).sleep turn

theorem Keeping.step (keeping : d.Keeping) {next : DiscoveryLoop}
    (stepped : d.step sha256 listenPort turn = some next) : next.Keeping := by
  rcases Option.bind_eq_some_iff.mp stepped with ⟨book, _, went⟩
  rcases keeping with rested | halted
  · have rested := rested.withBook book
    rw [if_neg (by rw [rested.going]; exact Bool.false_ne_true)] at went
    split at went
    · cases went
      exact Or.inr rested.cancel
    split at went
    · exact rested.seedEmpty went
    · cases went
      exact rested.toAwake.sleep turn
  · rw [if_pos halted.halted] at went
    cases went
    exact Or.inr ⟨halted.lawful, halted.last, halted.halted⟩

end DiscoveryLoop

/-! ## What is done to the book -/

theorem run_append {sha256 : Digest} {first later : List Operation} {s middle : Inner}
    (ran : Discovery.run sha256 first s = some middle) :
    Discovery.run sha256 (first ++ later) s = Discovery.run sha256 later middle := by
  unfold Discovery.run at ran ⊢
  rw [List.foldlM_append, ran]
  rfl

namespace DiscoveryLoop

variable {sha256 : Digest} {listenPort : UInt16} {d : DiscoveryLoop} {turn : DiscoveryTurn}

@[simp] theorem book_sleep (d : DiscoveryLoop) (turn : DiscoveryTurn) :
    (d.sleep turn).book = d.book := by
  unfold sleep
  cases turn.cancelledAsleep <;> rfl

@[simp] theorem book_backOff (d : DiscoveryLoop) (turn : DiscoveryTurn) :
    (d.backOff turn).book = d.book := by
  unfold backOff
  cases turn.cancelledAsleep <;> rfl

/-- A turn does to the book what its operations do. -/
theorem run_operationsOf {next : DiscoveryLoop}
    (stepped : d.step sha256 listenPort turn = some next) :
    Discovery.run sha256 (d.operationsOf sha256 listenPort turn) d.book = some next.book := by
  rcases Option.bind_eq_some_iff.mp stepped with ⟨book, before, went⟩
  unfold operationsOf
  rw [run_append before, before]
  dsimp only at went ⊢
  by_cases ended : d.ended = true
  · rw [if_pos ended] at went
    cases went
    rw [ended]
    rfl
  rw [if_neg ended] at went
  by_cases cancelled : turn.cancelled = true
  · rw [if_pos cancelled] at went
    cases went
    rw [cancelled, Bool.not_true, Bool.and_false]
    rfl
  rw [if_neg cancelled] at went
  by_cases empty : book.size = 0
  · rw [if_pos empty] at went
    rcases Option.map_eq_some_iff.mp went with ⟨after, ran, rfl⟩
    rw [if_pos (by simp [ended, cancelled, empty])]
    refine ran.trans (congrArg some ?_)
    cases (turn.seed listenPort).1 with
    | none => rw [book_backOff]
    | some action =>
        rw [book_sleep]
        rfl
  · rw [if_neg empty] at went
    cases went
    rw [decide_eq_false empty, Bool.and_false, if_neg Bool.false_ne_true, book_sleep]
    rfl

theorem run_operations {turns : List DiscoveryTurn} {d last : DiscoveryLoop}
    (ran : Simulation.run (step sha256 listenPort) turns d = some last) :
    Discovery.run sha256 (operations sha256 listenPort turns d) d.book = some last.book := by
  induction turns generalizing d with
  | nil =>
      cases ran
      rfl
  | cons turn turns inner =>
      rw [Simulation.run, List.foldlM_cons] at ran
      rcases Option.bind_eq_some_iff.mp ran with ⟨next, stepped, rest⟩
      rw [operations, run_append (run_operationsOf stepped), stepped]
      exact inner rest

/-- While the DNS answers, the introducer is left alone. -/
theorem dns_step (answers : turn.dns ≠ [])
    (silent : ∀ action ∈ d.log, action.asks = false) {next : DiscoveryLoop}
    (stepped : d.step sha256 listenPort turn = some next) :
    ∀ action ∈ next.log, action.asks = false := by
  have reports {d : DiscoveryLoop} (silent : ∀ action ∈ d.log, action.asks = false)
      {action : DiscoveryAction} (quiet : action.asks = false) :
      ∀ other ∈ (d.report action).log, other.asks = false := by
    intro other member
    rcases List.mem_append.mp member with before | last
    · exact silent other before
    · rw [List.mem_singleton.mp last]
      exact quiet
  have sleeps {d : DiscoveryLoop} (silent : ∀ action ∈ d.log, action.asks = false) :
      ∀ action ∈ (d.sleep turn).log, action.asks = false := by
    unfold sleep
    cases turn.cancelledAsleep with
    | false => exact @reports d silent .cycleSleep rfl
    | true => exact @reports _ (@reports d silent .cycleSleep rfl) .cancelled rfl
  rcases Option.bind_eq_some_iff.mp stepped with ⟨book, _, went⟩
  dsimp only at went
  split at went
  · cases went
    exact silent
  split at went
  · cases went
    exact @reports _ silent .cancelled rfl
  split at went
  · rcases Option.map_eq_some_iff.mp went with ⟨after, _, rfl⟩
    have seeded : (turn.seed listenPort).1 = some (.dnsSeeded turn.dns.length) := by
      unfold DiscoveryTurn.seed
      rw [if_neg fun none => answers (List.isEmpty_iff.mp none)]
    rw [seeded]
    exact sleeps (@reports _ silent (.dnsSeeded turn.dns.length) rfl)
  · cases went
    exact sleeps silent

end DiscoveryLoop

/-! ## Whole runs -/

namespace DiscoveryLoop

variable {sha256 : Digest} {listenPort : UInt16}

theorem dns_run {turns : List DiscoveryTurn} (answers : ∀ turn ∈ turns, turn.dns ≠ [])
    {d last : DiscoveryLoop} (silent : ∀ action ∈ d.log, action.asks = false)
    (ran : Simulation.run (step sha256 listenPort) turns d = some last) :
    ∀ action ∈ last.log, action.asks = false := by
  induction turns generalizing d with
  | nil =>
      cases ran
      exact silent
  | cons turn turns inner =>
      rw [Simulation.run, List.foldlM_cons] at ran
      rcases Option.bind_eq_some_iff.mp ran with ⟨next, stepped, rest⟩
      exact inner (fun later member => answers later (List.mem_cons_of_mem turn member))
        (dns_step (answers turn List.mem_cons_self) silent stepped) rest

theorem Keeping.ended_iff {d : DiscoveryLoop} (keeping : d.Keeping) :
    d.ended = true ↔ .cancelled ∈ d.log := by
  rcases keeping with rested | halted
  · rw [rested.going]
    exact iff_of_false Bool.false_ne_true rested.live
  · exact iff_of_true halted.halted (List.mem_of_getLast? halted.last)

/-- Whatever the other tasks do to the book and whenever the loop is cancelled: the
log follows the grammar, with the delays doubled up to the cap since peers last
came; a DNS that always answers keeps the introducer out; and the book has gone
through a run of its own operations, so that it keeps its invariant. -/
theorem discovery_loop_lawful (turns : List DiscoveryTurn) (book : Inner) (d : DiscoveryLoop)
    (ran : Simulation.run (step sha256 listenPort) turns (started book) = some d) :
    LawfulLog d.log ∧ (d.ended = true ↔ .cancelled ∈ d.log) ∧
      ((∀ turn ∈ turns, turn.dns ≠ []) -> ∀ action ∈ d.log, action.asks = false) ∧
      Discovery.run sha256 (operations sha256 listenPort turns (started book)) book =
        some d.book ∧
      (Inv sha256 book -> d.book.idCount.toNat < u32Max ->
        along sha256 (evictionSafe sha256) (operations sha256 listenPort turns (started book))
          book = true -> Inv sha256 d.book) := by
  have keeping := @Simulation.run_keeps _ _ (step sha256 listenPort) Keeping
    (fun _ _ _ keeping stepped => keeping.step stepped) _ _ _ (Or.inl (rested_started book)) ran
  have operated := run_operations ran
  have lawful : LawfulLog d.log := by
    rcases keeping with rested | halted
    · exact rested.lawful
    · exact halted.lawful
  refine ⟨lawful, keeping.ended_iff, ?_, operated, ?_⟩
  · intro answers
    exact dns_run answers (fun _ none => absurd none List.not_mem_nil) ran
  · intro inv below safe
    exact run_inv _ inv operated below safe

/-- A turn that finds an empty book and a silent DNS. -/
def fruitless (introducer : IntroducerQuery) (cancelled : Bool) : DiscoveryTurn :=
  { others := [], cancelled := cancelled, meanwhile := [], dns := [], timestamp := 0
    introducer := introducer, cancelledAsleep := false }

theorem discovery_loop_lawful_cancelled :
    LawfulLog [.introducerBackoff 1, .introducerBackoff 2, .cancelled] ∧
      (true = true ↔ DiscoveryAction.cancelled ∈
        [DiscoveryAction.introducerBackoff 1, .introducerBackoff 2, .cancelled]) :=
  have lawful := @discovery_loop_lawful (fun _ => Vector.replicate 32 0) 9444
    [fruitless .notConfigured false, fruitless (.queryFails "timeout") false,
      fruitless .notConfigured true] (Inner.new (Vector.replicate 32 0))
    { book := Inner.new (Vector.replicate 32 0), introducerBackoffSecs := 4
      log := [.introducerBackoff 1, .introducerBackoff 2, .cancelled], ended := true } rfl
  ⟨lawful.1, lawful.2.1⟩

end DiscoveryLoop
end Discovery
end DigGossip
