import DigGossip.Discovery.Representation
import DigGossip.Discovery.Selection
import DigGossip.Service.State

namespace DigGossip
namespace Service

open Foundations DigGossip.Types
open Discovery (Inner SelectInputs Drawn)

/-!
# Gathering candidates

The gatherer draws rows from the address book, by turns from both tables and
from the new table alone, until it has the addresses it wants.  It leaves out
the remotes of the connected peers; the planner leaves out the addresses at
which connected peers can be dialed, which are fewer.
-/

/-- The address of a row whose host is an address. -/
def socketAddrOf (row : ExtendedPeerInfo) : Option SocketAddr :=
  (parseIpAddr row.peerInfo.host).map fun ip => { ip := ip, port := row.peerInfo.port }

/-- `select_peer` is asked for a new peer at every second draw. -/
def drawAt (book : Inner) (draws : Nat -> SelectInputs) (turn : Nat) : Option ExtendedPeerInfo :=
  book.selectPeer (turn % 2 == 1) (draws turn)

/-- The addresses gathered so far, and the rows they were drawn with. -/
structure Gathered where
  out : List SocketAddr
  drawn : List ExtendedPeerInfo

namespace ServiceState

/-- The remotes of the peer map, whether or not they can be dialed. -/
def connectedRemotes (s : ServiceState) : Finset SocketAddr :=
  s.peers.keys.biUnion fun peerId => ((s.peers.lookup peerId).map PeerSlot.remote).toFinset

/-- What one drawn row adds.  The addresses seen before are those gathered. -/
def gatherRow (s : ServiceState) (out : List SocketAddr) (row : ExtendedPeerInfo) :
    List SocketAddr :=
  match socketAddrOf row with
  | none => out
  | some addr =>
      if out.contains addr || decide (addr ∈ s.connectedRemotes) then out
      else if s.dialTargetsLocalListen addr then out
      else out ++ [addr]

/-- The loop of `gather_pool_candidates_with_local`: a draw that fails ends it. -/
def gatherLoop (s : ServiceState) (book : Inner) (draws : Nat -> SelectInputs) (want : Nat) :
    (attempts turn : Nat) -> Gathered -> Gathered
  | 0, _, gathered => gathered
  | attempts + 1, turn, gathered =>
      if want ≤ gathered.out.length then gathered
      else
        match drawAt book draws turn with
        | none => gathered
        | some row =>
            s.gatherLoop book draws want attempts (turn + 1)
              { out := s.gatherRow gathered.out row, drawn := gathered.drawn ++ [row] }

/-- `max_attempts`. -/
def maxAttempts (want : Nat) : Nat :=
  Nat.max (Nat.min (want * 8) u64Max) 16

def gather (s : ServiceState) (book : Inner) (draws : Nat -> SelectInputs) (want : Nat) : Gathered :=
  s.gatherLoop book draws want (maxAttempts want) 0 { out := [], drawn := [] }

end ServiceState

/-- `order_by_local_stack`: family by family, in the order of the host's families. -/
def orderByLocalStack {F : Type} [DecidableEq F] (families : List F) (familyOf : SocketAddr -> F)
    (candidates : List SocketAddr) : List SocketAddr :=
  families.flatMap fun family => candidates.filter fun addr => familyOf addr = family

/-- `gather_pool_candidates_with_local`. -/
def gatherPoolCandidates {F : Type} [DecidableEq F] (families : List F)
    (familyOf : SocketAddr -> F) (discovered : FiniteMap SocketAddr PeerId) (s : ServiceState)
    (book : Inner) (draws : Nat -> SelectInputs) (want : Nat) : List PoolCandidate :=
  (orderByLocalStack families familyOf (s.gather book draws want).out).map fun addr =>
    match discovered.lookup addr with
    | some peerId => { peerId := some peerId, addr := some addr }
    | none => { peerId := none, addr := some addr }

/-! ## The loop -/

section

variable {s : ServiceState} {book : Inner} {draws : Nat -> SelectInputs} {want : Nat}

theorem mem_connectedRemotes {addr : SocketAddr} :
    addr ∈ s.connectedRemotes ↔
      exists peerId slot, s.peers.lookup peerId = some slot ∧ slot.remote = addr := by
  simp only [ServiceState.connectedRemotes, Finset.mem_biUnion, Option.mem_toFinset,
    Option.mem_def, Option.map_eq_some_iff]
  constructor
  · rintro ⟨peerId, _, slot, found, same⟩
    exact ⟨peerId, slot, found, same⟩
  · rintro ⟨peerId, slot, found, same⟩
    exact ⟨peerId, FiniteMap.mem_keys_iff.mpr (by rw [found]; rfl), slot, found, same⟩

theorem gatherRow_of_none {out : List SocketAddr} {row : ExtendedPeerInfo}
    (unread : socketAddrOf row = none) : s.gatherRow out row = out := by
  unfold ServiceState.gatherRow
  rw [unread]

theorem gatherRow_of_addr {out : List SocketAddr} {row : ExtendedPeerInfo} {addr : SocketAddr}
    (read : socketAddrOf row = some addr) :
    s.gatherRow out row =
      if addr ∈ out ∨ addr ∈ s.connectedRemotes ∨ s.dialTargetsLocalListen addr = true then out
      else out ++ [addr] := by
  unfold ServiceState.gatherRow
  rw [read]
  by_cases gathered : addr ∈ out
  · simp [gathered]
  · by_cases connected : addr ∈ s.connectedRemotes
    · simp [connected]
    · by_cases own : s.dialTargetsLocalListen addr = true
      · simp [own]
      · simp [gathered, connected, own]

/-- What holds of the addresses gathered so far. -/
structure Sifted (s : ServiceState) (gathered : Gathered) : Prop where
  nodup : gathered.out.Nodup
  unconnected : ∀ addr ∈ gathered.out, addr ∉ s.connectedRemotes
  settled : ∀ row ∈ gathered.drawn, forall addr, socketAddrOf row = some addr ->
    addr ∈ gathered.out ∨ addr ∈ s.connectedRemotes ∨ s.dialTargetsLocalListen addr = true

/-- A row either adds its address or had no reason to. -/
theorem Sifted.row {gathered : Gathered} (sifted : Sifted s gathered) (row : ExtendedPeerInfo) :
    Sifted s { out := s.gatherRow gathered.out row, drawn := gathered.drawn ++ [row] } := by
  cases read : socketAddrOf row with
  | none =>
      rw [gatherRow_of_none read]
      refine ⟨sifted.nodup, sifted.unconnected, ?_⟩
      intro other member addr readOther
      rcases List.mem_append.mp member with old | new
      · exact sifted.settled other old addr readOther
      · rw [List.mem_singleton.mp new, read] at readOther
        cases readOther
  | some addr =>
      rw [gatherRow_of_addr read]
      by_cases refused : addr ∈ gathered.out ∨ addr ∈ s.connectedRemotes ∨
          s.dialTargetsLocalListen addr = true
      · rw [if_pos refused]
        refine ⟨sifted.nodup, sifted.unconnected, ?_⟩
        intro other member further readOther
        rcases List.mem_append.mp member with old | new
        · exact sifted.settled other old further readOther
        · rw [List.mem_singleton.mp new, read] at readOther
          cases readOther
          exact refused
      · rw [if_neg refused]
        rw [not_or, not_or] at refused
        refine ⟨?_, ?_, ?_⟩
        · refine List.nodup_append.mpr ⟨sifted.nodup, List.nodup_singleton addr, ?_⟩
          intro first old second new same
          rw [List.mem_singleton.mp new] at same
          exact refused.1 (same ▸ old)
        · intro other member
          rcases List.mem_append.mp member with old | new
          · exact sifted.unconnected other old
          · rw [List.mem_singleton.mp new]
            exact refused.2.1
        · intro other member further readOther
          rcases List.mem_append.mp member with old | new
          · exact (sifted.settled other old further readOther).imp_left
              (List.mem_append_left [addr])
          · rw [List.mem_singleton.mp new, read] at readOther
            cases readOther
            exact Or.inl (List.mem_append_right _ (List.mem_singleton.mpr rfl))

theorem Sifted.loop (attempts turn : Nat) {gathered : Gathered} (sifted : Sifted s gathered) :
    Sifted s (s.gatherLoop book draws want attempts turn gathered) := by
  induction attempts generalizing turn gathered with
  | zero => exact sifted
  | succ attempts inner =>
      unfold ServiceState.gatherLoop
      split
      · exact sifted
      · split
        · exact sifted
        · exact inner (turn + 1) (sifted.row _)

theorem sifted_gather : Sifted s (s.gather book draws want) := by
  apply Sifted.loop
  exact ⟨List.nodup_nil, fun _ none => (nomatch none), fun _ none => (nomatch none)⟩

/-- A loop none of whose draws fails goes on to its bound, or to the addresses it wants. -/
theorem gatherLoop_ends (succeeds : forall turn, (drawAt book draws turn).isSome = true)
    (attempts turn : Nat) (gathered : Gathered) :
    (s.gatherLoop book draws want attempts turn gathered).drawn.length =
        gathered.drawn.length + attempts ∨
      want ≤ (s.gatherLoop book draws want attempts turn gathered).out.length := by
  induction attempts generalizing turn gathered with
  | zero => exact Or.inl rfl
  | succ attempts inner =>
      rcases Option.isSome_iff_exists.mp (succeeds turn) with ⟨row, drew⟩
      unfold ServiceState.gatherLoop
      by_cases enough : want ≤ gathered.out.length
      · rw [if_pos enough]
        exact Or.inr enough
      · rw [if_neg enough, drew]
        rcases inner (turn + 1)
          { out := s.gatherRow gathered.out row, drawn := gathered.drawn ++ [row] } with
          counted | filled
        · refine Or.inl (counted.trans ?_)
          rw [List.length_append, List.length_singleton]
          omega
        · exact Or.inr filled

end

/-! ## When the gatherer stops early -/

/-- The loop ends before its bound only with the distinct addresses it wants,
or over a book without peers. -/
def DrawsOn (s : ServiceState) (book : Inner) (draws : Nat -> SelectInputs) (want : Nat) : Prop :=
  (s.gather book draws want).drawn.length < ServiceState.maxAttempts want ->
    want ≤ (s.gather book draws want).out.toFinset.card ∨ book.size = 0

/-- The first draw adds its address. -/
def FirstDrawCounts (s : ServiceState) (book : Inner) (draws : Nat -> SelectInputs) : Prop :=
  ∃ row addr, drawAt book draws 0 = some row ∧ socketAddrOf row = some addr ∧
    addr ∉ s.connectedRemotes ∧ s.dialTargetsLocalListen addr = false

section

variable {sha256 : Digest} {s : ServiceState} {book : Inner} {draws : Nat -> SelectInputs}
  {want : Nat}

theorem card_out : (s.gather book draws want).out.toFinset.card =
    (s.gather book draws want).out.length :=
  List.toFinset_card_of_nodup sifted_gather.nodup

theorem two_le_maxAttempts (want : Nat) :
    exists more, ServiceState.maxAttempts want = more + 1 + 1 :=
  ⟨ServiceState.maxAttempts want - 2, by
    have least : 16 ≤ ServiceState.maxAttempts want := Nat.le_max_right _ _
    omega⟩

/-- The first draw gives at most one address, and one only when it counts. -/
theorem length_first (row : ExtendedPeerInfo) (drew : drawAt book draws 0 = some row) :
    (s.gatherRow [] row).length ≤ 1 ∧
      ((s.gatherRow [] row).length = 1 ↔ FirstDrawCounts s book draws) := by
  cases read : socketAddrOf row with
  | none =>
      rw [gatherRow_of_none read]
      refine ⟨Nat.zero_le _, fun absurdity => (nomatch absurdity), ?_⟩
      rintro ⟨other, addr, again, readOther, _⟩
      rw [drew] at again
      cases again
      rw [read] at readOther
      cases readOther
  | some addr =>
      rw [gatherRow_of_addr read]
      by_cases refused : addr ∈ ([] : List SocketAddr) ∨ addr ∈ s.connectedRemotes ∨
          s.dialTargetsLocalListen addr = true
      · rw [if_pos refused]
        refine ⟨Nat.zero_le _, fun absurdity => (nomatch absurdity), ?_⟩
        rintro ⟨other, addr, again, readOther, unconnected, foreign⟩
        rw [drew] at again
        cases again
        rw [read] at readOther
        cases readOther
        rcases refused with absurdity | connected | own
        · cases absurdity
        · exact absurd connected unconnected
        · rw [foreign] at own
          cases own
      · rw [if_neg refused]
        rw [not_or, not_or] at refused
        refine ⟨Nat.le_refl 1, fun _ => ?_, fun _ => rfl⟩
        exact ⟨row, addr, drew, read, refused.2.1, Bool.eq_false_iff.mpr refused.2.2⟩

/-- Every draw of a book with new rows finds one. -/
theorem drawAt_isSome (inv : Discovery.Inv sha256 book) (drawn : forall turn, Drawn book (draws turn))
    (filled : book.randomPos ≠ []) (fresh : book.newCount ≠ 0) (turn : Nat) :
    (drawAt book draws turn).isSome = true := by
  rw [Option.isSome_iff_ne_none]
  intro failed
  rcases (Discovery.selectPeer_eq_none_iff inv (drawn turn) _).mp failed with empty | ⟨_, none⟩
  · exact filled empty
  · exact fresh none

/-- Of a book whose rows are all tried, the first draw finds one and the second none. -/
theorem drawAt_promoted (inv : Discovery.Inv sha256 book)
    (drawn : forall turn, Drawn book (draws turn)) (filled : book.randomPos ≠ [])
    (promoted : book.newCount = 0) :
    (exists row, drawAt book draws 0 = some row) ∧ drawAt book draws 1 = none := by
  constructor
  · rw [<- Option.isSome_iff_exists, Option.isSome_iff_ne_none]
    intro failed
    rcases (Discovery.selectPeer_eq_none_iff inv (drawn 0) _).mp failed with empty | ⟨odd, _⟩
    · exact filled empty
    · cases odd
  · exact (Discovery.selectPeer_eq_none_iff inv (drawn 1) _).mpr (Or.inr ⟨rfl, promoted⟩)

/-- What the loop gathers from a book whose rows are all tried. -/
theorem gather_promoted {row : ExtendedPeerInfo} (first : drawAt book draws 0 = some row)
    (second : drawAt book draws 1 = none) (wanted : want ≠ 0) :
    s.gather book draws want = { out := s.gatherRow [] row, drawn := [row] } := by
  rcases two_le_maxAttempts want with ⟨more, bound⟩
  unfold ServiceState.gather
  rw [bound]
  unfold ServiceState.gatherLoop
  rw [if_neg (show ¬ want ≤ ([] : List SocketAddr).length from fun none =>
    wanted (Nat.le_zero.mp none)), first]
  show s.gatherLoop book draws want (more + 1) 1 { out := s.gatherRow [] row, drawn := [row] } = _
  unfold ServiceState.gatherLoop
  rw [second]
  exact ite_self _

end

/-- The gatherer draws on exactly when the book is empty or has new rows, or
when it wants no more than the first draw gives it. -/
theorem draws_on_iff {sha256 : Digest} {book : Inner} (inv : Discovery.Inv sha256 book)
    (s : ServiceState) {draws : Nat -> SelectInputs} (drawn : forall turn, Drawn book (draws turn))
    (want : Nat) :
    DrawsOn s book draws want ↔
      book.size = 0 ∨ book.newCount ≠ 0 ∨ want = 0 ∨ want = 1 ∧ FirstDrawCounts s book draws := by
  have sizes : book.size = 0 ↔ book.randomPos = [] := List.length_eq_zero_iff
  by_cases empty : book.size = 0
  · exact ⟨fun _ => Or.inl empty, fun _ _ => Or.inr empty⟩
  have filled : book.randomPos ≠ [] := fun none => empty (sizes.mpr none)
  by_cases fresh : book.newCount ≠ 0
  · refine ⟨fun _ => Or.inr (Or.inl fresh), fun _ short => Or.inl ?_⟩
    rcases @gatherLoop_ends s book draws want (drawAt_isSome inv drawn filled fresh)
      (ServiceState.maxAttempts want) 0 { out := [], drawn := [] } with counted | enough
    · have whole : (s.gather book draws want).drawn.length = 0 + ServiceState.maxAttempts want :=
        counted
      omega
    · rw [card_out]
      exact enough
  have promoted := not_not.mp fresh
  by_cases idle : want = 0
  · refine ⟨fun _ => Or.inr (Or.inr (Or.inl idle)), fun _ _ => Or.inl ?_⟩
    rw [idle]
    exact Nat.zero_le _
  rcases drawAt_promoted inv drawn filled promoted with ⟨⟨row, first⟩, second⟩
  have gathered : s.gather book draws want = { out := s.gatherRow [] row, drawn := [row] } :=
    gather_promoted first second idle
  have counts := length_first (s := s) row first
  have short : (s.gather book draws want).drawn.length < ServiceState.maxAttempts want := by
    rcases two_le_maxAttempts want with ⟨more, bound⟩
    rw [gathered, bound, List.length_singleton]
    omega
  constructor
  · intro drawsOn
    rcases drawsOn short with enough | none
    · rw [card_out, gathered] at enough
      have within : want ≤ (s.gatherRow [] row).length := enough
      have one : want = 1 := by omega
      exact Or.inr (Or.inr (Or.inr ⟨one, counts.2.mp (by omega)⟩))
    · exact absurd none empty
  · rintro (none | new | none | ⟨one, counted⟩) _
    · exact absurd none empty
    · exact absurd promoted new
    · exact absurd none idle
    · refine Or.inl ?_
      rw [card_out, gathered, one]
      exact Nat.le_of_eq (counts.2.mpr counted).symm

namespace Gathering

def remoteInfo : PeerInfo := { host := "9.9.9.9", port := 9444 }

def remoteAddr : SocketAddr := { ip := .v4 151587081, port := 9444 }

/-- A book that learns one address. -/
def learnedRun : List Discovery.Operation :=
  [.addToNewTable
    [({ host := "9.9.9.9", port := 9444, timestamp := 1000 },
      { now := 1000, draw := 0, nowAgain := 1000 })]
    (Discovery.Example.source "2.0.0.1") 0]

/-- The address it learned is promoted. -/
def promotedRun : List Discovery.Operation :=
  learnedRun ++ [.markGood remoteInfo true 1000 0]

/-- The cells of the one row, in either table. -/
def onlyCell : SelectInputs where
  coin := true
  triedPosition := fun _ => (9, 11)
  newPosition := fun _ => (514, 14)
  accept := fun _ => true

/-- A node at 1.1.1.1 without peers. -/
def lonely : ServiceState :=
  .started
    { peerId := 0, listenAddr := { ip := .v4 16843009, port := 9444 }, maxConnections := 8,
      targetOutboundCount := 4, peerPool := none, maxInflightHandshakes := 4 }
    .empty { ip := .v4 16843009, port := 9444 } 1000

/-- The node after it reached a peer over the relay at 9.9.9.9. -/
def relayed : ServiceState :=
  { lonely with
    peers := (∅ : Peers).insert 7
      (.nat { conn := .owned 1, sink := none, remote := remoteAddr, isOutbound := true,
              method := .relayed }) }

end Gathering

open Gathering

theorem draws_on_iff_promoted :
    exists book, Discovery.run Discovery.Example.firstByteDigest promotedRun
        (Inner.new Discovery.Example.zeroKey) = some book ∧
      (DrawsOn lonely book (fun _ => onlyCell) 1 ↔
        book.size = 0 ∨ book.newCount ≠ 0 ∨ 1 = 0 ∨
          1 = 1 ∧ FirstDrawCounts lonely book fun _ => onlyCell) := by
  have checked : (Discovery.run Discovery.Example.firstByteDigest promotedRun
      (Inner.new Discovery.Example.zeroKey)).any (fun book =>
        decide (book.idCount.toNat < u32Max ∧ (9, 11) ∈ book.usedTriedMatrixPositions ∧
          book.usedNewMatrixPositions = ∅)) = true := by
    decide +kernel
  rcases (Option.any_eq_true _ _).mp checked with ⟨book, reached, facts⟩
  rcases of_decide_eq_true facts with ⟨room, used, unused⟩
  have inv := Discovery.run_inv promotedRun
    (Discovery.inv_new Discovery.Example.firstByteDigest Discovery.Example.zeroKey) reached room
    (by decide +kernel)
  have drawn : Drawn book onlyCell :=
    ⟨fun _ _ => used, fun some => absurd unused some, fun _ refused => (nomatch refused)⟩
  exact ⟨book, reached, draws_on_iff inv lonely (fun _ => drawn) 1⟩

/-- The one peer of the book has been promoted, and the second of sixteen draws ends the loop. -/
theorem promoted_starves :
    exists book, Discovery.run Discovery.Example.firstByteDigest promotedRun
        (Inner.new Discovery.Example.zeroKey) = some book ∧
      ¬ DrawsOn lonely book (fun _ => onlyCell) 2 := by
  have checked : (Discovery.run Discovery.Example.firstByteDigest promotedRun
      (Inner.new Discovery.Example.zeroKey)).any (fun book =>
        decide ((lonely.gather book (fun _ => onlyCell) 2).drawn.length <
            ServiceState.maxAttempts 2 ∧
          ¬ (2 ≤ (lonely.gather book (fun _ => onlyCell) 2).out.toFinset.card ∨
            book.size = 0))) = true := by
    decide +kernel
  rcases (Option.any_eq_true _ _).mp checked with ⟨book, reached, facts⟩
  rcases of_decide_eq_true facts with ⟨short, starved⟩
  exact ⟨book, reached, fun drawsOn => starved (drawsOn short)⟩

/-! ## Who counts as connected -/

/-- Every address drawn that this host can dial, is not its own and is not the
dial address of a connected peer is offered to the planner. -/
def OffersUndialed {F : Type} [DecidableEq F] (families : List F) (familyOf : SocketAddr -> F)
    (discovered : FiniteMap SocketAddr PeerId) (order : PeerId -> Nat) (s : ServiceState)
    (book : Inner) (draws : Nat -> SelectInputs) (want : Nat) : Prop :=
  ∀ row ∈ (s.gather book draws want).drawn, forall addr, socketAddrOf row = some addr ->
    familyOf addr ∈ families -> s.dialTargetsLocalListen addr = false ->
      CandidateKey.addr addr ∉ s.connectedPoolKeys order ->
        ∃ candidate ∈ gatherPoolCandidates families familyOf discovered s book draws want,
          candidate.addr = some addr

/-- An address drawn that is the remote of a slot without a dial address, as a
relay endpoint or an accepted peer's source is, is the dial address of another. -/
def RemotesAreDialed {F : Type} (families : List F) (familyOf : SocketAddr -> F)
    (s : ServiceState) (book : Inner) (draws : Nat -> SelectInputs) (want : Nat) : Prop :=
  ∀ row ∈ (s.gather book draws want).drawn, forall addr, socketAddrOf row = some addr ->
    familyOf addr ∈ families -> s.dialTargetsLocalListen addr = false ->
      (exists peerId slot, s.peers.lookup peerId = some slot ∧ slot.remote = addr ∧
        slot.dialAddr = none) ->
      exists peerId slot, s.peers.lookup peerId = some slot ∧ slot.dialAddr = some addr

theorem dialAddr_eq_remote {slot : PeerSlot} {addr : SocketAddr}
    (dialed : slot.dialAddr = some addr) : slot.remote = addr := by
  unfold PeerSlot.dialAddr at dialed
  split at dialed
  · cases dialed
  · cases slot with
    | stub peer => exact Option.some.inj dialed
    | live held => exact Option.some.inj dialed
    | nat accepted =>
        simp only at dialed
        split at dialed
        · cases dialed
        · exact Option.some.inj dialed

/-- The planner knows the addresses at which connected peers can be dialed. -/
theorem addr_mem_connectedPoolKeys {s : ServiceState} {order : PeerId -> Nat} {addr : SocketAddr} :
    CandidateKey.addr addr ∈ s.connectedPoolKeys order ↔
      exists peerId slot, s.peers.lookup peerId = some slot ∧ slot.dialAddr = some addr := by
  unfold ServiceState.connectedPoolKeys
  rw [List.mem_flatMap]
  constructor
  · rintro ⟨peerId, _, member⟩
    cases found : s.peers.lookup peerId with
    | none =>
        rw [found] at member
        cases member
    | some slot =>
        rw [found] at member
        rcases List.mem_cons.mp member with absurdity | member
        · cases absurdity
        · rw [Option.mem_toList, Option.map_eq_some_iff] at member
          rcases member with ⟨other, dialed, same⟩
          cases same
          exact ⟨peerId, slot, found, dialed⟩
  · rintro ⟨peerId, slot, found, dialed⟩
    refine ⟨peerId, mem_listing.mpr (FiniteMap.mem_keys_iff.mpr (by rw [found]; rfl)), ?_⟩
    rw [found]
    refine List.mem_cons_of_mem _ ?_
    rw [Option.mem_toList, Option.map_eq_some_iff]
    exact ⟨addr, dialed, rfl⟩

theorem mem_gatherPoolCandidates {F : Type} [DecidableEq F] {families : List F}
    {familyOf : SocketAddr -> F} {discovered : FiniteMap SocketAddr PeerId} {s : ServiceState}
    {book : Inner} {draws : Nat -> SelectInputs} {want : Nat} {addr : SocketAddr} :
    (∃ candidate ∈ gatherPoolCandidates families familyOf discovered s book draws want,
        candidate.addr = some addr) ↔
      addr ∈ (s.gather book draws want).out ∧ familyOf addr ∈ families := by
  unfold gatherPoolCandidates orderByLocalStack
  constructor
  · rintro ⟨candidate, member, named⟩
    rcases List.mem_map.mp member with ⟨other, ordered, made⟩
    rcases List.mem_flatMap.mp ordered with ⟨family, listed, kept⟩
    rcases List.mem_filter.mp kept with ⟨gathered, ofFamily⟩
    have same : other = addr := by
      rw [<- made] at named
      cases known : discovered.lookup other <;> rw [known] at named <;>
        exact Option.some.inj named
    rw [<- same]
    exact ⟨gathered, (of_decide_eq_true ofFamily).symm ▸ listed⟩
  · rintro ⟨gathered, listed⟩
    refine ⟨_, List.mem_map.mpr ⟨addr, List.mem_flatMap.mpr ⟨familyOf addr, listed,
      List.mem_filter.mpr ⟨gathered, decide_eq_true rfl⟩⟩, rfl⟩, ?_⟩
    cases discovered.lookup addr <;> rfl

/-- The gatherer leaves to the planner what the planner would dial exactly when
no address it draws is the remote of an undialable slot alone. -/
theorem offers_undialed_iff {F : Type} [DecidableEq F] (families : List F)
    (familyOf : SocketAddr -> F) (discovered : FiniteMap SocketAddr PeerId)
    (order : PeerId -> Nat) (s : ServiceState) (book : Inner) (draws : Nat -> SelectInputs)
    (want : Nat) :
    OffersUndialed families familyOf discovered order s book draws want ↔
      RemotesAreDialed families familyOf s book draws want := by
  have sifted : Sifted s (s.gather book draws want) := sifted_gather
  constructor
  · rintro offers row drawn addr read family foreign ⟨peerId, slot, found, remote, _⟩
    by_contra undialed
    have unknown : CandidateKey.addr addr ∉ s.connectedPoolKeys order :=
      fun known => undialed (addr_mem_connectedPoolKeys.mp known)
    have gathered := (mem_gatherPoolCandidates.mp (offers row drawn addr read family foreign
      unknown)).1
    exact sifted.unconnected addr gathered (mem_connectedRemotes.mpr ⟨peerId, slot, found, remote⟩)
  · intro dialed row drawn addr read family foreign unknown
    apply mem_gatherPoolCandidates.mpr
    refine ⟨?_, family⟩
    rcases sifted.settled row drawn addr read with gathered | connected | own
    · exact gathered
    · exfalso
      apply unknown
      rcases mem_connectedRemotes.mp connected with ⟨peerId, slot, found, remote⟩
      apply addr_mem_connectedPoolKeys.mpr
      cases dial : slot.dialAddr with
      | none => exact dialed row drawn addr read family foreign ⟨peerId, slot, found, remote, dial⟩
      | some other =>
          have same : other = addr := (dialAddr_eq_remote dial).symm.trans remote
          exact ⟨peerId, slot, found, same ▸ dial⟩
    · rw [foreign] at own
      cases own

/-- A peer listens at the address of the relay over which another is reached,
and is never offered. -/
theorem relay_endpoint_withheld :
    exists book, Discovery.run Discovery.Example.firstByteDigest learnedRun
        (Inner.new Discovery.Example.zeroKey) = some book ∧
      ¬ OffersUndialed [()] (fun _ => ()) ∅ Fin.val relayed book (fun _ => onlyCell) 1 := by
  have checked : (Discovery.run Discovery.Example.firstByteDigest learnedRun
      (Inner.new Discovery.Example.zeroKey)).any (fun book =>
        (relayed.gather book (fun _ => onlyCell) 1).drawn.any (fun row =>
          decide (socketAddrOf row = some remoteAddr)) &&
        decide ((relayed.gather book (fun _ => onlyCell) 1).out = [] ∧
          relayed.dialTargetsLocalListen remoteAddr = false ∧
            CandidateKey.addr remoteAddr ∉ relayed.connectedPoolKeys Fin.val)) = true := by
    decide +kernel
  rcases (Option.any_eq_true _ _).mp checked with ⟨book, reached, facts⟩
  rw [Bool.and_eq_true, List.any_eq_true] at facts
  rcases facts with ⟨⟨row, drawn, read⟩, rest⟩
  rcases of_decide_eq_true rest with ⟨nothing, foreign, unknown⟩
  refine ⟨book, reached, fun offers => ?_⟩
  have gathered := (mem_gatherPoolCandidates.mp (offers row drawn remoteAddr
    (of_decide_eq_true read) (List.mem_singleton.mpr rfl) foreign unknown)).1
  rw [nothing] at gathered
  cases gathered

end Service
end DigGossip
