import DigGossip.Foundations.FiniteMap
import DigGossip.Foundations.Reordering
import DigGossip.Types.Peer

namespace DigGossip
namespace Service

open Foundations DigGossip.Types

/-!
# Reassembling a stream

Chunks of a stream are buffered by their sequence number and released as soon as
there is no gap in front of them.  The buffer is bounded in chunks and in bytes; a
chunk that would grow it past a bound is refused, while the chunk that fills the
first gap is never refused.
-/

def maxBufferedChunks : UInt64 := 256
def maxBufferedBytes : UInt64 := 4 * 1024 * 1024

abbrev Payload := List UInt8

inductive ReassembleError where
  | tooManyChunks (limit : UInt64)
  | tooManyBytes (limit : UInt64)
deriving DecidableEq

/-- The counter of bytes and the bounds are `usize`, of sixty-four bits. -/
structure StreamReassembler where
  nextSeq : UInt64
  buffered : FiniteMap UInt64 Payload
  bufferedBytes : UInt64
  maxChunks : UInt64
  maxBytes : UInt64

namespace StreamReassembler

def withCaps (maxChunks maxBytes : UInt64) : StreamReassembler :=
  { nextSeq := 0, buffered := ∅, bufferedBytes := 0, maxChunks := maxChunks, maxBytes := maxBytes }

def new : StreamReassembler :=
  withCaps maxBufferedChunks maxBufferedBytes

def pending (r : StreamReassembler) : Nat :=
  r.buffered.size

/-- The payloads that are held, in bytes. -/
def pendingBytes (r : StreamReassembler) : Nat :=
  r.buffered.total List.length

/-- Why a chunk that is not buffered yet may not be: nothing holds back the next
chunk in order. -/
def refusal (r : StreamReassembler) (seq : UInt64) (payload : Payload) : Option ReassembleError :=
  if r.nextSeq < seq then
    if r.maxChunks.toNat ≤ r.buffered.size then some (.tooManyChunks r.maxChunks)
    else if r.maxBytes.toNat < saturatingAdd u64Max r.bufferedBytes.toNat payload.length then
      some (.tooManyBytes r.maxBytes)
    else none
  else none

def insert (r : StreamReassembler) (seq : UInt64) (payload : Payload) : StreamReassembler :=
  { r with
    bufferedBytes := r.bufferedBytes + UInt64.ofNat payload.length
    buffered := r.buffered.insert seq payload }

/-- One turn of the loop: the next chunk, if it is held, is taken out. -/
def pop (r : StreamReassembler) : Option (Payload × StreamReassembler) :=
  (r.buffered.lookup r.nextSeq).map fun chunk => (chunk, { r with
    bufferedBytes := r.bufferedBytes - UInt64.ofNat chunk.length
    buffered := r.buffered.erase r.nextSeq
    nextSeq := r.nextSeq + 1 })

/-- The turns of the loop, as many as given at most. -/
def drain : Nat -> StreamReassembler -> StreamReassembler × List Payload
  | 0, r => (r, [])
  | turns + 1, r =>
      match r.pop with
      | some (chunk, rest) => ((drain turns rest).1, chunk :: (drain turns rest).2)
      | none => (r, [])

/-- Every turn of the loop takes out a chunk, so that there are no more turns than
chunks. -/
def accept (r : StreamReassembler) (seq : UInt64) (payload : Payload) :
    StreamReassembler × Except ReassembleError (List Payload) :=
  if seq < r.nextSeq then (r, .ok [])
  else if (r.buffered.lookup seq).isSome then (r, .ok [])
  else
    match r.refusal seq payload with
    | some reason => (r, .error reason)
    | none =>
        let filled := r.insert seq payload
        ((drain filled.buffered.size filled).1, .ok (drain filled.buffered.size filled).2)

/-! ## The loop -/

variable {r rest : StreamReassembler} {seq : UInt64} {payload chunk : Payload}

/-- The reassembler with the first gap filled, before the loop goes on. -/
def advance (r : StreamReassembler) : StreamReassembler :=
  { r with nextSeq := r.nextSeq + 1 }

theorem pop_eq_none_iff : r.pop = none ↔ r.buffered.lookup r.nextSeq = none := by
  unfold pop
  rw [Option.map_eq_none_iff]

/-- The next chunk in order goes through the buffer and leaves it as it was. -/
theorem pop_insert_next (absent : r.buffered.lookup r.nextSeq = none) :
    (r.insert r.nextSeq payload).pop = some (payload, r.advance) := by
  have same : (r.buffered.insert r.nextSeq payload).erase r.nextSeq = r.buffered := by
    apply Finmap.ext_lookup
    intro other
    rw [FiniteMap.lookup_erase_eq, FiniteMap.lookup_insert_eq]
    split
    · rename_i same
      rw [same, absent]
    · rfl
  unfold pop insert advance
  dsimp only
  rw [Finmap.lookup_insert, Option.map_some, same, UInt64.add_sub_cancel]

theorem drain_of_pop_none (turns : Nat) (ended : r.pop = none) : drain turns r = (r, []) := by
  cases turns with
  | zero => rfl
  | succ turns =>
      unfold drain
      rw [ended]

theorem drain_of_pop_some (turns : Nat) (popped : r.pop = some (chunk, rest)) :
    drain (turns + 1) r = ((drain turns rest).1, chunk :: (drain turns rest).2) := by
  rw [drain, popped]

/-- What every turn keeps is kept by the loop. -/
theorem drain_rule {Holds : StreamReassembler -> List Payload -> Prop}
    (step : forall r out chunk rest, Holds r out -> r.pop = some (chunk, rest) ->
      Holds rest (out ++ [chunk]))
    (turns : Nat) {out : List Payload} (holds : Holds r out) :
    Holds (drain turns r).1 (out ++ (drain turns r).2) := by
  induction turns generalizing r out with
  | zero =>
      rw [drain, List.append_nil]
      exact holds
  | succ turns inner =>
      cases popped : r.pop with
      | none =>
          rw [drain_of_pop_none _ popped, List.append_nil]
          exact holds
      | some taken =>
          have after := inner (step r out taken.1 taken.2 holds popped)
          rw [drain_of_pop_some _ popped]
          rw [List.append_assoc] at after
          exact after

theorem pending_of_pop (popped : r.pop = some (chunk, rest)) : rest.pending + 1 = r.pending := by
  rcases Option.map_eq_some_iff.mp popped with ⟨held, found, same⟩
  cases same
  exact FiniteMap.size_erase_of_lookup found

/-- The loop ends because nothing follows, not because its turns run out. -/
theorem pop_drain (turns : Nat) (enough : r.pending ≤ turns) : (drain turns r).1.pop = none := by
  induction turns generalizing r with
  | zero =>
      cases popped : r.pop with
      | none => exact popped
      | some taken =>
          have fewer := pending_of_pop popped
          omega
  | succ turns inner =>
      cases popped : r.pop with
      | none =>
          rw [drain_of_pop_none _ popped]
          exact popped
      | some taken =>
          have fewer := pending_of_pop popped
          rw [drain_of_pop_some _ popped]
          exact inner (by omega)

/-- The bounds are those of another reassembler. -/
def SameCaps (r other : StreamReassembler) : Prop :=
  r.maxChunks = other.maxChunks ∧ r.maxBytes = other.maxBytes

theorem sameCaps_of_pop {other : StreamReassembler} (same : r.SameCaps other)
    (popped : r.pop = some (chunk, rest)) : rest.SameCaps other := by
  rcases Option.map_eq_some_iff.mp popped with ⟨held, found, taken⟩
  cases taken
  exact same

theorem sameCaps_drain {other : StreamReassembler} (same : r.SameCaps other) (turns : Nat) :
    (drain turns r).1.SameCaps other :=
  @drain_rule r (fun r _ => r.SameCaps other)
    (fun _ _ _ _ same popped => sameCaps_of_pop same popped) turns [] same

/-! ## One call -/

/-- What a call can come to where the first gap is not buffered. -/
inductive Call (r : StreamReassembler) (seq : UInt64) (payload : Payload) :
    StreamReassembler × Except ReassembleError (List Payload) -> Prop where
  /-- A chunk that was delivered or is buffered already. -/
  | again (old : seq < r.nextSeq ∨ (r.buffered.lookup seq).isSome) : Call r seq payload (r, .ok [])
  | refused {reason : ReassembleError} (ahead : r.nextSeq < seq)
      (full : r.refusal seq payload = some reason) : Call r seq payload (r, .error reason)
  | buffered (ahead : r.nextSeq < seq) (fresh : r.buffered.lookup seq = none)
      (fits : r.refusal seq payload = none) : Call r seq payload (r.insert seq payload, .ok [])
  | filled (next : seq = r.nextSeq) : Call r seq payload
      ((drain r.pending r.advance).1, .ok (payload :: (drain r.pending r.advance).2))

theorem refusal_next (payload : Payload) : r.refusal r.nextSeq payload = none := by
  unfold refusal
  exact if_neg (UInt64.lt_irrefl _)

theorem accept_next (absent : r.buffered.lookup r.nextSeq = none) (payload : Payload) :
    r.accept r.nextSeq payload =
      ((drain r.pending r.advance).1, .ok (payload :: (drain r.pending r.advance).2)) := by
  have size : (r.insert r.nextSeq payload).buffered.size = r.pending + 1 :=
    FiniteMap.size_insert_of_none absent payload
  unfold accept
  rw [if_neg (UInt64.lt_irrefl _), absent, Option.isSome_none, if_neg Bool.false_ne_true,
    refusal_next]
  dsimp only
  rw [size, drain_of_pop_some _ (pop_insert_next absent)]

theorem call_accept (absent : r.buffered.lookup r.nextSeq = none) (seq : UInt64)
    (payload : Payload) : Call r seq payload (r.accept seq payload) := by
  by_cases next : seq = r.nextSeq
  · subst next
    rw [accept_next absent]
    exact Call.filled rfl
  · unfold accept
    split
    · rename_i stale
      exact Call.again (Or.inl stale)
    · rename_i fresh
      have ahead : r.nextSeq < seq := by
        rcases UInt64.lt_or_eq_of_le (UInt64.not_lt.mp fresh) with ahead | same
        · exact ahead
        · exact absurd same.symm next
      split
      · rename_i held
        exact Call.again (Or.inr held)
      · rename_i free
        have free := Option.not_isSome_iff_eq_none.mp free
        cases full : r.refusal seq payload with
        | some reason => exact Call.refused ahead full
        | none =>
            have ended : (r.insert seq payload).pop = none := by
              rw [pop_eq_none_iff]
              show (r.buffered.insert seq payload).lookup r.nextSeq = none
              rw [FiniteMap.lookup_insert_eq, if_neg (Ne.symm next), absent]
            dsimp only
            rw [drain_of_pop_none _ ended]
            exact Call.buffered ahead free full

theorem sameCaps_accept (absent : r.buffered.lookup r.nextSeq = none) (seq : UInt64)
    (payload : Payload) : (r.accept seq payload).1.SameCaps r := by
  have call := call_accept absent seq payload
  generalize r.accept seq payload = outcome at call
  cases call with
  | again old => exact ⟨rfl, rfl⟩
  | refused ahead full => exact ⟨rfl, rfl⟩
  | buffered ahead fresh fits => exact ⟨rfl, rfl⟩
  | filled next => exact sameCaps_drain ⟨rfl, rfl⟩ _

/-- A call that fails has changed nothing. -/
theorem accept_of_error {reason : ReassembleError}
    (failed : (r.accept seq payload).2 = .error reason) : (r.accept seq payload).1 = r := by
  unfold accept at failed ⊢
  split
  · rfl
  · rw [if_neg (by assumption)] at failed
    split
    · rfl
    · rw [if_neg (by assumption)] at failed
      split
      · rfl
      · rename_i passed
        rw [passed] at failed
        cases failed

/-! ## Runs -/

/-- The calls one after another, with what each of them returns. -/
def run (r : StreamReassembler) : List (UInt64 × Payload) ->
    StreamReassembler × List (Except ReassembleError (List Payload))
  | [] => (r, [])
  | (seq, payload) :: calls =>
      let (after, result) := r.accept seq payload
      ((run after calls).1, result :: (run after calls).2)

/-- What holds between the calls. -/
structure Bounded (r : StreamReassembler) : Prop where
  counter : r.bufferedBytes.toNat = r.pendingBytes
  chunks : r.pending ≤ r.maxChunks.toNat
  bytes : r.pendingBytes ≤ r.maxBytes.toNat
  ahead : forall seq, (r.buffered.lookup seq).isSome -> r.nextSeq < seq

theorem Bounded.absent (bounded : r.Bounded) : r.buffered.lookup r.nextSeq = none := by
  cases held : r.buffered.lookup r.nextSeq with
  | none => rfl
  | some chunk => exact absurd (bounded.ahead r.nextSeq (by rw [held]; rfl)) (UInt64.lt_irrefl _)

/-- What holds between the turns of a loop that began with no more than `start`
holds. -/
structure Looping (start r : StreamReassembler) : Prop where
  counter : r.bufferedBytes = UInt64.ofNat r.pendingBytes
  chunks : r.pending ≤ start.pending
  bytes : r.pendingBytes ≤ start.pendingBytes
  least : forall seq, (r.buffered.lookup seq).isSome -> r.nextSeq ≤ seq

theorem succ_le_of_lt {first second : UInt64} (less : first < second) : first + 1 ≤ second := by
  have less := UInt64.lt_iff_toNat_lt.mp less
  have bound := second.toNat_lt
  apply UInt64.le_iff_toNat_le.mpr
  rw [UInt64.toNat_add]
  show (first.toNat + 1) % 2 ^ 64 ≤ second.toNat
  omega

theorem pendingBytes_of_pop (popped : r.pop = some (chunk, rest)) :
    rest.pendingBytes + chunk.length = r.pendingBytes := by
  rcases Option.map_eq_some_iff.mp popped with ⟨held, found, same⟩
  cases same
  exact FiniteMap.total_erase_of_lookup found List.length

theorem Looping.pop {start : StreamReassembler} (looping : Looping start r)
    (popped : r.pop = some (chunk, rest)) : Looping start rest := by
  have fewer := pending_of_pop popped
  have less := pendingBytes_of_pop popped
  have counter : r.bufferedBytes - UInt64.ofNat chunk.length = UInt64.ofNat rest.pendingBytes := by
    rw [looping.counter, <- less, UInt64.ofNat_add, UInt64.add_sub_cancel]
  rcases Option.map_eq_some_iff.mp popped with ⟨held, found, same⟩
  cases same
  constructor
  · exact counter
  · exact Nat.le_trans (by omega) looping.chunks
  · exact Nat.le_trans (by omega) looping.bytes
  · intro seq present
    replace present : ((r.buffered.erase r.nextSeq).lookup seq).isSome := present
    rw [FiniteMap.lookup_erase_eq] at present
    split at present
    · cases present
    · rename_i different
      apply succ_le_of_lt
      exact UInt64.lt_of_le_of_ne (looping.least seq present) (Ne.symm different)

theorem Looping.drain {start : StreamReassembler} (looping : Looping start r) (turns : Nat) :
    Looping start (drain turns r).1 :=
  @drain_rule r (fun r _ => Looping start r) (fun _ _ _ _ looping popped => looping.pop popped) turns
    [] looping

theorem Bounded.looping (bounded : r.Bounded) : Looping r r.advance where
  counter := by
    show r.bufferedBytes = UInt64.ofNat r.pendingBytes
    rw [<- bounded.counter, UInt64.ofNat_toNat]
  chunks := Nat.le_refl _
  bytes := Nat.le_refl _
  least := fun seq present => succ_le_of_lt (bounded.ahead seq present)

/-- The end of the loop is between two calls again. -/
theorem Bounded.of_looping {start : StreamReassembler} (bounded : start.Bounded)
    (looping : Looping start r) (caps : r.SameCaps start) (ended : r.pop = none) : r.Bounded where
  counter := by
    have small := Nat.le_trans looping.bytes bounded.bytes
    rw [looping.counter]
    exact UInt64.toNat_ofNat_of_lt' (Nat.lt_of_le_of_lt small start.maxBytes.toNat_lt)
  chunks := by
    rw [caps.1]
    exact Nat.le_trans looping.chunks bounded.chunks
  bytes := by
    rw [caps.2]
    exact Nat.le_trans looping.bytes bounded.bytes
  ahead := by
    intro seq present
    apply UInt64.lt_of_le_of_ne (looping.least seq present)
    rintro rfl
    rw [pop_eq_none_iff.mp ended] at present
    cases present

/-- The payload and what is pending fit the memory together, where the bound is
the whole of it. -/
def Fits (r : StreamReassembler) (payload : Payload) : Prop :=
  r.maxBytes.toNat = u64Max -> r.pendingBytes + payload.length ≤ u64Max

theorem room_of_not_refused (bounded : r.Bounded) (fits : r.Fits payload)
    (ahead : r.nextSeq < seq) (passed : r.refusal seq payload = none) :
    r.pending < r.maxChunks.toNat ∧ r.pendingBytes + payload.length ≤ r.maxBytes.toNat := by
  unfold refusal at passed
  rw [if_pos ahead] at passed
  split at passed
  · cases passed
  · rename_i few
    split at passed
    · cases passed
    · rename_i light
      refine ⟨Nat.lt_of_not_le few, ?_⟩
      have bound := r.maxBytes.toNat_lt
      have counter := bounded.counter
      unfold saturatingAdd u64Max at light
      unfold Fits u64Max at fits
      have light : min (r.bufferedBytes.toNat + payload.length) (2 ^ 64 - 1) ≤ r.maxBytes.toNat :=
        Nat.le_of_not_lt light
      omega

theorem Bounded.insert (bounded : r.Bounded) (fits : r.Fits payload) (ahead : r.nextSeq < seq)
    (fresh : r.buffered.lookup seq = none) (passed : r.refusal seq payload = none) :
    (r.insert seq payload).Bounded := by
  have room := room_of_not_refused bounded fits ahead passed
  have size : (r.insert seq payload).pending = r.pending + 1 :=
    FiniteMap.size_insert_of_none fresh payload
  have bytes : (r.insert seq payload).pendingBytes = r.pendingBytes + payload.length :=
    FiniteMap.total_insert_of_none fresh payload List.length
  have total : r.pendingBytes + payload.length < 2 ^ 64 :=
    Nat.lt_of_le_of_lt room.2 r.maxBytes.toNat_lt
  have small : payload.length < 2 ^ 64 := Nat.lt_of_le_of_lt (Nat.le_add_left _ _) total
  constructor
  · rw [bytes]
    show (r.bufferedBytes + UInt64.ofNat payload.length).toNat = _
    rw [UInt64.toNat_add, bounded.counter, UInt64.toNat_ofNat_of_lt' small]
    exact Nat.mod_eq_of_lt total
  · rw [size]
    exact room.1
  · rw [bytes]
    exact room.2
  · intro other present
    replace present : ((r.buffered.insert seq payload).lookup other).isSome := present
    rw [FiniteMap.lookup_insert_eq] at present
    split at present
    · rename_i same
      rw [same]
      exact ahead
    · exact bounded.ahead other present

theorem Bounded.accept (bounded : r.Bounded) (fits : r.Fits payload) (seq : UInt64) :
    (r.accept seq payload).1.Bounded := by
  have call := call_accept bounded.absent seq payload
  generalize r.accept seq payload = outcome at call
  cases call with
  | again old => exact bounded
  | refused ahead full => exact bounded
  | buffered ahead fresh passed => exact bounded.insert fits ahead fresh passed
  | filled next =>
      have caps : (drain r.pending r.advance).1.SameCaps r := sameCaps_drain ⟨rfl, rfl⟩ _
      apply Bounded.of_looping bounded (bounded.looping.drain _) caps
      exact pop_drain _ (Nat.le_refl _)

theorem bounded_withCaps (maxChunks maxBytes : UInt64) : (withCaps maxChunks maxBytes).Bounded where
  counter := (FiniteMap.total_empty List.length).symm
  chunks := Nat.zero_le _
  bytes := by
    show FiniteMap.total ∅ List.length ≤ _
    rw [FiniteMap.total_empty]
    exact Nat.zero_le _
  ahead := by
    intro seq present
    replace present : ((∅ : FiniteMap UInt64 Payload).lookup seq).isSome := present
    rw [Finmap.lookup_empty] at present
    cases present

/-- The payloads of a run fit the memory, each with what is pending when it comes. -/
def InMemory (r : StreamReassembler) : List (UInt64 × Payload) -> Prop
  | [] => True
  | (seq, payload) :: calls => r.Fits payload ∧ InMemory (r.accept seq payload).1 calls

theorem Bounded.run (bounded : r.Bounded) {calls : List (UInt64 × Payload)}
    (memory : r.InMemory calls) :
    (run r calls).1.Bounded ∧ (run r calls).1.SameCaps r := by
  induction calls generalizing r with
  | nil => exact ⟨bounded, rfl, rfl⟩
  | cons call calls inner =>
      have caps := sameCaps_accept bounded.absent call.1 call.2
      have after := inner (bounded.accept memory.1 call.1) memory.2
      exact ⟨after.1, after.2.1.trans caps.1, after.2.2.trans caps.2⟩

/-- After every sequence of calls the counter is exact, the bounds are kept and what
is pending is ahead; a call that fails changes nothing, and the next chunk in order
does not fail. -/
theorem reassembly_bounded_and_atomic (maxChunks maxBytes : UInt64)
    (calls : List (UInt64 × Payload)) (memory : (withCaps maxChunks maxBytes).InMemory calls)
    (r : StreamReassembler) (reached : (run (withCaps maxChunks maxBytes) calls).1 = r) :
    r.bufferedBytes.toNat = r.pendingBytes ∧
    r.pending ≤ maxChunks.toNat ∧ r.pendingBytes ≤ maxBytes.toNat ∧
    (forall seq, (r.buffered.lookup seq).isSome -> r.nextSeq < seq) ∧
    (forall seq payload reason, (r.accept seq payload).2 = .error reason ->
      (r.accept seq payload).1 = r) ∧
    (forall payload, exists more, (r.accept r.nextSeq payload).2 = .ok (payload :: more)) := by
  rcases (bounded_withCaps maxChunks maxBytes).run memory with ⟨bounded, caps⟩
  rw [reached] at bounded caps
  refine ⟨bounded.counter, ?_, ?_, bounded.ahead, ?_, ?_⟩
  · exact Nat.le_trans bounded.chunks (Nat.le_of_eq (congrArg UInt64.toNat caps.1))
  · exact Nat.le_trans bounded.bytes (Nat.le_of_eq (congrArg UInt64.toNat caps.2))
  · intro seq payload reason failed
    exact accept_of_error failed
  · intro payload
    rw [accept_next bounded.absent]
    exact ⟨_, rfl⟩

/-- Two chunks of three are held back by the first, and then nothing is. -/
theorem reassembly_bounded_and_atomic_filled :
    (run (withCaps 2 10) [(1, [7]), (2, [8, 9]), (0, [6])]).1.pendingBytes ≤ 10 := by
  have memory : (withCaps 2 10).InMemory [(1, [7]), (2, [8, 9]), (0, [6])] := by
    refine ⟨?_, ?_, ?_, trivial⟩
    all_goals
      intro whole
      revert whole
      decide
  exact (reassembly_bounded_and_atomic 2 10 _ memory _ rfl).2.2.1

end StreamReassembler
end Service
end DigGossip
