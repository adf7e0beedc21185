import DigGossip.Service.StreamReassembler

namespace DigGossip
namespace Service
namespace StreamReassembler

open Foundations DigGossip.Types

/-!
# What a stream delivers

The reassembler is determined by what is known of the stream, that is the payload
accepted first for each sequence number: the next number is the first one that is
missing, the buffer holds what is known beyond it, and what came out is what is
known in front of it.
-/

variable {r rest : StreamReassembler} {seq : UInt64} {payload chunk : Payload}
variable {known : Nat -> Option Payload} {out : List Payload}

/-- What the reassembler says of the known chunks, between the turns of the loop. -/
structure Delivering (known : Nat -> Option Payload) (out : List Payload)
    (r : StreamReassembler) : Prop where
  below : forall number, number < r.nextSeq.toNat -> (known number).isSome
  held : forall seq : UInt64,
    r.buffered.lookup seq = if seq.toNat < r.nextSeq.toNat then none else known seq.toNat
  delivered : Reordering.Prefix known r.nextSeq.toNat out
  counter : r.bufferedBytes = UInt64.ofNat r.pendingBytes
  small : forall number, (known number).isSome -> number < 2 ^ 64 - 1

theorem Delivering.at_next (delivering : Delivering known out r) :
    r.buffered.lookup r.nextSeq = known r.nextSeq.toNat := by
  rw [delivering.held, if_neg (Nat.lt_irrefl _)]

theorem toNat_succ (small : seq.toNat < 2 ^ 64 - 1) : (seq + 1).toNat = seq.toNat + 1 := by
  rw [UInt64.toNat_add]
  exact Nat.mod_eq_of_lt (by show seq.toNat + 1 < 2 ^ 64; omega)

/-- A turn of the loop moves the end of what came out by one. -/
theorem Delivering.pop (delivering : Delivering known out r)
    (popped : r.pop = some (chunk, rest)) : Delivering known (out ++ [chunk]) rest := by
  have bytes := pendingBytes_of_pop popped
  have counter : r.bufferedBytes - UInt64.ofNat chunk.length = UInt64.ofNat rest.pendingBytes := by
    rw [delivering.counter, <- bytes, UInt64.ofNat_add, UInt64.add_sub_cancel]
  rcases Option.map_eq_some_iff.mp popped with ⟨held, found, same⟩
  cases same
  have next : known r.nextSeq.toNat = some chunk := delivering.at_next.symm.trans found
  have succ := toNat_succ (delivering.small _ (by rw [next]; rfl))
  constructor
  · intro number before
    rw [succ] at before
    rcases Nat.lt_succ_iff_lt_or_eq.mp before with earlier | same
    · exact delivering.below number earlier
    · rw [same, next]
      rfl
  · intro seq
    show (r.buffered.erase r.nextSeq).lookup seq =
      if seq.toNat < (r.nextSeq + 1).toNat then _ else _
    rw [FiniteMap.lookup_erase_eq, succ]
    by_cases same : seq = r.nextSeq
    · rw [if_pos same, if_pos (by rw [same]; exact Nat.lt_succ_self _)]
    · have different : seq.toNat ≠ r.nextSeq.toNat := fun equal => same (UInt64.toNat_inj.mp equal)
      rw [if_neg same, delivering.held]
      by_cases before : seq.toNat < r.nextSeq.toNat
      · rw [if_pos before, if_pos (by omega)]
      · rw [if_neg before, if_neg (by omega)]
  · show Reordering.Prefix known (r.nextSeq + 1).toNat _
    rw [succ]
    exact delivering.delivered.concat next
  · exact counter
  · exact delivering.small

/-- What holds between the calls: the next number is missing. -/
structure Delivered (known : Nat -> Option Payload) (out : List Payload)
    (r : StreamReassembler) : Prop extends Delivering known out r where
  missing : known r.nextSeq.toNat = none

theorem Delivered.absent (delivered : Delivered known out r) :
    r.buffered.lookup r.nextSeq = none :=
  delivered.at_next.trans delivered.missing

theorem Delivered.frontier (delivered : Delivered known out r) :
    Reordering.Frontier known r.nextSeq.toNat :=
  ⟨delivered.below, delivered.missing⟩

theorem Delivering.drain (delivering : Delivering known out r) :
    Delivered known (out ++ (drain r.pending r).2) (drain r.pending r).1 := by
  have looped := @drain_rule r (fun r out => Delivering known out r)
    (fun _ _ _ _ delivering popped => delivering.pop popped) r.pending out delivering
  have ended := pop_eq_none_iff.mp (pop_drain r.pending (Nat.le_refl r.pending))
  exact { looped with missing := looped.at_next.symm.trans ended }

/-! ## One call -/

theorem known_of_again (delivered : Delivered known out r)
    (old : seq < r.nextSeq ∨ (r.buffered.lookup seq).isSome) : (known seq.toNat).isSome := by
  rcases old with stale | held
  · exact delivered.below _ (UInt64.lt_iff_toNat_lt.mp stale)
  · rw [delivered.held] at held
    split at held
    · cases held
    · exact held

theorem Delivering.small_arrive (delivering : Delivering known out r) {arrived : Nat}
    (small : arrived < 2 ^ 64 - 1) (payload : Payload) :
    forall number, (Reordering.arrive known arrived payload number).isSome ->
      number < 2 ^ 64 - 1 := by
  intro number found
  by_cases same : number = arrived
  · rw [same]
    exact small
  · rw [Reordering.arrive_other known same payload] at found
    exact delivering.small number found

theorem Delivered.insert (delivered : Delivered known out r) (ahead : r.nextSeq < seq)
    (fresh : r.buffered.lookup seq = none) (small : seq.toNat < 2 ^ 64 - 1) (payload : Payload) :
    Delivered (Reordering.arrive known seq.toNat payload) out (r.insert seq payload) := by
  have beyond := UInt64.lt_iff_toNat_lt.mp ahead
  have unknown : known seq.toNat = none := by
    rw [delivered.held, if_neg (by omega)] at fresh
    exact fresh
  have others : forall number, number ≠ seq.toNat ->
      Reordering.arrive known seq.toNat payload number = known number :=
    fun number different => Reordering.arrive_other known different payload
  constructor
  constructor
  · intro number before
    replace before : number < r.nextSeq.toNat := before
    rw [others number (by omega)]
    exact delivered.below number before
  · intro other
    show (r.buffered.insert seq payload).lookup other =
      if other.toNat < r.nextSeq.toNat then _ else _
    rw [FiniteMap.lookup_insert_eq]
    by_cases same : other = seq
    · rw [if_pos same, same, if_neg (by omega), Reordering.arrive_self unknown]
    · have different : other.toNat ≠ seq.toNat := fun equal => same (UInt64.toNat_inj.mp equal)
      rw [if_neg same, delivered.held, others _ different]
  · exact delivered.delivered.congr fun earlier before => others earlier (by omega)
  · have bytes : (r.insert seq payload).pendingBytes = r.pendingBytes + payload.length :=
      FiniteMap.total_insert_of_none fresh payload List.length
    rw [bytes, UInt64.ofNat_add, <- delivered.counter]
    rfl
  · exact delivered.small_arrive small payload
  · show Reordering.arrive known seq.toNat payload r.nextSeq.toNat = none
    rw [others _ (by omega)]
    exact delivered.missing

theorem Delivered.advance (delivered : Delivered known out r)
    (small : r.nextSeq.toNat < 2 ^ 64 - 1) (payload : Payload) :
    Delivering (Reordering.arrive known r.nextSeq.toNat payload) (out ++ [payload]) r.advance := by
  have succ := toNat_succ small
  have arrived := Reordering.arrive_self delivered.missing payload
  have others : forall number, number ≠ r.nextSeq.toNat ->
      Reordering.arrive known r.nextSeq.toNat payload number = known number :=
    fun number different => Reordering.arrive_other known different payload
  constructor
  · intro number before
    replace before : number < (r.nextSeq + 1).toNat := before
    rw [succ] at before
    rcases Nat.lt_succ_iff_lt_or_eq.mp before with earlier | same
    · rw [others number (by omega)]
      exact delivered.below number earlier
    · rw [same, arrived]
      rfl
  · intro seq
    show r.buffered.lookup seq = if seq.toNat < (r.nextSeq + 1).toNat then _ else _
    rw [succ]
    by_cases before : seq.toNat < r.nextSeq.toNat + 1
    · rw [if_pos before, delivered.held]
      split
      · rfl
      · rename_i notBefore
        have same : seq.toNat = r.nextSeq.toNat := by omega
        rw [same, delivered.missing]
    · rw [if_neg before, delivered.held, if_neg (by omega), others _ (by omega)]
  · show Reordering.Prefix _ (r.nextSeq + 1).toNat _
    rw [succ]
    exact (delivered.delivered.congr fun earlier before => others earlier (by omega)).concat arrived
  · exact delivered.counter
  · exact delivered.small_arrive small payload

/-- A call is refused, or its chunk has arrived and all that follows without a gap has
come out. -/
theorem Delivered.accept (delivered : Delivered known out r) (small : seq.toNat < 2 ^ 64 - 1)
    (payload : Payload) :
    (exists reason, r.accept seq payload = (r, .error reason)) ∨
    (exists after ready, r.accept seq payload = (after, .ok ready) ∧
      Delivered (Reordering.arrive known seq.toNat payload) (out ++ ready) after) := by
  have call := call_accept delivered.absent seq payload
  generalize r.accept seq payload = outcome at call
  cases call with
  | again old =>
      right
      refine ⟨r, [], rfl, ?_⟩
      rw [Reordering.arrive_of_known (known_of_again delivered old), List.append_nil]
      exact delivered
  | refused ahead full => exact Or.inl ⟨_, rfl⟩
  | buffered ahead fresh fits =>
      right
      refine ⟨r.insert seq payload, [], rfl, ?_⟩
      rw [List.append_nil]
      exact delivered.insert ahead fresh small payload
  | filled next =>
      right
      refine ⟨_, _, rfl, ?_⟩
      subst next
      have drained := (delivered.advance small payload).drain
      rw [List.append_assoc] at drained
      exact drained

/-! ## Runs -/

/-- What a call has put out. -/
def released : Except ReassembleError (List Payload) -> List Payload
  | .ok ready => ready
  | .error _ => []

/-- The payload of the first call for a number that was not refused. -/
def firstAccepted (calls : List (UInt64 × Payload))
    (results : List (Except ReassembleError (List Payload))) (number : Nat) : Option Payload :=
  ((calls.zip results).find? fun call => call.1.1.toNat = number && call.2.toBool).map (·.1.2)

/-- The payload of the first call for a number. -/
def firstArrival (calls : List (UInt64 × Payload)) (number : Nat) : Option Payload :=
  (calls.find? fun call => call.1.toNat = number).map Prod.snd

theorem firstAccepted_refused (seq : UInt64) (payload : Payload) (calls : List (UInt64 × Payload))
    (reason : ReassembleError) (results : List (Except ReassembleError (List Payload)))
    (number : Nat) :
    firstAccepted ((seq, payload) :: calls) (.error reason :: results) number =
      firstAccepted calls results number := by
  unfold firstAccepted
  rw [List.zip_cons_cons, List.find?_cons_of_neg]
  exact fun found => Bool.false_ne_true ((Bool.and_eq_true_iff.mp found).2)

theorem firstAccepted_accepted (seq : UInt64) (payload : Payload)
    (calls : List (UInt64 × Payload)) (ready : List Payload)
    (results : List (Except ReassembleError (List Payload))) (number : Nat) :
    firstAccepted ((seq, payload) :: calls) (.ok ready :: results) number =
      if number = seq.toNat then some payload else firstAccepted calls results number := by
  unfold firstAccepted
  split
  · rename_i same
    rw [List.zip_cons_cons, List.find?_cons_of_pos]
    · rfl
    · exact Bool.and_eq_true_iff.mpr ⟨decide_eq_true same.symm, rfl⟩
  · rename_i different
    rw [List.zip_cons_cons, List.find?_cons_of_neg]
    intro found
    exact different (of_decide_eq_true (Bool.and_eq_true_iff.mp found).1).symm

theorem Delivered.run (delivered : Delivered known out r) {calls : List (UInt64 × Payload)}
    (small : ∀ call ∈ calls, call.1.toNat < 2 ^ 64 - 1) :
    Delivered (fun number => (known number).or (firstAccepted calls (run r calls).2 number))
      (out ++ (run r calls).2.flatMap released) (run r calls).1 := by
  induction calls generalizing r known out with
  | nil =>
      have nothing : (fun number => (known number).or (firstAccepted [] (run r []).2 number)) =
          known := by
        funext number
        exact Option.or_none
      rw [nothing]
      show Delivered known (out ++ []) r
      rw [List.append_nil]
      exact delivered
  | cons call calls inner =>
      rcases call with ⟨seq, payload⟩
      have others := fun call member => small call (List.mem_cons_of_mem (seq, payload) member)
      rcases delivered.accept (small (seq, payload) List.mem_cons_self) payload with
        ⟨reason, called⟩ | ⟨after, ready, called, arrived⟩
      · have ran : StreamReassembler.run r ((seq, payload) :: calls) =
            ((StreamReassembler.run r calls).1,
              .error reason :: (StreamReassembler.run r calls).2) := by
          rw [StreamReassembler.run, called]
        rw [ran]
        simp only [firstAccepted_refused]
        exact inner delivered others
      · have ran : StreamReassembler.run r ((seq, payload) :: calls) =
            ((StreamReassembler.run after calls).1,
              .ok ready :: (StreamReassembler.run after calls).2) := by
          rw [StreamReassembler.run, called]
        rw [ran]
        simp only [firstAccepted_accepted]
        have rest := inner arrived others
        have joined : (fun number => (Reordering.arrive known seq.toNat payload number).or
              (firstAccepted calls (StreamReassembler.run after calls).2 number)) =
            fun number => (known number).or (if number = seq.toNat then some payload
              else firstAccepted calls (StreamReassembler.run after calls).2 number) := by
          funext number
          unfold Reordering.arrive
          rw [Option.or_assoc]
          split
          · rfl
          · rfl
        rw [joined, List.append_assoc] at rest
        exact rest

theorem delivered_withCaps (maxChunks maxBytes : UInt64) :
    Delivered (fun _ => none) [] (withCaps maxChunks maxBytes) where
  below := fun number before => absurd before (Nat.not_lt_zero number)
  held := by
    intro seq
    show (∅ : FiniteMap UInt64 Payload).lookup seq = if seq.toNat < 0 then none else none
    rw [Finmap.lookup_empty, ite_self]
  delivered := Reordering.Prefix.zero _
  counter := by
    show 0 = UInt64.ofNat (FiniteMap.total ∅ List.length)
    rw [FiniteMap.total_empty]
    rfl
  small := by
    intro number found
    cases found
  missing := rfl

theorem delivered_run (maxChunks maxBytes : UInt64) {calls : List (UInt64 × Payload)}
    (small : ∀ call ∈ calls, call.1.toNat < 2 ^ 64 - 1) :
    Delivered (firstAccepted calls (run (withCaps maxChunks maxBytes) calls).2)
      ((run (withCaps maxChunks maxBytes) calls).2.flatMap released)
      (run (withCaps maxChunks maxBytes) calls).1 :=
  (delivered_withCaps maxChunks maxBytes).run small

/-- What is known determines the reassembler and what came out of it. -/
theorem Delivered.unique {other : StreamReassembler} {otherOut : List Payload}
    (left : Delivered known out r) (right : Delivered known otherOut other)
    (caps : r.SameCaps other) : out = otherOut ∧ r = other := by
  have next := left.frontier.unique right.frontier
  have outs : out = otherOut := by
    have delivered := right.delivered
    rw [<- next] at delivered
    exact left.delivered.unique delivered
  have buffers : r.buffered = other.buffered := by
    apply Finmap.ext_lookup
    intro seq
    rw [left.held, right.held, next]
  have counters : r.bufferedBytes = other.bufferedBytes := by
    rw [left.counter, right.counter, pendingBytes, pendingBytes, buffers]
  refine ⟨outs, ?_⟩
  cases r
  cases other
  have seqs := UInt64.toNat_inj.mp next
  cases seqs
  cases buffers
  cases counters
  cases caps.1
  cases caps.2
  rfl

theorem sameCaps_run (delivered : Delivered known out r) {calls : List (UInt64 × Payload)}
    (small : ∀ call ∈ calls, call.1.toNat < 2 ^ 64 - 1) : (run r calls).1.SameCaps r := by
  induction calls generalizing r known out with
  | nil => exact ⟨rfl, rfl⟩
  | cons call calls inner =>
      have others := fun later member => small later (List.mem_cons_of_mem call member)
      have caps := sameCaps_accept delivered.absent call.1 call.2
      have after : exists known out, Delivered known out (r.accept call.1 call.2).1 := by
        rcases delivered.accept (small call List.mem_cons_self) call.2 with
          ⟨reason, called⟩ | ⟨after, ready, called, arrived⟩
        · exact ⟨known, out, by rw [called]; exact delivered⟩
        · exact ⟨_, _, by rw [called]; exact arrived⟩
      rcases after with ⟨_, _, after⟩
      have rest := inner after others
      exact ⟨rest.1.trans caps.1, rest.2.trans caps.2⟩

theorem firstArrival_cons (call : UInt64 × Payload) (calls : List (UInt64 × Payload))
    (number : Nat) :
    firstArrival (call :: calls) number =
      if number = call.1.toNat then some call.2 else firstArrival calls number := by
  unfold firstArrival
  split
  · rename_i same
    rw [List.find?_cons_of_pos]
    · rfl
    · exact decide_eq_true same.symm
  · rename_i different
    rw [List.find?_cons_of_neg]
    exact fun found => different (of_decide_eq_true found).symm

/-- Where no call is refused, the first accepted payload is the first to arrive. -/
theorem firstAccepted_eq_firstArrival {calls : List (UInt64 × Payload)}
    {results : List (Except ReassembleError (List Payload))}
    (lengths : results.length = calls.length) (accepted : ∀ result ∈ results, result.toBool = true) :
    firstAccepted calls results = firstArrival calls := by
  funext number
  induction calls generalizing results with
  | nil => rfl
  | cons call calls inner =>
      cases results with
      | nil => cases lengths
      | cons result results =>
          have rest := inner (Nat.succ.inj lengths)
            fun later member => accepted later (List.mem_cons_of_mem result member)
          cases result with
          | error reason =>
              exact absurd (accepted _ List.mem_cons_self) Bool.false_ne_true
          | ok ready =>
              rw [firstAccepted_accepted call.1 call.2, rest, firstArrival_cons]

theorem length_run (r : StreamReassembler) (calls : List (UInt64 × Payload)) :
    (run r calls).2.length = calls.length := by
  induction calls generalizing r with
  | nil => rfl
  | cons call calls inner => exact congrArg Nat.succ (inner _)

/-- What comes out of any run is the stream of the payloads accepted first, up to the
next number; and runs without a refusal in which the same payload arrives first for
each number end alike. -/
theorem reassembly_delivers (maxChunks maxBytes : UInt64) :
    (forall calls : List (UInt64 × Payload), (∀ call ∈ calls, call.1.toNat < 2 ^ 64 - 1) ->
      forall r results, run (withCaps maxChunks maxBytes) calls = (r, results) ->
        (results.flatMap released).map some =
          (List.range r.nextSeq.toNat).map (firstAccepted calls results)) ∧
    (forall first second : List (UInt64 × Payload),
      (∀ call ∈ first, call.1.toNat < 2 ^ 64 - 1) ->
      (∀ call ∈ second, call.1.toNat < 2 ^ 64 - 1) ->
      (∀ result ∈ (run (withCaps maxChunks maxBytes) first).2, result.toBool = true) ->
      (∀ result ∈ (run (withCaps maxChunks maxBytes) second).2, result.toBool = true) ->
      (forall number, firstArrival first number = firstArrival second number) ->
      (run (withCaps maxChunks maxBytes) first).2.flatMap released =
        (run (withCaps maxChunks maxBytes) second).2.flatMap released ∧
      (run (withCaps maxChunks maxBytes) first).1 =
        (run (withCaps maxChunks maxBytes) second).1) := by
  constructor
  · intro calls small r results ran
    have delivered := (delivered_run maxChunks maxBytes small).delivered
    rw [ran] at delivered
    exact delivered
  · intro first second firstSmall secondSmall firstAll secondAll same
    have left := delivered_run maxChunks maxBytes firstSmall
    have right := delivered_run maxChunks maxBytes secondSmall
    rw [firstAccepted_eq_firstArrival (length_run _ _) firstAll] at left
    rw [firstAccepted_eq_firstArrival (length_run _ _) secondAll, <- funext same] at right
    have firstCaps := sameCaps_run (delivered_withCaps maxChunks maxBytes) firstSmall
    have secondCaps := sameCaps_run (delivered_withCaps maxChunks maxBytes) secondSmall
    exact left.unique right
      ⟨firstCaps.1.trans secondCaps.1.symm, firstCaps.2.trans secondCaps.2.symm⟩

/-- Two chunks in either order, one of them twice. -/
theorem reassembly_delivers_reordered :
    (run (withCaps 2 10) [(1, [7]), (1, [7]), (0, [6])]).1 =
      (run (withCaps 2 10) [(0, [6]), (1, [7])]).1 := by
  refine ((reassembly_delivers 2 10).2 _ _ (by decide) (by decide) (by decide +kernel)
    (by decide +kernel) ?_).2
  intro number
  by_cases zero : number = 0
  · subst zero
    rfl
  · by_cases one : number = 1
    · subst one
      rfl
    · unfold firstArrival
      rw [List.find?_eq_none.mpr, List.find?_eq_none.mpr]
      all_goals
        simp
        omega

/-- Of two payloads with one number the first to arrive is kept. -/
theorem reassembly_order_independence_fails :
    ¬ forall (maxChunks maxBytes : UInt64) (first second : List (UInt64 × Payload)),
      first.Perm second ->
      (∀ call ∈ first, call.1.toNat < 2 ^ 64 - 1) ->
      (∀ result ∈ (run (withCaps maxChunks maxBytes) first).2, result.toBool = true) ->
      (∀ result ∈ (run (withCaps maxChunks maxBytes) second).2, result.toBool = true) ->
      (run (withCaps maxChunks maxBytes) first).2.flatMap released =
        (run (withCaps maxChunks maxBytes) second).2.flatMap released ∧
      (run (withCaps maxChunks maxBytes) first).1 =
        (run (withCaps maxChunks maxBytes) second).1 := by
  intro independent
  have same := (independent 2 10 [(0, [6]), (0, [7])] [(0, [7]), (0, [6])]
    (List.Perm.swap _ _ []) (by decide) (by decide +kernel) (by decide +kernel)).1
  revert same
  decide +kernel

end StreamReassembler
end Service
end DigGossip
