import DigGossip.Foundations.LruHistory
import DigGossip.Foundations.Stepping
import DigGossip.Service.Broadcast

namespace DigGossip
namespace Service

open Foundations DigGossip.Types
open Lru (Mention Stays mention mentionAll)

/-!
# The messages kept for grafts

A message is put into a cache of bounded size under its hash, and is handed out
for a while after.  One that is asked for too late is taken out.  The time of a
call is what the system clock shows, which may also go backwards.
-/

def plumtreeMessageCacheSize : Nat := 1000
def plumtreeMessageCacheTtlSecs : Nat := 60

structure MessageCache where
  cache : Lru Key CacheEntry
  ttlSecs : Nat

namespace MessageCache

def withConfig (capacity ttlSecs : Nat) : MessageCache where
  cache := .new capacity
  ttlSecs := ttlSecs

def new : MessageCache :=
  withConfig plumtreeMessageCacheSize plumtreeMessageCacheTtlSecs

def insert (s : MessageCache) (hash : Key) (msgType : UInt8) (data : List UInt8) (now : Nat) :
    MessageCache :=
  { s with cache := s.cache.put hash { data := data, msgType := msgType, insertedAt := now } }

/-- An entry has expired, or there is none. -/
def expired (s : MessageCache) (hash : Key) (now : Nat) : Bool :=
  ((s.cache.peek hash).map fun entry => decide (s.ttlSecs < now - entry.insertedAt)).getD true

def get (s : MessageCache) (hash : Key) (now : Nat) : MessageCache × Option CacheEntry :=
  if s.expired hash now then ({ s with cache := s.cache.pop hash }, none)
  else
    let (cache, found) := s.cache.get hash
    ({ s with cache := cache }, found)

end MessageCache

/-! ## Calls -/

inductive CacheCall where
  | insert (hash : Key) (msgType : UInt8) (data : List UInt8) (now : Nat)
  | get (hash : Key) (now : Nat)

/-- What a call inserts for this hash. -/
def CacheCall.inserted (hash : Key) : CacheCall -> Option CacheEntry
  | insert other msgType data now =>
      if other = hash then some { data := data, msgType := msgType, insertedAt := now } else none
  | get _ _ => none

/-- What was inserted last for this hash. -/
def lastInserted (hash : Key) (calls : List CacheCall) : Option CacheEntry :=
  calls.reverse.findSome? (CacheCall.inserted hash)

namespace MessageCache

def step (s : MessageCache) : CacheCall -> MessageCache
  | .insert hash msgType data now => s.insert hash msgType data now
  | .get hash now => (s.get hash now).1

def after (s : MessageCache) (calls : List CacheCall) : MessageCache :=
  Stepping.run step calls s

/-- A hash is touched by being inserted or found, and dropped by being asked for in
vain. -/
def mentions (s : MessageCache) : CacheCall -> Mention Key
  | .insert hash _ _ _ => .touched hash
  | .get hash now => if (s.get hash now).2.isSome then .touched hash else .dropped hash

/-- The hashes that the calls of a run touch and drop, in order. -/
def mentionsOf (s : MessageCache) (calls : List CacheCall) : List (Mention Key) :=
  (Stepping.history step calls s).map fun made => made.1.mentions made.2

/-! ## One call -/

section OneCall

variable (s : MessageCache) (hash : Key) (now : Nat)

/-- A message is handed out just if it is there and its time is not over. -/
theorem get_eq_some_iff {entry : CacheEntry} :
    (s.get hash now).2 = some entry ↔
      s.cache.peek hash = some entry ∧ now - entry.insertedAt ≤ s.ttlSecs := by
  unfold get expired Lru.get
  cases held : s.cache.peek hash with
  | none =>
      constructor
      · intro found
        cases found
      · rintro ⟨impossible, _⟩
        cases impossible
  | some present =>
      rw [Option.map_some, Option.getD_some]
      by_cases late : s.ttlSecs < now - present.insertedAt
      · rw [if_pos (decide_eq_true late)]
        constructor
        · intro found
          cases found
        · rintro ⟨same, fresh⟩
          cases same
          exact absurd late (Nat.not_lt_of_ge fresh)
      · rw [if_neg (fun ended => late (of_decide_eq_true ended))]
        constructor
        · intro found
          cases found
          exact ⟨rfl, Nat.le_of_not_lt late⟩
        · exact fun both => both.1

/-- A message that is found moves to the front, and a hash that is asked for in vain
is taken out. -/
theorem get_cases :
    (∃ entry, s.cache.peek hash = some entry ∧ s.get hash now =
        ({ s with cache := s.cache.put hash entry }, some entry)) ∨
      s.get hash now = ({ s with cache := s.cache.pop hash }, none) := by
  unfold get Lru.get
  by_cases late : s.expired hash now = true
  · rw [if_pos late]
    exact Or.inr rfl
  · rw [if_neg late]
    unfold expired at late
    cases held : s.cache.peek hash with
    | none =>
        rw [held] at late
        exact absurd rfl late
    | some entry => exact Or.inl ⟨entry, rfl, rfl⟩

/-- The hashes move as the call mentions them. -/
theorem keys_step (call : CacheCall) :
    (s.step call).cache.keys = mention s.cache.capacity s.cache.keys (s.mentions call) := by
  cases call with
  | insert hash msgType data now => exact Lru.keys_put s.cache hash _
  | get hash now =>
      rw [step, mentions]
      rcases s.get_cases hash now with ⟨entry, _, found⟩ | missed
      · rw [found]
        exact Lru.keys_put s.cache hash entry
      · rw [missed]
        exact Lru.keys_pop s.cache hash

theorem capacity_step (call : CacheCall) : (s.step call).cache.capacity = s.cache.capacity := by
  cases call with
  | insert hash msgType data now => rfl
  | get hash now =>
      rw [step]
      rcases s.get_cases hash now with ⟨entry, _, found⟩ | missed
      · rw [found]
        rfl
      · rw [missed]
        rfl

theorem ttlSecs_step (call : CacheCall) : (s.step call).ttlSecs = s.ttlSecs := by
  cases call with
  | insert hash msgType data now => rfl
  | get hash now =>
      rw [step]
      rcases s.get_cases hash now with ⟨entry, _, found⟩ | missed
      · rw [found]
      · rw [missed]

/-- What is held after a call was inserted by it, or was held before. -/
theorem of_peek_step {call : CacheCall} {hash : Key} {entry : CacheEntry}
    (found : (s.step call).cache.peek hash = some entry) :
    call.inserted hash = some entry ∨
      call.inserted hash = none ∧ s.cache.peek hash = some entry := by
  cases call with
  | insert other msgType data now =>
      unfold CacheCall.inserted
      rcases Lru.of_peek_put found with ⟨rfl, rfl⟩ | ⟨different, held⟩
      · exact Or.inl (if_pos rfl)
      · exact Or.inr ⟨if_neg fun same => different same.symm, held⟩
  | get other now =>
      refine Or.inr ⟨rfl, ?_⟩
      rw [step] at found
      rcases s.get_cases other now with ⟨present, held, hit⟩ | missed
      · rw [hit] at found
        rcases Lru.of_peek_put found with ⟨rfl, rfl⟩ | ⟨_, before⟩
        · exact held
        · exact before
      · rw [missed] at found
        exact Lru.of_peek_pop found

end OneCall

/-! ## Every run -/

section EveryRun

variable (capacity ttlSecs : Nat) (calls : List CacheCall)

theorem after_concat (s : MessageCache) (call : CacheCall) :
    s.after (calls ++ [call]) = (s.after calls).step call :=
  Stepping.run_concat calls call s

theorem mentionsOf_concat (s : MessageCache) (call : CacheCall) :
    s.mentionsOf (calls ++ [call]) = s.mentionsOf calls ++ [(s.after calls).mentions call] := by
  unfold mentionsOf
  rw [Stepping.history_concat, List.map_append]
  rfl

theorem config_after (s : MessageCache) :
    (s.after calls).cache.capacity = s.cache.capacity ∧ (s.after calls).ttlSecs = s.ttlSecs := by
  induction calls using List.reverseRecOn with
  | nil => exact ⟨rfl, rfl⟩
  | append_singleton calls call inner =>
      rw [after_concat]
      exact ⟨(capacity_step _ call).trans inner.1, (ttlSecs_step _ call).trans inner.2⟩

theorem keys_after (s : MessageCache) :
    (s.after calls).cache.keys =
      mentionAll s.cache.capacity s.cache.keys (s.mentionsOf calls) := by
  induction calls using List.reverseRecOn with
  | nil => rfl
  | append_singleton calls call inner =>
      rw [after_concat, keys_step, mentionsOf_concat, Lru.mentionAll_concat, inner,
        (config_after calls s).1]

/-- Whatever is held is what was inserted last. -/
theorem lastInserted_of_peek {hash : Key} {entry : CacheEntry}
    (found : ((withConfig capacity ttlSecs).after calls).cache.peek hash = some entry) :
    lastInserted hash calls = some entry := by
  induction calls using List.reverseRecOn with
  | nil => cases found
  | append_singleton calls call inner =>
      rw [after_concat] at found
      rw [lastInserted, List.reverse_append, List.reverse_singleton, List.singleton_append,
        List.findSome?_cons]
      rcases of_peek_step _ found with inserted | ⟨silent, held⟩
      · rw [inserted]
      · rw [silent]
        exact inner held

/-- After any calls, a graft for this hash is answered with a message exactly if it is
the one inserted last for the hash, its time is not over, and the hash has stayed: since
it was last inserted or handed out it was never asked for in vain, and never have as
many other hashes been live as the cache holds. -/
theorem graft_answered_iff (hash : Key) (now : Nat) (entry : CacheEntry) :
    (((withConfig capacity ttlSecs).after calls).get hash now).2 = some entry ↔
      lastInserted hash calls = some entry ∧ now - entry.insertedAt ≤ ttlSecs ∧
        Stays (max capacity 1) hash ((withConfig capacity ttlSecs).mentionsOf calls) := by
  have kept := config_after calls (withConfig capacity ttlSecs)
  have positive : 0 < max capacity 1 := Nat.lt_of_lt_of_le Nat.one_pos (Nat.le_max_right _ _)
  have held : hash ∈ ((withConfig capacity ttlSecs).after calls).cache.keys ↔
      Stays (max capacity 1) hash ((withConfig capacity ttlSecs).mentionsOf calls) := by
    rw [keys_after]
    exact Lru.mem_mentionAll_nil_iff positive
  rw [get_eq_some_iff, <- held, kept.2]
  constructor
  · rintro ⟨found, fresh⟩
    refine ⟨lastInserted_of_peek capacity ttlSecs calls found, fresh, ?_⟩
    exact Lru.peek_isSome_iff.mp (Option.isSome_iff_exists.mpr ⟨entry, found⟩)
  · rintro ⟨inserted, fresh, member⟩
    rcases Option.isSome_iff_exists.mp (Lru.peek_isSome_iff.mpr member) with ⟨present, found⟩
    have same := (lastInserted_of_peek capacity ttlSecs calls found).symm.trans inserted
    exact ⟨found.trans same, fresh⟩

end EveryRun

end MessageCache

end Service
end DigGossip
