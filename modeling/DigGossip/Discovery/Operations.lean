import DigGossip.Discovery.AddressManagerStore
import DigGossip.Discovery.Promotion

namespace DigGossip
namespace Discovery

open Foundations DigGossip.Types

/-!
# Runs of the address manager

The public operations, their effect on the invariant, and runs of them.  Two
defects of the code are kept apart as tests on the state before a step: an
eviction that loses a row's place in the order, and a snapshot taken while a
pending tried collision names a row that is gone.
-/

/-! ## Peer selection -/

/-- What `select_peer_` draws: the coin between the tables, the position each
turn of the loop looks at, and whether the row found there passes the weighted
threshold.  In the sparse case positions are drawn from the used ones and in
the dense case by a random walk; here any sequence of positions is allowed. -/
structure SelectInputs where
  coin : Bool
  triedPosition : Nat -> TriedSlot
  newPosition : Nat -> NewSlot
  accept : Nat -> Bool

namespace Inner

/-- The sampling loop of `select_peer_`, over the cells it looks at. -/
def selectLoop (s : Inner) (cells : Nat -> Cell) (accept : Nat -> Bool) :
    (fuel turn : Nat) -> Option ExtendedPeerInfo
  | 0, _ => none
  | fuel + 1, turn =>
      if cells turn = emptyCell then s.selectLoop cells accept fuel (turn + 1)
      else
        match s.mapInfo.lookup (nodeOf (cells turn)) with
        | none => none
        | some info =>
            if accept turn then some info else s.selectLoop cells accept fuel (turn + 1)

/-- `select_peer_`: reads the state only. -/
def selectPeer (s : Inner) (newOnly : Bool) (inputs : SelectInputs) : Option ExtendedPeerInfo :=
  if s.randomPos = [] then none
  else if newOnly ∧ s.newCount = 0 then none
  else if newOnly = false ∧ 0 < s.triedCount ∧ (s.newCount = 0 ∨ inputs.coin) then
    if s.usedTriedMatrixPositions = ∅ then none
    else s.selectLoop (fun turn => s.triedMatrix (inputs.triedPosition turn)) inputs.accept 50000 0
  else if s.usedNewMatrixPositions = ∅ then none
  else s.selectLoop (fun turn => s.newMatrix (inputs.newPosition turn)) inputs.accept 50000 0

end Inner

/-! ## The operations -/

inductive Operation where
  | addToNewTable (peerList : List (TimestampedPeerInfo × Inner.AddInputs)) (src : PeerInfo)
      (penalty : Nat)
  | markGood (addr : PeerInfo) (testBeforeEvict : Bool) (timestamp : Nat)
      (bucketRand : Fin newBucketCount)
  | attempt (addr : PeerInfo) (countFailures : Bool) (timestamp : Nat)
  | connect (addr : PeerInfo) (timestamp : Nat)
  | selectPeer (newOnly : Bool) (inputs : SelectInputs)
  | selectTriedCollision (draw : Nat)
  | resolveTriedCollisions (now : Nat) (draws : Nat -> Fin newBucketCount)
  | setAllowPrivateSubnets (allow : Bool)
  | save

variable (sha256 : Digest)

/-- The state after an operation, or a panic.  Saving panics when the snapshot
does; writing the file is left out. -/
def step (s : Inner) : Operation -> Option Inner
  | .addToNewTable peerList src penalty => s.addToNewTable sha256 peerList src penalty
  | .markGood addr testBeforeEvict timestamp bucketRand =>
      s.markGood sha256 addr testBeforeEvict timestamp bucketRand
  | .attempt addr countFailures timestamp => some (s.attempt addr countFailures timestamp)
  | .connect addr timestamp => some (s.connect addr timestamp)
  | .selectPeer _ _ => some s
  | .selectTriedCollision draw => some (s.selectTriedCollision sha256 draw).1
  | .resolveTriedCollisions now draws => s.resolveTriedCollisions sha256 now draws
  | .setAllowPrivateSubnets allow => some (s.setAllowPrivateSubnets allow)
  | .save => s.toAddressManagerState.map fun _ => s

def run (ops : List Operation) (s : Inner) : Option Inner :=
  ops.foldlM (step sha256) s

/-- A test on every operation of a run and the state it starts from. -/
def along (test : Inner -> Operation -> Bool) : List Operation -> Inner -> Bool
  | [], _ => true
  | op :: ops, s =>
      test s op &&
        match step sha256 s op with
        | none => true
        | some t => along test ops t

/-! ## Evictions that keep the order -/

/-- A promotion chosen by `mark_good_` meets no stale eviction. -/
def markGoodSafe (s : Inner) (addr : PeerInfo) (testBeforeEvict : Bool) (timestamp : Nat)
    (bucketRand : Fin newBucketCount) : Bool :=
  match s.markGoodTarget sha256 addr testBeforeEvict timestamp bucketRand with
  | (_, none) => true
  | (t, some nodeId) => !staleEviction sha256 t nodeId

/-- Every promotion made while collisions are resolved meets no stale eviction. -/
def pendingSafe (s : Inner) (now : Nat) (draws : Nat -> Fin newBucketCount) : List NodeId -> Bool
  | [] => true
  | nodeId :: pending =>
      (match s.collisionVerdict sha256 now nodeId with
        | .promote peer => markGoodSafe sha256 s peer false now (draws 0)
        | _ => true) &&
      match s.resolveOne sha256 now (draws 0) nodeId with
      | none => true
      | some t => pendingSafe t now (fun index => draws (index + 1)) pending

/-- No eviction of the operation loses a row's place in the order. -/
def evictionSafe (s : Inner) : Operation -> Bool
  | .markGood addr testBeforeEvict timestamp bucketRand =>
      markGoodSafe sha256 s addr testBeforeEvict timestamp bucketRand
  | .resolveTriedCollisions now draws => pendingSafe sha256 s now draws s.triedCollisions
  | _ => true

/-! ## Room in the allocator -/

/-- Every row created for the listed addresses gets an id of its own. -/
def additionsRoom (s : Inner) (src : PeerInfo) (penalty : Nat) :
    List (TimestampedPeerInfo × Inner.AddInputs) -> Bool
  | [] => true
  | peer :: peerList =>
      (!createsRow s peer.1 || decide (s.idCount.toNat + 1 < u32Max)) &&
        match s.addOne sha256 peer.1 src penalty peer.2 with
        | none => true
        | some t => additionsRoom t src penalty peerList

def roomFor (s : Inner) : Operation -> Bool
  | .addToNewTable peerList src penalty => additionsRoom sha256 s src penalty peerList
  | _ => true

/-! ## Snapshots while collisions are pending -/

/-- Every pending tried collision names a row. -/
def collisionsKnown (s : Inner) : Bool :=
  s.triedCollisions.all fun nodeId => (s.mapInfo.lookup nodeId).isSome

/-- A snapshot is taken only while the pending collisions are known. -/
def snapshotSafe (s : Inner) : Operation -> Bool
  | .save => collisionsKnown s
  | _ => true

end Discovery
end DigGossip
