import DigGossip.Discovery.Runs

namespace DigGossip
namespace Discovery

open Foundations DigGossip.Types

/-!
# The representation invariant of the address manager

What readers of the address manager rely on, spelled out structure by
structure.  Every run whose evictions keep the order maintains it.  A run with
a stale eviction does not: the eviction branch of `make_tried` keeps a copy of
the evicted row while another row is deleted, and writes it back with the
place it had before.
-/

structure Represents (sha256 : Digest) (s : Inner) : Prop where
  hostIndex : forall host nodeId, s.mapAddr.lookup host = some nodeId ↔
    exists row, s.mapInfo.lookup nodeId = some row ∧ row.peerInfo.host = host
  order_nodup : s.randomPos.Nodup
  order_mem : forall nodeId, nodeId ∈ s.randomPos ↔ nodeId ∈ s.mapInfo
  backPointer : forall nodeId row, s.mapInfo.lookup nodeId = some row ->
    exists place, row.randomPos = some place ∧ s.randomPos[place]? = some nodeId
  newCount : s.newCount = FiniteMap.countWhere s.mapInfo fun _ row => !row.isTried
  triedCount : s.triedCount = FiniteMap.countWhere s.mapInfo fun _ row => row.isTried
  newRow : forall nodeId row, s.mapInfo.lookup nodeId = some row -> row.isTried = false ->
    row.refCount = occurrences s.newMatrix (cellOf nodeId) ∧ 1 ≤ row.refCount ∧
      row.refCount ≤ newBucketsPerAddress
  triedRow : forall nodeId row, s.mapInfo.lookup nodeId = some row -> row.isTried = true ->
    row.refCount = 0 ∧
      forall slot, s.triedMatrix slot = cellOf nodeId ↔ slot = row.triedSlot sha256 s.key
  newCell : forall slot, s.newMatrix slot ≠ emptyCell -> exists row,
    s.mapInfo.lookup (nodeOf (s.newMatrix slot)) = some row ∧ row.isTried = false ∧
      slot.2 = row.bucketPosition sha256 s.key true slot.1
  triedCell : forall slot, s.triedMatrix slot ≠ emptyCell -> exists row,
    s.mapInfo.lookup (nodeOf (s.triedMatrix slot)) = some row ∧ row.isTried = true
  usedNew : forall slot, slot ∈ s.usedNewMatrixPositions ↔ s.newMatrix slot ≠ emptyCell
  usedTried : forall slot, slot ∈ s.usedTriedMatrixPositions ↔ s.triedMatrix slot ≠ emptyCell

variable {sha256 : Digest} {s : Inner}

/-- The working invariant says no less. -/
theorem Inv.represents (inv : Inv sha256 s) : Represents sha256 s where
  hostIndex := by
    intro host nodeId
    rw [inv.core.names, Option.map_eq_some_iff]
  order_nodup := inv.core.ordered.linked.nodup
  order_mem := by
    intro nodeId
    rw [inv.core.ordered.linked.mem_iff, FiniteMap.mem_iff_isSome]
    cases found : s.mapInfo.lookup nodeId with
    | none => simp
    | some row =>
        rcases inv.core.ordered.index found with ⟨place, points, _⟩
        simp [points]
  backPointer := fun _ _ found => inv.core.ordered.index found
  newCount := inv.core.newCount
  triedCount := inv.core.triedCount
  newRow := by
    intro nodeId row found isNew
    exact ⟨inv.core.newTable.refs nodeId row found,
      (inv.rooted nodeId row found isNew).resolve_right id,
      inv.core.newTable.limit nodeId row found⟩
  triedRow := by
    intro nodeId row found tried
    refine ⟨inv.core.tried_refCount found tried, fun slot => ?_⟩
    constructor
    · intro holds
      rcases inv.core.triedTable.occupant holds (inv.core.proper found) with
        ⟨other, present, _, seat⟩
      rw [found] at present
      cases present
      exact seat.symm
    · intro seat
      rw [seat]
      exact inv.core.triedTable.seated nodeId row found tried
  newCell := inv.core.newTable.cell
  triedCell := by
    intro slot full
    rcases inv.core.triedTable.cell slot full with ⟨row, found, tried, _⟩
    exact ⟨row, found, tried⟩
  usedNew := inv.core.newTable.used
  usedTried := inv.core.triedTable.used

/-- Every state of a run that creates fewer than 2^31 - 1 rows, and whose
evictions lose no row's place, is well represented.  Rows are counted by the
allocator, which hands out one id to each. -/
theorem represents_of_run (sha256 : Digest) (key : Key) (ops : List Operation) (s : Inner)
    (reached : run sha256 ops (Inner.new key) = some s) (few : s.idCount.toNat < 2 ^ 31 - 1)
    (safe : along sha256 (evictionSafe sha256) ops (Inner.new key) = true) :
    Represents sha256 s := by
  have room : s.idCount.toNat < u32Max := Nat.lt_of_lt_of_le few (by decide)
  exact (run_inv ops (inv_new sha256 key) reached room safe).represents

/-! ## A run that loses a place -/

namespace Example

/-- A digest that repeats the first byte after the key. -/
def firstByteDigest : Digest := fun data => Vector.replicate 32 (data.getD 32 0)

def zeroKey : Key := Vector.replicate 32 0

def source (host : String) : PeerInfo := { host := host, port := 1 }

def offer (host : String) (timestamp : Nat) (src : String) : Operation :=
  .addToNewTable
    [({ host := host, port := 1, timestamp := timestamp },
      { now := 1000, draw := 0, nowAgain := 1000 })]
    (source src) 0

/-- One address is learned twice and promoted. -/
def promotingRun : List Operation :=
  [offer "a" 0 "1.0.0.1", offer "a" 1 "2.0.0.1", .markGood (source "a") true 1 0]

/-- The promotion of `i` evicts `e`, the last of the order, whose cell holds
the last reference to `x`. -/
def evictingRun : List Operation :=
  [ offer "x" 0 "1.0.0.1"
  , offer "i" 0 "3.0.0.1"
  , offer "e" 0 "2.0.0.1"
  , .markGood (source "e") false 1 0
  , offer "x" 1 "2.0.0.1"
  , offer "i" 1 "1.0.0.1"
  , .markGood (source "i") false 1 0 ]

/-- The row of `b` waits as a tried collision when `c` takes its only cell. -/
def collidingRun : List Operation :=
  [ offer "a" 0 "1.0.0.1"
  , .markGood (source "a") true 1 0
  , offer "b" 0 "1.0.0.1"
  , .markGood (source "b") true 1 0
  , offer "c" 0 "1.0.0.1" ]

end Example

open Example

theorem represents_of_run_promoting :
    exists s, run firstByteDigest promotingRun (Inner.new zeroKey) = some s ∧
      Represents firstByteDigest s := by
  have checked : (run firstByteDigest promotingRun (Inner.new zeroKey)).any
      (fun s => decide (s.idCount.toNat < 2 ^ 31 - 1)) = true := by
    decide +kernel
  rcases (Option.any_eq_true _ _).mp checked with ⟨s, reached, few⟩
  exact ⟨s, reached, represents_of_run firstByteDigest zeroKey promotingRun s reached
    (of_decide_eq_true few) (by decide +kernel)⟩

/-- Without the condition on evictions the invariant fails: after the run the
evicted row points past the end of the order. -/
theorem represents_of_run_fails :
    ¬ forall (sha256 : Digest) (key : Key) (ops : List Operation) (s : Inner),
      run sha256 ops (Inner.new key) = some s -> s.idCount.toNat < 2 ^ 31 - 1 ->
        Represents sha256 s := by
  intro claim
  have checked : (run firstByteDigest evictingRun (Inner.new zeroKey)).any
      (fun s => decide (s.idCount.toNat < 2 ^ 31 - 1 ∧ s.randomPos = [3, 2] ∧
        (s.mapInfo.lookup 3).map (fun row => row.randomPos) = some (some 2))) = true := by
    decide +kernel
  rcases (Option.any_eq_true _ _).mp checked with ⟨s, reached, facts⟩
  rcases of_decide_eq_true facts with ⟨few, order, pointer⟩
  have sound := claim firstByteDigest zeroKey evictingRun s reached few
  rcases Option.map_eq_some_iff.mp pointer with ⟨row, found, points⟩
  rcases sound.backPointer 3 row found with ⟨place, placed, here⟩
  rw [points] at placed
  rw [order, ← Option.some.inj placed] at here
  cases here

end Discovery
end DigGossip
