import DigGossip.Discovery.AddressManager
import DigGossip.Types.Error
import DigGossip.Foundations.Indexing
import Mathlib.Data.Finset.Sort
import Mathlib.Data.Fintype.Prod

namespace DigGossip
namespace Discovery

open Foundations DigGossip.Types

/-!
# Snapshots of the address manager

The frozen form of the tables, the layout check made before a snapshot is
consumed, and the conversions in both directions.  In a snapshot a row is its
index in `entries`, wherever the running manager would hold its id.
-/

def addressManagerStateVersion : Nat := 1

structure AddressManagerState where
  version : Nat
  key : Key
  nodeIds : List NodeId
  entries : List ExtendedPeerInfo
  triedTable : List (List (Option Nat))
  newTable : List (List (Option Nat))
  randomPos : List Nat
  lastGood : Nat
  triedCollisionIndices : List Nat
  allowPrivateSubnets : Bool
  idCount : NodeId
  triedCount : Nat
  newCount : Nat

/-- Fail with the message unless the check passes. -/
def ensure (check : Bool) (message : String) : Except GossipError Unit :=
  if check then .ok () else .error (.addressManagerStore message)

def validateVersion (version : Nat) : Except GossipError Unit :=
  if version = addressManagerStateVersion then .ok ()
  else if addressManagerStateVersion < version then
    .error (.addressManagerStore ("unsupported snapshot version " ++ toString version ++
      " (this build supports " ++ toString addressManagerStateVersion ++ ")"))
  else .error (.addressManagerStore ("invalid snapshot version " ++ toString version))

def validateEmpty (state : AddressManagerState) : Except GossipError Unit :=
  if state.entries = [] then do
    ensure (decide (state.nodeIds = [] ∧ state.randomPos = []))
      "empty entries require empty node_ids and random_pos"
    ensure (decide (state.idCount = 0 ∧ state.triedCount = 0 ∧ state.newCount = 0))
      "empty snapshot requires zero id/tried/new counts"
  else .ok ()

def validateCell (name : String) (entries : Nat) : Option Nat -> Except GossipError Unit
  | some ix => ensure (decide (ix < entries)) (name ++ "_table index out of range")
  | none => .ok ()

def validateRow (name : String) (entries : Nat) (row : List (Option Nat)) :
    Except GossipError Unit := do
  ensure (decide (row.length = bucketSize))
    (name ++ " row width: expected " ++ toString bucketSize ++ ", got " ++ toString row.length)
  row.forM (validateCell name entries)

/-- The checks on one bucket table: its shape and the range of its indices. -/
def validateTable (name : String) (buckets entries : Nat) (table : List (List (Option Nat))) :
    Except GossipError Unit := do
  ensure (decide (table.length = buckets))
    (name ++ "_table: expected " ++ toString buckets ++ " buckets, got " ++ toString table.length)
  table.forM (validateRow name entries)

/-- `validate_snapshot`. -/
def validateSnapshot (state : AddressManagerState) : Except GossipError Unit := do
  let n := state.entries.length
  validateVersion state.version
  ensure (decide (state.nodeIds.length = n)) "node_ids length must match entries"
  validateEmpty state
  validateTable "tried" triedBucketCount n state.triedTable
  validateTable "new" newBucketCount n state.newTable
  state.randomPos.forM fun ix => ensure (decide (ix < n)) "random_pos index out of range"
  state.triedCollisionIndices.forM fun ix =>
    ensure (decide (ix < n)) "tried_collision_indices out of range"

namespace Inner

/-- The ids of the rows in increasing order. -/
def sortedIds (s : Inner) : List NodeId :=
  s.mapInfo.keys.sort (· ≤ ·)

/-- `expect("snapshot node id")`: the index of an id, which must have a row. -/
def snapshotIndex (s : Inner) (nodeId : NodeId) : Option Nat :=
  s.sortedIds.idxOf? nodeId

/-- One bucket table with indices in place of ids. -/
def snapshotTable {buckets : Nat} (s : Inner) (matrix : Fin buckets × Fin bucketSize -> Cell) :
    Option (List (List (Option Nat))) :=
  (List.finRange buckets).mapM fun bucket =>
    (List.finRange bucketSize).mapM fun place =>
      if matrix (bucket, place) = emptyCell then some none
      else (s.snapshotIndex (nodeOf (matrix (bucket, place)))).map some

/-- `to_address_manager_state`. -/
def toAddressManagerState (s : Inner) : Option AddressManagerState := do
  let triedTable <- s.snapshotTable s.triedMatrix
  let newTable <- s.snapshotTable s.newMatrix
  let randomPos <- s.randomPos.mapM s.snapshotIndex
  let triedCollisionIndices <- s.triedCollisions.mapM s.snapshotIndex
  some {
    version := addressManagerStateVersion
    key := s.key
    nodeIds := s.sortedIds
    entries := s.sortedIds.filterMap s.mapInfo.lookup
    triedTable := triedTable
    newTable := newTable
    randomPos := randomPos
    lastGood := s.lastGood
    triedCollisionIndices := triedCollisionIndices
    allowPrivateSubnets := s.allowPrivateSubnets
    idCount := s.idCount
    triedCount := s.triedCount
    newCount := s.newCount }

end Inner

namespace AddressManagerState

/-- The index in one cell of a snapshot table. -/
def cellIndex (table : List (List (Option Nat))) (bucket place : Nat) : Option Nat :=
  (table[bucket]?.bind fun row => row[place]?).join

/-- `state.node_ids[ix] as i32`; the layout check keeps every index in range. -/
def cellOfIndex (state : AddressManagerState) (ix : Option Nat) : Cell :=
  match ix.bind fun ix => state.nodeIds[ix]? with
  | some nodeId => cellOf nodeId
  | none => emptyCell

def triedMatrix (state : AddressManagerState) (slot : TriedSlot) : Cell :=
  state.cellOfIndex (cellIndex state.triedTable slot.1 slot.2)

def newMatrix (state : AddressManagerState) (slot : NewSlot) : Cell :=
  state.cellOfIndex (cellIndex state.newTable slot.1 slot.2)

/-- The ids behind a list of indices. -/
def idsAt (state : AddressManagerState) (indices : List Nat) : List NodeId :=
  indices.filterMap fun ix => state.nodeIds[ix]?

/-- The pairs of an id and its row. -/
def rowPairs (state : AddressManagerState) : List (NodeId × ExtendedPeerInfo) :=
  state.nodeIds.zip state.entries

def mapAddr (state : AddressManagerState) : FiniteMap String NodeId :=
  insertAll (fun pair => pair.2.peerInfo.host) (fun pair => pair.1) state.rowPairs ∅

def mapInfo (state : AddressManagerState) : FiniteMap NodeId ExtendedPeerInfo :=
  insertAll (fun pair => pair.1) (fun pair => pair.2) state.rowPairs ∅

/-- The pass that gives every listed row its place in the order. -/
def pointRows (order : List NodeId) (rows : FiniteMap NodeId ExtendedPeerInfo) :
    FiniteMap NodeId ExtendedPeerInfo :=
  pointFrom (fun place row => { row with randomPos := some place }) order 0 rows

/-- The state built from a checked snapshot. -/
def restore (state : AddressManagerState) : Inner :=
  { key := state.key
    idCount := state.idCount
    triedMatrix := state.triedMatrix
    newMatrix := state.newMatrix
    triedCount := state.triedCount
    newCount := state.newCount
    mapAddr := state.mapAddr
    mapInfo := pointRows (state.idsAt state.randomPos) state.mapInfo
    randomPos := state.idsAt state.randomPos
    lastGood := state.lastGood
    triedCollisions := state.idsAt state.triedCollisionIndices
    usedNewMatrixPositions := Finset.univ.filter fun slot => state.newMatrix slot ≠ emptyCell
    usedTriedMatrixPositions := Finset.univ.filter fun slot => state.triedMatrix slot ≠ emptyCell
    allowPrivateSubnets := state.allowPrivateSubnets }

/-- `from_address_manager_state`.  The source leaves early when there is no
entry; the general path then has nothing to insert and gives the same state. -/
def fromAddressManagerState (state : AddressManagerState) : Except GossipError Inner :=
  match validateSnapshot state with
  | .error failure => .error failure
  | .ok () => .ok state.restore

end AddressManagerState

end Discovery
end DigGossip
