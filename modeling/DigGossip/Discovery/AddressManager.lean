import DigGossip.Foundations.FiniteMap
import DigGossip.Types.Peer
import Mathlib.Data.Finset.Card
import Mathlib.Logic.Function.Basic

namespace DigGossip
namespace Discovery

open Foundations DigGossip.Types

/-!
# The address manager

The tried and new bucket tables with their maps, counters and orders.  A
computation is an `Option`: `none` is a panic, whether of an `expect`, of a
slice index, of a debug assertion or of checked integer arithmetic.  Clock
readings and random draws are arguments, so a statement about every argument
is a statement about every clock and every generator.
-/

abbrev NodeId := UInt32
abbrev Cell := Int32
abbrev NewSlot := Fin newBucketCount × Fin bucketSize
abbrev TriedSlot := Fin triedBucketCount × Fin bucketSize

def triedCollisionSize : Nat := 10

/-- `EMPTY`. -/
def emptyCell : Cell := -1

/-- `node_id as i32`. -/
def cellOf (nodeId : NodeId) : Cell := nodeId.toInt32

/-- `cell as NodeId`. -/
def nodeOf (cell : Cell) : NodeId := cell.toUInt32

def checkedAdd (left right : Nat) : Option Nat :=
  if left + right ≤ u32Max then some (left + right) else none

def checkedSub (left right : Nat) : Option Nat :=
  if right ≤ left then some (left - right) else none

/-- `Inner`, without the file path and the log kept for tests. -/
@[ext] structure Inner where
  key : Key
  idCount : NodeId
  triedMatrix : TriedSlot -> Cell
  newMatrix : NewSlot -> Cell
  triedCount : Nat
  newCount : Nat
  mapAddr : FiniteMap String NodeId
  mapInfo : FiniteMap NodeId ExtendedPeerInfo
  randomPos : List NodeId
  lastGood : Nat
  triedCollisions : List NodeId
  usedNewMatrixPositions : Finset NewSlot
  usedTriedMatrixPositions : Finset TriedSlot
  allowPrivateSubnets : Bool

/-- `host_is_private`: host names never are. -/
def hostIsPrivate (host : String) : Bool :=
  match parseIpAddr host with
  | some (.v4 bits) => Ipv4Addr.isPrivate bits
  | some (.v6 bits) => Ipv6Addr.isUniqueLocal bits
  | none => false

def peerRowFromTs (addr : TimestampedPeerInfo) (src : PeerInfo) : ExtendedPeerInfo where
  peerInfo := { host := addr.host, port := addr.port }
  timestamp := addr.timestamp
  src := src
  randomPos := none
  isTried := false
  refCount := 0
  lastSuccess := 0
  lastTry := 0
  numAttempts := 0
  lastCountAttempt := 0

namespace Inner

/-- `Inner::new`. -/
def new (key : Key) : Inner where
  key := key
  idCount := 0
  triedMatrix := fun _ => emptyCell
  newMatrix := fun _ => emptyCell
  triedCount := 0
  newCount := 0
  mapAddr := ∅
  mapInfo := ∅
  randomPos := []
  lastGood := 1
  triedCollisions := []
  usedNewMatrixPositions := ∅
  usedTriedMatrixPositions := ∅
  allowPrivateSubnets := false

def find (s : Inner) (addr : PeerInfo) : Option NodeId × Option ExtendedPeerInfo :=
  match s.mapAddr.lookup addr.host with
  | none => (none, none)
  | some nodeId => (some nodeId, s.mapInfo.lookup nodeId)

/-- `map_info.insert`, and what a write through `get_mut` comes to. -/
def setRow (s : Inner) (nodeId : NodeId) (row : ExtendedPeerInfo) : Inner :=
  { s with mapInfo := s.mapInfo.insert nodeId row }

def swapRandom (s : Inner) (r1 r2 : Nat) : Option Inner :=
  if r1 = r2 then some s
  else
    match s.randomPos[r1]?, s.randomPos[r2]? with
    | some id1, some id2 =>
        let pointed := FiniteMap.adjust s.mapInfo id1 fun row => { row with randomPos := some r2 }
        some { s with
          mapInfo := FiniteMap.adjust pointed id2 fun row => { row with randomPos := some r1 }
          randomPos := (s.randomPos.set r1 id2).set r2 id1 }
    | _, _ => none

def setNewMatrix (s : Inner) (slot : NewSlot) (value : Cell) : Inner :=
  { s with
    newMatrix := Function.update s.newMatrix slot value
    usedNewMatrixPositions :=
      if value = emptyCell then s.usedNewMatrixPositions.erase slot
      else insert slot s.usedNewMatrixPositions }

def setTriedMatrix (s : Inner) (slot : TriedSlot) (value : Cell) : Inner :=
  { s with
    triedMatrix := Function.update s.triedMatrix slot value
    usedTriedMatrixPositions :=
      if value = emptyCell then s.usedTriedMatrixPositions.erase slot
      else insert slot s.usedTriedMatrixPositions }

def deleteNewEntry (s : Inner) (nodeId : NodeId) : Option Inner :=
  match s.mapInfo.lookup nodeId with
  | none => some s
  | some info =>
      match info.randomPos with
      | none => some s
      | some rp => do
          let last <- checkedSub s.randomPos.length 1
          let s <- s.swapRandom rp last
          let s := { s with randomPos := s.randomPos.dropLast }
          let info <- s.mapInfo.lookup nodeId
          let newCount <- checkedSub s.newCount 1
          some { s with
            mapInfo := s.mapInfo.erase nodeId
            mapAddr := s.mapAddr.erase info.peerInfo.host
            newCount := newCount }

def clearNew (s : Inner) (slot : NewSlot) : Option Inner :=
  if s.newMatrix slot = emptyCell then some s
  else
    let deleteId := nodeOf (s.newMatrix slot)
    match s.mapInfo.lookup deleteId with
    | none => some (s.setNewMatrix slot emptyCell)
    | some info =>
        if info.refCount = 0 then none
        else
          let cleared :=
            (s.setRow deleteId { info with refCount := info.refCount - 1 }).setNewMatrix slot
              emptyCell
          if info.refCount - 1 = 0 then cleared.deleteNewEntry deleteId else some cleared

/-- `create_row`, with the id it returns. -/
def createRow (s : Inner) (addr : TimestampedPeerInfo) (src : PeerInfo) : Inner × NodeId :=
  let nodeId := if s.idCount.toNat + 1 ≤ u32Max then s.idCount + 1 else s.idCount
  let row := { peerRowFromTs addr src with randomPos := some s.randomPos.length }
  ({ s with
      idCount := nodeId
      mapAddr := s.mapAddr.insert row.peerInfo.host nodeId
      mapInfo := s.mapInfo.insert nodeId row
      randomPos := s.randomPos ++ [nodeId] }, nodeId)

variable (sha256 : Digest)

/-- One turn of the loop in `make_tried` that takes a row's new-table cells. -/
def releaseBucket (nodeId : NodeId) (s : Inner) (bucket : Fin newBucketCount) : Option Inner :=
  match s.mapInfo.lookup nodeId with
  | none => none
  | some info =>
      let slot := (bucket, info.bucketPosition sha256 s.key true bucket)
      if s.newMatrix slot = cellOf nodeId then
        some ((s.setRow nodeId { info with refCount := info.refCount - 1 }).setNewMatrix slot
          emptyCell)
      else some s

/-- The new-table cell an evicted tried row returns to. -/
def returnSlot (key : Key) (row : ExtendedPeerInfo) : NewSlot :=
  let bucket := row.newBucketIndex sha256 key row.src
  (bucket, row.bucketPosition sha256 key true bucket)

/-- The branch of `make_tried` that sends the occupant of a tried cell back
to one cell of the new table.  The occupant is taken out of `map_info` while
that cell is cleared, and put back as the copy made before. -/
def evictTried (s : Inner) (slot : TriedSlot) : Option Inner :=
  let nodeIdEvict := nodeOf (s.triedMatrix slot)
  match s.mapInfo.lookup nodeIdEvict with
  | none => none
  | some row => do
      let ev := { row with isTried := false }
      let s := { s with mapInfo := s.mapInfo.erase nodeIdEvict }.setTriedMatrix slot emptyCell
      let triedCount <- checkedSub s.triedCount 1
      let s := { s with triedCount := triedCount }
      let newSlot := returnSlot sha256 s.key ev
      let s <- s.clearNew newSlot
      let ev := { ev with refCount := 1 }
      let s := s.setNewMatrix newSlot (cellOf nodeIdEvict)
      let newCount <- checkedAdd s.newCount 1
      some { s with newCount := newCount, mapInfo := s.mapInfo.insert nodeIdEvict ev }

/-- The step of `make_tried` after which the wanted tried cell is empty. -/
def vacateTried (s : Inner) (slot : TriedSlot) : Option Inner :=
  if s.triedMatrix slot = emptyCell then some s else s.evictTried sha256 slot

/-- `make_tried`. -/
def makeTried (s : Inner) (nodeId : NodeId) : Option Inner := do
  let s <- (List.finRange newBucketCount).foldlM (releaseBucket sha256 nodeId) s
  let info <- s.mapInfo.lookup nodeId
  guard (info.refCount = 0)
  let s := { s with newCount := s.newCount - 1 }
  let slot := info.triedSlot sha256 s.key
  let s <- s.vacateTried sha256 slot
  let s := s.setTriedMatrix slot (cellOf nodeId)
  let triedCount <- checkedAdd s.triedCount 1
  some { s with
    triedCount := triedCount
    mapInfo := FiniteMap.adjust s.mapInfo nodeId fun row => { row with isTried := true } }

/-- The scan of `mark_good_` for a new-table cell that holds the row. -/
def findNewBucket (s : Inner) (nodeId : NodeId) (info : ExtendedPeerInfo)
    (bucketRand : Fin newBucketCount) : Option (Fin newBucketCount) :=
  let turned (n : Fin newBucketCount) : Fin newBucketCount :=
    ⟨(n.val + bucketRand.val) % newBucketCount, Nat.mod_lt _ (by decide)⟩
  ((List.finRange newBucketCount).map turned).find? fun bucket =>
    s.newMatrix (bucket, info.bucketPosition sha256 s.key true bucket) == cellOf nodeId

/-- The choice at the end of `mark_good_` for a row just marked: promote it,
queue it as a collision, or neither. -/
def chooseTarget (s : Inner) (nodeId : NodeId) (info : ExtendedPeerInfo) (testBeforeEvict : Bool)
    (bucketRand : Fin newBucketCount) : Inner × Option NodeId :=
  if info.isTried then (s, none)
  else
    match s.findNewBucket sha256 nodeId info bucketRand with
    | none => (s, none)
    | some _ =>
        if testBeforeEvict ∧ s.triedMatrix (info.triedSlot sha256 s.key) ≠ emptyCell then
          if s.triedCollisions.length < triedCollisionSize then
            if nodeId ∈ s.triedCollisions then (s, none)
            else ({ s with triedCollisions := s.triedCollisions ++ [nodeId] }, none)
          else (s, some nodeId)
        else (s, some nodeId)

/-- `mark_good_` up to the promotion: the state so far, and the row to promote. -/
def markGoodTarget (s : Inner) (addr : PeerInfo) (testBeforeEvict : Bool) (timestamp : Nat)
    (bucketRand : Fin newBucketCount) : Inner × Option NodeId :=
  let s := { s with lastGood := timestamp }
  match s.find addr with
  | (some nodeId, some info) =>
      if hostIsPrivate addr.host && !s.allowPrivateSubnets then (s, none)
      else if info.peerInfo ≠ addr then (s, none)
      else
        let info := { info with lastSuccess := timestamp, lastTry := timestamp, numAttempts := 0 }
        (s.setRow nodeId info).chooseTarget sha256 nodeId info testBeforeEvict bucketRand
  | _ => (s, none)

/-- `mark_good_`. -/
def markGood (s : Inner) (addr : PeerInfo) (testBeforeEvict : Bool) (timestamp : Nat)
    (bucketRand : Fin newBucketCount) : Option Inner :=
  match s.markGoodTarget sha256 addr testBeforeEvict timestamp bucketRand with
  | (s, none) => some s
  | (s, some nodeId) => s.makeTried sha256 nodeId

/-- What one addition reads from outside: the clock on entry and before an
occupied cell is judged, and the draw that thins repeated additions. -/
structure AddInputs where
  now : Nat
  draw : Nat
  nowAgain : Nat

/-- The timestamp refresh of `add_to_new_table_` for an address that has a row. -/
def refreshRow (s : Inner) (addr : TimestampedPeerInfo) (penalty now : Nat) (nodeId : NodeId)
    (existing : ExtendedPeerInfo) : Inner :=
  let penalty :=
    if existing.peerInfo = { host := addr.host, port := addr.port } then 0 else penalty
  let currentlyOnline : Bool := now - addr.timestamp < 24 * 60 * 60
  let updateInterval := if currentlyOnline then 60 * 60 else 24 * 60 * 60
  if 0 < addr.timestamp ∧ (0 < existing.timestamp ∨
      existing.timestamp < addr.timestamp - saturatingAdd u64Max updateInterval penalty) then
    s.setRow nodeId { existing with timestamp := addr.timestamp - penalty }
  else s

/-- Whether a known row goes on to compete for another cell. -/
def mayCompete (info : ExtendedPeerInfo) (addr : TimestampedPeerInfo) (draw : Nat) : Bool :=
  if addr.timestamp = 0 ∨ (0 < info.timestamp ∧ addr.timestamp ≤ info.timestamp) then false
  else if info.isTried then false
  else if newBucketsPerAddress ≤ info.refCount then false
  else
    let factor := 2 ^ Nat.min info.refCount 31
    if 1 < factor ∧ draw % factor ≠ 0 then false else true

/-- `add_to_new_table_` for an address without a row. -/
def insertRow (s : Inner) (addr : TimestampedPeerInfo) (source : PeerInfo) (penalty : Nat) :
    Option (Inner × NodeId) := do
  let (s, nodeId) := s.createRow addr source
  let ts := addr.timestamp - penalty
  let s := { s with
    mapInfo := FiniteMap.adjust s.mapInfo nodeId fun row => { row with timestamp := ts } }
  let newCount <- checkedAdd s.newCount 1
  some ({ s with newCount := newCount }, nodeId)

/-- The end of `add_to_new_table_`: the row competes for the cell its source
attributes to it, and a row left without a cell is deleted. -/
def offerCell (s : Inner) (nodeId : NodeId) (source : PeerInfo) (nowAgain : Nat) :
    Option Inner :=
  match s.mapInfo.lookup nodeId with
  | none => none
  | some info =>
      let bucket := info.newBucketIndex sha256 s.key source
      let slot : NewSlot := (bucket, info.bucketPosition sha256 s.key true bucket)
      let place (s : Inner) : Option Inner := do
        let s <- s.clearNew slot
        let info <- s.mapInfo.lookup nodeId
        let refCount <- checkedAdd info.refCount 1
        some ((s.setRow nodeId { info with refCount := refCount }).setNewMatrix slot
          (cellOf nodeId))
      if s.newMatrix slot = cellOf nodeId then some s
      else if s.newMatrix slot = emptyCell then place s
      else
        match s.mapInfo.lookup (nodeOf (s.newMatrix slot)) with
        | none => none
        | some existing =>
            if existing.isTerrible nowAgain ∨ (1 < existing.refCount ∧ info.refCount = 0) then
              place s
            else if info.refCount = 0 then s.deleteNewEntry nodeId
            else some s

/-- `add_to_new_table_`. -/
def addOne (s : Inner) (addr : TimestampedPeerInfo) (source : PeerInfo) (penalty : Nat)
    (inputs : AddInputs) : Option Inner :=
  if hostIsPrivate addr.host && !s.allowPrivateSubnets then some s
  else
    match s.find { host := addr.host, port := addr.port } with
    | (some nodeId, some existing) => do
        let s := s.refreshRow addr penalty inputs.now nodeId existing
        let info <- s.mapInfo.lookup nodeId
        if mayCompete info addr inputs.draw then s.offerCell sha256 nodeId source inputs.nowAgain
        else some s
    | _ => do
        let (s, nodeId) <- s.insertRow addr source penalty
        s.offerCell sha256 nodeId source inputs.nowAgain

/-- `add_to_new_table`: the addresses of one message in order. -/
def addToNewTable (s : Inner) (peerList : List (TimestampedPeerInfo × AddInputs))
    (source : PeerInfo) (penalty : Nat) : Option Inner :=
  peerList.foldlM (fun s peer => s.addOne sha256 peer.1 source penalty peer.2) s

/-- `attempt_`. -/
def attempt (s : Inner) (addr : PeerInfo) (countFailures : Bool) (timestamp : Nat) : Inner :=
  match s.find addr with
  | (some nodeId, some info) =>
      if info.peerInfo ≠ addr then s
      else
        let info := { info with lastTry := timestamp }
        let info :=
          if countFailures ∧ info.lastCountAttempt < s.lastGood then
            { info with
              lastCountAttempt := timestamp
              numAttempts := saturatingAdd u32Max info.numAttempts 1 }
          else info
        s.setRow nodeId info
  | _ => s

/-- `connect_`. -/
def connect (s : Inner) (addr : PeerInfo) (timestamp : Nat) : Inner :=
  match s.find addr with
  | (some nodeId, some info) =>
      if info.peerInfo ≠ addr then s
      else
        let info :=
          if 20 * 60 < timestamp - info.timestamp then { info with timestamp := timestamp }
          else info
        s.setRow nodeId info
  | _ => s

/-- What `resolve_tried_collisions_` decides about one pending id. -/
inductive CollisionVerdict where
  | keep
  | drop
  | promote (peer : PeerInfo)

def collisionVerdict (s : Inner) (now : Nat) (nodeId : NodeId) : CollisionVerdict :=
  match s.mapInfo.lookup nodeId with
  | none => .drop
  | some info =>
      let slot := info.triedSlot sha256 s.key
      if s.triedMatrix slot = emptyCell then .keep
      else
        match s.mapInfo.lookup (nodeOf (s.triedMatrix slot)) with
        | none => .keep
        | some old =>
            if now - old.lastSuccess < 4 * 60 * 60 then .drop
            else if now - old.lastTry < 4 * 60 * 60 then
              if 60 < now - old.lastTry then .promote info.peerInfo else .keep
            -- the age of the pending row is tested here, and both outcomes promote it
            else .promote info.peerInfo

def retainCollisions (s : Inner) (keep : NodeId -> Bool) : Inner :=
  { s with triedCollisions := s.triedCollisions.filter keep }

/-- One turn of the loop in `resolve_tried_collisions_`. -/
def resolveOne (s : Inner) (now : Nat) (bucketRand : Fin newBucketCount) (nodeId : NodeId) :
    Option Inner :=
  match s.collisionVerdict sha256 now nodeId with
  | .keep => some s
  | .drop => some (s.retainCollisions fun other => other != nodeId)
  | .promote peer => do
      let s <- s.markGood sha256 peer false now bucketRand
      some (s.retainCollisions fun other => other != nodeId)

def resolvePending (s : Inner) (now : Nat) (draws : Nat -> Fin newBucketCount) :
    List NodeId -> Option Inner
  | [] => some s
  | nodeId :: pending => do
      let s <- s.resolveOne sha256 now (draws 0) nodeId
      s.resolvePending now (fun index => draws (index + 1)) pending

/-- `resolve_tried_collisions_`: over the ids pending on entry. -/
def resolveTriedCollisions (s : Inner) (now : Nat) (draws : Nat -> Fin newBucketCount) :
    Option Inner :=
  s.resolvePending sha256 now draws s.triedCollisions

/-- `select_tried_collision_`: drops the ids that lost their row, and answers
with the occupant of the tried cell that a drawn id wants. -/
def selectTriedCollision (s : Inner) (draw : Nat) : Inner × Option ExtendedPeerInfo :=
  let s := s.retainCollisions fun nodeId => (s.mapInfo.lookup nodeId).isSome
  let victim := do
    let newId <- s.triedCollisions[draw % s.triedCollisions.length]?
    let newInfo <- s.mapInfo.lookup newId
    let oldId := s.triedMatrix (newInfo.triedSlot sha256 s.key)
    if oldId = emptyCell then none else s.mapInfo.lookup (nodeOf oldId)
  (s, victim)

def setAllowPrivateSubnets (s : Inner) (allow : Bool) : Inner :=
  { s with allowPrivateSubnets := allow }

/-- `size`. -/
def size (s : Inner) : Nat := s.randomPos.length

end Inner

end Discovery
end DigGossip
