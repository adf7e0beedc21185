import DigGossip.Discovery.AddressManager
import DigGossip.Foundations.Grid
import DigGossip.Foundations.SwapRemove
import Mathlib.Data.Fintype.Prod

namespace DigGossip
namespace Discovery

open Foundations DigGossip.Types

/-!
# The redundant structures, one at a time

Each structure of the address manager is related to the rows alone: the host
index, the sampling order, the new table and the tried table.  Every relation
reads only some fields of a row, so it survives a rewrite of the others, and
each has one law for every elementary change that touches it.
-/

@[simp] theorem cellOf_nodeOf (cell : Cell) : cellOf (nodeOf cell) = cell :=
  Int32.toInt32_toUInt32 cell

@[simp] theorem nodeOf_cellOf (nodeId : NodeId) : nodeOf (cellOf nodeId) = nodeId :=
  UInt32.toUInt32_toInt32 nodeId

theorem nodeOf_eq {cell : Cell} {nodeId : NodeId} : nodeOf cell = nodeId ↔ cell = cellOf nodeId := by
  constructor
  · intro same
    rw [← same, cellOf_nodeOf]
  · intro same
    rw [same, nodeOf_cellOf]

theorem cellOf_inj {first second : NodeId} : cellOf first = cellOf second ↔ first = second := by
  rw [← nodeOf_eq, nodeOf_cellOf]

/-- Only the id at the very end of the word looks like an empty cell. -/
theorem cellOf_ne_empty {nodeId : NodeId} (room : nodeId.toNat < u32Max) :
    cellOf nodeId ≠ emptyCell := by
  intro same
  have isMax : nodeId = nodeOf emptyCell := (nodeOf_eq.mpr same.symm).symm
  rw [isMax] at room
  exact absurd room (by decide)

abbrev Rows := FiniteMap NodeId ExtendedPeerInfo

/-- Rewriting a row changes no projection that agrees on the old and the new row. -/
theorem map_lookup_insert {B : Type} {rows : Rows} {nodeId : NodeId}
    {row written : ExtendedPeerInfo} (found : rows.lookup nodeId = some row)
    (view : ExtendedPeerInfo -> B) (same : view written = view row) (other : NodeId) :
    ((rows.insert nodeId written).lookup other).map view = (rows.lookup other).map view := by
  rw [FiniteMap.lookup_insert_eq]
  by_cases here : other = nodeId
  · rw [if_pos here, here, found, Option.map_some, Option.map_some, same]
  · rw [if_neg here]

/-- Agreement of a projection, read off as the row on the other side. -/
theorem exists_of_map_eq {B : Type} {left right : Option ExtendedPeerInfo}
    {view : ExtendedPeerInfo -> B} (agree : left.map view = right.map view)
    {row : ExtendedPeerInfo} (found : left = some row) :
    exists other, right = some other ∧ view other = view row := by
  rw [found, Option.map_some] at agree
  cases seen : right with
  | none =>
      rw [seen] at agree
      cases agree
  | some other =>
      rw [seen, Option.map_some] at agree
      exact ⟨other, rfl, (Option.some.inj agree).symm⟩

/-! ## The host index -/

/-- Each host leads to the id of the row with that host, and to no other. -/
def Names (mapAddr : FiniteMap String NodeId) (rows : Rows) : Prop :=
  forall host nodeId, mapAddr.lookup host = some nodeId ↔
    (rows.lookup nodeId).map (fun row => row.peerInfo.host) = some host

namespace Names

variable {mapAddr : FiniteMap String NodeId} {rows : Rows}

theorem congr (names : Names mapAddr rows) {others : Rows}
    (agree : forall id, (others.lookup id).map (fun row => row.peerInfo.host) =
      (rows.lookup id).map (fun row => row.peerInfo.host)) : Names mapAddr others := by
  intro host nodeId
  rw [agree nodeId]
  exact names host nodeId

theorem enter (names : Names mapAddr rows) {nodeId : NodeId} {row : ExtendedPeerInfo}
    (unknown : mapAddr.lookup row.peerInfo.host = none) (fresh : rows.lookup nodeId = none) :
    Names (mapAddr.insert row.peerInfo.host nodeId) (rows.insert nodeId row) := by
  intro host other
  rw [FiniteMap.lookup_insert_eq, FiniteMap.lookup_insert_eq]
  by_cases sameHost : host = row.peerInfo.host
  · by_cases sameId : other = nodeId
    · simp [sameHost, sameId]
    · have absent := names host other
      rw [sameHost, unknown] at absent
      rw [if_pos sameHost, if_neg sameId, sameHost, ← absent]
      simp [Ne.symm sameId]
  · rw [if_neg sameHost, names host other]
    by_cases sameId : other = nodeId
    · rw [if_pos sameId, sameId, fresh]
      simp [Ne.symm sameHost]
    · rw [if_neg sameId]

theorem drop (names : Names mapAddr rows) {nodeId : NodeId} {row : ExtendedPeerInfo}
    (found : rows.lookup nodeId = some row) :
    Names (mapAddr.erase row.peerInfo.host) (rows.erase nodeId) := by
  have named : mapAddr.lookup row.peerInfo.host = some nodeId := by
    rw [names, found]
    rfl
  intro host other
  rw [FiniteMap.lookup_erase_eq, FiniteMap.lookup_erase_eq]
  by_cases sameHost : host = row.peerInfo.host
  · by_cases sameId : other = nodeId
    · simp [sameHost, sameId]
    · rw [if_pos sameHost, if_neg sameId, ← names, sameHost, named]
      simp [Ne.symm sameId]
  · rw [if_neg sameHost, names host other]
    by_cases sameId : other = nodeId
    · rw [if_pos sameId, sameId, found]
      simp [Ne.symm sameHost]
    · rw [if_neg sameId]

end Names

/-! ## The sampling order -/

/-- The order lists the ids of all rows, and every row knows its place in it. -/
structure Ordered (randomPos : List NodeId) (rows : Rows) : Prop where
  linked : Linked randomPos fun nodeId => (rows.lookup nodeId).bind fun row => row.randomPos
  placed : forall nodeId row, rows.lookup nodeId = some row -> row.randomPos ≠ none

namespace Ordered

variable {randomPos : List NodeId} {rows : Rows}

theorem congr (ordered : Ordered randomPos rows) {others : Rows}
    (agree : forall id, (others.lookup id).map (fun row => row.randomPos) =
      (rows.lookup id).map (fun row => row.randomPos)) : Ordered randomPos others where
  linked := by
    apply ordered.linked.congr
    intro nodeId
    have same := agree nodeId
    cases left : others.lookup nodeId <;> cases right : rows.lookup nodeId <;>
      simp_all
  placed := by
    intro nodeId row found
    rcases exists_of_map_eq (agree nodeId) found with ⟨other, present, same⟩
    rw [← same]
    exact ordered.placed nodeId other present

/-- Every row has an index, and the order holds its id there. -/
theorem index (ordered : Ordered randomPos rows) {nodeId : NodeId} {row : ExtendedPeerInfo}
    (found : rows.lookup nodeId = some row) :
    exists place, row.randomPos = some place ∧ randomPos[place]? = some nodeId := by
  cases points : row.randomPos with
  | none => exact absurd points (ordered.placed nodeId row found)
  | some place =>
      refine ⟨place, rfl, (ordered.linked nodeId place).mp ?_⟩
      show (rows.lookup nodeId).bind _ = some place
      rw [found]
      exact points

theorem push (ordered : Ordered randomPos rows) {nodeId : NodeId} {row : ExtendedPeerInfo}
    (fresh : rows.lookup nodeId = none) (atEnd : row.randomPos = some randomPos.length) :
    Ordered (randomPos ++ [nodeId]) (rows.insert nodeId row) where
  linked := by
    have absent : (rows.lookup nodeId).bind (fun row => row.randomPos) = none := by
      rw [fresh]
      rfl
    apply (ordered.linked.push absent).congr
    intro other
    rw [FiniteMap.lookup_insert_eq]
    by_cases same : other = nodeId
    · rw [if_pos same, if_pos same]
      exact atEnd
    · rw [if_neg same, if_neg same]
  placed := by
    intro other written found
    rcases FiniteMap.of_lookup_insert found with ⟨rfl, rfl⟩ | ⟨_, found⟩
    · rw [atEnd]
      exact Option.some_ne_none _
    · exact ordered.placed other written found

/-- The swap-remove of one row: the last id of the order takes its place. -/
theorem swapRemove (ordered : Ordered randomPos rows) {nodeId last : NodeId}
    {row : ExtendedPeerInfo} {place : Nat} (found : rows.lookup nodeId = some row)
    (points : row.randomPos = some place)
    (atEnd : randomPos[randomPos.length - 1]? = some last) {moved : Rows}
    (movedTo : forall other, moved.lookup other =
      if other = nodeId then none
      else if other = last then
        (rows.lookup other).map fun row => { row with randomPos := some place }
      else rows.lookup other) :
    Ordered (((randomPos.set place last).set (randomPos.length - 1) nodeId).dropLast) moved where
  linked := by
    have pointed : (rows.lookup nodeId).bind (fun row => row.randomPos) = some place := by
      rw [found]
      exact points
    apply (ordered.linked.swapRemove pointed atEnd).congr
    intro other
    rw [movedTo]
    by_cases removed : other = nodeId
    · rw [if_pos removed, if_pos removed]
      rfl
    · rw [if_neg removed, if_neg removed]
      by_cases isLast : other = last
      · rw [if_pos isLast, if_pos isLast]
        -- the last id has a row, because its place in the order is its row's pointer
        have lastPoints : (rows.lookup last).bind (fun row => row.randomPos) = _ :=
          (ordered.linked last _).mpr atEnd
        rw [isLast]
        cases present : rows.lookup last with
        | none =>
            rw [present] at lastPoints
            cases lastPoints
        | some lastRow => rfl
      · rw [if_neg isLast, if_neg isLast]
  placed := by
    intro other written present
    rw [movedTo] at present
    by_cases removed : other = nodeId
    · rw [if_pos removed] at present
      cases present
    · rw [if_neg removed] at present
      by_cases isLast : other = last
      · rw [if_pos isLast, Option.map_eq_some_iff] at present
        rcases present with ⟨old, _, written⟩
        rw [← written]
        exact Option.some_ne_none _
      · rw [if_neg isLast] at present
        exact ordered.placed other written present

end Ordered

/-! ## The new table -/

/-- The new table against the rows: its cells name new rows at the slot their
hash computes, and a row's reference count is the number of its cells. -/
structure NewTable (sha256 : Digest) (key : Key) (matrix : NewSlot -> Cell)
    (used : Finset NewSlot) (rows : Rows) : Prop where
  proper : forall nodeId row, rows.lookup nodeId = some row -> cellOf nodeId ≠ emptyCell
  cell : forall slot, matrix slot ≠ emptyCell -> exists row,
    rows.lookup (nodeOf (matrix slot)) = some row ∧ row.isTried = false ∧
      slot.2 = row.bucketPosition sha256 key true slot.1
  refs : forall nodeId row, rows.lookup nodeId = some row ->
    row.refCount = occurrences matrix (cellOf nodeId)
  limit : forall nodeId row, rows.lookup nodeId = some row -> row.refCount ≤ newBucketsPerAddress
  used : forall slot, slot ∈ used ↔ matrix slot ≠ emptyCell

/-- What the new table reads of a row. -/
def newView (row : ExtendedPeerInfo) : PeerInfo × Bool × Nat :=
  (row.peerInfo, row.isTried, row.refCount)

/-- The slot of a row depends on its address alone. -/
theorem bucketPosition_congr (sha256 : Digest) {row other : ExtendedPeerInfo}
    (same : row.peerInfo = other.peerInfo) (key : Key) (isNew : Bool) (bucket : Nat) :
    row.bucketPosition sha256 key isNew bucket = other.bucketPosition sha256 key isNew bucket := by
  simp only [ExtendedPeerInfo.bucketPosition, same]

theorem triedSlot_congr (sha256 : Digest) {row other : ExtendedPeerInfo}
    (same : row.peerInfo = other.peerInfo) (key : Key) :
    row.triedSlot sha256 key = other.triedSlot sha256 key := by
  simp only [ExtendedPeerInfo.triedSlot, ExtendedPeerInfo.triedBucketIndex,
    ExtendedPeerInfo.bucketPosition, same]

namespace NewTable

variable {sha256 : Digest} {key : Key} {matrix : NewSlot -> Cell} {used : Finset NewSlot}
  {rows : Rows}

theorem congr (table : NewTable sha256 key matrix used rows) {others : Rows}
    (agree : forall id, (others.lookup id).map newView = (rows.lookup id).map newView) :
    NewTable sha256 key matrix used others where
  proper := by
    intro nodeId row found
    rcases exists_of_map_eq (agree nodeId) found with ⟨other, present, _⟩
    exact table.proper nodeId other present
  cell := by
    intro slot full
    rcases table.cell slot full with ⟨row, found, isNew, position⟩
    rcases exists_of_map_eq (agree _).symm found with ⟨other, present, same⟩
    simp only [newView, Prod.mk.injEq] at same
    refine ⟨other, present, same.2.1.trans isNew, ?_⟩
    rw [position, bucketPosition_congr sha256 same.1]
  refs := by
    intro nodeId row found
    rcases exists_of_map_eq (agree nodeId) found with ⟨other, present, same⟩
    simp only [newView, Prod.mk.injEq] at same
    rw [← same.2.2]
    exact table.refs nodeId other present
  limit := by
    intro nodeId row found
    rcases exists_of_map_eq (agree nodeId) found with ⟨other, present, same⟩
    simp only [newView, Prod.mk.injEq] at same
    rw [← same.2.2]
    exact table.limit nodeId other present
  used := table.used

/-- A row without references has no cell. -/
theorem unreferenced (table : NewTable sha256 key matrix used rows) {nodeId : NodeId}
    {row : ExtendedPeerInfo} (found : rows.lookup nodeId = some row) (none : row.refCount = 0)
    (slot : NewSlot) : matrix slot ≠ cellOf nodeId := by
  have count := table.refs nodeId row found
  rw [none] at count
  exact occurrences_eq_zero.mp count.symm slot

/-- The cells of a row lie where its hash puts them. -/
theorem position (table : NewTable sha256 key matrix used rows) {nodeId : NodeId}
    {row : ExtendedPeerInfo} (found : rows.lookup nodeId = some row) {slot : NewSlot}
    (holds : matrix slot = cellOf nodeId) :
    row.isTried = false ∧ slot.2 = row.bucketPosition sha256 key true slot.1 := by
  have full : matrix slot ≠ emptyCell := by
    rw [holds]
    exact table.proper nodeId row found
  rcases table.cell slot full with ⟨other, present, isNew, position⟩
  rw [holds, nodeOf_cellOf, found] at present
  cases present
  exact ⟨isNew, position⟩

/-- Rows without cells may be rewritten freely, as long as they stay without. -/
theorem rewrite (table : NewTable sha256 key matrix used rows) {nodeId : NodeId}
    {row written : ExtendedPeerInfo} (found : rows.lookup nodeId = some row)
    (none : row.refCount = 0) (still : written.refCount = 0) :
    NewTable sha256 key matrix used (rows.insert nodeId written) where
  proper := FiniteMap.forall_key_insert found table.proper
  cell := by
    intro slot full
    rcases table.cell slot full with ⟨other, present, rest⟩
    have different : nodeOf (matrix slot) ≠ nodeId := by
      intro same
      exact table.unreferenced found none slot (nodeOf_eq.mp same)
    refine ⟨other, ?_, rest⟩
    rw [FiniteMap.lookup_insert_eq, if_neg different]
    exact present
  refs := by
    intro other kept present
    rcases FiniteMap.of_lookup_insert present with ⟨rfl, rfl⟩ | ⟨_, present⟩
    · rw [still, ← table.refs other row found, none]
    · exact table.refs other kept present
  limit := by
    intro other kept present
    rcases FiniteMap.of_lookup_insert present with ⟨rfl, rfl⟩ | ⟨_, present⟩
    · rw [still]
      exact Nat.zero_le _
    · exact table.limit other kept present
  used := table.used

theorem enter (table : NewTable sha256 key matrix used rows) {nodeId : NodeId}
    {row : ExtendedPeerInfo} (fresh : rows.lookup nodeId = none)
    (proper : cellOf nodeId ≠ emptyCell) (none : row.refCount = 0) :
    NewTable sha256 key matrix used (rows.insert nodeId row) where
  proper := by
    intro other kept present
    rcases FiniteMap.of_lookup_insert present with ⟨rfl, _⟩ | ⟨_, present⟩
    · exact proper
    · exact table.proper other kept present
  cell := by
    intro slot full
    rcases table.cell slot full with ⟨other, present, rest⟩
    refine ⟨other, ?_, rest⟩
    rw [FiniteMap.lookup_insert_eq, if_neg]
    · exact present
    · intro same
      rw [same, fresh] at present
      cases present
  refs := by
    intro other kept present
    rcases FiniteMap.of_lookup_insert present with ⟨rfl, rfl⟩ | ⟨_, present⟩
    · rw [none, Eq.comm, occurrences_eq_zero]
      intro slot holds
      rcases table.cell slot (holds ▸ proper) with ⟨named, present, _⟩
      rw [holds, nodeOf_cellOf, fresh] at present
      cases present
    · exact table.refs other kept present
  limit := by
    intro other kept present
    rcases FiniteMap.of_lookup_insert present with ⟨rfl, rfl⟩ | ⟨_, present⟩
    · rw [none]
      exact Nat.zero_le _
    · exact table.limit other kept present
  used := table.used

theorem drop (table : NewTable sha256 key matrix used rows) {nodeId : NodeId}
    {row : ExtendedPeerInfo} (found : rows.lookup nodeId = some row) (none : row.refCount = 0) :
    NewTable sha256 key matrix used (rows.erase nodeId) where
  proper := by
    intro other kept present
    exact table.proper other kept (FiniteMap.of_lookup_erase present).2
  cell := by
    intro slot full
    rcases table.cell slot full with ⟨other, present, rest⟩
    have different : nodeOf (matrix slot) ≠ nodeId := by
      intro same
      exact table.unreferenced found none slot (nodeOf_eq.mp same)
    refine ⟨other, ?_, rest⟩
    rw [FiniteMap.lookup_erase_eq, if_neg different]
    exact present
  refs := by
    intro other kept present
    exact table.refs other kept (FiniteMap.of_lookup_erase present).2
  limit := by
    intro other kept present
    exact table.limit other kept (FiniteMap.of_lookup_erase present).2
  used := table.used

/-- A cell still names a row when the references of a row are counted anew. -/
theorem cell_recounted (table : NewTable sha256 key matrix used rows) {nodeId : NodeId}
    {row : ExtendedPeerInfo} (found : rows.lookup nodeId = some row) (refCount : Nat)
    {slot : NewSlot} (full : matrix slot ≠ emptyCell) :
    exists named, (rows.insert nodeId { row with refCount := refCount }).lookup
        (nodeOf (matrix slot)) = some named ∧
      named.isTried = false ∧ slot.2 = named.bucketPosition sha256 key true slot.1 := by
  rcases table.cell slot full with ⟨named, present, rest⟩
  rw [FiniteMap.lookup_insert_eq]
  by_cases same : nodeOf (matrix slot) = nodeId
  · rw [same, found] at present
    cases present
    exact ⟨_, if_pos same, rest⟩
  · rw [if_neg same]
    exact ⟨named, present, rest⟩

/-- Emptying a cell takes one reference from the row it named. -/
theorem clear (table : NewTable sha256 key matrix used rows) {slot : NewSlot} {nodeId : NodeId}
    {row : ExtendedPeerInfo} (found : rows.lookup nodeId = some row)
    (holds : matrix slot = cellOf nodeId) :
    NewTable sha256 key (Function.update matrix slot emptyCell) (used.erase slot)
      (rows.insert nodeId { row with refCount := row.refCount - 1 }) where
  proper := FiniteMap.forall_key_insert found table.proper
  cell := by
    intro other full
    by_cases here : other = slot
    · rw [here, Function.update_self] at full
      exact absurd rfl full
    · rw [Function.update_of_ne here] at full ⊢
      exact table.cell_recounted found _ full
  refs := by
    have proper := table.proper nodeId row found
    intro other kept present
    rcases FiniteMap.of_lookup_insert present with ⟨rfl, rfl⟩ | ⟨same, present⟩
    · have before := table.refs other row found
      have after := occurrences_update_old holds (Ne.symm proper)
      show row.refCount - 1 = _
      omega
    · have different : matrix slot ≠ cellOf other := by
        rw [holds, Ne, cellOf_inj]
        exact Ne.symm same
      rw [table.refs other kept present,
        occurrences_update_other different (Ne.symm (table.proper other kept present))]
  limit := by
    intro other kept present
    rcases FiniteMap.of_lookup_insert present with ⟨rfl, rfl⟩ | ⟨_, present⟩
    · exact Nat.le_trans (Nat.sub_le _ _) (table.limit other row found)
    · exact table.limit other kept present
  used := by
    intro other
    rw [Finset.mem_erase, table.used]
    by_cases here : other = slot
    · simp [here]
    · simp [here]

/-- Filling an empty cell adds one reference to the row it names. -/
theorem place (table : NewTable sha256 key matrix used rows) {slot : NewSlot} {nodeId : NodeId}
    {row : ExtendedPeerInfo} (found : rows.lookup nodeId = some row)
    (vacant : matrix slot = emptyCell) (isNew : row.isTried = false)
    (position : slot.2 = row.bucketPosition sha256 key true slot.1)
    (below : row.refCount < newBucketsPerAddress) :
    NewTable sha256 key (Function.update matrix slot (cellOf nodeId)) (insert slot used)
      (rows.insert nodeId { row with refCount := row.refCount + 1 }) where
  proper := FiniteMap.forall_key_insert found table.proper
  cell := by
    intro other full
    by_cases here : other = slot
    · rw [here, Function.update_self, FiniteMap.lookup_insert_eq]
      exact ⟨_, if_pos (nodeOf_cellOf nodeId), isNew, position⟩
    · rw [Function.update_of_ne here] at full ⊢
      exact table.cell_recounted found _ full
  refs := by
    have proper := table.proper nodeId row found
    intro other kept present
    rcases FiniteMap.of_lookup_insert present with ⟨rfl, rfl⟩ | ⟨same, present⟩
    · have fresh : matrix slot ≠ cellOf other := by
        rw [vacant]
        exact Ne.symm proper
      rw [occurrences_update_self fresh, ← table.refs other row found]
    · have before : matrix slot ≠ cellOf other := by
        rw [vacant]
        exact Ne.symm (table.proper other kept present)
      have after : cellOf nodeId ≠ cellOf other := by
        rw [Ne, cellOf_inj]
        exact Ne.symm same
      rw [table.refs other kept present, occurrences_update_other before after]
  limit := by
    intro other kept present
    rcases FiniteMap.of_lookup_insert present with ⟨rfl, rfl⟩ | ⟨_, present⟩
    · exact below
    · exact table.limit other kept present
  used := by
    intro other
    rw [Finset.mem_insert, table.used]
    by_cases here : other = slot
    · simp [here, table.proper nodeId row found]
    · simp [here]

end NewTable

/-! ## The tried table -/

/-- The tried table against the rows: a cell names the tried row that belongs
there, and every tried row sits in the cell its hash computes. -/
structure TriedTable (sha256 : Digest) (key : Key) (matrix : TriedSlot -> Cell)
    (used : Finset TriedSlot) (rows : Rows) : Prop where
  cell : forall slot, matrix slot ≠ emptyCell -> exists row,
    rows.lookup (nodeOf (matrix slot)) = some row ∧ row.isTried = true ∧
      row.triedSlot sha256 key = slot
  seated : forall nodeId row, rows.lookup nodeId = some row -> row.isTried = true ->
    matrix (row.triedSlot sha256 key) = cellOf nodeId
  used : forall slot, slot ∈ used ↔ matrix slot ≠ emptyCell

/-- What the tried table reads of a row. -/
def triedView (row : ExtendedPeerInfo) : PeerInfo × Bool :=
  (row.peerInfo, row.isTried)

namespace TriedTable

variable {sha256 : Digest} {key : Key} {matrix : TriedSlot -> Cell} {used : Finset TriedSlot}
  {rows : Rows}

theorem congr (table : TriedTable sha256 key matrix used rows) {others : Rows}
    (agree : forall id, (others.lookup id).map triedView = (rows.lookup id).map triedView) :
    TriedTable sha256 key matrix used others where
  cell := by
    intro slot full
    rcases table.cell slot full with ⟨row, found, tried, seat⟩
    rcases exists_of_map_eq (agree _).symm found with ⟨other, present, same⟩
    simp only [triedView, Prod.mk.injEq] at same
    refine ⟨other, present, same.2.trans tried, ?_⟩
    rw [← seat, triedSlot_congr sha256 same.1]
  seated := by
    intro nodeId row found tried
    rcases exists_of_map_eq (agree nodeId) found with ⟨other, present, same⟩
    simp only [triedView, Prod.mk.injEq] at same
    rw [← triedSlot_congr sha256 same.1]
    exact table.seated nodeId other present (same.2.trans tried)
  used := table.used

/-- The occupant of a cell, from the cell's content. -/
theorem occupant (table : TriedTable sha256 key matrix used rows) {slot : TriedSlot}
    {nodeId : NodeId} (holds : matrix slot = cellOf nodeId) (proper : cellOf nodeId ≠ emptyCell) :
    exists row, rows.lookup nodeId = some row ∧ row.isTried = true ∧
      row.triedSlot sha256 key = slot := by
  have occupied := table.cell slot (holds ▸ proper)
  rw [holds, nodeOf_cellOf] at occupied
  exact occupied

/-- A row that is not tried comes or is rewritten. -/
theorem enter (table : TriedTable sha256 key matrix used rows) {nodeId : NodeId}
    {row : ExtendedPeerInfo} (untried : forall old, rows.lookup nodeId = some old -> old.isTried = false)
    (isNew : row.isTried = false) : TriedTable sha256 key matrix used (rows.insert nodeId row) where
  cell := by
    intro slot full
    rcases table.cell slot full with ⟨named, present, tried, seat⟩
    refine ⟨named, ?_, tried, seat⟩
    rw [FiniteMap.lookup_insert_eq, if_neg]
    · exact present
    · intro same
      rw [same] at present
      exact absurd tried (by rw [untried named present]; exact Bool.false_ne_true)
  seated := by
    intro other kept present tried
    rcases FiniteMap.of_lookup_insert present with ⟨rfl, rfl⟩ | ⟨_, present⟩
    · rw [isNew] at tried
      cases tried
    · exact table.seated other kept present tried
  used := table.used

theorem drop (table : TriedTable sha256 key matrix used rows) {nodeId : NodeId}
    {row : ExtendedPeerInfo} (found : rows.lookup nodeId = some row) (isNew : row.isTried = false) :
    TriedTable sha256 key matrix used (rows.erase nodeId) where
  cell := by
    intro slot full
    rcases table.cell slot full with ⟨named, present, tried, seat⟩
    refine ⟨named, ?_, tried, seat⟩
    rw [FiniteMap.lookup_erase_eq, if_neg]
    · exact present
    · intro same
      rw [same, found] at present
      cases present
      rw [isNew] at tried
      cases tried
  seated := by
    intro other kept present tried
    exact table.seated other kept (FiniteMap.of_lookup_erase present).2 tried
  used := table.used

/-- A tried row leaves its cell and is tried no more. -/
theorem vacate (table : TriedTable sha256 key matrix used rows) {nodeId : NodeId}
    {row written : ExtendedPeerInfo} (found : rows.lookup nodeId = some row)
    (tried : row.isTried = true) (isNew : written.isTried = false) :
    TriedTable sha256 key (Function.update matrix (row.triedSlot sha256 key) emptyCell)
      (used.erase (row.triedSlot sha256 key)) (rows.insert nodeId written) where
  cell := by
    intro slot full
    by_cases here : slot = row.triedSlot sha256 key
    · rw [here, Function.update_self] at full
      exact absurd rfl full
    · rw [Function.update_of_ne here] at full ⊢
      rcases table.cell slot full with ⟨named, present, rest⟩
      refine ⟨named, ?_, rest⟩
      rw [FiniteMap.lookup_insert_eq, if_neg]
      · exact present
      · intro same
        rw [same, found] at present
        cases present
        exact here rest.2.symm
  seated := by
    intro other kept present isTried
    rcases FiniteMap.of_lookup_insert present with ⟨rfl, rfl⟩ | ⟨same, present⟩
    · rw [isNew] at isTried
      cases isTried
    · have seat := table.seated other kept present isTried
      rw [Function.update_of_ne]
      · exact seat
      · intro here
        rw [here, table.seated nodeId row found tried, cellOf_inj] at seat
        exact same seat.symm
  used := by
    intro slot
    rw [Finset.mem_erase, table.used]
    by_cases here : slot = row.triedSlot sha256 key
    · simp [here]
    · simp [here]

/-- A row becomes tried and takes the empty cell it belongs in. -/
theorem seat (table : TriedTable sha256 key matrix used rows) {nodeId : NodeId}
    {row written : ExtendedPeerInfo} (found : rows.lookup nodeId = some row)
    (isNew : row.isTried = false) (same : written.peerInfo = row.peerInfo)
    (tried : written.isTried = true) (vacant : matrix (row.triedSlot sha256 key) = emptyCell)
    (proper : forall id kept, rows.lookup id = some kept -> cellOf id ≠ emptyCell) :
    TriedTable sha256 key (Function.update matrix (row.triedSlot sha256 key) (cellOf nodeId))
      (insert (row.triedSlot sha256 key) used) (rows.insert nodeId written) where
  cell := by
    intro slot full
    rw [FiniteMap.lookup_insert_eq]
    by_cases here : slot = row.triedSlot sha256 key
    · rw [here, Function.update_self]
      exact ⟨_, if_pos (nodeOf_cellOf nodeId), tried, triedSlot_congr sha256 same key⟩
    · rw [Function.update_of_ne here] at full ⊢
      rcases table.cell slot full with ⟨named, present, isTried, seat⟩
      refine ⟨named, ?_, isTried, seat⟩
      rw [if_neg]
      · exact present
      · intro isThis
        rw [isThis, found] at present
        cases present
        rw [isNew] at isTried
        cases isTried
  seated := by
    intro other kept present isTried
    rcases FiniteMap.of_lookup_insert present with ⟨rfl, rfl⟩ | ⟨_, present⟩
    · rw [triedSlot_congr sha256 same, Function.update_self]
    · have seat := table.seated other kept present isTried
      rw [Function.update_of_ne]
      · exact seat
      · intro here
        rw [here, vacant] at seat
        exact proper other kept present seat.symm
  used := by
    intro slot
    rw [Finset.mem_insert, table.used]
    by_cases here : slot = row.triedSlot sha256 key
    · simp [here, proper nodeId row found]
    · simp [here]

end TriedTable

end Discovery
end DigGossip
