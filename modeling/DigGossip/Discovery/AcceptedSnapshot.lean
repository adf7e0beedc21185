import DigGossip.Discovery.Snapshot

namespace DigGossip
namespace Discovery

open Foundations DigGossip.Types

/-!
# Running on an accepted snapshot

The layout check looks at the fields of a snapshot one at a time.  The manager
relies on relations between them: distinct ids below the counter, distinct
hosts, an order that lists every row once, and counts that match the tables.
`Consistent` states these relations on the snapshot itself.  The manager built
from an accepted snapshot is sound exactly when they hold.
-/

namespace AddressManagerState

/-- The index in each cell of the new table. -/
def newIndex (state : AddressManagerState) (slot : NewSlot) : Option Nat :=
  cellIndex state.newTable slot.1 slot.2

/-- The index in each cell of the tried table. -/
def triedIndex (state : AddressManagerState) (slot : TriedSlot) : Option Nat :=
  cellIndex state.triedTable slot.1 slot.2

end AddressManagerState

/-- The relations between the fields of a snapshot, in terms of row indices. -/
structure Consistent (sha256 : Digest) (state : AddressManagerState) : Prop where
  distinct : state.nodeIds.Nodup
  allocated : ∀ nodeId ∈ state.nodeIds, nodeId.toNat ≤ state.idCount.toNat
  room : state.idCount.toNat < u32Max
  hosts : (state.entries.map fun row => row.peerInfo.host).Nodup
  order : state.randomPos.Perm (List.range state.entries.length)
  newCount : state.newCount = state.entries.countP fun row => !row.isTried
  triedCount : state.triedCount = state.entries.countP fun row => row.isTried
  newCell : forall slot ix, state.newIndex slot = some ix -> exists row,
    state.entries[ix]? = some row ∧ row.isTried = false ∧
      slot.2 = row.bucketPosition sha256 state.key true slot.1
  refs : forall (ix : Nat) row, state.entries[ix]? = some row ->
    row.refCount = occurrences state.newIndex (some ix) ∧ row.refCount ≤ newBucketsPerAddress
  rooted : ∀ row ∈ state.entries, row.isTried = false -> 1 ≤ row.refCount
  triedCell : forall slot ix, state.triedIndex slot = some ix -> exists row,
    state.entries[ix]? = some row ∧ row.isTried = true ∧ row.triedSlot sha256 state.key = slot
  seated : forall (ix : Nat) row, state.entries[ix]? = some row -> row.isTried = true ->
    state.triedIndex (row.triedSlot sha256 state.key) = some ix

variable {sha256 : Digest} {state : AddressManagerState}

/-! ## Indices and ids -/

theorem TableLayout.cellIndex_lt {buckets entries : Nat} {table : List (List (Option Nat))}
    (layout : TableLayout buckets entries table) {bucket place ix : Nat}
    (indexed : AddressManagerState.cellIndex table bucket place = some ix) : ix < entries := by
  unfold AddressManagerState.cellIndex at indexed
  rw [Option.join_eq_some_iff, Option.bind_eq_some_iff] at indexed
  rcases indexed with ⟨row, atBucket, atPlace⟩
  exact layout.inRange row (List.mem_of_getElem? atBucket) ix (List.mem_of_getElem? atPlace)

namespace Layout

theorem idAt (layout : Layout state) {ix : Nat} (inside : ix < state.entries.length) :
    exists nodeId, state.nodeIds[ix]? = some nodeId :=
  ⟨_, List.getElem?_eq_getElem (layout.parallel ▸ inside)⟩

theorem entryAt (layout : Layout state) {ix : Nat} {nodeId : NodeId}
    (atId : state.nodeIds[ix]? = some nodeId) : exists row, state.entries[ix]? = some row := by
  have inside := (List.getElem?_eq_some_iff.mp atId).1
  exact ⟨_, List.getElem?_eq_getElem (layout.parallel ▸ inside)⟩

/-- A cell that holds an index holds the id at that index. -/
theorem cellOfIndex_eq (layout : Layout state) (distinct : state.nodeIds.Nodup)
    (proper : ∀ nodeId ∈ state.nodeIds, cellOf nodeId ≠ emptyCell) {cell : Option Nat}
    (inRange : forall ix, cell = some ix -> ix < state.entries.length) {ix : Nat} {nodeId : NodeId}
    (atId : state.nodeIds[ix]? = some nodeId) :
    state.cellOfIndex cell = cellOf nodeId ↔ cell = some ix := by
  unfold AddressManagerState.cellOfIndex
  cases cell with
  | none =>
      show emptyCell = cellOf nodeId ↔ _
      constructor
      · intro same
        exact absurd same.symm (proper nodeId (List.mem_of_getElem? atId))
      · intro impossible
        cases impossible
  | some other =>
      rcases layout.idAt (inRange other rfl) with ⟨otherId, atOther⟩
      rw [Option.bind_some, atOther]
      show cellOf otherId = cellOf nodeId ↔ _
      rw [cellOf_inj, Option.some.injEq]
      constructor
      · intro same
        exact (List.getElem?_inj (List.getElem?_eq_some_iff.mp atOther).1 distinct).mp
          (atOther.trans (same ▸ atId.symm))
      · intro same
        rw [same, atId] at atOther
        exact (Option.some.inj atOther).symm

/-- The cells that are not empty are the cells with an index. -/
theorem cellOfIndex_full (layout : Layout state) {cell : Option Nat}
    (inRange : forall ix, cell = some ix -> ix < state.entries.length)
    (full : state.cellOfIndex cell ≠ emptyCell) : exists (ix : Nat) (nodeId : NodeId),
      cell = some ix ∧ state.nodeIds[ix]? = some nodeId ∧ state.cellOfIndex cell = cellOf nodeId := by
  cases cell with
  | none => exact absurd rfl full
  | some ix =>
      rcases layout.idAt (inRange ix rfl) with ⟨nodeId, atId⟩
      refine ⟨ix, nodeId, rfl, atId, ?_⟩
      unfold AddressManagerState.cellOfIndex
      rw [Option.bind_some, atId]

theorem newMatrix_eq (layout : Layout state) (distinct : state.nodeIds.Nodup)
    (proper : ∀ nodeId ∈ state.nodeIds, cellOf nodeId ≠ emptyCell) {ix : Nat} {nodeId : NodeId}
    (atId : state.nodeIds[ix]? = some nodeId) (slot : NewSlot) :
    state.newMatrix slot = cellOf nodeId ↔ state.newIndex slot = some ix :=
  layout.cellOfIndex_eq distinct proper (fun _ => layout.newTable.cellIndex_lt) atId

theorem triedMatrix_eq (layout : Layout state) (distinct : state.nodeIds.Nodup)
    (proper : ∀ nodeId ∈ state.nodeIds, cellOf nodeId ≠ emptyCell) {ix : Nat} {nodeId : NodeId}
    (atId : state.nodeIds[ix]? = some nodeId) (slot : TriedSlot) :
    state.triedMatrix slot = cellOf nodeId ↔ state.triedIndex slot = some ix :=
  layout.cellOfIndex_eq distinct proper (fun _ => layout.triedTable.cellIndex_lt) atId

end Layout

/-! ## Rows -/

/-- A row of the snapshot as the pointer pass leaves it. -/
def pointed (state : AddressManagerState) (nodeId : NodeId) (row : ExtendedPeerInfo) :
    ExtendedPeerInfo :=
  match (state.idsAt state.randomPos).idxOf? nodeId with
  | some place => { row with randomPos := some place }
  | none => row

variable (state) in
theorem pointed_unplaced (nodeId : NodeId) (row : ExtendedPeerInfo) :
    unplaced (pointed state nodeId row) = unplaced row := by
  unfold pointed
  cases (state.idsAt state.randomPos).idxOf? nodeId <;> rfl

variable (state) in
theorem pointed_fields (nodeId : NodeId) (row : ExtendedPeerInfo) :
    (pointed state nodeId row).peerInfo = row.peerInfo ∧
      (pointed state nodeId row).isTried = row.isTried ∧
      (pointed state nodeId row).refCount = row.refCount :=
  unplaced_fields (pointed_unplaced state nodeId row)

section Restored

variable (layout : Layout state) (distinct : state.nodeIds.Nodup)
  (once : (state.idsAt state.randomPos).Nodup)

include layout distinct once

/-- The rows of the restored manager are the entries under their ids. -/
theorem restore_lookup (nodeId : NodeId) (written : ExtendedPeerInfo) :
    state.restore.mapInfo.lookup nodeId = some written ↔
      exists (ix : Nat) (row : ExtendedPeerInfo), state.nodeIds[ix]? = some nodeId ∧
        state.entries[ix]? = some row ∧ pointed state nodeId row = written := by
  have placed : state.restore.mapInfo.lookup nodeId =
      (state.mapInfo.lookup nodeId).map (pointed state nodeId) := by
    show (AddressManagerState.pointRows _ state.mapInfo).lookup nodeId = _
    rw [pointRows_lookup once]
    unfold pointed
    cases (state.idsAt state.randomPos).idxOf? nodeId with
    | none => exact (Option.map_id_apply).symm
    | some place => rfl
  rw [placed, Option.map_eq_some_iff]
  constructor
  · rintro ⟨row, found, same⟩
    rcases (mapInfo_lookup layout distinct nodeId row).mp found with ⟨ix, atId, atEntry⟩
    exact ⟨ix, row, atId, atEntry, same⟩
  · rintro ⟨ix, row, atId, atEntry, same⟩
    exact ⟨row, (mapInfo_lookup layout distinct nodeId row).mpr ⟨ix, atId, atEntry⟩, same⟩

/-- Every entry is a row of the restored manager. -/
theorem restore_row {ix : Nat} {nodeId : NodeId} {row : ExtendedPeerInfo}
    (atId : state.nodeIds[ix]? = some nodeId) (atEntry : state.entries[ix]? = some row) :
    state.restore.mapInfo.lookup nodeId = some (pointed state nodeId row) :=
  (restore_lookup layout distinct once nodeId _).mpr ⟨ix, row, atId, atEntry, rfl⟩

/-- A count over the restored rows is a count over the entries. -/
theorem restore_count (test : ExtendedPeerInfo -> Bool)
    (ignores : forall row, test (unplaced row) = test row) :
    FiniteMap.countWhere state.restore.mapInfo (fun _ row => test row) =
      state.entries.countP test := by
  have pointless (nodeId : NodeId) (row : ExtendedPeerInfo) :
      test (pointed state nodeId row) = test row := by
    rw [← ignores, pointed_unplaced, ignores]
  have unpointed : FiniteMap.countWhere state.restore.mapInfo (fun _ row => test row) =
      FiniteMap.countWhere state.mapInfo fun _ row => test row := by
    apply FiniteMap.countWhere_congr
    intro nodeId
    show ((AddressManagerState.pointRows _ state.mapInfo).lookup nodeId).any test = _
    rw [pointRows_lookup once]
    cases (state.idsAt state.randomPos).idxOf? nodeId with
    | none => rfl
    | some place =>
        cases state.mapInfo.lookup nodeId with
        | none => rfl
        | some row =>
            show test { row with randomPos := some place } = test row
            rw [← ignores, ← ignores row]
            rfl
  have keys : (state.rowPairs.map fun pair => pair.1) = state.nodeIds :=
    List.map_fst_zip (Nat.le_of_eq layout.parallel)
  have rows : (state.rowPairs.map fun pair => pair.2) = state.entries :=
    List.map_snd_zip (Nat.le_of_eq layout.parallel.symm)
  rw [unpointed]
  unfold AddressManagerState.mapInfo
  rw [countWhere_insertAll (fun _ row => test row) (keys ▸ distinct) ∅
    (fun _ _ => Finmap.lookup_empty _), FiniteMap.countWhere_empty, Nat.zero_add, ← rows,
    List.countP_map]
  rfl

end Restored

/-! ## Consistent snapshots restore soundly -/

theorem mem_idsAt {indices : List Nat} {nodeId : NodeId} :
    nodeId ∈ state.idsAt indices ↔ exists ix, ix ∈ indices ∧ state.nodeIds[ix]? = some nodeId := by
  unfold AddressManagerState.idsAt
  rw [List.mem_filterMap]

namespace Consistent

variable (consistent : Consistent sha256 state)

include consistent

theorem proper : ∀ nodeId ∈ state.nodeIds, cellOf nodeId ≠ emptyCell := fun nodeId member =>
  cellOf_ne_empty (Nat.lt_of_le_of_lt (consistent.allocated nodeId member) consistent.room)

theorem once : (state.idsAt state.randomPos).Nodup := by
  apply List.Nodup.filterMap
  · intro first second nodeId atFirst atSecond
    exact (List.getElem?_inj (List.getElem?_eq_some_iff.mp atFirst).1 consistent.distinct).mp
      (atFirst.trans atSecond.symm)
  · exact consistent.order.nodup_iff.mpr List.nodup_range

variable (layout : Layout state)

include layout

/-- Every id has its place in the order. -/
theorem placeOf {ix : Nat} {nodeId : NodeId} (atId : state.nodeIds[ix]? = some nodeId) :
    exists place, (state.idsAt state.randomPos).idxOf? nodeId = some place := by
  have inside := (List.getElem?_eq_some_iff.mp atId).1
  rw [← Option.isSome_iff_exists, List.isSome_idxOf?, mem_idsAt]
  exact ⟨ix, consistent.order.mem_iff.mpr (List.mem_range.mpr (layout.parallel ▸ inside)), atId⟩

theorem ordered : Ordered (state.idsAt state.randomPos) state.restore.mapInfo where
  linked := by
    intro nodeId place
    rw [← idxOf?_eq_some_iff_of_nodup consistent.once]
    constructor
    · intro points
      rcases Option.bind_eq_some_iff.mp points with ⟨written, found, points⟩
      rcases (restore_lookup layout consistent.distinct consistent.once nodeId written).mp found with
        ⟨ix, row, atId, _, same⟩
      rcases consistent.placeOf layout atId with ⟨index, indexed⟩
      rw [← same] at points
      simp only [pointed, indexed] at points
      rw [indexed, points]
    · intro indexed
      have member := List.isSome_idxOf?.mp (Option.isSome_of_eq_some indexed)
      rcases mem_idsAt.mp member with ⟨ix, _, atId⟩
      rcases layout.entryAt atId with ⟨row, atEntry⟩
      show (state.restore.mapInfo.lookup nodeId).bind _ = some place
      rw [restore_row layout consistent.distinct consistent.once atId atEntry, Option.bind_some]
      simp only [pointed, indexed]
  placed := by
    intro nodeId written found
    rcases (restore_lookup layout consistent.distinct consistent.once nodeId written).mp found with
      ⟨ix, row, atId, _, same⟩
    rcases consistent.placeOf layout atId with ⟨index, indexed⟩
    rw [← same]
    simp [pointed, indexed]

theorem names : Names state.mapAddr state.restore.mapInfo := by
  intro host nodeId
  have rows : (state.rowPairs.map fun pair => pair.2) = state.entries :=
    List.map_snd_zip (Nat.le_of_eq layout.parallel.symm)
  have hosts : (state.rowPairs.map fun pair => pair.2.peerInfo.host).Nodup := by
    have apart := consistent.hosts
    rw [← rows, List.map_map] at apart
    exact apart
  rw [mapAddr_lookup hosts, Option.map_eq_some_iff]
  constructor
  · rintro ⟨row, member, same⟩
    rcases mem_rowPairs.mp member with ⟨ix, atId, atEntry⟩
    refine ⟨_, restore_row layout consistent.distinct consistent.once atId atEntry, ?_⟩
    rw [(pointed_fields state nodeId row).1]
    exact same
  · rintro ⟨written, found, same⟩
    rcases (restore_lookup layout consistent.distinct consistent.once nodeId written).mp found with
      ⟨ix, row, atId, atEntry, placed⟩
    refine ⟨row, mem_rowPairs.mpr ⟨ix, atId, atEntry⟩, ?_⟩
    rw [← placed, (pointed_fields state nodeId row).1] at same
    exact same

theorem newTable : NewTable sha256 state.key state.newMatrix
    state.restore.usedNewMatrixPositions state.restore.mapInfo where
  proper := by
    intro nodeId written found
    rcases (restore_lookup layout consistent.distinct consistent.once nodeId written).mp found with
      ⟨ix, _, atId, _⟩
    exact consistent.proper nodeId (List.mem_of_getElem? atId)
  cell := by
    intro slot full
    rcases layout.cellOfIndex_full (fun _ => layout.newTable.cellIndex_lt) full with
      ⟨ix, nodeId, indexed, atId, holds⟩
    rcases consistent.newCell slot ix indexed with ⟨row, atEntry, isNew, position⟩
    rcases pointed_fields state nodeId row with ⟨samePeer, sameTried, _⟩
    refine ⟨pointed state nodeId row, ?_, sameTried.trans isNew, ?_⟩
    · have atNode : nodeOf (state.newMatrix slot) = nodeId := nodeOf_eq.mpr holds
      rw [atNode]
      exact restore_row layout consistent.distinct consistent.once atId atEntry
    · rw [bucketPosition_congr sha256 samePeer]
      exact position
  refs := by
    intro nodeId written found
    rcases (restore_lookup layout consistent.distinct consistent.once nodeId written).mp found with
      ⟨ix, row, atId, atEntry, same⟩
    rw [← same, (pointed_fields state nodeId row).2.2, (consistent.refs ix row atEntry).1]
    apply occurrences_congr
    exact fun slot => (layout.newMatrix_eq consistent.distinct consistent.proper atId slot).symm
  limit := by
    intro nodeId written found
    rcases (restore_lookup layout consistent.distinct consistent.once nodeId written).mp found with
      ⟨ix, row, _, atEntry, same⟩
    rw [← same, (pointed_fields state nodeId row).2.2]
    exact (consistent.refs ix row atEntry).2
  used := restore_usedNew

theorem triedTable : TriedTable sha256 state.key state.triedMatrix
    state.restore.usedTriedMatrixPositions state.restore.mapInfo where
  cell := by
    intro slot full
    rcases layout.cellOfIndex_full (fun _ => layout.triedTable.cellIndex_lt) full with
      ⟨ix, nodeId, indexed, atId, holds⟩
    rcases consistent.triedCell slot ix indexed with ⟨row, atEntry, tried, seat⟩
    rcases pointed_fields state nodeId row with ⟨samePeer, sameTried, _⟩
    refine ⟨pointed state nodeId row, ?_, sameTried.trans tried, ?_⟩
    · have atNode : nodeOf (state.triedMatrix slot) = nodeId := nodeOf_eq.mpr holds
      rw [atNode]
      exact restore_row layout consistent.distinct consistent.once atId atEntry
    · rw [triedSlot_congr sha256 samePeer]
      exact seat
  seated := by
    intro nodeId written found tried
    rcases (restore_lookup layout consistent.distinct consistent.once nodeId written).mp found with
      ⟨ix, row, atId, atEntry, same⟩
    rcases pointed_fields state nodeId row with ⟨samePeer, sameTried, _⟩
    rw [← same] at tried ⊢
    rw [triedSlot_congr sha256 samePeer,
      layout.triedMatrix_eq consistent.distinct consistent.proper atId]
    exact consistent.seated ix row atEntry (sameTried.symm.trans tried)
  used := restore_usedTried

/-- A snapshot with rows restores to rows. -/
theorem populated (allocated : state.idCount ≠ 0) :
    exists nodeId row, state.restore.mapInfo.lookup nodeId = some row := by
  cases listed : state.entries with
  | nil => exact absurd (layout.empty listed).2.1 allocated
  | cons row rows =>
      have atEntry : state.entries[0]? = some row := by
        rw [listed]
        rfl
      rcases layout.idAt (List.getElem?_eq_some_iff.mp atEntry).1 with ⟨nodeId, atId⟩
      exact ⟨nodeId, _, restore_row layout consistent.distinct consistent.once atId atEntry⟩

theorem inv : Inv sha256 state.restore where
  core := {
    names := consistent.names layout
    allocated := by
      intro nodeId written found
      rcases (restore_lookup layout consistent.distinct consistent.once nodeId written).mp found with
        ⟨ix, _, atId, _⟩
      exact consistent.allocated nodeId (List.mem_of_getElem? atId)
    room := consistent.room
    ordered := consistent.ordered layout
    newCount := consistent.newCount.trans (restore_count layout consistent.distinct
      consistent.once (fun row => !row.isTried) fun _ => rfl).symm
    triedCount := consistent.triedCount.trans (restore_count layout consistent.distinct
      consistent.once (fun row => row.isTried) fun _ => rfl).symm
    newTable := consistent.newTable layout
    triedTable := consistent.triedTable layout }
  rooted := by
    intro nodeId written found isNew
    rcases (restore_lookup layout consistent.distinct consistent.once nodeId written).mp found with
      ⟨ix, row, _, atEntry, same⟩
    rcases pointed_fields state nodeId row with ⟨_, sameTried, sameRefs⟩
    rw [← same] at isNew ⊢
    rw [sameRefs]
    exact Or.inl (consistent.rooted row (List.mem_of_getElem? atEntry) (sameTried.symm.trans isNew))
  populated := consistent.populated layout

end Consistent

/-! ## Sound restorations come from consistent snapshots -/

section Sound

variable (layout : Layout state) (distinct : state.nodeIds.Nodup)
  (inv : Inv sha256 state.restore)

include layout distinct inv

theorem proper_of_inv : ∀ nodeId ∈ state.nodeIds, cellOf nodeId ≠ emptyCell := by
  intro nodeId member
  rcases List.mem_iff_getElem?.mp member with ⟨ix, atId⟩
  rcases layout.entryAt atId with ⟨row, atEntry⟩
  exact inv.core.proper (restore_row layout distinct inv.core.ordered.linked.nodup atId atEntry)

theorem hosts_of_inv : (state.entries.map fun row => row.peerInfo.host).Nodup := by
  have rows : (state.rowPairs.map fun pair => pair.2) = state.entries :=
    List.map_snd_zip (Nat.le_of_eq layout.parallel.symm)
  have named : ∀ pair ∈ state.rowPairs,
      state.mapAddr.lookup pair.2.peerInfo.host = some pair.1 := by
    rintro ⟨nodeId, row⟩ member
    rcases mem_rowPairs.mp member with ⟨ix, atId, atEntry⟩
    have found := restore_row layout distinct inv.core.ordered.linked.nodup atId atEntry
    apply (inv.core.names _ _).mpr
    rw [found, Option.map_some, (pointed_fields state nodeId row).1]
  rw [← rows, List.map_map]
  exact hosts_nodup layout distinct named

theorem order_of_inv : state.randomPos.Perm (List.range state.entries.length) := by
  have inside : ∀ ix ∈ state.randomPos, (state.nodeIds[ix]?).isSome := by
    intro ix member
    rcases layout.idAt (layout.order ix member) with ⟨nodeId, atId⟩
    rw [atId]
    rfl
  have listed : state.randomPos.map (fun ix => state.nodeIds[ix]?) =
      (state.idsAt state.randomPos).map some := by
    apply List.ext_getElem?
    intro place
    rw [List.getElem?_map, List.getElem?_map]
    unfold AddressManagerState.idsAt
    rw [(getElem?_filterMap inside).2]
    cases atPlace : state.randomPos[place]? with
    | none => rfl
    | some ix =>
        rcases Option.isSome_iff_exists.mp (inside ix (List.mem_of_getElem? atPlace)) with
          ⟨nodeId, atId⟩
        simp [atId]
  have once : state.randomPos.Nodup := by
    apply List.Nodup.of_map fun ix => state.nodeIds[ix]?
    rw [listed]
    exact inv.core.ordered.linked.nodup.map (Option.some_injective NodeId)
  refine (List.perm_ext_iff_of_nodup once List.nodup_range).mpr fun ix => ?_
  rw [List.mem_range]
  constructor
  · exact layout.order ix
  · intro below
    rcases layout.idAt below with ⟨nodeId, atId⟩
    rcases layout.entryAt atId with ⟨row, atEntry⟩
    have found := restore_row layout distinct inv.core.ordered.linked.nodup atId atEntry
    rcases inv.core.ordered.index found with ⟨place, _, here⟩
    rcases mem_idsAt.mp (List.mem_of_getElem? here) with ⟨other, member, atOther⟩
    have same : other = ix :=
      (List.getElem?_inj (List.getElem?_eq_some_iff.mp atOther).1 distinct).mp
        (atOther.trans atId.symm)
    exact same ▸ member

theorem consistent_of_inv : Consistent sha256 state := by
  have once : (state.idsAt state.randomPos).Nodup := inv.core.ordered.linked.nodup
  have proper := proper_of_inv layout distinct inv
  have found {ix : Nat} {nodeId : NodeId} {row : ExtendedPeerInfo}
      (atId : state.nodeIds[ix]? = some nodeId) (atEntry : state.entries[ix]? = some row) :=
    restore_row layout distinct once atId atEntry
  have idOf {ix : Nat} {row : ExtendedPeerInfo} (atEntry : state.entries[ix]? = some row) :
      exists nodeId, state.nodeIds[ix]? = some nodeId :=
    layout.idAt (List.getElem?_eq_some_iff.mp atEntry).1
  refine {
    distinct := distinct
    allocated := ?_
    room := inv.core.room
    hosts := hosts_of_inv layout distinct inv
    order := order_of_inv layout distinct inv
    newCount := inv.core.newCount.trans
      (restore_count layout distinct once (fun row => !row.isTried) fun _ => rfl)
    triedCount := inv.core.triedCount.trans
      (restore_count layout distinct once (fun row => row.isTried) fun _ => rfl)
    newCell := ?_
    refs := ?_
    rooted := ?_
    triedCell := ?_
    seated := ?_ }
  · intro nodeId member
    rcases List.mem_iff_getElem?.mp member with ⟨ix, atId⟩
    rcases layout.entryAt atId with ⟨row, atEntry⟩
    exact inv.core.allocated nodeId _ (found atId atEntry)
  · intro slot ix indexed
    rcases layout.idAt (layout.newTable.cellIndex_lt indexed) with ⟨nodeId, atId⟩
    rcases layout.entryAt atId with ⟨row, atEntry⟩
    have holds := (layout.newMatrix_eq distinct proper atId slot).mpr indexed
    rcases inv.core.newTable.position (found atId atEntry) holds with ⟨isNew, position⟩
    rcases pointed_fields state nodeId row with ⟨samePeer, sameTried, _⟩
    rw [bucketPosition_congr sha256 samePeer] at position
    exact ⟨row, atEntry, sameTried.symm.trans isNew, position⟩
  · intro ix row atEntry
    rcases idOf atEntry with ⟨nodeId, atId⟩
    have counted := inv.core.newTable.refs nodeId _ (found atId atEntry)
    have limited := inv.core.newTable.limit nodeId _ (found atId atEntry)
    rw [(pointed_fields state nodeId row).2.2] at counted limited
    refine ⟨counted.trans (occurrences_congr fun slot => ?_), limited⟩
    exact layout.newMatrix_eq distinct proper atId slot
  · intro row member isNew
    rcases List.mem_iff_getElem?.mp member with ⟨ix, atEntry⟩
    rcases idOf atEntry with ⟨nodeId, atId⟩
    rcases pointed_fields state nodeId row with ⟨_, sameTried, sameRefs⟩
    have some := inv.rooted nodeId _ (found atId atEntry) (sameTried.trans isNew)
    rw [sameRefs] at some
    exact some.resolve_right id
  · intro slot ix indexed
    rcases layout.idAt (layout.triedTable.cellIndex_lt indexed) with ⟨nodeId, atId⟩
    rcases layout.entryAt atId with ⟨row, atEntry⟩
    have holds := (layout.triedMatrix_eq distinct proper atId slot).mpr indexed
    rcases inv.core.triedTable.occupant holds (inv.core.proper (found atId atEntry)) with
      ⟨other, present, tried, seat⟩
    rw [found atId atEntry] at present
    rcases pointed_fields state nodeId row with ⟨samePeer, sameTried, _⟩
    rw [← Option.some.inj present] at tried seat
    rw [triedSlot_congr sha256 samePeer] at seat
    exact ⟨row, atEntry, sameTried.symm.trans tried, seat⟩
  · intro ix row atEntry tried
    rcases idOf atEntry with ⟨nodeId, atId⟩
    rcases pointed_fields state nodeId row with ⟨samePeer, sameTried, _⟩
    have seated := inv.core.triedTable.seated nodeId _ (found atId atEntry) (sameTried.trans tried)
    rw [triedSlot_congr sha256 samePeer] at seated
    exact (layout.triedMatrix_eq distinct proper atId _).mp seated

end Sound

/-! ## Later operations -/

/-- The conditions under which an operation cannot panic on a sound state. -/
def stepSafe (sha256 : Digest) (s : Inner) (op : Operation) : Bool :=
  evictionSafe sha256 s op && roomFor sha256 s op && snapshotSafe s op

theorem step_total {s : Inner} (inv : Inv sha256 s) (op : Operation)
    (safe : stepSafe sha256 s op = true) : exists t, step sha256 s op = some t ∧ Inv sha256 t := by
  unfold stepSafe at safe
  rw [Bool.and_eq_true, Bool.and_eq_true] at safe
  rcases safe with ⟨⟨eviction, room⟩, snapshot⟩
  rcases step_spec inv op eviction room with stepped | isSave
  · exact stepped
  · subst isSave
    rcases snapshot_exists inv snapshot with ⟨taken, frozen, _⟩
    exact ⟨s, by simp only [step, frozen, Option.map_some], inv⟩

/-- Every beginning of a run that meets the conditions ends in a sound state. -/
theorem run_take_total {ops : List Operation} {s : Inner} (inv : Inv sha256 s)
    (safe : along sha256 (stepSafe sha256) ops s = true) (count : Nat) :
    exists t, run sha256 (ops.take count) s = some t ∧ Inv sha256 t := by
  induction ops generalizing s count with
  | nil => exact ⟨s, by rw [List.take_nil]; rfl, inv⟩
  | cons op ops ih =>
      cases count with
      | zero => exact ⟨s, rfl, inv⟩
      | succ count =>
          have here : stepSafe sha256 s op = true := by
            unfold along at safe
            exact (Bool.and_eq_true _ _ ▸ safe).1
          rcases step_total inv op here with ⟨t, stepped, tInv⟩
          rcases ih tInv (along_cons safe stepped).2 count with ⟨u, reached, uInv⟩
          refine ⟨u, ?_, uInv⟩
          unfold run
          rw [List.take_succ_cons, List.foldlM_cons, stepped]
          exact reached

/-- The snapshot's ids are distinct, what is built from it is sound, and the run
does not panic and goes through sound states only. -/
structure SafeToRun (sha256 : Digest) (state : AddressManagerState) (s : Inner)
    (ops : List Operation) : Prop where
  distinct : state.nodeIds.Nodup
  sound : Inv sha256 s
  runs : forall count, exists t, run sha256 (ops.take count) s = some t ∧ Inv sha256 t

/-- A manager built from an accepted snapshot is safe to run on only if the snapshot
is consistent.  If it is, every run is safe whose promotions lose no place, whose
additions find room in the allocator, and whose saves find every pending collision
with its row. -/
theorem accepted_safe_along (sha256 : Digest) (state : AddressManagerState) (s : Inner)
    (accepted : state.fromAddressManagerState = .ok s) (ops : List Operation) :
    (SafeToRun sha256 state s ops -> Consistent sha256 state) ∧
      (Consistent sha256 state -> along sha256 (stepSafe sha256) ops s = true ->
        SafeToRun sha256 state s ops) := by
  unfold AddressManagerState.fromAddressManagerState at accepted
  cases checked : validateSnapshot state with
  | error failure =>
      rw [checked] at accepted
      cases accepted
  | ok =>
      rw [checked] at accepted
      cases accepted
      have layout := validateSnapshot_ok.mp checked
      constructor
      · intro safe
        exact consistent_of_inv layout safe.distinct safe.sound
      · intro consistent met
        have inv := consistent.inv layout
        exact ⟨consistent.distinct, inv, run_take_total inv met⟩

namespace Example

/-- Another address is learned and promoted. -/
def laterRun : List Operation := [offer "b" 2 "1.0.0.1", .markGood (source "b") true 2 0]

end Example

open Example in
theorem accepted_safe_along_promoting :
    exists state s, state.fromAddressManagerState = .ok s ∧
      SafeToRun firstByteDigest state s laterRun := by
  have checked : (run firstByteDigest promotingRun (Inner.new zeroKey)).any
      (fun s => decide (s.idCount.toNat < u32Max ∧ collisionsKnown s = true ∧
        along firstByteDigest (stepSafe firstByteDigest) laterRun s = true)) = true := by
    decide +kernel
  rcases (Option.any_eq_true _ _).mp checked with ⟨s, reached, facts⟩
  rcases of_decide_eq_true facts with ⟨room, known, met⟩
  have inv := run_inv promotingRun (inv_new firstByteDigest zeroKey) reached room (by decide +kernel)
  rcases snapshot_exists inv known with ⟨state, _, frozen⟩
  have layout := frozen.layout inv
  have accepted : state.fromAddressManagerState = .ok s := by
    unfold AddressManagerState.fromAddressManagerState
    rw [validateSnapshot_ok.mpr layout, frozen.restore inv]
  have consistent : Consistent firstByteDigest state :=
    consistent_of_inv layout frozen.distinct ((frozen.restore inv).symm ▸ inv)
  exact ⟨state, s, accepted,
    (accepted_safe_along firstByteDigest state s accepted laterRun).2 consistent met⟩

/-! ## An accepted snapshot that panics -/

namespace Example

/-- A row that claims a place past the end of the order. -/
def misplacedRow : ExtendedPeerInfo where
  peerInfo := source "a"
  timestamp := 0
  src := source "1.0.0.1"
  randomPos := some 7
  isTried := false
  refCount := 1
  lastSuccess := 0
  lastTry := 0
  numAttempts := 0
  lastCountAttempt := 0

/-- One row in every cell of the new table, and an order without it. -/
def misplacedSnapshot : AddressManagerState where
  version := addressManagerStateVersion
  key := zeroKey
  nodeIds := [1]
  entries := [misplacedRow]
  triedTable := List.replicate triedBucketCount (List.replicate bucketSize none)
  newTable := List.replicate newBucketCount (List.replicate bucketSize (some 0))
  randomPos := []
  lastGood := 1
  triedCollisionIndices := []
  allowPrivateSubnets := false
  idCount := 1
  triedCount := 0
  newCount := 1

theorem misplacedSnapshot_layout : Layout misplacedSnapshot where
  version := rfl
  parallel := rfl
  empty := fun none => by cases none
  triedTable := .replicate triedBucketCount fun ix filled => by cases filled
  newTable := .replicate newBucketCount fun ix filled => by
    cases filled
    exact Nat.zero_lt_one
  order := fun _ member => by cases member
  collisions := fun _ member => by cases member

theorem misplacedSnapshot_cell (slot : NewSlot) : misplacedSnapshot.newMatrix slot = cellOf 1 := by
  have indexed : AddressManagerState.cellIndex misplacedSnapshot.newTable slot.1 slot.2 = some 0 := by
    simp [AddressManagerState.cellIndex, misplacedSnapshot]
  unfold AddressManagerState.newMatrix AddressManagerState.cellOfIndex
  rw [indexed]
  rfl

theorem misplacedSnapshot_row (nodeId : NodeId) :
    misplacedSnapshot.restore.mapInfo.lookup nodeId =
      if nodeId = 1 then some misplacedRow else none := by
  show ((∅ : Rows).insert 1 misplacedRow).lookup nodeId = _
  rw [FiniteMap.lookup_insert_eq, Finmap.lookup_empty]

/-- Clearing a cell that holds the row's only reference panics. -/
theorem clearNew_misplaced {s : Inner} {slot : NewSlot} (holds : s.newMatrix slot = cellOf 1)
    (found : s.mapInfo.lookup 1 = some misplacedRow) (order : s.randomPos = [2]) :
    s.clearNew slot = none := by
  have full : cellOf 1 ≠ emptyCell := by decide
  unfold Inner.clearNew
  rw [holds, if_neg full, nodeOf_cellOf]
  simp only [found]
  show Inner.deleteNewEntry _ 1 = none
  unfold Inner.deleteNewEntry
  simp [Inner.setRow, Inner.setNewMatrix, misplacedRow, order, checkedSub, Inner.swapRandom]

/-- Learning one more address clears some cell, so it panics. -/
theorem addOne_misplaced (sha256 : Digest) :
    misplacedSnapshot.restore.addOne sha256 { host := "b", port := 1, timestamp := 5 }
      (source "2.0.0.1") 0 { now := 1000, draw := 0, nowAgain := 1000 } = none := by
  have isPublic : hostIsPrivate "b" = false := by decide +kernel
  have unknown : misplacedSnapshot.restore.find (source "b") = (none, none) := by
    apply find_unknown
    show ((∅ : FiniteMap String NodeId).insert "a" 1).lookup "b" = none
    rw [FiniteMap.lookup_insert_eq, if_neg (by decide), Finmap.lookup_empty]
  obtain ⟨s, inserted, found, order, cells, fresh⟩ : exists s,
      misplacedSnapshot.restore.insertRow { host := "b", port := 1, timestamp := 5 }
        (source "2.0.0.1") 0 = some (s, 2) ∧ s.mapInfo.lookup 1 = some misplacedRow ∧
      s.randomPos = [2] ∧ s.newMatrix = misplacedSnapshot.newMatrix ∧
      (s.mapInfo.lookup 2).isSome := by
    refine ⟨_, rfl, ?_, rfl, rfl, ?_⟩
    · show (FiniteMap.adjust (misplacedSnapshot.restore.mapInfo.insert 2 _) 2 _).lookup 1 = _
      rw [FiniteMap.lookup_adjust_eq, if_neg (by decide), FiniteMap.lookup_insert_eq,
        if_neg (by decide), misplacedSnapshot_row, if_pos rfl]
    · show ((FiniteMap.adjust (misplacedSnapshot.restore.mapInfo.insert 2 _) 2 _).lookup 2).isSome
      rw [FiniteMap.lookup_adjust_eq, if_pos rfl, FiniteMap.lookup_insert_eq, if_pos rfl]
      rfl
  rcases Option.isSome_iff_exists.mp fresh with ⟨row, fresh⟩
  have offered : s.offerCell sha256 2 (source "2.0.0.1") 1000 = none := by
    have full : cellOf 1 ≠ emptyCell := by decide
    have other : cellOf 1 ≠ cellOf 2 := by decide
    have terrible : misplacedRow.isTerrible 1000 = true := by decide
    have holds (slot : NewSlot) : s.newMatrix slot = cellOf 1 := by
      rw [cells, misplacedSnapshot_cell]
    have occupant (slot : NewSlot) : nodeOf (s.newMatrix slot) = 1 := by
      rw [holds, nodeOf_cellOf]
    unfold Inner.offerCell
    simp only [fresh, holds, if_neg full, if_neg other]
    rw [occupant, found]
    simp only [terrible, true_or, if_true, clearNew_misplaced (holds _) found order,
      Option.bind_eq_bind, Option.bind_none]
  unfold Inner.addOne
  rw [isPublic]
  simp only [source] at unknown inserted offered
  simp only [Bool.false_and, Bool.false_eq_true, if_false, unknown, source, inserted,
    Option.bind_eq_bind, Option.bind_some, offered]

end Example

open Example in
/-- No digest makes every accepted snapshot safe to run on: the misplaced row
breaks the invariant, and the next new address panics. -/
theorem accepted_safe_fails :
    ¬ exists sha256 : Digest, forall (state : AddressManagerState) (s : Inner),
      state.fromAddressManagerState = .ok s ->
        Inv sha256 s ∧ forall ops, exists t, run sha256 ops s = some t := by
  rintro ⟨sha256, claim⟩
  have accepted : misplacedSnapshot.fromAddressManagerState = .ok misplacedSnapshot.restore := by
    unfold AddressManagerState.fromAddressManagerState
    rw [validateSnapshot_ok.mpr misplacedSnapshot_layout]
  have added := addOne_misplaced sha256
  have panics : step sha256 misplacedSnapshot.restore (offer "b" 5 "2.0.0.1") = none := by
    show (misplacedSnapshot.restore.addOne sha256 _ _ _ _).bind _ = none
    rw [added, Option.bind_none]
  rcases (claim misplacedSnapshot _ accepted).2 [offer "b" 5 "2.0.0.1"] with ⟨t, reached⟩
  unfold run at reached
  rw [List.foldlM_cons, panics] at reached
  cases reached

end Discovery
end DigGossip
