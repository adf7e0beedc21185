import DigGossip.Discovery.Representation

namespace DigGossip
namespace Discovery

open Foundations DigGossip.Types

/-!
# Snapshots lose nothing

A snapshot of a well represented state replaces ids by indices in the sorted
list of ids, so reading it back restores the state exactly, ids included.  The
one structure the invariant does not cover is the queue of pending tried
collisions: an id stays queued when its row is deleted, and then the snapshot
panics.
-/

/-! ## The layout check -/

/-- A sequence of checks passes when each of them does. -/
theorem bind_ok {first : Except GossipError Unit} {rest : Unit -> Except GossipError Unit} :
    (first >>= rest) = .ok () ↔ first = .ok () ∧ rest () = .ok () := by
  cases first with
  | error failure => simp [bind, Except.bind]
  | ok a => simp [bind, Except.bind]

theorem ensure_ok {check : Bool} {message : String} : ensure check message = .ok () ↔ check = true := by
  unfold ensure
  cases check <;> simp

theorem forM_ok {A : Type} {check : A -> Except GossipError Unit} {items : List A} :
    items.forM check = .ok () ↔ ∀ item ∈ items, check item = .ok () := by
  induction items with
  | nil => simp [List.forM, pure, Except.pure]
  | cons item items ih =>
      show (check item >>= fun _ => items.forM check) = .ok () ↔ _
      rw [bind_ok, List.forall_mem_cons, ih]

structure TableLayout (buckets entries : Nat) (table : List (List (Option Nat))) : Prop where
  buckets : table.length = buckets
  width : ∀ row ∈ table, row.length = bucketSize
  inRange : ∀ row ∈ table, forall ix, some ix ∈ row -> ix < entries

/-- A table with one cell throughout is laid out well if the cell is. -/
theorem TableLayout.replicate (buckets : Nat) {entries : Nat} {cell : Option Nat}
    (inRange : forall ix, some ix = cell -> ix < entries) :
    TableLayout buckets entries (List.replicate buckets (List.replicate bucketSize cell)) where
  buckets := List.length_replicate
  width := by
    intro row member
    rw [List.eq_of_mem_replicate member]
    exact List.length_replicate
  inRange := by
    intro row member ix listed
    rw [List.eq_of_mem_replicate member] at listed
    exact inRange ix (List.eq_of_mem_replicate listed)

/-- What the layout check establishes: shapes and ranges, field by field. -/
structure Layout (state : AddressManagerState) : Prop where
  version : state.version = addressManagerStateVersion
  parallel : state.nodeIds.length = state.entries.length
  empty : state.entries = [] -> (state.nodeIds = [] ∧ state.randomPos = []) ∧
    state.idCount = 0 ∧ state.triedCount = 0 ∧ state.newCount = 0
  triedTable : TableLayout triedBucketCount state.entries.length state.triedTable
  newTable : TableLayout newBucketCount state.entries.length state.newTable
  order : ∀ ix ∈ state.randomPos, ix < state.entries.length
  collisions : ∀ ix ∈ state.triedCollisionIndices, ix < state.entries.length

theorem validateVersion_ok {version : Nat} :
    validateVersion version = .ok () ↔ version = addressManagerStateVersion := by
  unfold validateVersion
  by_cases same : version = addressManagerStateVersion
  · simp [same]
  · rw [if_neg same]
    by_cases newer : addressManagerStateVersion < version
    · simp [newer, same]
    · simp [newer, same]

theorem validateEmpty_ok {state : AddressManagerState} :
    validateEmpty state = .ok () ↔ (state.entries = [] ->
      (state.nodeIds = [] ∧ state.randomPos = []) ∧
        state.idCount = 0 ∧ state.triedCount = 0 ∧ state.newCount = 0) := by
  unfold validateEmpty
  by_cases none : state.entries = []
  · rw [if_pos none, bind_ok, ensure_ok, ensure_ok, decide_eq_true_eq, decide_eq_true_eq]
    exact ⟨fun both _ => both, fun both => both none⟩
  · simp [none]

theorem validateTable_ok {name : String} {buckets entries : Nat}
    {table : List (List (Option Nat))} :
    validateTable name buckets entries table = .ok () ↔ TableLayout buckets entries table := by
  have cell (ix : Option Nat) :
      validateCell name entries ix = .ok () ↔ forall place, ix = some place -> place < entries := by
    cases ix with
    | none => simp [validateCell]
    | some place => simp [validateCell, ensure_ok]
  have row (row : List (Option Nat)) : validateRow name entries row = .ok () ↔
      row.length = bucketSize ∧ forall ix, some ix ∈ row -> ix < entries := by
    unfold validateRow
    simp only [bind_ok, ensure_ok, decide_eq_true_eq, forM_ok, cell]
    constructor
    · rintro ⟨width, inRange⟩
      exact ⟨width, fun ix member => inRange _ member ix rfl⟩
    · rintro ⟨width, inRange⟩
      exact ⟨width, fun cell member place same => inRange place (same ▸ member)⟩
  unfold validateTable
  simp only [bind_ok, ensure_ok, decide_eq_true_eq, forM_ok, row]
  constructor
  · rintro ⟨buckets, rows⟩
    exact ⟨buckets, fun row member => (rows row member).1, fun row member => (rows row member).2⟩
  · rintro ⟨buckets, width, inRange⟩
    exact ⟨buckets, fun row member => ⟨width row member, inRange row member⟩⟩

theorem validateSnapshot_ok {state : AddressManagerState} :
    validateSnapshot state = .ok () ↔ Layout state := by
  unfold validateSnapshot
  simp only [bind_ok, ensure_ok, decide_eq_true_eq, forM_ok, validateVersion_ok, validateEmpty_ok,
    validateTable_ok]
  constructor
  · rintro ⟨version, parallel, empty, tried, new, order, collisions⟩
    exact ⟨version, parallel, empty, tried, new, order, collisions⟩
  · rintro ⟨version, parallel, empty, tried, new, order, collisions⟩
    exact ⟨version, parallel, empty, tried, new, order, collisions⟩

/-! ## Indices of ids -/

variable {sha256 : Digest} {s : Inner}

theorem mem_sortedIds {nodeId : NodeId} : nodeId ∈ s.sortedIds ↔ nodeId ∈ s.mapInfo := by
  unfold Inner.sortedIds
  rw [Finset.mem_sort, Finmap.mem_keys]

theorem sortedIds_nodup : s.sortedIds.Nodup :=
  Finset.sort_nodup _ _

theorem snapshotIndex_isSome {nodeId : NodeId} :
    (s.snapshotIndex nodeId).isSome ↔ nodeId ∈ s.mapInfo := by
  unfold Inner.snapshotIndex
  rw [List.isSome_idxOf?, mem_sortedIds]

/-- The index of an id leads back to the id. -/
theorem snapshotIndex_eq {nodeId : NodeId} {ix : Nat} (indexed : s.snapshotIndex nodeId = some ix) :
    s.sortedIds[ix]? = some nodeId := by
  rcases List.idxOf?_eq_some_iff.mp indexed with ⟨inside, here, _⟩
  rw [List.getElem?_eq_getElem inside, here]

/-! ## Freezing and thawing a bucket table -/

/-- A table whose cells name rows freezes cell by cell. -/
theorem snapshotTable_spec {buckets : Nat} {matrix : Fin buckets × Fin bucketSize -> Cell}
    (known : forall slot, matrix slot ≠ emptyCell -> nodeOf (matrix slot) ∈ s.mapInfo) :
    exists table, s.snapshotTable matrix = some table ∧
      TableLayout buckets s.sortedIds.length table ∧
      forall slot, AddressManagerState.cellIndex table slot.1 slot.2 =
        if matrix slot = emptyCell then none else s.snapshotIndex (nodeOf (matrix slot)) := by
  have cell (bucket : Fin buckets) (place : Fin bucketSize) :
      (if matrix (bucket, place) = emptyCell then some none
        else (s.snapshotIndex (nodeOf (matrix (bucket, place)))).map some).isSome := by
    by_cases vacant : matrix (bucket, place) = emptyCell
    · rw [if_pos vacant]
      rfl
    · rw [if_neg vacant, Option.isSome_map, snapshotIndex_isSome]
      exact known _ vacant
  rcases mapM_grid cell with ⟨table, frozen, tableLength, rowAt⟩
  have cells (slot : Fin buckets × Fin bucketSize) :
      AddressManagerState.cellIndex table slot.1 slot.2 =
        if matrix slot = emptyCell then none else s.snapshotIndex (nodeOf (matrix slot)) := by
    rcases rowAt slot.1 with ⟨entries, atBucket, _, atPlace⟩
    unfold AddressManagerState.cellIndex
    rw [atBucket, Option.bind_some, atPlace]
    by_cases vacant : matrix slot = emptyCell
    · rw [if_pos vacant, if_pos vacant]
      rfl
    · rw [if_neg vacant, if_neg vacant]
      cases s.snapshotIndex (nodeOf (matrix slot)) <;> rfl
  -- every row of the table is the row of some bucket
  have rowOf (entries : List (Option Nat)) (member : entries ∈ table) :
      exists bucket : Fin buckets, table[bucket.val]? = some entries ∧
        entries.length = bucketSize := by
    rcases List.mem_iff_getElem.mp member with ⟨index, inside, here⟩
    have entry := List.getElem?_eq_some_iff.mpr ⟨inside, here⟩
    rcases rowAt ⟨index, tableLength ▸ inside⟩ with ⟨found, atBucket, width, _⟩
    rw [entry] at atBucket
    cases atBucket
    exact ⟨⟨index, tableLength ▸ inside⟩, entry, width⟩
  refine ⟨table, frozen, ⟨tableLength, ?_, ?_⟩, cells⟩
  · intro entries member
    rcases rowOf entries member with ⟨_, _, width⟩
    exact width
  · intro entries member ix listed
    rcases rowOf entries member with ⟨bucket, here, width⟩
    rcases List.mem_iff_getElem.mp listed with ⟨index, inside, atIndex⟩
    have named := cells (bucket, ⟨index, width ▸ inside⟩)
    have atCell : AddressManagerState.cellIndex table bucket index = some ix := by
      unfold AddressManagerState.cellIndex
      rw [here, Option.bind_some, List.getElem?_eq_getElem inside, atIndex]
      rfl
    rw [atCell] at named
    split at named
    · cases named
    · have indexed := snapshotIndex_eq named.symm
      exact (List.getElem?_eq_some_iff.mp indexed).1

/-! ## Rows rebuilt from a snapshot -/

section Rebuilt

variable {state : AddressManagerState}

theorem mem_rowPairs {nodeId : NodeId} {row : ExtendedPeerInfo} :
    (nodeId, row) ∈ state.rowPairs ↔
      exists ix : Nat, state.nodeIds[ix]? = some nodeId ∧ state.entries[ix]? = some row := by
  unfold AddressManagerState.rowPairs
  rw [List.mem_iff_getElem?]
  apply exists_congr
  intro ix
  rw [List.getElem?_zip_eq_some]

/-- With distinct ids, the rebuilt rows are the entries under their ids. -/
theorem mapInfo_lookup (layout : Layout state) (distinct : state.nodeIds.Nodup) (nodeId : NodeId)
    (row : ExtendedPeerInfo) : state.mapInfo.lookup nodeId = some row ↔
      exists ix : Nat, state.nodeIds[ix]? = some nodeId ∧ state.entries[ix]? = some row := by
  have keys : state.rowPairs.map (fun pair => pair.1) = state.nodeIds :=
    List.map_fst_zip (Nat.le_of_eq layout.parallel)
  rw [← mem_rowPairs]
  constructor
  · intro present
    rcases List.mem_map.mp (exists_of_insertAll present) with ⟨pair, member, same⟩
    have kept := insertAll_of_mem (fun pair : NodeId × ExtendedPeerInfo => pair.1)
      (fun pair => pair.2) (keys ▸ distinct) member ∅
    rw [same] at kept
    have sameRow : pair.2 = row := Option.some.inj (kept.symm.trans present)
    rw [← same, ← sameRow]
    exact member
  · intro member
    exact insertAll_of_mem (fun pair : NodeId × ExtendedPeerInfo => pair.1)
      (fun pair => pair.2) (keys ▸ distinct) member ∅

/-- Ids that a host index tells apart have distinct hosts. -/
theorem hosts_nodup (layout : Layout state) (distinct : state.nodeIds.Nodup)
    {mapAddr : FiniteMap String NodeId}
    (named : ∀ pair ∈ state.rowPairs, mapAddr.lookup pair.2.peerInfo.host = some pair.1) :
    (state.rowPairs.map fun pair => pair.2.peerInfo.host).Nodup := by
  have keys : state.rowPairs.map (fun pair => pair.1) = state.nodeIds :=
    List.map_fst_zip (Nat.le_of_eq layout.parallel)
  have resolved : (state.rowPairs.map fun pair => pair.2.peerInfo.host).map mapAddr.lookup =
      state.nodeIds.map some := by
    rw [← keys, List.map_map, List.map_map]
    exact List.map_congr_left named
  apply List.Nodup.of_map mapAddr.lookup
  rw [resolved]
  exact distinct.map (Option.some_injective NodeId)

/-- With distinct hosts, the rebuilt host index leads to the ids of the entries. -/
theorem mapAddr_lookup (hosts : (state.rowPairs.map fun pair => pair.2.peerInfo.host).Nodup)
    (host : String) (nodeId : NodeId) : state.mapAddr.lookup host = some nodeId ↔
      exists row, (nodeId, row) ∈ state.rowPairs ∧ row.peerInfo.host = host := by
  have kept {pair : NodeId × ExtendedPeerInfo} (member : pair ∈ state.rowPairs) :
      state.mapAddr.lookup pair.2.peerInfo.host = some pair.1 :=
    insertAll_of_mem (fun pair : NodeId × ExtendedPeerInfo => pair.2.peerInfo.host)
      (fun pair => pair.1) hosts member ∅
  constructor
  · intro present
    rcases List.mem_map.mp (exists_of_insertAll present) with ⟨pair, member, same⟩
    have again := kept member
    rw [same, present] at again
    exact ⟨pair.2, Option.some.inj again ▸ member, same⟩
  · rintro ⟨row, member, rfl⟩
    exact kept member

/-- The pointer pass rewrites a listed row's place and nothing else. -/
theorem pointRows_lookup {order : List NodeId} (distinct : order.Nodup) (rows : Rows)
    (nodeId : NodeId) : (AddressManagerState.pointRows order rows).lookup nodeId =
      match order.idxOf? nodeId with
      | some place => (rows.lookup nodeId).map fun row => { row with randomPos := some place }
      | none => rows.lookup nodeId := by
  unfold AddressManagerState.pointRows
  rw [lookup_pointFrom _ distinct]
  cases order.idxOf? nodeId with
  | none => rfl
  | some place => simp only [Nat.zero_add]

theorem restore_usedNew (slot : NewSlot) :
    slot ∈ state.restore.usedNewMatrixPositions ↔ state.newMatrix slot ≠ emptyCell := by
  unfold AddressManagerState.restore
  simp only [Finset.mem_filter, Finset.mem_univ, true_and]

theorem restore_usedTried (slot : TriedSlot) :
    slot ∈ state.restore.usedTriedMatrixPositions ↔ state.triedMatrix slot ≠ emptyCell := by
  unfold AddressManagerState.restore
  simp only [Finset.mem_filter, Finset.mem_univ, true_and]

end Rebuilt

/-! ## The round trip -/

/-- Ids traded for indices and back. -/
theorem idsAt_of_mapM {ids : List NodeId} {indices : List Nat} {state : AddressManagerState}
    (same : state.nodeIds = s.sortedIds) (frozen : ids.mapM s.snapshotIndex = some indices) :
    state.idsAt indices = ids := by
  rcases getElem?_of_mapM frozen with ⟨_, entries⟩
  unfold AddressManagerState.idsAt
  rw [same]
  have inside : ∀ ix ∈ indices, (s.sortedIds[ix]?).isSome := by
    intro ix member
    rcases List.mem_iff_getElem?.mp member with ⟨place, atPlace⟩
    have entry := entries place
    rw [atPlace, Eq.comm, Option.bind_eq_some_iff] at entry
    rcases entry with ⟨nodeId, _, indexed⟩
    rw [snapshotIndex_eq indexed]
    rfl
  apply List.ext_getElem?
  intro place
  rw [(getElem?_filterMap inside).2, entries]
  cases atPlace : ids[place]? with
  | none => rfl
  | some nodeId =>
      have found := isSome_of_mapM frozen (List.mem_of_getElem? atPlace)
      rcases Option.isSome_iff_exists.mp found with ⟨ix, indexed⟩
      rw [Option.bind_some, indexed, Option.bind_some, snapshotIndex_eq indexed]

/-- In a well represented state the pointer pass finds every place as it is. -/
theorem pointRows_self (core : Core sha256 s) :
    AddressManagerState.pointRows s.randomPos s.mapInfo = s.mapInfo := by
  apply Finmap.ext_lookup
  intro nodeId
  rw [pointRows_lookup core.ordered.linked.nodup]
  cases found : s.mapInfo.lookup nodeId with
  | none => cases s.randomPos.idxOf? nodeId <;> rfl
  | some row =>
      rcases core.ordered.index found with ⟨place, points, here⟩
      rw [(idxOf?_eq_some_iff_of_nodup core.ordered.linked.nodup).mpr here]
      show some { row with randomPos := some place } = some row
      rw [← points]

/-- A frozen cell thaws to its content. -/
theorem thawed {state : AddressManagerState} (same : state.nodeIds = s.sortedIds) {cell : Cell}
    (known : cell ≠ emptyCell -> nodeOf cell ∈ s.mapInfo) :
    state.cellOfIndex (if cell = emptyCell then none else s.snapshotIndex (nodeOf cell)) = cell := by
  unfold AddressManagerState.cellOfIndex
  by_cases vacant : cell = emptyCell
  · rw [if_pos vacant, vacant]
    rfl
  · rcases Option.isSome_iff_exists.mp (snapshotIndex_isSome.mpr (known vacant)) with ⟨ix, indexed⟩
    rw [if_neg vacant, indexed, Option.bind_some, same, snapshotIndex_eq indexed]
    exact cellOf_nodeOf cell

/-- A snapshot field by field. -/
structure Frozen (s : Inner) (state : AddressManagerState) : Prop where
  version : state.version = addressManagerStateVersion
  key : state.key = s.key
  nodeIds : state.nodeIds = s.sortedIds
  entryCount : state.entries.length = s.sortedIds.length
  entryAt : forall ix : Nat, state.entries[ix]? = s.sortedIds[ix]?.bind s.mapInfo.lookup
  triedLayout : TableLayout triedBucketCount s.sortedIds.length state.triedTable
  triedCells : forall slot : TriedSlot,
    AddressManagerState.cellIndex state.triedTable slot.1 slot.2 =
      if s.triedMatrix slot = emptyCell then none else s.snapshotIndex (nodeOf (s.triedMatrix slot))
  newLayout : TableLayout newBucketCount s.sortedIds.length state.newTable
  newCells : forall slot : NewSlot,
    AddressManagerState.cellIndex state.newTable slot.1 slot.2 =
      if s.newMatrix slot = emptyCell then none else s.snapshotIndex (nodeOf (s.newMatrix slot))
  order : s.randomPos.mapM s.snapshotIndex = some state.randomPos
  pending : s.triedCollisions.mapM s.snapshotIndex = some state.triedCollisionIndices
  lastGood : state.lastGood = s.lastGood
  allowPrivateSubnets : state.allowPrivateSubnets = s.allowPrivateSubnets
  idCount : state.idCount = s.idCount
  triedCount : state.triedCount = s.triedCount
  newCount : state.newCount = s.newCount

theorem Core.newKnown (core : Core sha256 s) {slot : NewSlot}
    (full : s.newMatrix slot ≠ emptyCell) : nodeOf (s.newMatrix slot) ∈ s.mapInfo := by
  rcases core.newTable.cell slot full with ⟨row, found, _⟩
  exact FiniteMap.mem_of_lookup found

theorem Core.triedKnown (core : Core sha256 s) {slot : TriedSlot}
    (full : s.triedMatrix slot ≠ emptyCell) : nodeOf (s.triedMatrix slot) ∈ s.mapInfo := by
  rcases core.triedTable.cell slot full with ⟨row, found, _⟩
  exact FiniteMap.mem_of_lookup found

/-- A well represented state with known collisions has a snapshot. -/
theorem snapshot_exists (inv : Inv sha256 s) (known : collisionsKnown s = true) :
    exists state, s.toAddressManagerState = some state ∧ Frozen s state := by
  have orderKnown : ∀ nodeId ∈ s.randomPos, (s.snapshotIndex nodeId).isSome := by
    intro nodeId member
    rw [snapshotIndex_isSome]
    exact (inv.represents.order_mem nodeId).mp member
  have pendingKnown : ∀ nodeId ∈ s.triedCollisions, (s.snapshotIndex nodeId).isSome := by
    intro nodeId member
    rw [snapshotIndex_isSome, FiniteMap.mem_iff_isSome]
    exact List.all_eq_true.mp known nodeId member
  have rowsKnown : ∀ nodeId ∈ s.sortedIds, (s.mapInfo.lookup nodeId).isSome := by
    intro nodeId member
    exact Finmap.lookup_isSome.mpr (mem_sortedIds.mp member)
  rcases snapshotTable_spec fun _ => inv.core.triedKnown with
    ⟨triedTable, triedFrozen, triedLayout, triedCells⟩
  rcases snapshotTable_spec fun _ => inv.core.newKnown with
    ⟨newTable, newFrozen, newLayout, newCells⟩
  rcases mapM_succeeds orderKnown with ⟨order, orderFrozen⟩
  rcases mapM_succeeds pendingKnown with ⟨pending, pendingFrozen⟩
  rcases getElem?_filterMap rowsKnown with ⟨entryCount, entryAt⟩
  refine ⟨{
    version := addressManagerStateVersion, key := s.key, nodeIds := s.sortedIds
    entries := s.sortedIds.filterMap s.mapInfo.lookup, triedTable := triedTable
    newTable := newTable, randomPos := order, lastGood := s.lastGood
    triedCollisionIndices := pending, allowPrivateSubnets := s.allowPrivateSubnets
    idCount := s.idCount, triedCount := s.triedCount, newCount := s.newCount }, ?_, {
    version := rfl, key := rfl, nodeIds := rfl, entryCount := entryCount, entryAt := entryAt
    triedLayout := triedLayout, triedCells := triedCells, newLayout := newLayout
    newCells := newCells, order := orderFrozen, pending := pendingFrozen, lastGood := rfl
    allowPrivateSubnets := rfl, idCount := rfl, triedCount := rfl, newCount := rfl }⟩
  simp only [Inner.toAddressManagerState, triedFrozen, newFrozen, orderFrozen, pendingFrozen,
    Option.bind_eq_bind, Option.bind_some]

namespace Frozen

variable {state : AddressManagerState}

theorem inRange {ids : List NodeId} {indices : List Nat}
    (traversed : ids.mapM s.snapshotIndex = some indices) :
    ∀ ix ∈ indices, ix < s.sortedIds.length := by
  intro ix member
  rcases List.mem_iff_getElem?.mp member with ⟨place, atPlace⟩
  have entry := (getElem?_of_mapM traversed).2 place
  rw [atPlace, Eq.comm, Option.bind_eq_some_iff] at entry
  rcases entry with ⟨nodeId, _, indexed⟩
  exact (List.getElem?_eq_some_iff.mp (snapshotIndex_eq indexed)).1

/-- The scalar fields of a snapshot without rows are zero. -/
theorem empty (frozen : Frozen s state) (inv : Inv sha256 s) (none : state.entries = []) :
    (state.nodeIds = [] ∧ state.randomPos = []) ∧
      state.idCount = 0 ∧ state.triedCount = 0 ∧ state.newCount = 0 := by
  have noIds : s.sortedIds = [] := by
    rw [← List.length_eq_zero_iff, ← frozen.entryCount, none]
    rfl
  have noRow (nodeId : NodeId) : s.mapInfo.lookup nodeId = Option.none := by
    rw [Finmap.lookup_eq_none, ← mem_sortedIds, noIds]
    exact List.not_mem_nil
  have noCount (test : NodeId -> ExtendedPeerInfo -> Bool) :
      FiniteMap.countWhere s.mapInfo test = 0 := by
    rw [← FiniteMap.countWhere_empty test]
    apply FiniteMap.countWhere_congr
    intro nodeId
    rw [noRow, Finmap.lookup_empty]
  have noPlace : s.randomPos = [] := by
    rw [List.eq_nil_iff_forall_not_mem]
    intro nodeId member
    have found := (inv.represents.order_mem nodeId).mp member
    rw [FiniteMap.mem_iff_isSome, noRow] at found
    cases found
  refine ⟨⟨frozen.nodeIds.trans noIds, ?_⟩, ?_, ?_, ?_⟩
  · have order := frozen.order
    rw [noPlace, List.mapM_nil] at order
    exact (Option.some.inj order).symm
  · rw [frozen.idCount]
    by_contra allocated
    rcases inv.populated allocated with ⟨nodeId, row, found⟩
    rw [noRow] at found
    cases found
  · rw [frozen.triedCount]
    exact inv.core.triedCount.trans (noCount isTriedRow)
  · rw [frozen.newCount]
    exact inv.core.newCount.trans (noCount isNewRow)

theorem layout (frozen : Frozen s state) (inv : Inv sha256 s) : Layout state where
  version := frozen.version
  parallel := by
    rw [frozen.nodeIds, frozen.entryCount]
  empty := frozen.empty inv
  triedTable := frozen.entryCount ▸ frozen.triedLayout
  newTable := frozen.entryCount ▸ frozen.newLayout
  order := frozen.entryCount ▸ inRange frozen.order
  collisions := frozen.entryCount ▸ inRange frozen.pending

theorem distinct (frozen : Frozen s state) : state.nodeIds.Nodup :=
  frozen.nodeIds ▸ sortedIds_nodup

/-- The row at an index is the row of the id at that index. -/
theorem rowAt (frozen : Frozen s state) {nodeId : NodeId} {row : ExtendedPeerInfo} :
    (exists ix : Nat, state.nodeIds[ix]? = some nodeId ∧ state.entries[ix]? = some row) ↔
      s.mapInfo.lookup nodeId = some row := by
  rw [frozen.nodeIds]
  constructor
  · rintro ⟨ix, atId, atEntry⟩
    rw [frozen.entryAt, atId] at atEntry
    exact atEntry
  · intro found
    rcases Option.isSome_iff_exists.mp
      (snapshotIndex_isSome.mpr (FiniteMap.mem_of_lookup found)) with ⟨ix, indexed⟩
    have atId := snapshotIndex_eq indexed
    refine ⟨ix, atId, ?_⟩
    rw [frozen.entryAt, atId]
    exact found

theorem mapInfo (frozen : Frozen s state) (inv : Inv sha256 s) : state.mapInfo = s.mapInfo := by
  apply Finmap.ext_lookup
  intro nodeId
  apply Option.ext
  intro row
  rw [mapInfo_lookup (frozen.layout inv) frozen.distinct, frozen.rowAt]

theorem mapAddr (frozen : Frozen s state) (inv : Inv sha256 s) : state.mapAddr = s.mapAddr := by
  have core := inv.core
  have found {pair : NodeId × ExtendedPeerInfo} (member : pair ∈ state.rowPairs) :
      s.mapInfo.lookup pair.1 = some pair.2 :=
    frozen.rowAt.mp (mem_rowPairs.mp member)
  have named {pair : NodeId × ExtendedPeerInfo} (member : pair ∈ state.rowPairs) :
      s.mapAddr.lookup pair.2.peerInfo.host = some pair.1 := by
    rw [core.names, found member]
    rfl
  have hosts := hosts_nodup (frozen.layout inv) frozen.distinct fun _ member => named member
  apply Finmap.ext_lookup
  intro host
  apply Option.ext
  intro nodeId
  rw [mapAddr_lookup hosts, core.names, Option.map_eq_some_iff]
  apply exists_congr
  intro row
  rw [mem_rowPairs, frozen.rowAt]

/-- Thawing a snapshot gives the state it was taken of. -/
theorem restore (frozen : Frozen s state) (inv : Inv sha256 s) : state.restore = s := by
  have core := inv.core
  have order : state.idsAt state.randomPos = s.randomPos := idsAt_of_mapM frozen.nodeIds frozen.order
  have triedMatrix : state.triedMatrix = s.triedMatrix := by
    funext slot
    unfold AddressManagerState.triedMatrix
    rw [frozen.triedCells]
    exact thawed frozen.nodeIds core.triedKnown
  have newMatrix : state.newMatrix = s.newMatrix := by
    funext slot
    unfold AddressManagerState.newMatrix
    rw [frozen.newCells]
    exact thawed frozen.nodeIds core.newKnown
  refine Inner.ext frozen.key frozen.idCount triedMatrix newMatrix frozen.triedCount
    frozen.newCount (frozen.mapAddr inv) ?_ order frozen.lastGood
    (idsAt_of_mapM frozen.nodeIds frozen.pending) ?_ ?_ frozen.allowPrivateSubnets
  · show AddressManagerState.pointRows (state.idsAt state.randomPos) state.mapInfo = s.mapInfo
    rw [order, frozen.mapInfo inv]
    exact pointRows_self core
  · ext slot
    rw [restore_usedNew, core.newTable.used, newMatrix]
  · ext slot
    rw [restore_usedTried, core.triedTable.used, triedMatrix]

end Frozen

/-- A pending collision without row makes the snapshot panic. -/
theorem snapshot_panics (unknown : collisionsKnown s = false) : s.toAddressManagerState = none := by
  cases frozen : s.toAddressManagerState with
  | none => rfl
  | some state =>
      simp only [Inner.toAddressManagerState, Option.bind_eq_bind, Option.bind_eq_some_iff] at frozen
      rcases frozen with ⟨_, _, _, _, _, _, pending, traversed, _⟩
      have known : collisionsKnown s = true := by
        unfold collisionsKnown
        rw [List.all_eq_true]
        intro nodeId member
        rw [← FiniteMap.mem_iff_isSome, ← snapshotIndex_isSome]
        exact isSome_of_mapM traversed member
      rw [unknown] at known
      cases known

/-- In every run whose evictions lose no row's place, as long as the allocator
has ids left, a snapshot exists, passes the layout check and thaws to the same
state exactly when every pending tried collision names a row. -/
theorem snapshot_lossless_iff (sha256 : Digest) (key : Key) (ops : List Operation) (s : Inner)
    (reached : run sha256 ops (Inner.new key) = some s) (room : s.idCount.toNat < u32Max)
    (safe : along sha256 (evictionSafe sha256) ops (Inner.new key) = true) :
    (exists state, s.toAddressManagerState = some state ∧ validateSnapshot state = .ok () ∧
      state.fromAddressManagerState = .ok s) ↔ collisionsKnown s = true := by
  have inv := run_inv ops (inv_new sha256 key) reached room safe
  constructor
  · rintro ⟨state, frozen, _⟩
    cases known : collisionsKnown s with
    | true => rfl
    | false =>
        rw [snapshot_panics known] at frozen
        cases frozen
  · intro known
    rcases snapshot_exists inv known with ⟨state, taken, frozen⟩
    have accepted := validateSnapshot_ok.mpr (frozen.layout inv)
    refine ⟨state, taken, accepted, ?_⟩
    unfold AddressManagerState.fromAddressManagerState
    rw [accepted, frozen.restore inv]

open Example in
theorem snapshot_lossless_promoting :
    exists s state, run firstByteDigest promotingRun (Inner.new zeroKey) = some s ∧
      s.toAddressManagerState = some state ∧ state.fromAddressManagerState = .ok s := by
  have checked : (run firstByteDigest promotingRun (Inner.new zeroKey)).any
      (fun s => decide (s.idCount.toNat < u32Max ∧ collisionsKnown s = true)) = true := by
    decide +kernel
  rcases (Option.any_eq_true _ _).mp checked with ⟨s, reached, facts⟩
  rcases of_decide_eq_true facts with ⟨room, known⟩
  rcases (snapshot_lossless_iff firstByteDigest zeroKey promotingRun s
    reached room (by decide +kernel)).mpr known with ⟨state, taken, _, thawed⟩
  exact ⟨s, state, reached, taken, thawed⟩

open Example in
/-- A reachable state whose snapshot panics: a pending collision outlived its row. -/
theorem snapshot_total_fails :
    ¬ forall (sha256 : Digest) (key : Key) (ops : List Operation) (s : Inner),
      run sha256 ops (Inner.new key) = some s ->
        exists state, s.toAddressManagerState = some state ∧ validateSnapshot state = .ok () ∧
          state.fromAddressManagerState = .ok s := by
  intro claim
  have checked : (run firstByteDigest collidingRun (Inner.new zeroKey)).any
      (fun s => !collisionsKnown s) = true := by
    decide +kernel
  rcases (Option.any_eq_true _ _).mp checked with ⟨s, reached, unknown⟩
  rcases claim firstByteDigest zeroKey collidingRun s reached with ⟨state, taken, _⟩
  rw [snapshot_panics (by simpa using unknown)] at taken
  cases taken

end Discovery
end DigGossip
