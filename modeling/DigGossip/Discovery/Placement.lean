import DigGossip.Discovery.Invariant

namespace DigGossip
namespace Discovery

open Foundations DigGossip.Types

/-!
# Adding addresses

An added address gets a row, if its host has none, and competes for one cell
of the new table.  Between the two the row has no reference; afterwards it has
one or is gone.
-/

/-- The invariant between operations.  A book that allocated an id never loses
its last row again, because a row is only deleted in favour of another. -/
structure Inv (sha256 : Digest) (s : Inner) : Prop where
  core : Core sha256 s
  rooted : Rooted s nobody
  populated : s.idCount ≠ 0 -> exists nodeId row, s.mapInfo.lookup nodeId = some row

theorem inv_new (sha256 : Digest) (key : Key) : Inv sha256 (Inner.new key) where
  core := core_new sha256 key
  rooted := by
    intro nodeId row found
    simp [Inner.new] at found
  populated := fun allocated => absurd rfl allocated

theorem Inv.setRow {sha256 : Digest} {s : Inner} (inv : Inv sha256 s) {nodeId : NodeId}
    {row written : ExtendedPeerInfo} (found : s.mapInfo.lookup nodeId = some row)
    (same : structuralView written = structuralView row) :
    Inv sha256 (s.setRow nodeId written) where
  core := inv.core.setRow found same
  rooted := inv.rooted.setRow found same
  populated := fun _ => ⟨nodeId, written, Finmap.lookup_insert s.mapInfo⟩

/-- The lookup by address agrees with the host index. -/
theorem find_known {sha256 : Digest} {s : Inner} (core : Core sha256 s) {addr : PeerInfo}
    {nodeId : NodeId} (named : s.mapAddr.lookup addr.host = some nodeId) :
    exists row, s.find addr = (some nodeId, some row) ∧ s.mapInfo.lookup nodeId = some row ∧
      row.peerInfo.host = addr.host := by
  rcases core.rowOf named with ⟨row, found, host⟩
  refine ⟨row, ?_, found, host⟩
  simp only [Inner.find, named, found]

theorem find_unknown {s : Inner} {addr : PeerInfo} (unknown : s.mapAddr.lookup addr.host = none) :
    s.find addr = (none, none) := by
  simp only [Inner.find, unknown]

/-! ## Filling a cell -/

namespace Inner

/-- An empty new-table cell given to a row. -/
def placeAt (s : Inner) (slot : NewSlot) (nodeId : NodeId) (row : ExtendedPeerInfo) : Inner :=
  (s.setRow nodeId { row with refCount := row.refCount + 1 }).setNewMatrix slot (cellOf nodeId)

end Inner

theorem Core.placeAt {sha256 : Digest} {s : Inner} (core : Core sha256 s) {slot : NewSlot}
    {nodeId : NodeId} {row : ExtendedPeerInfo} (found : s.mapInfo.lookup nodeId = some row)
    (vacant : s.newMatrix slot = emptyCell) (isNew : row.isTried = false)
    (position : slot.2 = row.bucketPosition sha256 s.key true slot.1)
    (below : row.refCount < newBucketsPerAddress) : Core sha256 (s.placeAt slot nodeId row) := by
  refine {
    names := core.names.congr (map_lookup_insert found _ rfl)
    allocated := FiniteMap.forall_key_insert found core.allocated
    room := core.room
    ordered := core.ordered.congr (map_lookup_insert found _ rfl)
    newCount := core.newCount.trans (FiniteMap.countWhere_insert_of_same found (by rfl)).symm
    triedCount := core.triedCount.trans (FiniteMap.countWhere_insert_of_same found (by rfl)).symm
    newTable := ?_
    triedTable := core.triedTable.congr (map_lookup_insert found _ rfl) }
  · have placed := core.newTable.place found vacant isNew position below
    show NewTable _ _ _ (if cellOf nodeId = emptyCell then _ else _) _
    rw [if_neg (core.proper found)]
    exact placed

/-- The rows after a cell is filled: the one that got it has a reference. -/
theorem Rooted.placeAt {s : Inner} {loose others : NodeId -> Prop} (rooted : Rooted s loose)
    {slot : NewSlot} {nodeId : NodeId} {row : ExtendedPeerInfo}
    (only : forall other, loose other -> other ≠ nodeId -> others other) :
    Rooted (s.placeAt slot nodeId row) others := by
  intro other kept present isNew
  rcases FiniteMap.of_lookup_insert present with ⟨rfl, rfl⟩ | ⟨different, present⟩
  · exact Or.inl (Nat.succ_pos _)
  · rcases rooted other kept present isNew with counted | allowed
    · exact Or.inl counted
    · exact Or.inr (only other allowed different)

/-- Clearing a cell leaves the other rows' references alone. -/
theorem Rooted.cleared {s t : Inner} {slot : NewSlot} {loose : NodeId -> Prop}
    (rooted : Rooted s loose) (cleared : Cleared s slot t) : Rooted t loose := by
  intro nodeId row present isNew
  by_cases named : s.newMatrix slot = cellOf nodeId
  · exact Or.inl (cleared.rooted nodeId row named present)
  · rcases exists_of_map_eq (cleared.kept nodeId named) present with ⟨old, found, same⟩
    rcases unplaced_fields same with ⟨_, sameTried, sameRefs⟩
    rw [← sameRefs]
    exact rooted nodeId old found (sameTried.trans isNew)

/-- A row the cleared cell did not name is still there, in its place or moved. -/
theorem Cleared.row {s t : Inner} {slot : NewSlot} (cleared : Cleared s slot t) {nodeId : NodeId}
    {row : ExtendedPeerInfo} (found : s.mapInfo.lookup nodeId = some row)
    (unnamed : s.newMatrix slot ≠ cellOf nodeId) :
    exists moved, t.mapInfo.lookup nodeId = some moved ∧ unplaced moved = unplaced row :=
  exists_of_map_eq (cleared.kept nodeId unnamed).symm found

theorem Cleared.key {s t : Inner} {slot : NewSlot} (cleared : Cleared s slot t) : t.key = s.key := by
  rw [cleared.rest]

theorem Cleared.idCount {s t : Inner} {slot : NewSlot} (cleared : Cleared s slot t) :
    t.idCount = s.idCount := by
  rw [cleared.rest]

/-! ## Competing for a cell -/

variable {sha256 : Digest} {s : Inner}

theorem checkedAdd_eq {left right : Nat} (fits : left + right ≤ u32Max) :
    checkedAdd left right = some (left + right) :=
  if_pos fits

theorem checkedSub_eq {left right : Nat} (enough : right ≤ left) :
    checkedSub left right = some (left - right) :=
  if_pos enough

/-- The winning branch: the cell is cleared and given to the row. -/
theorem place_spec (core : Core sha256 s) {nodeId : NodeId} {row : ExtendedPeerInfo}
    (found : s.mapInfo.lookup nodeId = some row) (isNew : row.isTried = false)
    (below : row.refCount < newBucketsPerAddress) (rooted : Rooted s fun other => other = nodeId)
    {slot : NewSlot} (position : slot.2 = row.bucketPosition sha256 s.key true slot.1)
    (unnamed : s.newMatrix slot ≠ cellOf nodeId) :
    exists t, (do
        let s <- s.clearNew slot
        let info <- s.mapInfo.lookup nodeId
        let refCount <- checkedAdd info.refCount 1
        some ((s.setRow nodeId { info with refCount := refCount }).setNewMatrix slot
          (cellOf nodeId))) = some t ∧ Inv sha256 t := by
  rcases clearNew_spec core slot with ⟨t, emptied, clearCore, cleared⟩
  rcases cleared.row found unnamed with ⟨moved, present, same⟩
  rcases unplaced_fields same with ⟨samePeer, sameTried, sameRefs⟩
  have vacant : t.newMatrix slot = emptyCell := by
    rw [cleared.matrix, Function.update_self]
  have fits : moved.refCount + 1 ≤ u32Max := by
    rw [sameRefs]
    have small : newBucketsPerAddress ≤ u32Max := by decide
    omega
  refine ⟨t.placeAt slot nodeId moved, ?_, ?_, ?_, ?_⟩
  · simp only [emptied, present, checkedAdd_eq fits, Option.bind_eq_bind, Option.bind_some,
      Inner.placeAt]
  · apply clearCore.placeAt present vacant (sameTried.trans isNew)
    · rw [bucketPosition_congr sha256 samePeer, cleared.key]
      exact position
    · rw [sameRefs]
      exact below
  · exact (rooted.cleared cleared).placeAt fun other loose different => different loose
  · intro _
    exact ⟨nodeId, _, Finmap.lookup_insert t.mapInfo⟩

/-- The losing branch: a row without references is deleted, and the occupant
of the cell remains. -/
theorem delete_spec (core : Core sha256 s) {nodeId : NodeId} {row : ExtendedPeerInfo}
    (found : s.mapInfo.lookup nodeId = some row) (isNew : row.isTried = false)
    (unreferenced : row.refCount = 0) (rooted : Rooted s fun other => other = nodeId)
    (another : exists other kept, other ≠ nodeId ∧ s.mapInfo.lookup other = some kept) :
    exists t, s.deleteNewEntry nodeId = some t ∧ Inv sha256 t := by
  rcases core.ordered.index found with ⟨place, points, here⟩
  rcases core.lastId found with ⟨last, atEnd⟩
  refine ⟨_, Inner.deleteNewEntry_eq found points here atEnd core.ordered.linked.nodup
    (core.newCount_pos found isNew), core.dropEntry found points atEnd isNew unreferenced, ?_, ?_⟩
  · intro other kept present isNew
    have different : other ≠ nodeId := by
      intro same
      rw [Inner.dropEntry_lookup, if_pos same] at present
      cases present
    rcases exists_of_map_eq (dropEntry_unplaced s different) present with ⟨old, seen, same⟩
    rcases unplaced_fields same with ⟨_, sameTried, sameRefs⟩
    rw [← sameRefs]
    exact (rooted other old seen (sameTried.trans isNew)).imp_right different
  · intro _
    rcases another with ⟨other, kept, different, present⟩
    rcases exists_of_map_eq (dropEntry_unplaced s different).symm present with ⟨moved, seen, _⟩
    exact ⟨other, moved, seen⟩

theorem offerCell_spec (core : Core sha256 s) {nodeId : NodeId} {row : ExtendedPeerInfo}
    (found : s.mapInfo.lookup nodeId = some row) (isNew : row.isTried = false)
    (below : row.refCount < newBucketsPerAddress) (rooted : Rooted s fun other => other = nodeId)
    (source : PeerInfo) (nowAgain : Nat) :
    exists t, s.offerCell sha256 nodeId source nowAgain = some t ∧ Inv sha256 t := by
  unfold Inner.offerCell
  simp only [found]
  generalize slotEq : (row.newBucketIndex sha256 s.key source,
    row.bucketPosition sha256 s.key true (row.newBucketIndex sha256 s.key source)) = slot
  have position : slot.2 = row.bucketPosition sha256 s.key true slot.1 := by
    rw [← slotEq]
  by_cases seated : s.newMatrix slot = cellOf nodeId
  · -- the row already has this cell, so it has a reference
    rw [if_pos seated]
    refine ⟨s, rfl, core, ?_, fun _ => ⟨nodeId, row, found⟩⟩
    intro other kept present isNew
    rcases rooted other kept present isNew with counted | same
    · exact Or.inl counted
    · left
      rw [core.newTable.refs other kept present, same]
      exact occurrences_pos seated
  · rw [if_neg seated]
    by_cases vacant : s.newMatrix slot = emptyCell
    · rw [if_pos vacant]
      exact place_spec core found isNew below rooted position seated
    · rw [if_neg vacant]
      rcases core.newTable.cell slot vacant with ⟨existing, present, _, _⟩
      simp only [present]
      by_cases wins : existing.isTerrible nowAgain ∨ (1 < existing.refCount ∧ row.refCount = 0)
      · rw [if_pos wins]
        exact place_spec core found isNew below rooted position seated
      · rw [if_neg wins]
        by_cases unreferenced : row.refCount = 0
        · rw [if_pos unreferenced]
          refine delete_spec core found isNew unreferenced rooted ⟨_, existing, ?_, present⟩
          intro same
          exact seated (nodeOf_eq.mp same)
        · rw [if_neg unreferenced]
          refine ⟨s, rfl, core, ?_, fun _ => ⟨nodeId, row, found⟩⟩
          intro other kept seen isNew
          rcases rooted other kept seen isNew with counted | same
          · exact Or.inl counted
          · left
            rw [same, found] at seen
            rw [← Option.some.inj seen]
            exact Nat.pos_of_ne_zero unreferenced

/-! ## A new row -/

theorem nextId_toNat {nodeId : NodeId} (room : nodeId.toNat + 1 ≤ u32Max) :
    (nodeId + 1).toNat = nodeId.toNat + 1 := by
  rw [UInt32.toNat_add]
  have max : u32Max < 2 ^ 32 := by decide
  exact Nat.mod_eq_of_lt (by simp; omega)

/-- The row of an address that is seen for the first time. -/
def Inner.freshRow (s : Inner) (addr : TimestampedPeerInfo) (source : PeerInfo) (penalty : Nat) :
    ExtendedPeerInfo :=
  { peerRowFromTs addr source with
    randomPos := some s.randomPos.length
    timestamp := addr.timestamp - penalty }

/-- The state with a row under the next id, at the end of the order. -/
def Inner.enterRow (s : Inner) (row : ExtendedPeerInfo) : Inner :=
  { s with
    idCount := s.idCount + 1
    mapAddr := s.mapAddr.insert row.peerInfo.host (s.idCount + 1)
    mapInfo := s.mapInfo.insert (s.idCount + 1) row
    randomPos := s.randomPos ++ [s.idCount + 1]
    newCount := s.newCount + 1 }

theorem insertRow_eq (counted : s.newCount + 1 ≤ u32Max) (room : s.idCount.toNat + 1 ≤ u32Max)
    (addr : TimestampedPeerInfo) (source : PeerInfo) (penalty : Nat) :
    s.insertRow addr source penalty =
      some (s.enterRow (s.freshRow addr source penalty), s.idCount + 1) := by
  have rewritten (rows : Rows) (nodeId : NodeId) (old : ExtendedPeerInfo)
      (change : ExtendedPeerInfo -> ExtendedPeerInfo) :
      FiniteMap.adjust (rows.insert nodeId old) nodeId change =
        rows.insert nodeId (change old) := by
    simp only [FiniteMap.adjust, Finmap.lookup_insert, Finmap.insert_insert]
  unfold Inner.insertRow Inner.createRow
  simp only [if_pos room, checkedAdd_eq counted, Option.bind_eq_bind, Option.bind_some, rewritten]
  rfl

theorem Core.nextId_fresh (core : Core sha256 s) (room : s.idCount.toNat + 1 < u32Max) :
    s.mapInfo.lookup (s.idCount + 1) = none := by
  have nextId := nextId_toNat (Nat.le_of_lt room)
  cases present : s.mapInfo.lookup (s.idCount + 1) with
  | none => rfl
  | some row =>
      have bound := core.allocated _ row present
      omega

/-- A row for a host without row, not yet referenced, keeps the tables consistent. -/
theorem Core.enterRow (core : Core sha256 s) {row : ExtendedPeerInfo}
    (unknown : s.mapAddr.lookup row.peerInfo.host = none) (room : s.idCount.toNat + 1 < u32Max)
    (isNew : row.isTried = false) (unreferenced : row.refCount = 0)
    (places : row.randomPos = some s.randomPos.length) : Core sha256 (s.enterRow row) := by
  have nextId := nextId_toNat (Nat.le_of_lt room)
  have fresh := core.nextId_fresh room
  refine {
    names := core.names.enter unknown fresh
    allocated := ?_
    room := ?_
    ordered := core.ordered.push fresh places
    newCount := ?_
    triedCount := ?_
    newTable := core.newTable.enter fresh (cellOf_ne_empty (nextId ▸ room)) unreferenced
    triedTable := core.triedTable.enter (by simp [fresh]) isNew }
  · intro other kept present
    show other.toNat ≤ (s.idCount + 1).toNat
    rcases FiniteMap.of_lookup_insert present with ⟨rfl, _⟩ | ⟨_, present⟩
    · exact Nat.le_refl _
    · have bound := core.allocated other kept present
      omega
  · show (s.idCount + 1).toNat < u32Max
    omega
  · have total := FiniteMap.countWhere_insert s.mapInfo isNewRow (s.idCount + 1) row
    rw [fresh, FiniteMap.weight_none, FiniteMap.weight_some, isNewRow, isNew] at total
    exact (congrArg (· + 1) core.newCount).trans total.symm
  · have total := FiniteMap.countWhere_insert s.mapInfo isTriedRow (s.idCount + 1) row
    rw [fresh, FiniteMap.weight_none, FiniteMap.weight_some, isTriedRow, isNew] at total
    exact core.triedCount.trans total.symm

/-- A host without row gets one that has no reference yet. -/
theorem insertRow_spec (inv : Inv sha256 s) (addr : TimestampedPeerInfo) (source : PeerInfo)
    (penalty : Nat) (unknown : s.mapAddr.lookup addr.host = none)
    (room : s.idCount.toNat + 1 < u32Max) :
    exists t nodeId row, s.insertRow addr source penalty = some (t, nodeId) ∧ Core sha256 t ∧
      t.mapInfo.lookup nodeId = some row ∧ row.isTried = false ∧ row.refCount = 0 ∧
      Rooted t fun other => other = nodeId := by
  have core := inv.core
  have counted : s.newCount + 1 ≤ u32Max := by
    have bound := core.newCount_le
    omega
  have written := insertRow_eq counted (Nat.le_of_lt room) addr source penalty
  refine ⟨_, _, s.freshRow addr source penalty, written, ?_, Finmap.lookup_insert _, rfl, rfl, ?_⟩
  · exact core.enterRow unknown room rfl rfl rfl
  · intro other kept present isNew
    rcases FiniteMap.of_lookup_insert present with ⟨rfl, _⟩ | ⟨_, present⟩
    · exact Or.inr rfl
    · exact Or.inl ((inv.rooted other kept present isNew).resolve_right id)

/-! ## One address -/

/-- A refresh rewrites no field but the timestamp. -/
theorem refreshRow_spec (inv : Inv sha256 s) {nodeId : NodeId} {row : ExtendedPeerInfo}
    (found : s.mapInfo.lookup nodeId = some row) (addr : TimestampedPeerInfo) (penalty now : Nat) :
    Inv sha256 (s.refreshRow addr penalty now nodeId row) ∧
      exists written, (s.refreshRow addr penalty now nodeId row).mapInfo.lookup nodeId = some written := by
  have either : (exists stamp, s.refreshRow addr penalty now nodeId row =
      s.setRow nodeId { row with timestamp := stamp }) ∨
      s.refreshRow addr penalty now nodeId row = s := ite_eq_or_eq _ _ _ |>.imp_left fun written =>
    ⟨_, written⟩
  rcases either with ⟨stamp, written⟩ | unchanged
  · rw [written]
    exact ⟨inv.setRow found rfl, _, Finmap.lookup_insert s.mapInfo⟩
  · rw [unchanged]
    exact ⟨inv, row, found⟩

/-- Only a new row with fewer references than the limit competes again. -/
theorem mayCompete_spec {row : ExtendedPeerInfo} {addr : TimestampedPeerInfo} {draw : Nat}
    (goesOn : Inner.mayCompete row addr draw = true) :
    row.isTried = false ∧ row.refCount < newBucketsPerAddress := by
  unfold Inner.mayCompete at goesOn
  by_cases stale : addr.timestamp = 0 ∨ (0 < row.timestamp ∧ addr.timestamp ≤ row.timestamp)
  · rw [if_pos stale] at goesOn
    cases goesOn
  · rw [if_neg stale] at goesOn
    by_cases tried : row.isTried = true
    · rw [if_pos tried] at goesOn
      cases goesOn
    · rw [if_neg tried] at goesOn
      by_cases full : newBucketsPerAddress ≤ row.refCount
      · rw [if_pos full] at goesOn
        cases goesOn
      · exact ⟨Bool.eq_false_iff.mpr tried, Nat.lt_of_not_le full⟩

/-- Whether adding the address creates a row. -/
def createsRow (s : Inner) (addr : TimestampedPeerInfo) : Bool :=
  !(hostIsPrivate addr.host && !s.allowPrivateSubnets) && (s.mapAddr.lookup addr.host).isNone

/-- One address: the invariant holds again, provided a created row gets an id. -/
theorem addOne_spec (inv : Inv sha256 s) (addr : TimestampedPeerInfo) (source : PeerInfo)
    (penalty : Nat) (inputs : Inner.AddInputs)
    (room : createsRow s addr = true -> s.idCount.toNat + 1 < u32Max) :
    exists t, s.addOne sha256 addr source penalty inputs = some t ∧ Inv sha256 t := by
  unfold Inner.addOne
  by_cases isPrivate : (hostIsPrivate addr.host && !s.allowPrivateSubnets) = true
  · rw [if_pos isPrivate]
    exact ⟨s, rfl, inv⟩
  · rw [if_neg isPrivate]
    cases named : s.mapAddr.lookup addr.host with
    | none =>
        have unknown : s.find { host := addr.host, port := addr.port } = (none, none) :=
          find_unknown named
        have creates : createsRow s addr = true := by
          simp only [createsRow, Bool.eq_false_iff.mpr isPrivate, named, Option.isNone_none,
            Bool.not_false, Bool.and_true]
        rcases insertRow_spec inv addr source penalty named (room creates) with
          ⟨t, nodeId, row, written, core, found, isNew, unreferenced, rooted⟩
        simp only [unknown, written, Option.bind_eq_bind, Option.bind_some]
        have below : row.refCount < newBucketsPerAddress := by
          rw [unreferenced]
          decide
        exact offerCell_spec core found isNew below rooted source inputs.nowAgain
    | some nodeId =>
        have known : s.mapAddr.lookup
            ({ host := addr.host, port := addr.port } : PeerInfo).host = some nodeId := named
        rcases find_known inv.core known with ⟨row, seen, found, _⟩
        rcases refreshRow_spec inv found addr penalty inputs.now with ⟨refreshed, written, present⟩
        simp only [seen, present, Option.bind_eq_bind, Option.bind_some]
        by_cases goesOn : Inner.mayCompete written addr inputs.draw = true
        · rw [if_pos goesOn]
          rcases mayCompete_spec goesOn with ⟨isNew, below⟩
          have rooted : Rooted (s.refreshRow addr penalty inputs.now nodeId row)
              fun other => other = nodeId := by
            intro other kept seen isNew
            exact Or.inl ((refreshed.rooted other kept seen isNew).resolve_right id)
          exact offerCell_spec refreshed.core present isNew below rooted source inputs.nowAgain
        · rw [if_neg goesOn]
          exact ⟨_, rfl, refreshed⟩

end Discovery
end DigGossip
