import DigGossip.Discovery.Tables

namespace DigGossip
namespace Discovery

open Foundations DigGossip.Types

/-!
# The invariant and the elementary changes

`Core` gathers the relations of the redundant structures.  It allows a new row
without references, which is how a row looks while an operation is placing it;
`Rooted` says which rows may look so.  The changes an operation is made of are
given as explicit states, and each one preserves `Core`.
-/

def isNewRow (_ : NodeId) (row : ExtendedPeerInfo) : Bool := !row.isTried

def isTriedRow (_ : NodeId) (row : ExtendedPeerInfo) : Bool := row.isTried

structure Core (sha256 : Digest) (s : Inner) : Prop where
  names : Names s.mapAddr s.mapInfo
  allocated : forall nodeId row, s.mapInfo.lookup nodeId = some row ->
    nodeId.toNat ≤ s.idCount.toNat
  room : s.idCount.toNat < u32Max
  ordered : Ordered s.randomPos s.mapInfo
  newCount : s.newCount = FiniteMap.countWhere s.mapInfo isNewRow
  triedCount : s.triedCount = FiniteMap.countWhere s.mapInfo isTriedRow
  newTable : NewTable sha256 s.key s.newMatrix s.usedNewMatrixPositions s.mapInfo
  triedTable : TriedTable sha256 s.key s.triedMatrix s.usedTriedMatrixPositions s.mapInfo

/-- Every new row outside `loose` has a reference. -/
def Rooted (s : Inner) (loose : NodeId -> Prop) : Prop :=
  forall nodeId row, s.mapInfo.lookup nodeId = some row -> row.isTried = false ->
    1 ≤ row.refCount ∨ loose nodeId

/-- No row may be without reference. -/
def nobody (_ : NodeId) : Prop := False

theorem core_new (sha256 : Digest) (key : Key) : Core sha256 (Inner.new key) where
  names := by
    intro host nodeId
    simp [Inner.new]
  allocated := by
    intro nodeId row found
    simp [Inner.new] at found
  room := by
    show (0 : UInt32).toNat < u32Max
    decide
  ordered := {
    linked := by
      intro nodeId place
      simp [Inner.new]
    placed := by
      intro nodeId row found
      simp [Inner.new] at found }
  newCount := (FiniteMap.countWhere_empty isNewRow).symm
  triedCount := (FiniteMap.countWhere_empty isTriedRow).symm
  newTable := {
    proper := by
      intro nodeId row found
      simp [Inner.new] at found
    cell := fun _ full => absurd rfl full
    refs := by
      intro nodeId row found
      simp [Inner.new] at found
    limit := by
      intro nodeId row found
      simp [Inner.new] at found
    used := by
      intro slot
      simp [Inner.new] }
  triedTable := {
    cell := fun _ full => absurd rfl full
    seated := by
      intro nodeId row found
      simp [Inner.new] at found
    used := by
      intro slot
      simp [Inner.new] }

namespace Core

variable {sha256 : Digest} {s : Inner}

theorem proper (core : Core sha256 s) {nodeId : NodeId} {row : ExtendedPeerInfo}
    (found : s.mapInfo.lookup nodeId = some row) : cellOf nodeId ≠ emptyCell :=
  core.newTable.proper nodeId row found

/-- The row behind a host, when the host index knows one. -/
theorem rowOf (core : Core sha256 s) {host : String} {nodeId : NodeId}
    (named : s.mapAddr.lookup host = some nodeId) :
    exists row, s.mapInfo.lookup nodeId = some row ∧ row.peerInfo.host = host := by
  have known := (core.names host nodeId).mp named
  rw [Option.map_eq_some_iff] at known
  exact known

/-- The allocator bounds the number of rows. -/
theorem card_le (core : Core sha256 s) : s.mapInfo.keys.card ≤ s.idCount.toNat + 1 := by
  have inside : ∀ nodeId ∈ s.mapInfo.keys,
      nodeId.toNat ∈ Finset.range (s.idCount.toNat + 1) := by
    intro nodeId member
    rw [Finmap.mem_keys, Finmap.mem_iff] at member
    rcases member with ⟨row, found⟩
    have bound := core.allocated nodeId row found
    exact Finset.mem_range.mpr (Nat.lt_succ_of_le bound)
  have counted := Finset.card_le_card_of_injOn UInt32.toNat inside
    (fun first _ second _ same => UInt32.toNat_inj.mp same)
  rw [Finset.card_range] at counted
  exact counted

theorem newCount_le (core : Core sha256 s) : s.newCount ≤ s.idCount.toNat + 1 := by
  rw [core.newCount]
  exact Nat.le_trans (Finset.card_le_card (Finset.filter_subset _ _)) core.card_le

theorem triedCount_le (core : Core sha256 s) : s.triedCount ≤ s.idCount.toNat + 1 := by
  rw [core.triedCount]
  exact Nat.le_trans (Finset.card_le_card (Finset.filter_subset _ _)) core.card_le

theorem newCount_pos (core : Core sha256 s) {nodeId : NodeId} {row : ExtendedPeerInfo}
    (found : s.mapInfo.lookup nodeId = some row) (isNew : row.isTried = false) :
    1 ≤ s.newCount := by
  rw [core.newCount]
  exact FiniteMap.countWhere_pos found (by simp [isNewRow, isNew])

theorem triedCount_pos (core : Core sha256 s) {nodeId : NodeId} {row : ExtendedPeerInfo}
    (found : s.mapInfo.lookup nodeId = some row) (tried : row.isTried = true) :
    1 ≤ s.triedCount := by
  rw [core.triedCount]
  exact FiniteMap.countWhere_pos found tried

/-- Tried rows have no new-table references. -/
theorem tried_refCount (core : Core sha256 s) {nodeId : NodeId} {row : ExtendedPeerInfo}
    (found : s.mapInfo.lookup nodeId = some row) (tried : row.isTried = true) :
    row.refCount = 0 := by
  rw [core.newTable.refs nodeId row found, occurrences_eq_zero]
  intro slot holds
  have isNew := (core.newTable.position found holds).1
  rw [tried] at isNew
  cases isNew

/-- The order is not empty, and ends in the id of a row. -/
theorem lastId (core : Core sha256 s) {nodeId : NodeId} {row : ExtendedPeerInfo}
    (found : s.mapInfo.lookup nodeId = some row) :
    exists last, s.randomPos[s.randomPos.length - 1]? = some last := by
  rcases core.ordered.index found with ⟨place, _, here⟩
  have inside := (List.getElem?_eq_some_iff.mp here).1
  exact ⟨_, List.getElem?_eq_getElem (by omega)⟩

end Core

/-! ## Rewriting a row -/

/-- The fields of a row that the redundant structures read. -/
def structuralView (row : ExtendedPeerInfo) : PeerInfo × Option Nat × Bool × Nat :=
  (row.peerInfo, row.randomPos, row.isTried, row.refCount)

/-- Clock fields may be rewritten at will. -/
theorem Core.setRow {sha256 : Digest} {s : Inner} (core : Core sha256 s) {nodeId : NodeId}
    {row written : ExtendedPeerInfo} (found : s.mapInfo.lookup nodeId = some row)
    (same : structuralView written = structuralView row) : Core sha256 (s.setRow nodeId written) := by
  simp only [structuralView, Prod.mk.injEq] at same
  rcases same with ⟨samePeer, samePos, sameTried, sameRefs⟩
  refine {
    names := core.names.congr (map_lookup_insert found _ (by rw [samePeer]))
    allocated := FiniteMap.forall_key_insert found core.allocated
    room := core.room
    ordered := core.ordered.congr (map_lookup_insert found _ samePos)
    newCount := ?_
    triedCount := ?_
    newTable := core.newTable.congr
      (map_lookup_insert found _ (by simp only [newView, samePeer, sameTried, sameRefs]))
    triedTable := core.triedTable.congr
      (map_lookup_insert found _ (by simp only [triedView, samePeer, sameTried])) }
  · have counts : isNewRow nodeId written = isNewRow nodeId row := congrArg (!·) sameTried
    exact core.newCount.trans (FiniteMap.countWhere_insert_of_same found counts).symm
  · exact core.triedCount.trans (FiniteMap.countWhere_insert_of_same found sameTried).symm

theorem Rooted.setRow {s : Inner} {loose : NodeId -> Prop} (rooted : Rooted s loose)
    {nodeId : NodeId} {row written : ExtendedPeerInfo}
    (found : s.mapInfo.lookup nodeId = some row)
    (same : structuralView written = structuralView row) :
    Rooted (s.setRow nodeId written) loose := by
  simp only [structuralView, Prod.mk.injEq] at same
  intro other kept present isNew
  rcases FiniteMap.of_lookup_insert present with ⟨rfl, rfl⟩ | ⟨_, present⟩
  · rw [same.2.2.2]
    exact rooted other row found (same.2.2.1 ▸ isNew)
  · exact rooted other kept present isNew

/-! ## Deleting a row -/

namespace Inner

/-- What `delete_new_entry` leaves: the last id of the order has taken the
deleted row's place. -/
def dropEntry (s : Inner) (nodeId last : NodeId) (row : ExtendedPeerInfo) (place : Nat) : Inner :=
  { s with
    mapInfo := (FiniteMap.adjust s.mapInfo last
      fun row => { row with randomPos := some place }).erase nodeId
    mapAddr := s.mapAddr.erase row.peerInfo.host
    randomPos := ((s.randomPos.set place last).set (s.randomPos.length - 1) nodeId).dropLast
    newCount := s.newCount - 1 }

theorem dropEntry_lookup (s : Inner) (nodeId last : NodeId) (row : ExtendedPeerInfo)
    (place : Nat) (other : NodeId) :
    (s.dropEntry nodeId last row place).mapInfo.lookup other =
      if other = nodeId then none
      else if other = last then
        (s.mapInfo.lookup other).map fun row => { row with randomPos := some place }
      else s.mapInfo.lookup other := by
  unfold dropEntry
  rw [FiniteMap.lookup_erase_eq, FiniteMap.lookup_adjust_eq]
  by_cases same : other = last
  · rw [if_pos same, if_pos same, same]
  · rw [if_neg same, if_neg same]

theorem deleteNewEntry_eq {s : Inner} {nodeId last : NodeId} {row : ExtendedPeerInfo}
    {place : Nat} (found : s.mapInfo.lookup nodeId = some row)
    (points : row.randomPos = some place) (here : s.randomPos[place]? = some nodeId)
    (atEnd : s.randomPos[s.randomPos.length - 1]? = some last)
    (distinct : s.randomPos.Nodup) (counted : 1 ≤ s.newCount) :
    s.deleteNewEntry nodeId = some (s.dropEntry nodeId last row place) := by
  have inside := (List.getElem?_eq_some_iff.mp here).1
  have nonempty : checkedSub s.randomPos.length 1 = some (s.randomPos.length - 1) :=
    if_pos (by omega)
  have countdown : checkedSub s.newCount 1 = some (s.newCount - 1) := if_pos counted
  unfold deleteNewEntry
  simp only [found, points, nonempty, Option.bind_eq_bind, Option.bind_some]
  by_cases isLast : place = s.randomPos.length - 1
  · have same : last = nodeId := by
      rw [isLast, atEnd] at here
      exact Option.some.inj here
    subst same
    simp only [swapRandom, if_pos isLast, Option.bind_some, found, countdown, dropEntry]
    congr 2
    · apply Finmap.ext_lookup
      intro other
      simp only [FiniteMap.lookup_erase_eq, FiniteMap.lookup_adjust_eq]
      by_cases gone : other = last
      · rw [if_pos gone, if_pos gone]
      · rw [if_neg gone, if_neg gone, if_neg gone]
    · rw [← isLast, List.set_set]
      congr 1
      apply List.ext_getElem?
      intro index
      rw [List.getElem?_set]
      by_cases atPlace : place = index
      · rw [if_pos atPlace, if_pos inside, ← atPlace, here]
      · rw [if_neg atPlace]
  · have different : nodeId ≠ last := by
      intro same
      rw [← same] at atEnd
      exact isLast ((List.getElem?_inj inside distinct).mp (here.trans atEnd.symm))
    simp only [swapRandom, if_neg isLast, here, atEnd, Option.bind_some,
      FiniteMap.lookup_adjust_eq, if_neg different, if_true, found, Option.map_some, countdown,
      dropEntry]
    congr 2
    apply Finmap.ext_lookup
    intro other
    simp only [FiniteMap.lookup_erase_eq, FiniteMap.lookup_adjust_eq]
    by_cases gone : other = nodeId
    · rw [if_pos gone, if_pos gone]
    · rw [if_neg gone, if_neg gone]
      by_cases isMoved : other = last
      · rw [if_pos isMoved, if_pos isMoved, if_neg (Ne.symm different), if_neg gone]
      · rw [if_neg isMoved, if_neg isMoved, if_neg gone]

end Inner

/-- A row apart from its place in the order. -/
def unplaced (row : ExtendedPeerInfo) : ExtendedPeerInfo :=
  { row with randomPos := none }

theorem unplaced_fields {first second : ExtendedPeerInfo} (same : unplaced first = unplaced second) :
    first.peerInfo = second.peerInfo ∧ first.isTried = second.isTried ∧
      first.refCount = second.refCount := by
  simp only [unplaced, ExtendedPeerInfo.mk.injEq] at same
  exact ⟨same.1, same.2.2.2.2.1, same.2.2.2.2.2.1⟩

/-- Deleting one row changes other rows in their place at most. -/
theorem dropEntry_unplaced (s : Inner) {nodeId last : NodeId} {row : ExtendedPeerInfo}
    {place : Nat} {other : NodeId} (different : other ≠ nodeId) :
    ((s.dropEntry nodeId last row place).mapInfo.lookup other).map unplaced =
      (s.mapInfo.lookup other).map unplaced := by
  rw [Inner.dropEntry_lookup, if_neg different]
  by_cases isLast : other = last
  · rw [if_pos isLast, Option.map_map]
    rfl
  · rw [if_neg isLast]

/-- Any view of a row that ignores its place survives a deletion elsewhere. -/
theorem map_of_unplaced {B : Type} {left right : Option ExtendedPeerInfo}
    (view : ExtendedPeerInfo -> B) (ignores : forall row, view (unplaced row) = view row)
    (agree : left.map unplaced = right.map unplaced) : left.map view = right.map view := by
  have composed : view = view ∘ unplaced := funext fun row => (ignores row).symm
  rw [composed, ← Option.map_map, ← Option.map_map, agree]

theorem Core.dropEntry {sha256 : Digest} {s : Inner} (core : Core sha256 s) {nodeId last : NodeId}
    {row : ExtendedPeerInfo} {place : Nat} (found : s.mapInfo.lookup nodeId = some row)
    (points : row.randomPos = some place)
    (atEnd : s.randomPos[s.randomPos.length - 1]? = some last) (isNew : row.isTried = false)
    (unreferenced : row.refCount = 0) : Core sha256 (s.dropEntry nodeId last row place) := by
  have moved := s.dropEntry_lookup nodeId last row place
  -- without the moved place, the remaining rows are the old ones without the deleted row
  have agree : forall other,
      ((s.dropEntry nodeId last row place).mapInfo.lookup other).map unplaced =
        ((s.mapInfo.erase nodeId).lookup other).map unplaced := by
    intro other
    rw [FiniteMap.lookup_erase_eq]
    by_cases gone : other = nodeId
    · rw [moved, if_pos gone, if_pos gone]
    · rw [if_neg gone]
      exact dropEntry_unplaced s gone
  have counts (test : NodeId -> ExtendedPeerInfo -> Bool)
      (ignores : forall id row, test id (unplaced row) = test id row) :
      FiniteMap.countWhere (s.dropEntry nodeId last row place).mapInfo test =
        FiniteMap.countWhere (s.mapInfo.erase nodeId) test := by
    apply FiniteMap.countWhere_congr
    intro other
    have same := map_of_unplaced (test other) (ignores other) (agree other)
    have asMap (value : Option ExtendedPeerInfo) :
        value.any (test other) = (value.map (test other)).getD false := by
      cases value <;> rfl
    rw [asMap, asMap, same]
  refine {
    names := (core.names.drop found).congr fun other => map_of_unplaced _ (fun _ => rfl) (agree other)
    allocated := ?_
    room := core.room
    ordered := core.ordered.swapRemove found points atEnd moved
    newCount := ?_
    triedCount := ?_
    newTable := (core.newTable.drop found unreferenced).congr
      fun other => map_of_unplaced _ (fun _ => rfl) (agree other)
    triedTable := (core.triedTable.drop found isNew).congr
      fun other => map_of_unplaced _ (fun _ => rfl) (agree other) }
  · intro other kept present
    rcases exists_of_map_eq (agree other) present with ⟨old, seen, _⟩
    exact core.allocated other old (FiniteMap.of_lookup_erase seen).2
  · have counted := FiniteMap.countWhere_erase s.mapInfo isNewRow nodeId
    rw [found, FiniteMap.weight_some, isNewRow, isNew] at counted
    have total := core.newCount
    show s.newCount - 1 = _
    rw [counts isNewRow fun _ _ => rfl]
    simp only [Bool.not_false, if_true] at counted
    omega
  · have counted := FiniteMap.countWhere_erase s.mapInfo isTriedRow nodeId
    rw [found, FiniteMap.weight_some, isTriedRow, isNew] at counted
    rw [counts isTriedRow fun _ _ => rfl]
    exact core.triedCount.trans counted.symm

/-! ## Clearing a cell -/

namespace Inner

/-- A new-table cell emptied, and the row it named one reference poorer. -/
def unref (s : Inner) (slot : NewSlot) (nodeId : NodeId) (row : ExtendedPeerInfo) : Inner :=
  (s.setRow nodeId { row with refCount := row.refCount - 1 }).setNewMatrix slot emptyCell

theorem clearNew_empty {s : Inner} {slot : NewSlot} (vacant : s.newMatrix slot = emptyCell) :
    s.clearNew slot = some s := by
  unfold clearNew
  rw [if_pos vacant]

theorem clearNew_full {s : Inner} {slot : NewSlot} {nodeId : NodeId} {row : ExtendedPeerInfo}
    (holds : s.newMatrix slot = cellOf nodeId) (proper : cellOf nodeId ≠ emptyCell)
    (found : s.mapInfo.lookup nodeId = some row) (counted : 1 ≤ row.refCount) :
    s.clearNew slot =
      if row.refCount = 1 then (s.unref slot nodeId row).deleteNewEntry nodeId
      else some (s.unref slot nodeId row) := by
  have full : s.newMatrix slot ≠ emptyCell := holds ▸ proper
  unfold clearNew
  rw [if_neg full, nodeOf_eq.mpr holds]
  simp only [found]
  rw [if_neg (by omega)]
  by_cases single : row.refCount = 1
  · rw [if_pos single, if_pos (by omega)]
    rfl
  · rw [if_neg single, if_neg (by omega)]
    rfl

theorem unref_newMatrix (s : Inner) (slot : NewSlot) (nodeId : NodeId) (row : ExtendedPeerInfo) :
    (s.unref slot nodeId row).newMatrix = Function.update s.newMatrix slot emptyCell := rfl

theorem unref_lookup (s : Inner) (slot : NewSlot) (nodeId : NodeId) (row : ExtendedPeerInfo)
    (other : NodeId) :
    (s.unref slot nodeId row).mapInfo.lookup other =
      if other = nodeId then some { row with refCount := row.refCount - 1 }
      else s.mapInfo.lookup other :=
  FiniteMap.lookup_insert_eq s.mapInfo nodeId other _

end Inner

theorem Core.unref {sha256 : Digest} {s : Inner} (core : Core sha256 s) {slot : NewSlot}
    {nodeId : NodeId} {row : ExtendedPeerInfo} (found : s.mapInfo.lookup nodeId = some row)
    (holds : s.newMatrix slot = cellOf nodeId) : Core sha256 (s.unref slot nodeId row) := by
  refine {
    names := core.names.congr (map_lookup_insert found _ rfl)
    allocated := FiniteMap.forall_key_insert found core.allocated
    room := core.room
    ordered := core.ordered.congr (map_lookup_insert found _ rfl)
    newCount := core.newCount.trans (FiniteMap.countWhere_insert_of_same found (by rfl)).symm
    triedCount := core.triedCount.trans (FiniteMap.countWhere_insert_of_same found (by rfl)).symm
    newTable := ?_
    triedTable := core.triedTable.congr (map_lookup_insert found _ rfl) }
  · exact core.newTable.clear found holds

/-- What clearing a cell does to the rest of the state. -/
structure Cleared (s : Inner) (slot : NewSlot) (t : Inner) : Prop where
  matrix : t.newMatrix = Function.update s.newMatrix slot emptyCell
  rest : t = { s with
    mapAddr := t.mapAddr, mapInfo := t.mapInfo, randomPos := t.randomPos
    newMatrix := t.newMatrix, usedNewMatrixPositions := t.usedNewMatrixPositions
    newCount := t.newCount }
  kept : forall nodeId, s.newMatrix slot ≠ cellOf nodeId ->
    (t.mapInfo.lookup nodeId).map unplaced = (s.mapInfo.lookup nodeId).map unplaced
  rooted : forall nodeId row, s.newMatrix slot = cellOf nodeId ->
    t.mapInfo.lookup nodeId = some row -> 1 ≤ row.refCount

theorem clearNew_spec {sha256 : Digest} {s : Inner} (core : Core sha256 s) (slot : NewSlot) :
    exists t, s.clearNew slot = some t ∧ Core sha256 t ∧ Cleared s slot t := by
  by_cases vacant : s.newMatrix slot = emptyCell
  · refine ⟨s, Inner.clearNew_empty vacant, core, ?_, rfl, fun _ _ => rfl, ?_⟩
    · rw [← vacant, Function.update_eq_self]
    · intro nodeId row holds found
      exact absurd (holds.symm.trans vacant) (core.proper found)
  · rcases core.newTable.cell slot vacant with ⟨row, found, isNew, position⟩
    have holds : s.newMatrix slot = cellOf (nodeOf (s.newMatrix slot)) := (cellOf_nodeOf _).symm
    generalize nodeOf (s.newMatrix slot) = nodeId at found holds
    have counted : 1 ≤ row.refCount := by
      rw [core.newTable.refs nodeId row found]
      exact occurrences_pos holds
    have unrefCore := core.unref found holds
    rw [Inner.clearNew_full holds (core.proper found) found counted]
    by_cases single : row.refCount = 1
    · -- the last reference goes, and the row with it
      have seen := s.unref_lookup slot nodeId row nodeId
      rw [if_pos rfl] at seen
      rcases unrefCore.ordered.index seen with ⟨place, points, here⟩
      rcases unrefCore.lastId seen with ⟨last, atEnd⟩
      have dropped := Inner.deleteNewEntry_eq seen points here atEnd
        unrefCore.ordered.linked.nodup (unrefCore.newCount_pos seen isNew)
      rw [if_pos single, dropped]
      refine ⟨_, rfl, unrefCore.dropEntry seen points atEnd isNew ?_, rfl, rfl, ?_, ?_⟩
      · show row.refCount - 1 = 0
        omega
      · intro other different
        have notThis : other ≠ nodeId := by
          intro same
          exact different (same ▸ holds)
        rw [dropEntry_unplaced _ notThis, Inner.unref_lookup, if_neg notThis]
      · intro other kept named present
        have same : other = nodeId := cellOf_inj.mp (named.symm.trans holds)
        rw [Inner.dropEntry_lookup, if_pos same] at present
        cases present
    · rw [if_neg single]
      refine ⟨_, rfl, unrefCore, rfl, rfl, ?_, ?_⟩
      · intro other different
        have notThis : other ≠ nodeId := by
          intro same
          exact different (same ▸ holds)
        rw [Inner.unref_lookup, if_neg notThis]
      · intro other kept named present
        have same : other = nodeId := cellOf_inj.mp (named.symm.trans holds)
        rw [Inner.unref_lookup, if_pos same] at present
        rw [← Option.some.inj present]
        show 1 ≤ row.refCount - 1
        omega

end Discovery
end DigGossip
