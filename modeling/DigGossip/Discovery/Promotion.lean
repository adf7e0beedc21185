import DigGossip.Discovery.Placement

namespace DigGossip
namespace Discovery

open Foundations DigGossip.Types

/-!
# Promotion to the tried table

`make_tried` takes a row's cells in the new table, sends the occupant of its
tried cell back to the new table, and seats the row.  Read as a sequence of
elementary changes it is: release the row, demote the occupant, clear the
occupant's new cell, place the occupant there, promote the row.  The source
keeps the occupant out of `map_info` while the cell is cleared; that makes no
difference unless clearing deletes a row and the occupant is the one whose
place in the order moves.
-/

variable {sha256 : Digest} {s : Inner}

/-! ## Releasing the promoted row's cells -/

/-- What releasing some cells of one row does to the state. -/
structure Released (s : Inner) (nodeId : NodeId) (row : ExtendedPeerInfo) (t : Inner) : Prop where
  rest : t = { s with
    mapInfo := t.mapInfo, newMatrix := t.newMatrix
    usedNewMatrixPositions := t.usedNewMatrixPositions }
  others : forall other, other ≠ nodeId -> t.mapInfo.lookup other = s.mapInfo.lookup other
  row : exists refs, t.mapInfo.lookup nodeId = some { row with refCount := refs }
  cells : forall slot, t.newMatrix slot = s.newMatrix slot ∨
    (s.newMatrix slot = cellOf nodeId ∧ t.newMatrix slot = emptyCell)

theorem Released.refl {nodeId : NodeId} {row : ExtendedPeerInfo}
    (found : s.mapInfo.lookup nodeId = some row) : Released s nodeId row s where
  rest := rfl
  others := fun _ _ => rfl
  row := ⟨row.refCount, found⟩
  cells := fun _ => Or.inl rfl

theorem Released.trans {t u : Inner} {nodeId : NodeId} {row : ExtendedPeerInfo} {refs : Nat}
    (first : Released s nodeId row t) (second : Released t nodeId { row with refCount := refs } u) :
    Released s nodeId row u where
  rest := by
    rw [second.rest, first.rest]
  others := by
    intro other different
    rw [second.others other different, first.others other different]
  row := second.row
  cells := by
    intro slot
    rcases second.cells slot with same | ⟨held, emptied⟩
    · rw [same]
      exact first.cells slot
    · rcases first.cells slot with same | ⟨held', emptied'⟩
      · exact Or.inr ⟨same ▸ held, emptied⟩
      · exact Or.inr ⟨held', emptied⟩

theorem Released.unref {nodeId : NodeId} {row : ExtendedPeerInfo} {slot : NewSlot}
    (holds : s.newMatrix slot = cellOf nodeId) :
    Released s nodeId row (s.unref slot nodeId row) where
  rest := rfl
  others := by
    intro other different
    rw [Inner.unref_lookup, if_neg different]
  row := by
    refine ⟨row.refCount - 1, ?_⟩
    rw [Inner.unref_lookup, if_pos rfl]
  cells := by
    intro other
    rw [Inner.unref_newMatrix]
    by_cases here : other = slot
    · subst here
      exact Or.inr ⟨holds, Function.update_self other _ s.newMatrix⟩
    · exact Or.inl (Function.update_of_ne here _ s.newMatrix)

/-- One bucket: afterwards no cell of it holds the row. -/
theorem releaseBucket_spec (core : Core sha256 s) {nodeId : NodeId} {row : ExtendedPeerInfo}
    (found : s.mapInfo.lookup nodeId = some row) (bucket : Fin newBucketCount) :
    exists t, s.releaseBucket sha256 nodeId bucket = some t ∧ Core sha256 t ∧
      Released s nodeId row t ∧ forall place, t.newMatrix (bucket, place) ≠ cellOf nodeId := by
  unfold Inner.releaseBucket
  simp only [found]
  generalize slotEq : (bucket, row.bucketPosition sha256 s.key true bucket) = slot
  -- a cell of this bucket that holds the row can only be the computed one
  have only : forall place, s.newMatrix (bucket, place) = cellOf nodeId -> (bucket, place) = slot := by
    intro place holds
    have position := (core.newTable.position found holds).2
    rw [← slotEq]
    exact congrArg (Prod.mk bucket) position
  by_cases holds : s.newMatrix slot = cellOf nodeId
  · rw [if_pos holds]
    refine ⟨s.unref slot nodeId row, rfl, core.unref found holds, Released.unref holds, ?_⟩
    intro place still
    rw [Inner.unref_newMatrix] at still
    by_cases here : (bucket, place) = slot
    · rw [here, Function.update_self] at still
      exact core.proper found still.symm
    · rw [Function.update_of_ne here] at still
      exact here (only place still)
  · rw [if_neg holds]
    refine ⟨s, rfl, core, Released.refl found, ?_⟩
    intro place still
    exact holds (only place still ▸ still)

/-- The loop over any list of buckets. -/
theorem release_spec (buckets : List (Fin newBucketCount)) :
    forall {s : Inner} {nodeId : NodeId} {row : ExtendedPeerInfo}, Core sha256 s ->
      s.mapInfo.lookup nodeId = some row ->
      exists t, buckets.foldlM (Inner.releaseBucket sha256 nodeId) s = some t ∧ Core sha256 t ∧
        Released s nodeId row t ∧
        ∀ bucket ∈ buckets, forall place, t.newMatrix (bucket, place) ≠ cellOf nodeId := by
  induction buckets with
  | nil =>
      intro s nodeId row core found
      exact ⟨s, rfl, core, Released.refl found, by simp⟩
  | cons bucket buckets ih =>
      intro s nodeId row core found
      rcases releaseBucket_spec core found bucket with ⟨t, stepped, tCore, released, cleared⟩
      rcases released.row with ⟨refs, present⟩
      rcases ih tCore present with ⟨u, looped, uCore, released', cleared'⟩
      refine ⟨u, ?_, uCore, released.trans released', ?_⟩
      · rw [List.foldlM_cons, stepped]
        exact looped
      · intro other member place holds
        rcases List.mem_cons.mp member with same | later
        · subst same
          rcases released'.cells (other, place) with kept | ⟨held, _⟩
          · exact cleared place (kept ▸ holds)
          · exact cleared place held
        · exact cleared' other later place holds

/-- After all buckets the row has no cell left. -/
theorem releaseAll_spec (core : Core sha256 s) {nodeId : NodeId} {row : ExtendedPeerInfo}
    (found : s.mapInfo.lookup nodeId = some row) :
    exists t, (List.finRange newBucketCount).foldlM (Inner.releaseBucket sha256 nodeId) s = some t ∧
      Core sha256 t ∧ Released s nodeId row t ∧
      t.mapInfo.lookup nodeId = some { row with refCount := 0 } := by
  rcases release_spec (List.finRange newBucketCount) core found with
    ⟨t, looped, tCore, released, cleared⟩
  rcases released.row with ⟨refs, present⟩
  have none : refs = 0 := by
    have counted := tCore.newTable.refs nodeId _ present
    rw [occurrences_eq_zero.mpr] at counted
    · exact counted
    · rintro ⟨bucket, place⟩ holds
      exact cleared bucket (List.mem_finRange bucket) place holds
  subst none
  exact ⟨t, looped, tCore, released, present⟩

/-! ## Demotion and promotion -/

namespace Inner

/-- A tried row that has left its cell and is a new row without references. -/
def demote (s : Inner) (slot : TriedSlot) (nodeId : NodeId) (row : ExtendedPeerInfo) : Inner :=
  { s with
    mapInfo := s.mapInfo.insert nodeId { row with isTried := false }
    triedMatrix := Function.update s.triedMatrix slot emptyCell
    usedTriedMatrixPositions := s.usedTriedMatrixPositions.erase slot
    triedCount := s.triedCount - 1
    newCount := s.newCount + 1 }

/-- A new row without references that has taken a tried cell. -/
def promote (s : Inner) (slot : TriedSlot) (nodeId : NodeId) (row : ExtendedPeerInfo) : Inner :=
  { s with
    mapInfo := s.mapInfo.insert nodeId { row with isTried := true }
    triedMatrix := Function.update s.triedMatrix slot (cellOf nodeId)
    usedTriedMatrixPositions := insert slot s.usedTriedMatrixPositions
    newCount := s.newCount - 1
    triedCount := s.triedCount + 1 }

end Inner

theorem Core.demote (core : Core sha256 s) {nodeId : NodeId} {row : ExtendedPeerInfo}
    (found : s.mapInfo.lookup nodeId = some row) (tried : row.isTried = true) :
    Core sha256 (s.demote (row.triedSlot sha256 s.key) nodeId row) := by
  have unreferenced := core.tried_refCount found tried
  refine {
    names := core.names.congr (map_lookup_insert found _ rfl)
    allocated := FiniteMap.forall_key_insert found core.allocated
    room := core.room
    ordered := core.ordered.congr (map_lookup_insert found _ rfl)
    newCount := ?_
    triedCount := ?_
    newTable := core.newTable.rewrite found unreferenced unreferenced
    triedTable := core.triedTable.vacate found tried rfl }
  · have counted := FiniteMap.countWhere_insert s.mapInfo isNewRow nodeId
      { row with isTried := false }
    have total := core.newCount
    simp only [found, FiniteMap.weight_some, isNewRow, tried, Bool.not_true, Bool.not_false,
      Bool.false_eq_true, if_false, if_true] at counted
    show s.newCount + 1 = FiniteMap.countWhere (s.mapInfo.insert nodeId _) isNewRow
    omega
  · have counted := FiniteMap.countWhere_insert s.mapInfo isTriedRow nodeId
      { row with isTried := false }
    have total := core.triedCount
    simp only [found, FiniteMap.weight_some, isTriedRow, tried, Bool.false_eq_true, if_false,
      if_true] at counted
    show s.triedCount - 1 = FiniteMap.countWhere (s.mapInfo.insert nodeId _) isTriedRow
    omega

theorem Core.promote (core : Core sha256 s) {nodeId : NodeId} {row : ExtendedPeerInfo}
    (found : s.mapInfo.lookup nodeId = some row) (isNew : row.isTried = false)
    (unreferenced : row.refCount = 0)
    (vacant : s.triedMatrix (row.triedSlot sha256 s.key) = emptyCell) :
    Core sha256 (s.promote (row.triedSlot sha256 s.key) nodeId row) := by
  refine {
    names := core.names.congr (map_lookup_insert found _ rfl)
    allocated := FiniteMap.forall_key_insert found core.allocated
    room := core.room
    ordered := core.ordered.congr (map_lookup_insert found _ rfl)
    newCount := ?_
    triedCount := ?_
    newTable := core.newTable.rewrite found unreferenced unreferenced
    triedTable := core.triedTable.seat found isNew rfl rfl vacant core.newTable.proper }
  · have counted := FiniteMap.countWhere_insert s.mapInfo isNewRow nodeId
      { row with isTried := true }
    have total := core.newCount
    simp only [found, FiniteMap.weight_some, isNewRow, isNew, Bool.not_true, Bool.not_false,
      Bool.false_eq_true, if_false, if_true] at counted
    show s.newCount - 1 = FiniteMap.countWhere (s.mapInfo.insert nodeId _) isNewRow
    omega
  · have counted := FiniteMap.countWhere_insert s.mapInfo isTriedRow nodeId
      { row with isTried := true }
    have total := core.triedCount
    simp only [found, FiniteMap.weight_some, isTriedRow, isNew, Bool.false_eq_true, if_false,
      if_true] at counted
    show s.triedCount + 1 = FiniteMap.countWhere (s.mapInfo.insert nodeId _) isTriedRow
    omega

/-! ## Clearing a cell without the evicted row -/

namespace Inner

/-- A state as `make_tried` sees it once its row is no longer counted as new. -/
def uncounted (s : Inner) : Inner :=
  { s with newCount := s.newCount - 1 }

/-- A state as `make_tried` sees it while it holds the evicted row: the row is
out of the map, and neither it nor the promoted row is counted as new. -/
def withoutRow (s : Inner) (nodeId : NodeId) : Inner :=
  { s with mapInfo := s.mapInfo.erase nodeId, newCount := s.newCount - 2 }

theorem withoutRow_lookup (s : Inner) {nodeId other : NodeId} (apart : other ≠ nodeId) :
    (s.withoutRow nodeId).mapInfo.lookup other = s.mapInfo.lookup other :=
  (FiniteMap.lookup_erase_eq s.mapInfo nodeId other).trans (if_neg apart)

theorem unref_withoutRow (s : Inner) (slot : NewSlot) {nodeId evicted : NodeId}
    (apart : nodeId ≠ evicted) (row : ExtendedPeerInfo) :
    (s.withoutRow evicted).unref slot nodeId row = (s.unref slot nodeId row).withoutRow evicted := by
  simp only [unref, withoutRow, setRow, setNewMatrix]
  rw [FiniteMap.erase_insert_of_ne s.mapInfo (Ne.symm apart)]

/-- Deleting a row commutes with taking out one that does not move. -/
theorem dropEntry_withoutRow (s : Inner) {nodeId last evicted : NodeId} (stays : last ≠ evicted)
    (row : ExtendedPeerInfo) (place : Nat) :
    (s.withoutRow evicted).dropEntry nodeId last row place =
      { (s.dropEntry nodeId last row place).withoutRow evicted with
        newCount := s.newCount - 2 - 1 } := by
  simp only [dropEntry, withoutRow]
  congr 1
  apply Finmap.ext_lookup
  intro other
  simp only [FiniteMap.lookup_erase_eq, FiniteMap.lookup_adjust_eq, if_neg stays]
  by_cases isDropped : other = nodeId
  · simp [isDropped]
  · by_cases isEvicted : other = evicted
    · simp [isEvicted, Ne.symm stays]
    · simp [isDropped, isEvicted]

end Inner

/-- The evicted row would lose its place: clearing the cell it returns to
deletes another row, and the evicted row is the last of the order. -/
def LosesPlace (s : Inner) (slot : NewSlot) (evicted : NodeId) : Prop :=
  s.randomPos[s.randomPos.length - 1]? = some evicted ∧
    exists row, s.mapInfo.lookup (nodeOf (s.newMatrix slot)) = some row ∧ row.refCount = 1

/-- Clearing a cell commutes with taking out a row that no cell names. -/
theorem clearNew_withoutRow (core : Core sha256 s) {evicted promoted : NodeId}
    {row other : ExtendedPeerInfo} (found : s.mapInfo.lookup evicted = some row)
    (isNew : row.isTried = false) (unreferenced : row.refCount = 0)
    (present : s.mapInfo.lookup promoted = some other) (otherNew : other.isTried = false)
    (otherUnreferenced : other.refCount = 0) (different : promoted ≠ evicted) {slot : NewSlot}
    (keeps : ¬ LosesPlace s slot evicted) :
    exists t, s.clearNew slot = some t ∧
      (s.withoutRow evicted).clearNew slot = some (t.withoutRow evicted) ∧
      t.mapInfo.lookup evicted = some row := by
  by_cases vacant : s.newMatrix slot = emptyCell
  · exact ⟨s, Inner.clearNew_empty vacant, Inner.clearNew_empty vacant, found⟩
  · rcases core.newTable.cell slot vacant with ⟨held, atCell, heldNew, _⟩
    have holds : s.newMatrix slot = cellOf (nodeOf (s.newMatrix slot)) := (cellOf_nodeOf _).symm
    have keeps : held.refCount = 1 -> s.randomPos[s.randomPos.length - 1]? ≠ some evicted :=
      fun single isLast => keeps ⟨isLast, held, atCell, single⟩
    generalize nodeOf (s.newMatrix slot) = heldId at atCell holds
    have counted : 1 ≤ held.refCount := by
      rw [core.newTable.refs heldId held atCell]
      exact occurrences_pos holds
    have notEvicted : heldId ≠ evicted := by
      intro same
      exact core.newTable.unreferenced found unreferenced slot (same ▸ holds)
    have notPromoted : heldId ≠ promoted := by
      intro same
      exact core.newTable.unreferenced present otherUnreferenced slot (same ▸ holds)
    have still : (s.withoutRow evicted).mapInfo.lookup heldId = some held :=
      (s.withoutRow_lookup notEvicted).trans atCell
    have proper := core.proper atCell
    rw [Inner.clearNew_full holds proper atCell counted,
      @Inner.clearNew_full (s.withoutRow evicted) _ _ _ holds proper still counted,
      s.unref_withoutRow slot notEvicted]
    by_cases single : held.refCount = 1
    · rw [if_pos single, if_pos single]
      have unrefCore := core.unref atCell holds
      have seen := s.unref_lookup slot heldId held heldId
      rw [if_pos rfl] at seen
      rcases unrefCore.ordered.index seen with ⟨place, points, here⟩
      rcases unrefCore.lastId seen with ⟨last, atEnd⟩
      have notLast : last ≠ evicted := by
        intro same
        exact keeps single (same ▸ atEnd)
      have atLeastThree : 3 ≤ s.newCount := by
        rw [core.newCount]
        exact FiniteMap.countWhere_three notEvicted notPromoted (Ne.symm different) atCell found
          present (by simp [isNewRow, heldNew]) (by simp [isNewRow, isNew])
          (by simp [isNewRow, otherNew])
      have dropped := Inner.deleteNewEntry_eq seen points here atEnd
        unrefCore.ordered.linked.nodup (unrefCore.newCount_pos seen heldNew)
      have seenWithout := ((s.unref slot heldId held).withoutRow_lookup notEvicted).trans seen
      have enough : 1 ≤ ((s.unref slot heldId held).withoutRow evicted).newCount := by
        show 1 ≤ s.newCount - 2
        omega
      have droppedWithout := Inner.deleteNewEntry_eq seenWithout points here atEnd
        unrefCore.ordered.linked.nodup enough
      refine ⟨_, dropped, ?_, ?_⟩
      · rw [droppedWithout, Inner.dropEntry_withoutRow _ notLast]
        have count : (s.unref slot heldId held).newCount - 2 - 1 =
            (s.unref slot heldId held).newCount - 1 - 2 := by omega
        rw [count]
        rfl
      · rw [Inner.dropEntry_lookup, if_neg (Ne.symm notEvicted), if_neg (Ne.symm notLast),
          Inner.unref_lookup, if_neg (Ne.symm notEvicted)]
        exact found
    · rw [if_neg single, if_neg single]
      refine ⟨_, rfl, rfl, ?_⟩
      rw [Inner.unref_lookup, if_neg (Ne.symm notEvicted)]
      exact found

/-! ## The whole of `make_tried` -/

/-- The defect of the eviction branch, as a test on the state before the call:
the evicted row is the last of the order, and the new-table cell it returns to
is held by another row, not the promoted one, with a single reference. -/
def staleEviction (sha256 : Digest) (s : Inner) (nodeId : NodeId) : Bool :=
  match s.mapInfo.lookup nodeId with
  | none => false
  | some row =>
      let evictId := nodeOf (s.triedMatrix (row.triedSlot sha256 s.key))
      match s.mapInfo.lookup evictId with
      | none => false
      | some evicted =>
          let held := s.newMatrix (Inner.returnSlot sha256 s.key evicted)
          s.randomPos[s.randomPos.length - 1]? == some evictId && held != cellOf nodeId &&
            (s.mapInfo.lookup (nodeOf held)).any fun row => row.refCount == 1

/-- The eviction branch, given how clearing the cell goes. -/
theorem evictTried_eq {t : Inner} {slot : TriedSlot} {evictId : NodeId} {row : ExtendedPeerInfo}
    (named : nodeOf (s.triedMatrix slot) = evictId) (found : s.mapInfo.lookup evictId = some row)
    (counted : 1 ≤ s.triedCount)
    (cleared : Inner.clearNew
      { s with
        mapInfo := s.mapInfo.erase evictId
        triedMatrix := Function.update s.triedMatrix slot emptyCell
        usedTriedMatrixPositions := s.usedTriedMatrixPositions.erase slot
        triedCount := s.triedCount - 1 } (Inner.returnSlot sha256 s.key row) = some t)
    (fits : t.newCount + 1 ≤ u32Max) :
    s.evictTried sha256 slot = some
      { t.setNewMatrix (Inner.returnSlot sha256 s.key row) (cellOf evictId) with
        newCount := t.newCount + 1
        mapInfo := t.mapInfo.insert evictId { row with isTried := false, refCount := 1 } } := by
  have countdown : checkedSub s.triedCount 1 = some (s.triedCount - 1) := checkedSub_eq counted
  have countup : checkedAdd t.newCount 1 = some (t.newCount + 1) := checkedAdd_eq fits
  have sameSlot : Inner.returnSlot sha256 s.key { row with isTried := false } =
      Inner.returnSlot sha256 s.key row := rfl
  unfold Inner.evictTried
  rw [named]
  simp only [found, Inner.setTriedMatrix, if_true, countdown, Option.bind_eq_bind, Option.bind_some,
    sameSlot, cleared]
  simp only [Inner.setNewMatrix, countup, Option.bind_some]

/-- A demoted row taken out of the map leaves the state that the eviction branch
starts to clear a cell of. -/
theorem demote_withoutRow (s : Inner) (slot : TriedSlot) (evictId : NodeId)
    (evicted : ExtendedPeerInfo) :
    (s.demote slot evictId evicted).withoutRow evictId =
      { s.uncounted with
        mapInfo := s.mapInfo.erase evictId
        triedMatrix := Function.update s.triedMatrix slot emptyCell
        usedTriedMatrixPositions := s.usedTriedMatrixPositions.erase slot
        triedCount := s.triedCount - 1 } := by
  simp only [Inner.withoutRow, Inner.demote, Inner.uncounted, FiniteMap.erase_insert]
  rfl

/-- A demotion does not make the demoted row lose its place. -/
theorem LosesPlace.of_demote {slot : TriedSlot} {newSlot : NewSlot} {evictId : NodeId}
    {evicted : ExtendedPeerInfo} (unreferenced : evicted.refCount = 0)
    (loses : LosesPlace (s.demote slot evictId evicted) newSlot evictId) :
    LosesPlace s newSlot evictId := by
  rcases loses with ⟨isLast, row, held, single⟩
  rcases FiniteMap.of_lookup_insert held with ⟨_, rfl⟩ | ⟨_, old⟩
  · exact absurd (unreferenced.symm.trans single) Nat.zero_ne_one
  · exact ⟨isLast, row, old, single⟩

theorem Rooted.demote {slot : TriedSlot} {promoted evictId : NodeId} {evicted : ExtendedPeerInfo}
    (rooted : Rooted s fun nodeId => nodeId = promoted) :
    Rooted (s.demote slot evictId evicted) fun nodeId => nodeId = promoted ∨ nodeId = evictId := by
  intro nodeId written seen isNew
  rcases FiniteMap.of_lookup_insert seen with ⟨rfl, _⟩ | ⟨_, seen⟩
  · exact Or.inr (Or.inr rfl)
  · exact (rooted nodeId written seen isNew).imp_right Or.inl

/-- Without the defect the eviction branch is a demotion, a clearing and a
placement, and it leaves the tried cell empty. -/
theorem evictTried_spec (core : Core sha256 s) {promoted : NodeId} {other : ExtendedPeerInfo}
    (present : s.mapInfo.lookup promoted = some other) (otherNew : other.isTried = false)
    (otherUnreferenced : other.refCount = 0)
    (rooted : Rooted s fun nodeId => nodeId = promoted) {slot : TriedSlot}
    (occupied : s.triedMatrix slot ≠ emptyCell)
    (keeps : forall evicted, s.mapInfo.lookup (nodeOf (s.triedMatrix slot)) = some evicted ->
      ¬ LosesPlace s (Inner.returnSlot sha256 s.key evicted) (nodeOf (s.triedMatrix slot))) :
    exists t row, s.uncounted.evictTried sha256 slot = some t.uncounted ∧ Core sha256 t ∧
      t.mapInfo.lookup promoted = some row ∧ unplaced row = unplaced other ∧
      t.triedMatrix slot = emptyCell ∧ t.key = s.key ∧ t.idCount = s.idCount ∧
      Rooted t fun nodeId => nodeId = promoted := by
  rcases core.triedTable.cell slot occupied with ⟨evicted, found, tried, seat⟩
  have keeps := keeps evicted found
  generalize idEq : nodeOf (s.triedMatrix slot) = evictId at found keeps
  generalize slotEq : Inner.returnSlot sha256 s.key evicted = newSlot at keeps
  have different : promoted ≠ evictId := by
    intro same
    rw [same, found] at present
    cases present
    rw [tried] at otherNew
    cases otherNew
  have unreferenced : evicted.refCount = 0 := core.tried_refCount found tried
  -- the demoted occupant
  have demotedCore := core.demote found tried
  rw [seat] at demotedCore
  have atEvicted : (s.demote slot evictId evicted).mapInfo.lookup evictId =
      some { evicted with isTried := false } := Finmap.lookup_insert s.mapInfo
  have atPromoted : (s.demote slot evictId evicted).mapInfo.lookup promoted = some other :=
    (Finmap.lookup_insert_of_ne s.mapInfo different).trans present
  have keepsDemoted : ¬ LosesPlace (s.demote slot evictId evicted) newSlot evictId :=
    fun loses => keeps (loses.of_demote unreferenced)
  -- the cleared cell
  rcases clearNew_withoutRow demotedCore atEvicted rfl
    unreferenced atPromoted otherNew otherUnreferenced different keepsDemoted with
    ⟨t, cleared, clearedWithout, kept⟩
  rcases clearNew_spec demotedCore newSlot with ⟨t', cleared', tCore, effect⟩
  have same : t' = t := Option.some.inj (cleared'.symm.trans cleared)
  subst same
  have unnamed : (s.demote slot evictId evicted).newMatrix newSlot ≠ cellOf promoted :=
    demotedCore.newTable.unreferenced atPromoted otherUnreferenced newSlot
  rcases effect.row atPromoted unnamed with ⟨row, atRow, sameRow⟩
  rcases unplaced_fields sameRow with ⟨_, rowTried, _⟩
  have vacant : t'.newMatrix newSlot = emptyCell := by
    rw [effect.matrix, Function.update_self]
  have keyEq : t'.key = s.key := effect.key
  -- the placed occupant
  have placed : Core sha256 (t'.placeAt newSlot evictId { evicted with isTried := false }) :=
    tCore.placeAt kept vacant rfl (by rw [keyEq, ← slotEq]; rfl)
      (by show evicted.refCount < newBucketsPerAddress; rw [unreferenced]; decide)
  have two : 2 ≤ t'.newCount := by
    rw [tCore.newCount]
    exact FiniteMap.countWhere_two different atRow kept (by simp [isNewRow, rowTried, otherNew])
      (by simp [isNewRow])
  refine ⟨t'.placeAt newSlot evictId { evicted with isTried := false }, row, ?_, placed, ?_,
    sameRow, ?_, keyEq, ?_, ?_⟩
  · have fits : t'.newCount - 2 + 1 ≤ u32Max := by
      have bound := tCore.newCount_le
      have room := tCore.room
      omega
    rw [demote_withoutRow, ← slotEq] at clearedWithout
    rw [evictTried_eq (s := s.uncounted) idEq found (core.triedCount_pos found tried)
      clearedWithout fits]
    have count : t'.newCount - 2 + 1 = t'.newCount - 1 := by omega
    simp only [Inner.withoutRow, Inner.placeAt, Inner.setNewMatrix, Inner.setRow, slotEq,
      Inner.uncounted, FiniteMap.insert_erase, count, unreferenced, Nat.zero_add]
  · rw [← atRow]
    exact Finmap.lookup_insert_of_ne t'.mapInfo different
  · have emptied : t'.triedMatrix = (s.demote slot evictId evicted).triedMatrix := by
      rw [effect.rest]
    show t'.triedMatrix slot = emptyCell
    rw [emptied]
    exact Function.update_self slot emptyCell s.triedMatrix
  · exact effect.idCount
  · exact (rooted.demote.cleared effect).placeAt fun nodeId either apart =>
      either.resolve_right apart

/-- The last part of `make_tried`, on a state whose tried cell is empty. -/
theorem seat_spec (core : Core sha256 s) {nodeId : NodeId} {row : ExtendedPeerInfo}
    (found : s.mapInfo.lookup nodeId = some row) (isNew : row.isTried = false)
    (unreferenced : row.refCount = 0) {slot : TriedSlot}
    (home : row.triedSlot sha256 s.key = slot) (vacant : s.triedMatrix slot = emptyCell) :
    Core sha256 (s.promote slot nodeId row) ∧
      (do
        let t := s.uncounted.setTriedMatrix slot (cellOf nodeId)
        let triedCount <- checkedAdd t.triedCount 1
        some { t with
          triedCount := triedCount
          mapInfo := FiniteMap.adjust t.mapInfo nodeId fun row => { row with isTried := true } }) =
        some (s.promote slot nodeId row) := by
  subst home
  have promoted := core.promote found isNew unreferenced vacant
  have fits : s.triedCount + 1 ≤ u32Max :=
    Nat.le_trans promoted.triedCount_le core.room
  refine ⟨promoted, ?_⟩
  simp only [Inner.setTriedMatrix, Inner.uncounted, if_neg (core.proper found),
    checkedAdd_eq fits, Option.bind_eq_bind, Option.bind_some, FiniteMap.adjust_of_lookup found,
    Inner.promote]

theorem Rooted.promote {nodeId : NodeId} (rooted : Rooted s fun other => other = nodeId)
    (slot : TriedSlot) (row : ExtendedPeerInfo) : Rooted (s.promote slot nodeId row) nobody := by
  intro other written seen isNew
  rcases FiniteMap.of_lookup_insert seen with ⟨_, rfl⟩ | ⟨apart, seen⟩
  · cases isNew
  · exact Or.inl ((rooted other written seen isNew).resolve_right apart)

/-- A place lost after the release is the defect seen before it. -/
theorem staleEviction_of_losesPlace {t : Inner} {nodeId evictId : NodeId}
    {row evicted : ExtendedPeerInfo} (found : s.mapInfo.lookup nodeId = some row)
    (released : Released s nodeId row t) (core : Core sha256 t)
    (present : t.mapInfo.lookup nodeId = some { row with refCount := 0 })
    (occupant : nodeOf (t.triedMatrix (row.triedSlot sha256 t.key)) = evictId)
    (seen : t.mapInfo.lookup evictId = some evicted) (different : evictId ≠ nodeId)
    (loses : LosesPlace t (Inner.returnSlot sha256 t.key evicted) evictId) :
    staleEviction sha256 s nodeId = true := by
  have keyEq : t.key = s.key := by
    rw [released.rest]
  have triedEq : t.triedMatrix = s.triedMatrix := by
    rw [released.rest]
  have orderEq : t.randomPos = s.randomPos := by
    rw [released.rest]
  rw [keyEq, triedEq] at occupant
  rw [keyEq] at loses
  rcases loses with ⟨isLast, held, atCell, single⟩
  generalize slotEq : Inner.returnSlot sha256 s.key evicted = slot at atCell
  have full : t.newMatrix slot ≠ emptyCell := by
    have proper := core.proper atCell
    rw [cellOf_nodeOf] at proper
    exact proper
  have sameCell : t.newMatrix slot = s.newMatrix slot := by
    rcases released.cells slot with same | ⟨_, emptied⟩
    · exact same
    · exact absurd emptied full
  have apart : s.newMatrix slot ≠ cellOf nodeId := by
    rw [← sameCell]
    exact core.newTable.unreferenced present rfl slot
  have seenBefore := (released.others evictId different).symm.trans seen
  have heldBefore : s.mapInfo.lookup (nodeOf (s.newMatrix slot)) = some held := by
    rw [← released.others, ← sameCell]
    · exact atCell
    · intro same
      exact apart (nodeOf_eq.mp same)
  unfold staleEviction
  simp only [found]
  rw [occupant]
  simp only [seenBefore]
  rw [slotEq, heldBefore]
  simp only [← orderEq, isLast, beq_self_eq_true, Option.any_some, single, Bool.and_true,
    Bool.true_and]
  exact bne_iff_ne.mpr apart

/-- `make_tried` on a new row keeps the invariant, unless its eviction branch
loses the evicted row's place. -/
theorem makeTried_spec (inv : Inv sha256 s) {nodeId : NodeId} {row : ExtendedPeerInfo}
    (found : s.mapInfo.lookup nodeId = some row) (isNew : row.isTried = false)
    (safe : staleEviction sha256 s nodeId = false) :
    exists t, s.makeTried sha256 nodeId = some t ∧ Inv sha256 t := by
  rcases releaseAll_spec inv.core found with ⟨t, looped, core, released, present⟩
  have keyEq : t.key = s.key := by
    rw [released.rest]
  have rooted : Rooted t fun other => other = nodeId := by
    intro other kept seen isNew
    by_cases same : other = nodeId
    · exact Or.inr same
    · rw [released.others other same] at seen
      exact Or.inl ((inv.rooted other kept seen isNew).resolve_right id)
  generalize slotEq : row.triedSlot sha256 t.key = slot
  have sameSlot : ({ row with refCount := 0 } : ExtendedPeerInfo).triedSlot sha256 t.key = slot :=
    slotEq
  unfold Inner.makeTried
  simp only [looped, present, Option.bind_eq_bind, Option.bind_some, guard_true, sameSlot]
  by_cases vacant : t.triedMatrix slot = emptyCell
  · have untouched : Inner.vacateTried sha256 { t with newCount := t.newCount - 1 } slot =
        some t.uncounted := if_pos vacant
    simp only [untouched, Option.bind_some]
    rcases seat_spec core present isNew rfl slotEq vacant with ⟨promoted, seated⟩
    exact ⟨_, seated, promoted, rooted.promote slot _, fun _ => ⟨nodeId, _, Finmap.lookup_insert _⟩⟩
  · rcases core.triedTable.cell slot vacant with ⟨evicted, seen, tried, _⟩
    have different : nodeOf (t.triedMatrix slot) ≠ nodeId := by
      intro same
      rw [same, present] at seen
      rw [← Option.some.inj seen, isNew] at tried
      cases tried
    have keeps : forall other, t.mapInfo.lookup (nodeOf (t.triedMatrix slot)) = some other ->
        ¬ LosesPlace t (Inner.returnSlot sha256 t.key other) (nodeOf (t.triedMatrix slot)) := by
      intro other atOther loses
      have stale := staleEviction_of_losesPlace found released core present
        (congrArg (fun home => nodeOf (t.triedMatrix home)) slotEq) atOther different loses
      rw [safe] at stale
      cases stale
    rcases evictTried_spec core present isNew rfl rooted vacant keeps with
      ⟨u, moved, evicting, uCore, atMoved, sameMoved, emptied, keyEq', _, uRooted⟩
    rcases unplaced_fields sameMoved with ⟨samePeer, sameTried, sameRefs⟩
    have home : moved.triedSlot sha256 u.key = slot := by
      rw [keyEq', ← slotEq]
      exact triedSlot_congr sha256 samePeer t.key
    rcases seat_spec uCore atMoved (sameTried.trans isNew) sameRefs home emptied with
      ⟨promoted, seated⟩
    have evicting : Inner.vacateTried sha256 { t with newCount := t.newCount - 1 } slot =
        some u.uncounted := (if_neg vacant).trans evicting
    simp only [evicting, Option.bind_some]
    exact ⟨_, seated, promoted, uRooted.promote slot _,
      fun _ => ⟨nodeId, _, Finmap.lookup_insert _⟩⟩

/-! ## No promotion fails -/

end Discovery
end DigGossip
