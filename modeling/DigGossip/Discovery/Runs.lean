import DigGossip.Discovery.Operations

namespace DigGossip
namespace Discovery

open Foundations DigGossip.Types

/-!
# The invariant along runs

Every operation keeps the invariant under the conditions that name the
defects, and so does every run.
-/

variable {sha256 : Digest} {s : Inner}

/-! ## One operation -/

/-- The clock of the last success, the pending collisions and the admission of
private addresses are outside the invariant. -/
theorem Inv.outside (inv : Inv sha256 s) (lastGood : Nat) (triedCollisions : List NodeId)
    (allowPrivateSubnets : Bool) :
    Inv sha256 { s with
      lastGood := lastGood, triedCollisions := triedCollisions
      allowPrivateSubnets := allowPrivateSubnets } where
  core := {
    names := inv.core.names
    allocated := inv.core.allocated
    room := inv.core.room
    ordered := inv.core.ordered
    newCount := inv.core.newCount
    triedCount := inv.core.triedCount
    newTable := inv.core.newTable
    triedTable := inv.core.triedTable }
  rooted := inv.rooted
  populated := inv.populated

/-- An operation that finds a row only rewrites clock fields of that row. -/
theorem find_cases (core : Core sha256 s) (addr : PeerInfo) :
    s.find addr = (none, none) ∨ exists nodeId row, s.find addr = (some nodeId, some row) ∧
      s.mapInfo.lookup nodeId = some row := by
  cases named : s.mapAddr.lookup addr.host with
  | none => exact Or.inl (find_unknown named)
  | some nodeId =>
      rcases find_known core named with ⟨row, seen, found, _⟩
      exact Or.inr ⟨nodeId, row, seen, found⟩

/-- An operation that rewrites the clock fields of the row of an address. -/
theorem rewrite_spec (inv : Inv sha256 s) {addr : PeerInfo} {t : Inner}
    (write : ExtendedPeerInfo -> ExtendedPeerInfo)
    (same : forall row, structuralView (write row) = structuralView row)
    (done : t = match s.find addr with
      | (some nodeId, some row) => if row.peerInfo ≠ addr then s else s.setRow nodeId (write row)
      | _ => s) : Inv sha256 t := by
  rw [done]
  rcases find_cases inv.core addr with unknown | ⟨nodeId, row, seen, found⟩
  · rw [unknown]
    exact inv
  · rw [seen]
    by_cases other : row.peerInfo ≠ addr
    · simp only [if_pos other]
      exact inv
    · simp only [if_neg other]
      exact inv.setRow found (same row)

theorem attempt_spec (inv : Inv sha256 s) (addr : PeerInfo) (countFailures : Bool)
    (timestamp : Nat) : Inv sha256 (s.attempt addr countFailures timestamp) := by
  refine rewrite_spec inv _ (fun row => ?_) (Eq.refl (s.attempt addr countFailures timestamp))
  dsimp only
  split
  · rfl
  · rfl

theorem connect_spec (inv : Inv sha256 s) (addr : PeerInfo) (timestamp : Nat) :
    Inv sha256 (s.connect addr timestamp) := by
  refine rewrite_spec inv _ (fun row => ?_) (Eq.refl (s.connect addr timestamp))
  split
  · rfl
  · rfl

variable (sha256) in
/-- The choice after a row is marked changes at most the pending collisions,
and promotes new rows only. -/
theorem chooseTarget_cases (s : Inner) (nodeId : NodeId) (info : ExtendedPeerInfo)
    (testBeforeEvict : Bool) (bucketRand : Fin newBucketCount) :
    (exists pending, s.chooseTarget sha256 nodeId info testBeforeEvict bucketRand =
      ({ s with triedCollisions := pending }, none)) ∨
    (s.chooseTarget sha256 nodeId info testBeforeEvict bucketRand = (s, some nodeId) ∧
      info.isTried = false) := by
  unfold Inner.chooseTarget
  by_cases tried : info.isTried = true
  · exact Or.inl ⟨s.triedCollisions, if_pos tried⟩
  · have isNew := Bool.eq_false_iff.mpr tried
    rw [if_neg tried]
    cases s.findNewBucket sha256 nodeId info bucketRand with
    | none => exact Or.inl ⟨s.triedCollisions, rfl⟩
    | some bucket =>
        simp only
        by_cases contested :
            testBeforeEvict = true ∧ s.triedMatrix (info.triedSlot sha256 s.key) ≠ emptyCell
        · rw [if_pos contested]
          by_cases room : s.triedCollisions.length < triedCollisionSize
          · rw [if_pos room]
            by_cases queued : nodeId ∈ s.triedCollisions
            · exact Or.inl ⟨s.triedCollisions, if_pos queued⟩
            · exact Or.inl ⟨_, if_neg queued⟩
          · exact Or.inr ⟨if_neg room, isNew⟩
        · exact Or.inr ⟨if_neg contested, isNew⟩

/-- What `mark_good_` leaves before a promotion: the invariant, and a new row
when there is one to promote. -/
theorem markGoodTarget_spec (inv : Inv sha256 s) (addr : PeerInfo) (testBeforeEvict : Bool)
    (timestamp : Nat) (bucketRand : Fin newBucketCount) :
    exists t target, s.markGoodTarget sha256 addr testBeforeEvict timestamp bucketRand = (t, target) ∧
      Inv sha256 t ∧ forall nodeId, target = some nodeId ->
        exists row, t.mapInfo.lookup nodeId = some row ∧ row.isTried = false := by
  have stamped : Inv sha256 { s with lastGood := timestamp } :=
    inv.outside timestamp s.triedCollisions s.allowPrivateSubnets
  have untargeted : forall nodeId, (none : Option NodeId) = some nodeId ->
      exists row, s.mapInfo.lookup nodeId = some row ∧ row.isTried = false :=
    fun _ absent => by cases absent
  unfold Inner.markGoodTarget
  rcases find_cases stamped.core addr with unknown | ⟨nodeId, row, seen, found⟩
  · simp only [unknown]
    exact ⟨_, none, rfl, stamped, untargeted⟩
  · simp only [seen]
    by_cases isPrivate : (hostIsPrivate addr.host && !s.allowPrivateSubnets) = true
    · rw [if_pos isPrivate]
      exact ⟨_, none, rfl, stamped, untargeted⟩
    · rw [if_neg isPrivate]
      by_cases other : row.peerInfo ≠ addr
      · rw [if_pos other]
        exact ⟨_, none, rfl, stamped, untargeted⟩
      · rw [if_neg other]
        have marked := stamped.setRow found (show structuralView { row with
          lastSuccess := timestamp, lastTry := timestamp, numAttempts := 0 } = _ from rfl)
        rcases chooseTarget_cases sha256 (Inner.setRow { s with lastGood := timestamp }
          nodeId _) nodeId _ testBeforeEvict bucketRand with ⟨pending, chosen⟩ | ⟨chosen, isNew⟩
        · refine ⟨_, none, chosen, marked.outside _ pending _, fun _ absent => by cases absent⟩
        · refine ⟨_, some nodeId, chosen, marked, ?_⟩
          intro target same
          cases same
          exact ⟨_, Finmap.lookup_insert s.mapInfo, isNew⟩

theorem markGood_spec (inv : Inv sha256 s) (addr : PeerInfo) (testBeforeEvict : Bool)
    (timestamp : Nat) (bucketRand : Fin newBucketCount)
    (safe : markGoodSafe sha256 s addr testBeforeEvict timestamp bucketRand = true) :
    exists t, s.markGood sha256 addr testBeforeEvict timestamp bucketRand = some t ∧
      Inv sha256 t := by
  rcases markGoodTarget_spec inv addr testBeforeEvict timestamp bucketRand with
    ⟨t, target, chosen, tInv, promotes⟩
  unfold markGoodSafe at safe
  unfold Inner.markGood
  rw [chosen] at safe ⊢
  cases target with
  | none => exact ⟨t, rfl, tInv⟩
  | some nodeId =>
      rcases promotes nodeId rfl with ⟨row, found, isNew⟩
      exact makeTried_spec tInv found isNew (by simpa using safe)

theorem retainCollisions_spec (inv : Inv sha256 s) (keep : NodeId -> Bool) :
    Inv sha256 (s.retainCollisions keep) :=
  inv.outside s.lastGood _ s.allowPrivateSubnets

theorem resolvePending_spec (now : Nat) (pending : List NodeId) :
    forall {s : Inner} (draws : Nat -> Fin newBucketCount), Inv sha256 s ->
      pendingSafe sha256 s now draws pending = true ->
      exists t, s.resolvePending sha256 now draws pending = some t ∧ Inv sha256 t := by
  induction pending with
  | nil =>
      intro s draws inv _
      exact ⟨s, rfl, inv⟩
  | cons nodeId pending ih =>
      intro s draws inv safe
      unfold pendingSafe at safe
      rw [Bool.and_eq_true] at safe
      rcases safe with ⟨here, later⟩
      have resolved : exists t, s.resolveOne sha256 now (draws 0) nodeId = some t ∧
          Inv sha256 t := by
        unfold Inner.resolveOne
        cases verdict : s.collisionVerdict sha256 now nodeId with
        | keep => exact ⟨s, rfl, inv⟩
        | drop => exact ⟨_, rfl, retainCollisions_spec inv _⟩
        | promote peer =>
            rw [verdict] at here
            rcases markGood_spec inv peer false now (draws 0) here with ⟨t, marked, tInv⟩
            simp only [marked, Option.bind_eq_bind, Option.bind_some]
            exact ⟨_, rfl, retainCollisions_spec tInv _⟩
      rcases resolved with ⟨t, stepped, tInv⟩
      rw [stepped] at later
      rcases ih _ tInv later with ⟨u, rest, uInv⟩
      refine ⟨u, ?_, uInv⟩
      unfold Inner.resolvePending
      simp only [stepped, Option.bind_eq_bind, Option.bind_some]
      exact rest

theorem addToNewTable_spec (source : PeerInfo) (penalty : Nat)
    (peerList : List (TimestampedPeerInfo × Inner.AddInputs)) :
    forall {s : Inner}, Inv sha256 s -> additionsRoom sha256 s source penalty peerList = true ->
      exists t, s.addToNewTable sha256 peerList source penalty = some t ∧ Inv sha256 t := by
  induction peerList with
  | nil =>
      intro s inv _
      exact ⟨s, rfl, inv⟩
  | cons peer peerList ih =>
      intro s inv room
      unfold additionsRoom at room
      rw [Bool.and_eq_true] at room
      have here : createsRow s peer.1 = true -> s.idCount.toNat + 1 < u32Max := by
        intro creates
        simpa [creates] using room.1
      rcases addOne_spec inv peer.1 source penalty peer.2 here with ⟨t, added, tInv⟩
      have later := room.2
      rw [added] at later
      rcases ih tInv later with ⟨u, rest, uInv⟩
      refine ⟨u, ?_, uInv⟩
      unfold Inner.addToNewTable at rest ⊢
      rw [List.foldlM_cons, added]
      exact rest

/-- Every operation but saving succeeds and keeps the invariant. -/
theorem step_spec (inv : Inv sha256 s) (op : Operation) (safe : evictionSafe sha256 s op = true)
    (room : roomFor sha256 s op = true) :
    (exists t, step sha256 s op = some t ∧ Inv sha256 t) ∨ op = .save := by
  cases op with
  | addToNewTable peerList src penalty =>
      exact Or.inl (addToNewTable_spec src penalty peerList inv room)
  | markGood addr testBeforeEvict timestamp bucketRand =>
      exact Or.inl (markGood_spec inv addr testBeforeEvict timestamp bucketRand safe)
  | attempt addr countFailures timestamp =>
      exact Or.inl ⟨_, rfl, attempt_spec inv addr countFailures timestamp⟩
  | connect addr timestamp => exact Or.inl ⟨_, rfl, connect_spec inv addr timestamp⟩
  | selectPeer newOnly inputs => exact Or.inl ⟨s, rfl, inv⟩
  | selectTriedCollision draw => exact Or.inl ⟨_, rfl, retainCollisions_spec inv _⟩
  | resolveTriedCollisions now draws =>
      exact Or.inl (resolvePending_spec now s.triedCollisions draws inv safe)
  | setAllowPrivateSubnets allow => exact Or.inl ⟨_, rfl, inv.outside s.lastGood _ allow⟩
  | save => exact Or.inr rfl

/-! ## The allocator only grows -/

theorem swapRandom_idCount {t : Inner} {r1 r2 : Nat} (done : s.swapRandom r1 r2 = some t) :
    t.idCount = s.idCount := by
  unfold Inner.swapRandom at done
  by_cases same : r1 = r2
  · rw [if_pos same] at done
    cases done
    rfl
  · rw [if_neg same] at done
    cases first : s.randomPos[r1]? with
    | none => simp [first] at done
    | some id1 =>
        cases second : s.randomPos[r2]? with
        | none => simp [second] at done
        | some id2 =>
            simp only [first, second, Option.some.injEq] at done
            rw [← done]

theorem deleteNewEntry_idCount {t : Inner} {nodeId : NodeId}
    (done : s.deleteNewEntry nodeId = some t) : t.idCount = s.idCount := by
  unfold Inner.deleteNewEntry at done
  cases found : s.mapInfo.lookup nodeId with
  | none =>
      simp only [found, Option.some.injEq] at done
      rw [done]
  | some info =>
      cases points : info.randomPos with
      | none =>
          simp only [found, points, Option.some.injEq] at done
          rw [done]
      | some rp =>
          simp only [found, points, Option.bind_eq_bind, Option.bind_eq_some_iff,
            Option.some.injEq] at done
          rcases done with ⟨_, _, u, swapped, _, _, _, _, same⟩
          have kept := swapRandom_idCount swapped
          rw [← same]
          exact kept

theorem clearNew_idCount {t : Inner} {slot : NewSlot} (done : s.clearNew slot = some t) :
    t.idCount = s.idCount := by
  unfold Inner.clearNew at done
  by_cases vacant : s.newMatrix slot = emptyCell
  · rw [if_pos vacant] at done
    cases done
    rfl
  · rw [if_neg vacant] at done
    cases found : s.mapInfo.lookup (nodeOf (s.newMatrix slot)) with
    | none =>
        simp only [found, Option.some.injEq] at done
        rw [← done]
        rfl
    | some info =>
        simp only [found] at done
        by_cases negative : info.refCount = 0
        · rw [if_pos negative] at done
          cases done
        · rw [if_neg negative] at done
          by_cases single : info.refCount - 1 = 0
          · rw [if_pos single] at done
            have kept := deleteNewEntry_idCount done
            exact kept
          · rw [if_neg single] at done
            cases done
            rfl

theorem releaseBucket_idCount {t : Inner} {nodeId : NodeId} {bucket : Fin newBucketCount}
    (done : s.releaseBucket sha256 nodeId bucket = some t) : t.idCount = s.idCount := by
  unfold Inner.releaseBucket at done
  cases found : s.mapInfo.lookup nodeId with
  | none => simp [found] at done
  | some info =>
      simp only [found] at done
      split at done
      · cases done
        rfl
      · cases done
        rfl

theorem evictTried_idCount {t : Inner} {slot : TriedSlot}
    (done : s.evictTried sha256 slot = some t) : t.idCount = s.idCount := by
  unfold Inner.evictTried at done
  cases found : s.mapInfo.lookup (nodeOf (s.triedMatrix slot)) with
  | none => simp [found] at done
  | some row =>
      simp only [found, Option.bind_eq_bind, Option.bind_eq_some_iff, Option.some.injEq] at done
      rcases done with ⟨_, _, u, cleared, _, _, same⟩
      have kept := clearNew_idCount cleared
      rw [← same]
      exact kept

/-- A relation kept by every turn of a loop is kept by the loop. -/
theorem foldlM_preserves {A B : Type} {f : B -> A -> Option B} (related : B -> B -> Prop)
    (refl : forall b, related b b)
    (trans : forall {a b c}, related a b -> related b c -> related a c)
    (turn : forall {b a c}, f b a = some c -> related b c) (items : List A) :
    forall {start finish : B}, items.foldlM f start = some finish -> related start finish := by
  induction items with
  | nil =>
      intro start finish done
      cases done
      exact refl start
  | cons item items ih =>
      intro start finish done
      rw [List.foldlM_cons, Option.bind_eq_bind, Option.bind_eq_some_iff] at done
      rcases done with ⟨next, first, rest⟩
      exact trans (turn first) (ih rest)

theorem makeTried_idCount {t : Inner} {nodeId : NodeId}
    (done : s.makeTried sha256 nodeId = some t) : t.idCount = s.idCount := by
  unfold Inner.makeTried at done
  simp only [Option.bind_eq_bind, Option.bind_eq_some_iff, Option.some.injEq] at done
  rcases done with ⟨u, looped, _, _, _, _, v, evicted, _, _, same⟩
  have first : s.idCount = u.idCount :=
    foldlM_preserves (fun before after : Inner => before.idCount = after.idCount)
      (fun _ => rfl) Eq.trans (fun done => (releaseBucket_idCount done).symm) _ looped
  have second : v.idCount = u.idCount := by
    unfold Inner.vacateTried at evicted
    split at evicted
    · cases evicted
      rfl
    · have kept := evictTried_idCount evicted
      exact kept
  rw [← same]
  exact second.trans first.symm

variable (sha256) in
theorem markGoodTarget_idCount (s : Inner) (addr : PeerInfo) (testBeforeEvict : Bool)
    (timestamp : Nat) (bucketRand : Fin newBucketCount) :
    (s.markGoodTarget sha256 addr testBeforeEvict timestamp bucketRand).1.idCount = s.idCount := by
  unfold Inner.markGoodTarget
  simp only
  split
  · split
    · rfl
    · split
      · rfl
      · rename_i nodeId info _ _ _
        rcases chooseTarget_cases sha256 (Inner.setRow { s with lastGood := timestamp }
          nodeId _) nodeId _ testBeforeEvict bucketRand with ⟨pending, chosen⟩ | ⟨chosen, _⟩
        · rw [chosen]
          rfl
        · rw [chosen]
          rfl
  · rfl

theorem markGood_idCount {t : Inner} {addr : PeerInfo} {testBeforeEvict : Bool}
    {timestamp : Nat} {bucketRand : Fin newBucketCount}
    (done : s.markGood sha256 addr testBeforeEvict timestamp bucketRand = some t) :
    t.idCount = s.idCount := by
  have targeted := markGoodTarget_idCount sha256 s addr testBeforeEvict timestamp bucketRand
  unfold Inner.markGood at done
  cases chosen : s.markGoodTarget sha256 addr testBeforeEvict timestamp bucketRand with
  | mk u target =>
      rw [chosen] at done targeted
      cases target with
      | none =>
          cases done
          exact targeted
      | some nodeId => exact (makeTried_idCount done).trans targeted

theorem offerCell_idCount {t : Inner} {nodeId : NodeId} {source : PeerInfo} {nowAgain : Nat}
    (done : s.offerCell sha256 nodeId source nowAgain = some t) : t.idCount = s.idCount := by
  unfold Inner.offerCell at done
  have placed (slot : NewSlot) (given : (do
      let s <- s.clearNew slot
      let info <- s.mapInfo.lookup nodeId
      let refCount <- checkedAdd info.refCount 1
      some ((s.setRow nodeId { info with refCount := refCount }).setNewMatrix slot
        (cellOf nodeId))) = some t) : t.idCount = s.idCount := by
    simp only [Option.bind_eq_bind, Option.bind_eq_some_iff, Option.some.injEq] at given
    rcases given with ⟨u, cleared, _, _, _, _, same⟩
    have kept := clearNew_idCount cleared
    rw [← same]
    exact kept
  cases found : s.mapInfo.lookup nodeId with
  | none => simp [found] at done
  | some info =>
      simp only [found] at done
      split at done
      · cases done
        rfl
      · split at done
        · exact placed _ done
        · split at done
          · cases done
          · split at done
            · exact placed _ done
            · split at done
              · exact deleteNewEntry_idCount done
              · cases done
                rfl

theorem insertRow_idCount {t : Inner} {nodeId : NodeId} {addr : TimestampedPeerInfo}
    {source : PeerInfo} {penalty : Nat} (done : s.insertRow addr source penalty = some (t, nodeId)) :
    t.idCount = if s.idCount.toNat + 1 ≤ u32Max then s.idCount + 1 else s.idCount := by
  unfold Inner.insertRow Inner.createRow at done
  simp only [Option.bind_eq_bind, Option.bind_eq_some_iff, Option.some.injEq, Prod.mk.injEq] at done
  rcases done with ⟨_, _, same, _⟩
  rw [← same]

/-- A row that is created takes the next id, as long as there is one. -/
theorem created_idCount {t u : Inner} {addr : TimestampedPeerInfo} {source : PeerInfo}
    {penalty now : Nat} {nodeId : NodeId}
    (inserted : s.insertRow addr source penalty = some (u, nodeId))
    (offered : u.offerCell sha256 nodeId source now = some t) :
    s.idCount.toNat ≤ t.idCount.toNat ∧
      (t.idCount.toNat < u32Max -> s.idCount.toNat + 1 < u32Max) := by
  rw [offerCell_idCount offered, insertRow_idCount inserted]
  by_cases room : s.idCount.toNat + 1 ≤ u32Max
  · rw [if_pos room, nextId_toNat room]
    exact ⟨Nat.le_succ _, id⟩
  · rw [if_neg room]
    omega

/-- One address allocates at most one id, and exactly one when it creates a row. -/
theorem addOne_idCount {t : Inner} {addr : TimestampedPeerInfo} {source : PeerInfo}
    {penalty : Nat} {inputs : Inner.AddInputs}
    (done : s.addOne sha256 addr source penalty inputs = some t) :
    s.idCount.toNat ≤ t.idCount.toNat ∧
      (createsRow s addr = true -> t.idCount.toNat < u32Max -> s.idCount.toNat + 1 < u32Max) := by
  unfold Inner.addOne at done
  by_cases isPrivate : (hostIsPrivate addr.host && !s.allowPrivateSubnets) = true
  · rw [if_pos isPrivate] at done
    cases done
    refine ⟨Nat.le_refl _, fun creates => ?_⟩
    simp [createsRow, isPrivate] at creates
  · rw [if_neg isPrivate] at done
    cases seen : s.find { host := addr.host, port := addr.port } with
    | mk id row =>
        rw [seen] at done
        cases id with
        | none =>
            simp only [Option.bind_eq_bind, Option.bind_eq_some_iff, Prod.exists] at done
            rcases done with ⟨u, nodeId, inserted, offered⟩
            have both := created_idCount inserted offered
            exact ⟨both.1, fun _ => both.2⟩
        | some nodeId =>
            cases row with
            | none =>
                simp only [Option.bind_eq_bind, Option.bind_eq_some_iff, Prod.exists] at done
                rcases done with ⟨u, nodeId, inserted, offered⟩
                have both := created_idCount inserted offered
                exact ⟨both.1, fun _ => both.2⟩
            | some existing =>
                have known : createsRow s addr = false := by
                  cases named : s.mapAddr.lookup addr.host with
                  | none =>
                      have unknown : s.find { host := addr.host, port := addr.port } = (none, none) :=
                        find_unknown named
                      rw [unknown] at seen
                      cases seen
                  | some other => simp [createsRow, named]
                simp only [Option.bind_eq_bind, Option.bind_eq_some_iff] at done
                rcases done with ⟨info, _, done⟩
                have same : t.idCount = s.idCount := by
                  have refreshed : (s.refreshRow addr penalty inputs.now nodeId existing).idCount =
                      s.idCount := by
                    unfold Inner.refreshRow
                    exact (apply_ite Inner.idCount _ _ _).trans (ite_self _)
                  split at done
                  · exact (offerCell_idCount done).trans refreshed
                  · cases done
                    exact refreshed
                rw [same, known]
                exact ⟨Nat.le_refl _, fun impossible => by cases impossible⟩

/-- Any list of addresses that ends below the allocator's limit had room. -/
theorem addToNewTable_room (source : PeerInfo) (penalty : Nat)
    (peerList : List (TimestampedPeerInfo × Inner.AddInputs)) :
    forall {s t : Inner}, s.addToNewTable sha256 peerList source penalty = some t ->
      s.idCount.toNat ≤ t.idCount.toNat ∧
        (t.idCount.toNat < u32Max -> additionsRoom sha256 s source penalty peerList = true) := by
  induction peerList with
  | nil =>
      intro s t done
      cases done
      exact ⟨Nat.le_refl _, fun _ => rfl⟩
  | cons peer peerList ih =>
      intro s t done
      unfold Inner.addToNewTable at done
      rw [List.foldlM_cons, Option.bind_eq_bind, Option.bind_eq_some_iff] at done
      rcases done with ⟨u, added, rest⟩
      have first := addOne_idCount added
      have later := ih rest
      refine ⟨Nat.le_trans first.1 later.1, fun bound => ?_⟩
      have below := Nat.lt_of_le_of_lt later.1 bound
      unfold additionsRoom
      rw [added, Bool.and_eq_true]
      refine ⟨?_, later.2 bound⟩
      cases creates : createsRow s peer.1 with
      | false => rfl
      | true => exact decide_eq_true (first.2 creates below)

theorem resolvePending_idCount (now : Nat) (pending : List NodeId) :
    forall {s t : Inner} {draws : Nat -> Fin newBucketCount},
      s.resolvePending sha256 now draws pending = some t -> t.idCount = s.idCount := by
  induction pending with
  | nil =>
      intro s t draws done
      cases done
      rfl
  | cons nodeId pending ih =>
      intro s t draws done
      unfold Inner.resolvePending at done
      simp only [Option.bind_eq_bind, Option.bind_eq_some_iff] at done
      rcases done with ⟨u, resolved, rest⟩
      have one : u.idCount = s.idCount := by
        unfold Inner.resolveOne at resolved
        cases verdict : s.collisionVerdict sha256 now nodeId with
        | keep =>
            rw [verdict] at resolved
            cases resolved
            rfl
        | drop =>
            rw [verdict] at resolved
            cases resolved
            rfl
        | promote peer =>
            simp only [verdict, Option.bind_eq_bind, Option.bind_eq_some_iff, Option.some.injEq]
              at resolved
            rcases resolved with ⟨v, marked, same⟩
            have kept := markGood_idCount marked
            rw [← same]
            exact kept
      exact (ih rest).trans one

theorem step_idCount {t : Inner} {op : Operation} (done : step sha256 s op = some t) :
    s.idCount.toNat ≤ t.idCount.toNat ∧ (t.idCount.toNat < u32Max -> roomFor sha256 s op = true) := by
  have keeps (same : t.idCount = s.idCount) (room : roomFor sha256 s op = true) :
      s.idCount.toNat ≤ t.idCount.toNat ∧ (t.idCount.toNat < u32Max -> roomFor sha256 s op = true) :=
    ⟨Nat.le_of_eq (congrArg UInt32.toNat same.symm), fun _ => room⟩
  cases op with
  | addToNewTable peerList src penalty => exact addToNewTable_room src penalty peerList done
  | markGood addr testBeforeEvict timestamp bucketRand => exact keeps (markGood_idCount done) rfl
  | attempt addr countFailures timestamp =>
      refine keeps ?_ rfl
      cases done
      unfold Inner.attempt
      split
      · exact (apply_ite Inner.idCount _ _ _).trans (ite_self _)
      · rfl
  | connect addr timestamp =>
      refine keeps ?_ rfl
      cases done
      unfold Inner.connect
      split
      · exact (apply_ite Inner.idCount _ _ _).trans (ite_self _)
      · rfl
  | selectPeer newOnly inputs =>
      cases done
      exact keeps rfl rfl
  | selectTriedCollision draw =>
      cases done
      exact keeps rfl rfl
  | resolveTriedCollisions now draws => exact keeps (resolvePending_idCount now _ done) rfl
  | setAllowPrivateSubnets allow =>
      cases done
      exact keeps rfl rfl
  | save =>
      rcases Option.map_eq_some_iff.mp done with ⟨_, _, same⟩
      exact keeps (congrArg Inner.idCount same.symm) rfl

/-! ## Runs -/

theorem run_idCount (ops : List Operation) {s t : Inner} (done : run sha256 ops s = some t) :
    s.idCount.toNat ≤ t.idCount.toNat :=
  foldlM_preserves (fun before after => before.idCount.toNat ≤ after.idCount.toNat)
    (fun _ => Nat.le_refl _) Nat.le_trans (fun done => (step_idCount done).1) ops done

/-- A test along a run holds of its first operation and along the rest. -/
theorem along_cons {test : Inner -> Operation -> Bool} {op : Operation} {ops : List Operation}
    {t : Inner} (tested : along sha256 test (op :: ops) s = true) (stepped : step sha256 s op = some t) :
    test s op = true ∧ along sha256 test ops t = true := by
  unfold along at tested
  rw [stepped, Bool.and_eq_true] at tested
  exact tested

/-- A run whose evictions are safe keeps the invariant, as long as the
allocator stays below its limit. -/
theorem run_inv (ops : List Operation) :
    forall {s t : Inner}, Inv sha256 s -> run sha256 ops s = some t -> t.idCount.toNat < u32Max ->
      along sha256 (evictionSafe sha256) ops s = true -> Inv sha256 t := by
  induction ops with
  | nil =>
      intro s t inv done _ _
      cases done
      exact inv
  | cons op ops ih =>
      intro s t inv done bound safe
      unfold run at done
      rw [List.foldlM_cons, Option.bind_eq_bind, Option.bind_eq_some_iff] at done
      rcases done with ⟨u, stepped, rest⟩
      have below : u.idCount.toNat < u32Max := Nat.lt_of_le_of_lt (run_idCount ops rest) bound
      rcases along_cons safe stepped with ⟨here, later⟩
      refine ih ?_ rest bound later
      rcases step_spec inv op here ((step_idCount stepped).2 below) with ⟨v, again, vInv⟩ | isSave
      · rw [stepped] at again
        cases again
        exact vInv
      · subst isSave
        rcases Option.map_eq_some_iff.mp stepped with ⟨_, _, same⟩
        rw [← same]
        exact inv

end Discovery
end DigGossip
