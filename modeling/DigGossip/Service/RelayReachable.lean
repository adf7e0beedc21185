import DigGossip.Service.State
import DigGossip.Types.PeerIdSpelling

namespace DigGossip
namespace Service

open Foundations DigGossip.Types

/-!
# The peers a relay reports

The set of relay-reachable peers is a set of texts, as the relay spelled them.
Only the test that leaves out this node's own id goes by normal forms; texts
are told apart, and compared with the connected peers, as they are.  The count
that enters the dial budget is compared here with the number of identities.
-/

/-- `set_relay_reachable`: the set is replaced by the reported texts that do
not name this node. -/
def setRelayReachable (_relayReachable : Finset String) (peerIdHexes : List String)
    (selfPeerIdHex : Option String) : Finset String :=
  let selfNormalized := selfPeerIdHex.map normalizePeerIdHex
  peerIdHexes.foldl (fun set id =>
    if selfNormalized = some (normalizePeerIdHex id) then set else insert id set) ∅

/-- `relay_reachable_excluding_connected`: the texts that are no connected
peer's id as it is printed. -/
def relayReachableExcludingConnected (relayReachable : Finset String) (peers : Peers) : Nat :=
  if relayReachable = ∅ then 0
  else
    let connectedHex := peers.keys.image peerIdToString
    (relayReachable.filter fun id => id ∉ connectedHex).card

/-- The peers the reported texts name, without this node and the peers held. -/
def reportedIdentities (peerIdHexes : List String) (selfPeerIdHex : Option String)
    (peers : Peers) : Finset PeerId :=
  (peerIdHexes.filterMap peerIdFromHex).toFinset.filter fun peerId =>
    selfPeerIdHex.bind peerIdFromHex ≠ some peerId ∧ peerId ∉ peers.keys

/-- The relay spells as this node does: what is not this node's id is a peer
id, a peer not held is spelled in one way, and a peer held as it is printed. -/
structure SpelledAlike (peerIdHexes : List String) (selfPeerIdHex : Option String)
    (peers : Peers) : Prop where
  readable : ∀ id ∈ peerIdHexes,
    selfPeerIdHex.map normalizePeerIdHex ≠ some (normalizePeerIdHex id) ->
      exists peerId, peerIdFromHex id = some peerId
  once : forall peerId, peerId ∈ reportedIdentities peerIdHexes selfPeerIdHex peers ->
    ∀ first ∈ peerIdHexes, ∀ second ∈ peerIdHexes,
      peerIdFromHex first = some peerId -> peerIdFromHex second = some peerId -> first = second
  printed : ∀ id ∈ peerIdHexes, forall peerId, peerIdFromHex id = some peerId ->
    selfPeerIdHex.bind peerIdFromHex ≠ some peerId -> peerId ∈ peers.keys ->
      id = peerIdToString peerId

section

variable {relayReachable : Finset String} {peerIdHexes : List String}
  {selfPeerIdHex : Option String} {peers : Peers}

theorem mem_setRelayReachable {id : String} :
    id ∈ setRelayReachable relayReachable peerIdHexes selfPeerIdHex ↔
      id ∈ peerIdHexes ∧
        selfPeerIdHex.map normalizePeerIdHex ≠ some (normalizePeerIdHex id) := by
  have folded : forall set : Finset String,
      id ∈ peerIdHexes.foldl (fun set id =>
        if selfPeerIdHex.map normalizePeerIdHex = some (normalizePeerIdHex id) then set
        else insert id set) set ↔
      id ∈ set ∨ id ∈ peerIdHexes ∧
        selfPeerIdHex.map normalizePeerIdHex ≠ some (normalizePeerIdHex id) := by
    induction peerIdHexes with
    | nil =>
        intro set
        exact ⟨Or.inl, fun member => member.resolve_right fun listed => nomatch listed.1⟩
    | cons head rest inner =>
        intro set
        rw [List.foldl_cons, inner, List.mem_cons]
        by_cases own : selfPeerIdHex.map normalizePeerIdHex = some (normalizePeerIdHex head)
        · rw [if_pos own]
          constructor
          · exact fun member => member.imp_right fun later => ⟨Or.inr later.1, later.2⟩
          · rintro (old | ⟨rfl | later, other⟩)
            · exact Or.inl old
            · exact absurd own other
            · exact Or.inr ⟨later, other⟩
        · rw [if_neg own, Finset.mem_insert]
          constructor
          · rintro ((rfl | old) | later)
            · exact Or.inr ⟨Or.inl rfl, own⟩
            · exact Or.inl old
            · exact Or.inr ⟨Or.inr later.1, later.2⟩
          · rintro (old | ⟨rfl | later, other⟩)
            · exact Or.inl (Or.inr old)
            · exact Or.inl (Or.inl rfl)
            · exact Or.inr ⟨later, other⟩
  rw [show setRelayReachable relayReachable peerIdHexes selfPeerIdHex = _ from rfl]
  exact (folded ∅).trans ⟨fun member => member.resolve_left (Finset.notMem_empty id), Or.inr⟩

/-- A text that can be read is left out exactly when it names this node. -/
theorem kept_iff {id : String} {peerId : PeerId} (read : peerIdFromHex id = some peerId) :
    selfPeerIdHex.map normalizePeerIdHex ≠ some (normalizePeerIdHex id) ↔
      selfPeerIdHex.bind peerIdFromHex ≠ some peerId := by
  apply not_congr
  cases selfPeerIdHex with
  | none => exact ⟨fun absurdity => (nomatch absurdity), fun absurdity => (nomatch absurdity)⟩
  | some own =>
      rw [Option.map_some, Option.some.injEq, Option.bind_some]
      exact normalizePeerIdHex_eq_iff read

theorem mem_reportedIdentities {peerId : PeerId} :
    peerId ∈ reportedIdentities peerIdHexes selfPeerIdHex peers ↔
      (∃ id ∈ peerIdHexes, peerIdFromHex id = some peerId) ∧
        selfPeerIdHex.bind peerIdFromHex ≠ some peerId ∧ peerId ∉ peers.keys := by
  rw [reportedIdentities, Finset.mem_filter, List.mem_toFinset, List.mem_filterMap]

/-- The texts that are counted. -/
def countedTexts (peerIdHexes : List String) (selfPeerIdHex : Option String) (peers : Peers) :
    Finset String :=
  peerIdHexes.toFinset.filter fun id =>
    selfPeerIdHex.map normalizePeerIdHex ≠ some (normalizePeerIdHex id) ∧
      id ∉ peers.keys.image peerIdToString

theorem mem_countedTexts {id : String} :
    id ∈ countedTexts peerIdHexes selfPeerIdHex peers ↔
      id ∈ peerIdHexes ∧
        selfPeerIdHex.map normalizePeerIdHex ≠ some (normalizePeerIdHex id) ∧
          forall peerId, peerId ∈ peers.keys -> peerIdToString peerId ≠ id := by
  rw [countedTexts, Finset.mem_filter, List.mem_toFinset, Finset.mem_image]
  refine and_congr_right fun _ => and_congr_right fun _ => ⟨fun clear peerId held same => ?_, ?_⟩
  · exact clear ⟨peerId, held, same⟩
  · rintro clear ⟨peerId, held, same⟩
    exact clear peerId held same

theorem relayReachableExcludingConnected_eq :
    relayReachableExcludingConnected
      (setRelayReachable relayReachable peerIdHexes selfPeerIdHex) peers =
        (countedTexts peerIdHexes selfPeerIdHex peers).card := by
  have texts : (setRelayReachable relayReachable peerIdHexes selfPeerIdHex).filter
      (fun id => id ∉ peers.keys.image peerIdToString) =
        countedTexts peerIdHexes selfPeerIdHex peers := by
    ext id
    rw [Finset.mem_filter, mem_setRelayReachable, countedTexts, Finset.mem_filter,
      List.mem_toFinset, and_assoc]
  unfold relayReachableExcludingConnected
  split
  · rename_i empty
    rw [<- texts, empty]
    rfl
  · exact congrArg Finset.card texts

/-- Every spelling of a reported identity is counted. -/
theorem counted_of_reported {id : String} {peerId : PeerId} (listed : id ∈ peerIdHexes)
    (read : peerIdFromHex id = some peerId)
    (reported : peerId ∈ reportedIdentities peerIdHexes selfPeerIdHex peers) :
    id ∈ countedTexts peerIdHexes selfPeerIdHex peers := by
  rcases mem_reportedIdentities.mp reported with ⟨_, foreign, absent⟩
  refine mem_countedTexts.mpr ⟨listed, (kept_iff read).mpr foreign, ?_⟩
  intro other held same
  rw [<- same, peerIdFromHex_peerIdToString] at read
  cases read
  exact absent held

theorem reported_subset :
    (reportedIdentities peerIdHexes selfPeerIdHex peers).image some ⊆
      (countedTexts peerIdHexes selfPeerIdHex peers).image peerIdFromHex := by
  intro known member
  rcases Finset.mem_image.mp member with ⟨peerId, reported, rfl⟩
  rcases (mem_reportedIdentities.mp reported).1 with ⟨id, listed, read⟩
  exact Finset.mem_image.mpr ⟨id, counted_of_reported listed read reported, read⟩

theorem card_image_some (identities : Finset PeerId) :
    (identities.image some).card = identities.card :=
  Finset.card_image_of_injective _ (Option.some_injective _)

/-- Identities are counted when the relay spells as this node does. -/
theorem card_countedTexts (alike : SpelledAlike peerIdHexes selfPeerIdHex peers) :
    (countedTexts peerIdHexes selfPeerIdHex peers).card =
      (reportedIdentities peerIdHexes selfPeerIdHex peers).card := by
  have named : ∀ id ∈ countedTexts peerIdHexes selfPeerIdHex peers,
      ∃ peerId ∈ reportedIdentities peerIdHexes selfPeerIdHex peers,
        peerIdFromHex id = some peerId := by
    intro id counted
    rcases mem_countedTexts.mp counted with ⟨listed, kept, unprinted⟩
    rcases alike.readable id listed kept with ⟨peerId, read⟩
    have foreign := (kept_iff read).mp kept
    refine ⟨peerId, mem_reportedIdentities.mpr ⟨⟨id, listed, read⟩, foreign, ?_⟩, read⟩
    intro held
    exact unprinted peerId held (alike.printed id listed peerId read foreign held).symm
  have injective : Set.InjOn peerIdFromHex
      (countedTexts peerIdHexes selfPeerIdHex peers : Set String) := by
    intro first counted second countedToo same
    rcases named first counted with ⟨peerId, reported, read⟩
    exact alike.once peerId reported first (mem_countedTexts.mp counted).1 second
      (mem_countedTexts.mp countedToo).1 read (same.symm.trans read)
  have images : (countedTexts peerIdHexes selfPeerIdHex peers).image peerIdFromHex =
      (reportedIdentities peerIdHexes selfPeerIdHex peers).image some := by
    refine Finset.Subset.antisymm ?_ reported_subset
    intro known member
    rcases Finset.mem_image.mp member with ⟨id, counted, rfl⟩
    rcases named id counted with ⟨peerId, reported, read⟩
    exact Finset.mem_image.mpr ⟨peerId, reported, read.symm⟩
  rw [<- Finset.card_image_of_injOn injective, images, card_image_some]

/-- Texts are as many as identities only when the relay spells as this node does. -/
theorem spelledAlike_of_card
    (same : (countedTexts peerIdHexes selfPeerIdHex peers).card =
      (reportedIdentities peerIdHexes selfPeerIdHex peers).card) :
    SpelledAlike peerIdHexes selfPeerIdHex peers := by
  have fewer : ((countedTexts peerIdHexes selfPeerIdHex peers).image
      peerIdFromHex).card ≤
        ((reportedIdentities peerIdHexes selfPeerIdHex peers).image some).card := by
    rw [card_image_some, <- same]
    exact Finset.card_image_le
  have images := Finset.eq_of_subset_of_card_le reported_subset fewer
  have injective : Set.InjOn peerIdFromHex
      (countedTexts peerIdHexes selfPeerIdHex peers : Set String) := by
    apply Finset.injOn_of_card_image_eq
    rw [<- images, card_image_some, same]
  have named : ∀ id ∈ countedTexts peerIdHexes selfPeerIdHex peers,
      ∃ peerId ∈ reportedIdentities peerIdHexes selfPeerIdHex peers,
        peerIdFromHex id = some peerId := by
    intro id counted
    have member : peerIdFromHex id ∈
        (reportedIdentities peerIdHexes selfPeerIdHex peers).image some := by
      rw [images]
      exact Finset.mem_image_of_mem _ counted
    rcases Finset.mem_image.mp member with ⟨peerId, reported, read⟩
    exact ⟨peerId, reported, read.symm⟩
  refine ⟨?_, ?_, ?_⟩
  · intro id listed kept
    by_cases printed : exists peerId, peerId ∈ peers.keys ∧ peerIdToString peerId = id
    · rcases printed with ⟨peerId, _, rfl⟩
      exact ⟨peerId, peerIdFromHex_peerIdToString peerId⟩
    · have counted := mem_countedTexts.mpr ⟨listed, kept,
        fun peerId held same => printed ⟨peerId, held, same⟩⟩
      rcases named id counted with ⟨peerId, _, read⟩
      exact ⟨peerId, read⟩
  · intro peerId reported first listed second listedToo read readToo
    exact injective (counted_of_reported listed read reported)
      (counted_of_reported listedToo readToo reported) (read.trans readToo.symm)
  · intro id listed peerId read foreign held
    by_contra unprinted
    have counted : id ∈ countedTexts peerIdHexes selfPeerIdHex peers := by
      refine mem_countedTexts.mpr ⟨listed, (kept_iff read).mpr foreign, ?_⟩
      intro other _ same
      rw [<- same, peerIdFromHex_peerIdToString] at read
      cases read
      exact unprinted same.symm
    rcases named id counted with ⟨other, reported, readOther⟩
    rw [read] at readOther
    cases readOther
    exact (mem_reportedIdentities.mp reported).2.2 held

end

/-- The count that enters the dial budget is the number of identities exactly
when the relay spells as this node does. -/
theorem relay_reachable_counts_identities_iff (relayReachable : Finset String)
    (peerIdHexes : List String) (selfPeerIdHex : Option String) (peers : Peers) :
    relayReachableExcludingConnected
        (setRelayReachable relayReachable peerIdHexes selfPeerIdHex) peers =
      (reportedIdentities peerIdHexes selfPeerIdHex peers).card ↔
        SpelledAlike peerIdHexes selfPeerIdHex peers := by
  rw [relayReachableExcludingConnected_eq]
  exact ⟨spelledAlike_of_card, card_countedTexts⟩

/-- One peer id in lower and in upper case. -/
def twoCases : List String :=
  [String.ofList (List.replicate 64 'a'), String.ofList (List.replicate 64 'A')]

/-- The two spellings of one peer are counted twice. -/
theorem twoCases_counted_twice :
    ¬ relayReachableExcludingConnected (setRelayReachable ∅ twoCases none) ∅ =
      (reportedIdentities twoCases none ∅).card := by
  decide +kernel

end Service
end DigGossip
