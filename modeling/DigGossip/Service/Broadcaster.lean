import DigGossip.Service.Delivery

namespace DigGossip
namespace Service

open Foundations DigGossip.Types

/-!
# The routing policy and the fan-out

Every message type has a strategy, and the strategy of a response or of a directed
frame is to go to one peer.  The fan-out does not ask for the strategy.  A directed
message is therefore kept from the peers only where the call serves nobody anyway.
-/

/-- `ProtocolMessageTypes`; the policy tells the other types from none of these. -/
inductive ProtocolMessageType where
  | newPeak
  | newTransaction
  | newUnfinishedBlock
  | respondBlock
  | respondUnfinishedBlock
  | respondPeers
  | respondTransaction
  | respondBlocks
  | rejectBlock
  | rejectBlocks
  | other (msgType : UInt8)
deriving DecidableEq

inductive BroadcastStrategy where
  | plumtree
  | erlay
  | unicast
deriving DecidableEq

def digMessage : UInt8 := 220
def storeMelted : UInt8 := 221
def holdingsAnnounce : UInt8 := 222
def profileRootAnnounce : UInt8 := 223
def profileBodyRequest : UInt8 := 224
def profileBody : UInt8 := 225
def distributorAnnounce : UInt8 := 226

/-- The strategy of a type that the Chia protocol knows; `erlayBuild` is the
feature of that name. -/
def classifyProtocolType (erlayBuild erlayEnabled : Bool) :
    ProtocolMessageType -> BroadcastStrategy
  | .newTransaction => if erlayBuild && erlayEnabled then .erlay else .plumtree
  | .newPeak | .newUnfinishedBlock | .respondBlock | .respondUnfinishedBlock => .plumtree
  | .respondPeers | .respondTransaction | .respondBlocks | .rejectBlock | .rejectBlocks => .unicast
  | .other _ => .plumtree

/-- `classify_broadcast`: the DIG band first, on the raw byte; what the Chia
protocol cannot parse gets the default. -/
def classifyBroadcast (fromByte : UInt8 -> Option ProtocolMessageType) (erlayBuild : Bool)
    (msgType : UInt8) (erlayEnabled : Bool) : BroadcastStrategy :=
  if msgType = storeMelted ∨ msgType = holdingsAnnounce ∨ msgType = profileRootAnnounce ∨
      msgType = distributorAnnounce then .plumtree
  else if msgType = digMessage ∨ msgType = profileBodyRequest ∨ msgType = profileBody then .unicast
  else
    match fromByte msgType with
    | none => .plumtree
    | some known => classifyProtocolType erlayBuild erlayEnabled known

/-- A unicast message is handed to no link and to no sink. -/
def UnicastKept (strategy : BroadcastStrategy) (attempts : List Attempt) : Prop :=
  strategy = .unicast -> ∀ attempt ∈ attempts, attempt.route = .stub

/-- The slot has a transport that a fan-out uses. -/
def PlumtreeState.hears (tree : PlumtreeState) (peerId : PeerId) : PeerSlot -> Bool
  | .stub _ => false
  | .live _ => tree.isEager peerId
  | .nat slot => slot.sink.isSome

/-- No peer but the excluded one has a transport that a fan-out uses. -/
def NobodyHears (s : ServiceState) (exclude : Option PeerId) : Prop :=
  forall peerId slot, s.peers.lookup peerId = some slot -> exclude ≠ some peerId ->
    s.plumtree.hears peerId slot = false

section Policy

variable {wire : Wire} {order : PeerId -> Nat} {answers : Answers} {s : GossipState} {call : Call}

theorem hears_eq (tree : PlumtreeState) (peerId : PeerId) (slot : PeerSlot) :
    tree.hears peerId slot = (tree.routeTo peerId slot).any fun route => route != .stub := by
  cases slot with
  | stub peer => rfl
  | live slot =>
      show tree.isEager peerId = Option.any _ (if tree.isEager peerId then _ else _)
      cases tree.isEager peerId with
      | false => rfl
      | true => rfl
  | nat slot =>
      show slot.sink.isSome = Option.any _ (slot.sink.map Route.sink)
      cases slot.sink with
      | none => rfl
      | some sink => rfl

/-- Where nobody hears, all routes are stubs. -/
theorem route_of_nobodyHears {service : ServiceState} {exclude : Option PeerId} {peerId : PeerId}
    {route : Route} (nobody : NobodyHears service exclude)
    (routes : routeTo service exclude peerId = some route) : route = .stub := by
  unfold routeTo at routes
  split at routes
  · cases routes
  · rename_i included
    rcases Option.bind_eq_some_iff.mp routes with ⟨slot, found, routes⟩
    have silent := nobody peerId slot found included
    rw [hears_eq, routes] at silent
    exact of_not_not fun different => Bool.false_ne_true
      (silent.symm.trans (bne_iff_ne.mpr different))

/-- What a carried call tries is stubs only if nobody hears it: it gets as far as the
first link or sink at least. -/
theorem stubs_only_iff (carried : call.isCarried wire s = true) :
    (∀ attempt ∈ (fanOut wire order answers s call).attempts, attempt.route = .stub) ↔
      NobodyHears s.service call.exclude := by
  rw [fanOut_of_carried carried]
  rcases sends_or_fails answers (collectJobs s.service order call.exclude).eager with
    sends | ⟨before, job, after, jobs, sends, fails⟩
  · rw [(deliver_sent (messageWireLen wire call.message) sends (call.record wire s)).1]
    constructor
    · intro stubs peerId slot found included
      rw [hears_eq, Option.any_eq_false]
      intro route routes
      have routed : routeTo s.service call.exclude peerId = some route := by
        rw [routeTo, if_neg included, found]
        exact routes
      have stub : route = .stub := stubs _ (tried_of_route routed order)
      rw [stub]
      rfl
    · intro nobody attempt member
      exact route_of_nobodyHears nobody (mem_tried member).1
  · have delivered := deliver_failed (messageWireLen wire call.message) jobs sends fails
      (call.record wire s)
    have collected : job ∈ (collectJobs s.service order call.exclude).eager := by
      rw [jobs]
      exact List.mem_append_right before List.mem_cons_self
    constructor
    · intro stubs
      have reached : sendAttempt answers job ∈
          (deliver answers (messageWireLen wire call.message)
            (collectJobs s.service order call.exclude) (call.record wire s)).attempts := by
        rw [delivered.1]
        exact List.mem_append_right _
          (List.mem_map_of_mem (List.mem_append_right before List.mem_cons_self))
      cases stubs _ reached
    · intro nobody
      have tried : sendAttempt answers job ∈
          (collectJobs s.service order call.exclude).tried answers :=
        List.mem_append_left _ (List.mem_append_right _ (List.mem_map_of_mem collected))
      cases route_of_nobodyHears nobody (mem_tried tried).1

/-- A call keeps to the strategy of its message exactly where the strategy lets it go
out, where the call is dropped, or where nobody hears it. -/
theorem unicastKept_iff (strategy : BroadcastStrategy) :
    UnicastKept strategy (fanOut wire order answers s call).attempts ↔
      strategy ≠ .unicast ∨ call.isCarried wire s = false ∨
        NobodyHears s.service call.exclude := by
  by_cases unicast : strategy = .unicast
  · cases carried : call.isCarried wire s with
    | false =>
        constructor
        · exact fun _ => Or.inr (Or.inl rfl)
        · intro _ _ attempt member
          rw [(fanOut_of_not_carried carried).1] at member
          cases member
    | true =>
        constructor
        · intro kept
          exact Or.inr (Or.inr ((stubs_only_iff carried).mp (kept unicast)))
        · rintro (other | idle | nobody)
          · exact absurd unicast other
          · cases idle
          · exact fun _ => (stubs_only_iff carried).mpr nobody
  · constructor
    · exact fun _ => Or.inl unicast
    · exact fun _ same => absurd same unicast

end Policy

/-- Both ways to broadcast a message keep a unicast message from the peers exactly
where the call is dropped or nobody hears it. -/
theorem unicast_not_gossiped_iff (fromByte : UInt8 -> Option ProtocolMessageType)
    (erlayBuild erlayEnabled : Bool) (wire : Wire) (order : PeerId -> Nat) (answers : Answers)
    (s : GossipState) (message : DigMessage) (exclude : Option PeerId) :
    (UnicastKept (classifyBroadcast fromByte erlayBuild message.msgType erlayEnabled)
        (broadcast wire order answers s message exclude).attempts ↔
      classifyBroadcast fromByte erlayBuild message.msgType erlayEnabled ≠ .unicast ∨
        Call.isCarried wire { message := message, exclude := exclude, origin := .forwarded } s =
          false ∨
        NobodyHears s.service exclude) ∧
    (UnicastKept (classifyBroadcast fromByte erlayBuild message.msgType erlayEnabled)
        (broadcastLocal wire order answers s message exclude).attempts ↔
      classifyBroadcast fromByte erlayBuild message.msgType erlayEnabled ≠ .unicast ∨
        Call.isCarried wire { message := message, exclude := exclude, origin := .localNode } s =
          false ∨
        NobodyHears s.service exclude) :=
  ⟨unicastKept_iff _, unicastKept_iff _⟩

namespace Example

/-- A directed frame without a body. -/
def directed : DigMessage where
  msgType := 220
  id := none
  data := []

/-- The digest of the one octet 220. -/
def directedWire : Wire where
  sha256 := fun _ => 
    ⟨⟨[251, 149, 170, 152, 214, 230, 197, 130, 122, 87, 236, 23, 185, 120, 214, 71,
      252, 192, 29, 152, 195, 87, 183, 230, 73, 137, 175, 87, 51, 158, 154, 195]⟩, rfl⟩
  toBytes := fun message => [message.msgType, 0, 0, 0, 0, 0]

end Example

/-- A directed frame goes out to both peers of the pair. -/
theorem unicast_gossiped :
    ¬ forall (fromByte : UInt8 -> Option ProtocolMessageType) (erlayBuild erlayEnabled : Bool)
      (wire : Wire) (order : PeerId -> Nat) (answers : Answers) (s : GossipState)
      (message : DigMessage) (exclude : Option PeerId),
      UnicastKept (classifyBroadcast fromByte erlayBuild message.msgType erlayEnabled)
        (broadcast wire order answers s message exclude).attempts ∧
      UnicastKept (classifyBroadcast fromByte erlayBuild message.msgType erlayEnabled)
        (broadcastLocal wire order answers s message exclude).attempts := by
  intro kept
  have stubs := (kept (fun _ => none) true false Example.directedWire (fun _ => 0) .willing
    Example.pair Example.directed none).1 rfl
  revert stubs
  decide +kernel

end Service
end DigGossip
