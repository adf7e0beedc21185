import DigGossip.Service.Operations

namespace DigGossip
namespace Service

open Foundations DigGossip.Types
open Program (wp wp_mono wp_bind)

/-!
# The duties of an operation

What an operation begins it has to finish: a row it lifts or records is
followed by the address ban, a generation it draws is placed, a slot it takes
out of the map is torn down, a candidate it reserves is released.  Each of
these is a duty from the action that begins it to the action that ends it.  A
contract holds an operation's duties and the latest time it has read.

Every operation starts without duties and ends without; it does only what it
has to do, prunes with no time later than the clock it has read, and leaves
the reservations and the penalties to the operations that are licensed to them.
-/

inductive Duty where
  | unban (ip : IpAddr)
  | lift (peerId : PeerId)
  | ban (ip : IpAddr)
  | place (generation : Nat)
  | effect (pending : Effect)
  | release (key : CandidateKey)
deriving DecidableEq

structure Contract where
  owed : Multiset Duty
  clock : Nat

/-- What only some operations may do: reserve candidates, charge penalties, and
close a link that was never in the map. -/
structure Licence where
  reserves : Bool
  charges : Bool
  closes : Bool

/-! ## What a region takes out of the map -/

/-- What retiring a slot does to its transports. -/
def PeerSlot.retirement : PeerSlot -> List Effect
  | .live slot => [.keepaliveAborted slot.generation, .linkClosed slot.peer]
  | .nat slot =>
      match slot.conn with
      | .observed session => [.noticeFired session]
      | .owned _ => []
  | .stub _ => []

/-- The part of it that the paths do that know only live slots. -/
def PeerSlot.teardown : PeerSlot -> List Effect
  | .live slot => PeerSlot.retirement (.live slot)
  | .nat _ => []
  | .stub _ => []

/-- The slots that left the map because another connection took their place. -/
def PeersRegion.replaced : (region : PeersRegion) -> region.Reply -> List PeerSlot
  | admitLive _ _ _ _, .ok superseded => superseded.toList
  | insertLive _ _ _ _, superseded => superseded.toList
  | admitNat _ _, .ok admission =>
      admission.superseded.toList ++ (admission.displaced.map Prod.snd).toList
  | adoptDirectInbound _, .ok superseded => superseded.toList
  | adoptRelayedInbound _, .ok superseded => superseded.toList
  | _, _ => []

/-- The slot that left the map on its own account. -/
def PeersRegion.relinquished : (region : PeersRegion) -> region.Reply -> List PeerSlot
  | remove _, removed => removed.toList
  | removeForBan _ _, some removed => removed.toList
  | _, _ => []

/-- What the operation closes besides: a connection that was not admitted, or
whose keepalive has ended by itself. -/
def PeersRegion.closes : (region : PeersRegion) -> region.Reply -> List Effect
  | admitLive _ _ link generation, .error _ => [.keepaliveAborted generation, .linkClosed link]
  | removeIfGeneration _ _, some live => [.linkClosed live.peer]
  | _, _ => []

/-- The listener retires what it replaces as a live slot or not at all. -/
def PeersRegion.retires : PeersRegion -> PeerSlot -> List Effect
  | insertLive _ _ _ _ => PeerSlot.teardown
  | _ => PeerSlot.retirement

/-- The effects that a region makes its operation owe. -/
def PeersRegion.obliges (region : PeersRegion) (reply : region.Reply) : List Effect :=
  (region.replaced reply).flatMap region.retires ++
    (region.relinquished reply).flatMap PeerSlot.teardown ++ region.closes reply

def effectDuties (effects : List Effect) : Multiset Duty :=
  (effects.map Duty.effect : List Duty)

/-! ## Contracts -/

def unbanDuties (ip : IpAddr) : Multiset Duty :=
  if isUnspecified ip then 0 else {.unban ip}

def banDuties (ip : IpAddr) : Multiset Duty :=
  if isUnspecified ip then 0 else {.ban ip}

def expiryDuties : List (PeerId × IpAddr) -> Multiset Duty
  | [] => 0
  | (peerId, ip) :: rest => unbanDuties ip + (.lift peerId ::ₘ expiryDuties rest)

/-- The duties that an action with this reply begins. -/
def Action.begins : (action : Action) -> action.Reply -> Multiset Duty
  | peers region, reply => effectDuties (region.obliges reply)
  | pruneBanned _, expired => expiryDuties expired
  | insertBan _ entry, _ => banDuties entry.ip
  | nextPeerGeneration, generation => {.place generation}
  | reserve key, reserved => if reserved then {.release key} else 0
  | _, _ => 0

/-- The duties that an action ends. -/
def Action.ends : Action -> Multiset Duty
  | peers (.admitLive _ _ _ generation) => {.place generation}
  | peers (.insertLive _ _ _ generation) => {.place generation}
  | unbanIp ip => {.unban ip}
  | removePenalty peerId => {.lift peerId}
  | banIp ip => {.ban ip}
  | .effect done => {.effect done}
  | release key => {.release key}
  | _ => 0

/-- The latest time read, after an action with this reply. -/
def Action.tells (clock : Nat) : (action : Action) -> action.Reply -> Nat
  | readClock, now => Nat.max clock now
  | _, _ => clock

/-- The closing of a link, which may never have been in the map. -/
def Action.isClosing : Action -> Bool
  | .effect (.linkClosed _) => true
  | _ => false

def Action.isTimely (clock : Nat) : Action -> Bool
  | pruneBanned now => decide (now ≤ clock)
  | _ => true

def Action.isReservation : Action -> Bool
  | reserve _ | release _ | inFlightCount => true
  | _ => false

def Action.isCharge : Action -> Bool
  | peers (.penalizeLive _ _ _) | applyPenalty _ _ _ | addPenalty _ _ | setPenalty _ _ => true
  | _ => false

def Action.isLicensed (licence : Licence) (action : Action) : Bool :=
  (!action.isReservation || licence.reserves) && (!action.isCharge || licence.charges)

/-- The regions that take no slot out of the map and place none. -/
def PeersRegion.isFree : PeersRegion -> Bool
  | len | containsKey _ | connectedPoolKeys | setSink _ _ | reapDeparted => true
  | liveReputation _ _ | penalizeLive _ _ _ => true
  | _ => false

/-- The actions that neither begin nor end a duty. -/
def Action.isFree : Action -> Bool
  | peers region => region.isFree
  | readClock | pruneBanned _ | insertBan _ _ | banIp _ | unbanIp _ | removePenalty _ => false
  | nextPeerGeneration | reserve _ | release _ | effect _ => false
  | _ => true

namespace Contract

def settle (contract : Contract) (action : Action) (reply : action.Reply) : Contract where
  owed := action.begins reply + (contract.owed - action.ends)
  clock := action.tells contract.clock reply

structure Due (licence : Licence) (contract : Contract) (action : Action) : Prop where
  asked : (action.isClosing = true ∧ licence.closes = true) ∨ action.ends ≤ contract.owed
  timely : action.isTimely contract.clock = true
  licensed : action.isLicensed licence = true

end Contract

/-! ## Discharging -/

/-- The duties of others among which a part of an operation may close a link unasked. -/
def Unlinked (licence : Licence) (others : Multiset Duty) : Prop :=
  licence.closes = true -> forall link, Duty.effect (.linkClosed link) ∉ others

/-- From these duties and any others the program ends with the others alone. -/
def Discharges {R : Type} (licence : Licence) (clock : Nat) (duties : Multiset Duty)
    (program : ServiceProgram R) : Prop :=
  forall others now, clock ≤ now -> Unlinked licence others ->
    wp (Contract.Due licence) Contract.settle program ⟨duties + others, now⟩
      fun _ after => after.owed = others ∧ now ≤ after.clock

theorem Action.begins_of_isFree {action : Action} (free : action.isFree = true)
    (reply : action.Reply) : action.begins reply = 0 := by
  cases action with
  | peers region =>
      cases region <;> first | rfl | cases free
  | _ => first | rfl | cases free

theorem Action.ends_of_isFree {action : Action} (free : action.isFree = true) :
    action.ends = 0 := by
  cases action with
  | peers region =>
      cases region <;> first | rfl | cases free
  | _ => first | rfl | cases free

theorem Action.tells_of_isFree {action : Action} (free : action.isFree = true) (now : Nat)
    (reply : action.Reply) : action.tells now reply = now := by
  cases action with
  | readClock => cases free
  | _ => rfl

theorem Action.isTimely_of_isFree {action : Action} (free : action.isFree = true) (now : Nat) :
    action.isTimely now = true := by
  cases action with
  | pruneBanned time => cases free
  | _ => rfl

namespace Discharges

variable {R T : Type} {licence : Licence} {clock : Nat} {duties : Multiset Duty}

theorem pure (result : R) : Discharges licence clock 0 (Pure.pure result : ServiceProgram R) :=
  fun others _ _ _ => ⟨zero_add others, Nat.le_refl _⟩

/-- The first part ends its own duties and leaves those of the second. -/
theorem bind {first second : Multiset Duty} {program : ServiceProgram R}
    {rest : R -> ServiceProgram T} (before : Discharges licence clock first program)
    (after : forall result, Discharges licence clock second (rest result))
    (unlinked : Unlinked licence second) :
    Discharges licence clock (first + second) (program >>= rest) := by
  intro others now later frame
  rw [wp_bind, add_assoc]
  have apart : Unlinked licence (second + others) := by
    intro closes link member
    rcases Multiset.mem_add.mp member with mine | theirs
    · exact unlinked closes link mine
    · exact frame closes link theirs
  refine wp_mono (before _ now later apart) ?_
  rintro result ⟨_, read⟩ ⟨rfl, passed⟩
  refine wp_mono (after result others read (Nat.le_trans later passed) frame) ?_
  rintro outcome ended ⟨none, onward⟩
  exact ⟨none, Nat.le_trans passed onward⟩

/-- The rest has no duties left. -/
theorem bind_zero {program : ServiceProgram R} {rest : R -> ServiceProgram T}
    (before : Discharges licence clock duties program)
    (after : forall result, Discharges licence clock 0 (rest result)) :
    Discharges licence clock duties (program >>= rest) := by
  have whole := before.bind after fun _ _ member => absurd member (Multiset.notMem_zero _)
  rw [add_zero] at whole
  exact whole

/-- The rest has all the duties. -/
theorem zero_bind {program : ServiceProgram R} {rest : R -> ServiceProgram T}
    (before : Discharges licence clock 0 program)
    (after : forall result, Discharges licence clock duties (rest result))
    (unlinked : Unlinked licence duties) :
    Discharges licence clock duties (program >>= rest) := by
  have whole := before.bind after unlinked
  rw [zero_add] at whole
  exact whole

/-- An action that ends some duties and begins others. -/
theorem act {action : Action} {rest : action.Reply -> ServiceProgram T}
    (timely : action.isTimely clock = true) (licensed : action.isLicensed licence = true)
    (still : forall now reply, action.tells now reply = now)
    (after : forall reply, Discharges licence clock (action.begins reply + duties) (rest reply)) :
    Discharges licence clock (action.ends + duties) (perform action >>= rest) := by
  intro others now later frame
  have due : Contract.Due licence ⟨action.ends + duties + others, now⟩ action := by
    refine ⟨Or.inr ?_, ?_, licensed⟩
    · rw [add_assoc]
      exact Multiset.le_add_right _ _
    · cases action with
      | pruneBanned time => exact decide_eq_true (Nat.le_trans (of_decide_eq_true timely) later)
      | _ => rfl
  refine ⟨due, fun reply => ?_⟩
  have settled : Contract.settle ⟨action.ends + duties + others, now⟩ action reply =
      ⟨action.begins reply + duties + others, now⟩ := by
    rw [Contract.settle, still, add_assoc action.ends, add_tsub_cancel_left, add_assoc]
  rw [settled]
  exact after reply others now later frame

/-- An action that only begins duties. -/
theorem begin {action : Action} {rest : action.Reply -> ServiceProgram T}
    (none : action.ends = 0) (timely : action.isTimely clock = true)
    (licensed : action.isLicensed licence = true)
    (still : forall now reply, action.tells now reply = now)
    (after : forall reply, Discharges licence clock (action.begins reply + duties) (rest reply)) :
    Discharges licence clock duties (perform action >>= rest) := by
  have whole := act timely licensed still after
  rw [none, zero_add] at whole
  exact whole

/-- An action that only ends duties. -/
theorem finish {action : Action} {rest : action.Reply -> ServiceProgram T}
    (none : forall reply, action.begins reply = 0) (timely : action.isTimely clock = true)
    (licensed : action.isLicensed licence = true)
    (still : forall now reply, action.tells now reply = now)
    (after : forall reply, Discharges licence clock duties (rest reply)) :
    Discharges licence clock (action.ends + duties) (perform action >>= rest) := by
  refine act timely licensed still fun reply => ?_
  rw [none, zero_add]
  exact after reply

theorem free {action : Action} {rest : action.Reply -> ServiceProgram T}
    (isFree : action.isFree = true) (licensed : action.isLicensed licence = true)
    (after : forall reply, Discharges licence clock duties (rest reply)) :
    Discharges licence clock duties (perform action >>= rest) := by
  refine begin (Action.ends_of_isFree isFree) (Action.isTimely_of_isFree isFree _) licensed
    (Action.tells_of_isFree isFree) fun reply => ?_
  rw [Action.begins_of_isFree isFree, zero_add]
  exact after reply

/-- Once the clock has been read, the time it gave may be used. -/
theorem readClock {rest : Nat -> ServiceProgram T}
    (after : forall now later, now ≤ later -> Discharges licence later duties (rest now)) :
    Discharges licence clock duties (perform .readClock >>= rest) := by
  intro others now later frame
  refine ⟨⟨Or.inr (Multiset.zero_le _), rfl, rfl⟩, fun time => ?_⟩
  have settled : Contract.settle ⟨duties + others, now⟩ .readClock time =
      ⟨duties + others, Nat.max now time⟩ := by
    rw [Contract.settle]
    simp [Action.begins, Action.ends, Action.tells]
  rw [settled]
  refine wp_mono (after time _ (Nat.le_max_right now time) others _ (Nat.le_refl _) frame) ?_
  rintro result ended ⟨none, onward⟩
  exact ⟨none, Nat.le_trans (Nat.le_max_left now time) onward⟩

/-- A connection that was never in the map is closed without a duty. -/
theorem close (closes : licence.closes = true) {link : LinkId} {rest : Unit -> ServiceProgram T}
    (after : Discharges licence clock 0 (rest ())) :
    Discharges licence clock 0 (perform (.effect (.linkClosed link)) >>= rest) := by
  intro others now later frame
  refine ⟨⟨Or.inl ⟨rfl, closes⟩, rfl, rfl⟩, fun _ => ?_⟩
  have settled : Contract.settle ⟨0 + others, now⟩ (.effect (.linkClosed link)) () =
      ⟨0 + others, now⟩ := by
    have absent : Duty.effect (.linkClosed link) ∉ others := frame closes link
    rw [Contract.settle]
    simp [Action.begins, Action.ends, Action.tells, Multiset.sub_singleton,
      Multiset.erase_of_notMem absent]
  rw [settled]
  exact after others now later frame

/-- A program whose last action ends its duties. -/
theorem last {action : Action} (none : forall reply, action.begins reply = 0)
    (timely : action.isTimely clock = true) (licensed : action.isLicensed licence = true)
    (still : forall now reply, action.tells now reply = now) :
    Discharges licence clock action.ends (perform action) := by
  have whole := finish none timely licensed still fun reply => pure reply
  rw [add_zero] at whole
  exact whole

theorem freely {action : Action} (isFree : action.isFree = true)
    (licensed : action.isLicensed licence = true) :
    Discharges licence clock 0 (perform action) :=
  free isFree licensed fun reply => pure reply

end Discharges

/-! ## The parts of the operations -/

section Parts

variable {licence : Licence} {clock : Nat}

theorem effectDuties_append (first second : List Effect) :
    effectDuties (first ++ second) = effectDuties first + effectDuties second := by
  rw [effectDuties, List.map_append, <- Multiset.coe_add]
  rfl

theorem unbanHost_discharges (ip : IpAddr) :
    Discharges licence clock (unbanDuties ip) (unbanHost ip) := by
  unfold unbanHost unbanDuties
  split
  · exact Discharges.pure ()
  · exact Discharges.last (fun _ => rfl) rfl rfl fun _ _ => rfl

/-- Each row that is lifted frees its peer, and its address if it names a host. -/
theorem mem_expiryDuties {expired : List (PeerId × IpAddr)} {duty : Duty} :
    duty ∈ expiryDuties expired ↔ ∃ row ∈ expired,
      duty = .lift row.1 ∨ (isUnspecified row.2 = false ∧ duty = .unban row.2) := by
  induction expired with
  | nil => simp [expiryDuties]
  | cons first rest inner =>
      simp only [expiryDuties, unbanDuties, Multiset.mem_add, Multiset.mem_cons, inner,
        List.exists_mem_cons_iff]
      cases isUnspecified first.2 with
      | true => simp
      | false => simp [or_assoc, or_left_comm]

theorem unlinked_expiryDuties (expired : List (PeerId × IpAddr)) :
    Unlinked licence (expiryDuties expired) := by
  intro closes link member
  rcases mem_expiryDuties.mp member with ⟨row, _, freed | freed⟩
  · cases freed
  · cases freed.2

theorem unbanExpired_discharges (expired : List (PeerId × IpAddr)) :
    Discharges licence clock (expiryDuties expired) (unbanExpired expired) := by
  induction expired with
  | nil => exact Discharges.pure ()
  | cons first rest inner =>
      rcases first with ⟨peerId, ip⟩
      refine (unbanHost_discharges ip).bind (fun _ => ?_) ?_
      · exact Discharges.finish (fun _ => rfl) rfl rfl (fun _ _ => rfl) fun _ => inner
      · intro closes link member
        rcases Multiset.mem_cons.mp member with here | later
        · cases here
        · exact unlinked_expiryDuties rest closes link later

/-- An expiry pass with a time that has been read ends what it begins. -/
theorem pruneExpiredDigBans_discharges {now : Nat} (known : now ≤ clock) :
    Discharges licence clock 0 (pruneExpiredDigBans now) := by
  refine Discharges.begin rfl (decide_eq_true known) rfl (fun _ _ => rfl) fun expired => ?_
  rw [add_zero]
  exact unbanExpired_discharges expired

theorem isPeerIdBannedAt_discharges (peerId : PeerId) {now : Nat} (known : now ≤ clock) :
    Discharges licence clock 0 (isPeerIdBannedAt peerId now) :=
  (pruneExpiredDigBans_discharges known).bind_zero fun _ => Discharges.freely rfl rfl

/-- The clock is read and the ban looked up for nothing; then a banned peer is refused,
or the path goes on. -/
theorem unlessBanned_discharges {T : Type} (peerId : PeerId) {banned : ServiceProgram T}
    {rest : Nat -> ServiceProgram T} (refuses : forall later, Discharges licence later 0 banned)
    (after : forall now later, Discharges licence later 0 (rest now)) :
    Discharges licence clock 0 (perform .readClock >>= fun now =>
      isPeerIdBannedAt peerId now >>= fun found => if found then banned else rest now) := by
  refine Discharges.readClock fun now later known => ?_
  refine (isPeerIdBannedAt_discharges peerId known).bind_zero fun found => ?_
  split
  · exact refuses later
  · exact after now later

theorem executeDigTimedBan_discharges (peerId : PeerId) (ip : IpAddr) (now : Nat) :
    Discharges licence clock 0 (executeDigTimedBan peerId ip now) := by
  refine Discharges.begin rfl rfl rfl (fun _ _ => rfl) fun _ => ?_
  rw [add_zero]
  simp only [Action.begins, banDuties]
  split
  · exact Discharges.pure ()
  · exact Discharges.last (fun _ => rfl) rfl rfl fun _ _ => rfl

theorem closeLive_discharges (slot : LiveSlot) :
    Discharges licence clock (effectDuties (PeerSlot.retirement (.live slot))) (closeLive slot) :=
  Discharges.finish (fun _ => rfl) rfl rfl (fun _ _ => rfl) fun _ =>
    Discharges.last (fun _ => rfl) rfl rfl fun _ _ => rfl

theorem retireLive_discharges (removed : Option PeerSlot) :
    Discharges licence clock (effectDuties (removed.toList.flatMap PeerSlot.teardown))
      (retireLive removed) := by
  unfold retireLive
  split
  · exact closeLive_discharges _
  · exact Discharges.pure ()
  · exact Discharges.pure ()
  · exact Discharges.pure ()

theorem retireSlot_discharges (slot : PeerSlot) :
    Discharges licence clock (effectDuties slot.retirement) (retireSlot slot) := by
  cases slot with
  | live slot => exact closeLive_discharges slot
  | nat slot =>
      rcases slot with ⟨conn, sink, remote, isOutbound, method⟩
      cases conn with
      | observed session =>
          exact @Discharges.last _ _ (.effect (.noticeFired session)) (fun _ => rfl) rfl rfl
            fun _ _ => rfl
      | owned session => exact Discharges.pure ()
  | stub peer => exact Discharges.pure ()

theorem retireSuperseded_discharges (superseded : Option PeerSlot) :
    Discharges licence clock (effectDuties (superseded.toList.flatMap PeerSlot.retirement))
      (retireSuperseded superseded) := by
  cases superseded with
  | none => exact Discharges.pure ()
  | some stale =>
      rw [Option.toList_some, List.flatMap_singleton]
      exact retireSlot_discharges stale

/-- An evicted slot is torn down before its peer's row is recorded. -/
theorem enforceTimedBanAndDisconnect_discharges (peerId : PeerId) {now : Nat}
    (known : now ≤ clock) (callerGeneration : Option Nat) :
    Discharges licence clock 0 (enforceTimedBanAndDisconnect peerId now callerGeneration) := by
  refine (pruneExpiredDigBans_discharges known).bind_zero fun _ => ?_
  refine Discharges.begin rfl rfl rfl (fun _ _ => rfl) fun removed => ?_
  rw [add_zero]
  cases removed with
  | none => exact Discharges.pure ()
  | some removed =>
      have owes : Action.begins (.peers (.removeForBan peerId callerGeneration)) (some removed) =
          effectDuties (removed.toList.flatMap PeerSlot.teardown) := by
        simp [Action.begins, PeersRegion.obliges, PeersRegion.replaced, PeersRegion.relinquished,
          PeersRegion.closes]
      rw [owes]
      exact (retireLive_discharges removed).bind_zero fun _ =>
        executeDigTimedBan_discharges _ _ _

theorem publish_discharges (event : PoolEvent) : Discharges licence clock 0 (publish event) := by
  cases event with
  | peerAdded peerId addr =>
      refine Discharges.readClock fun now later known => ?_
      refine Discharges.free rfl rfl fun _ => ?_
      exact Discharges.freely rfl rfl
  | peerRemoved peerId reason => exact Discharges.freely rfl rfl

theorem removeFromPlumtree_discharges (peerId : PeerId) :
    Discharges licence clock 0 (removeFromPlumtreeUnlessReconnected peerId) := by
  refine Discharges.free rfl rfl fun held => ?_
  split
  · exact Discharges.pure ()
  · exact Discharges.freely rfl rfl

theorem joinPool_discharges (peerId : PeerId) (addr : SocketAddr) (superseded : Option PeerSlot) :
    Discharges licence clock (effectDuties (superseded.toList.flatMap PeerSlot.retirement))
      (joinPool peerId addr superseded) := by
  refine (retireSuperseded_discharges superseded).bind_zero fun _ => ?_
  refine Discharges.free rfl rfl fun _ => ?_
  refine Discharges.free rfl rfl fun _ => ?_
  exact publish_discharges (.peerAdded peerId addr)

theorem announceDisplaced_discharges (displaced : Option (PeerId × PeerSlot)) :
    Discharges licence clock
      (effectDuties ((displaced.map Prod.snd).toList.flatMap PeerSlot.retirement))
      (announceDisplaced displaced) := by
  cases displaced with
  | none => exact Discharges.pure ()
  | some cycled =>
      rcases cycled with ⟨victim, slot⟩
      rw [Option.map_some, Option.toList_some, List.flatMap_singleton]
      refine (retireSlot_discharges slot).bind_zero fun _ => ?_
      exact (publish_discharges _).bind_zero fun _ => removeFromPlumtree_discharges victim

theorem announceReaped_discharges (reaped : List PeerId) :
    Discharges licence clock 0 (announceReaped reaped) := by
  induction reaped with
  | nil => exact Discharges.pure ()
  | cons peerId later inner =>
      refine (publish_discharges _).bind_zero fun _ => ?_
      exact (removeFromPlumtree_discharges peerId).bind_zero fun _ => inner

end Parts

/-! ## The operations -/

section Operations

variable (config : GossipConfig) {licence : Licence} {clock : Nat}

theorem connectTo_discharges (closes : licence.closes = true) (addr : SocketAddr)
    (dial : Except GossipError Dialed) :
    Discharges licence clock 0 (connectTo config addr dial) := by
  refine Discharges.free rfl rfl fun running => ?_
  split
  · exact Discharges.pure _
  refine Discharges.free rfl rfl fun self => ?_
  split
  · exact Discharges.pure _
  refine Discharges.free rfl rfl fun entries => ?_
  split
  · exact Discharges.pure _
  cases dial with
  | error error => exact Discharges.pure _
  | ok out =>
      simp only
      split
      · exact Discharges.close closes (Discharges.pure _)
      refine unlessBanned_discharges out.peerId
        (fun _ => Discharges.close closes (Discharges.pure _)) fun now later => ?_
      cases out.respondPeers with
      | error error => exact Discharges.pure _
      | ok _ =>
          refine Discharges.begin rfl rfl rfl (fun _ _ => rfl) fun generation => ?_
          refine Discharges.act rfl rfl (fun _ _ => rfl) fun admission => ?_
          rw [add_zero]
          cases admission with
          | error kind =>
              have owes : Action.begins (.peers (.admitLive out.peerId addr out.link generation))
                  (.error kind) = Action.ends (.effect (.keepaliveAborted generation)) +
                    (Action.ends (.effect (.linkClosed out.link)) + 0) := rfl
              rw [owes]
              refine Discharges.finish (fun _ => rfl) rfl rfl (fun _ _ => rfl) fun _ => ?_
              exact Discharges.finish (fun _ => rfl) rfl rfl (fun _ _ => rfl) fun _ =>
                Discharges.pure _
          | ok superseded =>
              have owes : Action.begins (.peers (.admitLive out.peerId addr out.link generation))
                  (.ok superseded) =
                    effectDuties (superseded.toList.flatMap PeerSlot.retirement) := by
                simp [Action.begins, PeersRegion.obliges, PeersRegion.replaced,
                  PeersRegion.relinquished, PeersRegion.closes, PeersRegion.retires]
              rw [owes]
              exact (joinPool_discharges out.peerId addr superseded).bind_zero fun _ =>
                Discharges.pure _

theorem admitNatConnection_discharges (unasked : licence.closes = false) (conn : NatConnection)
    (source : AdmissionSource) :
    Discharges licence clock 0 (admitNatConnection config conn source) := by
  refine Discharges.free rfl rfl fun running => ?_
  split
  · exact Discharges.pure _
  split
  · exact Discharges.pure _
  refine unlessBanned_discharges conn.peerId (fun _ => Discharges.pure _) fun now later => ?_
  refine Discharges.begin rfl rfl rfl (fun _ _ => rfl) fun admission => ?_
  rw [add_zero]
  cases admission with
  | error error => exact Discharges.pure _
  | ok admission =>
      have owes : Action.begins (.peers (.admitNat conn source)) (.ok admission) =
          effectDuties (admission.superseded.toList.flatMap PeerSlot.retirement) +
            effectDuties ((admission.displaced.map Prod.snd).toList.flatMap
              PeerSlot.retirement) := by
        rw [<- effectDuties_append, <- List.flatMap_append]
        simp [Action.begins, PeersRegion.obliges, PeersRegion.replaced,
          PeersRegion.relinquished, PeersRegion.closes, PeersRegion.retires]
      rw [owes]
      refine (joinPool_discharges conn.peerId conn.remoteAddr admission.superseded).bind
        (fun _ => ?_) fun closes => absurd closes (by rw [unasked]; exact Bool.false_ne_true)
      exact (announceDisplaced_discharges admission.displaced).bind_zero fun _ =>
        Discharges.pure _

theorem adoptNatConnection_discharges (unasked : licence.closes = false) (conn : NatConnection) :
    Discharges licence clock 0 (adoptNatConnection config conn) :=
  (admitNatConnection_discharges config unasked conn .maintained).bind_zero fun _ =>
    Discharges.pure _

theorem handleInbound_discharges (remote : SocketAddr) (tls : Option AcceptedTls) :
    Discharges licence clock 0 (handleInbound config remote tls) := by
  refine Discharges.free rfl rfl fun running => ?_
  split
  · exact Discharges.pure ()
  cases tls with
  | none => exact Discharges.pure ()
  | some session =>
      simp only
      split
      · exact Discharges.pure ()
      refine unlessBanned_discharges session.peerId
        (fun _ => Discharges.pure ()) fun now later => ?_
      split
      · exact Discharges.pure ()
      refine Discharges.begin rfl rfl rfl (fun _ _ => rfl) fun generation => ?_
      refine Discharges.act rfl rfl (fun _ _ => rfl) fun superseded => ?_
      have owes : Action.begins
          (.peers (.insertLive session.peerId remote session.link generation)) superseded =
            effectDuties (superseded.toList.flatMap PeerSlot.teardown) := by
        simp [Action.begins, PeersRegion.obliges, PeersRegion.replaced,
          PeersRegion.relinquished, PeersRegion.closes, PeersRegion.retires]
      rw [add_zero, owes]
      exact (retireLive_discharges superseded).bind_zero fun _ => Discharges.freely rfl rfl

theorem acceptInbound_discharges (remote : SocketAddr) (tls : Option AcceptedTls) :
    Discharges licence clock 0 (acceptInbound config remote tls) := by
  refine Discharges.free rfl rfl fun running => ?_
  split
  · exact Discharges.pure ()
  refine Discharges.free rfl rfl fun entries => ?_
  split
  · exact Discharges.pure ()
  refine Discharges.free rfl rfl fun acquired => ?_
  split
  · exact Discharges.pure ()
  exact (handleInbound_discharges config remote tls).bind_zero fun _ => Discharges.freely rfl rfl

/-- What an inbound adoption owes once its session is in the map. -/
theorem adopted_discharges (peerId : PeerId) (remote : SocketAddr) {region : PeersRegion}
    {reply : region.Reply} {superseded : Option PeerSlot}
    (owes : region.obliges reply = superseded.toList.flatMap PeerSlot.retirement) :
    Discharges licence clock (Action.begins (.peers region) reply)
      (joinPool peerId remote superseded >>= fun _ =>
        (pure (.ok peerId) : ServiceProgram (Except GossipError PeerId))) := by
  rw [Action.begins, owes]
  exact (joinPool_discharges peerId remote superseded).bind_zero fun _ => Discharges.pure _

theorem adoptDirectInboundHandle_discharges (peerId : PeerId) (remote : SocketAddr)
    (method : TraversalKind) (session : SessionId) (sink : Option SinkId) :
    Discharges licence clock 0
      (adoptDirectInboundHandle config peerId remote method session sink) := by
  refine Discharges.free rfl rfl fun running => ?_
  split
  · exact Discharges.pure _
  split
  · exact Discharges.pure _
  split
  · exact Discharges.pure _
  refine unlessBanned_discharges peerId (fun _ => Discharges.pure _) fun now later => ?_
  refine Discharges.begin rfl rfl rfl (fun _ _ => rfl) fun admission => ?_
  rw [add_zero]
  cases admission with
  | error error => exact Discharges.pure _
  | ok superseded =>
      apply adopted_discharges
      simp [PeersRegion.obliges, PeersRegion.replaced, PeersRegion.relinquished,
        PeersRegion.closes, PeersRegion.retires]

theorem adoptRelayedInboundInner_discharges (session : InboundSession) :
    Discharges licence clock 0 (adoptRelayedInboundInner config session) := by
  refine Discharges.free rfl rfl fun running => ?_
  split
  · exact Discharges.pure _
  split
  · split
    · exact Discharges.pure _
    refine unlessBanned_discharges session.peerId (fun _ => Discharges.pure _) fun now later => ?_
    refine Discharges.begin rfl rfl rfl (fun _ _ => rfl) fun admission => ?_
    rw [add_zero]
    cases admission with
    | error error => exact Discharges.pure _
    | ok superseded =>
        apply adopted_discharges
        simp [PeersRegion.obliges, PeersRegion.replaced, PeersRegion.relinquished,
          PeersRegion.closes, PeersRegion.retires]
  · exact Discharges.pure _

theorem setNatBroadcastSink_discharges (peerId : PeerId) (sink : SinkId) :
    Discharges licence clock 0 (setNatBroadcastSink peerId sink) := by
  refine Discharges.free rfl rfl fun wired => ?_
  split
  · exact Discharges.pure _
  · exact Discharges.pure _

theorem disconnect_discharges (peerId : PeerId) :
    Discharges licence clock 0 (disconnect peerId) := by
  refine Discharges.free rfl rfl fun running => ?_
  split
  · exact Discharges.pure _
  refine Discharges.begin rfl rfl rfl (fun _ _ => rfl) fun removed => ?_
  have owes : Action.begins (.peers (.remove peerId)) removed =
      effectDuties (removed.toList.flatMap PeerSlot.teardown) := by
    simp [Action.begins, PeersRegion.obliges, PeersRegion.replaced, PeersRegion.relinquished,
      PeersRegion.closes]
  rw [add_zero, owes]
  refine (retireLive_discharges removed).bind_zero fun _ => ?_
  have announced : Discharges licence clock 0 (announceDisconnected peerId removed) := by
    cases removed with
    | none => exact Discharges.pure ()
    | some slot => exact publish_discharges (.peerRemoved peerId .disconnected)
  refine announced.bind_zero fun _ => ?_
  exact (removeFromPlumtree_discharges peerId).bind_zero fun _ => Discharges.pure _

theorem reapDepartedPeers_discharges : Discharges licence clock 0 reapDepartedPeers := by
  refine Discharges.free rfl rfl fun reaped => ?_
  exact (announceReaped_discharges reaped).bind_zero fun _ => Discharges.pure _

theorem banPeer_discharges (peerId : PeerId) : Discharges licence clock 0 (banPeer peerId) := by
  refine Discharges.free rfl rfl fun running => ?_
  split
  · exact Discharges.pure _
  refine Discharges.readClock fun now later known => ?_
  exact (enforceTimedBanAndDisconnect_discharges peerId known none).bind_zero fun _ =>
    Discharges.pure _

section Charging

variable (charges : licence.charges = true)

include charges

theorem licensed_of_charges {action : Action} (other : action.isReservation = false) :
    action.isLicensed licence = true := by
  rw [Action.isLicensed, other, charges, Bool.or_true]
  rfl

theorem chargePenalty_discharges (peerId : PeerId) (reason : PenaltyReason) (now : Nat) :
    Discharges licence clock 0 (chargePenalty peerId reason now) := by
  refine Discharges.free rfl (licensed_of_charges charges rfl) fun charged => ?_
  cases charged with
  | some charged =>
      exact Discharges.free rfl (licensed_of_charges charges rfl) fun _ => Discharges.pure _
  | none =>
      exact Discharges.free rfl (licensed_of_charges charges rfl) fun _ => Discharges.pure _

theorem penalizePeer_discharges (peerId : PeerId) (reason : PenaltyReason) :
    Discharges licence clock 0 (penalizePeer peerId reason) := by
  refine Discharges.free rfl rfl fun running => ?_
  split
  · exact Discharges.pure _
  refine Discharges.readClock fun now later known => ?_
  refine (pruneExpiredDigBans_discharges known).bind_zero fun _ => ?_
  refine Discharges.free rfl rfl fun alreadyBanned => ?_
  refine (chargePenalty_discharges charges peerId reason now).bind_zero fun shouldEnforce => ?_
  split
  · exact (enforceTimedBanAndDisconnect_discharges peerId known none).bind_zero fun _ =>
      Discharges.pure _
  · exact Discharges.pure _

theorem disconnectAfterKeepaliveFailure_discharges (peerId : PeerId) (generation : Nat) :
    Discharges licence clock 0 (disconnectAfterKeepaliveFailure peerId generation) := by
  refine Discharges.readClock fun now later known => ?_
  refine Discharges.begin rfl rfl rfl (fun _ _ => rfl) fun removed => ?_
  rw [add_zero]
  cases removed with
  | none => exact Discharges.pure ()
  | some live =>
      have owes : Action.begins (.peers (.removeIfGeneration peerId generation)) (some live) =
          Action.ends (.effect (.linkClosed live.peer)) + 0 := rfl
      rw [owes]
      refine Discharges.free rfl (licensed_of_charges charges rfl) fun charged => ?_
      refine Discharges.finish (fun _ => rfl) rfl rfl (fun _ _ => rfl) fun _ => ?_
      refine Discharges.free rfl (licensed_of_charges charges rfl) fun _ => ?_
      split
      · exact executeDigTimedBan_discharges _ _ _
      · exact Discharges.pure ()

theorem applyInboundRateLimitViolation_discharges (peerId : PeerId) (generation : Nat) :
    Discharges licence clock 0 (applyInboundRateLimitViolation peerId generation) := by
  refine Discharges.readClock fun now later known => ?_
  refine Discharges.free rfl rfl fun current => ?_
  split
  · exact Discharges.pure ()
  refine Discharges.free rfl (licensed_of_charges charges rfl) fun charged => ?_
  rcases charged with ⟨triggered, points⟩
  simp only
  split
  · exact Discharges.pure ()
  refine Discharges.readClock fun again even recent => ?_
  exact enforceTimedBanAndDisconnect_discharges peerId recent (some generation)

end Charging

section Pass

variable (reserves : licence.reserves = true) (unasked : licence.closes = false)

include reserves

theorem licensed_of_reserves {action : Action} (other : action.isCharge = false) :
    action.isLicensed licence = true := by
  rw [Action.isLicensed, other, reserves, Bool.or_true]
  rfl

include unasked

omit reserves in
theorem dialCandidate_discharges (dials : PoolCandidate -> Except GossipError NatConnection)
    (candidate : PoolCandidate) :
    Discharges licence clock 0 (dialCandidate config dials candidate) := by
  unfold dialCandidate
  cases candidate.peerId with
  | none => exact Discharges.pure _
  | some peerId =>
      cases dials candidate with
      | error error => exact Discharges.pure _
      | ok conn => exact adoptNatConnection_discharges config unasked conn

/-- A reservation is released after the dial, whatever comes of it. -/
theorem dialPlanned_discharges (cfg : PeerPoolConfig) (now : Nat)
    (dials : PoolCandidate -> Except GossipError NatConnection) (candidate : PoolCandidate) :
    Discharges licence clock 0 (dialPlanned config cfg now dials candidate) := by
  have licensed : forall {action : Action}, action.isCharge = false ->
      action.isLicensed licence = true := licensed_of_reserves reserves
  refine Discharges.begin rfl rfl (licensed rfl) (fun _ _ => rfl) fun reserved => ?_
  rw [add_zero]
  cases reserved with
  | false => exact Discharges.pure _
  | true =>
      have held : Unlinked licence (Action.begins (.reserve candidate.dedupKey) true) := by
        intro closes
        rw [unasked] at closes
        cases closes
      refine (dialCandidate_discharges config unasked dials candidate).zero_bind
        (fun result => ?_) held
      have only : Action.begins (.reserve candidate.dedupKey) true =
          Action.ends (.release candidate.dedupKey) + 0 := rfl
      rw [only]
      refine Discharges.finish (fun _ => rfl) rfl (licensed rfl) (fun _ _ => rfl) fun _ => ?_
      cases result with
      | error error => exact Discharges.free rfl rfl fun _ => Discharges.pure _
      | ok peerId =>
          refine Discharges.free rfl rfl fun _ => ?_
          refine Discharges.free rfl rfl fun _ => ?_
          have announced : Discharges licence clock 0 (announceDialed peerId candidate.addr) := by
            cases candidate.addr with
            | none => exact Discharges.pure ()
            | some addr => exact publish_discharges (.peerAdded peerId addr)
          exact announced.bind_zero fun _ => Discharges.pure _

theorem dialAll_discharges (cfg : PeerPoolConfig) (now : Nat)
    (dials : PoolCandidate -> Except GossipError NatConnection) (planned : List PoolCandidate) :
    Discharges licence clock 0 (dialAll config cfg now dials planned) := by
  induction planned with
  | nil => exact Discharges.pure _
  | cons candidate rest inner =>
      refine (dialPlanned_discharges config reserves unasked cfg now dials candidate).bind_zero
        fun added => ?_
      exact inner.bind_zero fun more => Discharges.pure _

theorem runPoolMaintenanceOnce_discharges (relayReachable : Nat) (candidates : List PoolCandidate)
    (dials : PoolCandidate -> Except GossipError NatConnection) :
    Discharges licence clock 0
      (runPoolMaintenanceOnce config relayReachable candidates dials) := by
  unfold runPoolMaintenanceOnce
  cases config.peerPool with
  | none => exact Discharges.pure _
  | some cfg =>
      simp only
      refine Discharges.readClock fun started later known => ?_
      refine (pruneExpiredDigBans_discharges known).bind_zero fun _ => ?_
      refine Discharges.free rfl rfl fun directConnected => ?_
      refine Discharges.free rfl rfl fun connectedKeys => ?_
      refine Discharges.readClock fun now even recent => ?_
      refine Discharges.free rfl rfl fun backoff => ?_
      refine Discharges.free rfl (licensed_of_reserves reserves rfl) fun inFlight => ?_
      exact dialAll_discharges config reserves unasked _ _ _ _

end Pass

end Operations

/-- Who is licensed to what. -/
def Operation.licence : Operation -> Licence
  | connectTo _ _ => { reserves := false, charges := false, closes := true }
  | penalizePeer _ _ => { reserves := false, charges := true, closes := false }
  | disconnectAfterKeepaliveFailure _ _ => { reserves := false, charges := true, closes := false }
  | applyInboundRateLimitViolation _ _ => { reserves := false, charges := true, closes := false }
  | runPoolMaintenanceOnce _ _ _ => { reserves := true, charges := false, closes := false }
  | _ => { reserves := false, charges := false, closes := false }

/-- Every operation, from the start to the end, does what it has to do and no more. -/
theorem Operation.discharges (config : GossipConfig) (op : Operation) (clock : Nat) :
    Discharges op.licence clock 0 (op.program config) := by
  have done : forall {R : Type} (outcome : R -> Outcome) {licence : Licence}
      {program : ServiceProgram R}, Discharges licence clock 0 program ->
      Discharges licence clock 0 (outcome <$> program) :=
    fun outcome _ _ discharges => discharges.bind_zero fun result => Discharges.pure _
  cases op with
  | connectTo addr dial => exact done _ (connectTo_discharges config rfl addr dial)
  | acceptInbound remote tls => exact done _ (acceptInbound_discharges config remote tls)
  | adoptNatConnection conn => exact done _ (adoptNatConnection_discharges config rfl conn)
  | adoptDiscoveredNatConnection conn =>
      exact done _ (admitNatConnection_discharges config rfl conn .discovered)
  | adoptDirectInboundHandle peerId remote method session sink =>
      exact done _ (adoptDirectInboundHandle_discharges config peerId remote method session sink)
  | adoptRelayedInbound conn =>
      exact done _ (adoptRelayedInboundInner_discharges config _)
  | adoptRelayedInboundHandle peerId remote session sink =>
      exact done _ (adoptRelayedInboundInner_discharges config _)
  | setNatBroadcastSink peerId sink => exact done _ (setNatBroadcastSink_discharges peerId sink)
  | disconnect peerId => exact done _ (disconnect_discharges peerId)
  | reapDepartedPeers => exact done _ reapDepartedPeers_discharges
  | banPeer peerId => exact done _ (banPeer_discharges peerId)
  | penalizePeer peerId reason => exact done _ (penalizePeer_discharges rfl peerId reason)
  | disconnectAfterKeepaliveFailure peerId generation =>
      exact done _ (disconnectAfterKeepaliveFailure_discharges rfl peerId generation)
  | applyInboundRateLimitViolation peerId generation =>
      exact done _ (applyInboundRateLimitViolation_discharges rfl peerId generation)
  | runPoolMaintenanceOnce relayReachable candidates dials =>
      exact done _ (runPoolMaintenanceOnce_discharges config rfl rfl relayReachable candidates dials)
  | peerActivityGuard peerId =>
      exact done _ (Discharges.readClock fun now later known => Discharges.freely rfl rfl)
  | dropActivityGuard peerId =>
      exact done _ (Discharges.readClock fun now later known => Discharges.freely rfl rfl)
  | setClock now => exact done _ (Discharges.freely rfl rfl)
  | closeSession session => exact done _ (Discharges.freely rfl rfl)
  | demoteToLazy peerId => exact done _ (Discharges.freely rfl rfl)
  | promoteToEager peerId => exact done _ (Discharges.freely rfl rfl)

/-! ## Duties along a run -/

/-- What is asked of every operation, whatever its licence. -/
abbrev Contract.DueOfAll : Contract -> Action -> Prop :=
  Contract.Due { reserves := true, charges := true, closes := true }

theorem Contract.Due.ofAll {licence : Licence} {contract : Contract} {action : Action}
    (due : contract.Due licence action) : contract.DueOfAll action where
  asked := due.asked.imp_left fun closing => ⟨closing.1, rfl⟩
  timely := due.timely
  licensed := by simp [Action.isLicensed]

/-- The past, the state and the duties of all operations together are as demanded,
each operation knowing its contract to be true to the state. -/
abbrev DutiesBalanced (Knows : ServiceState -> Contract -> Prop)
    (Global : List (System.Deed Action Action.Reply) -> ServiceState -> Multiset Duty -> Prop) :
    List (System.Deed Action Action.Reply) -> ServiceWorld -> Prop :=
  System.BalancedKnowing Contract.owed Contract.DueOfAll Contract.settle Knows Global

/-- Whether an action may begin a duty. -/
def Duty.begunBy : Duty -> Action -> Bool
  | unban _, .pruneBanned _ => true
  | lift _, .pruneBanned _ => true
  | ban _, .insertBan _ _ => true
  | place _, .nextPeerGeneration => true
  | effect _, .peers _ => true
  | release key, .reserve reserved => key == reserved
  | _, _ => false

/-- Whether an action ends a duty. -/
def Duty.endedBy : Duty -> Action -> Bool
  | unban ip, .unbanIp lifted => ip == lifted
  | lift peerId, .removePenalty lifted => peerId == lifted
  | ban ip, .banIp banned => ip == banned
  | place generation, .peers (.admitLive _ _ _ placed) => generation == placed
  | place generation, .peers (.insertLive _ _ _ placed) => generation == placed
  | effect pending, .effect done => pending == done
  | release key, .release released => key == released
  | _, _ => false

theorem Duty.begunBy_of_mem {duty : Duty} {action : Action} {reply : action.Reply}
    (member : duty ∈ action.begins reply) : duty.begunBy action = true := by
  cases action with
  | peers region =>
      rcases List.mem_map.mp (Multiset.mem_coe.mp member) with ⟨effect, _, rfl⟩
      rfl
  | pruneBanned now =>
      rcases mem_expiryDuties.mp member with ⟨row, _, rfl | ⟨_, rfl⟩⟩
      · rfl
      · rfl
  | insertBan peerId entry =>
      simp only [Action.begins, banDuties] at member
      split at member
      · exact absurd member (Multiset.notMem_zero _)
      · cases Multiset.mem_singleton.mp member
        rfl
  | nextPeerGeneration =>
      cases Multiset.mem_singleton.mp member
      rfl
  | reserve key =>
      simp only [Action.begins] at member
      split at member
      · cases Multiset.mem_singleton.mp member
        exact beq_self_eq_true key
      · exact absurd member (Multiset.notMem_zero _)
  | _ => exact absurd member (Multiset.notMem_zero _)

theorem Duty.endedBy_of_mem {duty : Duty} {action : Action} (member : duty ∈ action.ends) :
    duty.endedBy action = true := by
  cases action with
  | peers region =>
      cases region with
      | admitLive peerId remote link generation =>
          cases Multiset.mem_singleton.mp member
          exact beq_self_eq_true generation
      | insertLive peerId remote link generation =>
          cases Multiset.mem_singleton.mp member
          exact beq_self_eq_true generation
      | _ => exact absurd member (Multiset.notMem_zero _)
  | unbanIp ip =>
      cases Multiset.mem_singleton.mp member
      exact beq_self_eq_true ip
  | banIp ip =>
      cases Multiset.mem_singleton.mp member
      exact beq_self_eq_true ip
  | removePenalty peerId =>
      cases Multiset.mem_singleton.mp member
      exact beq_self_eq_true peerId
  | effect done =>
      cases Multiset.mem_singleton.mp member
      exact beq_self_eq_true done
  | release key =>
      cases Multiset.mem_singleton.mp member
      exact beq_self_eq_true key
  | _ => exact absurd member (Multiset.notMem_zero _)

section Settling

variable {others : Multiset Duty} {contract : Contract} {action : Action} {reply : action.Reply}
  {duty : Duty}

/-- A duty that the action does not end is still there. -/
theorem mem_settled (member : duty ∈ others + contract.owed) (kept : duty ∉ action.ends) :
    duty ∈ others + (contract.settle action reply).owed := by
  rcases Multiset.mem_add.mp member with theirs | mine
  · exact Multiset.mem_add.mpr (Or.inl theirs)
  · refine Multiset.mem_add.mpr (Or.inr (Multiset.mem_add.mpr (Or.inr ?_)))
    rw [Multiset.mem_sub, Multiset.count_eq_zero_of_notMem kept]
    exact Multiset.count_pos.mpr mine

theorem mem_begun (begun : duty ∈ action.begins reply) :
    duty ∈ others + (contract.settle action reply).owed :=
  Multiset.mem_add.mpr (Or.inr (Multiset.mem_add.mpr (Or.inl begun)))

/-- A duty that is there was there before, or begins with the action. -/
theorem of_mem_settled (member : duty ∈ others + (contract.settle action reply).owed) :
    duty ∈ others + contract.owed ∨ duty ∈ action.begins reply := by
  rcases Multiset.mem_add.mp member with theirs | mine
  · exact Or.inl (Multiset.mem_add.mpr (Or.inl theirs))
  · rcases Multiset.mem_add.mp mine with begun | left
    · exact Or.inr begun
    · exact Or.inl (Multiset.mem_add.mpr (Or.inr (Multiset.mem_of_le (Multiset.sub_le_self _ _) left)))

/-- What there is of a duty, with what ends, is what there was with what begins. -/
theorem count_settled (due : contract.DueOfAll action)
    (linked : forall link, duty ≠ .effect (.linkClosed link)) :
    (others + (contract.settle action reply).owed).count duty + action.ends.count duty =
      (others + contract.owed).count duty + (action.begins reply).count duty := by
  have within : action.ends.count duty ≤ contract.owed.count duty := by
    rcases due.asked with ⟨closing, _⟩ | asked
    · have absent : duty ∉ action.ends := by
        intro member
        cases action with
        | effect done =>
            cases done with
            | linkClosed link => exact linked link (Multiset.mem_singleton.mp member)
            | keepaliveAborted generation => cases closing
            | noticeFired session => cases closing
        | _ => cases closing
      rw [Multiset.count_eq_zero_of_notMem absent]
      exact Nat.zero_le _
    · exact Multiset.count_le_of_le duty asked
  simp only [Contract.settle, Multiset.count_add, Multiset.count_sub]
  omega

/-- No duty disappears but by being ended. -/
theorem count_settled_le :
    (others + contract.owed).count duty + (action.begins reply).count duty ≤
      (others + (contract.settle action reply).owed).count duty + action.ends.count duty := by
  simp only [Contract.settle, Multiset.count_add, Multiset.count_sub]
  omega

end Settling

/-- An invariant of the past, the state and the duties needs each action with
the contract of its own operation. -/
theorem duties_balanced {launch : Launch} {allowed : (PeerId -> Nat) -> Action -> ServiceState -> Bool}
    {Knows : ServiceState -> Contract -> Prop}
    {Global : List (System.Deed Action Action.Reply) -> ServiceState -> Multiset Duty -> Prop}
    (fresh : forall s, Knows s ⟨0, 0⟩)
    (stable : forall order action s contract, allowed order action s = true ->
      Knows s contract -> Knows (exec order action s).1 contract)
    (learned : forall order action s contract, allowed order action s = true ->
      Knows s contract ->
      Knows (exec order action s).1 (contract.settle action (exec order action s).2))
    (kept : forall past order action s others contract, allowed order action s = true ->
      Knows s contract -> contract.DueOfAll action -> Global past s (others + contract.owed) ->
      Global (past ++ [⟨action, (exec order action s).2⟩]) (exec order action s).1
        (others + (contract.settle action (exec order action s).2).owed))
    (start : Global [] launch.world.shared 0) {moves : List ServiceMove}
    (passed : launch.allows allowed moves = true) :
    DutiesBalanced Knows Global (launch.trace moves) (launch.after moves) := by
  have spawned : forall s op, System.OwesKnowing Contract.owed Contract.DueOfAll Contract.settle
      (Knows s) (Operation.program launch.config op) 0 := by
    intro s op
    refine ⟨⟨0, 0⟩, rfl, fresh s, ?_⟩
    have ends := op.discharges launch.config 0 0 0 (Nat.le_refl 0)
      fun _ _ member => absurd member (Multiset.notMem_zero _)
    rw [add_zero] at ends
    have weaker := Program.wp_of_due ends fun _ _ due => due.ofAll
    exact wp_mono weaker fun _ _ ended => ended.1
  have idle : DutiesBalanced Knows Global [] launch.world := ⟨0, System.Accounts.nil, start⟩
  exact System.balancedKnowing_run (fun w op _ => spawned w.shared op) (fun _ _ _ ok => ok)
    stable learned kept passed idle

end Service
end DigGossip
