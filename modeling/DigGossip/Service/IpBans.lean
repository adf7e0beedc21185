import DigGossip.Service.Duties

namespace DigGossip
namespace Service

open Foundations DigGossip.Types

/-!
# The two ban tables agree

The service keeps its bans by peer, the client state below it by address.
Recording a row and lifting expired rows each end with a change of the address
table that comes later, so between the two the tables differ by a duty.  The
tables agree at rest along the runs in which no change of one table speaks for
a row that the other table still needs.
-/

/-- The rows that were recorded, in order. -/
def createdBans (past : List (System.Deed Action Action.Reply)) : List DigBanEntry :=
  past.filterMap fun deed =>
    match deed.1 with
    | .insertBan _ entry => some entry
    | _ => none

/-- An address is banned just when an unexpired row was recorded for a peer there. -/
def IpBansAgree (past : List (System.Deed Action Action.Reply)) (s : ServiceState) : Prop :=
  forall ip, isUnspecified ip = false ->
    (ip ∈ s.chiaIpBans ↔ ∃ entry ∈ createdBans past, entry.ip = ip ∧ s.now < entry.untilSecs)

/-- When every recorded row is expired no host is banned. -/
theorem IpBansAgree.lifted {past : List (System.Deed Action Action.Reply)} {s : ServiceState}
    (agree : IpBansAgree past s)
    (expired : ∀ entry ∈ createdBans past, entry.untilSecs ≤ s.now) {ip : IpAddr}
    (host : isUnspecified ip = false) : ip ∉ s.chiaIpBans := by
  intro banned
  rcases (agree ip host).mp banned with ⟨entry, created, _, unexpired⟩
  exact Nat.not_lt_of_le (expired entry created) unexpired

/-- No row is left whose time is over. -/
def ExpiredArePruned (s : ServiceState) : Prop :=
  forall peerId row, s.banned.lookup peerId = some row -> s.now < row.untilSecs

/-- The clock is not set back. -/
def clockIsKept (_ : PeerId -> Nat) : Action -> ServiceState -> Bool
  | .setClock now, s => decide (s.now ≤ now)
  | _, _ => true

def namesIp (ip : IpAddr) (row : DigBanEntry) : Bool :=
  row.ip == ip

/-- Whether the new row says all that the old one said of its address. -/
def coversRow (row entry : DigBanEntry) : Bool :=
  isUnspecified row.ip || (row.ip == entry.ip && decide (row.untilSecs ≤ entry.untilSecs))

/-- The clock is not set back, a row is overwritten only by one that covers it,
an address is banned while a row names it and lifted while no unexpired row does. -/
def keepsTablesInStep (_ : PeerId -> Nat) : Action -> ServiceState -> Bool
  | .setClock now, s => decide (s.now ≤ now)
  | .insertBan peerId entry, s => (s.banned.lookup peerId).all fun row => coversRow row entry
  | .banIp ip, s => decide (0 < FiniteMap.countWhere s.banned fun _ row => namesIp ip row)
  | .unbanIp ip, s =>
      FiniteMap.countWhere s.banned (fun _ row => namesIp ip row && decide (s.now < row.untilSecs)) == 0
  | _, _ => true

/-! ## The tables and the duties -/

/-- What holds of the two tables while operations are under way. -/
structure InStep (past : List (System.Deed Action Action.Reply)) (s : ServiceState)
    (owed : Multiset Duty) : Prop where
  covered : ∀ entry ∈ createdBans past, s.now < entry.untilSecs -> isUnspecified entry.ip = false ->
    exists peerId row, s.banned.lookup peerId = some row ∧ row.ip = entry.ip ∧
      entry.untilSecs ≤ row.untilSecs
  banned : forall peerId row, s.banned.lookup peerId = some row -> s.now < row.untilSecs ->
    isUnspecified row.ip = false -> row.ip ∈ s.chiaIpBans ∨ .ban row.ip ∈ owed
  named : ∀ ip ∈ s.chiaIpBans, isUnspecified ip = false ∧
    ((exists peerId row, s.banned.lookup peerId = some row ∧ row.ip = ip) ∨ .unban ip ∈ owed)
  created : forall peerId row, s.banned.lookup peerId = some row -> row ∈ createdBans past
  hosts : forall ip, .ban ip ∈ owed -> isUnspecified ip = false

/-- At rest and without expired rows the tables agree. -/
theorem InStep.agree {past : List (System.Deed Action Action.Reply)} {s : ServiceState}
    (inStep : InStep past s 0) (pruned : ExpiredArePruned s) : IpBansAgree past s := by
  intro ip host
  constructor
  · intro banned
    rcases (inStep.named ip banned).2 with ⟨peerId, row, found, named⟩ | owed
    · exact ⟨row, inStep.created peerId row found, named, pruned peerId row found⟩
    · cases owed
  · rintro ⟨entry, member, rfl, unexpired⟩
    rcases inStep.covered entry member unexpired host with ⟨peerId, row, found, same, later⟩
    rw [<- same] at host ⊢
    rcases inStep.banned peerId row found (Nat.lt_of_lt_of_le unexpired later) host with
      banned | owed
    · exact banned
    · cases owed

/-- The actions that leave both tables and the clock as they are. -/
def Action.keepsBans : Action -> Bool
  | pruneBanned _ | insertBan _ _ | banIp _ | unbanIp _ | setClock _ => false
  | _ => true

section Step

variable {past : List (System.Deed Action Action.Reply)} {order : PeerId -> Nat} {action : Action}
  {s : ServiceState} {others : Multiset Duty} {contract : Contract}

theorem exec_keepsBans (keeps : action.keepsBans = true) :
    (exec order action s).1.banned = s.banned ∧
      (exec order action s).1.chiaIpBans = s.chiaIpBans ∧ (exec order action s).1.now = s.now := by
  cases action with
  | pruneBanned now => cases keeps
  | insertBan peerId entry => cases keeps
  | banIp ip => cases keeps
  | unbanIp ip => cases keeps
  | setClock now => cases keeps
  | tryAcquirePermit =>
      simp only [exec]
      split
      · exact ⟨rfl, rfl, rfl⟩
      · exact ⟨rfl, rfl, rfl⟩
  | _ => exact ⟨rfl, rfl, rfl⟩

theorem createdBans_append (deed : System.Deed Action Action.Reply) :
    createdBans (past ++ [deed]) = createdBans past ++ createdBans [deed] :=
  List.filterMap_append

/-- Only a row that is recorded is created. -/
theorem createdBans_append_of_ne {reply : action.Reply}
    (other : forall peerId entry, action ≠ .insertBan peerId entry) :
    createdBans (past ++ [⟨action, reply⟩]) = createdBans past := by
  rw [createdBans_append]
  cases action with
  | insertBan peerId entry => exact absurd rfl (other peerId entry)
  | _ => exact List.append_nil _

/-- An action that makes nobody owe an address ban leaves those that are owed. -/
theorem InStep.hosts_settled {reply : action.Reply} (inStep : InStep past s (others + contract.owed))
    (none : forall ip, Duty.ban ip ∉ action.begins reply) (ip : IpAddr)
    (owed : .ban ip ∈ others + (contract.settle action reply).owed) : isUnspecified ip = false := by
  rcases of_mem_settled owed with before | begun
  · exact inStep.hosts ip before
  · exact absurd begun (none ip)

theorem InStep.keeps (inStep : InStep past s (others + contract.owed))
    (keeps : action.keepsBans = true) :
    InStep (past ++ [⟨action, (exec order action s).2⟩]) (exec order action s).1
      (others + (contract.settle action (exec order action s).2).owed) := by
  rcases @exec_keepsBans order action s keeps with ⟨sameRows, sameIps, sameNow⟩
  have sameCreated : createdBans (past ++ [⟨action, (exec order action s).2⟩]) =
      createdBans past :=
    createdBans_append_of_ne fun peerId entry same => by
      subst same
      cases keeps
  have noBan : forall ip, Duty.ban ip ∉ action.ends := by
    intro ip member
    have ended := Duty.endedBy_of_mem member
    cases action <;> first | cases ended | cases keeps
  have noUnban : forall ip, Duty.unban ip ∉ action.ends := by
    intro ip member
    have ended := Duty.endedBy_of_mem member
    cases action <;> first | cases ended | cases keeps
  have noneBegun : forall ip, Duty.ban ip ∉ action.begins (Service.exec order action s).2 := by
    intro ip member
    have begun := Duty.begunBy_of_mem member
    cases action with
    | insertBan peerId entry => cases keeps
    | _ => cases begun
  constructor
  · rw [sameCreated, sameRows, sameNow]
    exact inStep.covered
  · rw [sameRows, sameIps, sameNow]
    intro peerId row found unexpired host
    exact (inStep.banned peerId row found unexpired host).imp_right fun owed =>
      mem_settled owed (noBan row.ip)
  · rw [sameRows, sameIps]
    intro ip banned
    refine ⟨(inStep.named ip banned).1, (inStep.named ip banned).2.imp_right fun owed => ?_⟩
    exact mem_settled owed (noUnban ip)
  · rw [sameCreated, sameRows]
    exact inStep.created
  · exact inStep.hosts_settled noneBegun

/-- The rows whose time is over are what an expiry pass lifts. -/
theorem mem_expiredBans {now : Nat} {peerId : PeerId} {row : DigBanEntry}
    (found : s.banned.lookup peerId = some row) (expired : row.untilSecs ≤ now) :
    (peerId, row.ip) ∈ s.expiredBans order now := by
  refine List.mem_filterMap.mpr ⟨peerId, ?_, ?_⟩
  · rw [mem_listing, FiniteMap.mem_keys_iff, found]
    rfl
  · rw [found]
    exact if_pos expired

theorem lookup_pruneBanned {now : Nat} {peerId : PeerId} {row : DigBanEntry} :
    (s.pruneBanned now).banned.lookup peerId = some row ↔
      s.banned.lookup peerId = some row ∧ now < row.untilSecs := by
  unfold ServiceState.pruneBanned
  simp only [FiniteMap.lookup_retain_eq]
  cases found : s.banned.lookup peerId with
  | none => simp
  | some old =>
      simp only [Option.filter_some]
      split
      · rename_i keeps
        constructor
        · intro same
          cases same
          exact ⟨rfl, of_decide_eq_true keeps⟩
        · exact fun both => both.1
      · rename_i drops
        constructor
        · intro none
          cases none
        · rintro ⟨same, unexpired⟩
          cases same
          exact absurd (decide_eq_true unexpired) drops

/-- An expiry pass with a time the clock has reached lifts no row that is still needed. -/
theorem InStep.prune {now : Nat} (inStep : InStep past s (others + contract.owed))
    (reached : now ≤ s.now) :
    InStep (past ++ [⟨.pruneBanned now, s.expiredBans order now⟩]) (s.pruneBanned now)
      (others + (contract.settle (.pruneBanned now) (s.expiredBans order now)).owed) := by
  have sameCreated : createdBans (past ++ [⟨.pruneBanned now, s.expiredBans order now⟩]) =
      createdBans past := createdBans_append_of_ne fun _ _ same => by cases same
  have keeps : forall {duty : Duty}, duty ∈ others + contract.owed ->
      duty ∈ others + (contract.settle (.pruneBanned now) (s.expiredBans order now)).owed :=
    fun member => mem_settled member (Multiset.notMem_zero _)
  constructor
  · intro entry member unexpired host
    rw [sameCreated] at member
    rcases inStep.covered entry member unexpired host with ⟨peerId, row, found, same, later⟩
    refine ⟨peerId, row, lookup_pruneBanned.mpr ⟨found, ?_⟩, same, later⟩
    have clock : s.now < entry.untilSecs := unexpired
    omega
  · intro peerId row found unexpired host
    exact (inStep.banned peerId row (lookup_pruneBanned.mp found).1 unexpired host).imp_right keeps
  · intro ip banned
    rcases inStep.named ip banned with ⟨host, ⟨peerId, row, found, rfl⟩ | owed⟩
    · refine ⟨host, ?_⟩
      by_cases expired : row.untilSecs ≤ now
      · refine Or.inr (mem_begun (mem_expiryDuties.mpr ⟨_, mem_expiredBans found expired, ?_⟩))
        exact Or.inr ⟨host, rfl⟩
      · exact Or.inl ⟨peerId, row, lookup_pruneBanned.mpr ⟨found, by omega⟩, rfl⟩
    · exact ⟨host, Or.inr (keeps owed)⟩
  · intro peerId row found
    rw [sameCreated]
    exact inStep.created peerId row (lookup_pruneBanned.mp found).1
  · apply inStep.hosts_settled
    intro ip begun
    rcases mem_expiryDuties.mp begun with ⟨row, _, freed | freed⟩
    · cases freed
    · cases freed.2

/-- A row with an address survives the insertion of one that covers it, at its
place or in the new row. -/
theorem row_survives {peerId other : PeerId} {entry row : DigBanEntry}
    (covers : (s.banned.lookup peerId).all fun row => coversRow row entry)
    (found : s.banned.lookup other = some row) (host : isUnspecified row.ip = false) :
    exists peer left, (s.banned.insert peerId entry).lookup peer = some left ∧
      left.ip = row.ip ∧ row.untilSecs ≤ left.untilSecs := by
  by_cases same : other = peerId
  · subst same
    rw [found, Option.all_some, coversRow, host, Bool.false_or, Bool.and_eq_true,
      beq_iff_eq, decide_eq_true_eq] at covers
    exact ⟨other, entry, by rw [FiniteMap.lookup_insert_eq, if_pos rfl], covers.1.symm, covers.2⟩
  · exact ⟨other, row, by rw [FiniteMap.lookup_insert_eq, if_neg same, found], rfl, Nat.le_refl _⟩

/-- A row that covers the one it overwrites speaks for its address as well. -/
theorem InStep.record {peerId : PeerId} {entry : DigBanEntry}
    (inStep : InStep past s (others + contract.owed))
    (covers : (s.banned.lookup peerId).all fun row => coversRow row entry) :
    InStep (past ++ [⟨.insertBan peerId entry, ()⟩])
      { s with banned := s.banned.insert peerId entry }
      (others + (contract.settle (.insertBan peerId entry) ()).owed) := by
  have sameCreated : createdBans (past ++ [⟨.insertBan peerId entry, ()⟩]) =
      createdBans past ++ [entry] := by
    rw [createdBans_append]
    rfl
  have keeps : forall {duty : Duty}, duty ∈ others + contract.owed ->
      duty ∈ others + (contract.settle (.insertBan peerId entry) ()).owed :=
    fun member => mem_settled member (Multiset.notMem_zero _)
  constructor
  · intro created member unexpired host
    rw [sameCreated, List.mem_append, List.mem_singleton] at member
    rcases member with old | rfl
    · rcases inStep.covered created old unexpired host with ⟨other, row, found, same, later⟩
      rw [<- same] at host
      rcases row_survives covers found host with ⟨peer, left, kept, named, longer⟩
      exact ⟨peer, left, kept, named.trans same, Nat.le_trans later longer⟩
    · exact ⟨peerId, created, by simp, rfl, Nat.le_refl _⟩
  · intro other row found unexpired host
    rcases FiniteMap.of_lookup_insert found with ⟨_, rfl⟩ | ⟨_, old⟩
    · right
      apply mem_begun
      simp only [Action.begins, banDuties, host, Bool.false_eq_true, if_false]
      exact Multiset.mem_singleton_self _
    · exact (inStep.banned other row old unexpired host).imp_right keeps
  · intro ip banned
    rcases inStep.named ip banned with ⟨host, ⟨other, row, found, rfl⟩ | owed⟩
    · rcases row_survives covers found host with ⟨peer, left, kept, named, _⟩
      exact ⟨host, Or.inl ⟨peer, left, kept, named⟩⟩
    · exact ⟨host, Or.inr (keeps owed)⟩
  · intro other row found
    rw [sameCreated, List.mem_append, List.mem_singleton]
    rcases FiniteMap.of_lookup_insert found with ⟨_, rfl⟩ | ⟨_, old⟩
    · exact Or.inr rfl
    · exact Or.inl (inStep.created other row old)
  · intro ip owed
    rcases of_mem_settled owed with before | begun
    · exact inStep.hosts ip before
    · simp only [Action.begins, banDuties] at begun
      split at begun
      · exact absurd begun (Multiset.notMem_zero _)
      · rename_i host
        cases Multiset.mem_singleton.mp begun
        exact Bool.not_eq_true _ ▸ host

theorem InStep.ban {ip : IpAddr} (inStep : InStep past s (others + contract.owed))
    (asked : {.ban ip} ≤ contract.owed) (named : exists peerId row,
      s.banned.lookup peerId = some row ∧ row.ip = ip) :
    InStep (past ++ [⟨.banIp ip, ()⟩]) { s with chiaIpBans := insert ip s.chiaIpBans }
      (others + (contract.settle (.banIp ip) ()).owed) := by
  have sameCreated : createdBans (past ++ [⟨.banIp ip, ()⟩]) = createdBans past :=
    createdBans_append_of_ne fun _ _ same => by cases same
  have due : .ban ip ∈ others + contract.owed :=
    Multiset.mem_add.mpr (Or.inr (Multiset.singleton_le.mp asked))
  constructor
  · rw [sameCreated]
    exact inStep.covered
  · intro peerId row found unexpired host
    by_cases same : row.ip = ip
    · exact Or.inl (Finset.mem_insert.mpr (Or.inl same))
    · refine (inStep.banned peerId row found unexpired host).imp
        (fun banned => Finset.mem_insert.mpr (Or.inr banned)) fun owed => ?_
      refine mem_settled owed fun ended => same ?_
      cases Multiset.mem_singleton.mp ended
      rfl
  · intro other banned
    rcases Finset.mem_insert.mp banned with rfl | old
    · exact ⟨inStep.hosts other due, Or.inl named⟩
    · refine ⟨(inStep.named other old).1, (inStep.named other old).2.imp_right fun owed => ?_⟩
      refine mem_settled owed fun ended => ?_
      cases Multiset.mem_singleton.mp ended
  · rw [sameCreated]
    exact inStep.created
  · exact inStep.hosts_settled fun _ => Multiset.notMem_zero _

theorem InStep.unban {ip : IpAddr} (inStep : InStep past s (others + contract.owed))
    (unneeded : forall peerId row, s.banned.lookup peerId = some row -> s.now < row.untilSecs ->
      row.ip ≠ ip) :
    InStep (past ++ [⟨.unbanIp ip, ()⟩]) { s with chiaIpBans := s.chiaIpBans.erase ip }
      (others + (contract.settle (.unbanIp ip) ()).owed) := by
  have sameCreated : createdBans (past ++ [⟨.unbanIp ip, ()⟩]) = createdBans past :=
    createdBans_append_of_ne fun _ _ same => by cases same
  constructor
  · rw [sameCreated]
    exact inStep.covered
  · intro peerId row found unexpired host
    refine (inStep.banned peerId row found unexpired host).imp
      (fun banned => Finset.mem_erase.mpr ⟨unneeded peerId row found unexpired, banned⟩)
      fun owed => ?_
    refine mem_settled owed fun ended => ?_
    cases Multiset.mem_singleton.mp ended
  · intro other banned
    rcases Finset.mem_erase.mp banned with ⟨different, old⟩
    refine ⟨(inStep.named other old).1, (inStep.named other old).2.imp_right fun owed => ?_⟩
    refine mem_settled owed fun ended => different ?_
    cases Multiset.mem_singleton.mp ended
    rfl
  · rw [sameCreated]
    exact inStep.created
  · exact inStep.hosts_settled fun _ => Multiset.notMem_zero _

theorem InStep.setClock {now : Nat} (inStep : InStep past s (others + contract.owed))
    (forward : s.now ≤ now) :
    InStep (past ++ [⟨.setClock now, ()⟩]) { s with now := now }
      (others + (contract.settle (.setClock now) ()).owed) := by
  have sameCreated : createdBans (past ++ [⟨.setClock now, ()⟩]) = createdBans past :=
    createdBans_append_of_ne fun _ _ same => by cases same
  have keeps : forall {duty : Duty}, duty ∈ others + contract.owed ->
      duty ∈ others + (contract.settle (.setClock now) ()).owed :=
    fun member => mem_settled member (Multiset.notMem_zero _)
  constructor
  · intro entry member unexpired host
    rw [sameCreated] at member
    exact inStep.covered entry member (Nat.lt_of_le_of_lt forward unexpired) host
  · intro peerId row found unexpired host
    exact (inStep.banned peerId row found (Nat.lt_of_le_of_lt forward unexpired) host).imp_right
      keeps
  · intro ip banned
    exact ⟨(inStep.named ip banned).1, (inStep.named ip banned).2.imp_right keeps⟩
  · rw [sameCreated]
    exact inStep.created
  · exact inStep.hosts_settled fun _ => Multiset.notMem_zero _

/-- One action that meets the condition keeps the tables in step. -/
theorem InStep.exec (inStep : InStep past s (others + contract.owed))
    (known : contract.clock ≤ s.now) (due : contract.DueOfAll action)
    (allowed : keepsTablesInStep order action s = true) :
    InStep (past ++ [⟨action, (exec order action s).2⟩]) (exec order action s).1
      (others + (contract.settle action (exec order action s).2).owed) := by
  cases action with
  | pruneBanned now =>
      exact inStep.prune (Nat.le_trans (of_decide_eq_true due.timely) known)
  | insertBan peerId entry => exact inStep.record allowed
  | banIp ip =>
      rcases due.asked with ⟨closing, _⟩ | asked
      · cases closing
      refine inStep.ban asked ?_
      rcases FiniteMap.exists_of_countWhere_pos (of_decide_eq_true allowed) with
        ⟨peerId, row, found, names⟩
      exact ⟨peerId, row, found, beq_iff_eq.mp names⟩
  | unbanIp ip =>
      refine inStep.unban fun peerId row found unexpired same => ?_
      have needed : 0 < FiniteMap.countWhere s.banned fun _ row =>
          namesIp ip row && decide (s.now < row.untilSecs) := by
        refine FiniteMap.countWhere_pos found ?_
        rw [namesIp, same, beq_self_eq_true, decide_eq_true unexpired]
        rfl
      rw [beq_iff_eq.mp allowed] at needed
      cases needed
  | setClock now => exact inStep.setClock (of_decide_eq_true allowed)
  | _ => exact inStep.keeps rfl

end Step

/-- Along every run whose changes keep the tables in step, once the operations
have completed and no expired row is left an address is banned just when an
unexpired row was recorded for it. -/
theorem ip_bans_agree (launch : Launch) (moves : List ServiceMove)
    (allowed : launch.allows keepsTablesInStep moves = true)
    (settled : (launch.after moves).settled = true)
    (pruned : ExpiredArePruned (launch.after moves).shared) :
    IpBansAgree (launch.trace moves) (launch.after moves).shared := by
  have none : forall peerId row, launch.world.shared.banned.lookup peerId ≠ some row := by
    intro peerId row found
    have empty : launch.world.shared.banned.lookup peerId = none := Finmap.lookup_empty peerId
    rw [empty] at found
    cases found
  have start : InStep [] launch.world.shared 0 := by
    constructor
    · intro entry member
      cases member
    · exact fun peerId row found => absurd found (none peerId row)
    · intro ip banned
      cases banned
    · exact fun peerId row found => absurd found (none peerId row)
    · intro ip owed
      cases owed
  have forward : forall order action s, keepsTablesInStep order action s = true ->
      s.now ≤ (exec order action s).1.now := by
    intro order action s allowed
    cases action with
    | setClock now => exact of_decide_eq_true allowed
    | tryAcquirePermit =>
        simp only [exec]
        split
        · exact Nat.le_refl _
        · exact Nat.le_refl _
    | _ => exact Nat.le_refl _
  have balanced : DutiesBalanced (fun s contract => contract.clock ≤ s.now) InStep
      (launch.trace moves) (launch.after moves) := by
    refine duties_balanced (fun s => Nat.zero_le _) ?_ ?_ ?_ start allowed
    · intro order action s contract allowed known
      exact Nat.le_trans known (forward order action s allowed)
    · intro order action s contract allowed known
      cases action with
      | readClock => exact Nat.max_le.mpr ⟨known, Nat.le_refl _⟩
      | _ => exact Nat.le_trans known (forward _ _ _ allowed)
    · exact fun past order action s others contract allowed known due inStep =>
        inStep.exec known due allowed
  exact (balanced.settled settled).agree pruned

theorem expiredArePruned {s : ServiceState}
    (none : FiniteMap.countWhere s.banned (fun _ row => decide (row.untilSecs ≤ s.now)) = 0) :
    ExpiredArePruned s := by
  intro peerId row found
  by_contra late
  have counted : 0 < FiniteMap.countWhere s.banned fun _ row => decide (row.untilSecs ≤ s.now) :=
    FiniteMap.countWhere_pos found (decide_eq_true (Nat.le_of_not_lt late))
  rw [none] at counted
  cases counted

namespace Example

/-- A peer is banned, and banned again when it holds no slot; the ban expires. -/
def bannedAgain : List ServiceMove :=
  inSequence 20 [
    connected 1 (host 10 1), .banPeer 1, .banPeer 1, .setClock 9000, connected 2 (host 20 1)]

/-- One ban expires while another goes on. -/
def bannedInTurn : List ServiceMove :=
  inSequence 20 [
    connected 1 (host 10 1), .banPeer 1, connected 2 (host 20 1), .setClock 3000, .banPeer 2,
    .setClock 5000, connected 1 (host 10 1)]

end Example

theorem ip_bans_agree_in_turn :
    IpBansAgree (Example.launch.trace Example.bannedInTurn)
      (Example.launch.after Example.bannedInTurn).shared :=
  ip_bans_agree Example.launch Example.bannedInTurn (by decide +kernel) (by decide +kernel)
    (expiredArePruned (by decide +kernel))

theorem ip_bans_agree_fails :
    ¬ forall (launch : Launch) (moves : List ServiceMove),
      launch.allows clockIsKept moves = true -> (launch.after moves).settled = true ->
      ExpiredArePruned (launch.after moves).shared ->
      IpBansAgree (launch.trace moves) (launch.after moves).shared := by
  intro always
  have agree := always Example.launch Example.bannedAgain (by decide +kernel) (by decide +kernel)
    (expiredArePruned (by decide +kernel))
  have expired : ∀ entry ∈ createdBans (Example.launch.trace Example.bannedAgain),
      entry.untilSecs ≤ (Example.launch.after Example.bannedAgain).shared.now := by
    decide +kernel
  have host : isUnspecified (Example.host 10 1).ip = false := by decide
  have lifted := agree.lifted expired host
  revert lifted
  decide +kernel

end Service
end DigGossip
