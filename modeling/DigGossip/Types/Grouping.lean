import DigGossip.Types.Peer
import DigGossip.Types.PrefixMatch

namespace DigGossip
namespace Types

open Foundations

/-!
# The group of an address, in the cap and in the address book

The outbound cap and the address book both group an IPv4 address by its first
sixteen bits and an IPv6 address by its first thirty-two.  The cap packs both
into one word, so a low IPv6 group is also an IPv4 one.  The address book keeps
the two apart by their lengths, but folds the deprecated compatible addresses
`::a.b.c.d` to IPv4, which the cap does not.
-/

/-! ## Leading bits -/

/-- A shift to the right keeps the leading bits and nothing else. -/
theorem ushiftRight_eq_iff {width count : Nat} (fits : count ≤ width) (left right : BitVec width) :
    left >>> (width - count) = right >>> (width - count) ↔ SharesLeading count left right := by
  constructor
  · intro same index below
    have bits := congrArg (fun word => BitVec.getMsbD word (index + (width - count))) same
    simp only [BitVec.getMsbD_ushiftRight] at bits
    rwa [decide_eq_true (by omega : index + (width - count) < width),
      decide_eq_false (by omega : ¬index + (width - count) < width - count),
      Nat.add_sub_cancel] at bits
  · intro shares
    apply BitVec.eq_of_getMsbD_eq
    intro index inside
    simp only [BitVec.getMsbD_ushiftRight]
    by_cases shifted : index < width - count
    · rw [decide_eq_true shifted]
      rfl
    · rw [shares (index - (width - count)) (by omega)]

/-- The octet at a position holds the eight bits from there on. -/
theorem getLsbD_octet {octets position offset : Nat} (inside : position < octets)
    (within : offset < 8) (bits : BitVec (8 * octets)) :
    (UInt8.ofBitVec (bits.extractLsb' (8 * (octets - 1 - position)) 8)).toBitVec.getLsbD
        (7 - offset) = bits.getMsbD (8 * position + offset) := by
  rw [UInt8.toBitVec_ofBitVec, BitVec.getLsbD_extractLsb', BitVec.getMsbD_eq_getLsbD,
    decide_eq_true (by omega : 7 - offset < 8), Bool.true_and,
    decide_eq_true (by omega : 8 * position + offset < 8 * octets), Bool.true_and]
  congr 1
  omega

/-- The first octets hold the leading bits, eight each. -/
theorem take_octetsOf_eq_iff {octets count : Nat} (fits : count ≤ octets)
    (left right : BitVec (8 * octets)) :
    (octetsOf octets left).take count = (octetsOf octets right).take count ↔
      SharesLeading (8 * count) left right := by
  have short : (List.range octets).take count = List.range count := by
    rw [List.take_range, Nat.min_eq_left fits]
  rw [octetsOf, octetsOf, <- List.map_take, <- List.map_take, short, List.map_inj_left]
  constructor
  · intro same index below
    have octet := same (index / 8) (List.mem_range.mpr (by omega))
    have bits := congrArg (fun octet => octet.toBitVec.getLsbD (7 - index % 8)) octet
    dsimp only at bits
    rw [getLsbD_octet (by omega) (by omega), getLsbD_octet (by omega) (by omega)] at bits
    rwa [Nat.div_add_mod] at bits
  · intro shares position below
    have inside : position < count := List.mem_range.mp below
    apply UInt8.toBitVec_inj.mp
    apply BitVec.eq_of_getLsbD_eq
    intro index within
    have bits := shares (8 * position + (7 - index)) (by omega)
    rw [<- getLsbD_octet (by omega) (by omega), <- getLsbD_octet (by omega) (by omega)] at bits
    rwa [show 7 - (7 - index) = index by omega] at bits

theorem length_octetsOf (octets : Nat) {width : Nat} (bits : BitVec width) :
    (octetsOf octets bits).length = octets := by
  rw [octetsOf, List.length_map, List.length_range]

/-! ## The two groupings -/

/-- The deprecated form `::a.b.c.d`. -/
def IsCompatible (bits : BitVec 128) : Prop :=
  bits >>> 32 = 0

instance (bits : BitVec 128) : Decidable (IsCompatible bits) :=
  inferInstanceAs (Decidable (bits >>> 32 = 0))

/-- After the mapped addresses are read as IPv4, the addresses are of one
family and share its leading bits. -/
def SameSubnet (first second : IpAddr) : Prop :=
  match canonicalIp first, canonicalIp second with
  | .v4 left, .v4 right => SharesLeading 16 left right
  | .v6 left, .v6 right => SharesLeading 32 left right
  | .v4 _, .v6 _ => False
  | .v6 _, .v4 _ => False

/-- The group of the address book, for an address that is folded already. -/
def groupBytes : IpAddr -> List UInt8
  | .v4 bits => (octetsOf 4 bits).take 2
  | .v6 bits => (octetsOf 16 bits).take 4

/-- The group of the cap, for an address that is canonical already. -/
def groupKey : IpAddr -> BitVec 32
  | .v4 bits => bits >>> 16
  | .v6 bits => (bits >>> 96).setWidth 32

/-- What the address book folds beyond the mapped addresses. -/
def foldCompatible : IpAddr -> IpAddr
  | .v4 bits => .v4 bits
  | .v6 bits => if IsCompatible bits then .v4 (bits.setWidth 32) else .v6 bits

theorem subnetGroup_eq (ip : IpAddr) : subnetGroup ip = groupKey (canonicalIp ip) := by
  unfold subnetGroup
  cases canonicalIp ip <;> rfl

theorem normalizeIp_eq (ip : IpAddr) : normalizeIp ip = foldCompatible (canonicalIp ip) := by
  cases ip with
  | v4 bits => rfl
  | v6 bits =>
      by_cases mapped : bits >>> 32 = 0xffff
      · simp only [normalizeIp, canonicalIp, Ipv6Addr.toIpv4, Ipv6Addr.toIpv4Mapped, mapped,
          true_or, if_true, foldCompatible]
      · by_cases compatible : bits >>> 32 = 0
        · have folds : IsCompatible bits := compatible
          simp only [normalizeIp, canonicalIp, Ipv6Addr.toIpv4, Ipv6Addr.toIpv4Mapped,
            foldCompatible]
          rw [if_pos (Or.inr compatible), if_neg mapped]
          dsimp only
          rw [if_pos folds]
        · have stays : ¬IsCompatible bits := compatible
          simp only [normalizeIp, canonicalIp, Ipv6Addr.toIpv4, Ipv6Addr.toIpv4Mapped,
            foldCompatible]
          rw [if_neg (fun either => either.elim mapped compatible), if_neg mapped]
          dsimp only
          rw [if_neg stays]

theorem getGroup_eq (sha256 : Digest) {peer : PeerInfo} {ip : IpAddr}
    (read : parseIpAddr peer.host = some ip) :
    peer.getGroup sha256 = groupBytes (foldCompatible (canonicalIp ip)) := by
  rw [<- normalizeIp_eq, PeerInfo.getGroup, read]
  dsimp only
  cases normalizeIp ip <;> rfl

section Keys

variable (left right : BitVec 32) (four : BitVec 32) (six other : BitVec 128)

theorem groupKey_v4_iff : groupKey (.v4 left) = groupKey (.v4 right) ↔
    SharesLeading 16 left right :=
  ushiftRight_eq_iff (by decide : 16 ≤ 32) left right

theorem groupKey_v6_iff : groupKey (.v6 six) = groupKey (.v6 other) ↔
    SharesLeading 32 six other := by
  rw [<- ushiftRight_eq_iff (by decide : 32 ≤ 128) six other]
  constructor
  · intro same
    apply BitVec.eq_of_toNat_eq
    have numbers := congrArg BitVec.toNat same
    simp only [groupKey, BitVec.toNat_setWidth, BitVec.toNat_ushiftRight] at numbers ⊢
    have sixBound := six.isLt
    have otherBound := other.isLt
    simp only [Nat.shiftRight_eq_div_pow] at numbers ⊢
    omega
  · intro same
    exact congrArg (BitVec.setWidth 32) same

theorem groupKey_mixed_iff : groupKey (.v4 four) = groupKey (.v6 six) ↔
    (four >>> 16).toNat = (six >>> 96).toNat := by
  have bound : (six >>> 96).toNat < 2 ^ 32 := by
    rw [BitVec.toNat_ushiftRight, Nat.shiftRight_eq_div_pow]
    have sixBound := six.isLt
    omega
  rw [<- BitVec.toNat_inj, groupKey, groupKey, BitVec.toNat_setWidth, Nat.mod_eq_of_lt bound]

theorem groupBytes_v4_iff : groupBytes (.v4 left) = groupBytes (.v4 right) ↔
    SharesLeading 16 left right :=
  take_octetsOf_eq_iff (by decide : 2 ≤ 4) left right

theorem groupBytes_v6_iff : groupBytes (.v6 six) = groupBytes (.v6 other) ↔
    SharesLeading 32 six other :=
  take_octetsOf_eq_iff (by decide : 4 ≤ 16) six other

/-- The address book tells the families apart by the length of the group. -/
theorem groupBytes_mixed : groupBytes (.v4 four) ≠ groupBytes (.v6 six) := by
  intro same
  have lengths := congrArg List.length same
  simp only [groupBytes, List.length_take, length_octetsOf] at lengths
  omega

end Keys

/-! ## Where they agree -/

/-- The cap groups the two addresses by their subnets, and the address book
groups the two peers at these addresses as the cap does. -/
def GroupsAgree (sha256 : Digest) (first second : PeerInfo) (left right : IpAddr) : Prop :=
  (subnetGroup left = subnetGroup right ↔ SameSubnet left right) ∧
    (subnetGroup left = subnetGroup right ↔ first.getGroup sha256 = second.getGroup sha256)

/-- The IPv4 group is not the number that the IPv6 address begins with, nor
that of the IPv4 address inside a compatible one. -/
def KeysApart (four : BitVec 32) (six : BitVec 128) : Prop :=
  (four >>> 16).toNat ≠ (six >>> 96).toNat ∧
    (IsCompatible six -> ¬SharesLeading 16 four (six.setWidth 32))

/-- Two IPv6 addresses are not told apart by what the address book folds: the
IPv4 addresses inside two compatible ones are of one group, and one that is
compatible does not begin like one that is not. -/
def FoldsAlike (left right : BitVec 128) : Prop :=
  (IsCompatible left -> IsCompatible right ->
    SharesLeading 16 (left.setWidth 32) (right.setWidth 32)) ∧
  (¬(IsCompatible left ↔ IsCompatible right) -> ¬SharesLeading 32 left right)

/-- The addresses stay clear of the corners in which the groupings differ. -/
def ClearOfCorners (first second : IpAddr) : Prop :=
  match canonicalIp first, canonicalIp second with
  | .v4 _, .v4 _ => True
  | .v4 four, .v6 six => KeysApart four six
  | .v6 six, .v4 four => KeysApart four six
  | .v6 left, .v6 right => FoldsAlike left right

/-- Compatible addresses all begin with zeros. -/
theorem sharesLeading_of_compatible {left right : BitVec 128} (leftFolds : IsCompatible left)
    (rightFolds : IsCompatible right) : SharesLeading 32 left right := by
  have shares := (ushiftRight_eq_iff (by decide : 96 ≤ 128) left right).mp
    (leftFolds.trans rightFolds.symm)
  intro index below
  exact shares index (by omega)

theorem mixed_groups_iff (four : BitVec 32) (six : BitVec 128) :
    ((groupKey (.v4 four) = groupKey (.v6 six) ↔ False) ∧
      (groupKey (.v4 four) = groupKey (.v6 six) ↔
        groupBytes (.v4 four) = groupBytes (foldCompatible (.v6 six)))) ↔ KeysApart four six := by
  rw [groupKey_mixed_iff, KeysApart, foldCompatible]
  by_cases folds : IsCompatible six
  · rw [if_pos folds, groupBytes_v4_iff]
    constructor
    · rintro ⟨apart, same⟩
      exact ⟨apart.mp, fun _ shares => apart.mp (same.mpr shares)⟩
    · rintro ⟨apart, embedded⟩
      refine ⟨Iff.intro apart False.elim, Iff.intro (fun same => absurd same apart) ?_⟩
      intro shares
      exact absurd shares (embedded folds)
  · rw [if_neg folds]
    constructor
    · rintro ⟨apart, _⟩
      exact ⟨apart.mp, fun compatible => absurd compatible folds⟩
    · rintro ⟨apart, _⟩
      refine ⟨Iff.intro apart False.elim, Iff.intro (fun same => absurd same apart) ?_⟩
      intro same
      exact absurd same (groupBytes_mixed four six)

theorem ipv6_groups_iff (left right : BitVec 128) :
    ((groupKey (.v6 left) = groupKey (.v6 right) ↔ SharesLeading 32 left right) ∧
      (groupKey (.v6 left) = groupKey (.v6 right) ↔
        groupBytes (foldCompatible (.v6 left)) = groupBytes (foldCompatible (.v6 right)))) ↔
      FoldsAlike left right := by
  rw [groupKey_v6_iff, FoldsAlike, foldCompatible, foldCompatible]
  by_cases leftFolds : IsCompatible left
  · rw [if_pos leftFolds]
    by_cases rightFolds : IsCompatible right
    · have zeros := sharesLeading_of_compatible leftFolds rightFolds
      rw [if_pos rightFolds, groupBytes_v4_iff]
      constructor
      · rintro ⟨_, same⟩
        refine ⟨fun _ _ => same.mp zeros, fun differ => ?_⟩
        exact absurd (Iff.intro (fun _ => rightFolds) fun _ => leftFolds) differ
      · rintro ⟨embedded, _⟩
        exact ⟨Iff.rfl, Iff.intro (fun _ => embedded leftFolds rightFolds) fun _ => zeros⟩
    · rw [if_neg rightFolds]
      constructor
      · rintro ⟨_, same⟩
        refine ⟨fun _ compatible => absurd compatible rightFolds, fun _ shares => ?_⟩
        exact groupBytes_mixed _ _ (same.mp shares)
      · rintro ⟨_, apart⟩
        refine ⟨Iff.rfl, Iff.intro (fun shares => ?_) fun same => ?_⟩
        · exact absurd shares (apart fun both => rightFolds (both.mp leftFolds))
        · exact absurd same (groupBytes_mixed _ _)
  · rw [if_neg leftFolds]
    by_cases rightFolds : IsCompatible right
    · rw [if_pos rightFolds]
      constructor
      · rintro ⟨_, same⟩
        refine ⟨fun compatible => absurd compatible leftFolds, fun _ shares => ?_⟩
        exact groupBytes_mixed _ _ (same.mp shares).symm
      · rintro ⟨_, apart⟩
        refine ⟨Iff.rfl, Iff.intro (fun shares => ?_) fun same => ?_⟩
        · exact absurd shares (apart fun both => leftFolds (both.mpr rightFolds))
        · exact absurd same.symm (groupBytes_mixed _ _)
    · rw [if_neg rightFolds, groupBytes_v6_iff]
      refine Iff.intro (fun _ => ?_) fun _ => ⟨Iff.rfl, Iff.rfl⟩
      refine ⟨fun compatible => absurd compatible leftFolds, fun differ => ?_⟩
      exact absurd (Iff.intro (fun compatible => absurd compatible leftFolds)
        fun compatible => absurd compatible rightFolds) differ

/-- The two groupings agree with the subnets exactly away from the corners. -/
theorem groupsAgree_iff (sha256 : Digest) {first second : PeerInfo} {left right : IpAddr}
    (firstRead : parseIpAddr first.host = some left)
    (secondRead : parseIpAddr second.host = some right) :
    GroupsAgree sha256 first second left right ↔ ClearOfCorners left right := by
  rw [GroupsAgree, getGroup_eq sha256 firstRead, getGroup_eq sha256 secondRead, subnetGroup_eq,
    subnetGroup_eq, SameSubnet, ClearOfCorners]
  cases canonicalIp left with
  | v4 four =>
      cases canonicalIp right with
      | v4 otherFour =>
          refine Iff.intro (fun _ => trivial) fun _ => ⟨groupKey_v4_iff four otherFour, ?_⟩
          exact (groupKey_v4_iff four otherFour).trans (groupBytes_v4_iff four otherFour).symm
      | v6 six => exact mixed_groups_iff four six
  | v6 six =>
      cases canonicalIp right with
      | v4 four =>
          dsimp only
          rw [eq_comm, eq_comm (a := groupBytes _)]
          exact mixed_groups_iff four six
      | v6 otherSix => exact ipv6_groups_iff six otherSix

namespace GroupingExample

def zeros : Digest := fun _ => Vector.replicate 32 0

def peerAt (host : String) : PeerInfo := { host := host, port := 9444 }

end GroupingExample

open GroupingExample in
/-- An IPv4 address and an IPv6 one, and two IPv6 addresses of one network,
stay clear of the corners. -/
theorem groupsAgree_clear :
    GroupsAgree zeros (peerAt "203.0.113.7") (peerAt "2001:db8::1")
      (.v4 0xcb007107) (.v6 0x20010db8000000000000000000000001) ∧
    GroupsAgree zeros (peerAt "2001:db8::1") (peerAt "2001:db8:ff::7")
      (.v6 0x20010db8000000000000000000000001) (.v6 0x20010db800ff00000000000000000007) := by
  constructor
  · refine (groupsAgree_iff zeros (by decide +kernel) (by decide +kernel)).mpr ⟨by decide, ?_⟩
    intro compatible
    exact absurd compatible (by decide)
  · refine (groupsAgree_iff zeros (by decide +kernel) (by decide +kernel)).mpr ⟨?_, ?_⟩
    · intro compatible
      exact absurd compatible (by decide)
    · intro differ
      exact absurd (by decide) differ

open GroupingExample in
/-- The cap takes an IPv6 network for an IPv4 one, and the address book parts
two compatible addresses that the cap holds together. -/
theorem not_groupsAgree_corners :
    parseIpAddr "203.0.113.7" = some (.v4 0xcb007107) ∧
    parseIpAddr "0:cb00::1" = some (.v6 0xcb00000000000000000000000001) ∧
    ¬GroupsAgree zeros (peerAt "203.0.113.7") (peerAt "0:cb00::1")
      (.v4 0xcb007107) (.v6 0xcb00000000000000000000000001) ∧
    parseIpAddr "::1.2.3.4" = some (.v6 0x01020304) ∧
    parseIpAddr "::5.6.7.8" = some (.v6 0x05060708) ∧
    ¬GroupsAgree zeros (peerAt "::1.2.3.4") (peerAt "::5.6.7.8")
      (.v6 0x01020304) (.v6 0x05060708) := by
  refine ⟨by decide +kernel, by decide +kernel, ?_, by decide +kernel, by decide +kernel, ?_⟩
  · rintro ⟨cap, _⟩
    exact cap.mp (by decide +kernel)
  · rintro ⟨_, book⟩
    have apart : ¬(peerAt "::1.2.3.4").getGroup zeros = (peerAt "::5.6.7.8").getGroup zeros := by
      decide +kernel
    exact apart (book.mp (by decide +kernel))

end Types
end DigGossip
