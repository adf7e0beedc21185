import DigGossip.Foundations.StableSort
import DigGossip.Types.AsLookup

namespace DigGossip
namespace Types

open Foundations

/-!
# The longest prefix that covers an address

The table of prefixes is sorted once, the longer prefixes first, and a lookup
scans it from the front.  A prefix covers an address of its own family whose
leading bits are its own; what stands behind these in the network does not
count, and a prefix longer than an address covers nothing.
-/

abbrev PrefixEntry := IpAddr × Nat × AsNumber

namespace IpAddr

/-- The order of addresses: IPv4 before IPv6, and by number within a family. -/
def le : IpAddr -> IpAddr -> Bool
  | v4 left, v4 right => decide (left ≤ right)
  | v4 _, v6 _ => true
  | v6 _, v4 _ => false
  | v6 left, v6 right => decide (left ≤ right)

theorem le_total (left right : IpAddr) : (left.le right || right.le left) = true := by
  cases left with
  | v4 left =>
      cases right with
      | v4 right => simpa [le] using BitVec.le_total left right
      | v6 right => rfl
  | v6 left =>
      cases right with
      | v4 right => rfl
      | v6 right => simpa [le] using BitVec.le_total left right

theorem le_trans {left middle right : IpAddr} (first : left.le middle = true)
    (second : middle.le right = true) : left.le right = true := by
  cases left with
  | v4 left =>
      cases middle with
      | v4 middle =>
          cases right with
          | v4 right =>
              simp only [le, decide_eq_true_eq] at first second ⊢
              exact BitVec.le_trans first second
          | v6 right => rfl
      | v6 middle =>
          cases right with
          | v4 right => cases second
          | v6 right => rfl
  | v6 left =>
      cases middle with
      | v4 middle => cases first
      | v6 middle =>
          cases right with
          | v4 right => cases second
          | v6 right =>
              simp only [le, decide_eq_true_eq] at first second ⊢
              exact BitVec.le_trans first second

end IpAddr

/-- The comparison of `from_entries`: the longer prefix first, then the lesser network. -/
def PrefixEntry.precedes (left right : PrefixEntry) : Bool :=
  decide (right.2.1 < left.2.1) || decide (left.2.1 = right.2.1) && left.1.le right.1

theorem ranks_precedes : Ranks PrefixEntry.precedes where
  trans := by
    intro a b c first second
    simp only [PrefixEntry.precedes, Bool.or_eq_true, Bool.and_eq_true, decide_eq_true_eq]
      at first second ⊢
    rcases first with longer | ⟨same, network⟩
    · rcases second with longerStill | ⟨same, _⟩
      · exact Or.inl (by omega)
      · exact Or.inl (by omega)
    · rcases second with longer | ⟨sameAgain, higher⟩
      · exact Or.inl (by omega)
      · exact Or.inr ⟨by omega, IpAddr.le_trans network higher⟩
  total := by
    intro a b
    have networks := IpAddr.le_total a.1 b.1
    simp only [PrefixEntry.precedes, Bool.or_eq_true, Bool.and_eq_true, decide_eq_true_eq]
      at networks ⊢
    rcases Nat.lt_trichotomy a.2.1 b.2.1 with shorter | same | longer
    · exact Or.inr (Or.inl shorter)
    · rcases networks with network | network
      · exact Or.inl (Or.inr ⟨same, network⟩)
      · exact Or.inr (Or.inr ⟨same.symm, network⟩)
    · exact Or.inl (Or.inl longer)

namespace AsLookupTable

/-- `from_entries`: the sort keeps the order of entries that it takes for equal. -/
def fromEntries (entries : List PrefixEntry) : AsLookupTable :=
  { entries := entries.mergeSort PrefixEntry.precedes }

end AsLookupTable

/-! ## Covering -/

/-- The leading bits of two words agree. -/
def SharesLeading {width : Nat} (count : Nat) (left right : BitVec width) : Prop :=
  forall index, index < count -> left.getMsbD index = right.getMsbD index

/-- The entry's prefix fits its family, is of the family of the address, and
is how the address begins. -/
def Covers (ip : IpAddr) (entry : PrefixEntry) : Prop :=
  match ip, entry.1 with
  | .v4 ip, .v4 network => entry.2.1 ≤ 32 ∧ SharesLeading entry.2.1 ip network
  | .v6 ip, .v6 network => entry.2.1 ≤ 128 ∧ SharesLeading entry.2.1 ip network
  | .v4 _, .v6 _ => False
  | .v6 _, .v4 _ => False

/-- Comparing under the mask is comparing the leading bits. -/
theorem masked_eq_iff {width count : Nat} (fits : count ≤ width) (left right : BitVec width) :
    left &&& (BitVec.allOnes width <<< (width - count)) =
        right &&& (BitVec.allOnes width <<< (width - count)) ↔
      SharesLeading count left right := by
  constructor
  · intro same index below
    have bits := congrArg (fun word => BitVec.getMsbD word index) same
    simp only [BitVec.getMsbD_and, BitVec.getMsbD_shiftLeft, BitVec.getMsbD_allOnes] at bits
    rwa [decide_eq_true (by omega : index + (width - count) < width), Bool.and_true,
      Bool.and_true] at bits
  · intro shares
    apply BitVec.eq_of_getMsbD_eq
    intro index inside
    simp only [BitVec.getMsbD_and, BitVec.getMsbD_shiftLeft, BitVec.getMsbD_allOnes]
    by_cases below : index < count
    · rw [shares index below]
    · rw [decide_eq_false (by omega : ¬index + (width - count) < width), Bool.and_false,
        Bool.and_false]

/-- The three branches of a family: too long, everything, and the mask. -/
theorem masked_branches_iff {width count : Nat} (left right : BitVec width) :
    (if width < count then false
      else if count = 0 then true
      else (left &&& (BitVec.allOnes width <<< (width - count)) ==
        right &&& (BitVec.allOnes width <<< (width - count)))) = true ↔
      count ≤ width ∧ SharesLeading count left right := by
  by_cases tooLong : width < count
  · rw [if_pos tooLong]
    constructor
    · intro impossible
      cases impossible
    · rintro ⟨fits, _⟩
      omega
  · have fits : count ≤ width := Nat.le_of_not_lt tooLong
    rw [if_neg tooLong]
    by_cases everything : count = 0
    · rw [if_pos everything]
      refine Iff.intro (fun _ => ⟨fits, ?_⟩) fun _ => rfl
      intro index below
      omega
    · rw [if_neg everything, beq_iff_eq, masked_eq_iff fits]
      exact Iff.intro (fun shares => ⟨fits, shares⟩) And.right

theorem ipInPrefix_iff {ip : IpAddr} {entry : PrefixEntry} :
    ipInPrefix ip entry.1 entry.2.1 = true ↔ Covers ip entry := by
  rcases entry with ⟨network, prefixLen, asn⟩
  cases ip with
  | v4 ip =>
      cases network with
      | v4 network => exact masked_branches_iff ip network
      | v6 network => exact Iff.intro (fun impossible => nomatch impossible) False.elim
  | v6 ip =>
      cases network with
      | v4 network => exact Iff.intro (fun impossible => nomatch impossible) False.elim
      | v6 network => exact masked_branches_iff ip network

/-! ## The lookup -/

/-- Of the entries that cover the address, the first in the list among those of
the longest prefix and, with it, the least network. -/
structure LongestMatch (entries : List PrefixEntry) (ip : IpAddr) (entry : PrefixEntry) :
    Prop where
  covers : Covers ip entry
  longest : ∀ other ∈ entries, Covers ip other ->
    other.2.1 < entry.2.1 ∨ entry.2.1 = other.2.1 ∧ entry.1.le other.1 = true
  first : exists before after, entries = before ++ entry :: after ∧
    ∀ earlier ∈ before, Covers ip earlier ->
      earlier.2.1 < entry.2.1 ∨ entry.2.1 = earlier.2.1 ∧ earlier.1.le entry.1 = false

theorem precedes_iff {left right : PrefixEntry} : left.precedes right = true ↔
    right.2.1 < left.2.1 ∨ left.2.1 = right.2.1 ∧ left.1.le right.1 = true := by
  simp only [PrefixEntry.precedes, Bool.or_eq_true, Bool.and_eq_true, decide_eq_true_eq]

theorem not_precedes_iff {left right : PrefixEntry} : left.precedes right = false ↔
    left.2.1 < right.2.1 ∨ right.2.1 = left.2.1 ∧ left.1.le right.1 = false := by
  rw [<- Bool.not_eq_true, precedes_iff]
  cases left.1.le right.1 with
  | true =>
      simp only [and_true, Bool.true_eq_false, and_false, or_false]
      omega
  | false =>
      simp only [Bool.false_eq_true, and_false, or_false, and_true]
      omega

theorem longestMatch_iff {entries : List PrefixEntry} {ip : IpAddr} {entry : PrefixEntry} :
    LongestMatch entries ip entry ↔
      FirstLeast (fun entry => ipInPrefix ip entry.1 entry.2.1) PrefixEntry.precedes entries
        entry := by
  constructor
  · intro longest
    refine ⟨ipInPrefix_iff.mpr longest.covers, ?_, ?_⟩
    · intro other member covers
      exact precedes_iff.mpr (longest.longest other member (ipInPrefix_iff.mp covers))
    · rcases longest.first with ⟨before, after, split, sooner⟩
      refine ⟨before, after, split, ?_⟩
      intro earlier member covers
      exact not_precedes_iff.mpr (sooner earlier member (ipInPrefix_iff.mp covers))
  · intro firstLeast
    refine ⟨ipInPrefix_iff.mp firstLeast.passes, ?_, ?_⟩
    · intro other member covers
      exact precedes_iff.mp (firstLeast.least other member (ipInPrefix_iff.mpr covers))
    · rcases firstLeast.first with ⟨before, after, split, sooner⟩
      refine ⟨before, after, split, ?_⟩
      intro earlier member covers
      exact not_precedes_iff.mp (sooner earlier member (ipInPrefix_iff.mpr covers))

/-- A lookup in a table made from entries is their longest match for the
canonical address, and finds nothing only where nothing covers it. -/
theorem lookup_fromEntries (entries : List PrefixEntry) (ip : IpAddr) :
    (forall asn, (AsLookupTable.fromEntries entries).lookup ip = some asn ↔
      exists entry, LongestMatch entries (canonicalIp ip) entry ∧ entry.2.2 = asn) ∧
    ((AsLookupTable.fromEntries entries).lookup ip = none ↔
      ∀ entry ∈ entries, ¬Covers (canonicalIp ip) entry) ∧
    (forall mapped bits, ip = .v6 mapped -> Ipv6Addr.toIpv4Mapped mapped = some bits ->
      (AsLookupTable.fromEntries entries).lookup ip =
        (AsLookupTable.fromEntries entries).lookup (.v4 bits)) := by
  refine ⟨?_, ?_, ?_⟩
  · intro asn
    simp only [AsLookupTable.lookup, AsLookupTable.fromEntries, Option.map_eq_some_iff]
    constructor
    · rintro ⟨entry, found, same⟩
      exact ⟨entry, longestMatch_iff.mpr (ranks_precedes.find?_mergeSort_eq_some_iff.mp found),
        same⟩
    · rintro ⟨entry, longest, same⟩
      exact ⟨entry, ranks_precedes.find?_mergeSort_eq_some_iff.mpr (longestMatch_iff.mp longest),
        same⟩
  · simp only [AsLookupTable.lookup, AsLookupTable.fromEntries, Option.map_eq_none_iff]
    rw [find?_mergeSort_eq_none_iff]
    constructor
    · intro refused entry member covers
      exact refused entry member (ipInPrefix_iff.mpr covers)
    · intro refused entry member covers
      exact refused entry member (ipInPrefix_iff.mp covers)
  · rintro mapped bits rfl isMapped
    simp only [AsLookupTable.lookup, canonicalIp, isMapped]

end Types
end DigGossip
