import DigGossip.Types.IpAddr

namespace DigGossip
namespace Types

/-!
# Autonomous systems

The lookup of an address in a table of prefixes.  The table is kept in the
order its constructor sorts it into; the lookup takes the first prefix that
contains the address.
-/

abbrev AsNumber := BitVec 32

/-- `ip_in_prefix`. -/
def ipInPrefix (ip network : IpAddr) (prefixLen : Nat) : Bool :=
  match ip, network with
  | .v4 ip4, .v4 net4 =>
      if 32 < prefixLen then false
      else if prefixLen = 0 then true
      else
        let mask := BitVec.allOnes 32 <<< (32 - prefixLen)
        ip4 &&& mask == net4 &&& mask
  | .v6 ip6, .v6 net6 =>
      if 128 < prefixLen then false
      else if prefixLen = 0 then true
      else
        let mask := BitVec.allOnes 128 <<< (128 - prefixLen)
        ip6 &&& mask == net6 &&& mask
  | .v4 _, .v6 _ => false
  | .v6 _, .v4 _ => false

structure AsLookupTable where
  entries : List (IpAddr × Nat × AsNumber)

namespace AsLookupTable

def empty : AsLookupTable := { entries := [] }

/-- `lookup`: the number of the first entry whose prefix contains the address. -/
def lookup (table : AsLookupTable) (ip : IpAddr) : Option AsNumber :=
  let ip := canonicalIp ip
  (table.entries.find? fun (network, prefixLen, _) => ipInPrefix ip network prefixLen).map
    fun (_, _, asn) => asn

end AsLookupTable

end Types
end DigGossip
