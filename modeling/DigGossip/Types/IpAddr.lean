import Mathlib.Data.Nat.Notation

namespace DigGossip
namespace Types

/-!
# Internet addresses

Addresses are their bits, most significant octet first.  The textual reader
follows the standard library's grammar, because whether a host string is an
address decides how the address book groups it.
-/

inductive IpAddr where
  | v4 (bits : BitVec 32)
  | v6 (bits : BitVec 128)
deriving DecidableEq

structure SocketAddr where
  ip : IpAddr
  port : UInt16
deriving DecidableEq

/-- The octets of an address of `count` octets, most significant first. -/
def octetsOf (count : Nat) {width : Nat} (bits : BitVec width) : List UInt8 :=
  (List.range count).map fun index =>
    UInt8.ofBitVec (bits.extractLsb' (8 * (count - 1 - index)) 8)

namespace Ipv4Addr

/-- `Ipv4Addr::is_private`: 10/8, 172.16/12 and 192.168/16. -/
def isPrivate (bits : BitVec 32) : Bool :=
  bits >>> 24 == 10 || bits >>> 20 == 0xac1 || bits >>> 16 == 0xc0a8

end Ipv4Addr

namespace Ipv6Addr

/-- `Ipv6Addr::is_unique_local`: fc00::/7. -/
def isUniqueLocal (bits : BitVec 128) : Bool :=
  bits >>> 121 == 0x7e

/-- `Ipv6Addr::to_ipv4_mapped`: only the `::ffff:a.b.c.d` form. -/
def toIpv4Mapped (bits : BitVec 128) : Option (BitVec 32) :=
  if bits >>> 32 = 0xffff then some (bits.setWidth 32) else none

/-- `Ipv6Addr::to_ipv4`: the mapped form and the deprecated compatible form `::a.b.c.d`. -/
def toIpv4 (bits : BitVec 128) : Option (BitVec 32) :=
  if bits >>> 32 = 0xffff ∨ bits >>> 32 = 0 then some (bits.setWidth 32) else none

end Ipv6Addr

/-- `normalize_ip` of the address book: folds mapped and compatible addresses to IPv4. -/
def normalizeIp (ip : IpAddr) : IpAddr :=
  match ip with
  | .v6 bits =>
      match Ipv6Addr.toIpv4 bits with
      | some v4 => .v4 v4
      | none => .v6 bits
  | .v4 bits => .v4 bits

/-- `canonical_ip` of the diversity filters: folds mapped addresses only. -/
def canonicalIp (ip : IpAddr) : IpAddr :=
  match ip with
  | .v6 bits =>
      match Ipv6Addr.toIpv4Mapped bits with
      | some v4 => .v4 v4
      | none => .v6 bits
  | .v4 bits => .v4 bits

/-- `subnet_group`: the leading sixteen bits of an IPv4 address, the leading
thirty-two of an IPv6 address. -/
def subnetGroup (ip : IpAddr) : BitVec 32 :=
  match canonicalIp ip with
  | .v4 bits => bits >>> 16
  | .v6 bits => (bits >>> 96).setWidth 32

inductive InboundSourceGroup where
  | v4Slash16 (key : BitVec 32)
  | v6Slash48 (key : BitVec 64)
deriving DecidableEq

/-- `inbound_source_group`: an IPv4 /16 or an IPv6 /48, kept apart by family. -/
def inboundSourceGroup (ip : IpAddr) : InboundSourceGroup :=
  match canonicalIp ip with
  | .v4 bits => .v4Slash16 (bits >>> 16)
  | .v6 bits => .v6Slash48 ((bits >>> 80).setWidth 64)

/-! ## The textual reader -/

namespace Parser

/-- `char::to_digit` for radix ten and sixteen. -/
def toDigit (radix : Nat) (char : Char) : Option Nat :=
  let value :=
    if '0' ≤ char ∧ char ≤ '9' then some (char.toNat - 48)
    else if 'a' ≤ char ∧ char ≤ 'z' then some (char.toNat - 97 + 10)
    else if 'A' ≤ char ∧ char ≤ 'Z' then some (char.toNat - 65 + 10)
    else none
  value.filter fun digit => decide (digit < radix)

/-- The digits at the front of the input, with their number and value; too
many digits make the whole number unreadable. -/
def readDigits (radix maxDigits : Nat) :
    List Char -> Nat -> Nat -> Option (Nat × Nat × List Char)
  | [], count, value => some (count, value, [])
  | char :: rest, count, value =>
      match toDigit radix char with
      | none => some (count, value, char :: rest)
      | some digit =>
          if maxDigits < count + 1 then none
          else readDigits radix maxDigits rest (count + 1) (value * radix + digit)

/-- `read_number`, for a target type holding the numbers below `bound`. -/
def readNumber (radix maxDigits bound : Nat) (allowZeroPrefix : Bool) (input : List Char) :
    Option (Nat × List Char) :=
  match readDigits radix maxDigits input 0 0 with
  | none => none
  | some (count, value, rest) =>
      if count = 0 then none
      else if !allowZeroPrefix && input.head? == some '0' && decide (1 < count) then none
      else if bound ≤ value then none
      else some (value, rest)

/-- `read_separator`: every element but the first follows the separator. -/
def readSeparator {A : Type} (separator : Char) (index : Nat)
    (inner : List Char -> Option (A × List Char)) (input : List Char) : Option (A × List Char) :=
  if index = 0 then inner input
  else
    match input with
    | [] => none
    | char :: rest => if char = separator then inner rest else none

/-- `read_ipv4_addr`: four decimal octets without octal prefixes. -/
def readIpv4Addr (input : List Char) : Option (BitVec 32 × List Char) := do
  let octet := readNumber 10 3 256 false
  let (first, input) <- readSeparator '.' 0 octet input
  let (second, input) <- readSeparator '.' 1 octet input
  let (third, input) <- readSeparator '.' 2 octet input
  let (fourth, input) <- readSeparator '.' 3 octet input
  some (BitVec.ofNat 32 (((first * 256 + second) * 256 + third) * 256 + fourth), input)

/-- `read_groups`: the sixteen-bit groups read from position `index` on, and
whether the last two came from an embedded IPv4 address. -/
def readGroups : (remaining index : Nat) -> List Char -> List Nat × Bool × List Char
  | 0, _, input => ([], false, input)
  | remaining + 1, index, input =>
      let embedded :=
        if 0 < remaining then readSeparator ':' index readIpv4Addr input else none
      match embedded with
      | some (bits, rest) => ([(bits >>> 16).toNat, bits.toNat % 65536], true, rest)
      | none =>
          match readSeparator ':' index (readNumber 16 4 65536 true) input with
          | some (group, rest) =>
              let (groups, embedded, rest) := readGroups remaining (index + 1) rest
              (group :: groups, embedded, rest)
          | none => ([], false, input)

/-- Eight sixteen-bit groups as one address. -/
def ofSegments (segments : List Nat) : BitVec 128 :=
  BitVec.ofNat 128 (segments.foldl (fun bits segment => bits * 65536 + segment) 0)

/-- `read_ipv6_addr`: eight groups, or fewer around one `::`. -/
def readIpv6Addr (input : List Char) : Option (BitVec 128 × List Char) :=
  let (head, headIpv4, rest) := readGroups 8 0 input
  if head.length = 8 then some (ofSegments head, rest)
  else if headIpv4 then none
  else
    match rest with
    | first :: second :: rest =>
        if first = ':' ∧ second = ':' then
          let (tail, _, rest) := readGroups (8 - (head.length + 1)) 0 rest
          let zeros := List.replicate (8 - head.length - tail.length) 0
          some (ofSegments (head ++ zeros ++ tail), rest)
        else none
    | _ => none

end Parser

/-- `str::parse::<IpAddr>`: the whole string must be one address. -/
def parseIpAddr (host : String) : Option IpAddr :=
  match Parser.readIpv4Addr host.toList with
  | some (bits, rest) => if rest = [] then some (.v4 bits) else none
  | none =>
      match Parser.readIpv6Addr host.toList with
      | some (bits, rest) => if rest = [] then some (.v6 bits) else none
      | none => none

example : parseIpAddr "::ffff:203.0.113.7" = some (.v6 0xffffcb007107) := by decide +kernel

example : parseIpAddr "203.0.113.07" = none := by decide +kernel

/-! ## The textual form -/

namespace Formatter

def hexDigits (value : Nat) : String :=
  String.ofList (Nat.toDigits 16 value)

/-- The eight sixteen-bit groups of an address. -/
def segments (bits : BitVec 128) : List Nat :=
  (List.range 8).map fun index => (bits.extractLsb' (16 * (7 - index)) 16).toNat

/-- The first of the longest runs of zero groups, as its start and its length. -/
def longestZeros : (index : Nat) -> (current longest : Nat × Nat) -> List Nat -> Nat × Nat
  | _, _, longest, [] => longest
  | index, current, longest, segment :: rest =>
      if segment = 0 then
        let start := if current.2 = 0 then index else current.1
        let current := (start, current.2 + 1)
        longestZeros (index + 1) current (if longest.2 < current.2 then current else longest) rest
      else longestZeros (index + 1) (0, 0) longest rest

def joinSegments (segments : List Nat) : String :=
  ":".intercalate (segments.map hexDigits)

def ipv4Text (bits : BitVec 32) : String :=
  ".".intercalate ((octetsOf 4 bits).map fun octet => toString octet.toNat)

def ipv6Text (bits : BitVec 128) : String :=
  match Ipv6Addr.toIpv4Mapped bits with
  | some v4 => "::ffff:" ++ ipv4Text v4
  | none =>
      let groups := segments bits
      let (start, length) := longestZeros 0 (0, 0) (0, 0) groups
      if 1 < length then
        joinSegments (groups.take start) ++ "::" ++ joinSegments (groups.drop (start + length))
      else joinSegments groups

end Formatter

/-- `IpAddr::to_string`. -/
def ipText : IpAddr -> String
  | .v4 bits => Formatter.ipv4Text bits
  | .v6 bits => Formatter.ipv6Text bits

example : ipText (.v6 0x20010db8000000000000000000000001) = "2001:db8::1" := by decide +kernel

end Types
end DigGossip
