import Mathlib.Data.List.DropRight
import DigGossip.Foundations.Decimal
import DigGossip.Types.Peer

namespace DigGossip
namespace Service

open Foundations DigGossip.Types

/-!
# The validation of a handshake

What a remote handshake must say before either side goes on with it: our
network, a protocol version from the floor up, and a software version that is
short once its control and format characters are taken out.  The Unicode
category of a character is a parameter.
-/

/-! ## The record -/

/-- `chia_protocol::NodeType`. -/
inductive NodeType where
  | fullNode
  | harvester
  | farmer
  | timelord
  | introducer
  | wallet
  | dataLayer
deriving DecidableEq

/-- `chia_protocol::Handshake`. -/
structure Handshake where
  networkId : String
  protocolVersion : String
  softwareVersion : String
  serverPort : UInt16
  nodeType : NodeType
  capabilities : List (UInt16 × String)
deriving DecidableEq

/-- The categories that the code tells apart. -/
inductive GeneralCategory where
  | control
  | format
  | other
deriving DecidableEq

/-! ## Software versions -/

/-- `MAX_SOFTWARE_VERSION_BYTES`. -/
def maxSoftwareVersionBytes : Nat := 128

section Category

variable (category : Char -> GeneralCategory)

/-- The character stays in a sanitized version. -/
def isKept (char : Char) : Bool :=
  decide (category char ≠ .control ∧ category char ≠ .format)

def sanitizeSoftwareVersion (version : String) : String :=
  String.ofList (version.toList.filter (isKept category))

variable {category}

theorem toList_sanitize (version : String) :
    (sanitizeSoftwareVersion category version).toList = version.toList.filter (isKept category) := by
  unfold sanitizeSoftwareVersion
  exact String.toList_ofList

/-- Sanitizing once is enough. -/
theorem sanitize_sanitize (version : String) :
    sanitizeSoftwareVersion category (sanitizeSoftwareVersion category version) =
      sanitizeSoftwareVersion category version := by
  have same : (version.toList.filter (isKept category)).filter (isKept category) =
      version.toList.filter (isKept category) :=
    List.filter_eq_self.mpr fun _ member => (List.mem_filter.mp member).2
  show String.ofList ((sanitizeSoftwareVersion category version).toList.filter _) = _
  rw [toList_sanitize, same]
  rfl

end Category

/-! ## Protocol versions -/

/-- `MIN_COMPATIBLE_PROTOCOL_VERSION`. -/
def minCompatibleProtocolVersion : String := "0.0.30"

/-- `ADVERTISED_PROTOCOL_VERSION`. -/
def advertisedProtocolVersion : String := "0.0.37"

/-- `char::is_whitespace`: the characters with the property `White_Space`. -/
def isWhitespace (char : Char) : Bool :=
  let code := char.toNat
  decide (9 ≤ code ∧ code ≤ 13) || decide (8192 ≤ code ∧ code ≤ 8202) ||
    [32, 133, 160, 5760, 8232, 8233, 8239, 8287, 12288].contains code

/-- `str::trim`. -/
def trim (text : List Char) : List Char :=
  (text.dropWhile isWhitespace).rdropWhile isWhitespace

/-- A segment that is not there counts as zero. -/
def segment (parts : List (List Char)) (index : Nat) : Option Nat :=
  match parts[index]? with
  | some part => Decimal.read u32Max part
  | none => some 0

/-- Whatever stands behind the third segment is not looked at. -/
def parseProtocolTriple (version : String) : Option (Nat × Nat × Nat) :=
  let v := trim version.toList
  if v = [] then none
  else do
    let parts := v.splitOn '.'
    let a <- Decimal.read u32Max (<- parts[0]?)
    let b <- segment parts 1
    let c <- segment parts 2
    return (a, b, c)

/-- The order of tuples. -/
def tripleLe (floor peer : Nat × Nat × Nat) : Bool :=
  decide (floor.1 < peer.1 ∨ floor.1 = peer.1 ∧
    (floor.2.1 < peer.2.1 ∨ floor.2.1 = peer.2.1 ∧ floor.2.2 ≤ peer.2.2))

def isCompatibleProtocolVersion (version : String) : Bool :=
  match parseProtocolTriple version with
  | none => false
  | some peer =>
      match parseProtocolTriple minCompatibleProtocolVersion with
      | none => false
      | some floor => tripleLe floor peer

theorem parse_minCompatible : parseProtocolTriple minCompatibleProtocolVersion = some (0, 0, 30) := by
  decide +kernel

/-! ## The verdict -/

inductive HandshakeValidationError where
  | networkIdMismatch (expected actual : String)
  | incompatibleProtocolVersion (version : String)
  | emptyNetworkId
  | emptyProtocolVersion
  | softwareVersionTooLong (len max : Nat)
deriving DecidableEq

def validateRemoteHandshake (category : Char -> GeneralCategory) (theirHandshake : Handshake)
    (expectedNetworkId : String) : Except HandshakeValidationError String :=
  if theirHandshake.networkId = "" then .error .emptyNetworkId
  else if trim theirHandshake.protocolVersion.toList = [] then .error .emptyProtocolVersion
  else if theirHandshake.networkId ≠ expectedNetworkId then
    .error (.networkIdMismatch expectedNetworkId theirHandshake.networkId)
  else if isCompatibleProtocolVersion theirHandshake.protocolVersion = false then
    .error (.incompatibleProtocolVersion theirHandshake.protocolVersion)
  else
    let sanitized := sanitizeSoftwareVersion category theirHandshake.softwareVersion
    let len := (utf8Bytes sanitized).length
    if maxSoftwareVersionBytes < len then
      .error (.softwareVersionTooLong len maxSoftwareVersionBytes)
    else .ok sanitized

/-! ## What is accepted -/

theorem compatible_iff {version : String} : isCompatibleProtocolVersion version = true ↔
    exists a b c, parseProtocolTriple version = some (a, b, c) ∧ (0 < a ∨ 0 < b ∨ 30 ≤ c) := by
  unfold isCompatibleProtocolVersion
  cases parsed : parseProtocolTriple version with
  | none => simp
  | some peer =>
      rcases peer with ⟨a, b, c⟩
      simp only [parse_minCompatible, tripleLe, decide_eq_true_eq, Option.some.injEq, Prod.mk.injEq]
      constructor
      · intro above
        exact ⟨a, b, c, ⟨rfl, rfl, rfl⟩, by omega⟩
      · rintro ⟨_, _, _, ⟨rfl, rfl, rfl⟩, above⟩
        omega

/-- A version that is compatible is not blank. -/
theorem trim_of_compatible {version : String} (compatible : isCompatibleProtocolVersion version = true) :
    trim version.toList ≠ [] := by
  rcases compatible_iff.mp compatible with ⟨a, b, c, parsed, _⟩
  intro blank
  unfold parseProtocolTriple at parsed
  rw [blank] at parsed
  cases parsed

section Accepted

variable {category : Char -> GeneralCategory}

theorem validate_eq_ok_iff {their : Handshake} {expected stored : String} :
    validateRemoteHandshake category their expected = .ok stored ↔
      their.networkId = expected ∧ expected ≠ "" ∧
        isCompatibleProtocolVersion their.protocolVersion = true ∧
        stored = sanitizeSoftwareVersion category their.softwareVersion ∧
        (utf8Bytes stored).length ≤ maxSoftwareVersionBytes := by
  unfold validateRemoteHandshake
  by_cases unnamed : their.networkId = ""
  · rw [if_pos unnamed]
    constructor
    · intro impossible
      cases impossible
    · rintro ⟨same, named, _⟩
      exact absurd (same.symm.trans unnamed) named
  rw [if_neg unnamed]
  by_cases blank : trim their.protocolVersion.toList = []
  · rw [if_pos blank]
    constructor
    · intro impossible
      cases impossible
    · rintro ⟨_, _, compatible, _⟩
      exact absurd blank (trim_of_compatible compatible)
  rw [if_neg blank]
  by_cases same : their.networkId = expected
  swap
  · rw [if_pos same]
    constructor
    · intro impossible
      cases impossible
    · exact fun parts => absurd parts.1 same
  rw [if_neg (not_not_intro same)]
  cases compatible : isCompatibleProtocolVersion their.protocolVersion with
  | false =>
      rw [if_pos rfl]
      constructor
      · intro impossible
        cases impossible
      · rintro ⟨_, _, impossible, _⟩
        cases impossible
  | true =>
      rw [if_neg (by decide)]
      simp only
      constructor
      · intro accepted
        split at accepted
        · cases accepted
        · rename_i short
          cases accepted
          exact ⟨same, same ▸ unnamed, trivial, rfl, Nat.le_of_not_lt short⟩
      · rintro ⟨_, _, _, rfl, short⟩
        rw [if_neg (Nat.not_lt.mpr short)]

end Accepted

/-! ## Dotted versions -/

/-- The spelling of a version of three numbers. -/
def dotted (a b c : Nat) : List Char :=
  Nat.toDigits 10 a ++ '.' :: (Nat.toDigits 10 b ++ '.' :: Nat.toDigits 10 c)

theorem isWhitespace_of_isDigit {char : Char} (digit : char.isDigit = true) :
    isWhitespace char = false := by
  have range : 48 ≤ char.toNat ∧ char.toNat ≤ 57 := by
    simp only [Char.isDigit, Bool.and_eq_true, decide_eq_true_eq, ge_iff_le, UInt32.le_iff_toNat_le]
      at digit
    exact digit
  unfold isWhitespace
  simp only [List.contains_cons, List.contains_nil, Bool.or_eq_false_iff, decide_eq_false_iff_not,
    beq_eq_false_iff_ne]
  refine ⟨⟨?_, ?_⟩, ?_, ?_, ?_, ?_, ?_, ?_, ?_, ?_, ?_, trivial⟩ <;> omega

theorem dot_ne_of_isDigit {char : Char} (digit : char.isDigit = true) : (char == '.') = false := by
  rw [beq_eq_false_iff_ne]
  rintro rfl
  revert digit
  decide

theorem splitOn_dotted (a b c : Nat) : (dotted a b c).splitOn '.' =
    [Nat.toDigits 10 a, Nat.toDigits 10 b, Nat.toDigits 10 c] := by
  have plain (value : Nat) : ∀ char ∈ Nat.toDigits 10 value, (char == '.') = false :=
    fun char member => dot_ne_of_isDigit (Decimal.isDigit_of_mem_spelling char member)
  unfold dotted
  rw [List.splitOn_eq_splitOnP,
    List.splitOnP_append_cons_of_forall_mem (plain a) '.' (beq_self_eq_true _),
    List.splitOnP_append_cons_of_forall_mem (plain b) '.' (beq_self_eq_true _),
    List.splitOnP_eq_singleton (plain c)]

/-- Whitespace on either side of a text without any is trimmed off. -/
theorem trim_padded {before text after : List Char} (nonempty : text ≠ [])
    (solid : ∀ char ∈ text, isWhitespace char = false)
    (blankBefore : ∀ char ∈ before, isWhitespace char = true)
    (blankAfter : ∀ char ∈ after, isWhitespace char = true) :
    trim (before ++ (text ++ after)) = text := by
  have stop (chars rest : List Char) (head : chars ≠ [])
      (all : ∀ char ∈ chars, isWhitespace char = false) :
      (chars ++ rest).dropWhile isWhitespace = chars ++ rest := by
    cases chars with
    | nil => exact absurd rfl head
    | cons char more =>
        rw [List.cons_append, List.dropWhile_cons, all char List.mem_cons_self]
        rfl
  unfold trim
  rw [List.dropWhile_append_of_pos blankBefore, stop text after nonempty solid]
  unfold List.rdropWhile
  rw [List.reverse_append,
    List.dropWhile_append_of_pos fun char member => blankAfter char (List.mem_reverse.mp member)]
  have reversed := stop text.reverse [] (by rwa [ne_eq, List.reverse_eq_nil_iff])
    fun char member => solid char (List.mem_reverse.mp member)
  rw [List.append_nil] at reversed
  rw [reversed, List.reverse_reverse]

theorem dotted_solid (a b c : Nat) : ∀ char ∈ dotted a b c, isWhitespace char = false := by
  have digits (value : Nat) : ∀ char ∈ Nat.toDigits 10 value, isWhitespace char = false :=
    fun char member => isWhitespace_of_isDigit (Decimal.isDigit_of_mem_spelling char member)
  intro char member
  unfold dotted at member
  simp only [List.mem_append, List.mem_cons] at member
  rcases member with first | rfl | second | rfl | third
  · exact digits a char first
  · decide
  · exact digits b char second
  · decide
  · exact digits c char third

/-- A dotted version within whitespace parses as its numbers. -/
theorem parse_dotted {a b c : Nat} (aSmall : a ≤ u32Max) (bSmall : b ≤ u32Max) (cSmall : c ≤ u32Max)
    {before after : List Char} (blankBefore : ∀ char ∈ before, isWhitespace char = true)
    (blankAfter : ∀ char ∈ after, isWhitespace char = true) :
    parseProtocolTriple (String.ofList (before ++ (dotted a b c ++ after))) = some (a, b, c) := by
  have nonempty : dotted a b c ≠ [] := by
    unfold dotted
    exact List.append_ne_nil_of_left_ne_nil (Decimal.spelling_nonempty a) _
  unfold parseProtocolTriple
  rw [String.toList_ofList, trim_padded nonempty (dotted_solid a b c) blankBefore blankAfter]
  simp only [if_neg nonempty, splitOn_dotted, segment, List.getElem?_cons_zero,
    List.getElem?_cons_succ, Option.bind_eq_bind, Option.bind_some, Decimal.read_spelling aSmall,
    Decimal.read_spelling bSmall, Decimal.read_spelling cSmall]
  rfl

/-- A handshake with a dotted version is accepted exactly when it names our
network, its version is not below the floor and its sanitized software version
is short.  What is stored is that sanitized version, and sanitizing it again
changes nothing. -/
theorem validate_dotted_iff (category : Char -> GeneralCategory) (their : Handshake)
    (expected stored : String) (before after : List Char) (a b c : Nat) (aSmall : a ≤ u32Max)
    (bSmall : b ≤ u32Max) (cSmall : c ≤ u32Max)
    (blankBefore : ∀ char ∈ before, isWhitespace char = true)
    (blankAfter : ∀ char ∈ after, isWhitespace char = true)
    (spelled : their.protocolVersion = String.ofList (before ++ (dotted a b c ++ after))) :
    (validateRemoteHandshake category their expected = .ok stored ↔
      their.networkId = expected ∧ expected ≠ "" ∧ (0 < a ∨ 0 < b ∨ 30 ≤ c) ∧
        stored = sanitizeSoftwareVersion category their.softwareVersion ∧
        (utf8Bytes stored).length ≤ maxSoftwareVersionBytes) ∧
      (validateRemoteHandshake category their expected = .ok stored ->
        sanitizeSoftwareVersion category stored = stored) := by
  have parsed := parse_dotted aSmall bSmall cSmall blankBefore blankAfter
  have compatible : isCompatibleProtocolVersion their.protocolVersion = true ↔
      (0 < a ∨ 0 < b ∨ 30 ≤ c) := by
    rw [compatible_iff, spelled, parsed]
    constructor
    · rintro ⟨_, _, _, same, above⟩
      cases same
      exact above
    · exact fun above => ⟨a, b, c, rfl, above⟩
  constructor
  · rw [validate_eq_ok_iff, compatible]
  · intro accepted
    rcases validate_eq_ok_iff.mp accepted with ⟨_, _, _, rfl, _⟩
    exact sanitize_sanitize their.softwareVersion

namespace Example

/-- The categories of the characters that the examples use. -/
def asciiCategory (char : Char) : GeneralCategory :=
  if char.toNat < 32 ∨ char.toNat = 127 then .control
  else if char.toNat = 0x200B ∨ char.toNat = 0xFEFF then .format
  else .other

/-- A dialer's handshake with a tab in its software version. -/
def tabbedHandshake : Handshake where
  networkId := "d1"
  protocolVersion := " 0.0.37"
  softwareVersion := "dig\t1"
  serverPort := 0
  nodeType := .wallet
  capabilities := [(1, "1"), (2, "1"), (3, "1")]

end Example

open Example in
theorem validate_dotted_tabbed :
    (validateRemoteHandshake asciiCategory tabbedHandshake "d1" = .ok "dig1" ↔
      tabbedHandshake.networkId = "d1" ∧ "d1" ≠ "" ∧ (0 < 0 ∨ 0 < 0 ∨ 30 ≤ 37) ∧
        "dig1" = sanitizeSoftwareVersion asciiCategory tabbedHandshake.softwareVersion ∧
        (utf8Bytes "dig1").length ≤ maxSoftwareVersionBytes) ∧
      (validateRemoteHandshake asciiCategory tabbedHandshake "d1" = .ok "dig1" ->
        sanitizeSoftwareVersion asciiCategory "dig1" = "dig1") :=
  validate_dotted_iff asciiCategory tabbedHandshake "d1" "dig1" [' '] [] 0 0 37 (by decide)
    (by decide) (by decide) (List.forall_mem_singleton.mpr (by decide)) (List.forall_mem_nil _)
    (by decide +kernel)

end Service
end DigGossip
