import DigGossip.Foundations.Bytes
import DigGossip.Foundations.Hexadecimal
import DigGossip.Types.PeerRecord

namespace DigGossip
namespace Types

open Foundations

/-!
# The spellings of a peer id

A peer id is printed in one way, as sixty-four lower-case digits, and read in
many: with a prefix or without it, and in either case.  Two texts of which one
can be read name the same peer exactly when their normal forms are equal, and
the normal form of a text that can be read is what its peer id prints as.
-/

/-- `to_string`: the digits of the thirty-two octets. -/
def peerIdToString (peerId : PeerId) : String :=
  asciiText (Hexadecimal.encode (bigEndian 32 peerId.val))

/-! ## Digits -/

def lowerByte (byte : UInt8) : UInt8 :=
  if 65 ≤ byte.toNat ∧ byte.toNat ≤ 90 then UInt8.ofNat (byte.toNat + 32) else byte

def hexDigit (byte : UInt8) : Option Nat :=
  Parser.toDigit 16 (Char.ofNat byte.toNat)

theorem forall_byte {holds : UInt8 -> Prop}
    (each : forall value, value < 256 -> holds (UInt8.ofNat value)) (byte : UInt8) : holds byte := by
  have here := each byte.toNat byte.toNat_lt
  rw [UInt8.ofNat_toNat] at here
  exact here

theorem hexDigit_lowerByte (byte : UInt8) : hexDigit (lowerByte byte) = hexDigit byte := by
  revert byte
  apply forall_byte
  decide +kernel

/-- A digit is an ASCII character, and its lower-case form is fixed by its value. -/
theorem hexDigit_spec {byte : UInt8} {digit : Nat} (read : hexDigit byte = some digit) :
    lowerByte byte = Hexadecimal.lowerDigit digit ∧ digit < 16 ∧ byte.toNat < 128 := by
  have table : forall byte, (hexDigit byte).all (fun digit =>
      decide (lowerByte byte = Hexadecimal.lowerDigit digit ∧ digit < 16 ∧ byte.toNat < 128)) =
        true := by
    apply forall_byte
    decide +kernel
  have here := table byte
  rw [read] at here
  exact of_decide_eq_true here

theorem hexDigit_lowerDigit {digit : Nat} (small : digit < 16) :
    hexDigit (Hexadecimal.lowerDigit digit) = some digit := by
  revert digit
  decide +kernel

theorem toLower_ofNat {value : Nat} (ascii : value < 128) :
    (Char.ofNat value).toLower = Char.ofNat (lowerByte (UInt8.ofNat value)).toNat := by
  revert value
  decide +kernel

/-! ## Numbers -/

theorem readHex_cons (byte : UInt8) (rest : List UInt8) (value : Nat) :
    readHex (byte :: rest) value =
      (hexDigit byte).bind fun digit => readHex rest (value * 16 + digit) := by
  rw [readHex]
  show _ = (Parser.toDigit 16 (Char.ofNat byte.toNat)).bind _
  cases Parser.toDigit 16 (Char.ofNat byte.toNat) <;> rfl

theorem readHex_lower (text : List UInt8) (value : Nat) :
    readHex (text.map lowerByte) value = readHex text value := by
  induction text generalizing value with
  | nil => rfl
  | cons byte rest inner =>
      rw [List.map_cons, readHex_cons, readHex_cons, hexDigit_lowerByte]
      exact Option.bind_congr fun digit _ => inner _

/-- What is read fixes the value read before and the lower-case digits. -/
theorem readHex_inj {text other : List UInt8} {first second value : Nat}
    (length : text.length = other.length) (read : readHex text first = some value)
    (readOther : readHex other second = some value) :
    first = second ∧ text.map lowerByte = other.map lowerByte := by
  induction text generalizing other first second with
  | nil =>
      cases other with
      | nil => exact ⟨(Option.some.inj read).trans (Option.some.inj readOther).symm, rfl⟩
      | cons _ _ => cases length
  | cons byte rest inner =>
      cases other with
      | nil => cases length
      | cons otherByte otherRest =>
          rw [readHex_cons] at read readOther
          rcases Option.bind_eq_some_iff.mp read with ⟨digit, here, read⟩
          rcases Option.bind_eq_some_iff.mp readOther with ⟨otherDigit, otherHere, readOther⟩
          rcases inner (Nat.succ.inj length) read readOther with ⟨sum, tail⟩
          rcases hexDigit_spec here with ⟨lower, small, _⟩
          rcases hexDigit_spec otherHere with ⟨otherLower, otherSmall, _⟩
          have same : digit = otherDigit := by omega
          refine ⟨by omega, ?_⟩
          rw [List.map_cons, List.map_cons, lower, otherLower, same, tail]

theorem readHex_lt {text : List UInt8} {first value : Nat}
    (read : readHex text first = some value) : value < (first + 1) * 16 ^ text.length := by
  induction text generalizing first with
  | nil =>
      cases read
      rw [List.length_nil, Nat.pow_zero, Nat.mul_one]
      exact Nat.lt_succ_self _
  | cons byte rest inner =>
      rw [readHex_cons] at read
      rcases Option.bind_eq_some_iff.mp read with ⟨digit, here, read⟩
      have small := (hexDigit_spec here).2.1
      have bound := inner read
      have more : (first * 16 + digit + 1) * 16 ^ rest.length ≤
          (first + 1) * 16 * 16 ^ rest.length := Nat.mul_le_mul_right _ (by omega)
      rw [List.length_cons, Nat.pow_succ, Nat.mul_comm (16 ^ rest.length) 16, <- Nat.mul_assoc]
      omega

/-- Every byte read is a digit. -/
theorem ascii_of_readHex {text : List UInt8} {first value : Nat}
    (read : readHex text first = some value) : ∀ byte ∈ text, byte.toNat < 128 := by
  induction text generalizing first with
  | nil =>
      intro byte member
      cases member
  | cons head rest inner =>
      rw [readHex_cons] at read
      rcases Option.bind_eq_some_iff.mp read with ⟨digit, here, read⟩
      exact List.forall_mem_cons.mpr ⟨(hexDigit_spec here).2.2, inner read⟩

theorem readHex_encode (bytes : List UInt8) (value : Nat) :
    readHex (Hexadecimal.encode bytes) value =
      some (bytes.foldl (fun value byte => value * 256 + byte.toNat) value) := by
  induction bytes generalizing value with
  | nil => rfl
  | cons byte rest inner =>
      have small := byte.toNat_lt
      have halves : (value * 16 + byte.toNat / 16) * 16 + byte.toNat % 16 =
          value * 256 + byte.toNat := by omega
      show readHex (Hexadecimal.lowerDigit (byte.toNat / 16) ::
        Hexadecimal.lowerDigit (byte.toNat % 16) :: Hexadecimal.encode rest) value = _
      rw [readHex_cons, hexDigit_lowerDigit (by omega), Option.bind_some, readHex_cons,
        hexDigit_lowerDigit (by omega), Option.bind_some, halves, inner]
      rfl

/-! ## Texts -/

/-- The bytes of a text behind its prefix. -/
def idBytes (id : String) : List UInt8 :=
  utf8Bytes (String.ofList (stripHexPrefix id.toList))

/-- ASCII characters are their bytes. -/
theorem ofList_eq_asciiText {chars : List Char} (ascii : ∀ char ∈ chars, char.toNat < 128) :
    String.ofList chars = asciiText (chars.map fun char => UInt8.ofNat char.toNat) := by
  have same : (chars.map fun char => UInt8.ofNat char.toNat).map
      (fun byte => Char.ofNat byte.toNat) = chars := by
    rw [List.map_map]
    refine (List.map_congr_left fun char member => ?_).trans (List.map_id chars)
    have value : (UInt8.ofNat char.toNat).toNat = char.toNat := by
      have small := ascii char member
      simp only [UInt8.toNat_ofNat']
      omega
    show Char.ofNat (UInt8.ofNat char.toNat).toNat = char
    rw [value, Char.ofNat_toNat]
  unfold asciiText
  rw [same]

theorem asciiBytes {chars : List Char} (ascii : ∀ char ∈ chars, char.toNat < 128) :
    ∀ byte ∈ chars.map (fun char => UInt8.ofNat char.toNat), byte.toNat < 128 := by
  intro byte member
  rcases List.mem_map.mp member with ⟨char, source, rfl⟩
  have small := ascii char source
  simp only [UInt8.toNat_ofNat']
  omega

theorem idBytes_of_chars {id : String} {bytes : List UInt8}
    (ascii : ∀ byte ∈ bytes, byte.toNat < 128)
    (chars : stripHexPrefix id.toList = bytes.map fun byte => Char.ofNat byte.toNat) :
    idBytes id = bytes := by
  unfold idBytes
  rw [chars]
  exact utf8Bytes_asciiText ascii

theorem chars_of_idBytes {id : String} (ascii : ∀ byte ∈ idBytes id, byte.toNat < 128) :
    stripHexPrefix id.toList = (idBytes id).map fun byte => Char.ofNat byte.toNat := by
  have same : String.ofList (stripHexPrefix id.toList) = asciiText (idBytes id) :=
    utf8Bytes_injective (utf8Bytes_asciiText ascii).symm
  exact String.ofList_injective same

theorem peerIdFromHex_eq_some {id : String} {peerId : PeerId} :
    peerIdFromHex id = some peerId ↔
      (idBytes id).length = 64 ∧ readHex (idBytes id) 0 = some peerId.val := by
  show (if (idBytes id).length ≠ 64 then none
    else (readHex (idBytes id) 0).map (Fin.ofNat (2 ^ 256))) = some peerId ↔ _
  by_cases length : (idBytes id).length = 64
  · rw [if_neg (not_not_intro length), Option.map_eq_some_iff]
    constructor
    · rintro ⟨value, read, rfl⟩
      have bound := readHex_lt read
      rw [length] at bound
      refine ⟨length, read.trans (congrArg some ?_)⟩
      exact (Nat.mod_eq_of_lt bound).symm
    · rintro ⟨_, read⟩
      refine ⟨peerId.val, read, Fin.ext ?_⟩
      exact Nat.mod_eq_of_lt peerId.isLt
  · rw [if_pos length]
    exact ⟨fun absurdity => (nomatch absurdity), fun both => absurd both.1 length⟩

/-! ## Printing and reading -/

/-- The digits a peer id is printed with. -/
def printed (peerId : PeerId) : List UInt8 :=
  Hexadecimal.encode (bigEndian 32 peerId.val)

theorem length_printed (peerId : PeerId) : (printed peerId).length = 64 := by
  unfold printed Hexadecimal.encode
  rw [Hexadecimal.length_spell, length_bigEndian]

theorem readHex_printed (peerId : PeerId) : readHex (printed peerId) 0 = some peerId.val := by
  have value : bigEndianValue (bigEndian 32 peerId.val) = peerId.val := by
    rw [bigEndianValue_bigEndian]
    exact Nat.mod_eq_of_lt peerId.isLt
  exact (readHex_encode _ 0).trans (congrArg some value)

theorem lowerByte_printed (peerId : PeerId) : (printed peerId).map lowerByte = printed peerId := by
  refine (List.map_congr_left fun byte member => ?_).trans (List.map_id _)
  apply @Hexadecimal.forall_mem_spell Hexadecimal.lowerDigit
    (fun written => lowerByte written = written) ?_ _ byte member
  decide +kernel

theorem ascii_printed (peerId : PeerId) : ∀ byte ∈ printed peerId, byte.toNat < 128 :=
  ascii_of_readHex (readHex_printed peerId)

theorem toList_peerIdToString (peerId : PeerId) :
    (peerIdToString peerId).toList = (printed peerId).map fun byte => Char.ofNat byte.toNat :=
  String.toList_ofList

/-- The normal form of a text that can be read is what its peer id prints as. -/
theorem normalizePeerIdHex_of_read {id : String} {peerId : PeerId}
    (read : peerIdFromHex id = some peerId) : normalizePeerIdHex id = peerIdToString peerId := by
  rcases peerIdFromHex_eq_some.mp read with ⟨length, digits⟩
  have ascii := ascii_of_readHex digits
  have lower : (idBytes id).map lowerByte = printed peerId := by
    rw [<- lowerByte_printed]
    exact (readHex_inj (length.trans (length_printed peerId).symm) digits
      (readHex_printed peerId)).2
  show String.ofList ((stripHexPrefix id.toList).map Char.toLower) =
    String.ofList ((printed peerId).map fun byte => Char.ofNat byte.toNat)
  rw [chars_of_idBytes ascii, <- lower, List.map_map, List.map_map]
  refine congrArg String.ofList (List.map_congr_left fun byte member => ?_)
  have lowered := toLower_ofNat (ascii byte member)
  rw [UInt8.ofNat_toNat] at lowered
  exact lowered

/-- A text whose normal form is a printed peer id is read as that peer id. -/
theorem read_of_normalizePeerIdHex {id : String} {peerId : PeerId}
    (normal : normalizePeerIdHex id = peerIdToString peerId) : peerIdFromHex id = some peerId := by
  have chars : (stripHexPrefix id.toList).map Char.toLower =
      (printed peerId).map fun byte => Char.ofNat byte.toNat := String.ofList_injective normal
  have ascii : ∀ char ∈ stripHexPrefix id.toList, char.toNat < 128 := by
    intro char member
    have lowered : char.toLower ∈ (printed peerId).map fun byte => Char.ofNat byte.toNat := by
      rw [<- chars]
      exact List.mem_map.mpr ⟨char, member, rfl⟩
    rcases List.mem_map.mp lowered with ⟨byte, written, same⟩
    have small : char.toLower.toNat < 128 := by
      rw [<- same]
      have table : forall value, value < 128 -> (Char.ofNat value).toNat < 128 := by decide +kernel
      exact table _ (ascii_printed peerId byte written)
    unfold Char.toLower at small
    split at small
    · rename_i upper
      exact Nat.lt_of_le_of_lt upper.2 (by decide)
    · exact small
  have bytesAscii : ∀ byte ∈ idBytes id, byte.toNat < 128 := by
    unfold idBytes
    rw [ofList_eq_asciiText ascii, utf8Bytes_asciiText (asciiBytes ascii)]
    exact asciiBytes ascii
  have lower : (idBytes id).map lowerByte = printed peerId := by
    rw [chars_of_idBytes bytesAscii, List.map_map] at chars
    have same : asciiText ((idBytes id).map lowerByte) = asciiText (printed peerId) := by
      unfold asciiText
      rw [<- chars, List.map_map]
      refine congrArg String.ofList (List.map_congr_left fun byte member => ?_)
      have lowered := toLower_ofNat (bytesAscii byte member)
      rw [UInt8.ofNat_toNat] at lowered
      exact lowered.symm
    have bytes := congrArg utf8Bytes same
    rw [utf8Bytes_asciiText (ascii_printed peerId), utf8Bytes_asciiText] at bytes
    · exact bytes
    · intro written member
      rcases List.mem_map.mp member with ⟨byte, source, rfl⟩
      have table : forall byte, byte.toNat < 128 -> (lowerByte byte).toNat < 128 := by
        apply forall_byte
        decide +kernel
      exact table byte (bytesAscii byte source)
  refine peerIdFromHex_eq_some.mpr ⟨?_, ?_⟩
  · rw [<- List.length_map (f := lowerByte), lower, length_printed]
  · rw [<- readHex_lower, lower, readHex_printed]

/-- A text that can be read names the same peer as another exactly when their normal forms agree. -/
theorem normalizePeerIdHex_eq_iff {first second : String} {peerId : PeerId}
    (read : peerIdFromHex first = some peerId) :
    normalizePeerIdHex second = normalizePeerIdHex first ↔ peerIdFromHex second = some peerId := by
  rw [normalizePeerIdHex_of_read read]
  exact ⟨read_of_normalizePeerIdHex, normalizePeerIdHex_of_read⟩

/-- A printed peer id is read back. -/
theorem peerIdFromHex_peerIdToString (peerId : PeerId) :
    peerIdFromHex (peerIdToString peerId) = some peerId := by
  have unprefixed : stripHexPrefix (peerIdToString peerId).toList =
      (printed peerId).map fun byte => Char.ofNat byte.toNat := by
    rw [toList_peerIdToString]
    unfold stripHexPrefix
    split
    · rename_i rest shape
      -- the second character would be no digit
      have member : 'x' ∈ (printed peerId).map fun byte => Char.ofNat byte.toNat := by
        rw [shape]
        exact List.mem_cons_of_mem _ List.mem_cons_self
      rcases List.mem_map.mp member with ⟨byte, written, same⟩
      have table : forall digit, digit < 16 ->
          Char.ofNat (Hexadecimal.lowerDigit digit).toNat ≠ 'x' := by decide +kernel
      exact absurd same (@Hexadecimal.forall_mem_spell Hexadecimal.lowerDigit
        (fun written => Char.ofNat written.toNat ≠ 'x') table _ byte written)
    · rfl
  have bytes := idBytes_of_chars (ascii_printed peerId) unprefixed
  refine peerIdFromHex_eq_some.mpr ⟨?_, ?_⟩
  · rw [bytes, length_printed]
  · rw [bytes, readHex_printed]

end Types
end DigGossip
