import Mathlib.Data.List.Induction

namespace DigGossip
namespace Foundations
namespace Hexadecimal

/-!
# Hexadecimal spellings

A byte string is spelled with two digits for each byte.  Readers take the
letters of either case, so that a byte string has several spellings; it has one
only when no digit of it is a letter.
-/

def lowerDigit (digit : Nat) : UInt8 :=
  UInt8.ofNat (if digit < 10 then 48 + digit else 87 + digit)

def upperDigit (digit : Nat) : UInt8 :=
  UInt8.ofNat (if digit < 10 then 48 + digit else 55 + digit)

/-- The value of a digit, in either case. -/
def digitValue (byte : UInt8) : Option Nat :=
  if 48 ≤ byte.toNat ∧ byte.toNat ≤ 57 then some (byte.toNat - 48)
  else if 97 ≤ byte.toNat ∧ byte.toNat ≤ 102 then some (byte.toNat - 87)
  else if 65 ≤ byte.toNat ∧ byte.toNat ≤ 70 then some (byte.toNat - 55)
  else none

/-- The spelling of a byte string with given digits. -/
def spell (digit : Nat -> UInt8) (bytes : List UInt8) : List UInt8 :=
  bytes.flatMap fun byte => [digit (byte.toNat / 16), digit (byte.toNat % 16)]

/-- `hex::encode`. -/
def encode (bytes : List UInt8) : List UInt8 :=
  spell lowerDigit bytes

/-- `hex::decode`. -/
def decode : List UInt8 -> Option (List UInt8)
  | [] => some []
  | [_] => none
  | high :: low :: rest => do
      let high <- digitValue high
      let low <- digitValue low
      let rest <- decode rest
      return UInt8.ofNat (high * 16 + low) :: rest

/-- Digits that are read as what they were written for. -/
def Faithful (digit : Nat -> UInt8) : Prop :=
  forall value, value < 16 -> digitValue (digit value) = some value

theorem faithful_lowerDigit : Faithful lowerDigit := by
  unfold Faithful
  decide

theorem faithful_upperDigit : Faithful upperDigit := by
  unfold Faithful
  decide

@[simp] theorem length_spell (digit : Nat -> UInt8) (bytes : List UInt8) :
    (spell digit bytes).length = 2 * bytes.length := by
  induction bytes with
  | nil => rfl
  | cons byte rest inner =>
      show (spell digit rest).length + 1 + 1 = 2 * (rest.length + 1)
      omega

theorem forall_mem_spell {digit : Nat -> UInt8} {holds : UInt8 -> Prop}
    (each : forall value, value < 16 -> holds (digit value)) (bytes : List UInt8) :
    ∀ written ∈ spell digit bytes, holds written := by
  intro written member
  rcases List.mem_flatMap.mp member with ⟨byte, _, member⟩
  have small := byte.toNat_lt
  rcases List.mem_cons.mp member with rfl | member
  · exact each _ (by omega)
  · rw [List.mem_singleton.mp member]
    exact each _ (by omega)

theorem decode_spell {digit : Nat -> UInt8} (faithful : Faithful digit) (bytes : List UInt8) :
    decode (spell digit bytes) = some bytes := by
  induction bytes with
  | nil => rfl
  | cons byte rest inner =>
      have small := byte.toNat_lt
      have halves : byte.toNat / 16 * 16 + byte.toNat % 16 = byte.toNat := by omega
      show decode (digit (byte.toNat / 16) :: digit (byte.toNat % 16) :: spell digit rest) = _
      unfold decode
      rw [faithful _ (by omega), faithful _ (by omega), inner]
      show some (UInt8.ofNat (byte.toNat / 16 * 16 + byte.toNat % 16) :: rest) = _
      rw [halves, UInt8.ofNat_toNat]

/-! ## How many spellings there are -/

/-- Neither digit of a byte is a letter. -/
def IsDecimal (byte : UInt8) : Prop :=
  byte.toNat / 16 < 10 ∧ byte.toNat % 16 < 10

instance decidableIsDecimal (byte : UInt8) : Decidable (IsDecimal byte) :=
  inferInstanceAs (Decidable (_ ∧ _))

/-- A digit is read as a decimal one, or as ten and more. -/
theorem digitValue_cases {byte : UInt8} {value : Nat} (read : digitValue byte = some value) :
    (value < 10 ∧ byte.toNat = 48 + value) ∨ (10 ≤ value ∧ value < 16) := by
  unfold digitValue at read
  split at read
  · cases read
    omega
  · split at read
    · cases read
      omega
    · split at read
      · cases read
        omega
      · cases read

theorem digitValue_lt {byte : UInt8} {value : Nat} (read : digitValue byte = some value) :
    value < 16 := by
  rcases digitValue_cases read with ⟨decimal, _⟩ | ⟨_, letter⟩
  · omega
  · exact letter

/-- A value below ten is that of one digit only. -/
theorem eq_lowerDigit {byte : UInt8} {value : Nat} (read : digitValue byte = some value)
    (decimal : value < 10) : byte = lowerDigit value := by
  have same : byte.toNat = 48 + value := by
    rcases digitValue_cases read with ⟨_, same⟩ | ⟨letter, _⟩
    · exact same
    · omega
  unfold lowerDigit
  rw [if_pos decimal, <- same, UInt8.ofNat_toNat]

theorem lowerDigit_eq_upperDigit {value : Nat} (small : value < 16) :
    lowerDigit value = upperDigit value ↔ value < 10 := by
  revert value
  decide

/-- What is read back as bytes without letters is spelled in the one way. -/
theorem eq_encode (text : List UInt8) {bytes : List UInt8} (read : decode text = some bytes)
    (decimal : ∀ byte ∈ bytes, IsDecimal byte) : text = encode bytes := by
  fun_induction decode text generalizing bytes with
  | case1 =>
      cases read
      rfl
  | case2 => cases read
  | case3 first second rest inner =>
      rcases Option.bind_eq_some_iff.mp read with ⟨high, readHigh, read⟩
      rcases Option.bind_eq_some_iff.mp read with ⟨low, readLow, read⟩
      rcases Option.bind_eq_some_iff.mp read with ⟨others, readRest, read⟩
      cases read
      have highSmall := digitValue_lt readHigh
      have lowSmall := digitValue_lt readLow
      have value : (UInt8.ofNat (high * 16 + low)).toNat = high * 16 + low := by
        simp
        omega
      have upper : (high * 16 + low) / 16 = high := by omega
      have lower : (high * 16 + low) % 16 = low := by omega
      have head := decimal _ List.mem_cons_self
      rw [IsDecimal, value, upper, lower] at head
      have tail := inner readRest fun byte member => decimal byte (List.mem_cons_of_mem _ member)
      show first :: second :: rest = lowerDigit _ :: lowerDigit _ :: encode others
      rw [value, upper, lower, <- eq_lowerDigit readHigh head.1, <- eq_lowerDigit readLow head.2,
        <- tail]

/-- A letter makes a difference between the two cases. -/
theorem spell_eq_iff (bytes : List UInt8) :
    spell lowerDigit bytes = spell upperDigit bytes ↔ ∀ byte ∈ bytes, IsDecimal byte := by
  induction bytes with
  | nil =>
      constructor
      · intro _ byte member
        cases member
      · intro _
        rfl
  | cons byte rest inner =>
      have small := byte.toNat_lt
      show lowerDigit _ :: lowerDigit _ :: spell lowerDigit rest =
        upperDigit _ :: upperDigit _ :: spell upperDigit rest ↔ _
      rw [List.cons.injEq, List.cons.injEq, inner,
        lowerDigit_eq_upperDigit (by omega), lowerDigit_eq_upperDigit (by omega),
        List.forall_mem_cons, IsDecimal, and_assoc]

end Hexadecimal
end Foundations
end DigGossip
