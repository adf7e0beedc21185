import Mathlib.Data.List.Basic

namespace DigGossip
namespace Foundations

/-!
# Unsigned decimal numbers

A reader of fixed width takes an optional plus sign and then at least one
digit.  It stops at the first character that is no digit and at the first digit
that takes the value past its limit.  As a value only grows with its digits,
this reads exactly the numbers up to the limit.
-/

namespace Decimal

def readDigits (limit : Nat) : List Char -> Nat -> Option Nat
  | [], value => some value
  | char :: rest, value =>
      if char.isDigit && decide (10 * value + (char.toNat - '0'.toNat) ≤ limit) then
        readDigits limit rest (10 * value + (char.toNat - '0'.toNat))
      else none

/-- A sign that stands alone is no digit. -/
def read (limit : Nat) : List Char -> Option Nat
  | [] => none
  | '+' :: char :: rest => readDigits limit (char :: rest) 0
  | text => readDigits limit text 0

theorem le_ofDigitChars (text : List Char) (value : Nat) :
    value ≤ Nat.ofDigitChars 10 text value := by
  induction text generalizing value with
  | nil => exact Nat.le_of_eq Nat.ofDigitChars_nil.symm
  | cons char rest inner =>
      rw [Nat.ofDigitChars_cons]
      have grown := inner (10 * value + (char.toNat - '0'.toNat))
      omega

theorem readDigits_eq_some_iff {limit : Nat} (text : List Char) {value result : Nat}
    (small : value ≤ limit) : readDigits limit text value = some result ↔
      (∀ char ∈ text, char.isDigit = true) ∧ Nat.ofDigitChars 10 text value = result ∧
        result ≤ limit := by
  induction text generalizing value with
  | nil =>
      rw [readDigits, Option.some.injEq, Nat.ofDigitChars_nil]
      constructor
      · rintro rfl
        exact ⟨fun _ member => absurd member List.not_mem_nil, rfl, small⟩
      · exact fun parts => parts.2.1
  | cons char rest inner =>
      rw [readDigits, Nat.ofDigitChars_cons, List.forall_mem_cons]
      by_cases fits : 10 * value + (char.toNat - '0'.toNat) ≤ limit
      · cases digit : char.isDigit with
        | false => simp
        | true =>
            simp only [fits, decide_true, Bool.and_self, if_true, true_and]
            exact inner fits
      · rw [decide_eq_false fits, Bool.and_false, if_neg Bool.false_ne_true]
        constructor
        · intro impossible
          cases impossible
        · rintro ⟨_, rfl, bounded⟩
          exact absurd (Nat.le_trans (le_ofDigitChars rest _) bounded) fits

theorem isDigit_plus : ('+' : Char).isDigit = false := by decide

/-- A text is read as a number exactly when it spells it with digits, perhaps
behind a plus sign, and the number is within the limit. -/
theorem read_eq_some_iff {limit : Nat} {text : List Char} {result : Nat} :
    read limit text = some result ↔ exists digits, (text = digits ∨ text = '+' :: digits) ∧
      digits ≠ [] ∧ (∀ char ∈ digits, char.isDigit = true) ∧
        Nat.ofDigitChars 10 digits 0 = result ∧ result ≤ limit := by
  have unsigned (digits : List Char) (nonempty : digits ≠ [])
      (plain : ∀ char ∈ digits, char.isDigit = true) :
      read limit digits = readDigits limit digits 0 := by
    cases digits with
    | nil => exact absurd rfl nonempty
    | cons char rest =>
        unfold read
        split
        · rename_i none
          cases none
        · rename_i signed
          cases signed
          have digit := plain '+' List.mem_cons_self
          rw [isDigit_plus] at digit
          cases digit
        · rfl
  constructor
  · intro found
    unfold read at found
    split at found
    · cases found
    · rename_i char rest
      rcases (readDigits_eq_some_iff _ (Nat.zero_le limit)).mp found with parts
      exact ⟨char :: rest, Or.inr rfl, List.cons_ne_nil _ _, parts⟩
    · rename_i nonempty _
      rcases (readDigits_eq_some_iff _ (Nat.zero_le limit)).mp found with parts
      exact ⟨text, Or.inl rfl, nonempty, parts⟩
  · rintro ⟨digits, spelled, nonempty, plain, value⟩
    have scanned := (readDigits_eq_some_iff digits (Nat.zero_le limit)).mpr ⟨plain, value⟩
    rcases spelled with rfl | rfl
    · rw [unsigned text nonempty plain]
      exact scanned
    · cases digits with
      | nil => exact absurd rfl nonempty
      | cons char rest => exact scanned

theorem isDigit_of_mem_spelling {value : Nat} : ∀ char ∈ Nat.toDigits 10 value,
    char.isDigit = true :=
  fun _ member => Nat.isDigit_of_mem_toDigits (by decide) (by decide) member

theorem spelling_nonempty (value : Nat) : Nat.toDigits 10 value ≠ [] :=
  List.ne_nil_of_length_pos (Nat.length_toDigits_pos)

/-- The spelling of a number within the limit reads back as the number. -/
theorem read_spelling {limit value : Nat} (small : value ≤ limit) :
    read limit (Nat.toDigits 10 value) = some value :=
  read_eq_some_iff.mpr ⟨_, Or.inl rfl, spelling_nonempty value, isDigit_of_mem_spelling,
    Nat.ofDigitChars_ten_toDigits, small⟩

end Decimal

end Foundations
end DigGossip
