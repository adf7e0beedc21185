import Mathlib.Algebra.Group.Nat.Defs
import Mathlib.Data.List.Induction

namespace DigGossip
namespace Foundations

/-!
# Bytes written and read

Big-endian integers, and readers that take a value off the front of a byte
string.  Two relations tie a reader to a writer.  `Reads` says that a reader
gets a value back from its bytes, whatever follows them.  `Yields` says what is
known of the bytes that a reader used up when it returned a value.  Both are
closed under the ways in which readers are put together.
-/

/-! ## Integers -/

/-- The low `width` bytes of a number, most significant first. -/
def bigEndian : (width value : Nat) -> List UInt8
  | 0, _ => []
  | width + 1, value => bigEndian width (value / 256) ++ [UInt8.ofNat value]

/-- The number that bytes spell, most significant first. -/
def bigEndianValue (bytes : List UInt8) : Nat :=
  bytes.foldl (fun value byte => value * 256 + byte.toNat) 0

@[simp] theorem length_bigEndian (width value : Nat) : (bigEndian width value).length = width := by
  induction width generalizing value with
  | zero => rfl
  | succ width inner => rw [bigEndian, List.length_append, inner, List.length_singleton]

theorem bigEndianValue_concat (bytes : List UInt8) (byte : UInt8) :
    bigEndianValue (bytes ++ [byte]) = bigEndianValue bytes * 256 + byte.toNat := by
  unfold bigEndianValue
  rw [List.foldl_append]
  rfl

theorem bigEndianValue_bigEndian (width value : Nat) :
    bigEndianValue (bigEndian width value) = value % 256 ^ width := by
  induction width generalizing value with
  | zero =>
      rw [Nat.pow_zero, Nat.mod_one]
      rfl
  | succ width inner =>
      have byte : (UInt8.ofNat value).toNat = value % 256 := by simp
      rw [bigEndian, bigEndianValue_concat, inner, byte, Nat.pow_succ,
        Nat.mul_comm (256 ^ width) 256, Nat.mod_mul]
      omega

theorem bigEndian_bigEndianValue (bytes : List UInt8) :
    bigEndian bytes.length (bigEndianValue bytes) = bytes := by
  induction bytes using List.reverseRecOn with
  | nil => rfl
  | append_singleton bytes byte inner =>
      have small := byte.toNat_lt
      have high : (bigEndianValue bytes * 256 + byte.toNat) / 256 = bigEndianValue bytes := by
        omega
      have low : UInt8.ofNat (bigEndianValue bytes * 256 + byte.toNat) = byte := by
        apply UInt8.toNat_inj.mp
        have spelled : (UInt8.ofNat (bigEndianValue bytes * 256 + byte.toNat)).toNat =
            (bigEndianValue bytes * 256 + byte.toNat) % 256 := by simp
        omega
      rw [List.length_append, List.length_singleton, bigEndianValue_concat, bigEndian, high, low,
        inner]

theorem bigEndianValue_lt (bytes : List UInt8) : bigEndianValue bytes < 256 ^ bytes.length := by
  have spelled := bigEndianValue_bigEndian bytes.length (bigEndianValue bytes)
  rw [bigEndian_bigEndianValue] at spelled
  rw [spelled]
  exact Nat.mod_lt _ (Nat.pow_pos (by decide))

/-! ## Readers -/

abbrev ByteReader (A : Type) := StateT (List UInt8) Option A

namespace ByteReader

variable {A B : Type}

def take (count : Nat) : ByteReader (List UInt8) := fun input =>
  if count ≤ input.length then some (input.take count, input.drop count) else none

/-- What is known without reading, or a failure. -/
def ofOption (known : Option A) : ByteReader A := fun input =>
  known.map fun value => (value, input)

def byte : ByteReader UInt8
  | [] => none
  | first :: rest => some (first, rest)

/-- Fails unless the condition holds. -/
def ensure (condition : Prop) [Decidable condition] : ByteReader Unit := fun input =>
  if condition then some ((), input) else none

def number (width : Nat) : ByteReader Nat := do
  let bytes <- take width
  return bigEndianValue bytes

def many (reader : ByteReader A) : Nat -> ByteReader (List A)
  | 0 => pure []
  | count + 1 => do
      let first <- reader
      let rest <- many reader count
      return first :: rest

/-- The value that a reader finds when it uses up all of its input. -/
def whole (reader : ByteReader A) (bytes : List UInt8) : Option A :=
  match reader.run bytes with
  | some (value, []) => some value
  | some (_, _ :: _) => none
  | none => none

/-! ## What a reader gets back -/

def Reads (reader : ByteReader A) (bytes : List UInt8) (value : A) : Prop :=
  forall rest, reader.run (bytes ++ rest) = some (value, rest)

theorem Reads.pure (value : A) : Reads (Pure.pure value) [] value := fun _ => rfl

theorem Reads.bind {reader : ByteReader A} {next : A -> ByteReader B} {first second : List UInt8}
    {value : A} {result : B} (reads : Reads reader first value)
    (after : Reads (next value) second result) : Reads (reader >>= next) (first ++ second) result := by
  intro rest
  rw [List.append_assoc]
  show ((reader.run (first ++ (second ++ rest))).bind fun read => (next read.1).run read.2) = _
  rw [reads]
  exact after rest

theorem Reads.take {bytes : List UInt8} {count : Nat} (length : bytes.length = count) :
    Reads (ByteReader.take count) bytes bytes := by
  intro rest
  show (if count ≤ (bytes ++ rest).length then _ else _) = _
  rw [if_pos (by rw [List.length_append, length]; exact Nat.le_add_right _ _), <- length,
    List.take_left, List.drop_left]

theorem Reads.ofOption {known : Option A} {value : A} (found : known = some value) :
    Reads (ByteReader.ofOption known) [] value := by
  intro rest
  rw [found]
  rfl

theorem Reads.byte (value : UInt8) : Reads ByteReader.byte [value] value := fun _ => rfl

theorem Reads.ensure {condition : Prop} [Decidable condition] (holds : condition) :
    Reads (ByteReader.ensure condition) [] () := by
  intro rest
  exact if_pos holds

/-- A reader that takes nothing, before one that does. -/
theorem Reads.andThen {reader : ByteReader A} {next : A -> ByteReader B} {bytes : List UInt8}
    {value : A} {result : B} (reads : Reads reader [] value)
    (after : Reads (next value) bytes result) : Reads (reader >>= next) bytes result :=
  Reads.bind reads after

theorem Reads.map {reader : ByteReader A} {bytes : List UInt8} {value : A}
    (reads : Reads reader bytes value) (f : A -> B) :
    Reads (reader >>= fun read => Pure.pure (f read)) bytes (f value) := by
  have mapped : Reads (reader >>= fun read => Pure.pure (f read)) (bytes ++ []) (f value) :=
    Reads.bind reads (Reads.pure _)
  rw [List.append_nil] at mapped
  exact mapped

theorem Reads.number {width value : Nat} (fits : value < 256 ^ width) :
    Reads (ByteReader.number width) (bigEndian width value) value := by
  have read : Reads (ByteReader.number width) (bigEndian width value)
      (bigEndianValue (bigEndian width value)) :=
    Reads.map (Reads.take (length_bigEndian width value)) bigEndianValue
  rw [bigEndianValue_bigEndian, Nat.mod_eq_of_lt fits] at read
  exact read

theorem Reads.many {reader : ByteReader A} {write : A -> List UInt8} {items : List A}
    (reads : ∀ item ∈ items, Reads reader (write item) item) :
    Reads (ByteReader.many reader items.length) (items.flatMap write) items := by
  induction items with
  | nil => exact Reads.pure []
  | cons first items inner =>
      have rest := inner fun item member => reads item (List.mem_cons_of_mem first member)
      exact Reads.bind (reads first List.mem_cons_self) (Reads.map rest (first :: ·))

/-- Bytes that one reader reads off the same input are for the same value. -/
theorem Reads.inj {reader : ByteReader A} {first second : List UInt8} {left right : A}
    (readsLeft : Reads reader first left) (readsRight : Reads reader second right)
    {afterFirst afterSecond : List UInt8} (same : first ++ afterFirst = second ++ afterSecond) :
    left = right ∧ afterFirst = afterSecond := by
  have once := (readsLeft afterFirst).symm.trans (same ▸ readsRight afterSecond)
  cases once
  exact ⟨rfl, rfl⟩

/-- Items of which each is read back are told from the bytes of all of them. -/
theorem Reads.flatMap_inj {reader : ByteReader A} {write : A -> List UInt8}
    (nonempty : forall item, write item ≠ []) {left right : List A}
    (readsLeft : ∀ item ∈ left, Reads reader (write item) item)
    (readsRight : ∀ item ∈ right, Reads reader (write item) item)
    (same : left.flatMap write = right.flatMap write) : left = right := by
  induction left generalizing right with
  | nil =>
      cases right with
      | nil => rfl
      | cons item rest =>
          rw [List.flatMap_nil, List.flatMap_cons] at same
          exact absurd (List.append_eq_nil_iff.mp same.symm).1 (nonempty item)
  | cons first others inner =>
      cases right with
      | nil =>
          rw [List.flatMap_nil, List.flatMap_cons] at same
          exact absurd (List.append_eq_nil_iff.mp same).1 (nonempty first)
      | cons item rest =>
          rw [List.flatMap_cons, List.flatMap_cons] at same
          rcases Reads.inj (readsLeft first List.mem_cons_self)
            (readsRight item List.mem_cons_self) same with ⟨rfl, tails⟩
          rw [inner (fun other member => readsLeft other (List.mem_cons_of_mem _ member))
            (fun other member => readsRight other (List.mem_cons_of_mem _ member)) tails]

theorem Reads.whole {reader : ByteReader A} {bytes : List UInt8} {value : A}
    (reads : Reads reader bytes value) : reader.whole bytes = some value := by
  have read := reads []
  rw [List.append_nil] at read
  unfold ByteReader.whole
  rw [read]

/-! ## What a reader has used up -/

def Yields (reader : ByteReader A) (post : A -> List UInt8 -> Prop) : Prop :=
  forall input value rest, reader.run input = some (value, rest) ->
    exists used, input = used ++ rest ∧ post value used

theorem Yields.pure {value : A} {post : A -> List UInt8 -> Prop} (holds : post value []) :
    Yields (Pure.pure value) post := by
  intro input found rest read
  cases read
  exact ⟨[], rfl, holds⟩

theorem Yields.bind {reader : ByteReader A} {next : A -> ByteReader B}
    {post : A -> List UInt8 -> Prop} {last : B -> List UInt8 -> Prop} (yields : Yields reader post)
    (after : forall value used, post value used ->
      Yields (next value) fun result more => last result (used ++ more)) :
    Yields (reader >>= next) last := by
  intro input result rest read
  rcases Option.bind_eq_some_iff.mp read with ⟨⟨value, middle⟩, first, second⟩
  rcases yields input value middle first with ⟨used, rfl, holds⟩
  rcases after value used holds middle result rest second with ⟨more, rfl, holds⟩
  exact ⟨used ++ more, (List.append_assoc used more rest).symm, holds⟩

theorem Yields.take (count : Nat) :
    Yields (ByteReader.take count) fun bytes used => used = bytes ∧ bytes.length = count := by
  intro input bytes rest read
  replace read : (if count ≤ input.length then some (input.take count, input.drop count) else none) =
    some (bytes, rest) := read
  split at read
  · rename_i enough
    cases read
    refine ⟨input.take count, (List.take_append_drop count input).symm, rfl, ?_⟩
    rw [List.length_take]
    exact Nat.min_eq_left enough
  · cases read

theorem Yields.ofOption {known : Option A} {post : A -> List UInt8 -> Prop}
    (holds : forall value, known = some value -> post value []) :
    Yields (ByteReader.ofOption known) post := by
  intro input value rest read
  rcases Option.map_eq_some_iff.mp read with ⟨found, same, read⟩
  cases read
  exact ⟨[], rfl, holds value same⟩

theorem Yields.byte : Yields ByteReader.byte fun value used => used = [value] := by
  intro input value rest read
  cases input with
  | nil => cases read
  | cons first others =>
      cases read
      exact ⟨[value], rfl, rfl⟩

theorem Yields.ensure (condition : Prop) [Decidable condition] :
    Yields (ByteReader.ensure condition) fun _ used => used = [] ∧ condition := by
  intro input value rest read
  replace read : (if condition then some ((), input) else none) = some (value, rest) := read
  split at read
  · rename_i met
    cases read
    exact ⟨[], rfl, rfl, met⟩
  · cases read

theorem Yields.number (width : Nat) :
    Yields (ByteReader.number width) fun value used =>
      used = bigEndian width value ∧ value < 256 ^ width := by
  apply Yields.bind (Yields.take width)
  rintro _ bytes ⟨rfl, length⟩
  apply Yields.pure
  subst length
  rw [List.append_nil, bigEndian_bigEndianValue]
  exact ⟨rfl, bigEndianValue_lt bytes⟩

/-- What was used up by reading items one after another is what they are
written as. -/
theorem Yields.many {reader : ByteReader A} {write : A -> List UInt8}
    (yields : Yields reader fun item used => used = write item) (count : Nat) :
    Yields (ByteReader.many reader count) fun items used =>
      items.length = count ∧ used = items.flatMap write := by
  induction count with
  | zero => exact Yields.pure ⟨rfl, rfl⟩
  | succ count inner =>
      apply Yields.bind yields
      rintro first _ rfl
      apply Yields.bind inner
      rintro rest _ ⟨length, rfl⟩
      apply Yields.pure
      exact ⟨by rw [List.length_cons, length], by rw [List.append_nil, List.flatMap_cons]⟩

theorem Yields.whole {reader : ByteReader A} {post : A -> List UInt8 -> Prop}
    (yields : Yields reader post) {bytes : List UInt8} {value : A}
    (found : reader.whole bytes = some value) : post value bytes := by
  unfold ByteReader.whole at found
  split at found
  · rename_i read
    cases found
    rcases yields bytes value [] read with ⟨used, same, holds⟩
    rw [same, List.append_nil]
    exact holds
  · cases found
  · cases found

end ByteReader
end Foundations
end DigGossip
