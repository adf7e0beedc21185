import DigGossip.Service.FloodMessages

namespace DigGossip
namespace Service

open Foundations DigGossip.Types

/-!
# The frames of a stream

A frame that opens or closes a stream is its kind and the identifier of the
stream, and one of data goes on with a sequence number and with all that is left
of the buffer.  A buffer is read as a frame exactly when it begins with the bytes
of the frame and, for data, is no longer.  Behind a frame of the other two kinds
anything may follow, so these have more than one spelling.
-/

namespace StreamKind

def open_ : UInt8 := 0
def data : UInt8 := 1
def close : UInt8 := 2

end StreamKind

inductive StreamFrame where
  | open_ (streamId : UInt64)
  | data (streamId seq : UInt64) (payload : List UInt8)
  | close (streamId : UInt64)
deriving DecidableEq

/-- `get` of a range: nothing when the buffer ends before it does. -/
def getRange (bytes : List UInt8) (start stop : Nat) : Option (List UInt8) :=
  if stop ≤ bytes.length then some (slice bytes start stop) else none

/-- `get` of all from a position on. -/
def getFrom (bytes : List UInt8) (start : Nat) : Option (List UInt8) :=
  if start ≤ bytes.length then some (bytes.drop start) else none

/-- The first eight bytes; those behind them are left alone. -/
def readU64 (bytes : List UInt8) : Option UInt64 := do
  let eight <- getRange bytes 0 8
  return UInt64.ofNat (bigEndianValue eight)

def beBytes (value : UInt64) : List UInt8 :=
  bigEndian 8 value.toNat

namespace StreamFrame

def encode : StreamFrame -> List UInt8
  | .open_ streamId => [StreamKind.open_] ++ beBytes streamId
  | .close streamId => [StreamKind.close] ++ beBytes streamId
  | .data streamId seq payload =>
      [StreamKind.data] ++ (beBytes streamId ++ (beBytes seq ++ payload))

def decode : List UInt8 -> Option StreamFrame
  | [] => none
  | kind :: rest =>
      if kind = StreamKind.open_ then do
        let streamId <- readU64 rest
        return .open_ streamId
      else if kind = StreamKind.close then do
        let streamId <- readU64 rest
        return .close streamId
      else if kind = StreamKind.data then do
        let streamId <- (getRange rest 0 8).bind readU64
        let seq <- (getRange rest 8 16).bind readU64
        let payload <- getFrom rest 16
        return .data streamId seq payload
      else none

end StreamFrame

/-! ## Eight bytes -/

theorem length_beBytes (value : UInt64) : (beBytes value).length = 8 :=
  length_bigEndian 8 value.toNat

theorem bigEndianValue_beBytes (value : UInt64) :
    UInt64.ofNat (bigEndianValue (beBytes value)) = value := by
  have fits : value.toNat < 256 ^ 8 := value.toNat_lt
  unfold beBytes
  rw [bigEndianValue_bigEndian, Nat.mod_eq_of_lt fits, UInt64.ofNat_toNat]

theorem beBytes_bigEndianValue {bytes : List UInt8} (length : bytes.length = 8) :
    beBytes (UInt64.ofNat (bigEndianValue bytes)) = bytes := by
  have fits := bigEndianValue_lt bytes
  have spelled := bigEndian_bigEndianValue bytes
  rw [length] at fits spelled
  unfold beBytes
  rw [UInt64.toNat_ofNat_of_lt' fits, spelled]

/-- A number is read off exactly the buffers that begin with its bytes. -/
theorem readU64_eq_some_iff {bytes : List UInt8} {value : UInt64} :
    readU64 bytes = some value ↔ exists rest, bytes = beBytes value ++ rest := by
  unfold readU64 getRange slice
  constructor
  · intro read
    rcases Option.bind_eq_some_iff.mp read with ⟨eight, found, same⟩
    rcases Option.ite_none_right_eq_some.mp found with ⟨enough, taken⟩
    cases same
    cases taken
    have length : (bytes.take 8).length = 8 := by
      rw [List.length_take]
      exact Nat.min_eq_left enough
    refine ⟨bytes.drop 8, ?_⟩
    rw [List.drop_zero, beBytes_bigEndianValue length, List.take_append_drop]
  · rintro ⟨rest, rfl⟩
    have enough : 8 ≤ (beBytes value ++ rest).length := by
      rw [List.length_append, length_beBytes]
      exact Nat.le_add_right 8 rest.length
    have taken : (beBytes value ++ rest).take 8 = beBytes value := List.take_left' (length_beBytes value)
    rw [if_pos enough, List.drop_zero, taken]
    exact congrArg some (bigEndianValue_beBytes value)

theorem length_slice {bytes : List UInt8} {start stop : Nat} (enough : stop ≤ bytes.length) :
    (slice bytes start stop).length = stop - start := by
  unfold slice
  rw [List.length_take, List.length_drop]
  exact Nat.min_eq_left (Nat.sub_le_sub_right enough start)

/-- A number is read out of the middle of a buffer by its eight bytes. -/
theorem readAt_eq_some_iff {bytes : List UInt8} {start stop : Nat} {value : UInt64}
    (eight : stop - start = 8) :
    (getRange bytes start stop).bind readU64 = some value ↔
      stop ≤ bytes.length ∧ slice bytes start stop = beBytes value := by
  unfold getRange
  constructor
  · intro read
    rcases Option.bind_eq_some_iff.mp read with ⟨middle, found, read⟩
    rcases Option.ite_none_right_eq_some.mp found with ⟨enough, same⟩
    cases same
    rcases readU64_eq_some_iff.mp read with ⟨rest, split⟩
    have length := congrArg List.length split
    rw [length_slice enough, eight, List.length_append, length_beBytes] at length
    have empty : rest = [] := List.length_eq_zero_iff.mp (by omega)
    rw [empty, List.append_nil] at split
    exact ⟨enough, split⟩
  · rintro ⟨enough, spelled⟩
    rw [if_pos enough, Option.bind_some, spelled]
    exact readU64_eq_some_iff.mpr ⟨[], (List.append_nil _).symm⟩

/-! ## What is read as a frame -/

namespace StreamFrame

/-- The payload of data is all that is left of the buffer. -/
def takesRest : StreamFrame -> Bool
  | .data _ _ _ => true
  | .open_ _ => false
  | .close _ => false

theorem headed_iff {rest : List UInt8} {frame : StreamFrame} {make : UInt64 -> StreamFrame} :
    ((do
      let streamId <- readU64 rest
      return make streamId) : Option StreamFrame) = some frame ↔
      exists streamId after, frame = make streamId ∧ rest = beBytes streamId ++ after := by
  constructor
  · intro read
    rcases Option.bind_eq_some_iff.mp read with ⟨streamId, found, same⟩
    rcases readU64_eq_some_iff.mp found with ⟨after, split⟩
    exact ⟨streamId, after, (Option.some.inj same).symm, split⟩
  · rintro ⟨streamId, after, rfl, split⟩
    rw [readU64_eq_some_iff.mpr ⟨after, split⟩]
    rfl

theorem decode_open_iff {rest : List UInt8} {frame : StreamFrame} :
    decode (StreamKind.open_ :: rest) = some frame ↔
      exists streamId after, frame = .open_ streamId ∧ rest = beBytes streamId ++ after := by
  rw [decode, if_pos rfl]
  exact headed_iff

theorem decode_close_iff {rest : List UInt8} {frame : StreamFrame} :
    decode (StreamKind.close :: rest) = some frame ↔
      exists streamId after, frame = .close streamId ∧ rest = beBytes streamId ++ after := by
  rw [decode, if_neg (by decide), if_pos rfl]
  exact headed_iff

theorem decode_data_iff {rest : List UInt8} {frame : StreamFrame} :
    decode (StreamKind.data :: rest) = some frame ↔
      exists streamId seq payload, frame = .data streamId seq payload ∧
        rest = beBytes streamId ++ (beBytes seq ++ payload) := by
  rw [decode]
  rw [if_neg (by decide), if_neg (by decide), if_pos rfl]
  constructor
  · intro read
    rcases Option.bind_eq_some_iff.mp read with ⟨streamId, first, read⟩
    rcases Option.bind_eq_some_iff.mp read with ⟨seq, second, read⟩
    rcases Option.bind_eq_some_iff.mp read with ⟨payload, third, same⟩
    rcases (readAt_eq_some_iff rfl).mp first with ⟨_, first⟩
    rcases (readAt_eq_some_iff rfl).mp second with ⟨_, second⟩
    rcases Option.ite_none_right_eq_some.mp third with ⟨_, left⟩
    cases left
    refine ⟨streamId, seq, rest.drop 16, (Option.some.inj same).symm, ?_⟩
    rw [<- first, <- second, <- List.append_assoc, slice_slice rest (by decide) (by decide)]
    exact (List.take_append_drop 16 rest).symm
  · rintro ⟨streamId, seq, payload, rfl, rfl⟩
    have length : (beBytes streamId ++ (beBytes seq ++ payload)).length = 16 + payload.length := by
      rw [List.length_append, List.length_append, length_beBytes, length_beBytes, <- Nat.add_assoc]
    have first : (getRange (beBytes streamId ++ (beBytes seq ++ payload)) 0 8).bind readU64 =
        some streamId :=
      (readAt_eq_some_iff rfl).mpr ⟨by omega,
        slice_append [] _ _ rfl (congrArg (0 + ·) (length_beBytes streamId))⟩
    have second : (getRange (beBytes streamId ++ (beBytes seq ++ payload)) 8 16).bind readU64 =
        some seq :=
      (readAt_eq_some_iff rfl).mpr ⟨by omega,
        slice_append _ _ _ (length_beBytes streamId) (congrArg (8 + ·) (length_beBytes seq))⟩
    have third : getFrom (beBytes streamId ++ (beBytes seq ++ payload)) 16 = some payload := by
      unfold getFrom
      rw [if_pos (by omega), <- List.append_assoc,
        List.drop_left' (by rw [List.length_append, length_beBytes, length_beBytes])]
    rw [first, second, third]
    rfl

theorem kind_cases {kind : UInt8} {rest : List UInt8} {frame : StreamFrame}
    (read : decode (kind :: rest) = some frame) :
    kind = StreamKind.open_ ∨ kind = StreamKind.close ∨ kind = StreamKind.data := by
  by_contra unknown
  rcases not_or.mp unknown with ⟨notOpen, unknown⟩
  rcases not_or.mp unknown with ⟨notClose, notData⟩
  rw [decode] at read
  rw [if_neg notOpen, if_neg notClose, if_neg notData] at read
  cases read

/-- A buffer is read as a frame if and only if it begins with the bytes of the
frame, and for data ends with them. -/
theorem decode_eq_some_iff {bytes : List UInt8} {frame : StreamFrame} :
    decode bytes = some frame ↔
      exists rest, bytes = frame.encode ++ rest ∧ (frame.takesRest = true -> rest = []) := by
  constructor
  · intro read
    cases bytes with
    | nil => cases read
    | cons kind rest =>
        rcases kind_cases read with rfl | rfl | rfl
        · rcases decode_open_iff.mp read with ⟨streamId, after, rfl, rfl⟩
          exact ⟨after, rfl, fun takes => by cases takes⟩
        · rcases decode_close_iff.mp read with ⟨streamId, after, rfl, rfl⟩
          exact ⟨after, rfl, fun takes => by cases takes⟩
        · rcases decode_data_iff.mp read with ⟨streamId, seq, payload, rfl, rfl⟩
          exact ⟨[], (List.append_nil _).symm, fun _ => rfl⟩
  · rintro ⟨rest, rfl, ends⟩
    cases frame with
    | open_ streamId => exact decode_open_iff.mpr ⟨streamId, rest, rfl, rfl⟩
    | close streamId => exact decode_close_iff.mpr ⟨streamId, rest, rfl, rfl⟩
    | data streamId seq payload =>
        rw [ends rfl, List.append_nil]
        exact decode_data_iff.mpr ⟨streamId, seq, payload, rfl, rfl⟩

theorem decode_encode (frame : StreamFrame) : decode frame.encode = some frame :=
  decode_eq_some_iff.mpr ⟨[], (List.append_nil _).symm, fun _ => rfl⟩

/-! ## One encoding -/

/-- A buffer is read as no frame but one that is written as it. -/
def SpelledOnce (bytes : List UInt8) : Prop :=
  forall frame, decode bytes = some frame -> frame.encode = bytes

/-- A buffer that opens or closes a stream and goes on behind the identifier. -/
def Padded (bytes : List UInt8) : Prop :=
  (bytes.head? = some StreamKind.open_ ∨ bytes.head? = some StreamKind.close) ∧ 9 < bytes.length

/-- What is read off a buffer of nine bytes or fewer, or of another kind, has no padding. -/
theorem spelledOnce_of_not_padded {bytes : List UInt8} (short : ¬ Padded bytes) :
    SpelledOnce bytes := by
  intro frame read
  rcases decode_eq_some_iff.mp read with ⟨rest, rfl, ends⟩
  suffices empty : rest = [] by rw [empty, List.append_nil]
  have header : forall kind streamId, frame.encode = [kind] ++ beBytes streamId ->
      (kind = StreamKind.open_ ∨ kind = StreamKind.close) -> rest = [] := by
    intro kind streamId spelled ofKind
    have head : (frame.encode ++ rest).head? = some kind := by
      rw [spelled]
      rfl
    have length : (frame.encode ++ rest).length = 9 + rest.length := by
      rw [spelled, List.length_append, List.length_append, length_beBytes, List.length_singleton]
    have within : ¬ 9 < (frame.encode ++ rest).length := by
      intro longer
      refine short ⟨?_, longer⟩
      rw [head, Option.some_inj, Option.some_inj]
      exact ofKind
    exact List.length_eq_zero_iff.mp (by omega)
  cases frame with
  | open_ streamId => exact header _ streamId rfl (Or.inl rfl)
  | close streamId => exact header _ streamId rfl (Or.inr rfl)
  | data streamId seq payload => exact ends rfl

/-- A padded buffer is read as the frame that its first nine bytes are. -/
theorem not_spelledOnce_of_padded {bytes : List UInt8} (padded : Padded bytes) :
    ¬ SpelledOnce bytes := by
  intro once
  rcases padded with ⟨head, longer⟩
  cases bytes with
  | nil => cases longer
  | cons kind rest =>
      rw [List.length_cons] at longer
      have length : (rest.take 8).length = 8 := by
        rw [List.length_take]
        exact Nat.min_eq_left (by omega)
      have split : rest =
          beBytes (UInt64.ofNat (bigEndianValue (rest.take 8))) ++ rest.drop 8 := by
        rw [beBytes_bigEndianValue length, List.take_append_drop]
      have short : forall frame : StreamFrame, frame.encode.length = 9 ->
          decode (kind :: rest) ≠ some frame := by
        intro frame nine read
        have same := congrArg List.length (once frame read)
        rw [nine, List.length_cons] at same
        omega
      rcases head with isOpen | isClose
      · cases Option.some.inj isOpen
        exact short _ (by rw [encode, List.length_append, length_beBytes, List.length_singleton])
          (decode_open_iff.mpr ⟨_, _, rfl, split⟩)
      · cases Option.some.inj isClose
        exact short _ (by rw [encode, List.length_append, length_beBytes, List.length_singleton])
          (decode_close_iff.mpr ⟨_, _, rfl, split⟩)

/-- Every frame is read back, and a buffer is the one spelling of what is read off
it exactly when it is not padded. -/
theorem spelledOnce_iff (bytes : List UInt8) :
    (forall frame : StreamFrame, decode frame.encode = some frame) ∧
      (SpelledOnce bytes ↔ ¬ Padded bytes) := by
  refine ⟨decode_encode, ?_, spelledOnce_of_not_padded⟩
  intro once padded
  exact not_spelledOnce_of_padded padded once

/-- Stream zero is opened by nine zeros, and by ten of them too. -/
theorem not_spelledOnce_ten :
    decode (List.replicate 10 0) = some (.open_ 0) ∧
      ¬ ((forall frame : StreamFrame, decode frame.encode = some frame) ∧
        forall bytes, SpelledOnce bytes) := by
  have read : decode (List.replicate 10 0) = some (.open_ 0) := by decide
  refine ⟨read, fun claimed => ?_⟩
  have same := congrArg List.length (claimed.2 _ _ read)
  rw [encode, List.length_append, length_beBytes, List.length_replicate] at same
  cases same

end StreamFrame

end Service
end DigGossip
