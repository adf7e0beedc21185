import DigGossip.Service.HoldingsAnnounce

namespace DigGossip
namespace Service

open Foundations DigGossip.Types

/-!
# The announcement on the wire

A frame that is accepted is the encoding of what was read from it.  An
announcement within the bounds is read back from its encoding, as long as the key
and the signature fit a length of sixteen bits; nothing in the bounds says that
they do.  The signed message tells the changes apart by the same readers.
-/

/-! ## The bounds -/

def HoldingsDelta.Small : HoldingsDelta -> Prop
  | .add _ addresses _ => addresses.length ≤ maxAddrsPerChange ∧
      ∀ addr ∈ addresses, (utf8Bytes addr.host).length ≤ maxHostLen
  | .remove _ => True

theorem forM_eq_ok_iff {A E : Type} (check : A -> Except E Unit) (items : List A) :
    items.forM check = .ok () ↔ ∀ item ∈ items, check item = .ok () := by
  induction items with
  | nil =>
      constructor
      · intro _ item member
        cases member
      · intro _
        rfl
  | cons first rest inner =>
      rw [List.forall_mem_cons, <- inner, List.forM_eq_forM, List.forM_cons]
      cases check first with
      | error reason =>
          constructor
          · intro failed
            cases failed
          · intro both
            cases both.1
      | ok _ =>
          constructor
          · intro passed
            exact ⟨rfl, passed⟩
          · intro both
            exact both.2

theorem bind_eq_ok {A B E : Type} {first : Except E A} {next : A -> Except E B} {result : B}
    (passed : (first >>= next) = .ok result) :
    exists value, first = .ok value ∧ next value = .ok result := by
  cases first with
  | error reason => cases passed
  | ok value => exact ⟨value, rfl, passed⟩

theorem refuse_above_eq_ok_iff {E : Type} (bound amount : Nat) (reason : E)
    (rest : Except E Unit) :
    (if bound < amount then .error reason else rest) = .ok () ↔ amount ≤ bound ∧ rest = .ok () := by
  split
  · rename_i above
    constructor
    · intro passed
      cases passed
    · intro both
      exact absurd both.1 (Nat.not_le_of_lt above)
  · rename_i within
    exact ⟨fun passed => ⟨Nat.le_of_not_lt within, passed⟩, fun both => both.2⟩

theorem checkHost_eq_ok_iff (addr : CandidateAddr) :
    checkHost addr = .ok () ↔ (utf8Bytes addr.host).length ≤ maxHostLen := by
  unfold checkHost
  rw [refuse_above_eq_ok_iff]
  exact and_iff_left rfl

theorem checkDelta_eq_ok_iff (delta : HoldingsDelta) : checkDelta delta = .ok () ↔ delta.Small := by
  cases delta with
  | add contentKey addresses expiresAt =>
      show (if maxAddrsPerChange < addresses.length then _ else _) = _ ↔ _
      rw [refuse_above_eq_ok_iff, forM_eq_ok_iff]
      exact and_congr_right' (forall₂_congr fun addr _ => checkHost_eq_ok_iff addr)
  | remove contentKey => exact ⟨fun _ => trivial, fun _ => rfl⟩

theorem checkAnnounceSize_eq_ok_iff (changes : List HoldingsDelta) (encodedFrameLen : Nat) :
    checkAnnounceSize changes encodedFrameLen = .ok () ↔
      (∀ delta ∈ changes, delta.Small) ∧ encodedFrameLen ≤ maxAnnounceFrameBytes := by
  have parts : changes.forM checkDelta = .ok () ↔ ∀ delta ∈ changes, delta.Small := by
    rw [forM_eq_ok_iff]
    exact forall₂_congr fun delta _ => checkDelta_eq_ok_iff delta
  unfold checkAnnounceSize
  rw [<- parts]
  cases changes.forM checkDelta with
  | error reason =>
      constructor
      · intro passed
        cases passed
      · intro both
        cases both.1
  | ok _ =>
      show (if maxAnnounceFrameBytes < encodedFrameLen then _ else _) = _ ↔ _
      rw [refuse_above_eq_ok_iff]
      exact ⟨fun both => ⟨rfl, both.1⟩, fun both => ⟨both.2, rfl⟩⟩

/-! ## Reading what was written -/

theorem reads_takeBytes {bytes : List UInt8} (fits : bytes.length < 2 ^ 16) :
    takeBytes.Reads (putBytes bytes) bytes :=
  ByteReader.Reads.bind (ByteReader.Reads.number fits) (ByteReader.Reads.take rfl)

theorem reads_takeU16 (value : UInt16) : takeU16.Reads (bigEndian 2 value.toNat) value := by
  have fits : value.toNat < 256 ^ 2 := value.toNat_lt
  have read := ByteReader.Reads.map (ByteReader.Reads.number fits) UInt16.ofNat
  rw [UInt16.ofNat_toNat] at read
  exact read

theorem reads_takeU64 (value : UInt64) : takeU64.Reads (bigEndian 8 value.toNat) value := by
  have fits : value.toNat < 256 ^ 8 := value.toNat_lt
  have read := ByteReader.Reads.map (ByteReader.Reads.number fits) UInt64.ofNat
  rw [UInt64.ofNat_toNat] at read
  exact read

theorem toBytes32_val (bytes : Bytes32) : toBytes32 bytes.val = some bytes := by
  unfold toBytes32
  rw [dif_pos bytes.property]

theorem eq_of_toBytes32 {bytes : List UInt8} {read : Bytes32} (found : toBytes32 bytes = some read) :
    bytes = read.val := by
  unfold toBytes32 at found
  split at found
  · cases found
    rfl
  · cases found

theorem reads_take32 (bytes : Bytes32) : take32.Reads bytes.val bytes := by
  have read : take32.Reads (bytes.val ++ []) bytes :=
    ByteReader.Reads.bind (ByteReader.Reads.take bytes.property)
      (ByteReader.Reads.ofOption (toBytes32_val bytes))
  rw [List.append_nil] at read
  exact read

theorem reads_takeText {text : String} (fits : (utf8Bytes text).length < 2 ^ 16) :
    takeText.Reads (putBytes (utf8Bytes text)) text := by
  have read : takeText.Reads (putBytes (utf8Bytes text) ++ []) text :=
    ByteReader.Reads.bind (reads_takeBytes fits)
      (ByteReader.Reads.ofOption (fromUtf8_utf8Bytes text))
  rw [List.append_nil] at read
  exact read

theorem reads_takeAddr {addr : CandidateAddr} (short : (utf8Bytes addr.host).length ≤ maxHostLen) :
    takeAddr.Reads (encodeAddr addr) addr := by
  have fits : (utf8Bytes addr.host).length < 2 ^ 16 := Nat.lt_of_le_of_lt short (by decide)
  exact ByteReader.Reads.bind (reads_takeText fits)
    (ByteReader.Reads.map (reads_takeU16 addr.port) (CandidateAddr.mk addr.host))

/-- A change within the bounds is read back, whatever follows it. -/
theorem reads_decodeDelta {delta : HoldingsDelta} (small : delta.Small) :
    decodeDelta.Reads (encodeDelta delta) delta := by
  cases delta with
  | add contentKey addresses expiresAt =>
      have count : addresses.length < 256 ^ 2 := Nat.lt_of_le_of_lt small.1 (by decide)
      have hosts := ByteReader.Reads.many fun addr member => reads_takeAddr (small.2 addr member)
      have rest : (decodeAdd contentKey).Reads _ (HoldingsDelta.add contentKey addresses expiresAt) :=
        ByteReader.Reads.bind (ByteReader.Reads.number count)
          (ByteReader.Reads.andThen (ByteReader.Reads.ensure small.1)
            (ByteReader.Reads.bind hosts
              (ByteReader.Reads.map (reads_takeU64 expiresAt) _)))
      exact ByteReader.Reads.bind (ByteReader.Reads.byte kindAdd)
        (ByteReader.Reads.bind (reads_take32 contentKey) rest)
  | remove contentKey =>
      exact ByteReader.Reads.bind (ByteReader.Reads.byte kindRemove)
        (ByteReader.Reads.map (reads_take32 contentKey) HoldingsDelta.remove)

theorem length_encode (announce : HoldingsAnnounce) :
    announce.encode.length = (utf8Bytes announce.providerPeerId).length +
      announce.providerSpki.length + (canonicalEncode announce.changes).length +
      announce.signature.length + 24 := by
  simp only [HoldingsAnnounce.encode, putBytes, List.length_append, length_bigEndian]
  omega

/-- What the frame needs of an announcement, all lengths taken together. -/
structure HoldingsAnnounce.Fits (announce : HoldingsAnnounce) : Prop where
  peerId : (utf8Bytes announce.providerPeerId).length < 2 ^ 16
  spki : announce.providerSpki.length < 2 ^ 16
  count : announce.changes.length ≤ maxChanges
  changes : ∀ delta ∈ announce.changes, delta.Small
  signature : announce.signature.length < 2 ^ 16

theorem decode_encode {announce : HoldingsAnnounce} (fits : announce.Fits) :
    HoldingsAnnounce.decode announce.encode = some announce := by
  have count : announce.changes.length < 256 ^ 2 := Nat.lt_of_le_of_lt fits.count (by decide)
  have changes := ByteReader.Reads.many fun delta member =>
    reads_decodeDelta (fits.changes delta member)
  have all : readAnnounce.Reads announce.encode announce :=
    ByteReader.Reads.bind (reads_takeText fits.peerId)
      (ByteReader.Reads.bind (reads_takeBytes fits.spki)
        (ByteReader.Reads.bind (reads_takeU64 announce.seq)
          (ByteReader.Reads.bind (reads_takeU64 announce.announcedAt)
            (ByteReader.Reads.bind (ByteReader.Reads.number count)
              (ByteReader.Reads.andThen (ByteReader.Reads.ensure fits.count)
                (ByteReader.Reads.bind changes
                  (ByteReader.Reads.map (reads_takeBytes fits.signature)
                    (HoldingsAnnounce.mk announce.providerPeerId announce.providerSpki
                      announce.seq announce.announcedAt announce.changes))))))))
  exact all.whole

/-! ## What was read is what was written -/

theorem yields_takeBytes :
    takeBytes.Yields fun bytes used => used = putBytes bytes ∧ bytes.length < 2 ^ 16 := by
  apply ByteReader.Yields.bind (ByteReader.Yields.number 2)
  rintro len _ ⟨rfl, fits⟩
  rintro input bytes rest read
  rcases ByteReader.Yields.take len input bytes rest read with ⟨_, same, rfl, rfl⟩
  exact ⟨_, same, rfl, fits⟩

theorem yields_takeU16 : takeU16.Yields fun value used => used = bigEndian 2 value.toNat := by
  apply ByteReader.Yields.bind (ByteReader.Yields.number 2)
  rintro read _ ⟨rfl, fits⟩
  apply ByteReader.Yields.pure
  rw [List.append_nil, UInt16.toNat_ofNat_of_lt' fits]

theorem yields_takeU64 : takeU64.Yields fun value used => used = bigEndian 8 value.toNat := by
  apply ByteReader.Yields.bind (ByteReader.Yields.number 8)
  rintro read _ ⟨rfl, fits⟩
  apply ByteReader.Yields.pure
  rw [List.append_nil, UInt64.toNat_ofNat_of_lt' fits]

theorem yields_take32 : take32.Yields fun bytes used => used = bytes.val := by
  apply ByteReader.Yields.bind (ByteReader.Yields.take 32)
  rintro _ bytes ⟨rfl, _⟩
  apply ByteReader.Yields.ofOption
  intro read found
  rw [List.append_nil, eq_of_toBytes32 found]

theorem yields_takeText : takeText.Yields fun text used => used = putBytes (utf8Bytes text) := by
  apply ByteReader.Yields.bind yields_takeBytes
  rintro bytes _ ⟨rfl, _⟩
  apply ByteReader.Yields.ofOption
  intro text read
  rw [List.append_nil, utf8Bytes_of_fromUtf8 read]

theorem yields_takeAddr : takeAddr.Yields fun addr used => used = encodeAddr addr := by
  apply ByteReader.Yields.bind yields_takeText
  rintro host _ rfl
  apply ByteReader.Yields.bind yields_takeU16
  rintro port _ rfl
  apply ByteReader.Yields.pure
  rw [List.append_nil]
  rfl

theorem yields_decodeAdd (contentKey : Bytes32) :
    (decodeAdd contentKey).Yields fun delta used =>
      encodeDelta delta = [kindAdd] ++ (contentKey.val ++ used) := by
  apply ByteReader.Yields.bind (ByteReader.Yields.number 2)
  rintro addrCount _ ⟨rfl, _⟩
  apply ByteReader.Yields.bind (ByteReader.Yields.ensure _)
  rintro _ _ ⟨rfl, _⟩
  apply ByteReader.Yields.bind (ByteReader.Yields.many yields_takeAddr addrCount)
  rintro addresses _ ⟨rfl, rfl⟩
  apply ByteReader.Yields.bind yields_takeU64
  rintro expiresAt _ rfl
  apply ByteReader.Yields.pure
  rw [List.append_nil]
  rfl

theorem yields_decodeDelta : decodeDelta.Yields fun delta used => used = encodeDelta delta := by
  apply ByteReader.Yields.bind ByteReader.Yields.byte
  rintro kind _ rfl
  apply ByteReader.Yields.bind yields_take32
  rintro contentKey _ rfl
  split
  · rename_i same
    intro input delta rest read
    rcases yields_decodeAdd contentKey input delta rest read with ⟨used, split, encoded⟩
    subst same
    exact ⟨used, split, encoded.symm⟩
  · split
    · rename_i same
      apply ByteReader.Yields.pure
      rw [same, List.append_nil]
      rfl
    · apply ByteReader.Yields.ofOption
      intro delta found
      cases found

theorem yields_readAnnounce :
    readAnnounce.Yields fun announce used => used = announce.encode ∧
      announce.providerSpki.length < 2 ^ 16 ∧ announce.signature.length < 2 ^ 16 := by
  apply ByteReader.Yields.bind yields_takeText
  rintro providerPeerId _ rfl
  apply ByteReader.Yields.bind yields_takeBytes
  rintro providerSpki _ ⟨rfl, spki⟩
  apply ByteReader.Yields.bind yields_takeU64
  rintro seq _ rfl
  apply ByteReader.Yields.bind yields_takeU64
  rintro announcedAt _ rfl
  apply ByteReader.Yields.bind (ByteReader.Yields.number 2)
  rintro changeCount _ ⟨rfl, _⟩
  apply ByteReader.Yields.bind (ByteReader.Yields.ensure _)
  rintro _ _ ⟨rfl, _⟩
  apply ByteReader.Yields.bind (ByteReader.Yields.many yields_decodeDelta changeCount)
  rintro changes _ ⟨rfl, rfl⟩
  apply ByteReader.Yields.bind yields_takeBytes
  rintro signature _ ⟨rfl, length⟩
  apply ByteReader.Yields.pure
  rw [List.append_nil]
  exact ⟨rfl, spki, length⟩

/-- A frame that is read is the encoding of what was read, and only a key and a
signature of sixteen-bit length are read. -/
theorem encode_of_decode {bytes : List UInt8} {announce : HoldingsAnnounce}
    (read : HoldingsAnnounce.decode bytes = some announce) :
    announce.encode = bytes ∧ announce.providerSpki.length < 2 ^ 16 ∧
      announce.signature.length < 2 ^ 16 := by
  rcases yields_readAnnounce.whole read with ⟨encoded, lengths⟩
  exact ⟨encoded.symm, lengths⟩

/-! ## What is built and what is accepted -/

/-- What the gate has checked of an announcement that it lets through. -/
structure Accepted (keys : KeyLibraries) (announce : HoldingsAnnounce) : Prop where
  count : announce.changes.length ≤ maxChanges
  changes : ∀ delta ∈ announce.changes, delta.Small
  frame : announce.encode.length ≤ maxAnnounceFrameBytes
  peerId : decodePeerId announce.providerPeerId =
    .ok (keys.peerIdFromTlsSpkiDer announce.providerSpki)
  signed : exists point, p256PointFromSpki keys announce.providerSpki = .ok point ∧
    keys.verifyEcdsa point (holdingsSigningMessage
      (keys.peerIdFromTlsSpkiDer announce.providerSpki) announce.seq announce.announcedAt
      announce.changes) announce.signature = true

theorem verify_eq_ok_iff (keys : KeyLibraries) (announce : HoldingsAnnounce) :
    verifyHoldingsAnnounce keys announce = .ok () ↔ Accepted keys announce := by
  unfold verifyHoldingsAnnounce
  rw [refuse_above_eq_ok_iff]
  constructor
  · rintro ⟨count, passed⟩
    rcases bind_eq_ok passed with ⟨_, sized, passed⟩
    rcases bind_eq_ok passed with ⟨peerId, decoded, passed⟩
    have bounds := (checkAnnounceSize_eq_ok_iff _ _).mp sized
    dsimp only at passed
    split at passed
    · cases passed
    · rename_i same
      have same := of_not_not same
      subst same
      rcases bind_eq_ok passed with ⟨point, parsed, passed⟩
      split at passed
      · rename_i signed
        exact ⟨count, bounds.1, bounds.2, decoded, point, parsed, signed⟩
      · cases passed
  · intro accepted
    rcases accepted.signed with ⟨point, parsed, signed⟩
    have sized := (checkAnnounceSize_eq_ok_iff announce.changes announce.encode.length).mpr
      ⟨accepted.changes, accepted.frame⟩
    refine ⟨accepted.count, ?_⟩
    rw [sized]
    show (decodePeerId announce.providerPeerId >>= _) = _
    rw [accepted.peerId]
    show (if _ ≠ _ then _ else _) = _
    rw [if_neg (not_not.mpr rfl), parsed]
    exact if_pos signed

theorem utf8Bytes_peerIdHex (peerId : Bytes32) :
    utf8Bytes (peerIdHex peerId) = Hexadecimal.encode peerId.val := by
  have each : forall digit, digit < 16 -> (Hexadecimal.lowerDigit digit).toNat < 128 := by decide
  apply utf8Bytes_asciiText
  exact @Hexadecimal.forall_mem_spell _ (fun written => written.toNat < 128) each peerId.val

/-- A spelling of an identity is sixty-four digits that are read as it. -/
theorem decodePeerId_eq_ok_iff (hexId : String) (peerId : Bytes32) :
    decodePeerId hexId = .ok peerId ↔ (utf8Bytes hexId).length = peerIdHexLen ∧
      Hexadecimal.decode (utf8Bytes hexId) = some peerId.val := by
  unfold decodePeerId
  constructor
  · intro decoded
    split at decoded
    · cases decoded
    · rename_i length
      split at decoded
      · rename_i found
        cases decoded
        rcases Option.bind_eq_some_iff.mp found with ⟨bytes, read, exactly⟩
        exact ⟨of_not_not length, by rw [read, eq_of_toBytes32 exactly]⟩
      · cases decoded
  · rintro ⟨length, read⟩
    rw [if_neg (not_not.mpr length), read, Option.bind_some, toBytes32_val]

theorem decodePeerId_peerIdHex (peerId : Bytes32) : decodePeerId (peerIdHex peerId) = .ok peerId := by
  rw [decodePeerId_eq_ok_iff, utf8Bytes_peerIdHex]
  constructor
  · show (Hexadecimal.encode peerId.val).length = 64
    rw [Hexadecimal.encode, Hexadecimal.length_spell, peerId.property]
  · exact Hexadecimal.decode_spell Hexadecimal.faithful_lowerDigit peerId.val

/-- An announcement that `new_signed` builds or that the gate lets through. -/
def Admitted (keys : KeyLibraries) (announce : HoldingsAnnounce) : Prop :=
  (exists signer seq announcedAt changes,
    newSigned keys signer seq announcedAt changes = .ok announce) ∨
  verifyHoldingsAnnounce keys announce = .ok ()

theorem newSigned_eq_ok_iff (keys : KeyLibraries) (signer : HoldingsSigner)
    (seq announcedAt : UInt64) (changes : List HoldingsDelta) (announce : HoldingsAnnounce) :
    newSigned keys signer seq announcedAt changes = .ok announce ↔
      announce = signedAnnounce keys signer seq announcedAt changes ∧
      changes.length ≤ maxChanges ∧ (∀ delta ∈ changes, delta.Small) ∧
      announce.encode.length ≤ maxAnnounceFrameBytes := by
  unfold newSigned
  constructor
  · intro built
    split at built
    · cases built
    · rename_i few
      rcases bind_eq_ok built with ⟨_, sized, built⟩
      cases built
      exact ⟨rfl, Nat.le_of_not_lt few, (checkAnnounceSize_eq_ok_iff _ _).mp sized⟩
  · rintro ⟨rfl, few, bounds⟩
    have sized := (checkAnnounceSize_eq_ok_iff changes _).mpr bounds
    rw [if_neg (Nat.not_lt_of_le few)]
    show (checkAnnounceSize changes _ >>= _) = _
    rw [sized]
    rfl

theorem Admitted.fits {keys : KeyLibraries} {announce : HoldingsAnnounce}
    (admitted : Admitted keys announce) (spki : announce.providerSpki.length < 2 ^ 16)
    (signature : announce.signature.length < 2 ^ 16) : announce.Fits := by
  have spelled : exists peerId, decodePeerId announce.providerPeerId = .ok peerId := by
    rcases admitted with ⟨signer, seq, announcedAt, changes, built⟩ | accepted
    · rw [((newSigned_eq_ok_iff _ _ _ _ _ _).mp built).1]
      exact ⟨_, decodePeerId_peerIdHex _⟩
    · exact ⟨_, ((verify_eq_ok_iff keys announce).mp accepted).peerId⟩
  rcases spelled with ⟨peerId, decoded⟩
  have length := ((decodePeerId_eq_ok_iff _ peerId).mp decoded).1
  have bounds : announce.changes.length ≤ maxChanges ∧ ∀ delta ∈ announce.changes, delta.Small := by
    rcases admitted with ⟨signer, seq, announcedAt, changes, built⟩ | accepted
    · rcases (newSigned_eq_ok_iff _ _ _ _ _ _).mp built with ⟨rfl, few, small, _⟩
      exact ⟨few, small⟩
    · have accepted := (verify_eq_ok_iff keys announce).mp accepted
      exact ⟨accepted.count, accepted.changes⟩
  exact {
    peerId := Nat.lt_of_le_of_lt (Nat.le_of_eq length) (by decide)
    spki := spki
    count := bounds.1
    changes := bounds.2
    signature := signature }

/-- Decoding and encoding are inverse on frames, and on the announcements that
are admitted exactly where the key and the signature fit their lengths. -/
theorem holdings_round_trip (keys : KeyLibraries) :
    (forall bytes announce,
      HoldingsAnnounce.decode bytes = some announce -> announce.encode = bytes) ∧
    (forall announce, Admitted keys announce ->
      (HoldingsAnnounce.decode announce.encode = some announce ↔
        announce.providerSpki.length < 2 ^ 16 ∧ announce.signature.length < 2 ^ 16)) := by
  constructor
  · intro bytes announce read
    exact (encode_of_decode read).1
  · intro announce admitted
    constructor
    · intro read
      exact (encode_of_decode read).2
    · rintro ⟨spki, signature⟩
      exact decode_encode (admitted.fits spki signature)

namespace Example

/-- The key of sixty-five bytes on the curve, in DER. -/
def leafSpki : List UInt8 :=
  [48, 89, 48, 19, 6, 7, 42, 134, 72, 206, 61, 2, 1, 6, 8, 42, 134, 72, 206, 61, 3, 1, 7, 3, 66, 0,
   4, 107, 23, 209, 242, 225, 44, 66, 71, 248, 188, 230, 229, 99, 164, 64, 242, 119, 3, 125, 129,
   45, 235, 51, 160, 244, 161, 57, 69, 216, 152, 194, 150, 79, 227, 66, 226, 254, 26, 127, 155,
   142, 231, 235, 74, 124, 15, 158, 22, 43, 206, 51, 87, 107, 49, 94, 206, 203, 182, 64, 104, 55,
   191, 81, 245]

/-- The digest of the key. -/
def leafId : Bytes32 :=
  ⟨[92, 210, 82, 251, 12, 232, 147, 36, 54, 250, 248, 204, 209, 4, 9, 129, 184, 158, 228, 173,
    107, 159, 233, 226, 162, 183, 231, 26, 172, 178, 124, 211], rfl⟩

/-- The signature under the key of an announcement without changes. -/
def leafSignature : List UInt8 :=
  [48, 68, 2, 32, 124, 242, 123, 24, 141, 3, 79, 126, 138, 82, 56, 3, 4, 181, 26, 195, 192, 137,
   105, 226, 119, 242, 27, 53, 166, 11, 72, 252, 71, 102, 153, 120, 2, 32, 48, 150, 208, 76, 82,
   113, 220, 144, 14, 165, 214, 111, 9, 158, 33, 237, 4, 106, 5, 16, 40, 141, 54, 249, 213, 209,
   215, 68, 121, 13, 57, 60]

/-- The digest of the key with zeros behind it, 65536 bytes in all. -/
def paddedId : Bytes32 :=
  ⟨[162, 91, 4, 50, 84, 166, 0, 22, 105, 96, 184, 74, 198, 166, 253, 249, 49, 49, 144, 196, 83,
    225, 213, 173, 168, 188, 14, 182, 130, 210, 139, 140], rfl⟩

def paddedSignature : List UInt8 :=
  [48, 68, 2, 32, 124, 242, 123, 24, 141, 3, 79, 126, 138, 82, 56, 3, 4, 181, 26, 195, 192, 137,
   105, 226, 119, 242, 27, 53, 166, 11, 72, 252, 71, 102, 153, 120, 2, 32, 49, 142, 40, 208, 139,
   223, 147, 91, 197, 220, 146, 106, 191, 16, 32, 71, 106, 63, 160, 40, 237, 134, 156, 180, 135,
   145, 33, 169, 57, 124, 76, 233]

/-- What the libraries answer about the leaf key, alone or with zeros behind it:
the bytes behind the key are left over. -/
def keys (peerId : Bytes32) (signature : List UInt8) : KeyLibraries where
  peerIdFromTlsSpkiDer := fun _ => peerId
  fromDer := fun bytes => some (bytes.drop 91, {
    algorithm := oidKeyTypeEcPublicKey
    parameters := some (some oidEcP256)
    subjectPublicKey := (bytes.drop 26).take 65 })
  verifyEcdsa := fun _ _ given => decide (given = signature)

def leafSigner : HoldingsSigner where
  sign := fun _ => leafSignature
  spkiDer := leafSpki

def paddedSigner : HoldingsSigner where
  sign := fun _ => paddedSignature
  spkiDer := leafSpki ++ List.replicate 65445 0

/-- The announcement without changes that a signer builds. -/
def announce (peerId : Bytes32) (signer : HoldingsSigner) : HoldingsAnnounce :=
  signedAnnounce (keys peerId []) signer 0 0 []

theorem length_encode_announce (peerId : Bytes32) (signer : HoldingsSigner) :
    (announce peerId signer).encode.length = 88 + signer.spkiDer.length +
      (signer.sign (holdingsSigningMessage peerId 0 0 [])).length := by
  have hex : (utf8Bytes (peerIdHex peerId)).length = 64 := by
    rw [utf8Bytes_peerIdHex, Hexadecimal.encode, Hexadecimal.length_spell, peerId.property]
  rw [length_encode]
  show (utf8Bytes (peerIdHex peerId)).length + signer.spkiDer.length + 0 +
    (signer.sign (holdingsSigningMessage peerId 0 0 [])).length + 24 = _
  omega

/-- The gate lets the announcement through that carries the expected signature. -/
theorem accepted_announce {peerId : Bytes32} {signer : HoldingsSigner}
    (short : (announce peerId signer).encode.length ≤ maxAnnounceFrameBytes) :
    verifyHoldingsAnnounce
      (keys peerId (signer.sign (holdingsSigningMessage peerId 0 0 [])))
      (announce peerId signer) = .ok () := by
  apply (verify_eq_ok_iff _ _).mpr
  exact {
    count := Nat.zero_le _
    changes := fun delta member => absurd member List.not_mem_nil
    frame := short
    peerId := decodePeerId_peerIdHex peerId
    signed := ⟨_, rfl, decide_eq_true rfl⟩ }

theorem verify_leaf :
    verifyHoldingsAnnounce (keys leafId leafSignature) (announce leafId leafSigner) = .ok () := by
  apply accepted_announce
  rw [length_encode_announce]
  decide

theorem decode_leaf :
    HoldingsAnnounce.decode (announce leafId leafSigner).encode =
      some (announce leafId leafSigner) := by
  have admitted : Admitted (keys leafId leafSignature) (announce leafId leafSigner) :=
    Or.inr verify_leaf
  exact decode_encode (admitted.fits (by decide) (by decide))

end Example

/-- The announcement of the leaf key goes out and comes back. -/
theorem holdings_round_trip_leaf :
    HoldingsAnnounce.decode (Example.announce Example.leafId Example.leafSigner).encode =
      some (Example.announce Example.leafId Example.leafSigner) :=
  ((holdings_round_trip (Example.keys Example.leafId Example.leafSignature)).2 _
    (Or.inr Example.verify_leaf)).mpr ⟨by decide, by decide⟩

/-- Behind the leaf key stand zeros, up to 65536 bytes; its length goes out as
zero. -/
theorem holdings_round_trip_fails :
    ¬ forall keys : KeyLibraries,
      (forall bytes announce,
        HoldingsAnnounce.decode bytes = some announce -> announce.encode = bytes) ∧
      (forall announce, Admitted keys announce ->
        HoldingsAnnounce.decode announce.encode = some announce) := by
  intro holds
  have length : Example.paddedSigner.spkiDer.length = 65536 := by
    show (Example.leafSpki ++ List.replicate 65445 0).length = 65536
    rw [List.length_append, List.length_replicate]
    rfl
  have short : (Example.announce Example.paddedId Example.paddedSigner).encode.length ≤
      maxAnnounceFrameBytes := by
    rw [Example.length_encode_announce, length]
    decide
  have read := (holds (Example.keys Example.paddedId Example.paddedSignature)).2 _
    (Or.inr (Example.accepted_announce short))
  have fits : Example.paddedSigner.spkiDer.length < 2 ^ 16 := (encode_of_decode read).2.1
  rw [length] at fits
  exact absurd fits (by decide)

/-! ## The signed message -/

theorem encodeDelta_ne_nil (delta : HoldingsDelta) : encodeDelta delta ≠ [] := by
  cases delta with
  | add contentKey addresses expiresAt => exact List.cons_ne_nil _ _
  | remove contentKey => exact List.cons_ne_nil _ _

/-- Batches within the bounds that are signed alike are alike in every part. -/
theorem holdings_signing_message_injective {firstId secondId : Bytes32}
    {firstSeq secondSeq firstAt secondAt : UInt64} {firstChanges secondChanges : List HoldingsDelta}
    {firstFrame secondFrame : Nat}
    (firstSize : checkAnnounceSize firstChanges firstFrame = .ok ())
    (secondSize : checkAnnounceSize secondChanges secondFrame = .ok ())
    (same : holdingsSigningMessage firstId firstSeq firstAt firstChanges =
      holdingsSigningMessage secondId secondSeq secondAt secondChanges) :
    firstId = secondId ∧ firstSeq = secondSeq ∧ firstAt = secondAt ∧
      firstChanges = secondChanges := by
  have firstSmall := ((checkAnnounceSize_eq_ok_iff _ _).mp firstSize).1
  have secondSmall := ((checkAnnounceSize_eq_ok_iff _ _).mp secondSize).1
  rcases (reads_take32 firstId).inj (reads_take32 secondId)
    (List.append_cancel_left same) with ⟨ids, rest⟩
  rcases (reads_takeU64 firstSeq).inj (reads_takeU64 secondSeq) rest with ⟨seqs, rest⟩
  rcases (reads_takeU64 firstAt).inj (reads_takeU64 secondAt) rest with ⟨times, rest⟩
  refine ⟨ids, seqs, times, ?_⟩
  exact ByteReader.Reads.flatMap_inj encodeDelta_ne_nil
    (fun delta member => reads_decodeDelta (firstSmall delta member))
    (fun delta member => reads_decodeDelta (secondSmall delta member)) rest

def Example.changes : List HoldingsDelta :=
  [.add leafId [{ host := "::1", port := 9444 }] 7, .remove paddedId]

theorem holdings_signing_message_injective_leaf :
    checkAnnounceSize Example.changes 400 = .ok () ∧
    Example.leafId = Example.leafId ∧ (1 : UInt64) = 1 ∧ (5 : UInt64) = 5 ∧
      Example.changes = [.add Example.leafId [{ host := "::1", port := 9444 }] 7] ++
        [.remove Example.paddedId] := by
  have sized : checkAnnounceSize Example.changes 400 = .ok () := by decide +kernel
  exact ⟨sized, holdings_signing_message_injective sized sized rfl⟩

end Service
end DigGossip
