import DigGossip.Service.HoldingsCodec

namespace DigGossip
namespace Service

open Foundations DigGossip.Types

/-!
# The spellings of an announcement

The frame of an accepted announcement carries the identity of the provider as
text, and the signature does not cover the text but the identity.  The text is
read in either case.  An announcement has therefore one frame exactly when its
identity is spelled without letters.
-/

/-- Announcements that agree in all that the signature covers, and in it. -/
structure SignedAlike (first second : HoldingsAnnounce) : Prop where
  spki : first.providerSpki = second.providerSpki
  seq : first.seq = second.seq
  announcedAt : first.announcedAt = second.announcedAt
  changes : first.changes = second.changes
  signature : first.signature = second.signature

theorem SignedAlike.eq {first second : HoldingsAnnounce} (alike : SignedAlike first second)
    (spelled : first.providerPeerId = second.providerPeerId) : first = second := by
  cases first
  cases second
  cases alike
  simp_all

/-- The announcement with the identity of its provider in given digits. -/
def respell (digit : Nat -> UInt8) (peerId : Bytes32) (announce : HoldingsAnnounce) :
    HoldingsAnnounce :=
  { announce with providerPeerId := asciiText (Hexadecimal.spell digit peerId.val) }

/-- Digits below 128 that are read as what they stand for. -/
structure Digits (digit : Nat -> UInt8) : Prop where
  ascii : forall value, value < 16 -> (digit value).toNat < 128
  faithful : Hexadecimal.Faithful digit

theorem digits_lower : Digits Hexadecimal.lowerDigit where
  ascii := by decide
  faithful := Hexadecimal.faithful_lowerDigit

theorem digits_upper : Digits Hexadecimal.upperDigit where
  ascii := by decide
  faithful := Hexadecimal.faithful_upperDigit

theorem utf8Bytes_respell {digit : Nat -> UInt8} (digits : Digits digit) (peerId : Bytes32)
    (announce : HoldingsAnnounce) :
    utf8Bytes (respell digit peerId announce).providerPeerId =
      Hexadecimal.spell digit peerId.val := by
  apply utf8Bytes_asciiText
  exact @Hexadecimal.forall_mem_spell _ (fun written => written.toNat < 128) digits.ascii peerId.val

theorem length_respell {digit : Nat -> UInt8} (digits : Digits digit) (peerId : Bytes32)
    (announce : HoldingsAnnounce) :
    (utf8Bytes (respell digit peerId announce).providerPeerId).length = peerIdHexLen := by
  rw [utf8Bytes_respell digits, Hexadecimal.length_spell, peerId.property]
  rfl

/-- The gate lets the announcement through in other digits too, and its frame is
read. -/
theorem accepted_respell {keys : KeyLibraries} {announce : HoldingsAnnounce}
    {digit : Nat -> UInt8} (digits : Digits digit) (accepted : Accepted keys announce) :
    Accepted keys
      (respell digit (keys.peerIdFromTlsSpkiDer announce.providerSpki) announce) where
  count := accepted.count
  changes := accepted.changes
  frame := by
    have length := ((decodePeerId_eq_ok_iff _ _).mp accepted.peerId).1
    have same : (respell digit (keys.peerIdFromTlsSpkiDer announce.providerSpki)
        announce).encode.length = announce.encode.length := by
      rw [length_encode, length_encode, length_respell digits, length]
      rfl
    rw [same]
    exact accepted.frame
  peerId := by
    rw [decodePeerId_eq_ok_iff]
    refine ⟨length_respell digits _ _, ?_⟩
    rw [utf8Bytes_respell digits]
    exact Hexadecimal.decode_spell digits.faithful _
  signed := accepted.signed

theorem decode_respell {keys : KeyLibraries} {announce : HoldingsAnnounce}
    {digit : Nat -> UInt8} (digits : Digits digit) (accepted : Accepted keys announce)
    (spki : announce.providerSpki.length < 2 ^ 16)
    (signature : announce.signature.length < 2 ^ 16) :
    HoldingsAnnounce.decode
      (respell digit (keys.peerIdFromTlsSpkiDer announce.providerSpki) announce).encode =
      some (respell digit (keys.peerIdFromTlsSpkiDer announce.providerSpki) announce) := by
  apply decode_encode
  have verified := (verify_eq_ok_iff keys _).mpr (accepted_respell digits accepted)
  exact @Admitted.fits keys _ (Or.inr verified) spki signature

theorem signedAlike_respell (digit : Nat -> UInt8) (peerId : Bytes32)
    (announce : HoldingsAnnounce) : SignedAlike (respell digit peerId announce) announce :=
  ⟨rfl, rfl, rfl, rfl, rfl⟩

/-- Where the two cases share a frame, the identity has no letter. -/
theorem decimal_of_one_frame {peerId : Bytes32} {announce : HoldingsAnnounce}
    (same : respell Hexadecimal.lowerDigit peerId announce =
      respell Hexadecimal.upperDigit peerId announce) :
    ∀ byte ∈ peerId.val, Hexadecimal.IsDecimal byte := by
  rw [<- Hexadecimal.spell_eq_iff, <- utf8Bytes_respell digits_lower peerId announce,
    <- utf8Bytes_respell digits_upper peerId announce, same]

/-- An accepted frame is the only one for what is signed in it exactly if the
hexadecimal spelling of the provider's identity has no letter. -/
theorem one_frame_iff (keys : KeyLibraries) {frame : List UInt8} {announce : HoldingsAnnounce}
    (read : HoldingsAnnounce.decode frame = some announce)
    (verified : verifyHoldingsAnnounce keys announce = .ok ()) :
    (forall other otherAnnounce, HoldingsAnnounce.decode other = some otherAnnounce ->
      verifyHoldingsAnnounce keys otherAnnounce = .ok () ->
      SignedAlike otherAnnounce announce -> other = frame) ↔
    ∀ byte ∈ (keys.peerIdFromTlsSpkiDer announce.providerSpki).val,
      Hexadecimal.IsDecimal byte := by
  have accepted := (verify_eq_ok_iff keys announce).mp verified
  rcases encode_of_decode read with ⟨encoded, spki, signature⟩
  constructor
  · intro only
    have respelled : forall digit, Digits digit ->
        (respell digit (keys.peerIdFromTlsSpkiDer announce.providerSpki) announce) =
          announce := by
      intro digit digits
      have readAgain := decode_respell digits accepted spki signature
      have same := only _ _ readAgain
        ((verify_eq_ok_iff keys _).mpr (accepted_respell digits accepted))
        (signedAlike_respell digit _ announce)
      rw [same, read] at readAgain
      exact (Option.some.inj readAgain).symm
    apply decimal_of_one_frame
    rw [respelled _ digits_lower, respelled _ digits_upper]
  · intro decimal other otherAnnounce readOther verifiedOther alike
    have acceptedOther := (verify_eq_ok_iff keys otherAnnounce).mp verifiedOther
    have spelled := ((decodePeerId_eq_ok_iff _ _).mp accepted.peerId).2
    have spelledOther := ((decodePeerId_eq_ok_iff _ _).mp acceptedOther.peerId).2
    rw [alike.spki] at spelledOther
    have texts : otherAnnounce.providerPeerId = announce.providerPeerId := by
      apply utf8Bytes_injective
      rw [Hexadecimal.eq_encode _ spelled decimal, Hexadecimal.eq_encode _ spelledOther decimal]
    rw [<- encoded, <- (encode_of_decode readOther).1, alike.eq texts]

/-- The identity of the leaf key has letters, and its frame is not the only one. -/
theorem one_frame_iff_leaf :
    ¬ forall other otherAnnounce, HoldingsAnnounce.decode other = some otherAnnounce ->
      verifyHoldingsAnnounce (Example.keys Example.leafId Example.leafSignature) otherAnnounce =
        .ok () ->
      SignedAlike otherAnnounce (Example.announce Example.leafId Example.leafSigner) ->
      other = (Example.announce Example.leafId Example.leafSigner).encode := by
  intro only
  have decimal := (one_frame_iff (Example.keys Example.leafId Example.leafSignature)
    Example.decode_leaf Example.verify_leaf).mp only
  revert decimal
  decide

/-- Both cases of the leaf key's identity make an accepted frame. -/
theorem one_frame_fails :
    ¬ forall keys first second firstAnnounce secondAnnounce,
      HoldingsAnnounce.decode first = some firstAnnounce ->
      verifyHoldingsAnnounce keys firstAnnounce = .ok () ->
      HoldingsAnnounce.decode second = some secondAnnounce ->
      verifyHoldingsAnnounce keys secondAnnounce = .ok () ->
      SignedAlike firstAnnounce secondAnnounce -> first = second := by
  intro determined
  have accepted := (verify_eq_ok_iff _ _).mp Example.verify_leaf
  have readUpper := decode_respell digits_upper accepted (by decide) (by decide)
  have same := determined _ _ _ _ _ readUpper
    ((verify_eq_ok_iff _ _).mpr (accepted_respell digits_upper accepted)) Example.decode_leaf
    Example.verify_leaf (signedAlike_respell _ _ _)
  rw [same, Example.decode_leaf] at readUpper
  have decimal := @decimal_of_one_frame Example.leafId
    (Example.announce Example.leafId Example.leafSigner) (Option.some.inj readUpper)
  revert decimal
  decide

end Service
end DigGossip
