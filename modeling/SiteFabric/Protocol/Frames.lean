import SiteFabric.Store.Exactness

/-! Frames.
A frame is a header of 48 bytes and a payload: magic, version, type, flags, the length
of the payload and its digest. A header is spelled in one way, so what is accepted is
what encoding it gives. The encoder takes every type but UNKNOWN, the decoder the types
up to PONG. -/

namespace SiteFabric

namespace Limits

def maxFrameBytes : Nat := 4 * 1024 * 1024

end Limits

namespace Protocol

open Store (getU16 getU32 putU16 getU16_putU16 getU32_u32 u32_getU32 putU16_getU16)

/-- The letters SFAB, the last one first. -/
def frameMagic : UInt32 := 0x53464142

def wireProtocolVersion : UInt16 := 1

def frameHeaderBytes : Nat := 48

/-- An enumeration over 16 bits: any of its values can be made from a number. -/
structure MessageType where
  code : UInt16
deriving DecidableEq

namespace MessageType

def unknown : MessageType := ⟨0⟩
def ping : MessageType := ⟨16⟩
def pong : MessageType := ⟨17⟩

def isKnown (type : MessageType) : Bool := type != unknown

end MessageType

structure FrameHeader where
  protocolVersion : UInt16
  type : MessageType
  flags : UInt32
  payloadBytes : UInt32
  payloadDigest : Digest

/-- The fields of a header before the digest. -/
def frameFront (version : UInt16) (type : MessageType) (flags payloadBytes : UInt32) : List UInt8 :=
  Canonical.u32 frameMagic ++ putU16 version ++ putU16 type.code ++ Canonical.u32 flags ++
    Canonical.u32 payloadBytes

def encodeFrame (type : MessageType) (payload : List UInt8) (flags : UInt32) :
    Except Status (List UInt8) :=
  if !type.isKnown then .error .unsupported
  else if payload.length > Limits.maxFrameBytes then .error .limitExceeded
  else
    .ok (frameFront wireProtocolVersion type flags (UInt32.ofNat payload.length) ++
      (Sha256.digestBytes payload).bytes ++ payload)

def decodeFrameHeader (headerBytes : List UInt8) : Except Status FrameHeader :=
  if size : headerBytes.length ≠ frameHeaderBytes then .error .truncated
  else if getU32 headerBytes ≠ frameMagic then .error .malformed
  else
    let version := getU16 (headerBytes.drop 4)
    let type := getU16 (headerBytes.drop 6)
    let payloadBytes := getU32 (headerBytes.drop 12)
    if version ≠ wireProtocolVersion then .error .unsupportedFormat
    else if type = 0 ∨ type > MessageType.pong.code then .error .unsupported
    else if payloadBytes.toNat > Limits.maxFrameBytes then .error .limitExceeded
    else
      .ok
        { protocolVersion := version
          type := ⟨type⟩
          flags := getU32 (headerBytes.drop 8)
          payloadBytes
          payloadDigest := ⟨(headerBytes.drop 16).take 32, by
            have length : headerBytes.length = 48 := not_not.mp size
            simp [length]⟩ }

def verifyPayload (header : FrameHeader) (payload : List UInt8) : Status :=
  if payload.length ≠ header.payloadBytes.toNat then .truncated
  else if Sha256.digestBytes payload ≠ header.payloadDigest then .integrityFailure
  else .ok

/-- A header that the decoder takes. -/
structure FrameHeader.Valid (h : FrameHeader) : Prop where
  version : h.protocolVersion = wireProtocolVersion
  type : h.type.code ≠ 0 ∧ h.type.code ≤ MessageType.pong.code
  length : h.payloadBytes.toNat ≤ Limits.maxFrameBytes

def FrameHeader.bytes (h : FrameHeader) : List UInt8 :=
  frameFront h.protocolVersion h.type h.flags h.payloadBytes ++ h.payloadDigest.bytes

theorem FrameHeader.length_bytes (h : FrameHeader) : h.bytes.length = frameHeaderBytes := by
  rw [bytes, List.length_append, h.payloadDigest.size]
  rfl

/-- Sixteen bytes are spelled by the five numbers read off them. -/
theorem frameFront_read {data : List UInt8} (sixteen : 16 ≤ data.length)
    (magic : getU32 data = frameMagic) :
    frameFront (getU16 (data.drop 4)) ⟨getU16 (data.drop 6)⟩ (getU32 (data.drop 8))
      (getU32 (data.drop 12)) = data.take 16 := by
  rw [frameFront, ← magic, u32_getU32 (by omega), putU16_getU16 (by simp; omega),
    putU16_getU16 (by simp; omega), u32_getU32 (by simp; omega), u32_getU32 (by simp; omega)]
  have four : data.take 6 = _ := List.take_add (i := 4) (j := 2)
  have six : data.take 8 = _ := List.take_add (i := 6) (j := 2)
  have eight : data.take 12 = _ := List.take_add (i := 8) (j := 4)
  have twelve : data.take 16 = _ := List.take_add (i := 12) (j := 4)
  rw [twelve, eight, six, four]

/-- The bytes of a header are taken exactly when it is valid, and no other bytes for it. -/
theorem decodeFrameHeader_iff {headerBytes : List UInt8} {h : FrameHeader} :
    decodeFrameHeader headerBytes = .ok h ↔ h.bytes = headerBytes ∧ h.Valid := by
  constructor
  · intro decoded
    unfold decodeFrameHeader at decoded
    dsimp only at decoded
    split_ifs at decoded with size magic version type length
    have exactly : headerBytes.length = 48 := not_not.mp size
    cases decoded
    refine ⟨?_, not_not.mp version, ?_, Nat.not_lt.mp length⟩
    · have rest : (headerBytes.drop 16).take 32 = headerBytes.drop 16 :=
        List.take_of_length_le (by simp [exactly])
      simp only [FrameHeader.bytes]
      rw [frameFront_read (by omega) (not_not.mp magic), rest, List.take_append_drop]
    · exact ⟨fun zero => type (.inl zero), UInt16.not_lt.mp fun above => type (.inr above)⟩
  · rintro ⟨rfl, version, type, length⟩
    have magic : getU32 h.bytes = frameMagic := by
      simp only [FrameHeader.bytes, frameFront, List.append_assoc]
      exact getU32_u32 _ _
    have four : getU16 (h.bytes.drop 4) = h.protocolVersion := by
      simp only [FrameHeader.bytes, frameFront, List.append_assoc]
      exact getU16_putU16 _ _
    have six : getU16 (h.bytes.drop 6) = h.type.code := by
      simp only [FrameHeader.bytes, frameFront, List.append_assoc]
      exact getU16_putU16 _ _
    have eight : getU32 (h.bytes.drop 8) = h.flags := by
      simp only [FrameHeader.bytes, frameFront, List.append_assoc]
      exact getU32_u32 _ _
    have twelve : getU32 (h.bytes.drop 12) = h.payloadBytes := by
      simp only [FrameHeader.bytes, frameFront, List.append_assoc]
      exact getU32_u32 _ _
    have digest : (h.bytes.drop 16).take 32 = h.payloadDigest.bytes := by
      have tail : h.bytes.drop 16 = h.payloadDigest.bytes := rfl
      rw [tail, List.take_of_length_le h.payloadDigest.size.le]
    unfold decodeFrameHeader
    rw [dif_neg (not_not.mpr h.length_bytes), if_neg (not_not.mpr magic)]
    simp only [four, six, eight, twelve, digest]
    rw [if_neg (not_not.mpr version), if_neg (not_or.mpr ⟨type.1, UInt16.not_lt.mpr type.2⟩),
      if_neg (Nat.not_lt.mpr length)]

/-- The header a frame is given. -/
def FrameHeader.of (type : MessageType) (payload : List UInt8) (flags : UInt32) : FrameHeader where
  protocolVersion := wireProtocolVersion
  type
  flags
  payloadBytes := UInt32.ofNat payload.length
  payloadDigest := Sha256.digestBytes payload

theorem encodeFrame_ok {type : MessageType} {payload : List UInt8} (known : type.isKnown = true)
    (fits : payload.length ≤ Limits.maxFrameBytes) (flags : UInt32) :
    encodeFrame type payload flags = .ok ((FrameHeader.of type payload flags).bytes ++ payload) := by
  rw [encodeFrame, known, if_neg (by decide), if_neg (Nat.not_lt.mpr fits)]
  rfl

theorem toNat_payloadBytes {payload : List UInt8} (fits : payload.length ≤ Limits.maxFrameBytes) :
    (UInt32.ofNat payload.length).toNat = payload.length := by
  have bound : Limits.maxFrameBytes < 2 ^ 32 := by decide
  rw [UInt32.toNat_ofNat']
  exact Nat.mod_eq_of_lt (by omega)

/-- A frame comes back as it was sent. -/
def RoundTrips (type : MessageType) (flags : UInt32) (payload : List UInt8) : Prop :=
  ∃ frame header, encodeFrame type payload flags = .ok frame ∧
    decodeFrameHeader (frame.take frameHeaderBytes) = .ok header ∧ header.type = type ∧
    header.flags = flags ∧ header.payloadBytes.toNat = payload.length ∧
    verifyPayload header (frame.drop frameHeaderBytes) = .ok

theorem isKnown_iff {type : MessageType} : type.isKnown = true ↔ type.code ≠ 0 := by
  rw [MessageType.isKnown, bne_iff_ne, ne_eq, ne_eq, not_iff_not]
  exact ⟨fun same => same ▸ rfl, fun zero => congrArg MessageType.mk zero⟩

theorem roundTrips_iff {type : MessageType} {payload : List UInt8} (known : type.isKnown = true)
    (fits : payload.length ≤ Limits.maxFrameBytes) (flags : UInt32) :
    RoundTrips type flags payload ↔ type.code ≤ MessageType.pong.code := by
  have length := (FrameHeader.of type payload flags).length_bytes
  have encoded := encodeFrame_ok known fits flags
  constructor
  · rintro ⟨frame, header, sent, decoded, same, -⟩
    rw [← same]
    exact (decodeFrameHeader_iff.mp decoded).2.type.2
  · intro low
    have valid : (FrameHeader.of type payload flags).Valid :=
      ⟨rfl, ⟨isKnown_iff.mp known, low⟩, (toNat_payloadBytes fits).le.trans fits⟩
    refine ⟨_, FrameHeader.of type payload flags, encoded, ?_, rfl, rfl, toNat_payloadBytes fits, ?_⟩
    · rw [List.take_left' length]
      exact decodeFrameHeader_iff.mpr ⟨rfl, valid⟩
    · rw [List.drop_left' length, verifyPayload, if_neg, if_neg]
      · exact not_not.mpr rfl
      · exact not_not.mpr (toNat_payloadBytes fits).symm

/-- What is accepted is what encoding it gives. -/
theorem encodeFrame_of_accepted {headerBytes payload : List UInt8} {header : FrameHeader}
    (decoded : decodeFrameHeader headerBytes = .ok header)
    (verified : verifyPayload header payload = .ok) :
    encodeFrame header.type payload header.flags = .ok (headerBytes ++ payload) := by
  obtain ⟨rfl, version, type, length⟩ := decodeFrameHeader_iff.mp decoded
  unfold verifyPayload at verified
  split_ifs at verified with size digest
  have sized : payload.length = header.payloadBytes.toNat := not_not.mp size
  have same : FrameHeader.of header.type payload header.flags = header := by
    obtain ⟨_, _, _, _, _⟩ := header
    simp only [FrameHeader.of, FrameHeader.mk.injEq, true_and]
    exact ⟨version.symm, by rw [sized, UInt32.ofNat_toNat], not_not.mp digest⟩
  rw [encodeFrame_ok (isKnown_iff.mpr type.1) (sized.le.trans length), same]

/-- A known type survives framing exactly when it is not above PONG; what is accepted
encodes to the same bytes and is of bounded length. -/
theorem framing_lossless_iff {type : MessageType} {payload : List UInt8}
    (known : type.isKnown = true) (fits : payload.length ≤ Limits.maxFrameBytes) (flags : UInt32) :
    (RoundTrips type flags payload ↔ type.code ≤ MessageType.pong.code) ∧
      (∀ (headerBytes payload : List UInt8) (header : FrameHeader),
        decodeFrameHeader headerBytes = .ok header → verifyPayload header payload = .ok →
          encodeFrame header.type payload header.flags = .ok (headerBytes ++ payload)) ∧
      ∀ (headerBytes : List UInt8) (header : FrameHeader),
        decodeFrameHeader headerBytes = .ok header →
          header.payloadBytes.toNat ≤ Limits.maxFrameBytes :=
  ⟨roundTrips_iff known fits flags, fun _ _ _ => encodeFrame_of_accepted,
    fun _ _ decoded => (decodeFrameHeader_iff.mp decoded).2.length⟩

theorem ping_round_trips : RoundTrips .ping 0 [1, 2, 3, 4, 5] :=
  (framing_lossless_iff (by decide) (by decide) 0).1.mpr (by decide)

/-- The type behind PONG is encoded, and no decoder takes the frame. -/
theorem next_type_is_lost :
    (⟨18⟩ : MessageType).isKnown = true ∧ ([] : List UInt8).length ≤ Limits.maxFrameBytes ∧
      ¬ RoundTrips ⟨18⟩ 0 [] :=
  ⟨by decide, by decide, fun trips => by
    have low := (roundTrips_iff (by decide) (by decide) 0).mp trips
    exact absurd low (by decide)⟩

end Protocol

end SiteFabric
