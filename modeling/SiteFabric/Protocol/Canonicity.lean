import SiteFabric.Codec.Exactness
import SiteFabric.Protocol.Messages

/-! Requests are spelled in one way.
What a request decoder accepts is what encoding the request gives, so two
payloads never decode to one request, and none continues another. Responses
carry factors, which a decoder drops above their bound. -/

namespace SiteFabric

open Lib Lib.Reader

namespace Codec

open Lib.Codec

theorem reason_exact : (text Limits.maxTextBytes).Exact := CanonicalReader.text_spells _

theorem memberDomainKey_exact : memberDomainKey.Exact := readMemberDomainKey_spells

theorem epoch_exact : epoch.Exact := CanonicalReader.epoch_spells

theorem incarnation_exact : incarnation.Exact := CanonicalReader.incarnation_spells

theorem helloRequest_exact : helloRequest.Exact :=
  .record <| memberDomainKey_exact.and <| strongId_exact.and <| incarnation_exact.and <|
    strongId_exact.and <| epoch_exact.and <| Exact.and CanonicalReader.schema_spells
    generation_exact

theorem publishRequest_exact : publishRequest.Exact :=
  .record <| declaration_exact.and <| Exact.and CanonicalReader.u64_spells
    CanonicalReader.u32_spells

theorem retireRequest_exact : retireRequest.Exact :=
  .record <| memberDomainKey_exact.and <| generation_exact.and <| incarnation_exact.and
    reason_exact

theorem fetchSiteRequest_exact : fetchSiteRequest.Exact :=
  .record <| strongId_exact.and <| Exact.and CanonicalReader.u64_spells
    CanonicalReader.flag_spells

theorem heartbeatRequest_exact : heartbeatRequest.Exact :=
  .record <| memberDomainKey_exact.and <| strongId_exact.and <| incarnation_exact.and epoch_exact

theorem revokeNotice_exact : revokeNotice.Exact :=
  .record <| strongId_exact.and <| epoch_exact.and <| memberDomainKey_exact.and reason_exact

theorem shutdownRequest_exact : shutdownRequest.Exact :=
  .record <| strongId_exact.and <| incarnation_exact.and reason_exact

theorem ping_exact : ping.Exact := .record CanonicalReader.u64_spells

end Codec

namespace Protocol

/-- The messages that ask for something: they carry no factors. -/
def MessageKind.asks : MessageKind → Bool
  | .helloRequest | .publishRequest | .retireRequest | .fetchSiteRequest | .heartbeatRequest
  | .revokeNotice | .shutdownRequest | .ping => true
  | .helloResponse | .publishResponse | .retireResponse | .heartbeatResponse
  | .invalidateNotice | .errorResponse | .shutdownResponse => false

theorem MessageKind.exact {kind : MessageKind} (asks : kind.asks = true) : kind.codec.Exact := by
  cases kind with
  | helloRequest => exact Codec.helloRequest_exact
  | publishRequest => exact Codec.publishRequest_exact
  | retireRequest => exact Codec.retireRequest_exact
  | fetchSiteRequest => exact Codec.fetchSiteRequest_exact
  | heartbeatRequest => exact Codec.heartbeatRequest_exact
  | revokeNotice => exact Codec.revokeNotice_exact
  | shutdownRequest => exact Codec.shutdownRequest_exact
  | ping => exact Codec.ping_exact
  | helloResponse | publishResponse | retireResponse | heartbeatResponse | invalidateNotice
  | errorResponse | shutdownResponse => cases asks

/-- A payload is accepted where its message is read and nothing follows. -/
theorem decodeMessage_ok_iff {kind : MessageKind} {payload : List UInt8} {m : kind.Message} :
    decodeMessage kind payload = .ok m ↔ kind.codec.read payload = .ok (m, []) := by
  constructor
  · intro decoded
    unfold decodeMessage at decoded
    split at decoded
    · next m' rest run =>
      obtain ⟨m', middle, read, finished⟩ := Reader.bind_ok run
      obtain ⟨_, last, ended, returned⟩ := Reader.bind_ok finished
      unfold CanonicalReader.finish at ended
      split at ended
      · next empty =>
        cases ended
        cases returned
        cases decoded
        rw [read, List.isEmpty_iff.mp empty]
      · cases ended
    · cases decoded
  · intro read
    rw [decodeMessage, run_bind read]
    rfl

section Requests

variable {kind : MessageKind} (asks : kind.asks = true) {payload : List UInt8} {m : kind.Message}
  (decoded : decodeMessage kind payload = .ok m)

include asks decoded

theorem encode_of_decode : encodeMessage kind m = payload := by
  have split := (MessageKind.exact asks).write_of_read (decodeMessage_ok_iff.mp decoded)
  rw [split, List.append_nil, encodeMessage]

/-- What follows an accepted payload makes it no payload. -/
theorem decode_longer {more : List UInt8} {m' : kind.Message}
    (decoded' : decodeMessage kind (payload ++ more) = .ok m') : more = [] := by
  have read := decodeMessage_ok_iff.mp decoded
  have again := kind.returns m more (kind.codec.yielded read).1
  rw [← encodeMessage, encode_of_decode asks decoded, decodeMessage_ok_iff.mp decoded'] at again
  exact (congrArg Prod.snd (Except.ok.inj again)).symm

end Requests

/-- A request decoder accepts one payload for each request, and none that
continues another; a declaration's digest is that of the bytes it was read from. -/
theorem request_decoder_is_canonical (kind : MessageKind) (asks : kind.asks = true) :
    (∀ payload m, decodeMessage kind payload = .ok m → encodeMessage kind m = payload) ∧
    (∀ payload payload' m m', decodeMessage kind payload = .ok m →
      decodeMessage kind payload' = .ok m' → payload <+: payload' → payload = payload') ∧
    (∀ payload payload' m m', decodeMessage kind payload = .ok m →
      decodeMessage kind payload' = .ok m' → payload ≠ payload' → m ≠ m') ∧
    ∀ input d rest, Codec.declaration.read input = .ok (d, rest) →
      ∃ used, input = used ++ rest ∧ d.digest = Sha256.digestBytes used := by
  refine ⟨fun payload m => encode_of_decode asks, ?_, ?_, fun input d rest => Codec.digest_of_read⟩
  · rintro payload _ m m' decoded decoded' ⟨more, rfl⟩
    rw [decode_longer asks decoded decoded', List.append_nil]
  · intro payload payload' m m' decoded decoded' apart same
    apply apart
    rw [← encode_of_decode asks decoded, ← encode_of_decode asks decoded', same]

theorem ping_is_canonical :
    MessageKind.asks .ping = true ∧
    decodeMessage .ping (encodeMessage .ping ⟨7⟩) = .ok ⟨7⟩ ∧
    (∀ payload m, decodeMessage .ping payload = .ok m → encodeMessage .ping m = payload) := by
  have asks : MessageKind.asks .ping = true := rfl
  exact ⟨asks, by decide, (request_decoder_is_canonical .ping asks).1⟩

end Protocol

end SiteFabric
