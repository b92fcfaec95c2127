import SiteFabric.Codec.Payloads
import SiteFabric.Controller.Process

/-! The messages a publisher and the controller exchange, and their codecs.
Each is written field by field and read in the same order to the end of the
payload. What a pair leaves out on both sides decodes without an error: the
sequence a heartbeat asks from comes back as zero. -/

namespace SiteFabric

open Lib Lib.Reader Canonical

namespace Protocol

structure HelloRequest where
  domain : MemberDomainKey := {}
  site : SiteId := {}
  incarnation : Incarnation := {}
  publisher : MemberId := {}
  observedEpoch : Epoch := {}
  schema : SchemaVersion := SchemaVersion.model
  resumeFrom : Generation := {}
deriving DecidableEq

structure HelloResponse where
  status : Status := .unknown
  site : SiteId := {}
  epoch : Epoch := {}
  controller : Incarnation := {}
  assignedSequence : UInt64 := 0
  currentGeneration : Generation := {}
  factors : Factors := {}
deriving DecidableEq

structure PublishRequest where
  declaration : MemberDomainDeclaration := {}
  attempt : PublishAttempt := {}
deriving DecidableEq

structure PublishResponse where
  status : Status := .unknown
  site : SiteId := {}
  epoch : Epoch := {}
  siteGeneration : Generation := {}
  acceptanceSequence : UInt64 := 0
  recomposed : Bool := false
  factors : Factors := {}
deriving DecidableEq

structure RetireRequestMessage where
  request : RetireRequest := {}
deriving DecidableEq

structure RetireResponse where
  status : Status := .unknown
  site : SiteId := {}
  epoch : Epoch := {}
  acceptanceSequence : UInt64 := 0
  factors : Factors := {}
deriving DecidableEq

/-- Sequence zero asks for the current snapshot. -/
structure FetchSiteRequest where
  site : SiteId := {}
  sequence : UInt64 := 0
  includeState : Bool := true
deriving DecidableEq

/-- Sequence zero asks for everything the controller currently holds. -/
structure HeartbeatRequest where
  domain : MemberDomainKey := {}
  site : SiteId := {}
  incarnation : Incarnation := {}
  observedEpoch : Epoch := {}
  sinceSequence : UInt64 := 0
deriving DecidableEq

structure HeartbeatResponse where
  status : Status := .unknown
  epoch : Epoch := {}
  siteGeneration : Generation := {}
  siteSequence : UInt64 := 0
  invalidated : List MemberDomainKey := []
  factors : Factors := {}
deriving DecidableEq

structure InvalidateNotice where
  site : SiteId := {}
  epoch : Epoch := {}
  sources : SourceSet := {}
  reason : Text := Text.empty
deriving DecidableEq

structure RevokeNotice where
  site : SiteId := {}
  epoch : Epoch := {}
  domain : MemberDomainKey := {}
  reason : Text := Text.empty
deriving DecidableEq

structure ErrorResponse where
  status : Status := .unknown
  detail : Text := Text.empty
  factors : Factors := {}
deriving DecidableEq

structure ShutdownRequest where
  site : SiteId := {}
  controller : Incarnation := {}
  reason : Text := Text.empty
deriving DecidableEq

structure ShutdownResponse where
  status : Status := .unknown
  factors : Factors := {}
deriving DecidableEq

structure PingMessage where
  nonce : UInt64 := 0
deriving DecidableEq

def HelloRequest.write (m : HelloRequest) : List UInt8 :=
  memberDomainKey m.domain ++ text m.site.value ++ Canonical.incarnation m.incarnation ++
    text m.publisher.value ++ epoch m.observedEpoch ++ Canonical.schema m.schema ++
    generation m.resumeFrom

def HelloResponse.write (m : HelloResponse) : List UInt8 :=
  tag m.status.ctorIdx ++ text m.site.value ++ Canonical.epoch m.epoch ++
    Canonical.incarnation m.controller ++ u64 m.assignedSequence ++
    generation m.currentGeneration ++ Canonical.factors m.factors

def PublishRequest.write (m : PublishRequest) : List UInt8 :=
  m.declaration.write ++ u64 m.attempt.sequence ++ u32 m.attempt.attempt

def PublishResponse.write (m : PublishResponse) : List UInt8 :=
  tag m.status.ctorIdx ++ text m.site.value ++ Canonical.epoch m.epoch ++
    generation m.siteGeneration ++ u64 m.acceptanceSequence ++ flag m.recomposed ++
    Canonical.factors m.factors

def RetireRequestMessage.write (m : RetireRequestMessage) : List UInt8 :=
  memberDomainKey m.request.domain ++ generation m.request.generation ++
    Canonical.incarnation m.request.incarnation ++ text m.request.reason

def RetireResponse.write (m : RetireResponse) : List UInt8 :=
  tag m.status.ctorIdx ++ text m.site.value ++ Canonical.epoch m.epoch ++
    u64 m.acceptanceSequence ++ Canonical.factors m.factors

def FetchSiteRequest.write (m : FetchSiteRequest) : List UInt8 :=
  text m.site.value ++ u64 m.sequence ++ flag m.includeState

/-- The sequence the caller last observed is not written. -/
def HeartbeatRequest.write (m : HeartbeatRequest) : List UInt8 :=
  memberDomainKey m.domain ++ text m.site.value ++ Canonical.incarnation m.incarnation ++
    epoch m.observedEpoch

def HeartbeatResponse.write (m : HeartbeatResponse) : List UInt8 :=
  tag m.status.ctorIdx ++ Canonical.epoch m.epoch ++ generation m.siteGeneration ++
    u64 m.siteSequence ++ list memberDomainKey m.invalidated ++ Canonical.factors m.factors

def InvalidateNotice.write (m : InvalidateNotice) : List UInt8 :=
  text m.site.value ++ Canonical.epoch m.epoch ++ sourceSet m.sources ++ text m.reason

def RevokeNotice.write (m : RevokeNotice) : List UInt8 :=
  text m.site.value ++ Canonical.epoch m.epoch ++ memberDomainKey m.domain ++ text m.reason

def ErrorResponse.write (m : ErrorResponse) : List UInt8 :=
  tag m.status.ctorIdx ++ text m.detail ++ Canonical.factors m.factors

def ShutdownRequest.write (m : ShutdownRequest) : List UInt8 :=
  text m.site.value ++ Canonical.incarnation m.controller ++ text m.reason

def ShutdownResponse.write (m : ShutdownResponse) : List UInt8 :=
  tag m.status.ctorIdx ++ Canonical.factors m.factors

def PingMessage.write (m : PingMessage) : List UInt8 := u64 m.nonce

/-- The messages but the one that carries a snapshot. -/
inductive MessageKind where
  | helloRequest | helloResponse | publishRequest | publishResponse | retireRequest
  | retireResponse | fetchSiteRequest | heartbeatRequest | heartbeatResponse | invalidateNotice
  | revokeNotice | errorResponse | shutdownRequest | shutdownResponse | ping
deriving DecidableEq

@[reducible] def MessageKind.Message : MessageKind → Type
  | .helloRequest => HelloRequest
  | .helloResponse => HelloResponse
  | .publishRequest => PublishRequest
  | .publishResponse => PublishResponse
  | .retireRequest => RetireRequestMessage
  | .retireResponse => RetireResponse
  | .fetchSiteRequest => FetchSiteRequest
  | .heartbeatRequest => HeartbeatRequest
  | .heartbeatResponse => HeartbeatResponse
  | .invalidateNotice => InvalidateNotice
  | .revokeNotice => RevokeNotice
  | .errorResponse => ErrorResponse
  | .shutdownRequest => ShutdownRequest
  | .shutdownResponse => ShutdownResponse
  | .ping => PingMessage

end Protocol

namespace Codec

open Lib.Codec Protocol

def helloRequest : Codec Protocol.HelloRequest :=
  (memberDomainKey.and <| (strongId .site).and <| incarnation.and <| (strongId .member).and <|
    epoch.and <| schema.and generation).record
    (fun (domain, site, incarnation, publisher, observedEpoch, schema, resumeFrom) =>
      { domain, site, incarnation, publisher, observedEpoch, schema, resumeFrom })
    (fun m => (m.domain, m.site, m.incarnation, m.publisher, m.observedEpoch, m.schema,
      m.resumeFrom))
    Protocol.HelloRequest.write (fun _ => rfl) fun _ => by
      unfold Protocol.HelloRequest.write
      simp only [List.append_assoc]
      rfl

def helloResponse : Codec Protocol.HelloResponse :=
  ((enum Status).and <| (strongId .site).and <| epoch.and <| incarnation.and <| u64.and <|
    generation.and factors).record
    (fun (status, site, epoch, controller, assignedSequence, currentGeneration, factors) =>
      { status, site, epoch, controller, assignedSequence, currentGeneration, factors })
    (fun m => (m.status, m.site, m.epoch, m.controller, m.assignedSequence, m.currentGeneration,
      m.factors))
    Protocol.HelloResponse.write (fun _ => rfl) fun _ => by
      unfold Protocol.HelloResponse.write
      simp only [List.append_assoc]
      rfl

def publishRequest : Codec PublishRequest :=
  (declaration.and <| u64.and u32).record
    (fun (declaration, sequence, attempt) => { declaration, attempt := { sequence, attempt } })
    (fun m => (m.declaration, m.attempt.sequence, m.attempt.attempt))
    PublishRequest.write (fun _ => rfl) fun _ => by
      unfold PublishRequest.write
      simp only [List.append_assoc]
      rfl

def publishResponse : Codec Protocol.PublishResponse :=
  ((enum Status).and <| (strongId .site).and <| epoch.and <| generation.and <| u64.and <|
    flag.and factors).record
    (fun (status, site, epoch, siteGeneration, acceptanceSequence, recomposed, factors) =>
      { status, site, epoch, siteGeneration, acceptanceSequence, recomposed, factors })
    (fun m => (m.status, m.site, m.epoch, m.siteGeneration, m.acceptanceSequence, m.recomposed,
      m.factors))
    Protocol.PublishResponse.write (fun _ => rfl) fun _ => by
      unfold Protocol.PublishResponse.write
      simp only [List.append_assoc]
      rfl

def retireRequest : Codec RetireRequestMessage :=
  (memberDomainKey.and <| generation.and <| incarnation.and (text Limits.maxTextBytes)).record
    (fun (domain, generation, incarnation, reason) =>
      { request := { domain, generation, incarnation, reason } })
    (fun m => (m.request.domain, m.request.generation, m.request.incarnation, m.request.reason))
    RetireRequestMessage.write (fun _ => rfl) fun _ => by
      unfold RetireRequestMessage.write
      simp only [List.append_assoc]
      rfl

def retireResponse : Codec Protocol.RetireResponse :=
  ((enum Status).and <| (strongId .site).and <| epoch.and <| u64.and factors).record
    (fun (status, site, epoch, acceptanceSequence, factors) =>
      { status, site, epoch, acceptanceSequence, factors })
    (fun m => (m.status, m.site, m.epoch, m.acceptanceSequence, m.factors))
    Protocol.RetireResponse.write (fun _ => rfl) fun _ => by
      unfold Protocol.RetireResponse.write
      simp only [List.append_assoc]
      rfl

def fetchSiteRequest : Codec FetchSiteRequest :=
  ((strongId .site).and <| u64.and flag).record
    (fun (site, sequence, includeState) => { site, sequence, includeState })
    (fun m => (m.site, m.sequence, m.includeState))
    FetchSiteRequest.write (fun _ => rfl) fun _ => by
      unfold FetchSiteRequest.write
      simp only [List.append_assoc]
      rfl

/-- The sequence is left as a new message has it. -/
def heartbeatRequest : Codec HeartbeatRequest :=
  (memberDomainKey.and <| (strongId .site).and <| incarnation.and epoch).record
    (fun (domain, site, incarnation, observedEpoch) =>
      { domain, site, incarnation, observedEpoch })
    (fun m => (m.domain, m.site, m.incarnation, m.observedEpoch))
    HeartbeatRequest.write (fun _ => rfl) fun _ => by
      unfold HeartbeatRequest.write
      simp only [List.append_assoc]
      rfl

def heartbeatResponse : Codec HeartbeatResponse :=
  ((enum Status).and <| epoch.and <| generation.and <| u64.and <|
    (list (Limits.maxMemberDomains + 1) memberDomainKey).and factors).record
    (fun (status, epoch, siteGeneration, siteSequence, invalidated, factors) =>
      { status, epoch, siteGeneration, siteSequence, invalidated, factors })
    (fun m => (m.status, m.epoch, m.siteGeneration, m.siteSequence, m.invalidated, m.factors))
    HeartbeatResponse.write (fun _ => rfl) fun _ => by
      unfold HeartbeatResponse.write
      simp only [List.append_assoc]
      rfl

def invalidateNotice : Codec InvalidateNotice :=
  ((strongId .site).and <| epoch.and <| sourceSet.and (text Limits.maxTextBytes)).record
    (fun (site, epoch, sources, reason) => { site, epoch, sources, reason })
    (fun m => (m.site, m.epoch, m.sources, m.reason))
    InvalidateNotice.write (fun _ => rfl) fun _ => by
      unfold InvalidateNotice.write
      simp only [List.append_assoc]
      rfl

def revokeNotice : Codec RevokeNotice :=
  ((strongId .site).and <| epoch.and <| memberDomainKey.and (text Limits.maxTextBytes)).record
    (fun (site, epoch, domain, reason) => { site, epoch, domain, reason })
    (fun m => (m.site, m.epoch, m.domain, m.reason))
    RevokeNotice.write (fun _ => rfl) fun _ => by
      unfold RevokeNotice.write
      simp only [List.append_assoc]
      rfl

def errorResponse : Codec ErrorResponse :=
  ((enum Status).and <| (text Limits.maxTextBytes).and factors).record
    (fun (status, detail, factors) => { status, detail, factors })
    (fun m => (m.status, m.detail, m.factors))
    ErrorResponse.write (fun _ => rfl) fun _ => by
      unfold ErrorResponse.write
      simp only [List.append_assoc]
      rfl

def shutdownRequest : Codec ShutdownRequest :=
  ((strongId .site).and <| incarnation.and (text Limits.maxTextBytes)).record
    (fun (site, controller, reason) => { site, controller, reason })
    (fun m => (m.site, m.controller, m.reason))
    ShutdownRequest.write (fun _ => rfl) fun _ => by
      unfold ShutdownRequest.write
      simp only [List.append_assoc]
      rfl

def shutdownResponse : Codec ShutdownResponse :=
  ((enum Status).and factors).record (fun (status, factors) => { status, factors })
    (fun m => (m.status, m.factors)) ShutdownResponse.write (fun _ => rfl) fun _ => rfl

def ping : Codec PingMessage :=
  u64.record (fun nonce => { nonce }) (fun m => m.nonce) PingMessage.write (fun _ => rfl)
    fun _ => rfl

theorem reason_returns : (text Limits.maxTextBytes).Returns := text_returns (Nat.le_refl _)

theorem helloRequest_returns : helloRequest.Returns :=
  .record <| memberDomainKey_returns.and <| strongId_returns.and <| incarnation_returns.and <|
    strongId_returns.and <| epoch_returns.and <| schema_returns.and generation_returns

theorem helloResponse_returns : helloResponse.Returns :=
  .record <| enum_returns.and <| strongId_returns.and <| epoch_returns.and <|
    incarnation_returns.and <| u64_returns.and <| generation_returns.and factors_returns

theorem publishRequest_returns : publishRequest.Returns :=
  .record <| declaration_returns.and <| u64_returns.and u32_returns

theorem publishResponse_returns : publishResponse.Returns :=
  .record <| enum_returns.and <| strongId_returns.and <| epoch_returns.and <|
    generation_returns.and <| u64_returns.and <| flag_returns.and factors_returns

theorem retireRequest_returns : retireRequest.Returns :=
  .record <| memberDomainKey_returns.and <| generation_returns.and <| incarnation_returns.and
    reason_returns

theorem retireResponse_returns : retireResponse.Returns :=
  .record <| enum_returns.and <| strongId_returns.and <| epoch_returns.and <| u64_returns.and
    factors_returns

theorem fetchSiteRequest_returns : fetchSiteRequest.Returns :=
  .record <| strongId_returns.and <| u64_returns.and flag_returns

theorem heartbeatRequest_returns : heartbeatRequest.Returns :=
  .record <| memberDomainKey_returns.and <| strongId_returns.and <| incarnation_returns.and
    epoch_returns

theorem heartbeatResponse_returns : heartbeatResponse.Returns :=
  .record <| enum_returns.and <| epoch_returns.and <| generation_returns.and <| u64_returns.and
    <| (list_returns memberDomainKey_returns (by decide)).and factors_returns

theorem invalidateNotice_returns : invalidateNotice.Returns :=
  .record <| strongId_returns.and <| epoch_returns.and <| sourceSet_returns.and reason_returns

theorem revokeNotice_returns : revokeNotice.Returns :=
  .record <| strongId_returns.and <| epoch_returns.and <| memberDomainKey_returns.and
    reason_returns

theorem errorResponse_returns : errorResponse.Returns :=
  .record <| enum_returns.and <| reason_returns.and factors_returns

theorem shutdownRequest_returns : shutdownRequest.Returns :=
  .record <| strongId_returns.and <| incarnation_returns.and reason_returns

theorem shutdownResponse_returns : shutdownResponse.Returns :=
  .record <| enum_returns.and factors_returns

theorem ping_returns : ping.Returns :=
  .record u64_returns

end Codec

namespace Protocol

def MessageKind.codec : (kind : MessageKind) → Codec kind.Message
  | .helloRequest => Codec.helloRequest
  | .helloResponse => Codec.helloResponse
  | .publishRequest => Codec.publishRequest
  | .publishResponse => Codec.publishResponse
  | .retireRequest => Codec.retireRequest
  | .retireResponse => Codec.retireResponse
  | .fetchSiteRequest => Codec.fetchSiteRequest
  | .heartbeatRequest => Codec.heartbeatRequest
  | .heartbeatResponse => Codec.heartbeatResponse
  | .invalidateNotice => Codec.invalidateNotice
  | .revokeNotice => Codec.revokeNotice
  | .errorResponse => Codec.errorResponse
  | .shutdownRequest => Codec.shutdownRequest
  | .shutdownResponse => Codec.shutdownResponse
  | .ping => Codec.ping

def encodeMessage (kind : MessageKind) (m : kind.Message) : List UInt8 := kind.codec.write m

/-- The fields in order, and nothing after them. -/
def decodeMessage (kind : MessageKind) (payload : List UInt8) : Except Fault kind.Message :=
  match (do let m ← kind.codec.read; CanonicalReader.finish; return m : Decoder kind.Message)
      payload with
  | .ok (m, _) => .ok m
  | .error fault => .error fault

theorem MessageKind.returns (kind : MessageKind) : kind.codec.Returns := by
  cases kind with
  | helloRequest => exact Codec.helloRequest_returns
  | helloResponse => exact Codec.helloResponse_returns
  | publishRequest => exact Codec.publishRequest_returns
  | publishResponse => exact Codec.publishResponse_returns
  | retireRequest => exact Codec.retireRequest_returns
  | retireResponse => exact Codec.retireResponse_returns
  | fetchSiteRequest => exact Codec.fetchSiteRequest_returns
  | heartbeatRequest => exact Codec.heartbeatRequest_returns
  | heartbeatResponse => exact Codec.heartbeatResponse_returns
  | invalidateNotice => exact Codec.invalidateNotice_returns
  | revokeNotice => exact Codec.revokeNotice_returns
  | errorResponse => exact Codec.errorResponse_returns
  | shutdownRequest => exact Codec.shutdownRequest_returns
  | shutdownResponse => exact Codec.shutdownResponse_returns
  | ping => exact Codec.ping_returns

theorem decode_encode {kind : MessageKind} {m : kind.Message}
    (readable : kind.codec.readable m = true) :
    decodeMessage kind (encodeMessage kind m) = .ok (kind.codec.stored m) := by
  have read := kind.returns m [] readable
  rw [List.append_nil] at read
  rw [decodeMessage, encodeMessage, run_bind read]
  rfl

end Protocol

end SiteFabric
