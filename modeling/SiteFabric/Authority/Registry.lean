import SiteFabric.Core.Generation
import SiteFabric.Lib.Maps
import SiteFabric.Lib.StdSort

/-! The authority registry: leases, epochs, member incarnations and fences.
One mutex guards every entry point, so a call is one atomic step on the
registry and the model passes the registry through it. Instants are 64-bit
signed words; `nowMs + ttlMs` wraps where the source leaves it undefined.
An entry point that writes an out parameter returns it beside the status. -/

namespace SiteFabric.Authority

open Std (ExtTreeMap ExtTreeSet)

inductive AuthorityKind where
  | unknown | siteController | memberPublisher | maintenanceOperator | observer
deriving DecidableEq, Inhabited

namespace AuthorityKind

def token : AuthorityKind → Text
  | .unknown => ascii "UNKNOWN"
  | .siteController => ascii "SITE_CONTROLLER"
  | .memberPublisher => ascii "MEMBER_PUBLISHER"
  | .maintenanceOperator => ascii "MAINTENANCE_OPERATOR"
  | .observer => ascii "OBSERVER"

def isValid : AuthorityKind → Bool
  | .unknown => false
  | _ => true

theorem slash_notMem_token (kind : AuthorityKind) : slash ∉ kind.token.bytes := by
  cases kind <;> decide

theorem token_injective : Function.Injective token := by
  intro a b same
  cases a <;> cases b <;> first | rfl | exact absurd same (by decide)

end AuthorityKind

inductive LeaseState where
  | unknown | active | expired | revoked | superseded
deriving DecidableEq, Inhabited

/-- A bearer token for one lease. -/
structure AuthorityToken where
  kind : AuthorityKind := .unknown
  holder : Text := Text.empty
  site : SiteId := {}
  epoch : Epoch := {}
  incarnation : Incarnation := {}
  generation : Generation := {}
  leaseId : UInt64 := 0
  issuedAtMs : Int64 := 0
  expiresAtMs : Int64 := 0
deriving DecidableEq, Inhabited

namespace AuthorityToken

def structurallyValid (t : AuthorityToken) : Bool :=
  if !t.kind.isValid || t.holder.isEmpty || !t.site.valid then false
  else if !t.epoch.isSet || !t.incarnation.valid then false
  else if t.leaseId == 0 || t.issuedAtMs ≤ 0 || t.expiresAtMs < t.issuedAtMs then false
  else true

def evaluateAt (t : AuthorityToken) (nowMs : Int64) : Status :=
  if !t.structurallyValid then .invalid
  else if nowMs < t.issuedAtMs then .leaseNotYetValid
  else if nowMs > t.expiresAtMs then .leaseExpired
  else .ok

def toText (t : AuthorityToken) : Text :=
  t.kind.token ++ ascii ":" ++ t.holder ++ ascii "@" ++ t.site.value ++
    ascii " epoch=" ++ t.epoch.toText ++ ascii " incarnation=" ++ t.incarnation.toText ++
    ascii " gen=" ++ t.generation.toText ++ ascii " lease=" ++ decimal t.leaseId.toNat ++
    ascii " until=" ++ signedDecimal t.expiresAtMs

end AuthorityToken

structure LeaseRecord where
  token : AuthorityToken := {}
  state : LeaseState := .unknown
  updatedAtMs : Int64 := 0
  renewals : UInt64 := 0
  note : Text := Text.empty
deriving DecidableEq, Inhabited

/-- What the registry believes about one member domain. -/
structure DomainState where
  live : Incarnation := {}
  hasLive : Bool := false
  nextSequence : UInt64 := 1
  observedEpoch : Epoch := {}
  generation : Generation := {}
  digest : Digest := Digest.zero
  attempt : PublishAttempt := {}
  published : Bool := false
  updatedAtMs : Int64 := 0
deriving DecidableEq, Inhabited

/-- The state of a domain once `candidate` is live in it. -/
def DomainState.goLive (state : DomainState) (candidate : Incarnation) (nowMs : Int64) :
    DomainState :=
  { state with
    live := candidate, hasLive := true, nextSequence := candidate.sequence + 1
    updatedAtMs := nowMs, published := false, generation := Generation.unset
    digest := Digest.zero, attempt := {} }

def leaseKey (site : SiteId) (kind : AuthorityKind) (holder : Text) : Text :=
  site.value ++ ⟨[slash]⟩ ++ kind.token ++ ⟨[slash]⟩ ++ holder

instance (priority := high) instTransCmpSiteId :
    Std.TransCmp (compare : SiteId → SiteId → Ordering) := inferInstance

structure Registry where
  leases : ExtTreeMap Text LeaseRecord compare := ∅
  siteEpochs : ExtTreeMap SiteId Epoch compare := ∅
  siteControllers : ExtTreeMap SiteId Text compare := ∅
  domains : ExtTreeMap MemberDomainKey DomainState compare := ∅
  tombstones : ExtTreeMap MemberDomainKey (ExtTreeSet Text compare) compare := ∅
  nextLeaseId : UInt64 := 1

structure AcquireRequest where
  holder : Text
  site : SiteId
  epoch : Epoch
  incarnation : Incarnation
  generation : Generation
  nowMs : Int64
  ttlMs : Int64

/-- A registry after an entry point ran, its status, and the token it wrote. -/
structure Reply where
  registry : Registry
  status : Status
  token : Option AuthorityToken := none

namespace AcquireRequest

def malformed (q : AcquireRequest) : Bool :=
  q.holder.isEmpty || !q.site.valid || !q.epoch.isSet || !q.incarnation.valid ||
    q.ttlMs ≤ 0 || q.nowMs ≤ 0

def key (q : AcquireRequest) : Text := leaseKey q.site .siteController q.holder

/-- The token of a new lease. -/
def token (q : AcquireRequest) (leaseId : UInt64) : AuthorityToken :=
  { kind := .siteController, holder := q.holder, site := q.site, epoch := q.epoch,
    incarnation := q.incarnation, generation := q.generation, leaseId := leaseId,
    issuedAtMs := q.nowMs, expiresAtMs := q.nowMs + q.ttlMs }

end AcquireRequest

namespace Registry

def initial : Registry := {}

def currentEpoch (r : Registry) (site : SiteId) : Epoch := (r.siteEpochs[site]?).getD Epoch.unset

/-- `known = epoch` of the acquisition, made before any later refusal. -/
def observeEpoch (r : Registry) (q : AcquireRequest) : Registry :=
  if r.currentEpoch q.site < q.epoch then
    { r with siteEpochs := r.siteEpochs.insert q.site q.epoch }
  else r

/-- The lease of a holder the registry has not seen for this site. -/
def grantNew (r : Registry) (q : AcquireRequest) : Reply :=
  let token := q.token r.nextLeaseId
  { registry :=
      { r with
        leases := r.leases.insert q.key { token, state := .active, updatedAtMs := q.nowMs }
        siteControllers := r.siteControllers.insert q.site q.key
        nextLeaseId := r.nextLeaseId + 1 }
    status := .granted
    token := some token }

def supersede (r : Registry) (current : Text) (other : LeaseRecord) (q : AcquireRequest) :
    Registry :=
  { r with
    leases := r.leases.insert current
      { other with
        state := .superseded, updatedAtMs := q.nowMs
        note := ascii "superseded by " ++ q.holder } }

/-- Acquisition by a holder with no lease for the site. -/
def acquireNew (r : Registry) (q : AcquireRequest) : Reply :=
  match r.siteControllers[q.site]? with
  | none => r.grantNew q
  | some current =>
    if current = q.key then r.grantNew q
    else
      match r.leases[current]? with
      | none => r.grantNew q
      | some other =>
        if other.state = .active ∧ other.token.expiresAtMs ≥ q.nowMs then
          ⟨r, .authorityHeldElsewhere, none⟩
        else if other.state = .revoked then ⟨r, .leaseRevoked, none⟩
        else if other.token.incarnation.sequence ≥ q.incarnation.sequence then
          ⟨r, .fencedIncarnation, none⟩
        else (r.supersede current other q).grantNew q

/-- The mark left on a holder's own lease when a later incarnation takes it. -/
def supersedeInPlace (record : LeaseRecord) (nowMs : Int64) : LeaseRecord :=
  { record with state := .superseded, updatedAtMs := nowMs, note := ascii "superseded in place" }

/-- The tail of a returning holder's acquisition, after the incarnation checks. -/
def regrant (r : Registry) (q : AcquireRequest) (record : LeaseRecord) : Reply :=
  if q.generation < record.token.generation then ⟨r, .fencedGeneration, none⟩
  else
    let token : AuthorityToken :=
      { record.token with
        epoch := q.epoch, incarnation := q.incarnation, generation := q.generation
        issuedAtMs := q.nowMs, expiresAtMs := q.nowMs + q.ttlMs }
    { registry :=
        { r with
          leases := r.leases.insert q.key
            { record with token, state := .active, updatedAtMs := q.nowMs }
          siteControllers := r.siteControllers.insert q.site q.key }
      status := .granted
      token := some token }

/-- Acquisition by a holder that already has a lease for the site. -/
def acquireReturning (r : Registry) (q : AcquireRequest) (record : LeaseRecord) : Reply :=
  if record.state = .revoked then ⟨r, .leaseRevoked, none⟩
  else if record.token.incarnation = q.incarnation then r.regrant q record
  else if record.state = .active ∧ record.token.expiresAtMs ≥ q.nowMs then
    ⟨r, .authorityHeldElsewhere, none⟩
  else if record.token.incarnation.sequence ≥ q.incarnation.sequence then
    ⟨r, .fencedIncarnation, none⟩
  else
    let marked := supersedeInPlace record q.nowMs
    { r with leases := r.leases.insert q.key marked }.regrant q marked

def acquireSiteAuthority (r : Registry) (q : AcquireRequest) : Reply :=
  if q.malformed then ⟨r, .invalid, none⟩
  else if (r.currentEpoch q.site).isSet ∧ q.epoch < r.currentEpoch q.site then
    ⟨r, .fencedEpoch, none⟩
  else
    let r := r.observeEpoch q
    match r.leases[q.key]? with
    | none => r.acquireNew q
    | some record => r.acquireReturning q record

def renew (r : Registry) (t : AuthorityToken) (nowMs ttlMs : Int64) : Reply :=
  if !t.structurallyValid || ttlMs ≤ 0 || nowMs ≤ 0 then ⟨r, .invalid, none⟩
  else if (r.siteEpochs[t.site]?).any (t.epoch < ·) then ⟨r, .fencedEpoch, none⟩
  else
    let key := leaseKey t.site t.kind t.holder
    match r.leases[key]? with
    | none => ⟨r, .unauthorized, none⟩
    | some record =>
      if record.token.leaseId ≠ t.leaseId then ⟨r, .unauthorized, none⟩
      else if record.token.incarnation ≠ t.incarnation then ⟨r, .fencedIncarnation, none⟩
      else if record.token.generation ≠ t.generation then ⟨r, .fencedGeneration, none⟩
      else if record.state = .revoked then ⟨r, .leaseRevoked, none⟩
      else
        match record.token.evaluateAt nowMs with
        | .leaseExpired =>
          ⟨{ r with
              leases := r.leases.insert key
                { record with state := .expired, updatedAtMs := nowMs } },
            .leaseExpired, none⟩
        | .ok =>
          let token : AuthorityToken :=
            { record.token with expiresAtMs := nowMs + ttlMs, issuedAtMs := nowMs }
          ⟨{ r with
              leases := r.leases.insert key
                { record with
                  token, state := .active, updatedAtMs := nowMs
                  renewals := record.renewals + 1 } },
            .renewed, some token⟩
        | outcome => ⟨r, outcome, none⟩

def revoke (r : Registry) (t : AuthorityToken) (nowMs : Int64) (note : Text) : Reply :=
  if !t.structurallyValid then ⟨r, .invalid, none⟩
  else
    let key := leaseKey t.site t.kind t.holder
    match r.leases[key]? with
    | none => ⟨r, .notFound, none⟩
    | some record =>
      if record.token.leaseId ≠ t.leaseId then ⟨r, .unauthorized, none⟩
      else
        ⟨{ r with
            leases := r.leases.insert key
              { record with state := .revoked, updatedAtMs := nowMs, note } },
          .ok, none⟩

def validate (r : Registry) (t : AuthorityToken) (nowMs : Int64) : Status :=
  if !t.structurallyValid then .invalid
  else
    match r.siteEpochs[t.site]? with
    | none => .unauthorized
    | some known =>
      if t.epoch < known then .fencedEpoch
      else if t.epoch > known then .unauthorized
      else
        match r.leases[leaseKey t.site t.kind t.holder]? with
        | none => .unauthorized
        | some record =>
          if record.token.leaseId ≠ t.leaseId then .unauthorized
          else if record.token.incarnation ≠ t.incarnation then .fencedIncarnation
          else if t.generation < record.token.generation then .fencedGeneration
          else if record.state = .revoked then .leaseRevoked
          else if record.state = .superseded then .authorityHeldElsewhere
          else record.token.evaluateAt nowMs

def currentController (r : Registry) (site : SiteId) : Option AuthorityToken :=
  match r.siteControllers[site]? with
  | none => none
  | some key => (r.leases[key]?).map (·.token)

/-- `leases()`: every lease on file, ordered by the text of its token. -/
def leaseList [Lib.StdSort] (r : Registry) : List LeaseRecord :=
  Lib.sort (Lib.byKey fun record => record.token.toText) (r.leases.toList.map Prod.snd)

def domainState (r : Registry) (domain : MemberDomainKey) : DomainState :=
  (r.domains[domain]?).getD {}

def tombstoned (r : Registry) (domain : MemberDomainKey) (incarnation : Incarnation) : Bool :=
  (r.tombstones[domain]?).any (·.contains incarnation.toText)

def bury (r : Registry) (domain : MemberDomainKey) (incarnation : Incarnation) : Registry :=
  { r with
    tombstones := r.tombstones.insert domain
      (((r.tombstones[domain]?).getD ∅).insert incarnation.toText) }

/-- The incarnation an admission is about: a zero sequence asks for the next. -/
def candidate (r : Registry) (domain : MemberDomainKey) (incarnation : Incarnation) :
    Incarnation :=
  if incarnation.sequence = 0 then
    { incarnation with sequence := (r.domainState domain).nextSequence }
  else incarnation

/-- `admit_member_incarnation`, returning the registry, the status and the
sequence written to the out parameter. The domain's entry is created first, so
every exit after the argument check leaves one behind. -/
def admitMemberIncarnation (r : Registry) (domain : MemberDomainKey) (incarnation : Incarnation)
    (nowMs : Int64) : Registry × Status × Option UInt64 :=
  if !domain.valid || !incarnation.boot.valid || nowMs ≤ 0 then (r, .invalid, none)
  else
    let state := r.domainState domain
    let chosen := r.candidate domain incarnation
    let r := { r with domains := r.domains.insert domain state }
    let admitted := { r with domains := r.domains.insert domain (state.goLive chosen nowMs) }
    if r.tombstoned domain chosen then (r, .fencedIncarnation, none)
    else if !state.hasLive then
      if chosen.sequence < state.nextSequence then (r, .fencedIncarnation, none)
      else (admitted, .ok, some chosen.sequence)
    else if state.live = chosen then (r, .alreadyExists, some chosen.sequence)
    else if chosen.sequence < state.live.sequence then (r, .fencedIncarnation, none)
    else if chosen.sequence = state.live.sequence then (r, .fencedIncarnation, none)
    else (admitted.bury domain state.live, .ok, some chosen.sequence)

def retireMemberIncarnation (r : Registry) (domain : MemberDomainKey) (incarnation : Incarnation)
    (nowMs : Int64) : Registry × Status :=
  if !domain.valid || !incarnation.valid then (r, .invalid)
  else
    let r := r.bury domain incarnation
    match r.domains[domain]? with
    | none => (r, .ok)
    | some state =>
      if state.hasLive ∧ state.live = incarnation then
        ({ r with
            domains := r.domains.insert domain
              { state with hasLive := false, updatedAtMs := nowMs } }, .ok)
      else (r, .ok)

def memberIncarnationLive (r : Registry) (domain : MemberDomainKey) (incarnation : Incarnation) :
    Bool :=
  !r.tombstoned domain incarnation &&
    (r.domains[domain]?).any fun state => state.hasLive && state.live == incarnation

def nextMemberSequence (r : Registry) (domain : MemberDomainKey) : UInt64 :=
  (r.domainState domain).nextSequence

/-- One publication as the fences see it. -/
structure Offer where
  domain : MemberDomainKey
  epoch : Epoch
  incarnation : Incarnation
  generation : Generation
  digest : Digest
  attempt : PublishAttempt
deriving DecidableEq

/-- The high-water marks of a published domain against one offer. -/
def fencePublished (state : DomainState) (o : Offer) : Status :=
  if o.generation < state.generation then .fencedGeneration
  else if o.generation = state.generation ∧ o.digest ≠ state.digest then .fencedGeneration
  else if o.generation = state.generation ∧ o.attempt.sequence < state.attempt.sequence then
    .replayed
  else if o.generation = state.generation ∧ o.attempt.sequence = state.attempt.sequence ∧
      o.attempt.attempt ≤ state.attempt.attempt then .fencedAttempt
  else if o.attempt.sequence ≠ 0 ∧ o.attempt.sequence < state.attempt.sequence then .replayed
  else .ok

def fencePublication (r : Registry) (o : Offer) : Status :=
  if !o.domain.valid || !o.generation.isSet || o.digest.isZero || !o.attempt.valid then .invalid
  else if r.tombstoned o.domain o.incarnation then .fencedIncarnation
  else
    match r.domains[o.domain]? with
    | none => .unauthorized
    | some state =>
      if !state.hasLive then .unauthorized
      else if state.live ≠ o.incarnation then .fencedIncarnation
      else if state.observedEpoch.isSet ∧ o.epoch < state.observedEpoch then .fencedEpoch
      else if state.published then fencePublished state o
      else .ok

def recordPublication (r : Registry) (o : Offer) (nowMs : Int64) : Registry × Status :=
  if !o.domain.valid || !o.generation.isSet || o.digest.isZero then (r, .invalid)
  else
    ({ r with
        domains := r.domains.insert o.domain
          { r.domainState o.domain with
            observedEpoch := o.epoch, generation := o.generation, digest := o.digest
            attempt := o.attempt, published := true, updatedAtMs := nowMs } }, .ok)

def clearDomain (r : Registry) (domain : MemberDomainKey) : Registry :=
  { r with domains := r.domains.erase domain }

end Registry

end SiteFabric.Authority
