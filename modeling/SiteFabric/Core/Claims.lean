import SiteFabric.Core.Capacity

/-! Evidence and the nine kinds of claim a member domain makes.
Each claim has an encoder, and its digest is the hash of that encoding; the
claim's own record digest and its evidence source are left out of it. -/

namespace SiteFabric

namespace Limits

def maxEvidenceTtlMs : UInt64 := 604800000

def maxCountValue : UInt64 := 1000000000

end Limits

inductive Provenance where
  | unknown | measured | reported | derived | estimated | synthetic | reconstructed
deriving DecidableEq, Inhabited

inductive EvidenceState where
  | unknown | fresh | stale | future | invalid | syntheticOnly | reconstructedNeedsRevalidation
deriving DecidableEq, Inhabited

def EvidenceState.token : EvidenceState → Text
  | .unknown => ascii "UNKNOWN"
  | .fresh => ascii "FRESH"
  | .stale => ascii "STALE"
  | .future => ascii "FUTURE"
  | .invalid => ascii "INVALID"
  | .syntheticOnly => ascii "SYNTHETIC_ONLY"
  | .reconstructedNeedsRevalidation => ascii "RECONSTRUCTED_NEEDS_REVALIDATION"

structure Evidence where
  provenance : Provenance := .unknown
  observedAtMs : Int64 := 0
  ttlMs : UInt64 := 0
  source : SourceRef := {}
  payloadDigest : Digest := Digest.zero
deriving DecidableEq, Inhabited

namespace Evidence

def futureSkewMs : Int64 := 5000

/-- Freshness at an instant. Sums of instants wrap. -/
def evaluate (e : Evidence) (nowMs : Int64) : EvidenceState :=
  if e.provenance = .unknown then .unknown
  else if e.observedAtMs ≤ 0 ∨ e.ttlMs = 0 ∨ e.ttlMs > Limits.maxEvidenceTtlMs then .invalid
  else if e.observedAtMs > nowMs + futureSkewMs then .future
  else if e.provenance = .synthetic then .syntheticOnly
  else if e.provenance = .reconstructed then .reconstructedNeedsRevalidation
  else if e.observedAtMs + e.ttlMs.toInt64 < nowMs then .stale
  else .fresh

/-- `validate_evidence`, where no payload is required. -/
def check (e : Evidence) : Except Status Unit :=
  if e.provenance = .unknown then .error .evidenceMissing
  else if e.observedAtMs ≤ 0 then .error .invalid
  else if e.ttlMs = 0 ∨ e.ttlMs > Limits.maxEvidenceTtlMs then .error .invalid
  else .ok ()

def write (e : Evidence) : List UInt8 :=
  Canonical.tag e.provenance.ctorIdx ++ Canonical.i64 e.observedAtMs ++ Canonical.u64 e.ttlMs ++
    Canonical.digest e.payloadDigest

end Evidence

inductive ConnectivityState where
  | unknown | up | down | degraded
deriving DecidableEq, Inhabited

inductive FailureDomainClass where
  | unknown | physical | administrative
deriving DecidableEq, Inhabited

inductive MaintenanceState where
  | unknown | scheduled | active | complete | cancelled
deriving DecidableEq, Inhabited

def MaintenanceState.excludesCapacity (state : MaintenanceState) : Bool := state == .active

inductive ObligationKind where
  | unknown | minIngressCapacity | minEgressCapacity | minInternalCapacity
  | minDistinctFailureDomains | minUpSharedLinks | minUpGateways | domainSurvivability
deriving DecidableEq, Inhabited

namespace ObligationKind

def isValid : ObligationKind → Bool
  | .unknown => false
  | _ => true

def isCount : ObligationKind → Bool
  | .minDistinctFailureDomains | .minUpSharedLinks | .minUpGateways | .domainSurvivability => true
  | _ => false

def channel : ObligationKind → CapacityChannel
  | .minIngressCapacity => .ingress
  | .minEgressCapacity => .egress
  | .minInternalCapacity => .internal
  | _ => .unknown

end ObligationKind

structure RackClaim where
  id : RackId := {}
  generation : Generation := {}
  recordDigest : Digest := Digest.zero
  localCapacity : CapacityVector := {}
  uplink : ConnectivityState := .unknown
  evidence : Evidence := {}
deriving DecidableEq, Inhabited

structure PodClaim where
  id : PodId := {}
  generation : Generation := {}
  recordDigest : Digest := Digest.zero
  racks : List RackId := []
  evidence : Evidence := {}
deriving DecidableEq, Inhabited

structure ClusterClaim where
  id : ClusterId := {}
  generation : Generation := {}
  recordDigest : Digest := Digest.zero
  pods : List PodId := []
  racks : List RackId := []
  evidence : Evidence := {}
deriving DecidableEq, Inhabited

/-- A link is external when it leaves the site. -/
structure SharedLinkClaim where
  id : LinkId := {}
  external : Bool := false
  generation : Generation := {}
  recordDigest : Digest := Digest.zero
  capacity : CapacityVector := {}
  state : ConnectivityState := .unknown
  evidence : Evidence := {}
deriving DecidableEq, Inhabited

structure GatewayClaim where
  id : GatewayId := {}
  generation : Generation := {}
  recordDigest : Digest := Digest.zero
  capacity : CapacityVector := {}
  state : ConnectivityState := .unknown
  evidence : Evidence := {}
deriving DecidableEq, Inhabited

/-- Capacity under an owner key of any kind. -/
structure CapacityContribution where
  owner : ResourceKey := {}
  scope : CapacityScope := .unknown
  generation : Generation := {}
  recordDigest : Digest := Digest.zero
  capacity : CapacityVector := {}
  evidence : Evidence := {}
deriving DecidableEq, Inhabited

structure FailureDomainClaim where
  id : FailureDomainId := {}
  domainClass : FailureDomainClass := .unknown
  parent : Option FailureDomainId := none
  members : List ResourceKey := []
  generation : Generation := {}
  recordDigest : Digest := Digest.zero
  evidence : Evidence := {}
deriving DecidableEq, Inhabited

structure MaintenanceZone where
  id : MaintenanceZoneId := {}
  state : MaintenanceState := .unknown
  windowStartMs : Int64 := 0
  windowEndMs : Int64 := 0
  domains : List FailureDomainId := []
  resources : List ResourceKey := []
  generation : Generation := {}
  recordDigest : Digest := Digest.zero
  evidence : Evidence := {}
deriving DecidableEq, Inhabited

structure ProtectedObligation where
  id : ObligationId := {}
  kind : ObligationKind := .unknown
  scopeDomain : Option FailureDomainId := none
  scopeResource : Option ResourceKey := none
  required : UInt64 := 0
  protectedFromMaintenance : Bool := true
  generation : Generation := {}
  recordDigest : Digest := Digest.zero
  evidence : Evidence := {}
deriving DecidableEq, Inhabited

def FailureDomainClaim.valid (claim : FailureDomainClaim) : Bool :=
  claim.id.valid && claim.domainClass != .unknown && claim.generation.isSet &&
    claim.parent.all (fun parent => parent.valid && parent != claim.id) &&
    claim.members.all (·.valid)

namespace MaintenanceZone

def valid (zone : MaintenanceZone) : Bool :=
  zone.id.valid && zone.generation.isSet && !decide (zone.windowEndMs < zone.windowStartMs) &&
    zone.domains.all (·.valid) && zone.resources.all (·.valid)

def windowContains (zone : MaintenanceZone) (nowMs : Int64) : Bool :=
  if zone.windowStartMs = 0 ∧ zone.windowEndMs = 0 then true
  else decide (nowMs ≥ zone.windowStartMs) && decide (nowMs ≤ zone.windowEndMs)

end MaintenanceZone

def ProtectedObligation.valid (claim : ProtectedObligation) : Bool :=
  claim.id.valid && claim.kind.isValid && claim.generation.isSet &&
    claim.scopeDomain.all (·.valid) && claim.scopeResource.all (·.valid) &&
    decide (claim.required ≤
      if claim.kind.isCount then Limits.maxCountValue else Limits.maxCapacityBps)

open Canonical

def RackClaim.write (claim : RackClaim) : List UInt8 :=
  text claim.id.value ++ Canonical.generation claim.generation ++ claim.localCapacity.write ++
    tag claim.uplink.ctorIdx ++ claim.evidence.write

def PodClaim.write (claim : PodClaim) : List UInt8 :=
  text claim.id.value ++ Canonical.generation claim.generation ++
    list (fun rack => text rack.value) claim.racks ++ claim.evidence.write

def ClusterClaim.write (claim : ClusterClaim) : List UInt8 :=
  text claim.id.value ++ Canonical.generation claim.generation ++
    list (fun pod => text pod.value) claim.pods ++
    list (fun rack => text rack.value) claim.racks ++ claim.evidence.write

def SharedLinkClaim.write (claim : SharedLinkClaim) : List UInt8 :=
  text claim.id.value ++ flag claim.external ++ Canonical.generation claim.generation ++
    claim.capacity.write ++ tag claim.state.ctorIdx ++ claim.evidence.write

def GatewayClaim.write (claim : GatewayClaim) : List UInt8 :=
  text claim.id.value ++ Canonical.generation claim.generation ++ claim.capacity.write ++
    tag claim.state.ctorIdx ++ claim.evidence.write

def CapacityContribution.write (claim : CapacityContribution) : List UInt8 :=
  resourceKey claim.owner ++ tag claim.scope.ctorIdx ++ Canonical.generation claim.generation ++
    claim.capacity.write ++ claim.evidence.write

def FailureDomainClaim.write (claim : FailureDomainClaim) : List UInt8 :=
  text claim.id.value ++ tag claim.domainClass.ctorIdx ++
    optional (fun parent => text parent.value) claim.parent ++ list resourceKey claim.members ++
    Canonical.generation claim.generation ++ claim.evidence.write

def MaintenanceZone.write (claim : MaintenanceZone) : List UInt8 :=
  text claim.id.value ++ tag claim.state.ctorIdx ++ i64 claim.windowStartMs ++
    i64 claim.windowEndMs ++ list (fun domain => text domain.value) claim.domains ++
    list resourceKey claim.resources ++ Canonical.generation claim.generation ++ claim.evidence.write

def ProtectedObligation.write (claim : ProtectedObligation) : List UInt8 :=
  text claim.id.value ++ tag claim.kind.ctorIdx ++
    optional (fun domain => text domain.value) claim.scopeDomain ++
    optional resourceKey claim.scopeResource ++ u64 claim.required ++
    flag claim.protectedFromMaintenance ++ Canonical.generation claim.generation ++ claim.evidence.write

def RackClaim.digest (claim : RackClaim) : Digest := Sha256.digestBytes claim.write
def PodClaim.digest (claim : PodClaim) : Digest := Sha256.digestBytes claim.write
def ClusterClaim.digest (claim : ClusterClaim) : Digest := Sha256.digestBytes claim.write
def SharedLinkClaim.digest (claim : SharedLinkClaim) : Digest := Sha256.digestBytes claim.write
def GatewayClaim.digest (claim : GatewayClaim) : Digest := Sha256.digestBytes claim.write
def CapacityContribution.digest (claim : CapacityContribution) : Digest :=
  Sha256.digestBytes claim.write
def FailureDomainClaim.digest (claim : FailureDomainClaim) : Digest :=
  Sha256.digestBytes claim.write
def MaintenanceZone.digest (claim : MaintenanceZone) : Digest := Sha256.digestBytes claim.write
def ProtectedObligation.digest (claim : ProtectedObligation) : Digest :=
  Sha256.digestBytes claim.write

end SiteFabric
