import SiteFabric.Core.Claims
import SiteFabric.Lib.StdSort

/-! Declarations: what a member domain says about its subtree, made canonical.
Every claim is checked and put in order, then each list is sorted by its key and
exact duplicates are collapsed; two different contents under one key are refused.
The explanations gathered on the way never leave the function and are left out. -/

namespace SiteFabric

open Lib

namespace Limits

def maxClaimLists : Nat := 16384
def maxResourceMembers : Nat := 4096
def maxCapacityContributions : Nat := 16384
def maxFailureDomainsPerDeclaration : Nat := 4096
def maxMaintenanceZonesPerDeclaration : Nat := 1024
def maxObligationsPerDeclaration : Nat := 1024
def maxExpectedMembers : Nat := 4096

end Limits

structure MemberDomainDeclaration where
  domain : MemberDomainKey := {}
  site : SiteId := {}
  generation : Generation := {}
  schema : SchemaVersion := SchemaVersion.model
  digest : Digest := Digest.zero
  observedEpoch : Epoch := {}
  clusters : List ClusterClaim := []
  pods : List PodClaim := []
  racks : List RackClaim := []
  sharedLinks : List SharedLinkClaim := []
  gateways : List GatewayClaim := []
  capacity : List CapacityContribution := []
  failureDomains : List FailureDomainClaim := []
  maintenanceZones : List MaintenanceZone := []
  obligations : List ProtectedObligation := []
  evidence : Evidence := {}
deriving DecidableEq, Inhabited

/-- `std::sort` and `std::unique` on values in their own order. -/
def sortUnique [StdSort] {α : Type} [LinearOrder α] (xs : List α) : List α :=
  (sort (byKey id) xs).destutter (· ≠ ·)

section Lists

variable {α : Type} (keyOf : α → Text) (digestOf : α → Digest)

/-- One pass over a list sorted by key, from the head of the current run. -/
def collapseFrom (head : α) : List α → Except Status (List α)
  | [] => .ok [head]
  | next :: rest =>
    if keyOf next = keyOf head then
      if digestOf next = digestOf head then collapseFrom head rest else .error .conflicting
    else (collapseFrom next rest).map (head :: ·)

def collapse : List α → Except Status (List α)
  | [] => .ok []
  | head :: rest => collapseFrom keyOf digestOf head rest

def canonicalizeList (bound : Nat) (items : List α) : Except Status (List α) :=
  if items.length > bound then .error .limitExceeded
  else collapse keyOf digestOf (stableSort (byKey keyOf) items)

/-- Checks every claim of a list in turn, stopping at the first defect. -/
def checkAll (check : α → Except Status α) : List α → Except Status (List α)
  | [] => .ok []
  | claim :: rest => do
    let checked ← check claim
    let others ← checkAll check rest
    return checked :: others

def canonicalizeClaims (check : α → Except Status α) (bound : Nat) (items : List α) :
    Except Status (List α) := do
  canonicalizeList keyOf digestOf bound (← checkAll check items)

end Lists

def checkRecordDigest (declared computed : Digest) : Except Status Unit :=
  if declared.isZero || declared = computed then .ok () else .error .digestMismatchDeclaration

def checkHeader (valid : Bool) (generation : Generation) (evidence : Evidence) :
    Except Status Unit :=
  if !valid || generation.isUnset then .error .malformed else evidence.check

theorem checkHeader_ok {valid : Bool} {generation : Generation} {evidence : Evidence}
    (passed : checkHeader valid generation evidence = .ok ()) :
    valid = true ∧ evidence.check = .ok () := by
  unfold checkHeader at passed
  split at passed
  · cases passed
  · next fine =>
    simp only [Bool.or_eq_true, Bool.not_eq_true', not_or, Bool.not_eq_false] at fine
    exact ⟨fine.1, passed⟩

def validCapacity (v : CapacityVector) : Bool :=
  let within := fun (value : CapacityValue) =>
    !(value.known && decide (value.bps > Limits.maxCapacityBps))
  within v.ingress && within v.egress && within v.internal

def checkCapacity (v : CapacityVector) : Except Status Unit :=
  if validCapacity v then .ok () else .error .capacityOverflow

section Checks

variable [StdSort]

def ClusterClaim.check (claim : ClusterClaim) : Except Status ClusterClaim := do
  checkHeader claim.id.valid claim.generation claim.evidence
  let claim := { claim with pods := sortUnique claim.pods, racks := sortUnique claim.racks }
  checkRecordDigest claim.recordDigest claim.digest
  return claim

def PodClaim.check (claim : PodClaim) : Except Status PodClaim := do
  checkHeader claim.id.valid claim.generation claim.evidence
  let claim := { claim with racks := sortUnique claim.racks }
  checkRecordDigest claim.recordDigest claim.digest
  return claim

def RackClaim.check (claim : RackClaim) : Except Status RackClaim := do
  checkHeader claim.id.valid claim.generation claim.evidence
  checkCapacity claim.localCapacity
  checkRecordDigest claim.recordDigest claim.digest
  return claim

def SharedLinkClaim.check (claim : SharedLinkClaim) : Except Status SharedLinkClaim := do
  checkHeader claim.id.valid claim.generation claim.evidence
  checkCapacity claim.capacity
  checkRecordDigest claim.recordDigest claim.digest
  return claim

def GatewayClaim.check (claim : GatewayClaim) : Except Status GatewayClaim := do
  checkHeader claim.id.valid claim.generation claim.evidence
  checkCapacity claim.capacity
  checkRecordDigest claim.recordDigest claim.digest
  return claim

def CapacityContribution.check (claim : CapacityContribution) :
    Except Status CapacityContribution := do
  checkHeader (claim.owner.valid && claim.scope.isValid) claim.generation claim.evidence
  checkCapacity claim.capacity
  checkRecordDigest claim.recordDigest claim.digest
  return claim

def FailureDomainClaim.check (claim : FailureDomainClaim) : Except Status FailureDomainClaim := do
  checkHeader claim.valid claim.generation claim.evidence
  let claim := { claim with members := sortUnique claim.members }
  if claim.members.length > Limits.maxResourceMembers then throw .limitExceeded
  checkRecordDigest claim.recordDigest claim.digest
  return claim

def MaintenanceZone.check (claim : MaintenanceZone) : Except Status MaintenanceZone := do
  checkHeader claim.valid claim.generation claim.evidence
  let claim :=
    { claim with domains := sortUnique claim.domains, resources := sortUnique claim.resources }
  if claim.domains.isEmpty && claim.resources.isEmpty then throw .invalid
  checkRecordDigest claim.recordDigest claim.digest
  return claim

def ProtectedObligation.check (claim : ProtectedObligation) :
    Except Status ProtectedObligation := do
  checkHeader claim.valid claim.generation claim.evidence
  checkRecordDigest claim.recordDigest claim.digest
  return claim

end Checks

/-- The key two contributions of one declaration share: owner and scope. -/
def CapacityContribution.listKey (claim : CapacityContribution) : Text :=
  claim.owner.toText ++ ascii "|" ++ claim.scope.token

namespace MemberDomainDeclaration

open Canonical in
def write (d : MemberDomainDeclaration) : List UInt8 :=
  memberDomainKey d.domain ++ text d.site.value ++ Canonical.generation d.generation ++
    Canonical.schema d.schema ++ epoch d.observedEpoch ++ d.evidence.write ++
    list ClusterClaim.write d.clusters ++ list PodClaim.write d.pods ++
    list RackClaim.write d.racks ++ list SharedLinkClaim.write d.sharedLinks ++
    list GatewayClaim.write d.gateways ++ list CapacityContribution.write d.capacity ++
    list FailureDomainClaim.write d.failureDomains ++
    list MaintenanceZone.write d.maintenanceZones ++
    list ProtectedObligation.write d.obligations

def computeDigest (d : MemberDomainDeclaration) : Digest := Sha256.digestBytes d.write

def resourceClaimCount (d : MemberDomainDeclaration) : Nat :=
  d.clusters.length + d.pods.length + d.racks.length + d.sharedLinks.length + d.gateways.length +
    d.capacity.length + d.failureDomains.length + d.maintenanceZones.length +
    d.obligations.length

def checkEnvelope (d : MemberDomainDeclaration) : Except Status Unit :=
  if !d.domain.valid || !d.site.valid || d.generation.isUnset then .error .invalid
  else if !d.schema.compatibleWith SchemaVersion.model then .error .schemaIncompatible
  else do
    d.evidence.check
    if d.resourceClaimCount > Limits.maxClaimLists then throw .limitExceeded

variable [StdSort]

/-- `canonicalize`: the canonical declaration, or the first defect. -/
def canonicalize (d : MemberDomainDeclaration) : Except Status MemberDomainDeclaration := do
  d.checkEnvelope
  let clusters ← canonicalizeClaims (fun claim => claim.id.value) ClusterClaim.digest
    ClusterClaim.check Limits.maxClaimLists d.clusters
  let pods ← canonicalizeClaims (fun claim => claim.id.value) PodClaim.digest
    PodClaim.check Limits.maxClaimLists d.pods
  let racks ← canonicalizeClaims (fun claim => claim.id.value) RackClaim.digest
    RackClaim.check Limits.maxClaimLists d.racks
  let sharedLinks ← canonicalizeClaims (fun claim => claim.id.value) SharedLinkClaim.digest
    SharedLinkClaim.check Limits.maxClaimLists d.sharedLinks
  let gateways ← canonicalizeClaims (fun claim => claim.id.value) GatewayClaim.digest
    GatewayClaim.check Limits.maxClaimLists d.gateways
  let capacity ← canonicalizeClaims CapacityContribution.listKey CapacityContribution.digest
    CapacityContribution.check Limits.maxCapacityContributions d.capacity
  let failureDomains ← canonicalizeClaims (fun claim => claim.id.value) FailureDomainClaim.digest
    FailureDomainClaim.check Limits.maxFailureDomainsPerDeclaration d.failureDomains
  let maintenanceZones ← canonicalizeClaims (fun claim => claim.id.value) MaintenanceZone.digest
    MaintenanceZone.check Limits.maxMaintenanceZonesPerDeclaration d.maintenanceZones
  let obligations ← canonicalizeClaims (fun claim => claim.id.value) ProtectedObligation.digest
    ProtectedObligation.check Limits.maxObligationsPerDeclaration d.obligations
  return { d with clusters, pods, racks, sharedLinks, gateways, capacity, failureDomains,
                  maintenanceZones, obligations }

def sealDeclaration (d : MemberDomainDeclaration) : Except Status MemberDomainDeclaration := do
  let canonical ← d.canonicalize
  return { canonical with digest := canonical.computeDigest }

def validate (d : MemberDomainDeclaration) : Status :=
  match d.canonicalize with
  | .ok _ => .ok
  | .error status => status

end MemberDomainDeclaration

/-- A publication as the controller recorded it; the declaration is kept only
when the controller retains declarations. -/
structure MemberPublicationRecord where
  domain : MemberDomainKey := {}
  generation : Generation := {}
  digest : Digest := Digest.zero
  schema : SchemaVersion := {}
  site : SiteId := {}
  observedEpoch : Epoch := {}
  incarnation : Incarnation := {}
  publisher : MemberId := {}
  attempt : PublishAttempt := {}
  receivedAtMs : Int64 := 0
  acceptanceSequence : UInt64 := 0
  declaration : Option MemberDomainDeclaration := none
deriving DecidableEq, Inhabited

def MemberPublicationRecord.source (r : MemberPublicationRecord) : SourceRef :=
  ⟨r.domain, r.generation, r.digest⟩

structure MemberRetirementRecord where
  domain : MemberDomainKey := {}
  generation : Generation := {}
  incarnation : Incarnation := {}
  receivedAtMs : Int64 := 0
  acceptanceSequence : UInt64 := 0
  reason : Text := Text.empty
deriving DecidableEq, Inhabited

structure ExpectedMember where
  domain : MemberDomainKey := {}
  pinned : Bool := false
  generation : Generation := {}
  digest : Digest := Digest.zero
  required : Bool := true
deriving DecidableEq, Inhabited

structure SiteExpectation where
  site : SiteId := {}
  schema : SchemaVersion := SchemaVersion.model
  members : List ExpectedMember := []
  rejectUnexpected : Bool := false
deriving DecidableEq, Inhabited

namespace SiteExpectation

def hasAdjacentDuplicate : List ExpectedMember → Bool
  | first :: second :: rest => first.domain = second.domain || hasAdjacentDuplicate (second :: rest)
  | _ => false

def checkMember (member : ExpectedMember) : Except Status Unit :=
  if !member.domain.valid then .error .malformed
  else if member.pinned && (member.generation.isUnset || member.digest.isZero) then .error .invalid
  else .ok ()

def canonicalize (e : SiteExpectation) : Except Status SiteExpectation :=
  if !e.site.valid then .error .invalid
  else if !e.schema.compatibleWith SchemaVersion.model then .error .schemaIncompatible
  else if e.members.length > Limits.maxExpectedMembers then .error .limitExceeded
  else
    let members := stableSort (byKey ExpectedMember.domain) e.members
    if hasAdjacentDuplicate members then .error .conflicting
    else do
      members.forM checkMember
      return { e with members }

def find (e : SiteExpectation) (domain : MemberDomainKey) : Option ExpectedMember :=
  e.members.find? (·.domain = domain)

end SiteExpectation

end SiteFabric
