import SiteFabric.Compose.Admission

/-! Resource attribution: who claims what, and do they agree.
Every claim of every admitted declaration is put under its resource key, in
domain order. A source attests a key once, with the first claim it makes there;
the claims themselves are kept last-wins, one slot for each kind of claim. -/

namespace SiteFabric

open Lib
open Std (ExtTreeMap)

namespace ResourceKey

def cluster (id : ClusterId) : ResourceKey := ⟨.cluster, id.value⟩
def pod (id : PodId) : ResourceKey := ⟨.pod, id.value⟩
def rack (id : RackId) : ResourceKey := ⟨.rack, id.value⟩
def sharedLink (id : LinkId) : ResourceKey := ⟨.sharedLink, id.value⟩
def gateway (id : GatewayId) : ResourceKey := ⟨.gateway, id.value⟩
def failureDomain (id : FailureDomainId) : ResourceKey := ⟨.failureDomain, id.value⟩
def maintenanceZone (id : MaintenanceZoneId) : ResourceKey := ⟨.maintenanceZone, id.value⟩
def obligation (id : ObligationId) : ResourceKey := ⟨.obligation, id.value⟩

end ResourceKey

/-- A claim of any of the nine lists of a declaration. -/
inductive Claim where
  | cluster (claim : ClusterClaim)
  | pod (claim : PodClaim)
  | rack (claim : RackClaim)
  | link (claim : SharedLinkClaim)
  | gateway (claim : GatewayClaim)
  | pool (claim : CapacityContribution)
  | domain (claim : FailureDomainClaim)
  | zone (claim : MaintenanceZone)
  | obligation (claim : ProtectedObligation)
deriving DecidableEq

namespace Claim

def key : Claim → ResourceKey
  | .cluster claim => .cluster claim.id
  | .pod claim => .pod claim.id
  | .rack claim => .rack claim.id
  | .link claim => .sharedLink claim.id
  | .gateway claim => .gateway claim.id
  | .pool claim => claim.owner
  | .domain claim => .failureDomain claim.id
  | .zone claim => .maintenanceZone claim.id
  | .obligation claim => .obligation claim.id

def digest : Claim → Digest
  | .cluster claim => claim.digest
  | .pod claim => claim.digest
  | .rack claim => claim.digest
  | .link claim => claim.digest
  | .gateway claim => claim.digest
  | .pool claim => claim.digest
  | .domain claim => claim.digest
  | .zone claim => claim.digest
  | .obligation claim => claim.digest

def rack? : Claim → Option RackClaim
  | .rack claim => some claim
  | _ => none

def link? : Claim → Option SharedLinkClaim
  | .link claim => some claim
  | _ => none

def gateway? : Claim → Option GatewayClaim
  | .gateway claim => some claim
  | _ => none

def pool? : Claim → Option CapacityContribution
  | .pool claim => some claim
  | _ => none

def domain? : Claim → Option FailureDomainClaim
  | .domain claim => some claim
  | _ => none

def zone? : Claim → Option MaintenanceZone
  | .zone claim => some claim
  | _ => none

def obligation? : Claim → Option ProtectedObligation
  | .obligation claim => some claim
  | _ => none

end Claim

/-- The claims of a declaration in the order attribution reads them. -/
def MemberDomainDeclaration.claims (d : MemberDomainDeclaration) : List Claim :=
  d.clusters.map .cluster ++ d.pods.map .pod ++ d.racks.map .rack ++ d.sharedLinks.map .link ++
    d.gateways.map .gateway ++ d.capacity.map .pool ++ d.failureDomains.map .domain ++
    d.maintenanceZones.map .zone ++ d.obligations.map .obligation

def MemberPublicationRecord.claims (r : MemberPublicationRecord) : List Claim :=
  match r.declaration with
  | none => []
  | some declaration => declaration.claims

def Admission.claims (a : Admission) : List Claim := a.record.claims

structure Attestation where
  source : SourceRef := {}
  content : Digest := Digest.zero
  authoritative : Bool := false
  variant : Text := Text.empty
deriving DecidableEq, Inhabited

def Admission.attestation (a : Admission) (claim : Claim) : Attestation where
  source := a.source
  content := claim.digest
  authoritative := a.authoritative
  variant := a.record.domain.toText

structure ResourceRecord where
  key : ResourceKey := {}
  attestations : List Attestation := []
  distinctContents : Nat := 0
  consensus : Digest := Digest.zero
  status : Status := .unknown
  factors : Factors := {}
  allAuthoritative : Bool := true
  rack : Option RackClaim := none
  pod : Option PodClaim := none
  cluster : Option ClusterClaim := none
  link : Option SharedLinkClaim := none
  gateway : Option GatewayClaim := none
  pool : Option CapacityContribution := none
  domain : Option FailureDomainClaim := none
  zone : Option MaintenanceZone := none
  obligation : Option ProtectedObligation := none
deriving DecidableEq, Inhabited

/-- Kinds of resource that one owner alone may describe. -/
def ResourceKind.exclusive : ResourceKind → Bool
  | .rack | .pod | .cluster | .failureDomain | .maintenanceZone | .obligation => true
  | _ => false

namespace ResourceRecord

def sources (r : ResourceRecord) : SourceSet :=
  r.attestations.foldl (fun set attestation => set.insert attestation.source) {}

/-- `record_attestation`: one attestation for each source, the first. -/
def attest (r : ResourceRecord) (attestation : Attestation) : ResourceRecord :=
  if r.attestations.any (·.source = attestation.source) then r
  else if r.attestations.length ≥ Limits.maxAttestorsPerResource then
    { r with factors := r.factors.add (ascii "attestors_truncated") (ascii "true") }
  else { r with attestations := r.attestations ++ [attestation] }

/-- Keeps a claim in the slot of its kind. -/
def keep (r : ResourceRecord) : Claim → ResourceRecord
  | .cluster claim => { r with cluster := some claim }
  | .pod claim => { r with pod := some claim }
  | .rack claim => { r with rack := some claim }
  | .link claim => { r with link := some claim }
  | .gateway claim => { r with gateway := some claim }
  | .pool claim => { r with pool := some claim }
  | .domain claim => { r with domain := some claim }
  | .zone claim => { r with zone := some claim }
  | .obligation claim => { r with obligation := some claim }

/-- One claim of one admission, put on the record of its key. -/
def place (m : Admission × Claim) (r : ResourceRecord) : ResourceRecord :=
  ({ r with key := m.2.key }.attest (m.1.attestation m.2)).keep m.2

def attribution (r : ResourceRecord) (key : ResourceKey) : ResourceAttribution where
  key := key
  attestors := r.sources
  consensusDigest := r.consensus
  distinctContents := r.distinctContents
  status := r.status
  factors := r.factors

/-- `resolve_resource`: the agreement state of a record from its attestations. -/
def resolve [StdSort] (r : ResourceRecord) : ResourceRecord :=
  let distinct := sort (byKey id) (r.attestations.map (·.content)).dedup
  let r :=
    { r with
      distinctContents := distinct.length
      allAuthoritative := r.attestations.all (·.authoritative) }
  if r.attestations.isEmpty then
    { r with status := .noAuthoritativeSource
             factors := r.factors.add (ascii "attestors") (ascii "0") }
  else if r.distinctContents > 1 then
    let factors := (r.factors.add (ascii "distinct_contents") (decimal r.distinctContents)).add
      (ascii "attestors") (decimal r.attestations.length)
    { r with
      status := if r.key.kind.exclusive then .ownershipOverlap else .accountingConflict
      factors := r.attestations.foldl
        (fun factors attestation => factors.add (ascii "variant") attestation.content.shortHex)
        factors }
  else
    let r := { r with consensus := distinct.headD Digest.zero }
    if !r.allAuthoritative then
      { r with status := .noAuthoritativeSource
               factors := r.factors.add (ascii "non_authoritative_attestor") (ascii "true") }
    else { r with status := .ok }

end ResourceRecord

abbrev Resources := ExtTreeMap ResourceKey ResourceRecord compare

/-- Every claim with the admission that makes it, in domain order. -/
def mentions (admissions : Admissions) : List (Admission × Claim) :=
  admissions.toList.flatMap fun (_, admission) => admission.claims.map fun claim => (admission, claim)

def gatherResources [StdSort] (admissions : Admissions) : Resources :=
  (gather (fun m => m.2.key) ResourceRecord.place (mentions admissions)).map
    fun _ record => record.resolve

/-- The disagreement of one record, raised as a conflict. -/
def raiseDisagreement (out : ComposedSite) (entry : ResourceKey × ResourceRecord) : ComposedSite :=
  if entry.2.status = .ownershipOverlap then
    out.addConflict .ownershipOverlap entry.1 entry.2.sources []
  else if entry.2.status = .accountingConflict then
    out.addConflict .accountingConflict entry.1 entry.2.sources []
  else out

def ownershipOf (resources : Resources) : List ResourceAttribution :=
  resources.toList.map fun (key, record) => record.attribution key

def attributeResources (resources : Resources) (out : ComposedSite) : ComposedSite :=
  resources.toList.foldl raiseDisagreement { out with ownership := ownershipOf resources }

theorem attributeResources_body (resources : Resources) (out : ComposedSite) :
    (attributeResources resources out).body =
      ({ out with ownership := ownershipOf resources } : ComposedSite).body := by
  refine foldl_frame ComposedSite.body (fun site entry => ?_) _ _
  unfold raiseDisagreement
  split
  · exact ComposedSite.body_addConflict ..
  · split
    · exact ComposedSite.body_addConflict ..
    · rfl

end SiteFabric
