import SiteFabric.Codec.Parts

/-! The codecs of the nine claims and of the declaration.
A claim's record digest is not written, so what comes back has none; the other
fields come back as they were wherever the claim is read back at all. -/

namespace SiteFabric.Codec

open Lib.Codec

def rackClaim : Codec RackClaim :=
  ((strongId .rack).and <| generation.and <| capacity.and <| (enum ConnectivityState).and
    evidence).record
    (fun (id, generation, localCapacity, uplink, evidence) =>
      { id, generation, localCapacity, uplink, evidence })
    (fun claim => (claim.id, claim.generation, claim.localCapacity, claim.uplink, claim.evidence))
    RackClaim.write (fun _ => rfl) fun _ => by
      unfold RackClaim.write
      simp only [List.append_assoc]
      rfl

def podClaim : Codec PodClaim :=
  ((strongId .pod).and <| generation.and <|
    (list (Limits.maxResourceMembers + 1) (strongId .rack)).and evidence).record
    (fun (id, generation, racks, evidence) => { id, generation, racks, evidence })
    (fun claim => (claim.id, claim.generation, claim.racks, claim.evidence))
    PodClaim.write (fun _ => rfl) fun _ => by
      unfold PodClaim.write
      simp only [List.append_assoc]
      rfl

def clusterClaim : Codec ClusterClaim :=
  ((strongId .cluster).and <| generation.and <|
    (list (Limits.maxResourceMembers + 1) (strongId .pod)).and <|
    (list (Limits.maxResourceMembers + 1) (strongId .rack)).and evidence).record
    (fun (id, generation, pods, racks, evidence) => { id, generation, pods, racks, evidence })
    (fun claim => (claim.id, claim.generation, claim.pods, claim.racks, claim.evidence))
    ClusterClaim.write (fun _ => rfl) fun _ => by
      unfold ClusterClaim.write
      simp only [List.append_assoc]
      rfl

def sharedLinkClaim : Codec SharedLinkClaim :=
  ((strongId .link).and <| flag.and <| generation.and <| capacity.and <|
    (enum ConnectivityState).and evidence).record
    (fun (id, external, generation, capacity, state, evidence) =>
      { id, external, generation, capacity, state, evidence })
    (fun claim => (claim.id, claim.external, claim.generation, claim.capacity, claim.state,
      claim.evidence))
    SharedLinkClaim.write (fun _ => rfl) fun _ => by
      unfold SharedLinkClaim.write
      simp only [List.append_assoc]
      rfl

def gatewayClaim : Codec GatewayClaim :=
  ((strongId .gateway).and <| generation.and <| capacity.and <| (enum ConnectivityState).and
    evidence).record
    (fun (id, generation, capacity, state, evidence) =>
      { id, generation, capacity, state, evidence })
    (fun claim => (claim.id, claim.generation, claim.capacity, claim.state, claim.evidence))
    GatewayClaim.write (fun _ => rfl) fun _ => by
      unfold GatewayClaim.write
      simp only [List.append_assoc]
      rfl

def capacityContribution : Codec CapacityContribution :=
  (resourceKey.and <| (enum CapacityScope).and <| generation.and <| capacity.and
    evidence).record
    (fun (owner, scope, generation, capacity, evidence) =>
      { owner, scope, generation, capacity, evidence })
    (fun claim => (claim.owner, claim.scope, claim.generation, claim.capacity, claim.evidence))
    CapacityContribution.write (fun _ => rfl) fun _ => by
      unfold CapacityContribution.write
      simp only [List.append_assoc]
      rfl

def failureDomainClaim : Codec FailureDomainClaim :=
  ((strongId .failureDomain).and <| (enum FailureDomainClass).and <|
    (optional (strongId .failureDomain)).and <|
    (list (Limits.maxResourceMembers + 1) resourceKey).and <| generation.and evidence).record
    (fun (id, domainClass, parent, members, generation, evidence) =>
      { id, domainClass, parent, members, generation, evidence })
    (fun claim => (claim.id, claim.domainClass, claim.parent, claim.members, claim.generation,
      claim.evidence))
    FailureDomainClaim.write (fun _ => rfl) fun _ => by
      unfold FailureDomainClaim.write
      simp only [List.append_assoc]
      rfl

def maintenanceZone : Codec MaintenanceZone :=
  ((strongId .maintenanceZone).and <| (enum MaintenanceState).and <| i64.and <| i64.and <|
    (list (Limits.maxFailureDomainsPerDeclaration + 1) (strongId .failureDomain)).and <|
    (list (Limits.maxResourceMembers + 1) resourceKey).and <| generation.and evidence).record
    (fun (id, state, windowStartMs, windowEndMs, domains, resources, generation, evidence) =>
      { id, state, windowStartMs, windowEndMs, domains, resources, generation, evidence })
    (fun claim => (claim.id, claim.state, claim.windowStartMs, claim.windowEndMs, claim.domains,
      claim.resources, claim.generation, claim.evidence))
    MaintenanceZone.write (fun _ => rfl) fun _ => by
      unfold MaintenanceZone.write
      simp only [List.append_assoc]
      rfl

def protectedObligation : Codec ProtectedObligation :=
  ((strongId .obligation).and <| (enum ObligationKind).and <|
    (optional (strongId .failureDomain)).and <| (optional resourceKey).and <| u64.and <|
    flag.and <| generation.and evidence).record
    (fun (id, kind, scopeDomain, scopeResource, required, protectedFromMaintenance, generation,
        evidence) =>
      { id, kind, scopeDomain, scopeResource, required, protectedFromMaintenance, generation
        evidence })
    (fun claim => (claim.id, claim.kind, claim.scopeDomain, claim.scopeResource, claim.required,
      claim.protectedFromMaintenance, claim.generation, claim.evidence))
    ProtectedObligation.write (fun _ => rfl) fun _ => by
      unfold ProtectedObligation.write
      simp only [List.append_assoc]
      rfl

/-- The digest is not carried: it is recomputed from what was read. -/
def declaration : Codec MemberDomainDeclaration :=
  (memberDomainKey.and <| (strongId .site).and <| generation.and <| schema.and <| epoch.and <|
    evidence.and <|
    (list (Limits.maxClaimLists + 1) clusterClaim).and <|
    (list (Limits.maxClaimLists + 1) podClaim).and <|
    (list (Limits.maxClaimLists + 1) rackClaim).and <|
    (list (Limits.maxClaimLists + 1) sharedLinkClaim).and <|
    (list (Limits.maxClaimLists + 1) gatewayClaim).and <|
    (list (Limits.maxCapacityContributions + 1) capacityContribution).and <|
    (list (Limits.maxFailureDomainsPerDeclaration + 1) failureDomainClaim).and <|
    (list (Limits.maxMaintenanceZonesPerDeclaration + 1) maintenanceZone).and
    (list (Limits.maxObligationsPerDeclaration + 1) protectedObligation)).record
    (fun (domain, site, generation, schema, observedEpoch, evidence, clusters, pods, racks,
        sharedLinks, gateways, capacity, failureDomains, maintenanceZones, obligations) =>
      let read : MemberDomainDeclaration :=
        { domain, site, generation, schema, observedEpoch, evidence, clusters, pods, racks
          sharedLinks, gateways, capacity, failureDomains, maintenanceZones, obligations }
      { read with digest := read.computeDigest })
    (fun d => (d.domain, d.site, d.generation, d.schema, d.observedEpoch, d.evidence, d.clusters,
      d.pods, d.racks, d.sharedLinks, d.gateways, d.capacity, d.failureDomains,
      d.maintenanceZones, d.obligations))
    MemberDomainDeclaration.write (fun _ => rfl) fun _ => by
      unfold MemberDomainDeclaration.write
      simp only [List.append_assoc]
      rfl

/-! Claims and declarations come back as they were read. -/

theorem rackClaim_plain : rackClaim.Plain :=
  .record <| .and (.same fun _ => rfl) <| .and (.same fun _ => rfl) <| .and capacity_plain <|
    .and (.same fun _ => rfl) evidence_plain

theorem podClaim_plain : podClaim.Plain :=
  .record (.and (.same fun _ => rfl) (.and (.same fun _ => rfl) (.and (list_plain (.same fun _ => rfl)) evidence_plain)))

theorem clusterClaim_plain : clusterClaim.Plain :=
  .record (.and (.same fun _ => rfl) (.and (.same fun _ => rfl) (.and (list_plain (.same fun _ => rfl)) (.and (list_plain (.same fun _ => rfl))
    evidence_plain))))

theorem sharedLinkClaim_plain : sharedLinkClaim.Plain :=
  .record (.and (.same fun _ => rfl) (.and (.same fun _ => rfl) (.and (.same fun _ => rfl) (.and capacity_plain (.and (.same fun _ => rfl)
    evidence_plain)))))

theorem gatewayClaim_plain : gatewayClaim.Plain :=
  .record (.and (.same fun _ => rfl) (.and (.same fun _ => rfl) (.and capacity_plain (.and (.same fun _ => rfl) evidence_plain))))

theorem capacityContribution_plain : capacityContribution.Plain :=
  .record (.and (.same fun _ => rfl) (.and (.same fun _ => rfl) (.and (.same fun _ => rfl) (.and capacity_plain evidence_plain))))

theorem failureDomainClaim_plain : failureDomainClaim.Plain :=
  .record (.and (.same fun _ => rfl) (.and (.same fun _ => rfl) (.and (optional_plain (.same fun _ => rfl))
    (.and (list_plain (.same fun _ => rfl)) (.and (.same fun _ => rfl) evidence_plain)))))

theorem maintenanceZone_plain : maintenanceZone.Plain :=
  .record (.and (.same fun _ => rfl) (.and (.same fun _ => rfl) (.and (.same fun _ => rfl) (.and (.same fun _ => rfl) (.and (list_plain (.same fun _ => rfl))
    (.and (list_plain (.same fun _ => rfl)) (.and (.same fun _ => rfl) evidence_plain)))))))

theorem protectedObligation_plain : protectedObligation.Plain :=
  .record (.and (.same fun _ => rfl) (.and (.same fun _ => rfl) (.and (optional_plain (.same fun _ => rfl))
    (.and (optional_plain (.same fun _ => rfl)) (.and (.same fun _ => rfl) (.and (.same fun _ => rfl) (.and (.same fun _ => rfl)
      evidence_plain)))))))

theorem declaration_plain : declaration.Plain :=
  .record (.and (.same fun _ => rfl) (.and (.same fun _ => rfl) (.and (.same fun _ => rfl) (.and (.same fun _ => rfl) (.and (.same fun _ => rfl)
    (.and evidence_plain (.and (list_plain clusterClaim_plain) (.and (list_plain podClaim_plain)
      (.and (list_plain rackClaim_plain) (.and (list_plain sharedLinkClaim_plain)
        (.and (list_plain gatewayClaim_plain) (.and (list_plain capacityContribution_plain)
          (.and (list_plain failureDomainClaim_plain) (.and (list_plain maintenanceZone_plain)
            (list_plain protectedObligation_plain)))))))))))))))

end SiteFabric.Codec
