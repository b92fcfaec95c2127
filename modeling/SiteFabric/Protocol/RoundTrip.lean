import SiteFabric.Protocol.Messages

/-! What comes back of a message.
Decoding never refuses what was encoded within the decoder's limits; the fields
that come back are those the encoding has a place for. -/

namespace SiteFabric

open Lib Lib.Reader

/-- Nothing was dropped from a list of explanations. -/
def Factors.Whole (f : Factors) : Prop := f.items.length ≤ Limits.maxFactors ∧ f.dropped = 0

/-- Nothing was dropped from a set of edges, and an edge of no domain is blank. -/
def SourceSet.Whole (s : SourceSet) : Prop :=
  SourceSet.Ordered s.items ∧ (∀ ref ∈ s.items, ref.domain.kind = .unknown → ref = {}) ∧
    s.truncated = false ∧ s.dropped = 0

/-- An unknown channel has no figure. -/
def CapacityVector.Spelled (v : CapacityVector) : Prop :=
  ∀ channel ∈ [v.ingress, v.egress, v.internal], channel.known = false → channel.bps = 0

theorem Factors.foldl_push_of_room (items before : List Text) (dropped : Nat)
    (room : (before ++ items).length ≤ Limits.maxFactors) :
    items.foldl Factors.push ⟨before, dropped⟩ = ⟨before ++ items, dropped⟩ := by
  induction items generalizing before with
  | nil => rw [List.foldl_nil, List.append_nil]
  | cons t items ih =>
    have more : ¬ before.length ≥ Limits.maxFactors := by
      rw [List.length_append, List.length_cons] at room
      omega
    have next : (before ++ [t] ++ items).length ≤ Limits.maxFactors := by
      rwa [List.append_assoc, List.singleton_append]
    rw [List.foldl_cons, push, if_neg more, ih _ next, List.append_assoc, List.singleton_append]

theorem Factors.stored_eq_iff (f : Factors) : f.stored = f ↔ f.Whole := by
  constructor
  · intro same
    have kept : f.stored.items = f.items.take Limits.maxFactors :=
      Factors.items_foldl_push f.items {} (Nat.zero_le _)
    rw [same] at kept
    have few : f.items.length ≤ Limits.maxFactors := by
      rw [kept, List.length_take]
      exact Nat.min_le_left _ _
    have filled : f.stored = ⟨[] ++ f.items, 0⟩ := foldl_push_of_room f.items [] 0 few
    exact ⟨few, (congrArg Factors.dropped (same.symm.trans filled))⟩
  · rintro ⟨few, none⟩
    have filled : f.stored = ⟨[] ++ f.items, 0⟩ := foldl_push_of_room f.items [] 0 few
    rw [filled, List.nil_append, ← none]

theorem SourceRef.stored_eq_iff (ref : SourceRef) :
    ref.stored = ref ↔ (ref.domain.kind = .unknown → ref = {}) := by
  unfold stored
  split
  · next unknown => exact ⟨fun same _ => same.symm, fun blank => (blank unknown).symm⟩
  · next known => exact ⟨fun _ unknown => absurd unknown known, fun _ => rfl⟩

theorem SourceSet.stored_eq_iff (s : SourceSet) : s.stored = s ↔ s.Whole := by
  constructor
  · intro same
    have empty : SourceSet.Ordered ({} : SourceSet).items := ⟨List.Pairwise.nil, Nat.zero_le _⟩
    have ordered : SourceSet.Ordered s.stored.items := foldl_insert_ordered _ empty
    rw [same] at ordered
    have twice : ∀ ref ∈ s.items.map SourceRef.stored, ref.stored = ref := by
      intro ref member
      obtain ⟨edge, -, rfl⟩ := List.mem_map.mp member
      unfold SourceRef.stored
      split <;> simp_all
    have blank := (@foldl_insert_items (fun ref => ref.stored = ref) (fun _ => 0) _ {}
      (fun ref member => absurd member List.not_mem_nil) twice).1
    change ∀ ref ∈ s.stored.items, _ at blank
    rw [same] at blank
    have fixed : s.items.map SourceRef.stored = s.items :=
      (List.map_congr_left blank).trans (List.map_id' _)
    have filled : s.stored = ⟨[] ++ s.items, false, 0⟩ := by
      rw [stored, fixed]
      exact foldl_insert_of_ordered s.items [] false 0 ordered
    have parts := same.symm.trans filled
    exact ⟨ordered, fun ref member => ref.stored_eq_iff.mp (blank ref member),
      congrArg SourceSet.truncated parts, congrArg SourceSet.dropped parts⟩
  · rintro ⟨ordered, blank, whole, none⟩
    have fixed : s.items.map SourceRef.stored = s.items :=
      (List.map_congr_left fun ref member => ref.stored_eq_iff.mpr (blank ref member)).trans
        (List.map_id' _)
    rw [stored, fixed]
    have filled := foldl_insert_of_ordered s.items [] false 0 ordered
    rw [List.nil_append] at filled
    obtain ⟨items, truncated, dropped⟩ := s
    cases whole
    cases none
    exact filled

theorem CapacityValue.stored_eq_iff (v : CapacityValue) :
    v.stored = v ↔ (v.known = false → v.bps = 0) := by
  obtain ⟨known, bps⟩ := v
  cases known with
  | true => exact ⟨fun _ never => (by cases never), fun _ => rfl⟩
  | false =>
    constructor
    · intro same _
      exact (CapacityValue.mk.inj same).2.symm
    · intro none
      cases none rfl
      rfl

theorem CapacityVector.stored_eq_iff (v : CapacityVector) : v.stored = v ↔ v.Spelled := by
  obtain ⟨ingress, egress, internal⟩ := v
  simp only [stored, CapacityVector.mk.injEq, CapacityValue.stored_eq_iff, Spelled,
    List.forall_mem_cons, List.not_mem_nil, false_implies, implies_true, and_true]

theorem Evidence.stored_eq_iff (e : Evidence) : e.stored = e ↔ e.source = {} := by
  obtain ⟨provenance, observed, ttl, source, payload⟩ := e
  constructor
  · intro same
    exact (Evidence.mk.inj same).2.2.2.1.symm
  · rintro ⟨⟩
    rfl

/-! A declaration, but for the record digests of its claims. -/

def ClusterClaim.bare (claim : ClusterClaim) : ClusterClaim :=
  { claim with recordDigest := Digest.zero }

def PodClaim.bare (claim : PodClaim) : PodClaim :=
  { claim with recordDigest := Digest.zero }

def RackClaim.bare (claim : RackClaim) : RackClaim :=
  { claim with recordDigest := Digest.zero }

def SharedLinkClaim.bare (claim : SharedLinkClaim) : SharedLinkClaim :=
  { claim with recordDigest := Digest.zero }

def GatewayClaim.bare (claim : GatewayClaim) : GatewayClaim :=
  { claim with recordDigest := Digest.zero }

def CapacityContribution.bare (claim : CapacityContribution) : CapacityContribution :=
  { claim with recordDigest := Digest.zero }

def FailureDomainClaim.bare (claim : FailureDomainClaim) : FailureDomainClaim :=
  { claim with recordDigest := Digest.zero }

def MaintenanceZone.bare (claim : MaintenanceZone) : MaintenanceZone :=
  { claim with recordDigest := Digest.zero }

def ProtectedObligation.bare (claim : ProtectedObligation) : ProtectedObligation :=
  { claim with recordDigest := Digest.zero }

def MemberDomainDeclaration.bare (d : MemberDomainDeclaration) : MemberDomainDeclaration :=
  { d with
    clusters := d.clusters.map ClusterClaim.bare
    pods := d.pods.map PodClaim.bare
    racks := d.racks.map RackClaim.bare
    sharedLinks := d.sharedLinks.map SharedLinkClaim.bare
    gateways := d.gateways.map GatewayClaim.bare
    capacity := d.capacity.map CapacityContribution.bare
    failureDomains := d.failureDomains.map FailureDomainClaim.bare
    maintenanceZones := d.maintenanceZones.map MaintenanceZone.bare
    obligations := d.obligations.map ProtectedObligation.bare }

/-- The evidences and the capacities a declaration holds. -/
def MemberDomainDeclaration.evidences (d : MemberDomainDeclaration) : List Evidence :=
  d.evidence :: (d.clusters.map ClusterClaim.evidence ++ d.pods.map PodClaim.evidence ++
    d.racks.map RackClaim.evidence ++ d.sharedLinks.map SharedLinkClaim.evidence ++
    d.gateways.map GatewayClaim.evidence ++ d.capacity.map CapacityContribution.evidence ++
    d.failureDomains.map FailureDomainClaim.evidence ++
    d.maintenanceZones.map MaintenanceZone.evidence ++
    d.obligations.map ProtectedObligation.evidence)

def MemberDomainDeclaration.capacities (d : MemberDomainDeclaration) : List CapacityVector :=
  d.racks.map RackClaim.localCapacity ++ d.sharedLinks.map SharedLinkClaim.capacity ++
    d.gateways.map GatewayClaim.capacity ++ d.capacity.map CapacityContribution.capacity

/-- The digest is that of the content, and the content has nothing the encoding
has no place for. -/
def MemberDomainDeclaration.Spelled (d : MemberDomainDeclaration) : Prop :=
  d.digest = d.computeDigest ∧ (∀ e ∈ d.evidences, e.source = {}) ∧
    ∀ v ∈ d.capacities, v.Spelled

/-- A claim read back differs at most in where its evidence came from. -/
theorem evidence_kept_iff {κ : Type} (evidence : κ → Evidence) (put : Evidence → κ)
    (got : ∀ e, evidence (put e) = e) (e : Evidence) : put e.stored = put e ↔ e.source = {} := by
  rw [← Evidence.stored_eq_iff]
  refine ⟨fun same => ?_, congrArg put⟩
  rw [← got e.stored, same, got]

/-- A claim with a capacity may differ in the spelling of that, too. -/
theorem capacity_kept_iff {κ : Type} (capacity : κ → CapacityVector) (evidence : κ → Evidence)
    (put : CapacityVector → Evidence → κ) (held : ∀ v e, capacity (put v e) = v)
    (got : ∀ v e, evidence (put v e) = e) (v : CapacityVector) (e : Evidence) :
    put v.stored e.stored = put v e ↔ v.Spelled ∧ e.source = {} := by
  rw [← Evidence.stored_eq_iff, ← CapacityVector.stored_eq_iff]
  refine ⟨fun same => ⟨?_, ?_⟩, fun ⟨capacities, evidences⟩ => congrArg₂ put capacities evidences⟩
  · rw [← held v.stored e.stored, same, held]
  · rw [← got v.stored e.stored, same, got]

theorem ClusterClaim.bare_eq_iff (claim : ClusterClaim) :
    (Codec.clusterClaim.stored claim).bare = claim.bare ↔ claim.evidence.source = {} := by
  have stored : (Codec.clusterClaim.stored claim).bare =
      { claim.bare with
        pods := claim.pods.map fun pod => pod
        racks := claim.racks.map fun rack => rack
        evidence := claim.evidence.stored } := rfl
  rw [stored, List.map_id', List.map_id']
  exact evidence_kept_iff ClusterClaim.evidence (fun e => { claim.bare with evidence := e })
    (fun _ => rfl) claim.evidence

theorem PodClaim.bare_eq_iff (claim : PodClaim) :
    (Codec.podClaim.stored claim).bare = claim.bare ↔ claim.evidence.source = {} := by
  have stored : (Codec.podClaim.stored claim).bare =
      { claim.bare with
        racks := claim.racks.map fun rack => rack
        evidence := claim.evidence.stored } := rfl
  rw [stored, List.map_id']
  exact evidence_kept_iff PodClaim.evidence (fun e => { claim.bare with evidence := e })
    (fun _ => rfl) claim.evidence

theorem RackClaim.bare_eq_iff (claim : RackClaim) :
    (Codec.rackClaim.stored claim).bare = claim.bare ↔
      claim.localCapacity.Spelled ∧ claim.evidence.source = {} :=
  capacity_kept_iff RackClaim.localCapacity RackClaim.evidence
    (fun v e => { claim.bare with localCapacity := v, evidence := e })
    (fun _ _ => rfl) (fun _ _ => rfl) claim.localCapacity claim.evidence

theorem SharedLinkClaim.bare_eq_iff (claim : SharedLinkClaim) :
    (Codec.sharedLinkClaim.stored claim).bare = claim.bare ↔
      claim.capacity.Spelled ∧ claim.evidence.source = {} :=
  capacity_kept_iff SharedLinkClaim.capacity SharedLinkClaim.evidence
    (fun v e => { claim.bare with capacity := v, evidence := e })
    (fun _ _ => rfl) (fun _ _ => rfl) claim.capacity claim.evidence

theorem GatewayClaim.bare_eq_iff (claim : GatewayClaim) :
    (Codec.gatewayClaim.stored claim).bare = claim.bare ↔
      claim.capacity.Spelled ∧ claim.evidence.source = {} :=
  capacity_kept_iff GatewayClaim.capacity GatewayClaim.evidence
    (fun v e => { claim.bare with capacity := v, evidence := e })
    (fun _ _ => rfl) (fun _ _ => rfl) claim.capacity claim.evidence

theorem CapacityContribution.bare_eq_iff (claim : CapacityContribution) :
    (Codec.capacityContribution.stored claim).bare = claim.bare ↔
      claim.capacity.Spelled ∧ claim.evidence.source = {} :=
  capacity_kept_iff CapacityContribution.capacity CapacityContribution.evidence
    (fun v e => { claim.bare with capacity := v, evidence := e })
    (fun _ _ => rfl) (fun _ _ => rfl) claim.capacity claim.evidence

theorem FailureDomainClaim.bare_eq_iff (claim : FailureDomainClaim) :
    (Codec.failureDomainClaim.stored claim).bare = claim.bare ↔ claim.evidence.source = {} := by
  have stored : (Codec.failureDomainClaim.stored claim).bare =
      { claim.bare with
        parent := claim.parent.map fun parent => parent
        members := claim.members.map fun key => key
        evidence := claim.evidence.stored } := rfl
  rw [stored, Option.map_id', List.map_id']
  exact evidence_kept_iff FailureDomainClaim.evidence
    (fun e => { claim.bare with evidence := e }) (fun _ => rfl) claim.evidence

theorem MaintenanceZone.bare_eq_iff (claim : MaintenanceZone) :
    (Codec.maintenanceZone.stored claim).bare = claim.bare ↔ claim.evidence.source = {} := by
  have stored : (Codec.maintenanceZone.stored claim).bare =
      { claim.bare with
        domains := claim.domains.map fun domain => domain
        resources := claim.resources.map fun key => key
        evidence := claim.evidence.stored } := rfl
  rw [stored, List.map_id', List.map_id']
  exact evidence_kept_iff MaintenanceZone.evidence (fun e => { claim.bare with evidence := e })
    (fun _ => rfl) claim.evidence

theorem ProtectedObligation.bare_eq_iff (claim : ProtectedObligation) :
    (Codec.protectedObligation.stored claim).bare = claim.bare ↔ claim.evidence.source = {} := by
  have stored : (Codec.protectedObligation.stored claim).bare =
      { claim.bare with
        scopeDomain := claim.scopeDomain.map fun domain => domain
        scopeResource := claim.scopeResource.map fun key => key
        evidence := claim.evidence.stored } := rfl
  rw [stored, Option.map_id', Option.map_id']
  exact evidence_kept_iff ProtectedObligation.evidence
    (fun e => { claim.bare with evidence := e }) (fun _ => rfl) claim.evidence

namespace MemberDomainDeclaration

theorem write_bare (d : MemberDomainDeclaration) : d.bare.write = d.write := by
  unfold write bare
  simp only [Canonical.list, List.length_map, List.flatMap_map]
  rfl

theorem computeDigest_bare (d : MemberDomainDeclaration) :
    d.bare.computeDigest = d.computeDigest := by
  rw [computeDigest, write_bare, computeDigest]

theorem map_bare_iff {α : Type} {stored bare : α → α} {items : List α} :
    (items.map stored).map bare = items.map bare ↔ ∀ a ∈ items, bare (stored a) = bare a := by
  rw [List.map_map, List.map_inj_left]
  rfl

/-- The content comes back when each part of it does. -/
theorem bare_eq_of_parts (d : MemberDomainDeclaration) (evidence : d.evidence.stored = d.evidence)
    (clusters : ∀ claim ∈ d.clusters, (Codec.clusterClaim.stored claim).bare = claim.bare)
    (pods : ∀ claim ∈ d.pods, (Codec.podClaim.stored claim).bare = claim.bare)
    (racks : ∀ claim ∈ d.racks, (Codec.rackClaim.stored claim).bare = claim.bare)
    (sharedLinks : ∀ claim ∈ d.sharedLinks, (Codec.sharedLinkClaim.stored claim).bare = claim.bare)
    (gateways : ∀ claim ∈ d.gateways, (Codec.gatewayClaim.stored claim).bare = claim.bare)
    (capacity : ∀ claim ∈ d.capacity, (Codec.capacityContribution.stored claim).bare = claim.bare)
    (failureDomains : ∀ claim ∈ d.failureDomains,
      (Codec.failureDomainClaim.stored claim).bare = claim.bare)
    (maintenanceZones : ∀ claim ∈ d.maintenanceZones,
      (Codec.maintenanceZone.stored claim).bare = claim.bare)
    (obligations : ∀ claim ∈ d.obligations,
      (Codec.protectedObligation.stored claim).bare = claim.bare) :
    { Codec.declaration.stored d with digest := d.digest }.bare = d.bare := by
  have parts : { Codec.declaration.stored d with digest := d.digest }.bare =
      { d.bare with
        evidence := d.evidence.stored
        clusters := (d.clusters.map Codec.clusterClaim.stored).map ClusterClaim.bare
        pods := (d.pods.map Codec.podClaim.stored).map PodClaim.bare
        racks := (d.racks.map Codec.rackClaim.stored).map RackClaim.bare
        sharedLinks := (d.sharedLinks.map Codec.sharedLinkClaim.stored).map SharedLinkClaim.bare
        gateways := (d.gateways.map Codec.gatewayClaim.stored).map GatewayClaim.bare
        capacity :=
          (d.capacity.map Codec.capacityContribution.stored).map CapacityContribution.bare
        failureDomains :=
          (d.failureDomains.map Codec.failureDomainClaim.stored).map FailureDomainClaim.bare
        maintenanceZones :=
          (d.maintenanceZones.map Codec.maintenanceZone.stored).map MaintenanceZone.bare
        obligations :=
          (d.obligations.map Codec.protectedObligation.stored).map ProtectedObligation.bare } := rfl
  rw [parts, evidence, map_bare_iff.mpr clusters, map_bare_iff.mpr pods, map_bare_iff.mpr racks,
    map_bare_iff.mpr sharedLinks, map_bare_iff.mpr gateways, map_bare_iff.mpr capacity,
    map_bare_iff.mpr failureDomains, map_bare_iff.mpr maintenanceZones,
    map_bare_iff.mpr obligations]
  rfl

/-- What was read carries the digest of its content. -/
theorem digest_of_bare_eq {d : MemberDomainDeclaration}
    (same : (Codec.declaration.stored d).bare = d.bare) : d.digest = d.computeDigest :=
  calc
    d.digest = (Codec.declaration.stored d).digest :=
      (congrArg MemberDomainDeclaration.digest same).symm
    _ = (Codec.declaration.stored d).computeDigest := rfl
    _ = (Codec.declaration.stored d).bare.computeDigest := (computeDigest_bare _).symm
    _ = d.computeDigest := by rw [same, computeDigest_bare]

theorem bare_eq_iff (d : MemberDomainDeclaration) :
    (Codec.declaration.stored d).bare = d.bare ↔ d.Spelled := by
  simp only [Spelled, evidences, capacities, List.forall_mem_cons, List.forall_mem_append,
    List.forall_mem_map]
  constructor
  · intro same
    have clusters := map_bare_iff.mp (congrArg MemberDomainDeclaration.clusters same)
    have pods := map_bare_iff.mp (congrArg MemberDomainDeclaration.pods same)
    have racks := map_bare_iff.mp (congrArg MemberDomainDeclaration.racks same)
    have links := map_bare_iff.mp (congrArg MemberDomainDeclaration.sharedLinks same)
    have gateways := map_bare_iff.mp (congrArg MemberDomainDeclaration.gateways same)
    have capacity := map_bare_iff.mp (congrArg MemberDomainDeclaration.capacity same)
    have domains := map_bare_iff.mp (congrArg MemberDomainDeclaration.failureDomains same)
    have zones := map_bare_iff.mp (congrArg MemberDomainDeclaration.maintenanceZones same)
    have obligations := map_bare_iff.mp (congrArg MemberDomainDeclaration.obligations same)
    refine ⟨digest_of_bare_eq same, ⟨?_, ⟨⟨⟨⟨⟨⟨⟨⟨?_, ?_⟩, ?_⟩, ?_⟩, ?_⟩, ?_⟩, ?_⟩, ?_⟩, ?_⟩⟩,
      ⟨⟨?_, ?_⟩, ?_⟩, ?_⟩
    · exact d.evidence.stored_eq_iff.mp (congrArg MemberDomainDeclaration.evidence same)
    · exact fun claim member => claim.bare_eq_iff.mp (clusters claim member)
    · exact fun claim member => claim.bare_eq_iff.mp (pods claim member)
    · exact fun claim member => (claim.bare_eq_iff.mp (racks claim member)).2
    · exact fun claim member => (claim.bare_eq_iff.mp (links claim member)).2
    · exact fun claim member => (claim.bare_eq_iff.mp (gateways claim member)).2
    · exact fun claim member => (claim.bare_eq_iff.mp (capacity claim member)).2
    · exact fun claim member => claim.bare_eq_iff.mp (domains claim member)
    · exact fun claim member => claim.bare_eq_iff.mp (zones claim member)
    · exact fun claim member => claim.bare_eq_iff.mp (obligations claim member)
    · exact fun claim member => (claim.bare_eq_iff.mp (racks claim member)).1
    · exact fun claim member => (claim.bare_eq_iff.mp (links claim member)).1
    · exact fun claim member => (claim.bare_eq_iff.mp (gateways claim member)).1
    · exact fun claim member => (claim.bare_eq_iff.mp (capacity claim member)).1
  · rintro ⟨digest, ⟨own, ⟨⟨⟨⟨⟨⟨⟨⟨clusters, pods⟩, racks⟩, links⟩, gateways⟩, owners⟩, domains⟩,
      zones⟩, obligations⟩⟩, ⟨⟨local_, shared⟩, outward⟩, contributed⟩
    have content := d.bare_eq_of_parts (d.evidence.stored_eq_iff.mpr own)
      (fun claim member => claim.bare_eq_iff.mpr (clusters claim member))
      (fun claim member => claim.bare_eq_iff.mpr (pods claim member))
      (fun claim member => claim.bare_eq_iff.mpr ⟨local_ claim member, racks claim member⟩)
      (fun claim member => claim.bare_eq_iff.mpr ⟨shared claim member, links claim member⟩)
      (fun claim member => claim.bare_eq_iff.mpr ⟨outward claim member, gateways claim member⟩)
      (fun claim member => claim.bare_eq_iff.mpr ⟨contributed claim member, owners claim member⟩)
      (fun claim member => claim.bare_eq_iff.mpr (domains claim member))
      (fun claim member => claim.bare_eq_iff.mpr (zones claim member))
      (fun claim member => claim.bare_eq_iff.mpr (obligations claim member))
    have sealed : (Codec.declaration.stored d).digest = d.digest :=
      calc
        (Codec.declaration.stored d).digest =
            { Codec.declaration.stored d with digest := d.digest }.computeDigest := rfl
        _ = d.computeDigest := by rw [← computeDigest_bare, content, computeDigest_bare]
        _ = d.digest := digest.symm
    have whole : { Codec.declaration.stored d with digest := d.digest } =
        Codec.declaration.stored d := by rw [← sealed]
    rwa [whole] at content

end MemberDomainDeclaration

namespace Protocol

/-- The fields of one message are those of the other; of a declaration, all but
the record digests of its claims. -/
def MessageKind.Same : (kind : MessageKind) → kind.Message → kind.Message → Prop
  | .publishRequest, sent, read =>
    read.declaration.bare = sent.declaration.bare ∧ read.attempt = sent.attempt
  | _, sent, read => read = sent

/-- The encoding has a place for all that the message says: a heartbeat asks
from no sequence, and nothing has been dropped from what is listed. -/
def MessageKind.Spelled : (kind : MessageKind) → kind.Message → Prop
  | .helloResponse, m => m.factors.Whole
  | .publishRequest, m => m.declaration.Spelled
  | .publishResponse, m => m.factors.Whole
  | .retireResponse, m => m.factors.Whole
  | .heartbeatRequest, m => m.sinceSequence = 0
  | .heartbeatResponse, m => m.factors.Whole
  | .invalidateNotice, m => m.sources.Whole
  | .errorResponse, m => m.factors.Whole
  | .shutdownResponse, m => m.factors.Whole
  | _, _ => True

theorem stored_same_iff (kind : MessageKind) (m : kind.Message) :
    kind.Same m (kind.codec.stored m) ↔ kind.Spelled m := by
  cases kind with
  | helloRequest => exact ⟨fun _ => trivial, fun _ => rfl⟩
  | helloResponse =>
    refine Iff.trans ⟨congrArg HelloResponse.factors, fun factors => ?_⟩ m.factors.stored_eq_iff
    exact congrArg (fun factors => { m with factors }) factors
  | publishRequest =>
    exact ⟨fun same => m.declaration.bare_eq_iff.mp same.1,
      fun spelled => ⟨m.declaration.bare_eq_iff.mpr spelled, rfl⟩⟩
  | publishResponse =>
    refine Iff.trans ⟨congrArg PublishResponse.factors, fun factors => ?_⟩ m.factors.stored_eq_iff
    exact congrArg (fun factors => { m with factors }) factors
  | retireRequest => exact ⟨fun _ => trivial, fun _ => rfl⟩
  | retireResponse =>
    refine Iff.trans ⟨congrArg RetireResponse.factors, fun factors => ?_⟩ m.factors.stored_eq_iff
    exact congrArg (fun factors => { m with factors }) factors
  | fetchSiteRequest => exact ⟨fun _ => trivial, fun _ => rfl⟩
  | heartbeatRequest =>
    refine ⟨fun same => (congrArg HeartbeatRequest.sinceSequence same).symm, fun none => ?_⟩
    exact congrArg (fun sinceSequence => { m with sinceSequence }) none.symm
  | heartbeatResponse =>
    have domains : m.invalidated.map (fun domain => domain) = m.invalidated := List.map_id' _
    have stored : MessageKind.heartbeatResponse.codec.stored m =
        { m with invalidated := m.invalidated.map fun domain => domain
                 factors := m.factors.stored } := rfl
    rw [stored, domains]
    refine Iff.trans ⟨congrArg HeartbeatResponse.factors, fun factors => ?_⟩
      m.factors.stored_eq_iff
    exact congrArg (fun factors => { m with factors }) factors
  | invalidateNotice =>
    refine Iff.trans ⟨congrArg InvalidateNotice.sources, fun sources => ?_⟩
      m.sources.stored_eq_iff
    exact congrArg (fun sources => { m with sources }) sources
  | revokeNotice => exact ⟨fun _ => trivial, fun _ => rfl⟩
  | errorResponse =>
    refine Iff.trans ⟨congrArg ErrorResponse.factors, fun factors => ?_⟩ m.factors.stored_eq_iff
    exact congrArg (fun factors => { m with factors }) factors
  | shutdownRequest => exact ⟨fun _ => trivial, fun _ => rfl⟩
  | shutdownResponse =>
    refine Iff.trans ⟨congrArg ShutdownResponse.factors, fun factors => ?_⟩
      m.factors.stored_eq_iff
    exact congrArg (fun factors => { m with factors }) factors
  | ping => exact ⟨fun _ => trivial, fun _ => rfl⟩

/-- What is encoded within the decoder's limits is decoded, and all of it comes
back exactly when the encoding has a place for all of it. -/
theorem message_round_trip_iff (kind : MessageKind) (m : kind.Message)
    (readable : kind.codec.readable m = true) :
    ∃ read, decodeMessage kind (encodeMessage kind m) = .ok read ∧
      (kind.Same m read ↔ kind.Spelled m) :=
  ⟨kind.codec.stored m, decode_encode readable, stored_same_iff kind m⟩

def HeartbeatRequest.sample : HeartbeatRequest where
  domain := { kind := .rack, id := ascii "rack-1" }
  site := ⟨ascii "site-1"⟩
  incarnation := { sequence := 1, boot := ⟨ascii "boot-a"⟩ }
  observedEpoch := { value := 1 }

theorem heartbeat_round_trip :
    ∃ read, decodeMessage .heartbeatRequest (encodeMessage .heartbeatRequest .sample) = .ok read ∧
      (MessageKind.heartbeatRequest.Same .sample read ↔
        MessageKind.heartbeatRequest.Spelled .sample) :=
  message_round_trip_iff .heartbeatRequest .sample (by decide)

/-- A request for what came after sequence 7 arrives as one for everything. -/
theorem heartbeat_sequence_is_lost :
    MessageKind.heartbeatRequest.codec.readable { HeartbeatRequest.sample with sinceSequence := 7 }
        = true ∧
      ¬ ∃ read, decodeMessage .heartbeatRequest (encodeMessage .heartbeatRequest
          { HeartbeatRequest.sample with sinceSequence := 7 }) = .ok read ∧
        MessageKind.heartbeatRequest.Same { HeartbeatRequest.sample with sinceSequence := 7 }
          read := by
  refine ⟨by decide, ?_⟩
  rintro ⟨read, decoded, same⟩
  have stored : decodeMessage .heartbeatRequest (encodeMessage .heartbeatRequest
      { HeartbeatRequest.sample with sinceSequence := 7 }) = .ok .sample := rfl
  cases stored.symm.trans decoded
  exact absurd (congrArg HeartbeatRequest.sinceSequence same) (by decide)

end Protocol

end SiteFabric
