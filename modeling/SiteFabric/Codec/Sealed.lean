import SiteFabric.Codec.Exactness
import SiteFabric.Core.Sealing

/-! What the decoder makes of a sealed declaration.
Sealing and decoding check the same claims by rules of their own. Sealing looks
into the members of a failure domain and the scopes of a zone, but not at the
identities a cluster or a pod names, and it bounds none of these lists but the
members of a failure domain; the decoder checks them all. -/

namespace SiteFabric

open Lib Lib.Reader

/-! What a check that passes says of the parts a decoder asks for. -/

theorem Evidence.readable_of_check {e : Evidence} (passed : e.check = .ok ()) :
    e.readable = true := by
  unfold check at passed
  split_ifs at passed with _ _ bounds
  exact decide_eq_true (UInt64.not_lt.mp (not_or.mp bounds).2)

theorem header_readable {valid : Bool} {generation : Generation} {evidence : Evidence}
    (passed : checkHeader valid generation evidence = .ok ()) :
    valid = true ∧ evidence.readable = true :=
  (checkHeader_ok passed).imp_right Evidence.readable_of_check

theorem checkCapacity_ok {v : CapacityVector} (passed : checkCapacity v = .ok ()) :
    v.readable = true := by
  unfold checkCapacity at passed
  split at passed
  · next within =>
    simp only [validCapacity, Bool.and_eq_true, Bool.not_eq_true', Bool.and_eq_false_iff,
      decide_eq_false_iff_not, gt_iff_lt, UInt64.not_lt] at within
    simp only [CapacityVector.readable, CapacityValue.readable, Bool.and_eq_true, Bool.or_eq_true,
      Bool.not_eq_true', decide_eq_true_eq]
    exact within
  · cases passed

theorem MemberDomainDeclaration.checkEnvelope_ok {d : MemberDomainDeclaration} (passed : d.checkEnvelope = .ok ()) :
    d.domain.valid = true ∧ d.site.valid = true ∧ d.evidence.readable = true := by
  unfold checkEnvelope at passed
  split at passed
  · cases passed
  next named =>
  split at passed
  · cases passed
  obtain ⟨_, evidence, -⟩ := bind_ok passed
  simp only [Bool.or_eq_true, Bool.not_eq_true', not_or, Bool.not_eq_false] at named
  exact ⟨named.1.1, named.1.2, Evidence.readable_of_check evidence⟩

theorem ResourceKey.readable_of_valid {key : ResourceKey} (valid : key.valid = true) :
    key.readable = true := by
  obtain ⟨kind, id⟩ := Bool.and_eq_true_iff.mp valid
  unfold readable
  split
  · next unknown =>
    rw [unknown] at kind
    cases kind
  · exact id

theorem MemberDomainKey.readable_of_valid {key : MemberDomainKey} (valid : key.valid = true) :
    key.readable = true := by
  obtain ⟨kind, id⟩ := Bool.and_eq_true_iff.mp valid
  unfold readable
  split
  · next unknown =>
    rw [unknown] at kind
    cases kind
  · exact id

/-- A list of identities that the decoder reads. -/
def Listed {tag : IdTag} (bound : Nat) (ids : List (StrongId tag)) : Prop :=
  ids.length ≤ bound + 1 ∧ ∀ id ∈ ids, id.valid = true

def ClusterClaim.Nests (claim : ClusterClaim) : Prop :=
  Listed Limits.maxResourceMembers claim.pods ∧ Listed Limits.maxResourceMembers claim.racks

def PodClaim.Nests (claim : PodClaim) : Prop := Listed Limits.maxResourceMembers claim.racks

def MaintenanceZone.Nests (zone : MaintenanceZone) : Prop :=
  zone.domains.length ≤ Limits.maxFailureDomainsPerDeclaration + 1 ∧
    zone.resources.length ≤ Limits.maxResourceMembers + 1

theorem listed_iff {tag : IdTag} {bound : Nat} {ids : List (StrongId tag)} :
    (Codec.list (bound + 1) (Codec.strongId tag)).readable ids = true ↔ Listed bound ids := by
  change (decide (ids.length ≤ bound + 1) && ids.all StrongId.valid) = true ↔ _
  rw [Bool.and_eq_true, decide_eq_true_eq, List.all_eq_true, Listed]

theorem keys_readable {keys : List ResourceKey} (valid : keys.all ResourceKey.valid = true) :
    keys.all ResourceKey.readable = true :=
  List.all_eq_true.mpr fun key member =>
    ResourceKey.readable_of_valid (List.all_eq_true.mp valid key member)

theorem RackClaim.readable_of_check {claim checked : RackClaim} (passed : claim.check = .ok checked) :
    Codec.rackClaim.readable checked = true := by
  obtain ⟨rfl, header, capacity⟩ := measured_ok passed
  obtain ⟨id, evidence⟩ := header_readable header
  change (checked.id.valid && (true && (checked.localCapacity.readable && (true &&
    checked.evidence.readable)))) = true
  rw [id, checkCapacity_ok capacity, evidence]
  rfl

theorem SharedLinkClaim.readable_of_check {claim checked : SharedLinkClaim}
    (passed : claim.check = .ok checked) : Codec.sharedLinkClaim.readable checked = true := by
  obtain ⟨rfl, header, capacity⟩ := measured_ok passed
  obtain ⟨id, evidence⟩ := header_readable header
  change (checked.id.valid && (true && (true && (checked.capacity.readable && (true &&
    checked.evidence.readable))))) = true
  rw [id, checkCapacity_ok capacity, evidence]
  rfl

theorem GatewayClaim.readable_of_check {claim checked : GatewayClaim}
    (passed : claim.check = .ok checked) : Codec.gatewayClaim.readable checked = true := by
  obtain ⟨rfl, header, capacity⟩ := measured_ok passed
  obtain ⟨id, evidence⟩ := header_readable header
  change (checked.id.valid && (true && (checked.capacity.readable && (true &&
    checked.evidence.readable)))) = true
  rw [id, checkCapacity_ok capacity, evidence]
  rfl

theorem CapacityContribution.readable_of_check {claim checked : CapacityContribution}
    (passed : claim.check = .ok checked) : Codec.capacityContribution.readable checked = true := by
  obtain ⟨rfl, header, capacity⟩ := measured_ok passed
  obtain ⟨named, evidence⟩ := header_readable header
  obtain ⟨owner, -⟩ := Bool.and_eq_true_iff.mp named
  change (checked.owner.readable && (true && (true && (checked.capacity.readable &&
    checked.evidence.readable)))) = true
  rw [ResourceKey.readable_of_valid owner, checkCapacity_ok capacity, evidence]
  rfl

theorem ProtectedObligation.readable_of_check {claim checked : ProtectedObligation}
    (passed : claim.check = .ok checked) : Codec.protectedObligation.readable checked = true := by
  obtain ⟨_, header, passed⟩ := bind_ok passed
  obtain ⟨_, _, returned⟩ := bind_ok passed
  cases returned
  obtain ⟨valid, evidence⟩ := header_readable header
  simp only [ProtectedObligation.valid, Bool.and_eq_true] at valid
  obtain ⟨⟨⟨⟨⟨id, -⟩, -⟩, domain⟩, resource⟩, -⟩ := valid
  have scope : claim.scopeResource.all ResourceKey.readable = true := by
    cases named : claim.scopeResource with
    | none => rfl
    | some key =>
      rw [named] at resource
      exact ResourceKey.readable_of_valid resource
  change (claim.id.valid && (true && (claim.scopeDomain.all StrongId.valid &&
    (claim.scopeResource.all ResourceKey.readable && (true && (true && (true &&
      claim.evidence.readable))))))) = true
  rw [id, domain, scope, evidence]
  rfl

theorem ClusterClaim.readable_iff (claim : ClusterClaim) :
    Codec.clusterClaim.readable claim = true ↔
      claim.id.valid = true ∧ claim.Nests ∧ claim.evidence.readable = true := by
  change (claim.id.valid && (true && ((Codec.list _ (Codec.strongId .pod)).readable _ &&
    ((Codec.list _ (Codec.strongId .rack)).readable _ && claim.evidence.readable)))) = true ↔ _
  rw [Bool.true_and, Bool.and_eq_true, Bool.and_eq_true, Bool.and_eq_true, listed_iff, listed_iff,
    Nests, and_assoc]

theorem PodClaim.readable_iff (claim : PodClaim) :
    Codec.podClaim.readable claim = true ↔
      claim.id.valid = true ∧ claim.Nests ∧ claim.evidence.readable = true := by
  change (claim.id.valid && (true && ((Codec.list _ (Codec.strongId .rack)).readable _ &&
    claim.evidence.readable))) = true ↔ _
  rw [Bool.true_and, Bool.and_eq_true, Bool.and_eq_true, listed_iff, Nests]

theorem MaintenanceZone.readable_iff (zone : MaintenanceZone) :
    Codec.maintenanceZone.readable zone = true ↔
      zone.id.valid = true ∧ zone.domains.all StrongId.valid = true ∧
        zone.resources.all ResourceKey.readable = true ∧ zone.Nests ∧
        zone.evidence.readable = true := by
  change (zone.id.valid && (true && (true && (true && ((decide _ &&
    zone.domains.all StrongId.valid) && ((decide _ && zone.resources.all ResourceKey.readable) &&
      (true && zone.evidence.readable))))))) = true ↔ _
  simp only [Bool.true_and, Bool.and_eq_true, decide_eq_true_eq, Nests]
  tauto

/-- A checked list is read exactly when each claim of it is. -/
theorem list_readable_iff {α : Type} {c : Codec α} {check : α → Except Status α} {bound : Nat}
    {items : List α} {p : α → Prop}
    (checked : items.length ≤ bound ∧ ∀ a ∈ items, ∃ claim, check claim = .ok a)
    (readable : ∀ claim a, check claim = .ok a → (c.readable a = true ↔ p a)) :
    (Codec.list (bound + 1) c).readable items = true ↔ ∀ a ∈ items, p a := by
  change (decide (items.length ≤ bound + 1) && items.all c.readable) = true ↔ _
  rw [decide_eq_true (checked.1.trans (Nat.le_succ bound)), Bool.true_and, List.all_eq_true]
  refine forall_congr' fun a => forall_congr' fun member => ?_
  obtain ⟨claim, passed⟩ := checked.2 a member
  exact readable claim a passed

theorem list_readable {α : Type} {c : Codec α} {check : α → Except Status α} {bound : Nat}
    {items : List α}
    (checked : items.length ≤ bound ∧ ∀ a ∈ items, ∃ claim, check claim = .ok a)
    (readable : ∀ claim a, check claim = .ok a → c.readable a = true) :
    (Codec.list (bound + 1) c).readable items = true :=
  (list_readable_iff (p := fun _ => True) checked fun claim a passed =>
    iff_of_true (readable claim a passed) trivial).mpr fun _ _ => trivial

theorem list_nests {α : Type} {c : Codec α} {bound : Nat} {items : List α} {p : α → Prop}
    (readable : (Codec.list bound c).readable items = true)
    (nests : ∀ a, c.readable a = true → p a) : ∀ a ∈ items, p a := fun a member =>
  nests a (List.all_eq_true.mp (Bool.and_eq_true_iff.mp readable).2 a member)

section Nested

variable [StdSort]

theorem sortUnique_all {β : Type} [LinearOrder β] {p : β → Bool} {xs : List β}
    (all : xs.all p = true) : (sortUnique xs).all p = true :=
  List.all_eq_true.mpr fun x member =>
    List.all_eq_true.mp all x (mem_sortUnique.mp member)

theorem FailureDomainClaim.readable_of_check {claim checked : FailureDomainClaim}
    (passed : claim.check = .ok checked) : Codec.failureDomainClaim.readable checked = true := by
  obtain ⟨_, header, passed⟩ := bind_ok passed
  dsimp only at passed
  split at passed
  · cases passed
  next few =>
  obtain ⟨_, _, returned⟩ := bind_ok passed
  cases returned
  obtain ⟨valid, evidence⟩ := header_readable header
  simp only [FailureDomainClaim.valid, Bool.and_eq_true] at valid
  obtain ⟨⟨⟨⟨id, -⟩, -⟩, parent⟩, members⟩ := valid
  have above : claim.parent.all StrongId.valid = true := by
    cases named : claim.parent with
    | none => rfl
    | some upper =>
      rw [named] at parent
      exact (Bool.and_eq_true_iff.mp parent).1
  have within : decide ((sortUnique claim.members).length ≤ Limits.maxResourceMembers + 1) = true :=
    decide_eq_true (by omega)
  change (claim.id.valid && (true && (claim.parent.all StrongId.valid && ((decide _ &&
    (sortUnique claim.members).all ResourceKey.readable) && (true &&
      claim.evidence.readable))))) = true
  rw [id, above, within, keys_readable (sortUnique_all members), evidence]
  rfl

theorem ClusterClaim.readable_of_check {claim checked : ClusterClaim}
    (passed : claim.check = .ok checked) :
    Codec.clusterClaim.readable checked = true ↔ checked.Nests := by
  obtain ⟨_, header, passed⟩ := bind_ok passed
  obtain ⟨_, _, returned⟩ := bind_ok passed
  cases returned
  obtain ⟨id, evidence⟩ := header_readable header
  rw [ClusterClaim.readable_iff, and_iff_right id, and_iff_left evidence]

theorem PodClaim.readable_of_check {claim checked : PodClaim} (passed : claim.check = .ok checked) :
    Codec.podClaim.readable checked = true ↔ checked.Nests := by
  obtain ⟨_, header, passed⟩ := bind_ok passed
  obtain ⟨_, _, returned⟩ := bind_ok passed
  cases returned
  obtain ⟨id, evidence⟩ := header_readable header
  rw [PodClaim.readable_iff, and_iff_right id, and_iff_left evidence]

theorem MaintenanceZone.readable_of_check {claim checked : MaintenanceZone}
    (passed : claim.check = .ok checked) :
    Codec.maintenanceZone.readable checked = true ↔ checked.Nests := by
  obtain ⟨_, header, passed⟩ := bind_ok passed
  dsimp only at passed
  split at passed
  · cases passed
  obtain ⟨_, _, returned⟩ := bind_ok passed
  cases returned
  obtain ⟨valid, evidence⟩ := header_readable header
  simp only [MaintenanceZone.valid, Bool.and_eq_true] at valid
  obtain ⟨⟨⟨⟨id, -⟩, -⟩, domains⟩, resources⟩ := valid
  rw [MaintenanceZone.readable_iff, and_iff_right id, and_iff_right (sortUnique_all domains),
    and_iff_right (keys_readable (sortUnique_all resources)), and_iff_left evidence]

namespace MemberDomainDeclaration

/-- What clusters, pods and zones name is within the limits of the decoder. -/
structure Nests (d : MemberDomainDeclaration) : Prop where
  clusters : ∀ claim ∈ d.clusters, claim.Nests
  pods : ∀ claim ∈ d.pods, claim.Nests
  zones : ∀ zone ∈ d.maintenanceZones, zone.Nests

theorem readable_iff_nests {d canonical : MemberDomainDeclaration}
    (accepted : d.sealDeclaration = .ok canonical) :
    Codec.declaration.readable canonical = true ↔ canonical.Nests := by
  obtain ⟨_, accepted, sealing⟩ := bind_ok accepted
  obtain ⟨_, envelope, accepted⟩ := bind_ok accepted
  obtain ⟨_, clusters, accepted⟩ := bind_ok accepted
  obtain ⟨_, pods, accepted⟩ := bind_ok accepted
  obtain ⟨_, racks, accepted⟩ := bind_ok accepted
  obtain ⟨_, links, accepted⟩ := bind_ok accepted
  obtain ⟨_, gateways, accepted⟩ := bind_ok accepted
  obtain ⟨_, capacity, accepted⟩ := bind_ok accepted
  obtain ⟨_, domains, accepted⟩ := bind_ok accepted
  obtain ⟨_, zones, accepted⟩ := bind_ok accepted
  obtain ⟨_, obligations, accepted⟩ := bind_ok accepted
  cases accepted
  cases sealing
  have clusters := list_readable_iff (canonicalizeClaims_checked clusters)
    fun _ _ => ClusterClaim.readable_of_check
  have pods := list_readable_iff (canonicalizeClaims_checked pods) 
    fun _ _ => PodClaim.readable_of_check
  have zones := list_readable_iff (canonicalizeClaims_checked zones)
    fun _ _ => MaintenanceZone.readable_of_check
  have racks := list_readable (canonicalizeClaims_checked racks)
    fun _ _ => RackClaim.readable_of_check
  have links := list_readable (canonicalizeClaims_checked links)
    fun _ _ => SharedLinkClaim.readable_of_check
  have gateways := list_readable (canonicalizeClaims_checked gateways)
    fun _ _ => GatewayClaim.readable_of_check
  have capacity := list_readable (canonicalizeClaims_checked capacity)
    fun _ _ => CapacityContribution.readable_of_check
  have domains := list_readable (canonicalizeClaims_checked domains)
    fun _ _ => FailureDomainClaim.readable_of_check
  have obligations := list_readable (canonicalizeClaims_checked obligations)
    fun _ _ => ProtectedObligation.readable_of_check
  obtain ⟨domain, site, evidence⟩ := checkEnvelope_ok envelope
  change (d.domain.readable && (d.site.valid && (true && (true && (true && (d.evidence.readable &&
    ((Codec.list _ Codec.clusterClaim).readable _ && ((Codec.list _ Codec.podClaim).readable _ &&
    ((Codec.list _ Codec.rackClaim).readable _ && ((Codec.list _ Codec.sharedLinkClaim).readable _ &&
    ((Codec.list _ Codec.gatewayClaim).readable _ &&
    ((Codec.list _ Codec.capacityContribution).readable _ &&
    ((Codec.list _ Codec.failureDomainClaim).readable _ &&
    ((Codec.list _ Codec.maintenanceZone).readable _ &&
      (Codec.list _ Codec.protectedObligation).readable _)))))))))))))) = true ↔ _
  rw [MemberDomainKey.readable_of_valid domain, site, evidence, racks, links, gateways, capacity,
    domains, obligations]
  simp only [Bool.true_and, Bool.and_true, Bool.and_eq_true, clusters, pods, zones]
  exact ⟨fun ⟨first, second, third⟩ => ⟨first, second, third⟩,
    fun nests => ⟨nests.clusters, nests.pods, nests.zones⟩⟩

/-- What is sent and hashed of a declaration: all but its digest, the digests of
its records, the source of an evidence and the figure of an unknown channel. -/
def content (d : MemberDomainDeclaration) : MemberDomainDeclaration :=
  { Codec.declaration.stored d with digest := Digest.zero }

omit [StdSort] in
/-- What the decoder reads is within its limits. -/
theorem nests_of_readable {d : MemberDomainDeclaration}
    (readable : Codec.declaration.readable d = true) : d.Nests := by
  simp only [Codec.declaration, Codec.readable_record, Codec.readable_and, Bool.and_eq_true]
    at readable
  obtain ⟨-, -, -, -, -, -, clusters, pods, -, -, -, -, -, zones, -⟩ := readable
  exact ⟨list_nests clusters fun claim one => (claim.readable_iff.mp one).2.1,
    list_nests pods fun claim one => (claim.readable_iff.mp one).2.1,
    list_nests zones fun zone one => (zone.readable_iff.mp one).2.2.2.1⟩

/-- A sealed declaration is read back as what it is exactly when what its
clusters, pods and zones name is within the limits of the decoder. -/
theorem sealed_travels_iff {d canonical : MemberDomainDeclaration}
    (accepted : d.sealDeclaration = .ok canonical) :
    (∃ read, Codec.declaration.read canonical.write = .ok (read, []) ∧
      read.content = canonical.content ∧ read.digest = canonical.digest) ↔ canonical.Nests := by
  constructor
  · rintro ⟨read, run, same, -⟩
    have nests := nests_of_readable (Codec.declaration.yielded run).1
    have stable := Codec.declaration_plain.yielded run
    rw [content, stable] at same
    have clusters : read.clusters = canonical.clusters.map Codec.clusterClaim.stored :=
      congrArg MemberDomainDeclaration.clusters same
    have pods : read.pods = canonical.pods.map Codec.podClaim.stored :=
      congrArg MemberDomainDeclaration.pods same
    have zones : read.maintenanceZones = canonical.maintenanceZones.map Codec.maintenanceZone.stored :=
      congrArg MemberDomainDeclaration.maintenanceZones same
    refine ⟨fun claim member => ?_, fun claim member => ?_, fun zone member => ?_⟩
    · have kept := nests.clusters _ (clusters ▸ List.mem_map_of_mem member)
      change Listed _ (claim.pods.map id) ∧ Listed _ (claim.racks.map id) at kept
      rwa [List.map_id, List.map_id] at kept
    · have kept := nests.pods _ (pods ▸ List.mem_map_of_mem member)
      change Listed _ (claim.racks.map id) at kept
      rwa [List.map_id] at kept
    · have kept := nests.zones _ (zones ▸ List.mem_map_of_mem member)
      change (zone.domains.map id).length ≤ _ ∧ (zone.resources.map id).length ≤ _ at kept
      rwa [List.length_map, List.length_map] at kept
  · intro nests
    have run := Codec.declaration_returns canonical [] ((readable_iff_nests accepted).mpr nests)
    rw [List.append_nil] at run
    change Codec.declaration.read canonical.write = _ at run
    refine ⟨_, run, ?_, ?_⟩
    · rw [content, Codec.declaration_plain.yielded run, content]
    · obtain ⟨used, split, digest⟩ := Codec.digest_of_read run
      rw [digest, ← (List.append_nil used), ← split]
      obtain ⟨_, _, sealing⟩ := bind_ok accepted
      cases sealing
      rfl

end MemberDomainDeclaration

end Nested

namespace MemberDomainDeclaration

/-- A declaration of one cluster with one pod. -/
def clusterOf (pod : Text) : MemberDomainDeclaration :=
  let evidence : Evidence := { provenance := .measured, observedAtMs := 1, ttlMs := 1 }
  { domain := { kind := .cluster, id := ascii "c1" }, site := ⟨ascii "s1"⟩, generation := ⟨1⟩
    clusters := [{ id := ⟨ascii "c1"⟩, generation := ⟨1⟩, pods := [⟨pod⟩], evidence }], evidence }

def clusterOf.sealed (pod : Text) : MemberDomainDeclaration :=
  { clusterOf pod with digest := (clusterOf pod).computeDigest }

theorem named_pod_travels :
    (clusterOf (ascii "p1")).sealDeclaration = .ok (clusterOf.sealed (ascii "p1")) ∧
      ((∃ read, Codec.declaration.read (clusterOf.sealed (ascii "p1")).write = .ok (read, []) ∧
        read.content = (clusterOf.sealed (ascii "p1")).content ∧
        read.digest = (clusterOf.sealed (ascii "p1")).digest) ↔
          (clusterOf.sealed (ascii "p1")).Nests) := by
  have accepted : (clusterOf (ascii "p1")).sealDeclaration =
      .ok (clusterOf.sealed (ascii "p1")) := rfl
  exact ⟨accepted, sealed_travels_iff accepted⟩

/-- A cluster whose pod has no name is sealed, and the decoder refuses it. -/
theorem nameless_pod_does_not_travel :
    (clusterOf Text.empty).sealDeclaration = .ok (clusterOf.sealed Text.empty) ∧
      ¬ ∃ read, Codec.declaration.read (clusterOf.sealed Text.empty).write = .ok (read, []) ∧
        read.content = (clusterOf.sealed Text.empty).content ∧
        read.digest = (clusterOf.sealed Text.empty).digest := by
  have refused : Codec.declaration.read (clusterOf.sealed Text.empty).write =
      .error .malformed := by decide +kernel
  refine ⟨rfl, ?_⟩
  rintro ⟨read, run, -⟩
  rw [refused] at run
  cases run

end MemberDomainDeclaration

end SiteFabric
