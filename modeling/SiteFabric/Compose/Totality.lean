import SiteFabric.Compose.Selected
import SiteFabric.Compose.Sealed
import SiteFabric.Lib.Run

/-! When composition reads a claim that is not there.
Connectivity checks that a record holds a link or a gateway before it reads one;
the up-counts of the obligations check only the record's status. A capacity
contribution may own a link or gateway key, so a key can be settled with no link
or gateway claim behind it, and an up-count over it has nothing to read. -/

namespace SiteFabric

open Lib

/-- The kind of resource an up-count is over. -/
def ObligationKind.wanted : ObligationKind → Option ResourceKind
  | .minUpSharedLinks => some .sharedLink
  | .minUpGateways => some .gateway
  | _ => none

theorem countUpStep_eq_none_iff {wanted : ResourceKind} {scope : Option ResourceKey}
    (seen : Observation) (entry : ResourceKey × ResourceRecord) :
    countUpStep wanted scope seen entry = none ↔
      entry.1.kind = wanted ∧ (∀ resource, scope = some resource → resource = entry.1) ∧
        entry.2.status = .ok ∧ entry.2.stateOf wanted = none := by
  obtain ⟨key, record⟩ := entry
  have admits : scope.any (· ≠ key) = true ↔
      ¬ ∀ resource, scope = some resource → resource = key := by
    cases scope <;> simp
  unfold countUpStep
  dsimp only
  by_cases kind : key.kind = wanted
  · rw [if_neg (by simpa using kind)]
    by_cases outside : scope.any (· ≠ key) = true
    · rw [if_pos outside]
      exact ⟨(fun impossible => nomatch impossible), fun read => absurd read.2.1 (admits.mp outside)⟩
    · rw [if_neg outside]
      have inside := Classical.not_not.mp (mt admits.mpr outside)
      by_cases ok : record.status = .ok
      · rw [if_neg (by simpa using ok), Option.map_eq_none_iff]
        exact ⟨fun absent => ⟨kind, inside, ok, absent⟩, fun read => read.2.2.2⟩
      · rw [if_pos ok]
        exact ⟨(fun impossible => nomatch impossible), fun read => absurd read.2.2.1 ok⟩
  · rw [if_pos kind]
    exact ⟨(fun impossible => nomatch impossible), fun read => absurd read.1 kind⟩

theorem countUp_eq_none_iff {resources : Resources} {wanted : ResourceKind}
    {scope : Option ResourceKey} :
    countUp resources wanted scope = none ↔
      ∃ (key : ResourceKey) (record : ResourceRecord), resources[key]? = some record ∧
        key.kind = wanted ∧ (∀ resource, scope = some resource → resource = key) ∧
        record.status = .ok ∧ record.stateOf wanted = none := by
  rw [countUp, foldlM_eq_none_iff countUpStep_eq_none_iff]
  simp only [Prod.exists, mem_toList_iff]

theorem verdictFor_eq_none_iff {resources : Resources} {forest : FailureDomainForest}
    {available : CapacityVector} {record : ResourceRecord} {obligation : ProtectedObligation} :
    verdictFor resources forest available record obligation = none ↔
      record.status = .ok ∧ ∃ wanted, obligation.kind.wanted = some wanted ∧
        countUp resources wanted obligation.scopeResource = none := by
  unfold verdictFor
  by_cases ok : record.status = .ok
  · by_cases count : obligation.kind.isCount = true
    · have read : countFor resources forest obligation = none ↔ ∃ wanted,
          obligation.kind.wanted = some wanted ∧
            countUp resources wanted obligation.scopeResource = none := by
        unfold countFor
        cases kind : obligation.kind <;> simp [ObligationKind.wanted]
      simp [ok, count, read]
    · have other : obligation.kind.wanted = none := by
        cases kind : obligation.kind <;> simp_all [ObligationKind.wanted, ObligationKind.isCount]
      simp only [ok, ne_eq, not_true_eq_false, if_false, count, Bool.false_eq_true, other]
      constructor
      · intro absent
        split at absent
        · cases absent
        · split at absent <;> cases absent
      · rintro ⟨_, _, impossible, _⟩
        cases impossible
  · simp [ok]

/-- The verdict stage fails exactly on an attributed up-count whose scope admits
an attributed record without the claim it reads. -/
theorem buildObligations_eq_none_iff [StdSort] {resources : Resources} {out : ComposedSite} :
    buildObligations resources out = none ↔
      ∃ (home : ResourceKey) (holder : ResourceRecord) (obligation : ProtectedObligation)
        (wanted : ResourceKind) (key : ResourceKey) (record : ResourceRecord),
        (resources[home]? = some holder ∧ home.kind = .obligation ∧
          holder.obligation = some obligation ∧ holder.status = .ok) ∧
        obligation.kind.wanted = some wanted ∧
        (resources[key]? = some record ∧ key.kind = wanted ∧
          (∀ resource, obligation.scopeResource = some resource → resource = key) ∧
          record.status = .ok ∧ record.stateOf wanted = none) := by
  rw [buildObligations, Option.map_eq_none_iff, mapM_eq_none_iff]
  simp only [Prod.exists, obligationRecords, List.mem_filterMap, mem_toList_iff,
    verdictFor_eq_none_iff, countUp_eq_none_iff]
  constructor
  · rintro ⟨holder, obligation, ⟨home, holder', found, held⟩, ok, wanted, counts, key, record, read⟩
    split at held
    · next kind =>
      obtain ⟨_, slot, same⟩ := Option.map_eq_some_iff.mp held
      obtain ⟨rfl, rfl⟩ := Prod.mk.inj same
      exact ⟨home, holder', _, wanted, key, record, ⟨found, kind, slot, ok⟩, counts, read⟩
    · cases held
  · rintro ⟨home, holder, obligation, wanted, key, record, ⟨found, kind, slot, ok⟩, counts, read⟩
    refine ⟨holder, obligation, ⟨home, holder, found, ?_⟩, ok, wanted, counts, key, record, read⟩
    rw [if_pos kind, slot]
    rfl

namespace CompositionInput

variable [StdSort] (input : CompositionInput) (expectation : SiteExpectation)

/-- The obligation in force under an id: the last one the selected records declare. -/
def inForce (id : ObligationId) : Option ProtectedObligation :=
  ((input.claimsOn (.obligation id)).filterMap Claim.obligation?).getLast?

/-- An up-count in force, settled, over a settled key of the wanted kind that only
capacity contributions name. -/
structure Blind (obligation : ProtectedObligation) (wanted : ResourceKind) (key : ResourceKey) :
    Prop where
  inForce : input.inForce obligation.id = some obligation
  settled : input.Settled expectation (.obligation obligation.id)
  counts : obligation.kind.wanted = some wanted
  kind : key.kind = wanted
  inScope : ∀ resource, obligation.scopeResource = some resource → resource = key
  settledKey : input.Settled expectation key
  onlyPooled : ∀ claim ∈ input.claimsOn key, ∃ contribution, claim = .pool contribution

end CompositionInput

/-- Under a link key there are link claims and capacity contributions only. -/
theorem Claim.unlinked_iff {claim : Claim} (kind : claim.key.kind = .sharedLink) :
    claim.link? = none ↔ ∃ contribution, claim = .pool contribution := by
  cases claim <;> simp_all [Claim.key, Claim.link?, ResourceKey.cluster, ResourceKey.pod,
    ResourceKey.rack, ResourceKey.gateway, ResourceKey.failureDomain,
    ResourceKey.maintenanceZone, ResourceKey.obligation]

/-- Under a gateway key there are gateway claims and capacity contributions only. -/
theorem Claim.ungated_iff {claim : Claim} (kind : claim.key.kind = .gateway) :
    claim.gateway? = none ↔ ∃ contribution, claim = .pool contribution := by
  cases claim <;> simp_all [Claim.key, Claim.gateway?, ResourceKey.cluster, ResourceKey.pod,
    ResourceKey.rack, ResourceKey.sharedLink, ResourceKey.failureDomain,
    ResourceKey.maintenanceZone, ResourceKey.obligation]

namespace CompositionInput

variable [StdSort] {input : CompositionInput} {expectation : SiteExpectation}

theorem slot_eq_none_iff {γ : Type} {slot : ResourceRecord → Option γ} {read : Claim → Option γ}
    (of : ResourceRecord.Slot slot read) {key : ResourceKey} {record : ResourceRecord}
    (found : (input.resources expectation)[key]? = some record) :
    slot record = none ↔ ∀ claim ∈ input.claimsOn key, read claim = none := by
  rw [resources_slot_eq of found, List.getLast?_eq_none_iff, List.filterMap_eq_nil_iff]

/-- The claim an up-count reads is absent exactly when only capacity contributions
name the key. -/
theorem stateOf_eq_none_iff {kind : ObligationKind} {wanted : ResourceKind}
    (counts : kind.wanted = some wanted) {key : ResourceKey} (named : key.kind = wanted)
    {record : ResourceRecord} (found : (input.resources expectation)[key]? = some record) :
    record.stateOf wanted = none ↔
      ∀ claim ∈ input.claimsOn key, ∃ contribution, claim = .pool contribution := by
  have under : ∀ claim ∈ input.claimsOn key, claim.key.kind = wanted := by
    intro claim member
    obtain ⟨_, _, _, same⟩ := mem_claimsOn.mp member
    rw [same, named]
  unfold ResourceRecord.stateOf
  cases kind <;> cases counts
  · rw [if_pos rfl, Option.map_eq_none_iff, slot_eq_none_iff ResourceRecord.linkSlot found]
    exact forall₂_congr fun claim member => Claim.unlinked_iff (under claim member)
  · rw [if_neg (by decide), Option.map_eq_none_iff,
      slot_eq_none_iff ResourceRecord.gatewaySlot found]
    exact forall₂_congr fun claim member => Claim.ungated_iff (under claim member)

/-- An obligation held under a key is in force under its own id. -/
theorem inForce_of_slot {home : ResourceKey} {holder : ResourceRecord}
    {obligation : ProtectedObligation}
    (found : (input.resources expectation)[home]? = some holder)
    (held : holder.obligation = some obligation) :
    home = .obligation obligation.id ∧ input.inForce obligation.id = some obligation := by
  rw [resources_slot_eq ResourceRecord.obligationSlot found] at held
  obtain ⟨claim, member, read⟩ := List.mem_filterMap.mp (List.mem_of_getLast? held)
  obtain ⟨_, _, _, named⟩ := mem_claimsOn.mp member
  have same : home = .obligation obligation.id := by
    rw [← named]
    cases claim <;> cases read
    rfl
  refine ⟨same, ?_⟩
  rw [inForce, ← same]
  exact held

theorem buildObligations_eq_none_iff_blind (expectation : SiteExpectation)
    (few : input.publications.length ≤ Limits.maxMemberDomains) (out : ComposedSite) :
    buildObligations (input.resources expectation) out = none ↔
      ∃ obligation wanted key, input.Blind expectation obligation wanted key := by
  rw [buildObligations_eq_none_iff]
  constructor
  · rintro ⟨home, holder, obligation, wanted, key, record, ⟨found, _, held, ok⟩, counts,
      found', kind, inScope, ok', absent⟩
    obtain ⟨rfl, inForce⟩ := inForce_of_slot found held
    exact ⟨obligation, wanted, key, {
      inForce, counts, kind, inScope
      settled := (resources_ok_iff_settled few found).mp ok
      settledKey := (resources_ok_iff_settled few found').mp ok'
      onlyPooled := (stateOf_eq_none_iff counts kind found').mp absent }⟩
  · rintro ⟨obligation, wanted, key, blind⟩
    obtain ⟨holder, found⟩ := record_of_claimed _ blind.settled.named
    obtain ⟨record, found'⟩ := record_of_claimed _ blind.settledKey.named
    have held : holder.obligation = some obligation := by
      rw [resources_slot_eq ResourceRecord.obligationSlot found]
      exact blind.inForce
    exact ⟨_, holder, obligation, wanted, key, record,
      ⟨found, rfl, held, (resources_ok_iff_settled few found).mpr blind.settled⟩, blind.counts,
      found', blind.kind, blind.inScope,
      (resources_ok_iff_settled few found').mpr blind.settledKey,
      (stateOf_eq_none_iff blind.counts blind.kind found').mpr blind.onlyPooled⟩

end CompositionInput

/-- Composition reads an absent claim exactly when a settled up-count in force is
blind to a settled key in its scope. -/
theorem compose_total_iff [StdSort] (input : CompositionInput) :
    compose input ≠ .crashed ↔ ∀ expectation, input.prepare = .ok expectation →
      ∀ obligation wanted key, ¬ input.Blind expectation obligation wanted key := by
  unfold compose
  cases prepared : input.prepare with
  | error status => simp
  | ok expectation =>
    have few := (CompositionInput.prepare_ok prepared).1
    have blind := CompositionInput.buildObligations_eq_none_iff_blind expectation few
      (input.accounted expectation)
    cases built : buildObligations (input.resources expectation) (input.accounted expectation) with
    | none =>
      obtain ⟨obligation, wanted, key, hazard⟩ := blind.mp built
      simp only [built, ne_eq, not_true_eq_false, false_iff]
      intro safe
      exact safe expectation rfl obligation wanted key hazard
    | some out =>
      simp only [built, ne_eq, reduceCtorEq, not_false_eq_true, true_iff]
      rintro _ ⟨⟩ obligation wanted key hazard
      rw [blind.mpr ⟨obligation, wanted, key, hazard⟩] at built
      cases built

/-- The generation is a label: another one composes the same members. -/
theorem compose_generation [StdSort] {input : CompositionInput} {generation other : Generation}
    (set : generation.isSet = true) (set' : other.isSet = true) {site : ComposedSite}
    (composed : compose { input with generation } = .composed site) :
    ∃ site', compose { input with generation := other } = .composed site' ∧
      site'.members = site.members := by
  have prepared : ({ input with generation := other } : CompositionInput).prepare =
      ({ input with generation } : CompositionInput).prepare := by
    unfold CompositionInput.prepare CompositionInput.adopted
    simp only [set, set']
  obtain ⟨expectation, parts⟩ := CompositionInput.compose_composes composed
  have ready := prepared.trans parts.prepared
  have again : ∃ site', compose { input with generation := other } = .composed site' := by
    unfold compose at composed ⊢
    rw [parts.prepared] at composed
    rw [ready]
    dsimp only at composed ⊢
    split at composed
    · cases composed
    next out built =>
    split
    · next stuck =>
      have crash : buildObligations (({ input with generation } : CompositionInput).resources
          expectation) (({ input with generation } : CompositionInput).accounted expectation) =
            none := buildObligations_eq_none_iff.mpr (buildObligations_eq_none_iff.mp stuck)
      cases crash.symm.trans built
    · exact ⟨_, rfl⟩
  obtain ⟨site', composed'⟩ := again
  obtain ⟨expectation', parts'⟩ := CompositionInput.compose_composes composed'
  obtain rfl : expectation' = expectation :=
    Except.ok.inj (parts'.prepared.symm.trans ready)
  exact ⟨site', composed', parts'.members.trans parts.members.symm⟩

/-- A gateway key that only a capacity contribution names, under a count of the
gateways that are up. -/
def MemberDomainDeclaration.pooledGateway : MemberDomainDeclaration :=
  { MemberDomainDeclaration.sample (ascii "rack-1") with
    capacity := [
      { owner := ⟨.gateway, ascii "gw-1"⟩, scope := .gateway, generation := ⟨1⟩
        capacity := { ingress := .ofBps 10, egress := .ofBps 10 }, evidence := Evidence.sample }]
    obligations := [
      { id := ⟨ascii "uplink"⟩, kind := .minUpGateways, required := 1, generation := ⟨1⟩
        evidence := Evidence.sample }] }

theorem pooled_gateway_crashes_composition :
    (∀ record ∈ (CompositionInput.sample [.pooledGateway]).publications,
      ∃ declaration, record.declaration = some declaration ∧
        declaration.sealDeclaration = .ok declaration) ∧
      compose (CompositionInput.sample [.pooledGateway]) = .crashed := by
  constructor
  · intro record member
    rw [List.mem_singleton.mp member]
    exact ⟨_, rfl, by decide +kernel⟩
  · exact CompositionInput.crashed_of_sealed (by decide +kernel) .sample

end SiteFabric
