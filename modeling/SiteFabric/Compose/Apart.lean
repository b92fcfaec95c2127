import SiteFabric.Compose.Accounts
import SiteFabric.Compose.Totality
import SiteFabric.Core.Sources

/-! Two compositions that differ in what one domain says.
Under a key the domain says nothing of, attribution reads the same claims in both,
and everything the composition derives reads attribution by key. -/

namespace SiteFabric

open Lib
open Std (ExtTreeMap)

namespace Admissions

/-- The same admissions but for one domain. -/
def AgreeBut (domain : MemberDomainKey) (admissions' admissions : Admissions) : Prop :=
  ∀ other : MemberDomainKey, other ≠ domain → admissions'[other]? = admissions[other]?

/-- A domain makes no claim on a key. -/
def Silent (admissions : Admissions) (domain : MemberDomainKey) (key : ResourceKey) : Prop :=
  ∀ a, admissions[domain]? = some a → ∀ claim ∈ a.claims, claim.key ≠ key

end Admissions

section Agree

variable {admissions admissions' : Admissions} {domain : MemberDomainKey}
  (agree : Admissions.AgreeBut domain admissions' admissions) {key : ResourceKey}

theorem mentions_silent (silent : admissions.Silent domain key) (a : Admission)
    (found : admissions[domain]? = some a) :
    (a.claims.filter (·.key = key)).map (a, ·) = [] := by
  rw [List.map_eq_nil_iff, List.filter_eq_nil_iff]
  intro claim claimed
  simpa using silent a found claim claimed

include agree in
theorem mentionsOf_agree (silent : admissions.Silent domain key)
    (silent' : admissions'.Silent domain key) :
    mentionsOf admissions' key = mentionsOf admissions key := by
  rw [mentionsOf_eq, mentionsOf_eq]
  exact flatMap_toList_agree agree (mentions_silent silent) (mentions_silent silent')

variable [StdSort]

include agree in
/-- A record depends only on what is said of its key. -/
theorem resources_agree (silent : admissions.Silent domain key)
    (silent' : admissions'.Silent domain key) :
    (gatherResources admissions')[key]? = (gatherResources admissions)[key]? := by
  rw [resources_lookup, resources_lookup, mentionsOf_agree agree silent silent']

/-- The attestations of a record are the admissions' first claims on its key. -/
theorem resources_attestations (orderly : admissions.Orderly) {record : ResourceRecord}
    (found : (gatherResources admissions)[key]? = some record) :
    record.attestations = attestationsFor admissions.toList key := by
  obtain ⟨raw, resolved, same⟩ := resources_resolved orderly found
  rw [resolved, ResourceRecord.attestations_resolve, same]

/-- Whoever attests a record makes a claim on its key. -/
theorem attestor_claims (orderly : admissions.Orderly) {record : ResourceRecord}
    (found : (gatherResources admissions)[key]? = some record) {attestation : Attestation}
    (attested : attestation ∈ record.attestations) :
    ∃ a claim, admissions[attestation.source.domain]? = some a ∧ claim ∈ a.claims ∧
      claim.key = key := by
  rw [resources_attestations orderly found] at attested
  obtain ⟨named, a, claim, listed, first, rfl⟩ := mem_attestationsFor.mp attested
  obtain ⟨claimed, same⟩ := firstClaim_mem first
  refine ⟨a, claim, ?_, claimed, same⟩
  rw [show (a.attestation claim).source.domain = named from orderly.keyed named a listed]
  exact listed

theorem attestor_apart (orderly : admissions.Orderly) (silent : admissions.Silent domain key)
    {record : ResourceRecord} (found : (gatherResources admissions)[key]? = some record)
    {attestation : Attestation} (attested : attestation ∈ record.attestations) :
    attestation.source.domain ≠ domain := by
  intro same
  obtain ⟨a, claim, listed, claimed, named⟩ := attestor_claims orderly found attested
  rw [same] at listed
  exact silent a listed claim claimed named

end Agree

section Forest

variable {admissions admissions' : Admissions} {resources resources' : Resources}

/-- Resources that agree on some keys, read for those keys alone, read alike. -/
theorem filterMap_agree {γ : Type} {p : ResourceKey → Bool}
    (agree : ∀ key, p key = true → resources'[key]? = resources[key]?)
    {f : ResourceKey × ResourceRecord → Option γ}
    (only : ∀ entry, p entry.1 = false → f entry = none) :
    resources'.toList.filterMap f = resources.toList.filterMap f := by
  have spared : ∀ all : Resources,
      (all.toList.filter fun entry => p entry.1).filterMap f = all.toList.filterMap f := by
    intro all
    rw [List.filterMap_filter]
    refine List.filterMap_congr fun entry _ => ?_
    cases counted : p entry.1 with
    | false => rw [only entry counted]; rfl
    | true => rfl
  rw [← spared, ← spared, toList_filter_agree agree]

theorem domainRecords_agree
    (agree : ∀ key : ResourceKey, key.kind = .failureDomain → resources'[key]? = resources[key]?) :
    domainRecords resources' = domainRecords resources := by
  refine filterMap_agree (p := fun key => decide (key.kind = .failureDomain))
    (fun key kind => agree key (of_decide_eq_true kind)) fun entry other => ?_
  exact if_neg (of_decide_eq_false other)

/-- Connectivity reads links and gateways alone. -/
theorem composeConnectivity_agree [StdSort]
    (agree : ∀ key : ResourceKey, key.kind ∈ [ResourceKind.sharedLink, .gateway] →
      resources'[key]? = resources[key]?) :
    composeConnectivity resources' = composeConnectivity resources := by
  have spared : ∀ (all : Resources) (s : ConnectivitySummary),
      (all.toList.filter fun entry =>
        decide (entry.1.kind ∈ [ResourceKind.sharedLink, .gateway])).foldl
          ConnectivitySummary.post s = all.toList.foldl ConnectivitySummary.post s := by
    intro all s
    rw [List.foldl_filter]
    refine List.foldl_ext _ _ _ fun s entry _ => ?_
    split
    · rfl
    · next other =>
      obtain ⟨key, record⟩ := entry
      unfold ConnectivitySummary.post
      dsimp only
      split
      · next kind _ => exact absurd (by simp [kind]) other
      · next kind _ => exact absurd (by simp [kind]) other
      · rfl
  unfold composeConnectivity
  rw [← spared, ← spared resources, toList_filter_agree (p := fun key =>
    decide (key.kind ∈ [ResourceKind.sharedLink, .gateway])) fun key kind =>
      agree key (of_decide_eq_true kind)]

variable [StdSort] {domain : MemberDomainKey}
  (agree : Admissions.AgreeBut domain admissions' admissions)

include agree

theorem openNode_agree {entry : FailureDomainId × ResourceRecord}
    (apart : ∀ attestation ∈ entry.2.attestations, attestation.source.domain ≠ domain) :
    openNode admissions' entry = openNode admissions entry := by
  obtain ⟨id, record⟩ := entry
  have united : unitedMembers admissions' id record = unitedMembers admissions id record := by
    unfold unitedMembers
    congr 1
    refine List.flatMap_congr fun attestation attested => ?_
    rw [agree _ (apart attestation attested)]
  unfold openNode
  dsimp only
  rw [united]

/-- The forest reads failure-domain records and the declarations that attest them. -/
theorem openNodes_agree
    (same : ∀ key : ResourceKey, key.kind = .failureDomain → resources'[key]? = resources[key]?)
    (apart : ∀ (key : ResourceKey) record, key.kind = .failureDomain →
      resources[key]? = some record →
        ∀ attestation ∈ record.attestations, attestation.source.domain ≠ domain) :
    openNodes admissions' resources' = openNodes admissions resources := by
  unfold openNodes
  rw [domainRecords_agree same]
  refine List.map_congr_left fun entry member => openNode_agree agree ?_
  exact apart _ entry.2 rfl (mem_domainRecords.mp member)

theorem composeForest_agree
    (same : ∀ key : ResourceKey, key.kind = .failureDomain → resources'[key]? = resources[key]?)
    (apart : ∀ (key : ResourceKey) record, key.kind = .failureDomain →
      resources[key]? = some record →
        ∀ attestation ∈ record.attestations, attestation.source.domain ≠ domain) :
    composeForest admissions' resources' = composeForest admissions resources := by
  unfold composeForest plantForest
  rw [openNodes_agree agree same apart]

end Forest

namespace ResourceRecord

/-- The sources of a record are those of its attestations. -/
theorem mem_sources {record : ResourceRecord} {pool : List SourceRef}
    (fits : pool.length ≤ Limits.maxDecisionSources)
    (listed : ∀ attestation ∈ record.attestations, attestation.source ∈ pool) :
    SourceSet.Drawn pool record.sources ∧ ∀ source, source ∈ record.sources.items ↔
      ∃ attestation ∈ record.attestations, attestation.source = source := by
  have folded : record.sources =
      (record.attestations.map (·.source)).foldl SourceSet.insert {} := by
    rw [sources, List.foldl_map]
  rw [folded]
  obtain ⟨drawn, held⟩ := (SourceSet.drawn_empty pool).foldl fits
    (show ∀ r ∈ record.attestations.map (·.source), r ∈ pool by simpa using listed)
  refine ⟨drawn, fun source => ?_⟩
  rw [held]
  simp

end ResourceRecord

theorem ledgerEntry_attestors (excluded : List ResourceKey) (build : LedgerBuild) :
    (ledgerEntry excluded build).attestors = build.attestors := by
  unfold ledgerEntry
  dsimp only
  split
  · rfl
  · split <;> rfl

theorem ledgerBuild_attestors (key : ResourceKey) (record : ResourceRecord) (offer : Offer) :
    (ledgerBuild key record offer).attestors = record.sources := by
  unfold ledgerBuild
  dsimp only
  split
  · rfl
  · split <;> rfl

/-- The sources the admissions bring. -/
def Admissions.pool (admissions : Admissions) : List SourceRef :=
  admissions.toList.map fun entry => entry.2.source

theorem Admissions.Orderly.pool_fits {admissions : Admissions} (orderly : admissions.Orderly) :
    admissions.pool.length ≤ Limits.maxDecisionSources := by
  rw [pool, List.length_map]
  exact orderly.few

theorem Admissions.mem_pool {admissions : Admissions} {domain : MemberDomainKey} {a : Admission}
    (found : admissions[domain]? = some a) : a.source ∈ admissions.pool :=
  List.mem_map.mpr ⟨(domain, a), mem_toList_iff.mpr found, rfl⟩

section Sources

variable [StdSort] {admissions : Admissions} (orderly : admissions.Orderly) {key : ResourceKey}
  {record : ResourceRecord} (found : (gatherResources admissions)[key]? = some record)

include orderly found

/-- A source stands on a record exactly when its domain makes a claim on the key. -/
theorem resources_sources : SourceSet.Drawn admissions.pool record.sources ∧
    ∀ source, source ∈ record.sources.items ↔
      ∃ a, admissions[source.domain]? = some a ∧ a.source = source ∧
        ∃ claim ∈ a.claims, claim.key = key := by
  have attested := resources_attestations orderly found
  have listed : ∀ attestation ∈ record.attestations, attestation.source ∈ admissions.pool := by
    intro attestation member
    rw [attested] at member
    obtain ⟨_, a, _, named, _, rfl⟩ := mem_attestationsFor.mp member
    exact Admissions.mem_pool named
  obtain ⟨drawn, held⟩ := ResourceRecord.mem_sources orderly.pool_fits listed
  refine ⟨drawn, fun source => ?_⟩
  rw [held, attested]
  constructor
  · rintro ⟨_, member, rfl⟩
    obtain ⟨named, a, claim, listed, first, rfl⟩ := mem_attestationsFor.mp member
    obtain ⟨claimed, same⟩ := firstClaim_mem first
    refine ⟨a, ?_, rfl, claim, claimed, same⟩
    rw [show (a.attestation claim).source.domain = named from orderly.keyed named a listed]
    exact listed
  · rintro ⟨a, named, rfl, claim, claimed, rfl⟩
    obtain ⟨first, leads⟩ := firstClaim_of_mem claimed
    exact ⟨a.attestation first,
      mem_attestationsFor.mpr ⟨_, a, first, named, leads, rfl⟩, rfl⟩

end Sources

namespace CompositionInput

variable [StdSort] {input input' : CompositionInput} {expectation : SiteExpectation}

/-- A prepared input composes unless a verdict reads an absent claim, and that is
decided by the resources. -/
theorem composed_iff (prepared : input.prepare = .ok expectation) (out : ComposedSite) :
    (∃ site, compose input = .composed site) ↔
      buildObligations (input.resources expectation) out ≠ none := by
  have same : buildObligations (input.resources expectation) out = none ↔
      buildObligations (input.resources expectation) (input.accounted expectation) = none := by
    rw [buildObligations_eq_none_iff, buildObligations_eq_none_iff]
  rw [ne_eq, same]
  unfold compose
  rw [prepared]
  dsimp only
  cases buildObligations (input.resources expectation) (input.accounted expectation) with
  | none => simp
  | some out => simp

/-- Inputs that open the same nodes over the same resources give the same accounts. -/
theorem Composes.agree {site : ComposedSite} (parts : input.Composes expectation site)
    (composed : compose input = .composed site) (prepared' : input'.prepare = .ok expectation)
    (now : input'.nowMs = input.nowMs)
    (resources : input'.resources expectation = input.resources expectation)
    (nodes : openNodes (admitMembers input' expectation) (input.resources expectation) =
      openNodes (admitMembers input expectation) (input.resources expectation)) :
    ∃ site', compose input' = .composed site' ∧ site'.ownership = site.ownership ∧
      site'.capacity = site.capacity ∧ site'.connectivity = site.connectivity ∧
      site'.failureDomains = site.failureDomains ∧ site'.maintenance = site.maintenance ∧
      site'.obligations = site.obligations := by
  have safe := (composed_iff parts.prepared {}).mp ⟨site, composed⟩
  rw [← resources] at safe
  obtain ⟨site', composed'⟩ := (composed_iff prepared' {}).mpr safe
  obtain ⟨expectation', parts'⟩ := compose_composes composed'
  obtain rfl : expectation' = expectation :=
    Except.ok.inj (parts'.prepared.symm.trans prepared')
  have forest : input'.forest expectation' = input.forest expectation' := by
    unfold CompositionInput.forest composeForest plantForest
    rw [resources, nodes]
  have members : domainMembers (admitMembers input' expectation') (input'.resources expectation') =
      domainMembers (admitMembers input expectation') (input.resources expectation') := by
    unfold domainMembers
    rw [resources, nodes]
  have effects : input'.effects expectation' = input.effects expectation' := by
    unfold CompositionInput.effects
    rw [members, forest, resources, now]
  have ledger : input'.ledger expectation' = input.ledger expectation' := by
    unfold CompositionInput.ledger CompositionInput.builds
    rw [effects, resources]
  obtain ⟨verdicts, voted, listed⟩ := parts.obligations
  obtain ⟨verdicts', voted', listed'⟩ := parts'.obligations
  rw [resources, forest, ledger, voted] at voted'
  obtain rfl := Option.some.inj voted'
  exact ⟨site', composed', by rw [parts'.ownership, parts.ownership, resources],
    by rw [parts'.capacity, parts.capacity, ledger],
    by rw [parts'.connectivity, parts.connectivity, resources],
    by rw [parts'.failureDomains, parts.failureDomains, forest],
    by rw [parts'.maintenance, parts.maintenance, effects], listed'.trans listed.symm⟩

omit [StdSort] in
/-- Another list of publications, no longer than is allowed, is as well prepared. -/
theorem prepare_publications (prepared : input.prepare = .ok expectation)
    {publications : List MemberPublicationRecord}
    (few : publications.length ≤ Limits.maxMemberDomains) :
    ({ input with publications } : CompositionInput).prepare = .ok expectation := by
  have fewer := (prepare_ok prepared).1
  rw [← prepared]
  unfold prepare
  rw [if_neg (not_lt.mpr few), if_neg (not_lt.mpr fewer)]
  rfl

/-- A source stands on the record of every key its claims name, and on no other. -/
theorem stands_iff {record : MemberPublicationRecord}
    (few : input.publications.length ≤ Limits.maxMemberDomains)
    (selected : input.Selects record) {key : ResourceKey} {found : ResourceRecord}
    (listed : (input.resources expectation)[key]? = some found) :
    record.source ∈ found.sources.items ↔ ∃ claim ∈ record.claims, claim.key = key := by
  have best : (admitMembers input expectation)[record.source.domain]? =
      some (admitRecord input expectation record) :=
    admitMembers_iff.mpr ⟨record, selected, rfl, rfl⟩
  rw [(resources_sources (admitMembers_orderly few) listed).2, best]
  constructor
  · rintro ⟨a, ⟨⟩, -, claimed⟩
    exact claimed
  · exact fun claimed => ⟨_, rfl, rfl, claimed⟩

end CompositionInput

end SiteFabric
