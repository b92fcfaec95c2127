import SiteFabric.Compose.Apart

/-! The decisions of a composed site, as a list drawn up in advance.
Composition adds its decisions one at a time to a bounded list; where the list has
room for all of them, the site's decisions are the list that was drawn up. -/

namespace SiteFabric

open Lib
open Std (ExtTreeMap)

/-- A decision as composition records it. -/
def SiteDecision.draw (kind : DecisionKind) (subject : ResourceKey) (status : Status)
    (sources : SourceSet) (factors : Factors) : SiteDecision :=
  let decision : SiteDecision := { id := { kind, subject }, status, sources, factors }
  { decision with valueDigest := decisionValueDigest decision }

namespace ComposedSite

section Plan

variable (admissions : Admissions) (resources : Resources) (site : ComposedSite)

def directPlan : List SiteDecision :=
  let membership := (admissions.toList.map (·.2.source)).foldl SourceSet.insert {}
  [.draw .membershipCompleteness {} (if site.membershipComplete then .ok else .incomplete)
      membership {},
    .draw .siteEpoch {} .ok membership {}] ++
    site.ownership.map fun attribution => .draw .ownershipMap attribution.key attribution.status
      attribution.attestors attribution.factors

/-- The sources of the entries that are counted in the total. -/
def capacitySources : SourceSet :=
  SourceSet.gatherFrom CapacityLedgerEntry.attestors
    (site.capacity.entries.filter (·.countedInTotal))

def summaryPlan : List SiteDecision :=
  [.draw .rackTopology {} .ok (kindSources site [.rack]) {},
    .draw .failureDomainForest {} site.failureDomains.status (kindSources site [.failureDomain])
      site.failureDomains.factors,
    .draw .connectivitySummary {} site.connectivity.status
      (kindSources site [.sharedLink, .gateway]) {},
    .draw .sharedResourceAccounting {} .ok
      (kindSources site [.sharedLink, .gateway, .capacityPool]) {},
    .draw .capacityTotal {} site.capacity.status site.capacitySources site.capacity.factors,
    .draw .capacityAvailable {} site.capacity.status site.capacitySources site.capacity.factors]

def derivedPlan : List SiteDecision :=
  (site.maintenance.map fun effect => .draw .maintenanceExclusion (.maintenanceZone effect.id)
      effect.status (effectSources resources effect) effect.factors) ++
    site.obligations.map fun verdict => .draw .obligationVerdict (.obligation verdict.id)
      verdict.status verdict.sources verdict.factors

/-- Every decision but the last. -/
def plan : List SiteDecision :=
  site.directPlan admissions ++ site.summaryPlan ++ site.derivedPlan resources

/-- The last decision, on the decisions before it. -/
def lifecyclePlan (decisions : List SiteDecision) : SiteDecision :=
  .draw .siteLifecycle {} site.status (SourceSet.gatherFrom SiteDecision.sources decisions) {}

/-- How many decisions there are to record. -/
def decisionsDue : Nat :=
  9 + site.ownership.length + site.maintenance.length + site.obligations.length

theorem length_plan :
    (site.plan admissions resources).length + 1 = site.decisionsDue := by
  simp only [plan, directPlan, summaryPlan, derivedPlan, decisionsDue, List.length_append,
    List.length_cons, List.length_nil, List.length_map]
  omega

end Plan

/-- The decisions recorded are those drawn up, as far as there is room. -/
def Filled (site : ComposedSite) (planned : List SiteDecision) : Prop :=
  site.decisions = planned.take Limits.maxDecisions

theorem Filled.add {site : ComposedSite} {planned : List SiteDecision} (filled : site.Filled planned)
    (kind : DecisionKind) (subject : ResourceKey) (status : Status) (sources : SourceSet)
    (factors : Factors) :
    (site.addDecision kind subject status sources factors).Filled
      (planned ++ [.draw kind subject status sources factors]) := by
  have length : site.decisions.length = min Limits.maxDecisions planned.length := by
    rw [filled, List.length_take]
  unfold addDecision
  split
  · next full =>
    rw [Filled, List.take_append_of_le_length (by omega)]
    exact filled
  · next room =>
    have whole : site.decisions = planned := by
      rw [filled, List.take_of_length_le (by omega)]
    rw [Filled, List.take_of_length_le (by simp; omega), ← whole]
    rfl

theorem Filled.foldl {α : Type} {site : ComposedSite} {planned : List SiteDecision}
    (filled : site.Filled planned) (kind : DecisionKind) (subject : α → ResourceKey)
    (status : α → Status) (sources : α → SourceSet) (factors : α → Factors) (items : List α) :
    (items.foldl (fun out item =>
        out.addDecision kind (subject item) (status item) (sources item) (factors item)) site).Filled
      (planned ++ items.map fun item =>
        .draw kind (subject item) (status item) (sources item) (factors item)) := by
  induction items generalizing site planned with
  | nil =>
    rw [List.map_nil, List.append_nil]
    exact filled
  | cons item items ih =>
    have step := ih (filled.add kind (subject item) (status item) (sources item) (factors item))
    rw [List.append_assoc] at step
    exact step

/-- What is read off a site's body does not see a decision added. -/
theorem read_addDecision {γ : Type} (read : ComposedSite → γ)
    (reads : ∀ site : ComposedSite, read site.body = read site) (site : ComposedSite)
    (kind : DecisionKind) (subject : ResourceKey) (status : Status) (sources : SourceSet)
    (factors : Factors) :
    read (site.addDecision kind subject status sources factors) = read site := by
  rw [← reads, body_addDecision, reads]

theorem read_foldl {γ α : Type} (read : ComposedSite → γ)
    (reads : ∀ site : ComposedSite, read site.body = read site) (kind : DecisionKind)
    (subject : α → ResourceKey) (status : α → Status) (sources : α → SourceSet)
    (factors : α → Factors) (items : List α) (site : ComposedSite) :
    read (items.foldl (fun out item =>
      out.addDecision kind (subject item) (status item) (sources item) (factors item)) site) =
        read site :=
  foldl_frame read (fun site _ => read_addDecision read reads site ..) items site

end ComposedSite

section Build

variable {admissions : Admissions} {resources : Resources} {out : ComposedSite}

theorem decideDirect_filled (empty : out.decisions = []) :
    (decideDirect admissions out).Filled (out.directPlan admissions) := by
  have start : out.Filled [] := by
    rw [ComposedSite.Filled, empty]
    rfl
  have owned := ComposedSite.read_addDecision ComposedSite.ownership fun _ => rfl
  unfold decideDirect
  dsimp only
  rw [owned, owned]
  exact ((start.add ..).add ..).foldl .ownershipMap _ _ _ _ out.ownership

theorem decideSummaries_filled {planned : List SiteDecision} (filled : out.Filled planned) :
    (decideSummaries out).Filled (planned ++ out.summaryPlan) := by
  have kinds := ComposedSite.read_addDecision kindSources fun _ => rfl
  have forest := ComposedSite.read_addDecision ComposedSite.failureDomains fun _ => rfl
  have links := ComposedSite.read_addDecision ComposedSite.connectivity fun _ => rfl
  have ledger := ComposedSite.read_addDecision ComposedSite.capacity fun _ => rfl
  unfold decideSummaries
  simp only [kinds, forest, links, ledger]
  have summaries := (((((filled.add .rackTopology {} .ok (kindSources out [.rack]) {}).add
    .failureDomainForest {} out.failureDomains.status (kindSources out [.failureDomain])
    out.failureDomains.factors).add .connectivitySummary {} out.connectivity.status
    (kindSources out [.sharedLink, .gateway]) {}).add .sharedResourceAccounting {} .ok
    (kindSources out [.sharedLink, .gateway, .capacityPool]) {}).add .capacityTotal {}
    out.capacity.status out.capacitySources out.capacity.factors).add .capacityAvailable {}
    out.capacity.status out.capacitySources out.capacity.factors
  simp only [List.append_assoc] at summaries
  exact summaries

theorem decideDerived_filled {planned : List SiteDecision} (filled : out.Filled planned) :
    (decideDerived resources out).Filled (planned ++ out.derivedPlan resources ++
      [out.lifecyclePlan ((planned ++ out.derivedPlan resources).take Limits.maxDecisions)]) := by
  have verdicts := ComposedSite.read_foldl ComposedSite.obligations (fun _ => rfl)
    .maintenanceExclusion (fun effect : MaintenanceEffect => .maintenanceZone effect.id)
    (·.status) (effectSources resources) (·.factors) out.maintenance out
  have derived := (filled.foldl .maintenanceExclusion
    (fun effect : MaintenanceEffect => .maintenanceZone effect.id) (·.status)
    (effectSources resources) (·.factors) out.maintenance).foldl .obligationVerdict
    (fun verdict : ObligationVerdict => .obligation verdict.id) (·.status) (·.sources) (·.factors)
    out.obligations
  rw [List.append_assoc] at derived
  unfold decideDerived
  dsimp only
  rw [verdicts]
  have status := ComposedSite.read_foldl ComposedSite.status (fun _ => rfl) .obligationVerdict
    (fun verdict : ObligationVerdict => .obligation verdict.id) (·.status) (·.sources) (·.factors)
    out.obligations
  have status' := ComposedSite.read_foldl ComposedSite.status (fun _ => rfl)
    .maintenanceExclusion (fun effect : MaintenanceEffect => .maintenanceZone effect.id)
    (·.status) (effectSources resources) (·.factors) out.maintenance out
  rw [status, status', derived]
  exact derived.add ..

end Build

section Undecided

@[simp] theorem ComposedSite.decisions_addConflict (site : ComposedSite) (code : Status)
    (subject : ResourceKey) (parties : SourceSet) (variants : List Text) :
    (site.addConflict code subject parties variants).decisions = site.decisions := by
  unfold addConflict
  split <;> rfl

@[simp] theorem ComposedSite.decisions_addDeficit (site : ComposedSite) (code : Status)
    (domain : MemberDomainKey) (detail : Text) :
    (site.addDeficit code domain detail).decisions = site.decisions := by
  unfold addDeficit
  split <;> rfl

theorem attributeResources_decisions (resources : Resources) (out : ComposedSite) :
    (attributeResources resources out).decisions = out.decisions := by
  refine foldl_frame ComposedSite.decisions (fun site entry => ?_) _ _
  unfold raiseDisagreement
  split
  · exact ComposedSite.decisions_addConflict ..
  · split
    · exact ComposedSite.decisions_addConflict ..
    · rfl

variable [StdSort] (admissions : Admissions) (resources : Resources) (out : ComposedSite)

theorem buildFailureDomains_decisions :
    (buildFailureDomains admissions resources out).decisions = out.decisions := by
  have dangling : ∀ (nodes : List FailureDomainNode) (site : ComposedSite),
      (nodes.foldl reportDangling site).decisions = site.decisions :=
    foldl_frame ComposedSite.decisions fun site node => ComposedSite.decisions_addDeficit ..
  have cycle : ∀ (forest : FailureDomainForest) (site : ComposedSite),
      (reportCycle forest site).decisions = site.decisions := by
    intro forest site
    unfold reportCycle
    split
    · rfl
    · exact ComposedSite.decisions_addConflict ..
  have each : ∀ (nodes : List FailureDomainNode) (site : ComposedSite),
      (nodes.foldl (reportNode resources) site).decisions = site.decisions := by
    refine foldl_frame ComposedSite.decisions fun site node => ?_
    unfold reportNode
    split
    · split
      · rfl
      · exact ComposedSite.decisions_addConflict ..
    · rfl
  change (reportForest admissions resources out).decisions = _
  rw [reportForest, each, cycle, dangling]

theorem buildMaintenance_decisions (nowMs : Int64) (members : DomainMembers) :
    (buildMaintenance nowMs members resources out).decisions = out.decisions := by
  change (refuseZones members resources out).decisions = _
  refine foldl_frame ComposedSite.decisions (fun site entry => ?_) _ _
  unfold reportRefusal
  split
  · exact ComposedSite.decisions_addConflict ..
  · rfl

theorem buildMembership_decisions (expectation : SiteExpectation) :
    (buildMembership expectation admissions out).decisions = out.decisions := by
  have ended : ∀ (entries : List (MemberDomainKey × Admission)) (site : ComposedSite),
      (entries.foldl reportEnded site).decisions = site.decisions := by
    refine foldl_frame ComposedSite.decisions fun site entry => ?_
    unfold reportEnded
    split <;> simp
  have missing : ∀ (members : List ExpectedMember) (site : ComposedSite),
      (members.foldl (reportExpected admissions) site).decisions = site.decisions := by
    refine foldl_frame ComposedSite.decisions fun site expected => ?_
    unfold reportExpected
    split
    · simp
    · split <;> simp
  have conflicting : ∀ (members : List MemberDomainState) (site : ComposedSite),
      (members.foldl reportConflicting site).decisions = site.decisions := by
    refine foldl_frame ComposedSite.decisions fun site member => ?_
    unfold reportConflicting
    split
    · exact ComposedSite.decisions_addConflict ..
    · rfl
  change ((enrol expectation admissions (reportMembership expectation admissions
    out)).members.foldl reportConflicting (enrol expectation admissions
      (reportMembership expectation admissions out))).decisions = _
  rw [conflicting]
  change (reportMembership expectation admissions out).decisions = _
  rw [reportMembership, missing, ended]

/-- Nothing is decided before the last stage. -/
theorem accounted_decisions (input : CompositionInput) (expectation : SiteExpectation) :
    (input.accounted expectation).decisions = [] := by
  unfold CompositionInput.accounted buildConnectivity
  dsimp only
  rw [buildMaintenance_decisions, buildFailureDomains_decisions, attributeResources_decisions]
  rfl

end Undecided

/-- The decisions recorded for a site are those drawn up from it. -/
theorem buildDecisions_filled [StdSort] {admissions : Admissions} {resources : Resources}
    {out site : ComposedSite} (begun : out.decisions = [])
    (built : buildDecisions admissions resources out = site) :
    ∃ recorded : ComposedSite,
      site.decisions = sort (byKey fun d => d.id.rank) recorded.decisions ∧
        recorded.Filled (site.plan admissions resources ++
          [site.lifecyclePlan ((site.plan admissions resources).take Limits.maxDecisions)]) := by
  have direct := decideDirect_frame admissions out
  have summaries := decideSummaries_frame (decideDirect admissions out)
  have final := buildDecisions_frame admissions resources out
  rw [built] at final
  have filled := @decideDerived_filled resources _ _ (decideSummaries_filled
    (@decideDirect_filled admissions _ begun))
  have carry : ∀ {γ : Type} (read : ComposedSite → γ) {site site' : ComposedSite},
      (∀ site : ComposedSite, read site.body = read site) → site'.body = site.body →
        read site' = read site := by
    intro γ read site site' reads same
    rw [← reads, same, reads]
  refine ⟨_, by rw [← built]; rfl, ?_⟩
  rw [carry (ComposedSite.plan admissions resources) (fun _ => rfl) final.1,
    carry ComposedSite.lifecyclePlan (fun _ => rfl) final.1]
  rw [carry (ComposedSite.derivedPlan resources) (fun _ => rfl) (summaries.1.trans direct.1),
    carry ComposedSite.summaryPlan (fun _ => rfl) direct.1,
    carry ComposedSite.lifecyclePlan (fun _ => rfl) (summaries.1.trans direct.1)] at filled
  exact filled

namespace CompositionInput

variable [StdSort] {input : CompositionInput} {expectation : SiteExpectation} {site : ComposedSite}

theorem composed_filled (prepared : input.prepare = .ok expectation)
    (composed : compose input = .composed site) :
    ∃ recorded : ComposedSite,
      site.decisions = sort (byKey fun d => d.id.rank) recorded.decisions ∧
        recorded.Filled (site.plan (admitMembers input expectation) (input.resources expectation) ++
          [site.lifecyclePlan ((site.plan (admitMembers input expectation)
            (input.resources expectation)).take Limits.maxDecisions)]) := by
  unfold compose at composed
  rw [prepared] at composed
  dsimp only at composed
  split at composed
  · cases composed
  next judged built =>
  injection composed with same
  have empty : judged.decisions = [] := by
    obtain ⟨verdicts, _, rfl⟩ := Option.map_eq_some_iff.mp built
    exact accounted_decisions input expectation
  have start := (buildMembership_decisions (admitMembers input expectation) judged
    expectation).trans empty
  exact @buildDecisions_filled _ _ _ (buildLifecycle expectation
    (buildMembership expectation (admitMembers input expectation) judged)) _ start same

/-- A decision that was drawn up early enough is recorded. -/
theorem mem_decisions (prepared : input.prepare = .ok expectation)
    (composed : compose input = .composed site) {decision : SiteDecision}
    {early late : List SiteDecision}
    (planned : site.plan (admitMembers input expectation) (input.resources expectation) =
      early ++ late) (room : early.length ≤ Limits.maxDecisions) (drawn : decision ∈ early) :
    decision ∈ site.decisions := by
  obtain ⟨recorded, sorted, filled⟩ := composed_filled prepared composed
  rw [sorted, mem_sort, filled, planned, List.append_assoc, List.take_append, List.mem_append,
    List.take_of_length_le room]
  exact .inl drawn

/-- With room for all, the decisions are exactly those drawn up. -/
theorem mem_decisions_iff (prepared : input.prepare = .ok expectation)
    (composed : compose input = .composed site) (room : site.decisionsDue ≤ Limits.maxDecisions)
    {decision : SiteDecision} :
    decision ∈ site.decisions ↔
      decision ∈ site.plan (admitMembers input expectation) (input.resources expectation) ∨
        decision = site.lifecyclePlan
          (site.plan (admitMembers input expectation) (input.resources expectation)) := by
  obtain ⟨recorded, sorted, filled⟩ := composed_filled prepared composed
  have length := site.length_plan (admitMembers input expectation) (input.resources expectation)
  have whole : (site.plan (admitMembers input expectation) (input.resources expectation)).take
      Limits.maxDecisions =
        site.plan (admitMembers input expectation) (input.resources expectation) :=
    List.take_of_length_le (by omega)
  rw [sorted, mem_sort, filled, whole, List.take_of_length_le (by simp; omega), List.mem_append,
    List.mem_singleton]

end CompositionInput

/-! What the sources of each decision are. -/

namespace SourceSet

/-- A union drawn from one pool holds what its parts hold. -/
theorem mem_gatherFrom {α : Type} {pool : List SourceRef}
    (fits : pool.length ≤ Limits.maxDecisionSources) {sources : α → SourceSet} {items : List α}
    (drawn : ∀ item ∈ items, Drawn pool (sources item)) :
    Drawn pool (gatherFrom sources items) ∧
      ∀ r, r ∈ (gatherFrom sources items).items ↔ ∃ item ∈ items, r ∈ (sources item).items := by
  induction items using List.reverseRecOn with
  | nil => exact ⟨drawn_empty pool, fun r => by simp [gatherFrom]⟩
  | append_singleton items item ih =>
    obtain ⟨before, held⟩ := ih fun other listed => drawn other (List.mem_append_left _ listed)
    obtain ⟨after, joined⟩ := before.insertSet fits
      (drawn item (List.mem_append_right _ List.mem_cons_self))
    rw [gatherFrom, List.foldl_append] at *
    refine ⟨after, fun r => ?_⟩
    rw [List.foldl_cons, List.foldl_nil, joined, held]
    simp only [List.mem_append, List.mem_singleton, or_and_right, exists_or, exists_eq_left]

end SourceSet

namespace CompositionInput

variable [StdSort] {input : CompositionInput} {expectation : SiteExpectation} {site : ComposedSite}
  (parts : input.Composes expectation site)

include parts

theorem record_drawn {key : ResourceKey} {record : ResourceRecord}
    (found : (input.resources expectation)[key]? = some record) :
    SourceSet.Drawn (admitMembers input expectation).pool record.sources :=
  (resources_sources (admitMembers_orderly (prepare_ok parts.prepared).1) found).1

theorem pool_fits :
    (admitMembers input expectation).pool.length ≤ Limits.maxDecisionSources :=
  (admitMembers_orderly (prepare_ok parts.prepared).1).pool_fits

/-- The membership decisions rest on every admission. -/
theorem membership_sources :
    SourceSet.Drawn (admitMembers input expectation).pool
        (((admitMembers input expectation).toList.map (·.2.source)).foldl SourceSet.insert {}) ∧
      ∀ r, r ∈ (((admitMembers input expectation).toList.map (·.2.source)).foldl
        SourceSet.insert {}).items ↔ r ∈ (admitMembers input expectation).pool := by
  obtain ⟨drawn, held⟩ := (SourceSet.drawn_empty _).foldl (pool_fits parts)
    (show ∀ r ∈ (admitMembers input expectation).pool, r ∈ _ from fun r listed => listed)
  refine ⟨drawn, fun r => ?_⟩
  exact (held r).trans (by simp)

theorem mem_ownership {attribution : ResourceAttribution} :
    attribution ∈ site.ownership ↔ ∃ (key : ResourceKey) (record : ResourceRecord),
      (input.resources expectation)[key]? = some record ∧ record.attribution key = attribution := by
  rw [parts.ownership, ownershipOf, List.mem_map]
  constructor
  · rintro ⟨⟨key, record⟩, listed, rfl⟩
    exact ⟨key, record, mem_toList_iff.mp listed, rfl⟩
  · rintro ⟨key, record, found, rfl⟩
    exact ⟨(key, record), mem_toList_iff.mpr found, rfl⟩

theorem attestors_drawn {attribution : ResourceAttribution} (listed : attribution ∈ site.ownership) :
    SourceSet.Drawn (admitMembers input expectation).pool attribution.attestors := by
  obtain ⟨key, record, found, rfl⟩ := (mem_ownership parts).mp listed
  exact record_drawn parts found

/-- The sources of some kinds of attribution are those on the records of those kinds. -/
theorem mem_kindSources (kinds : List ResourceKind) :
    SourceSet.Drawn (admitMembers input expectation).pool (kindSources site kinds) ∧
      ∀ r, r ∈ (kindSources site kinds).items ↔
        ∃ (key : ResourceKey) (record : ResourceRecord),
          (input.resources expectation)[key]? = some record ∧ key.kind ∈ kinds ∧
            r ∈ record.sources.items := by
  obtain ⟨drawn, held⟩ := @SourceSet.mem_gatherFrom _ _ (pool_fits parts)
    ResourceAttribution.attestors
    (site.ownership.filter fun attribution => kinds.contains attribution.key.kind)
    fun attribution listed => attestors_drawn parts (List.mem_filter.mp listed).1
  refine ⟨drawn, fun r => (held r).trans ⟨?_, ?_⟩⟩
  · rintro ⟨attribution, listed, stands⟩
    obtain ⟨owned, kind⟩ := List.mem_filter.mp listed
    obtain ⟨key, record, found, rfl⟩ := (mem_ownership parts).mp owned
    exact ⟨key, record, found, List.contains_iff_mem.mp kind, stands⟩
  · rintro ⟨key, record, found, kind, stands⟩
    exact ⟨record.attribution key,
      List.mem_filter.mpr ⟨(mem_ownership parts).mpr ⟨key, record, found, rfl⟩,
        List.contains_iff_mem.mpr kind⟩, stands⟩

/-- An entry of the ledger is attested by those who attest its owner. -/
theorem entry_attestors {entry : CapacityLedgerEntry} (listed : entry ∈ site.capacity.entries) :
    ∃ record, (input.resources expectation)[entry.owner]? = some record ∧
      entry.attestors = record.sources := by
  rw [parts.capacity] at listed
  obtain ⟨build, built, rfl⟩ := List.mem_map.mp listed
  obtain ⟨key, record, offer, found, _, rfl⟩ := mem_collectLedgerBuilds.mp built
  refine ⟨record, ?_, ?_⟩
  · rw [(ledgerEntry_frame _ _).1, (ledgerBuild_frame key record offer).1]
    exact found
  · rw [ledgerEntry_attestors, ledgerBuild_attestors]

theorem mem_capacitySources :
    SourceSet.Drawn (admitMembers input expectation).pool site.capacitySources ∧
      ∀ r, r ∈ site.capacitySources.items ↔
        ∃ entry ∈ site.capacity.entries, entry.countedInTotal = true ∧ r ∈ entry.attestors.items := by
  obtain ⟨drawn, held⟩ := @SourceSet.mem_gatherFrom _ _ (pool_fits parts)
    CapacityLedgerEntry.attestors (site.capacity.entries.filter (·.countedInTotal)) fun entry listed => by
      obtain ⟨record, found, same⟩ := entry_attestors parts (List.mem_filter.mp listed).1
      rw [same]
      exact record_drawn parts found
  refine ⟨drawn, fun r => (held r).trans (exists_congr fun entry => ?_)⟩
  rw [List.mem_filter, and_assoc]

/-- The sources of an effect are those on its zone's record and on the records of
what it excludes. -/
theorem mem_effectSources (effect : MaintenanceEffect) :
    SourceSet.Drawn (admitMembers input expectation).pool
        (effectSources (input.resources expectation) effect) ∧
      ∀ r, r ∈ (effectSources (input.resources expectation) effect).items ↔
        ∃ (key : ResourceKey) (record : ResourceRecord),
          (input.resources expectation)[key]? = some record ∧
            (key = .maintenanceZone effect.id ∨ key ∈ effect.excluded) ∧
            r ∈ record.sources.items := by
  have fits := pool_fits parts
  let of := fun key : ResourceKey =>
    (((input.resources expectation)[key]?).map ResourceRecord.sources).getD {}
  have drawn : ∀ key, SourceSet.Drawn (admitMembers input expectation).pool (of key) := by
    intro key
    cases found : (input.resources expectation)[key]? with
    | none => simpa [of, found] using SourceSet.drawn_empty _
    | some record => simpa [of, found] using record_drawn parts found
  have gathered : effectSources (input.resources expectation) effect =
      SourceSet.gatherFrom of (ResourceKey.maintenanceZone effect.id :: effect.excluded) := by
    unfold effectSources SourceSet.gatherFrom
    dsimp only
    rw [List.foldl_cons]
    congr 1
    · funext set key
      cases found : (input.resources expectation)[key]? with
      | none => simp [of, found, SourceSet.insertSet]
      | some record => simp [of, found]
    · cases found : (input.resources expectation)[ResourceKey.maintenanceZone effect.id]? with
      | none => simp [of, found, SourceSet.insertSet]
      | some record => simp [of, found]
  obtain ⟨within, held⟩ := @SourceSet.mem_gatherFrom _ _ fits of
    (ResourceKey.maintenanceZone effect.id :: effect.excluded) fun key _ => drawn key
  rw [gathered]
  refine ⟨within, fun r => (held r).trans ⟨?_, ?_⟩⟩
  · rintro ⟨key, listed, stands⟩
    cases found : (input.resources expectation)[key]? with
    | none => simp [of, found] at stands
    | some record => exact ⟨key, record, found, List.mem_cons.mp listed, by simpa [of, found] using stands⟩
  · rintro ⟨key, record, found, listed, stands⟩
    exact ⟨key, List.mem_cons.mpr listed, by simpa [of, found] using stands⟩

omit [StdSort] parts in
theorem verdictFor_sources {resources : Resources} {forest : FailureDomainForest}
    {available : CapacityVector} {record : ResourceRecord} {obligation : ProtectedObligation}
    {verdict : ObligationVerdict}
    (answered : verdictFor resources forest available record obligation = some verdict) :
    verdict.id = obligation.id ∧ verdict.sources = record.sources := by
  unfold verdictFor at answered
  dsimp only at answered
  split at answered
  · cases answered
    exact ⟨rfl, rfl⟩
  split at answered
  · obtain ⟨seen, _, rfl⟩ := Option.map_eq_some_iff.mp answered
    split
    · exact ⟨rfl, rfl⟩
    split
    · exact ⟨rfl, rfl⟩
    · exact ⟨rfl, rfl⟩
  split at answered
  · cases answered
    exact ⟨rfl, rfl⟩
  split at answered
  · cases answered
    exact ⟨rfl, rfl⟩
  · cases answered
    exact ⟨rfl, rfl⟩

/-- A verdict rests on the record of its obligation. -/
theorem verdict_record {verdict : ObligationVerdict} (listed : verdict ∈ site.obligations) :
    ∃ (key : ResourceKey) (record : ResourceRecord) (obligation : ProtectedObligation),
      (input.resources expectation)[key]? = some record ∧ key.kind = .obligation ∧
      record.obligation = some obligation ∧
      verdictFor (input.resources expectation) (input.forest expectation)
        (input.ledger expectation).available record obligation = some verdict := by
  obtain ⟨verdicts, voted, sorted⟩ := parts.obligations
  rw [sorted, mem_sort] at listed
  obtain ⟨⟨record, obligation⟩, among, answered⟩ := mem_of_mapM voted listed
  obtain ⟨⟨key, held⟩, entry, kept⟩ := List.mem_filterMap.mp among
  dsimp only at kept
  split at kept
  · next kind =>
    obtain ⟨_, slot, same⟩ := Option.map_eq_some_iff.mp kept
    obtain ⟨rfl, rfl⟩ := Prod.mk.inj same
    exact ⟨key, held, _, mem_toList_iff.mp entry, kind, slot, answered⟩
  · cases kept

/-- Every decision rests on sources of the admissions. -/
theorem plan_drawn {decision : SiteDecision}
    (drawn : decision ∈ site.plan (admitMembers input expectation) (input.resources expectation)) :
    SourceSet.Drawn (admitMembers input expectation).pool decision.sources := by
  have membership := (membership_sources parts).1
  have capacity := (mem_capacitySources parts).1
  simp only [ComposedSite.plan, ComposedSite.directPlan, ComposedSite.summaryPlan,
    ComposedSite.derivedPlan, List.mem_append, List.mem_cons, List.mem_map, List.not_mem_nil,
    or_false] at drawn
  rcases drawn with (((rfl | rfl) | ⟨attribution, owned, rfl⟩) |
    rfl | rfl | rfl | rfl | rfl | rfl) | ⟨effect, _, rfl⟩ | ⟨verdict, listed, rfl⟩
  · exact membership
  · exact membership
  · exact attestors_drawn parts owned
  · exact (mem_kindSources parts _).1
  · exact (mem_kindSources parts _).1
  · exact (mem_kindSources parts _).1
  · exact (mem_kindSources parts _).1
  · exact capacity
  · exact capacity
  · exact (mem_effectSources parts effect).1
  · obtain ⟨key, record, obligation, found, _, _, answered⟩ := verdict_record parts listed
    rw [SiteDecision.draw, (verdictFor_sources answered).2]
    exact record_drawn parts found

end CompositionInput

end SiteFabric
