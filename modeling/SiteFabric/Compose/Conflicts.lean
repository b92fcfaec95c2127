import SiteFabric.Compose.Accounts

/-! Where the conflicts of a composed site come from: a record whose attestors disagree,
a cycle of the forest, a domain in conflict, a refused zone, or a member whose declaration
conflicts. -/

namespace SiteFabric

open Lib

/-- What some stage raises as a conflict. -/
inductive Raised (resources : Resources) (forest : FailureDomainForest)
    (conflict : SiteConflict) : Prop
  | disagreement (record : ResourceRecord) (found : resources[conflict.subject]? = some record)
      (disputed : record.status = .ownershipOverlap ∨ record.status = .accountingConflict)
      (parties : conflict.parties = record.sources)
  | cycle (subject : conflict.subject = {}) (parties : conflict.parties = {})
  | domain (node : FailureDomainNode) (record : ResourceRecord) (planted : node ∈ forest.nodes)
      (disputed : node.status = .failureDomainConflict)
      (subject : conflict.subject = .failureDomain node.id)
      (found : resources[conflict.subject]? = some record)
      (parties : conflict.parties = record.sources)
  | zone (record : ResourceRecord) (zone : MaintenanceZone)
      (filed : (record, zone) ∈ zoneRecords resources)
      (subject : conflict.subject = .maintenanceZone zone.id)
      (parties : conflict.parties = record.sources)
  | member (subject : conflict.subject = {})
      (parties : conflict.parties = {} ∨ ∃ ref, conflict.parties = SourceSet.insert {} ref)

namespace ComposedSite

def Traced (site : ComposedSite) (resources : Resources) (forest : FailureDomainForest) : Prop :=
  ∀ conflict ∈ site.conflicts, Raised resources forest conflict

variable {site : ComposedSite} {resources : Resources} {forest : FailureDomainForest}

theorem Traced.addConflict (traced : site.Traced resources forest) {code : Status}
    {subject : ResourceKey} {parties : SourceSet} {variants : List Text}
    (raised : ∀ moment,
      Raised resources forest { code, subject, parties, variants, detectedAtMs := moment }) :
    (site.addConflict code subject parties variants).Traced resources forest := by
  unfold ComposedSite.addConflict
  split
  · exact traced
  · intro conflict listed
    rcases List.mem_append.mp listed with old | new
    · exact traced conflict old
    · rw [List.mem_singleton.mp new]
      exact raised _

theorem Traced.of_conflicts {site' : ComposedSite} (traced : site.Traced resources forest)
    (same : site'.conflicts = site.conflicts) : site'.Traced resources forest := by
  rw [Traced, same]
  exact traced

end ComposedSite

section Stages

variable {resources : Resources} {forest : FailureDomainForest} {out : ComposedSite}

theorem attributeResources_traced (traced : out.Traced resources forest) :
    (attributeResources resources out).Traced resources forest := by
  refine List.foldlRecOn resources.toList raiseDisagreement
    (motive := fun site => ComposedSite.Traced site resources forest) traced ?_
  intro site traced entry listed
  have found := mem_toList_iff.mp listed
  unfold raiseDisagreement
  split
  · next overlap => exact traced.addConflict fun _ => .disagreement entry.2 found (.inl overlap) rfl
  split
  · next dispute => exact traced.addConflict fun _ => .disagreement entry.2 found (.inr dispute) rfl
  · exact traced

theorem buildFailureDomains_traced [StdSort] {admissions : Admissions}
    (traced : out.Traced resources (composeForest admissions resources)) :
    (buildFailureDomains admissions resources out).Traced resources
      (composeForest admissions resources) := by
  change (reportForest admissions resources out).Traced resources (composeForest admissions resources)
  have dangling : ∀ nodes : List FailureDomainNode, (nodes.foldl reportDangling out).Traced resources
      (composeForest admissions resources) := fun nodes => traced.of_conflicts
    (foldl_frame ComposedSite.conflicts (fun site node => ComposedSite.conflicts_addDeficit ..)
      nodes out)
  have cycle : ∀ {site : ComposedSite}, site.Traced resources (composeForest admissions resources) →
      (reportCycle (composeForest admissions resources) site).Traced resources
        (composeForest admissions resources) := by
    intro site traced
    unfold reportCycle
    split
    · exact traced
    · exact traced.addConflict fun _ => .cycle rfl rfl
  refine List.foldlRecOn _ (reportNode resources) (motive := fun site => ComposedSite.Traced site
    resources (composeForest admissions resources)) (cycle (dangling _)) ?_
  intro site traced node planted
  unfold reportNode
  split
  · next disputed =>
    split
    · exact traced
    · next record found =>
      exact traced.addConflict fun _ => .domain node record planted disputed rfl found rfl
  · exact traced

theorem refuseZones_traced [StdSort] (members : DomainMembers)
    (traced : out.Traced resources forest) :
    (refuseZones members resources out).Traced resources forest := by
  refine List.foldlRecOn (zoneRecords resources) _
    (motive := fun site => ComposedSite.Traced site resources forest) traced ?_
  intro site traced entry filed
  unfold reportRefusal
  split
  · exact traced.addConflict fun _ => .zone entry.1 entry.2 filed rfl rfl
  · exact traced

theorem accounts_traced [StdSort] {admissions : Admissions} (nowMs : Int64)
    (members : DomainMembers) (traced : out.Traced resources (composeForest admissions resources)) :
    (buildConnectivity resources (buildMaintenance nowMs members resources
      (buildFailureDomains admissions resources (attributeResources resources out)))).Traced
        resources (composeForest admissions resources) := by
  have maintained : ∀ site, (buildConnectivity resources
      (buildMaintenance nowMs members resources site)).conflicts =
        (refuseZones members resources site).conflicts := fun _ => rfl
  refine ComposedSite.Traced.of_conflicts ?_ (maintained _)
  exact refuseZones_traced members (buildFailureDomains_traced (attributeResources_traced traced))

theorem buildMembership_traced [StdSort] {admissions : Admissions} (expectation : SiteExpectation)
    (traced : out.Traced resources forest) :
    (buildMembership expectation admissions out).Traced resources forest := by
  have enrolled : (enrol expectation admissions
      (reportMembership expectation admissions out)).Traced resources forest :=
    traced.of_conflicts (reportMembership_conflicts expectation admissions out)
  have raised : ∀ members : List MemberDomainState, (members.foldl reportConflicting
      (enrol expectation admissions (reportMembership expectation admissions out))).Traced
        resources forest := by
    intro members
    refine List.foldlRecOn members reportConflicting
      (motive := fun site => ComposedSite.Traced site resources forest) enrolled ?_
    intro site traced member _
    unfold reportConflicting
    split
    · refine traced.addConflict fun _ => .member rfl ?_
      dsimp only
      split
      · exact .inr ⟨member.source, rfl⟩
      · exact .inl rfl
    · exact traced
  intro conflict listed
  exact raised _ conflict (mem_sort.mp listed)

end Stages

/-- Every conflict of a composed site was raised by one of its stages. -/
theorem CompositionInput.Composes.traced [StdSort] {input : CompositionInput}
    {expectation : SiteExpectation} {site : ComposedSite} (parts : input.Composes expectation site)
    (composed : compose input = .composed site) :
    site.Traced (input.resources expectation) (input.forest expectation) := by
  have start : (input.admitted expectation).Traced (input.resources expectation)
      (input.forest expectation) := fun conflict none => absurd none List.not_mem_nil
  have accounted : (input.accounted expectation).Traced (input.resources expectation)
      (input.forest expectation) := by
    unfold CompositionInput.accounted
    exact accounts_traced _ _ start
  unfold compose at composed
  rw [parts.prepared] at composed
  dsimp only at composed
  split at composed
  · cases composed
  next judged built =>
  obtain ⟨verdicts, -, rfl⟩ := Option.map_eq_some_iff.mp built
  injection composed with same
  let judged : ComposedSite := { input.accounted expectation with
    obligations := sort (byKey ObligationVerdict.id) verdicts }
  have members : (buildMembership expectation (admitMembers input expectation) judged).Traced
      (input.resources expectation) (input.forest expectation) :=
    buildMembership_traced expectation accounted
  refine members.of_conflicts ?_
  rw [← same]
  exact (buildDecisions_frame _ _ _).2

end SiteFabric
