import SiteFabric.Compose.Decisions
import SiteFabric.Compose.Sealed

/-! Invalidation of the direct decisions.
A decision whose sources leave a domain out is kept when that domain's records go.
For the decisions read straight off attribution this is sound whenever composition
without the records goes through. -/

namespace SiteFabric

open Lib
open Std (ExtTreeMap)

/-- The decisions taken straight off admission and attribution, and the last one. -/
def DecisionKind.direct : DecisionKind → Bool
  | .membershipCompleteness | .ownershipMap | .failureDomainForest | .connectivitySummary
  | .siteLifecycle => true
  | _ => false

namespace ComposedSite

/-- Two sites decide a matter alike. -/
def Agrees (site site' : ComposedSite) (id : DecisionId) : Prop :=
  match id.kind with
  | .membershipCompleteness => site'.membershipComplete = site.membershipComplete
  | .ownershipMap =>
    site'.ownership.find? (·.key = id.subject) = site.ownership.find? (·.key = id.subject)
  | .failureDomainForest => site'.failureDomains = site.failureDomains
  | .connectivitySummary => site'.connectivity = site.connectivity
  | .siteLifecycle => site'.lifecycle = site.lifecycle
  | _ => True

/-- A decision of one site stands in another. -/
structure Retains (site site' : ComposedSite) (decision : SiteDecision) : Prop where
  decided : ∃ decision' ∈ site'.decisions,
    decision'.id = decision.id ∧ decision'.status = decision.status
  agrees : site.Agrees site' decision.id

theorem Retains.refl {site : ComposedSite} {decision : SiteDecision}
    (decided : decision ∈ site.decisions) : site.Retains site decision where
  decided := ⟨decision, decided, rfl, rfl⟩
  agrees := by
    unfold Agrees
    split <;> trivial

end ComposedSite

namespace CompositionInput

/-- The input without the records of a domain. -/
def without (input : CompositionInput) (domain : MemberDomainKey) : CompositionInput :=
  { input with publications := input.publications.filter fun r => decide (r.domain ≠ domain) }

theorem Sealed.without {input : CompositionInput} (sealed : input.Sealed)
    (domain : MemberDomainKey) : (input.without domain).Sealed :=
  fun record listed => sealed record (List.mem_filter.mp listed).1

variable {input : CompositionInput} {expectation : SiteExpectation} {domain : MemberDomainKey}

theorem bestRecords_without (publications : List MemberPublicationRecord) :
    bestRecords (publications.filter fun r => decide (r.domain ≠ domain)) =
      (bestRecords publications).erase domain := by
  rw [bestRecords_eq, bestRecords_eq, ← select_without, List.filter_filter, List.filter_filter]
  refine congrArg _ (List.filter_congr fun r _ => ?_)
  rw [Bool.and_comm]
  exact congrArg (· && r.usable) (decide_eq_decide.mpr Iff.rfl)

theorem prepare_without (prepared : input.prepare = .ok expectation) :
    (input.without domain).prepare = .ok expectation :=
  prepare_publications prepared ((List.length_filter_le _ _).trans (prepare_ok prepared).1)

variable [StdSort]

theorem admitted_without (other : MemberDomainKey) :
    (admitMembers (input.without domain) expectation)[other]? =
      if domain = other then none else (admitMembers input expectation)[other]? := by
  rw [admitMembers_lookup, admitMembers_lookup, without, bestRecords_without, lookup_erase]
  split
  · rfl
  · rfl

theorem agreeBut_without : Admissions.AgreeBut domain
    (admitMembers (input.without domain) expectation) (admitMembers input expectation) := by
  intro other apart
  rw [admitted_without, if_neg (Ne.symm apart)]

theorem silent_without (key : ResourceKey) :
    (admitMembers (input.without domain) expectation).Silent domain key := by
  intro a found
  rw [admitted_without, if_pos rfl] at found
  cases found

/-- A domain that brought no record takes nothing away. -/
theorem compose_without (prepared : input.prepare = .ok expectation)
    (absent : (admitMembers input expectation)[domain]? = none) :
    compose (input.without domain) = compose input := by
  have admitted : admitMembers (input.without domain) expectation =
      admitMembers input expectation := by
    refine ext_lookup fun other => ?_
    rw [admitted_without]
    split
    · next same => rw [← same, absent]
    · rfl
  have resources : (input.without domain).resources expectation = input.resources expectation := by
    rw [CompositionInput.resources, admitted]
    rfl
  have accounted : (input.without domain).accounted expectation = input.accounted expectation := by
    unfold CompositionInput.accounted CompositionInput.admitted
    rw [resources, admitted]
    rfl
  unfold compose
  rw [prepared, prepare_without prepared]
  dsimp only
  rw [resources, accounted]
  unfold concluded
  rw [admitted, resources]

/-- Whether composition goes through without a domain. -/
theorem composed_without_iff (prepared : input.prepare = .ok expectation) :
    (∃ site, compose (input.without domain) = .composed site) ↔
      ∀ obligation wanted key,
        ¬ (input.without domain).Blind expectation obligation wanted key := by
  have prepared' : (input.without domain).prepare = .ok expectation := prepare_without prepared
  have few := (prepare_ok prepared').1
  rw [composed_iff prepared' {}, ne_eq, buildObligations_eq_none_iff_blind expectation few]
  constructor
  · exact fun safe obligation wanted key blind => safe ⟨obligation, wanted, key, blind⟩
  · rintro safe ⟨obligation, wanted, key, blind⟩
    exact safe obligation wanted key blind

/-- A domain whose source stands on no record under some keys is silent there. -/
theorem silent_of_absent (few : input.publications.length ≤ Limits.maxMemberDomains)
    {key : ResourceKey}
    (absent : ∀ record, input.Selects record → record.domain = domain →
      ∀ found, (input.resources expectation)[key]? = some found →
        record.source ∉ found.sources.items) :
    (admitMembers input expectation).Silent domain key := by
  intro a named claim claimed same
  obtain ⟨record, selected, here, rfl⟩ := admitMembers_iff.mp named
  have claims : input.claimsOn key ≠ [] :=
    List.ne_nil_of_mem (mem_claimsOn.mpr ⟨record, selected, claimed, same⟩)
  obtain ⟨found, listed⟩ := Option.isSome_iff_exists.mp
    ((@resources_isSome_iff _ _ expectation key).mpr claims)
  exact absent record selected here found listed
    ((stands_iff few selected listed).mpr ⟨claim, claimed, same⟩)

theorem resources_without {key : ResourceKey}
    (silent : (admitMembers input expectation).Silent domain key) :
    ((input.without domain).resources expectation)[key]? =
      (input.resources expectation)[key]? :=
  resources_agree agreeBut_without silent (silent_without key)

/-- Nobody is admitted for a domain whose source is missing from all sources. -/
theorem none_of_absent {sources : SourceSet}
    (all : ∀ r ∈ (admitMembers input expectation).pool, r ∈ sources.items)
    (absent : ∀ record, input.Selects record → record.domain = domain →
      record.source ∉ sources.items) :
    (admitMembers input expectation)[domain]? = none := by
  cases admitted : (admitMembers input expectation)[domain]? with
  | none => rfl
  | some a =>
    obtain ⟨record, selected, here, rfl⟩ := admitMembers_iff.mp admitted
    exact absurd (all _ (Admissions.mem_pool admitted)) (absent record selected here)

omit [StdSort] in
theorem ownershipOf_find (resources : Resources) (key : ResourceKey) :
    (ownershipOf resources).find? (·.key = key) =
      (resources[key]?).map fun record => record.attribution key := by
  have listed : ∀ attribution, attribution ∈ ownershipOf resources ↔
      ∃ (key : ResourceKey) (record : ResourceRecord), resources[key]? = some record ∧
        record.attribution key = attribution := by
    intro attribution
    simp only [ownershipOf, List.mem_map, Prod.exists, mem_toList_iff]
  cases found : (ownershipOf resources).find? (·.key = key) with
  | none =>
    cases held : resources[key]? with
    | none => rfl
    | some record =>
      have none := List.find?_eq_none.mp found (record.attribution key)
        ((listed _).mpr ⟨key, record, held, rfl⟩)
      exact absurd (decide_eq_true rfl) none
  | some attribution =>
    obtain ⟨other, record, held, rfl⟩ := (listed _).mp (List.mem_of_find?_eq_some found)
    have named : other = key := of_decide_eq_true (List.find?_some found :)
    rw [← named, held]
    rfl

/-- Removing records removes keys and adds none. -/
theorem length_ownership_without :
    (ownershipOf ((input.without domain).resources expectation)).length ≤
      (ownershipOf (input.resources expectation)).length := by
  have keys : ((input.without domain).resources expectation).toList.length ≤
      ((input.resources expectation).toList.map Prod.fst).length := by
    refine length_toList_le _ fun key record found => ?_
    have claims : (input.without domain).claimsOn key ≠ [] := by
      rw [← @resources_isSome_iff _ _ expectation, found]
      rfl
    obtain ⟨claim, claimed⟩ := List.exists_mem_of_ne_nil _ claims
    obtain ⟨r, selected, made, named⟩ := mem_claimsOn.mp claimed
    have kept : input.Selects r := by
      rw [Selects, without, bestRecords_without, lookup_erase] at selected
      split at selected
      · cases selected
      · exact selected
    have still : input.claimsOn key ≠ [] :=
      List.ne_nil_of_mem (mem_claimsOn.mpr ⟨r, kept, made, named⟩)
    obtain ⟨held, listed⟩ := Option.isSome_iff_exists.mp
      ((@resources_isSome_iff _ _ expectation key).mpr still)
    exact List.mem_map.mpr ⟨(key, held), mem_toList_iff.mpr listed, rfl⟩
  rw [List.length_map] at keys
  simpa [ownershipOf] using keys

section Retained

variable {site site' : ComposedSite} (parts : input.Composes expectation site)
  (composed' : compose (input.without domain) = .composed site')
  (parts' : (input.without domain).Composes expectation site')
  (room : site.decisionsDue ≤ Limits.maxDecisions)

include parts composed' parts' room

/-- The decisions on attribution and its summaries are recorded without the domain
as well. -/
theorem recorded_without {decision : SiteDecision}
    (drawn : decision ∈ site'.directPlan (admitMembers (input.without domain) expectation) ∨
      decision ∈ site'.summaryPlan) : decision ∈ site'.decisions := by
  refine mem_decisions parts'.prepared composed' rfl ?_ (List.mem_append.mpr drawn)
  have fewer : (ownershipOf ((input.without domain).resources expectation)).length ≤
      (ownershipOf (input.resources expectation)).length := length_ownership_without
  rw [← parts.ownership, ← parts'.ownership] at fewer
  simp only [ComposedSite.directPlan, ComposedSite.summaryPlan, List.length_append,
    List.length_cons, List.length_nil, List.length_map]
  unfold ComposedSite.decisionsDue at room
  omega

theorem ownership_retained {attribution : ResourceAttribution} (owned : attribution ∈ site.ownership)
    (absent : ∀ record, input.Selects record → record.domain = domain →
      record.source ∉ attribution.attestors.items) :
    site.Retains site' (.draw .ownershipMap attribution.key attribution.status
      attribution.attestors attribution.factors) := by
  obtain ⟨key, record, found, rfl⟩ := (mem_ownership parts).mp owned
  have silent : (admitMembers input expectation).Silent domain key :=
    silent_of_absent (prepare_ok parts.prepared).1 fun r selected here other listed => by
      rw [show other = record from Option.some.inj (listed.symm.trans found)]
      exact absent r selected here
  have same := resources_without silent
  have owned' : record.attribution key ∈ site'.ownership :=
    (mem_ownership parts').mpr ⟨key, record, same.trans found, rfl⟩
  refine ⟨⟨_, recorded_without parts composed' parts' room (.inl (List.mem_append_right _
    (List.mem_map.mpr ⟨_, owned', rfl⟩))), rfl, rfl⟩, ?_⟩
  change site'.ownership.find? (·.key = key) = site.ownership.find? (·.key = key)
  rw [parts.ownership, parts'.ownership, ownershipOf_find, ownershipOf_find, same]

omit composed' parts' room in
theorem silent_of_kinds {kinds : List ResourceKind}
    (absent : ∀ record, input.Selects record → record.domain = domain →
      record.source ∉ (kindSources site kinds).items) {key : ResourceKey} (kind : key.kind ∈ kinds) :
    (admitMembers input expectation).Silent domain key := by
  refine silent_of_absent (prepare_ok parts.prepared).1 fun r selected here found listed stands => ?_
  exact absent r selected here (((mem_kindSources parts kinds).2 _).mpr
    ⟨key, found, listed, kind, stands⟩)

theorem forest_retained
    (absent : ∀ record, input.Selects record → record.domain = domain →
      record.source ∉ (kindSources site [.failureDomain]).items) :
    site.Retains site' (.draw .failureDomainForest {} site.failureDomains.status
      (kindSources site [.failureDomain]) site.failureDomains.factors) := by
  have silent : ∀ key : ResourceKey, key.kind = .failureDomain →
      (admitMembers input expectation).Silent domain key := fun key kind =>
    silent_of_kinds parts absent (List.mem_singleton.mpr kind)
  have orderly := @admitMembers_orderly _ _ expectation (prepare_ok parts.prepared).1
  have same : site'.failureDomains = site.failureDomains := by
    rw [parts.failureDomains, parts'.failureDomains]
    exact composeForest_agree agreeBut_without
      (fun key kind => resources_without (silent key kind))
      fun key record kind found attestation => attestor_apart orderly (silent key kind) found
  refine ⟨⟨.draw .failureDomainForest {} site'.failureDomains.status
    (kindSources site' [.failureDomain]) site'.failureDomains.factors,
    recorded_without parts composed' parts' room (.inr (by simp [ComposedSite.summaryPlan])), rfl,
    congrArg FailureDomainForest.status same⟩, same⟩

theorem connectivity_retained
    (absent : ∀ record, input.Selects record → record.domain = domain →
      record.source ∉ (kindSources site [.sharedLink, .gateway]).items) :
    site.Retains site' (.draw .connectivitySummary {} site.connectivity.status
      (kindSources site [.sharedLink, .gateway]) {}) := by
  have silent : ∀ key : ResourceKey, key.kind ∈ [ResourceKind.sharedLink, .gateway] →
      (admitMembers input expectation).Silent domain key := fun key kind =>
    silent_of_kinds parts absent kind
  have same : site'.connectivity = site.connectivity := by
    rw [parts.connectivity, parts'.connectivity]
    exact composeConnectivity_agree fun key kind => resources_without (silent key kind)
  refine ⟨⟨.draw .connectivitySummary {} site'.connectivity.status
    (kindSources site' [.sharedLink, .gateway]) {},
    recorded_without parts composed' parts' room (.inr (by simp [ComposedSite.summaryPlan])), rfl,
    congrArg ConnectivitySummary.status same⟩, same⟩

end Retained

end CompositionInput

/-- A direct decision that leaves a domain out is retained without the domain exactly
when composition without it goes through. -/
theorem direct_decision_retained_iff [StdSort] {input : CompositionInput}
    {expectation : SiteExpectation} {site : ComposedSite}
    (prepared : input.prepare = .ok expectation) (composed : compose input = .composed site)
    (room : site.decisionsDue ≤ Limits.maxDecisions) (domain : MemberDomainKey)
    (decision : SiteDecision) (decided : decision ∈ site.decisions)
    (direct : decision.id.kind.direct = true)
    (absent : ∀ record, input.Selects record → record.domain = domain →
      record.source ∉ decision.sources.items) :
    (∃ site', compose (input.without domain) = .composed site' ∧ site.Retains site' decision) ↔
      ∀ obligation wanted key,
        ¬ (input.without domain).Blind expectation obligation wanted key := by
  rw [← CompositionInput.composed_without_iff prepared]
  refine ⟨fun ⟨site', composed', _⟩ => ⟨site', composed'⟩, fun ⟨site', composed'⟩ =>
    ⟨site', composed', ?_⟩⟩
  obtain ⟨expectation', parts⟩ := CompositionInput.compose_composes composed
  obtain rfl : expectation' = expectation :=
    Except.ok.inj (parts.prepared.symm.trans prepared)
  obtain ⟨expectation'', parts'⟩ := CompositionInput.compose_composes composed'
  obtain rfl : expectation'' = expectation' :=
    Except.ok.inj (parts'.prepared.symm.trans (CompositionInput.prepare_without prepared))
  have unchanged : (∀ r ∈ (admitMembers input expectation'').pool, r ∈ decision.sources.items) →
      site.Retains site' decision := by
    intro all
    have same := CompositionInput.compose_without prepared
      (CompositionInput.none_of_absent all absent)
    rw [same, composed] at composed'
    cases composed'
    exact .refl decided
  have membership := CompositionInput.membership_sources parts
  rcases (CompositionInput.mem_decisions_iff prepared composed room).mp decided with planned | rfl
  · simp only [ComposedSite.plan, ComposedSite.directPlan, ComposedSite.summaryPlan,
      ComposedSite.derivedPlan, List.mem_append, List.mem_cons, List.mem_map, List.not_mem_nil,
      or_false] at planned
    rcases planned with (((rfl | rfl) | ⟨attribution, owned, rfl⟩) |
      rfl | rfl | rfl | rfl | rfl | rfl) | ⟨effect, _, rfl⟩ | ⟨verdict, listed, rfl⟩
    · exact unchanged fun r listed => (membership.2 r).mpr listed
    · cases direct
    · exact CompositionInput.ownership_retained parts composed' parts' room owned absent
    · cases direct
    · exact CompositionInput.forest_retained parts composed' parts' room absent
    · exact CompositionInput.connectivity_retained parts composed' parts' room absent
    · cases direct
    · cases direct
    · cases direct
    · cases direct
    · cases direct
  · refine unchanged fun r listed => ?_
    refine ((SourceSet.mem_gatherFrom (CompositionInput.pool_fits parts) fun decision drawn =>
      CompositionInput.plan_drawn parts drawn).2 r).mpr ?_
    exact ⟨_, List.mem_append_left _ (List.mem_append_left _ List.mem_cons_self),
      (membership.2 r).mpr listed⟩

/-- A decision on the ownership of a resource, taken without a domain. -/
def SiteDecision.ownsWithout (key : ResourceKey) (domain : MemberDomainKey)
    (decision : SiteDecision) : Bool :=
  decision.id = { kind := .ownershipMap, subject := key } &&
    decision.sources.items.all (·.domain ≠ domain)

theorem SiteDecision.absent_of_ownsWithout {key : ResourceKey} {domain : MemberDomainKey}
    {decision : SiteDecision} (owns : decision.ownsWithout key domain = true) :
    decision.id.kind.direct = true ∧ ∀ record : MemberPublicationRecord,
      record.domain = domain → record.source ∉ decision.sources.items := by
  obtain ⟨id, apart⟩ := Bool.and_eq_true_iff.mp owns
  refine ⟨by rw [of_decide_eq_true id]; rfl, fun record here listed => ?_⟩
  exact of_decide_eq_true (List.all_eq_true.mp apart _ listed) here

/-- A rack with a link, and an empty rack. -/
def CompositionInput.linkAndRack : CompositionInput :=
  .sample [.uplinked [.sample (ascii "link-1") 5], .sample (ascii "rack-2")]

theorem link_ownership_outlives_a_rack :
    ∃ site site' decision, compose .linkAndRack = .composed site ∧
      decision ∈ site.decisions ∧
      compose (CompositionInput.linkAndRack.without ⟨.rack, ascii "rack-2"⟩) = .composed site' ∧
      site.Retains site' decision := by
  obtain ⟨site, composed, test⟩ := CompositionInput.composed_of_sealed
    (show (composeSealed .linkAndRack).passes (fun site =>
      decide (site.decisionsDue ≤ Limits.maxDecisions) && site.decisions.any
        (·.ownsWithout (.sharedLink ⟨ascii "link-1"⟩) ⟨.rack, ascii "rack-2"⟩)) = true by
      decide +kernel) .sample
  obtain ⟨site', composed', _⟩ := CompositionInput.composed_of_sealed
    (show (composeSealed (CompositionInput.linkAndRack.without ⟨.rack, ascii "rack-2"⟩)).passes
      (fun _ => true) = true by decide +kernel) (CompositionInput.Sealed.sample.without _)
  obtain ⟨room, owned⟩ := Bool.and_eq_true_iff.mp test
  obtain ⟨decision, decided, owns⟩ := List.any_eq_true.mp owned
  obtain ⟨direct, absent⟩ := SiteDecision.absent_of_ownsWithout owns
  obtain ⟨expectation, parts⟩ := CompositionInput.compose_composes composed
  obtain ⟨site'', composed'', retained⟩ := (direct_decision_retained_iff parts.prepared composed
    (of_decide_eq_true room) _ decision decided direct fun record _ => absent record).mpr
      ((CompositionInput.composed_without_iff parts.prepared).mp ⟨site', composed'⟩)
  exact ⟨site, site'', decision, composed, decided, composed'', retained⟩

/-- A gateway that one rack describes and another only pools, under a count of the
gateways that are up. -/
def CompositionInput.describedGateway : CompositionInput :=
  .sample [.pooledGateway,
    { MemberDomainDeclaration.sample (ascii "rack-2") with
      gateways := [{ id := ⟨ascii "gw-1"⟩, generation := ⟨1⟩, state := .up
                     capacity := { ingress := .ofBps 10, egress := .ofBps 10 }
                     evidence := Evidence.sample }] }]

/-- The decision on the obligation is none of the second rack's, and without that
rack the site does not compose. -/
theorem obligation_ownership_is_lost :
    ∃ expectation site decision, CompositionInput.describedGateway.prepare = .ok expectation ∧
      compose .describedGateway = .composed site ∧
      site.decisionsDue ≤ Limits.maxDecisions ∧ decision ∈ site.decisions ∧
      decision.id.kind.direct = true ∧
      (∀ record, CompositionInput.describedGateway.Selects record →
        record.domain = ⟨.rack, ascii "rack-2"⟩ → record.source ∉ decision.sources.items) ∧
      ¬ ∃ site', compose (CompositionInput.describedGateway.without ⟨.rack, ascii "rack-2"⟩) =
          .composed site' ∧ site.Retains site' decision := by
  obtain ⟨site, composed, test⟩ := CompositionInput.composed_of_sealed
    (show (composeSealed .describedGateway).passes (fun site =>
      decide (site.decisionsDue ≤ Limits.maxDecisions) && site.decisions.any
        (·.ownsWithout (.obligation ⟨ascii "uplink"⟩) ⟨.rack, ascii "rack-2"⟩)) = true by
      decide +kernel) .sample
  have crashed : compose (CompositionInput.describedGateway.without ⟨.rack, ascii "rack-2"⟩) =
      .crashed :=
    CompositionInput.crashed_of_sealed (by decide +kernel) (CompositionInput.Sealed.sample.without _)
  obtain ⟨room, owned⟩ := Bool.and_eq_true_iff.mp test
  obtain ⟨decision, decided, owns⟩ := List.any_eq_true.mp owned
  obtain ⟨direct, absent⟩ := SiteDecision.absent_of_ownsWithout owns
  obtain ⟨expectation, parts⟩ := CompositionInput.compose_composes composed
  refine ⟨expectation, site, decision, parts.prepared, composed, of_decide_eq_true room, decided,
    direct, fun record _ => absent record, ?_⟩
  rintro ⟨site', composed', _⟩
  rw [crashed] at composed'
  cases composed'

end SiteFabric
