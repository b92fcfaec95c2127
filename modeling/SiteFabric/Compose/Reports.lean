import SiteFabric.Compose.Disagreement
import SiteFabric.Core.Provenance

/-! Reports of what a change of a source invalidates.
A report splits the decisions of a site by whether they rest on what changed. Every
generation that a site was composed from carries the lifecycle, so that its report takes
everything along; no other generation carries anything. -/

namespace SiteFabric

open Lib

/-- What a source change invalidates. -/
structure InvalidationReport where
  domain : MemberDomainKey := {}
  changed : SourceRef := {}
  invalidated : List DecisionId := []
  retained : List DecisionId := []
  recompositionRequired : List DecisionKind := []
  affectedDomains : List MemberDomainKey := []
  affectedResources : List ResourceKey := []
deriving DecidableEq

namespace InvalidationReport

def invalidatesEverything (report : InvalidationReport) : Bool :=
  report.invalidated.any (·.kind = .siteLifecycle)

/-- A decision goes to one side, and a kind is asked for once. -/
def sift (touches : SourceSet → Bool) (report : InvalidationReport) (decision : SiteDecision) :
    InvalidationReport :=
  if touches decision.sources then
    { report with
      invalidated := report.invalidated ++ [decision.id]
      recompositionRequired :=
        if decision.id.kind ∈ report.recompositionRequired then report.recompositionRequired
        else report.recompositionRequired ++ [decision.id.kind] }
  else { report with retained := report.retained ++ [decision.id] }

def affect (touches : SourceSet → Bool) (report : InvalidationReport)
    (attribution : ResourceAttribution) : InvalidationReport :=
  if touches attribution.attestors then
    { report with affectedResources := report.affectedResources ++ [attribution.key] }
  else report

def sorted [StdSort] (report : InvalidationReport) : InvalidationReport :=
  { report with
    recompositionRequired := sort (byKey DecisionKind.ctorIdx) report.recompositionRequired
    invalidated := sort (byKey DecisionId.rank) report.invalidated
    retained := sort (byKey DecisionId.rank) report.retained
    affectedResources := sort (byKey id) report.affectedResources
    affectedDomains := sort (byKey id) report.affectedDomains }

end InvalidationReport

namespace ComposedSite

section

variable [StdSort] (site : ComposedSite)

/-- A report on a site, for what a change touches. -/
def surveyed (touches : SourceSet → Bool) (opened : InvalidationReport) : InvalidationReport :=
  (site.ownership.foldl (.affect touches) (site.decisions.foldl (.sift touches) opened)).sorted

def invalidateForSource (changed : SourceRef) : InvalidationReport :=
  site.surveyed (·.contains changed)
    { domain := changed.domain
      changed
      affectedDomains := match site.findMember changed.domain with
        | some member => if member.source = changed then [changed.domain] else []
        | none => [] }

def invalidateForDomain (domain : MemberDomainKey) : InvalidationReport :=
  site.surveyed (·.containsDomain domain)
    (match site.findMember domain with
      | some member => { domain, changed := member.source, affectedDomains := [domain] }
      | none => { domain })

end

/-- A report splits a site by whether its decisions rest on what changed. -/
structure Splits (site : ComposedSite) (rests : SourceSet → Prop) (report : InvalidationReport) :
    Prop where
  whole : (report.invalidated ++ report.retained).Perm (site.decisions.map (·.id))
  invalidated : ∀ id, id ∈ report.invalidated ↔
    ∃ decision ∈ site.decisions, decision.id = id ∧ rests decision.sources
  retained : ∀ id, id ∈ report.retained ↔
    ∃ decision ∈ site.decisions, decision.id = id ∧ ¬ rests decision.sources
  ordered : report.invalidated.Pairwise (·.rank ≤ ·.rank) ∧
    report.retained.Pairwise (·.rank ≤ ·.rank)
  required : ∀ kind, kind ∈ report.recompositionRequired ↔ ∃ id ∈ report.invalidated, id.kind = kind
  once : report.recompositionRequired.Pairwise (·.ctorIdx < ·.ctorIdx)
  resources : ∀ key, key ∈ report.affectedResources ↔
    ∃ attribution ∈ site.ownership, attribution.key = key ∧ rests attribution.attestors

end ComposedSite

theorem DecisionKind.ctorIdx_injective : Function.Injective DecisionKind.ctorIdx := by
  intro kind other same
  cases kind <;> cases other <;> first | rfl | exact absurd same (by decide)

namespace InvalidationReport

variable {touches : SourceSet → Bool}

theorem foldl_sift (decisions : List SiteDecision) (report : InvalidationReport) :
    ∃ required, decisions.foldl (sift touches) report = { report with
        invalidated := report.invalidated ++ (decisions.filter (touches ·.sources)).map (·.id)
        retained := report.retained ++ (decisions.filter (!touches ·.sources)).map (·.id)
        recompositionRequired := required } ∧
      (report.recompositionRequired.Nodup → required.Nodup) ∧
      ∀ kind, kind ∈ required ↔ kind ∈ report.recompositionRequired ∨
        ∃ decision ∈ decisions, touches decision.sources = true ∧ decision.id.kind = kind := by
  induction decisions generalizing report with
  | nil => exact ⟨_, by simp, id, by simp⟩
  | cons decision decisions ih =>
    obtain ⟨required, folded, distinct, asked⟩ := ih (sift touches report decision)
    rw [List.foldl_cons, folded]
    by_cases touched : touches decision.sources = true
    · rw [sift, if_pos touched] at distinct asked ⊢
      refine ⟨required, by simp [touched], fun once => distinct ?_, fun kind => ?_⟩
      · dsimp only
        split
        · exact once
        · next fresh => exact List.nodup_append.mpr ⟨once, List.nodup_singleton _, by grind⟩
      · rw [asked]
        dsimp only
        split <;> grind
    · rw [sift, if_neg touched] at distinct asked ⊢
      refine ⟨required, by simp [touched], distinct, fun kind => ?_⟩
      rw [asked]
      grind

theorem foldl_affect (attributions : List ResourceAttribution) (report : InvalidationReport) :
    attributions.foldl (affect touches) report = { report with
      affectedResources := report.affectedResources ++
        (attributions.filter (touches ·.attestors)).map (·.key) } := by
  induction attributions generalizing report with
  | nil => simp
  | cons attribution attributions ih =>
    rw [List.foldl_cons, ih, affect]
    split
    · next touched => simp [touched]
    · next spared => simp [spared]

end InvalidationReport

namespace ComposedSite

variable [StdSort] {site : ComposedSite} {touches touches' : SourceSet → Bool}

theorem surveyed_congr (opened : InvalidationReport)
    (decisions : ∀ decision ∈ site.decisions, touches decision.sources = touches' decision.sources)
    (ownership : ∀ attribution ∈ site.ownership,
      touches attribution.attestors = touches' attribution.attestors) :
    site.surveyed touches opened = site.surveyed touches' opened := by
  have sifted : site.decisions.foldl (.sift touches) opened =
      site.decisions.foldl (.sift touches') opened := by
    apply List.foldl_ext
    intro report decision listed
    rw [InvalidationReport.sift, InvalidationReport.sift, decisions decision listed]
  rw [surveyed, surveyed, sifted]
  congr 1
  apply List.foldl_ext
  intro report attribution listed
  rw [InvalidationReport.affect, InvalidationReport.affect, ownership attribution listed]

theorem surveyed_frame (opened : InvalidationReport) :
    (site.surveyed touches opened).affectedDomains = sort (byKey id) opened.affectedDomains := by
  obtain ⟨required, sifted, -⟩ := @InvalidationReport.foldl_sift touches site.decisions opened
  rw [surveyed, sifted, InvalidationReport.foldl_affect]
  rfl

/-- A report that opens without decisions and resources splits its site. -/
theorem surveyed_splits (domain : MemberDomainKey) (changed : SourceRef)
    (affected : List MemberDomainKey) :
    site.Splits (fun sources => touches sources = true)
      (site.surveyed touches { domain, changed, affectedDomains := affected }) := by
  obtain ⟨required, sifted, distinct, asked⟩ := @InvalidationReport.foldl_sift touches
    site.decisions { domain, changed, affectedDomains := affected }
  rw [surveyed, sifted, InvalidationReport.foldl_affect, InvalidationReport.sorted]
  dsimp only [List.nil_append]
  have ranked : ∀ ids : List DecisionId,
      (sort (byKey DecisionId.rank) ids).Pairwise (·.rank ≤ ·.rank) := fun ids =>
    (StdSort.sorted _ (byKey_strictWeak _) ids).imp fun kept => by simpa [byKey] using kept
  have chosen : ∀ {α β : Type} (p : α → Bool) (f : α → β) (items : List α) (b : β),
      b ∈ (items.filter p).map f ↔ ∃ item ∈ items, f item = b ∧ p item = true := by
    intro α β p f items b
    simp only [List.mem_map, List.mem_filter]
    grind
  refine ⟨?_, fun id => ?_, fun id => ?_, ⟨ranked _, ranked _⟩, fun kind => ?_, ?_, fun key => ?_⟩
  · refine ((StdSort.perm _ _).append (StdSort.perm _ _)).trans ?_
    rw [← List.map_append]
    exact (List.filter_append_perm _ site.decisions).map _
  · rw [mem_sort, chosen]
  · rw [mem_sort, chosen]
    simp only [Bool.not_eq_true', Bool.not_eq_true]
  · simp only [mem_sort, asked, chosen, List.not_mem_nil, false_or]
    grind
  · have once := (StdSort.perm (byKey DecisionKind.ctorIdx) required).nodup_iff.mpr
      (distinct List.nodup_nil)
    refine ((StdSort.sorted _ (byKey_strictWeak _) required).imp₂ (fun a b kept apart => ?_) once)
    have le : a.ctorIdx ≤ b.ctorIdx := by simpa [byKey] using kept
    exact lt_of_le_of_ne le fun same => apart (DecisionKind.ctorIdx_injective same)
  · rw [mem_sort, chosen]

omit [StdSort] in
theorem Splits.congr {rests rests' : SourceSet → Prop} {report : InvalidationReport}
    (splits : site.Splits rests report)
    (decisions : ∀ decision ∈ site.decisions, rests decision.sources ↔ rests' decision.sources)
    (ownership : ∀ attribution ∈ site.ownership,
      rests attribution.attestors ↔ rests' attribution.attestors) : site.Splits rests' report where
  whole := splits.whole
  invalidated id := by
    rw [splits.invalidated]
    exact exists_congr fun decision => and_congr_right fun listed =>
      and_congr_right fun _ => decisions decision listed
  retained id := by
    rw [splits.retained]
    exact exists_congr fun decision => and_congr_right fun listed =>
      and_congr_right fun _ => not_congr (decisions decision listed)
  ordered := splits.ordered
  required := splits.required
  once := splits.once
  resources key := by
    rw [splits.resources]
    exact exists_congr fun attribution => and_congr_right fun listed =>
      and_congr_right fun _ => ownership attribution listed

section Lone

variable (site : ComposedSite) (admissions : Admissions) (resources : Resources)

/-- The decisions on the whole site. -/
def lone : List SiteDecision :=
  let membership := (admissions.toList.map (·.2.source)).foldl SourceSet.insert {}
  [.draw .membershipCompleteness {} (if site.membershipComplete then .ok else .incomplete)
      membership {},
    .draw .siteEpoch {} .ok membership {}] ++ site.summaryPlan ++
    [site.lifecyclePlan (site.plan admissions resources)]

omit [StdSort] in
theorem lone_kinds : ∀ decision ∈ site.lone admissions resources,
    decision.id.kind ≠ .ownershipMap ∧ decision.id.kind ≠ .maintenanceExclusion ∧
      decision.id.kind ≠ .obligationVerdict := by
  simp [lone, summaryPlan, lifecyclePlan, SiteDecision.draw]

omit [StdSort] in
/-- There is one of each kind. -/
theorem lone_once {decision other : SiteDecision}
    (listed : decision ∈ site.lone admissions resources)
    (listed' : other ∈ site.lone admissions resources) (same : decision.id.kind = other.id.kind) :
    decision = other := by
  have kinds : ((site.lone admissions resources).map (·.id.kind)).Nodup := by
    simp [lone, summaryPlan, lifecyclePlan, SiteDecision.draw]
  exact List.inj_on_of_nodup_map kinds listed listed' same

end Lone

end ComposedSite

namespace CompositionInput

variable [StdSort] {input : CompositionInput} {expectation : SiteExpectation} {site : ComposedSite}

/-- What the admissions bring is the sources of the selected records. -/
theorem mem_pool_iff {ref : SourceRef} :
    ref ∈ (admitMembers input expectation).pool ↔
      ∃ record, input.Selects record ∧ record.source = ref := by
  rw [Admissions.pool, List.mem_map]
  constructor
  · rintro ⟨⟨domain, admission⟩, listed, rfl⟩
    obtain ⟨record, selected, -, rfl⟩ := admitMembers_iff.mp (mem_toList_iff.mp listed)
    exact ⟨record, selected, rfl⟩
  · rintro ⟨record, selected, rfl⟩
    exact ⟨(record.domain, admitRecord input expectation record),
      mem_toList_iff.mpr (admitMembers_iff.mpr ⟨record, selected, rfl, rfl⟩), rfl⟩

/-- A generation that no selected record brought stands in no set drawn from the admissions. -/
theorem notMem_of_unselected {s : SourceSet}
    (drawn : SourceSet.Drawn (admitMembers input expectation).pool s) {ref : SourceRef}
    (unselected : ∀ record, input.Selects record → record.source ≠ ref) : ref ∉ s.items := by
  intro listed
  obtain ⟨record, selected, same⟩ := mem_pool_iff.mp (drawn.drawn ref listed)
  exact unselected record selected same

/-- A domain has one source in a set that is drawn from the admissions. -/
theorem containsDomain_eq {s : SourceSet}
    (drawn : SourceSet.Drawn (admitMembers input expectation).pool s)
    {record : MemberPublicationRecord} (selected : input.Selects record) :
    s.containsDomain record.domain = s.contains record.source := by
  rw [Bool.eq_iff_iff, SourceSet.containsDomain_iff, SourceSet.contains_iff drawn.ordered]
  constructor
  · rintro ⟨ref, listed, same⟩
    obtain ⟨record', selected', rfl⟩ := mem_pool_iff.mp (drawn.drawn ref listed)
    have named : record'.domain = record.domain := same
    rw [Selects, named, selected] at selected'
    rwa [Option.some.inj selected']
  · exact fun listed => ⟨_, listed, rfl⟩

variable (parts : input.Composes expectation site) (composed : compose input = .composed site)
  (room : site.decisionsDue ≤ Limits.maxDecisions)

include parts composed room

/-- What a decision of a site is: on an attribution, on an effect, on a verdict, or one of the
nine on the whole site. -/
theorem decision_shape {decision : SiteDecision} (listed : decision ∈ site.decisions) :
    (∃ attribution ∈ site.ownership, decision = .draw .ownershipMap attribution.key
        attribution.status attribution.attestors attribution.factors) ∨
      (∃ effect ∈ site.maintenance, decision = .draw .maintenanceExclusion
        (.maintenanceZone effect.id) effect.status
        (effectSources (input.resources expectation) effect) effect.factors) ∨
      (∃ verdict ∈ site.obligations, decision = .draw .obligationVerdict
        (.obligation verdict.id) verdict.status verdict.sources verdict.factors) ∨
      decision ∈ site.lone (admitMembers input expectation) (input.resources expectation) := by
  rcases (mem_decisions_iff parts.prepared composed room).mp listed with planned | rfl
  · simp only [ComposedSite.plan, ComposedSite.directPlan, ComposedSite.derivedPlan,
      List.mem_append, List.mem_map] at planned
    rcases planned with ((membership | ⟨attribution, owned, rfl⟩) | summary) |
      ⟨effect, filed, rfl⟩ | ⟨verdict, voted, rfl⟩
    · exact .inr (.inr (.inr (List.mem_append_left _ (List.mem_append_left _ membership))))
    · exact .inl ⟨attribution, owned, rfl⟩
    · exact .inr (.inr (.inr (List.mem_append_left _ (List.mem_append_right _ summary))))
    · exact .inr (.inl ⟨effect, filed, rfl⟩)
    · exact .inr (.inr (.inl ⟨verdict, voted, rfl⟩))
  · exact .inr (.inr (.inr (List.mem_append_right _ (List.mem_singleton.mpr rfl))))

/-- No two decisions of a site are on one matter. -/
theorem decided_once {decision other : SiteDecision} (listed : decision ∈ site.decisions)
    (listed' : other ∈ site.decisions) (same : other.id = decision.id) : other = decision := by
  have apart := site.lone_kinds (admitMembers input expectation) (input.resources expectation)
  rcases decision_shape parts composed room listed with
    ⟨attribution, owned, rfl⟩ | ⟨effect, filed, rfl⟩ | ⟨verdict, voted, rfl⟩ | alone
  · rcases decision_shape parts composed room listed' with
      ⟨attribution', owned', rfl⟩ | ⟨effect', filed', rfl⟩ | ⟨verdict', voted', rfl⟩ | alone'
    · obtain ⟨key, record, found, rfl⟩ := (mem_ownership parts).mp owned
      obtain ⟨key', record', found', rfl⟩ := (mem_ownership parts).mp owned'
      obtain rfl : key' = key := congrArg DecisionId.subject same
      rw [Option.some.inj (found'.symm.trans found)]
    · cases same
    · cases same
    · exact absurd (congrArg DecisionId.kind same) (apart _ alone').1
  · rcases decision_shape parts composed room listed' with
      ⟨attribution', owned', rfl⟩ | ⟨effect', filed', rfl⟩ | ⟨verdict', voted', rfl⟩ | alone'
    · cases same
    · have id : effect'.id = effect.id := StrongId.value_injective (by
        simpa [SiteDecision.draw, ResourceKey.maintenanceZone] using same)
      have found := find_maintenance parts filed'
      rw [id, find_maintenance parts filed] at found
      rw [Option.some.inj found]
    · cases same
    · exact absurd (congrArg DecisionId.kind same) (apart _ alone').2.1
  · rcases decision_shape parts composed room listed' with
      ⟨attribution', owned', rfl⟩ | ⟨effect', filed', rfl⟩ | ⟨verdict', voted', rfl⟩ | alone'
    · cases same
    · cases same
    · have id : verdict'.id = verdict.id := StrongId.value_injective (by
        simpa [SiteDecision.draw, ResourceKey.obligation] using same)
      have found := find_obligations parts voted'
      rw [id, find_obligations parts voted] at found
      rw [Option.some.inj found]
    · exact absurd (congrArg DecisionId.kind same) (apart _ alone').2.2
  · rcases decision_shape parts composed room listed' with
      ⟨attribution', owned', rfl⟩ | ⟨effect', filed', rfl⟩ | ⟨verdict', voted', rfl⟩ | alone'
    · exact absurd (congrArg DecisionId.kind same.symm) (apart _ alone).1
    · exact absurd (congrArg DecisionId.kind same.symm) (apart _ alone).2.1
    · exact absurd (congrArg DecisionId.kind same.symm) (apart _ alone).2.2
    · exact site.lone_once (admitMembers input expectation) (input.resources expectation) alone'
        alone (congrArg DecisionId.kind same)

/-- The lifecycle rests on every record that the site was composed from. -/
theorem lifecycle_rests {record : MemberPublicationRecord} (selected : input.Selects record) :
    ∃ decision ∈ site.decisions, decision.id = ⟨.siteLifecycle, {}⟩ ∧
      record.source ∈ decision.sources.items := by
  refine ⟨_, (mem_decisions_iff parts.prepared composed room).mpr (.inr rfl), rfl, ?_⟩
  refine ((SourceSet.mem_gatherFrom (pool_fits parts) fun other drawn =>
    plan_drawn parts drawn).2 _).mpr ?_
  exact ⟨_, List.mem_append_left _ (List.mem_append_left _ List.mem_cons_self),
    ((membership_sources parts).2 _).mpr (mem_pool_iff.mpr ⟨record, selected, rfl⟩)⟩

omit room in
theorem source_splits (ref : SourceRef) :
    site.Splits (fun sources => ref ∈ sources.items) (site.invalidateForSource ref) :=
  (ComposedSite.surveyed_splits _ _ _).congr
    (fun _ listed => SourceSet.contains_iff (decision_drawn parts composed listed).ordered ref)
    fun _ owned => SourceSet.contains_iff (attestors_drawn parts owned).ordered ref

omit room in
theorem report_domain {record : MemberPublicationRecord} (selected : input.Selects record) :
    site.invalidateForDomain record.domain = site.invalidateForSource record.source ∧
      (site.invalidateForSource record.source).affectedDomains = [record.domain] := by
  have found : site.findMember record.domain = some (admitRecord input expectation record).state :=
    parts.findMember selected
  have alike : ∀ opened, site.surveyed (·.containsDomain record.domain) opened =
      site.surveyed (·.contains record.source) opened := fun opened =>
    ComposedSite.surveyed_congr opened
      (fun _ listed => containsDomain_eq (decision_drawn parts composed listed) selected)
      fun _ owned => containsDomain_eq (attestors_drawn parts owned) selected
  have named : record.source.domain = record.domain := rfl
  have brought : (admitRecord input expectation record).state.source = record.source := rfl
  refine ⟨?_, ?_⟩
  · rw [ComposedSite.invalidateForDomain, ComposedSite.invalidateForSource, named, found, alike]
    dsimp only
    rw [brought, if_pos rfl]
  · rw [ComposedSite.invalidateForSource, ComposedSite.surveyed_frame, named, found]
    dsimp only
    rw [brought, if_pos rfl]
    exact sort_of_ordered (List.pairwise_singleton _ _)

end CompositionInput

/-- A report on a composed site is exact. It puts every decision on one side only, by whether
it rests on the generation that changed, and names the kinds to decide again once. For
a generation that the site was composed from it takes everything along and names the
resources which that generation claims, and the report on the whole domain is the same; for
any other generation it names nothing. -/
theorem invalidation_reports_are_exact [StdSort] {input : CompositionInput} {site : ComposedSite}
    (composed : compose input = .composed site)
    (room : site.decisionsDue ≤ Limits.maxDecisions) (ref : SourceRef) :
    site.Splits (fun sources => ref ∈ sources.items) (site.invalidateForSource ref) ∧
      (∀ id ∈ (site.invalidateForSource ref).invalidated,
        id ∉ (site.invalidateForSource ref).retained) ∧
      (∀ record, input.Selects record → record.source = ref →
        (site.invalidateForSource ref).invalidatesEverything = true ∧
        (site.invalidateForSource ref).affectedDomains = [record.domain] ∧
        (∀ key, key ∈ (site.invalidateForSource ref).affectedResources ↔
          ∃ claim ∈ record.claims, claim.key = key) ∧
        site.invalidateForDomain record.domain = site.invalidateForSource ref) ∧
      ((∀ record, input.Selects record → record.source ≠ ref) →
        (site.invalidateForSource ref).invalidated = [] ∧
        (site.invalidateForSource ref).affectedResources = []) := by
  obtain ⟨expectation, parts⟩ := CompositionInput.compose_composes composed
  have splits := CompositionInput.source_splits parts composed ref
  refine ⟨splits, ?_, ?_, fun unselected => ⟨?_, ?_⟩⟩
  · intro id invalidated retained
    obtain ⟨decision, listed, rfl, rests⟩ := (splits.invalidated id).mp invalidated
    obtain ⟨other, listed', same, spared⟩ := (splits.retained _).mp retained
    rw [CompositionInput.decided_once parts composed room listed listed' same] at spared
    exact spared rests
  · rintro record selected rfl
    obtain ⟨same, affected⟩ := CompositionInput.report_domain parts composed selected
    refine ⟨?_, affected, fun key => ?_, same⟩
    · obtain ⟨decision, listed, id, rests⟩ :=
        CompositionInput.lifecycle_rests parts composed room selected
      refine List.any_eq_true.mpr ⟨_, (splits.invalidated _).mpr ⟨decision, listed, rfl, rests⟩, ?_⟩
      rw [id]
      rfl
    · rw [splits.resources]
      have few := (CompositionInput.prepare_ok parts.prepared).1
      constructor
      · rintro ⟨attribution, owned, rfl, attests⟩
        obtain ⟨key, found, listed, rfl⟩ := (CompositionInput.mem_ownership parts).mp owned
        exact (CompositionInput.stands_iff few selected listed).mp attests
      · rintro ⟨claim, claimed, rfl⟩
        have claims : input.claimsOn claim.key ≠ [] := List.ne_nil_of_mem
          (CompositionInput.mem_claimsOn.mpr ⟨record, selected, claimed, rfl⟩)
        obtain ⟨found, listed⟩ := Option.isSome_iff_exists.mp
          ((@CompositionInput.resources_isSome_iff _ _ expectation claim.key).mpr claims)
        exact ⟨_, (CompositionInput.mem_ownership parts).mpr ⟨_, found, listed, rfl⟩, rfl,
          (CompositionInput.stands_iff few selected listed).mpr ⟨claim, claimed, rfl⟩⟩
  · apply List.eq_nil_iff_forall_not_mem.mpr
    intro id named
    obtain ⟨decision, listed, -, rests⟩ := (splits.invalidated id).mp named
    exact CompositionInput.notMem_of_unselected
      (CompositionInput.decision_drawn parts composed listed) unselected rests
  · apply List.eq_nil_iff_forall_not_mem.mpr
    intro key named
    obtain ⟨attribution, owned, -, attests⟩ := (splits.resources key).mp named
    exact CompositionInput.notMem_of_unselected
      (CompositionInput.attestors_drawn parts owned) unselected attests

/-- What the rack with a link published. -/
def CompositionInput.linkReport : MemberPublicationRecord :=
  (MemberDomainDeclaration.uplinked [.sample (ascii "link-1") 5]).publication

/-- A change of the rack with a link takes everything along, and the link is affected. -/
theorem link_report_is_exact :
    ∃ site, compose .linkAndRack = .composed site ∧
      (site.invalidateForSource CompositionInput.linkReport.source).invalidatesEverything = true ∧
      (site.invalidateForSource CompositionInput.linkReport.source).affectedDomains =
        [CompositionInput.linkReport.domain] ∧
      .sharedLink ⟨ascii "link-1"⟩ ∈
        (site.invalidateForSource CompositionInput.linkReport.source).affectedResources := by
  obtain ⟨site, composed, room⟩ := CompositionInput.composed_of_sealed
    (show (composeSealed .linkAndRack).passes (fun site =>
      decide (site.decisionsDue ≤ Limits.maxDecisions)) = true by decide +kernel) .sample
  have sealed : CompositionInput.linkAndRack.Sealed := .sample
  have chosen : CompositionInput.linkAndRack.Selects CompositionInput.linkReport :=
    sealed.best_of_folded (MemberDomainDeclaration.publication_sealed _) (by decide +kernel)
  have claimed : Claim.link (.sample (ascii "link-1") 5) ∈ CompositionInput.linkReport.claims := by
    decide +kernel
  obtain ⟨-, -, current, -⟩ := invalidation_reports_are_exact composed (of_decide_eq_true room)
    CompositionInput.linkReport.source
  obtain ⟨everything, domains, resources, -⟩ := current _ chosen rfl
  exact ⟨site, composed, everything, domains, (resources _).mpr ⟨_, claimed, rfl⟩⟩

namespace CompositionInput

variable [StdSort] {input input' : CompositionInput} {expectation : SiteExpectation}
  {site site' : ComposedSite} {domain : MemberDomainKey}

theorem domain_splits (site : ComposedSite) (domain : MemberDomainKey) :
    site.Splits (fun sources => ∃ ref ∈ sources.items, ref.domain = domain)
      (site.invalidateForDomain domain) := by
  have splits : ∀ (changed : SourceRef) (affected : List MemberDomainKey),
      site.Splits (fun sources => ∃ ref ∈ sources.items, ref.domain = domain)
        (site.surveyed (·.containsDomain domain)
          { domain, changed, affectedDomains := affected }) :=
    fun changed affected => (ComposedSite.surveyed_splits _ _ _).congr
      (fun _ _ => SourceSet.containsDomain_iff) fun _ _ => SourceSet.containsDomain_iff
  rw [ComposedSite.invalidateForDomain]
  cases site.findMember domain with
  | none => exact splits {} []
  | some member => exact splits member.source [domain]

section Apart

variable (parts : input.Composes expectation site) (composed : compose input = .composed site)
  (room : site.decisionsDue ≤ Limits.maxDecisions)

include parts composed room

omit parts composed room in
/-- A decision that the report on a domain does not invalidate leaves the domain out. -/
theorem apart_of_spared {decision : SiteDecision} (listed : decision ∈ site.decisions)
    (spared : decision.id ∉ (site.invalidateForDomain domain).invalidated)
    (record : MemberPublicationRecord) (here : record.domain = domain) :
    record.source ∉ decision.sources.items := by
  intro rests
  exact spared (((domain_splits site domain).invalidated _).mpr
    ⟨decision, listed, rfl, _, rests, here⟩)

/-- Where the ownership of a resource is spared, the domain claims nothing of it. -/
theorem silent_of_spared {key : ResourceKey}
    (spared : ⟨.ownershipMap, key⟩ ∉ (site.invalidateForDomain domain).invalidated) :
    (admitMembers input expectation).Silent domain key := by
  refine silent_of_absent (prepare_ok parts.prepared).1 fun record _ here found listed => ?_
  have owned : found.attribution key ∈ site.ownership :=
    (mem_ownership parts).mpr ⟨key, found, listed, rfl⟩
  have planned : SiteDecision.draw .ownershipMap key (found.attribution key).status found.sources
      (found.attribution key).factors ∈
        site.plan (admitMembers input expectation) (input.resources expectation) :=
    List.mem_append_left _ (List.mem_append_left _ (List.mem_append_right _
      (List.mem_map.mpr ⟨_, owned, rfl⟩)))
  exact apart_of_spared
    ((mem_decisions_iff parts.prepared composed room).mpr (.inl planned)) spared record here

/-- Where a summary of some kinds is spared, the domain claims nothing of these kinds. -/
theorem silent_of_spared_summary {kind : DecisionKind} {kinds : List ResourceKind}
    {status : Status} {factors : Factors}
    (planned : SiteDecision.draw kind {} status (kindSources site kinds) factors ∈
      site.summaryPlan)
    (spared : ⟨kind, {}⟩ ∉ (site.invalidateForDomain domain).invalidated) {key : ResourceKey}
    (among : key.kind ∈ kinds) : (admitMembers input expectation).Silent domain key := by
  refine silent_of_kinds parts (fun record _ here => ?_) among
  exact apart_of_spared ((mem_decisions_iff parts.prepared composed room).mpr
    (.inl (List.mem_append_left _ (List.mem_append_right _ planned)))) spared record here

/-- Where the membership or the lifecycle is spared, the domain brought no record. -/
theorem unselected_of_spared {kind : DecisionKind}
    (whole : kind = .membershipCompleteness ∨ kind = .siteLifecycle)
    (spared : ⟨kind, {}⟩ ∉ (site.invalidateForDomain domain).invalidated) :
    (admitMembers input expectation)[domain]? = none := by
  cases admitted : (admitMembers input expectation)[domain]? with
  | none => rfl
  | some admission =>
    obtain ⟨record, selected, here, -⟩ := admitMembers_iff.mp admitted
    refine absurd ?_ spared
    rw [(domain_splits site domain).invalidated]
    rcases whole with rfl | rfl
    · refine ⟨_, (mem_decisions_iff parts.prepared composed room).mpr (.inl (List.mem_append_left _
        (List.mem_append_left _ List.mem_cons_self))), rfl, record.source, ?_, here⟩
      exact ((membership_sources parts).2 _).mpr (mem_pool_iff.mpr ⟨record, selected, rfl⟩)
    · obtain ⟨decision, listed, id, rests⟩ := lifecycle_rests parts composed room selected
      exact ⟨decision, listed, id, record.source, rests, here⟩

/-- Of the direct decisions only those on ownership are about a resource. -/
theorem direct_subject {decision : SiteDecision} (listed : decision ∈ site.decisions)
    (direct : decision.id.kind.direct = true) (other : decision.id.kind ≠ .ownershipMap) :
    decision.id.subject = {} := by
  rcases (mem_decisions_iff parts.prepared composed room).mp listed with planned | rfl
  · simp only [ComposedSite.plan, ComposedSite.directPlan, ComposedSite.summaryPlan,
      ComposedSite.derivedPlan, List.mem_append, List.mem_cons, List.mem_map, List.not_mem_nil,
      or_false] at planned
    rcases planned with (((rfl | rfl) | ⟨attribution, owned, rfl⟩) |
      rfl | rfl | rfl | rfl | rfl | rfl) | ⟨effect, _, rfl⟩ | ⟨verdict, listed, rfl⟩
    · rfl
    · rfl
    · exact absurd rfl other
    · rfl
    · rfl
    · rfl
    · rfl
    · rfl
    · rfl
    · cases direct
    · cases direct
  · rfl

end Apart

/-- Inputs that agree without a domain admit the other domains alike. -/
theorem agreeBut_of_without (same : input'.without domain = input.without domain) :
    Admissions.AgreeBut domain (admitMembers input' expectation)
      (admitMembers input expectation) := by
  intro other apart
  have kept := @admitted_without input expectation domain _ other
  have kept' := @admitted_without input' expectation domain _ other
  rw [if_neg (Ne.symm apart)] at kept kept'
  rw [← kept, ← kept', same]

end CompositionInput

open CompositionInput in
/-- Reports are sound for any change of a domain's records. Where two inputs differ in the
records of one domain only, a direct decision that neither site's report on the domain
invalidates is taken alike by both sites. -/
theorem unreported_matters_agree [StdSort] {input input' : CompositionInput}
    {site site' : ComposedSite} {domain : MemberDomainKey}
    (same : input'.without domain = input.without domain)
    (composed : compose input = .composed site) (composed' : compose input' = .composed site')
    (room : site.decisionsDue ≤ Limits.maxDecisions)
    (room' : site'.decisionsDue ≤ Limits.maxDecisions) {id : DecisionId}
    (direct : id.kind.direct = true)
    (decided : ∃ decision ∈ site.decisions ++ site'.decisions, decision.id = id)
    (spared : id ∉ (site.invalidateForDomain domain).invalidated)
    (spared' : id ∉ (site'.invalidateForDomain domain).invalidated) : site.Agrees site' id := by
  obtain ⟨expectation, parts⟩ := compose_composes composed
  obtain ⟨expectation', parts'⟩ := compose_composes composed'
  have prepared := @prepare_without _ _ domain parts.prepared
  have prepared' := @prepare_without _ _ domain parts'.prepared
  rw [same] at prepared'
  obtain rfl : expectation' = expectation := Except.ok.inj (prepared'.symm.trans prepared)
  have agree := @agreeBut_of_without _ input input' expectation' domain same
  have subject : id.kind ≠ .ownershipMap → id.subject = {} := by
    intro other
    obtain ⟨decision, listed, rfl⟩ := decided
    rcases List.mem_append.mp listed with first | second
    · exact direct_subject parts composed room first direct other
    · exact direct_subject parts' composed' room' second direct other
  obtain ⟨kind, key⟩ := id
  replace subject : kind ≠ .ownershipMap → key = {} := subject
  have whole :
      kind = .membershipCompleteness ∨ kind = .siteLifecycle → key = {} → site' = site := by
    rintro either rfl
    have alone := compose_without parts.prepared
      (unselected_of_spared parts composed room either spared)
    have alone' := compose_without parts'.prepared
      (unselected_of_spared parts' composed' room' either spared')
    rw [same, alone, composed, composed'] at alone'
    cases alone'
    rfl
  cases kind with
  | membershipCompleteness =>
    obtain rfl := whole (.inl rfl) (subject (by decide))
    rfl
  | siteLifecycle =>
    obtain rfl := whole (.inr rfl) (subject (by decide))
    rfl
  | ownershipMap =>
    change site'.ownership.find? (·.key = key) = site.ownership.find? (·.key = key)
    rw [parts.ownership, parts'.ownership, ownershipOf_find, ownershipOf_find,
      CompositionInput.resources, CompositionInput.resources,
      resources_agree agree (silent_of_spared parts composed room spared)
        (silent_of_spared parts' composed' room' spared')]
  | failureDomainForest =>
    obtain rfl := subject (by decide)
    have silent : ∀ key : ResourceKey, key.kind = .failureDomain →
        (admitMembers input expectation').Silent domain key := fun key kind =>
      silent_of_spared_summary parts composed room (List.mem_cons_of_mem _ List.mem_cons_self)
        spared (List.mem_singleton.mpr kind)
    have silent' : ∀ key : ResourceKey, key.kind = .failureDomain →
        (admitMembers input' expectation').Silent domain key := fun key kind =>
      silent_of_spared_summary parts' composed' room' (List.mem_cons_of_mem _ List.mem_cons_self)
        spared' (List.mem_singleton.mpr kind)
    change site'.failureDomains = site.failureDomains
    rw [parts.failureDomains, parts'.failureDomains]
    exact composeForest_agree agree
      (fun key kind => resources_agree agree (silent key kind) (silent' key kind))
      fun key record kind found attestation =>
        attestor_apart (admitMembers_orderly (prepare_ok parts.prepared).1) (silent key kind) found
  | connectivitySummary =>
    obtain rfl := subject (by decide)
    change site'.connectivity = site.connectivity
    rw [parts.connectivity, parts'.connectivity]
    exact composeConnectivity_agree fun key kind => resources_agree agree
      (silent_of_spared_summary parts composed room
        (List.mem_cons_of_mem _ (List.mem_cons_of_mem _ List.mem_cons_self)) spared kind)
      (silent_of_spared_summary parts' composed' room'
        (List.mem_cons_of_mem _ (List.mem_cons_of_mem _ List.mem_cons_self)) spared' kind)
  | _ => cases direct

/-- The rack with a link, and a newer generation of the empty rack. -/
def CompositionInput.linkAndNewerRack : CompositionInput :=
  .sample [.uplinked [.sample (ascii "link-1") 5],
    { MemberDomainDeclaration.sample (ascii "rack-2") with generation := ⟨2⟩ }]

/-- The report on a rack spares the ownership of a link. -/
def ComposedSite.sparesLink (rack : Text) (link : Text) (site : ComposedSite) : Bool :=
  decide (site.decisionsDue ≤ Limits.maxDecisions) &&
    (site.decisions.any (·.id = ⟨.ownershipMap, .sharedLink ⟨link⟩⟩) &&
      !(site.invalidateForDomain ⟨.rack, rack⟩).invalidated.contains
        ⟨.ownershipMap, .sharedLink ⟨link⟩⟩)

theorem link_ownership_outlives_a_generation :
    ∃ site site', compose .linkAndRack = .composed site ∧
      compose .linkAndNewerRack = .composed site' ∧
      site.Agrees site' ⟨.ownershipMap, .sharedLink ⟨ascii "link-1"⟩⟩ := by
  obtain ⟨site, composed, spares⟩ := CompositionInput.composed_of_sealed
    (show (composeSealed .linkAndRack).passes
      (ComposedSite.sparesLink (ascii "rack-2") (ascii "link-1")) = true by decide +kernel) .sample
  obtain ⟨site', composed', spares'⟩ := CompositionInput.composed_of_sealed
    (show (composeSealed .linkAndNewerRack).passes
      (ComposedSite.sparesLink (ascii "rack-2") (ascii "link-1")) = true by decide +kernel) .sample
  simp only [ComposedSite.sparesLink, Bool.and_eq_true, decide_eq_true_eq, List.any_eq_true,
    Bool.not_eq_true', List.contains_eq_mem, decide_eq_false_iff_not] at spares spares'
  obtain ⟨room, ⟨decision, decided, id⟩, spared⟩ := spares
  obtain ⟨room', -, spared'⟩ := spares'
  have same : CompositionInput.linkAndNewerRack.without ⟨.rack, ascii "rack-2"⟩ =
      CompositionInput.linkAndRack.without ⟨.rack, ascii "rack-2"⟩ := rfl
  exact ⟨site, site', composed, composed', unreported_matters_agree same composed composed' room
    room' rfl ⟨decision, List.mem_append_left _ decided, id⟩ spared spared'⟩

end SiteFabric
