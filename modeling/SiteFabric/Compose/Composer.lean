import SiteFabric.Compose.Verdicts

/-! Decisions, and the composition function itself.
The stages run in the source's order, each on the site the one before left.
Composition either refuses its input, or crashes in a verdict stage, or composes
a site. -/

namespace SiteFabric

open Lib
open Std (ExtTreeMap)

namespace SourceSet

/-- The union of the sources of some items. -/
def gatherFrom {α : Type} (sources : α → SourceSet) (items : List α) : SourceSet :=
  items.foldl (fun set item => set.insertSet (sources item)) {}

end SourceSet

section Decisions

variable (admissions : Admissions) (resources : Resources)

/-- The sources of an effect: its zone's, and those of every resource it excludes. -/
def effectSources (effect : MaintenanceEffect) : SourceSet :=
  let zone : SourceSet :=
    match resources[ResourceKey.maintenanceZone effect.id]? with
    | none => {}
    | some record => SourceSet.insertSet {} record.sources
  effect.excluded.foldl
    (fun set key =>
      match resources[key]? with
      | none => set
      | some record => set.insertSet record.sources) zone

/-- The sources of the attributions whose key is of one of some kinds. -/
def kindSources (out : ComposedSite) (kinds : List ResourceKind) : SourceSet :=
  SourceSet.gatherFrom ResourceAttribution.attestors
    (out.ownership.filter fun attribution => kinds.contains attribution.key.kind)

def decideDirect (out : ComposedSite) : ComposedSite :=
  let membership := (admissions.toList.map (·.2.source)).foldl SourceSet.insert {}
  let out := out.addDecision .membershipCompleteness {}
    (if out.membershipComplete then .ok else .incomplete) membership {}
  let out := out.addDecision .siteEpoch {} .ok membership {}
  out.ownership.foldl
    (fun out attribution => out.addDecision .ownershipMap attribution.key attribution.status
      attribution.attestors attribution.factors) out

def decideSummaries (out : ComposedSite) : ComposedSite :=
  let capacity := SourceSet.gatherFrom CapacityLedgerEntry.attestors
    (out.capacity.entries.filter (·.countedInTotal))
  let out := out.addDecision .rackTopology {} .ok (kindSources out [.rack]) {}
  let out := out.addDecision .failureDomainForest {} out.failureDomains.status
    (kindSources out [.failureDomain]) out.failureDomains.factors
  let out := out.addDecision .connectivitySummary {} out.connectivity.status
    (kindSources out [.sharedLink, .gateway]) {}
  let out := out.addDecision .sharedResourceAccounting {} .ok
    (kindSources out [.sharedLink, .gateway, .capacityPool]) {}
  let out := out.addDecision .capacityTotal {} out.capacity.status capacity out.capacity.factors
  out.addDecision .capacityAvailable {} out.capacity.status capacity out.capacity.factors

def decideDerived (out : ComposedSite) : ComposedSite :=
  let out := out.maintenance.foldl
    (fun out effect => out.addDecision .maintenanceExclusion (.maintenanceZone effect.id)
      effect.status (effectSources resources effect) effect.factors) out
  let out := out.obligations.foldl
    (fun out verdict => out.addDecision .obligationVerdict (.obligation verdict.id) verdict.status
      verdict.sources verdict.factors) out
  out.addDecision .siteLifecycle {} out.status
    (SourceSet.gatherFrom SiteDecision.sources out.decisions) {}

def buildDecisions [StdSort] (out : ComposedSite) : ComposedSite :=
  let out := decideDerived resources (decideSummaries (decideDirect admissions out))
  { out with decisions := sort (byKey fun decision => decision.id.rank) out.decisions }

theorem decideDirect_frame (out : ComposedSite) :
    (decideDirect admissions out).body = out.body ∧
      (decideDirect admissions out).conflicts = out.conflicts := by
  unfold decideDirect
  dsimp only
  rw [foldl_frame ComposedSite.body fun site attribution => ComposedSite.body_addDecision ..,
    foldl_frame ComposedSite.conflicts fun site attribution =>
      ComposedSite.conflicts_addDecision ..]
  simp

theorem decideSummaries_frame (out : ComposedSite) :
    (decideSummaries out).body = out.body ∧
      (decideSummaries out).conflicts = out.conflicts := by
  unfold decideSummaries
  simp

theorem decideDerived_frame (out : ComposedSite) :
    (decideDerived resources out).body = out.body ∧
      (decideDerived resources out).conflicts = out.conflicts := by
  unfold decideDerived
  dsimp only
  rw [ComposedSite.body_addDecision, ComposedSite.conflicts_addDecision,
    foldl_frame ComposedSite.body fun site verdict => ComposedSite.body_addDecision ..,
    foldl_frame ComposedSite.body fun site effect => ComposedSite.body_addDecision ..,
    foldl_frame ComposedSite.conflicts fun site verdict => ComposedSite.conflicts_addDecision ..,
    foldl_frame ComposedSite.conflicts fun site effect => ComposedSite.conflicts_addDecision ..]
  exact ⟨rfl, rfl⟩

/-- Decisions record what the site is and change nothing in it. -/
theorem buildDecisions_frame [StdSort] (out : ComposedSite) :
    (buildDecisions admissions resources out).body = out.body ∧
      (buildDecisions admissions resources out).conflicts = out.conflicts := by
  obtain ⟨direct, directConflicts⟩ := decideDirect_frame admissions out
  obtain ⟨summaries, summariesConflicts⟩ := decideSummaries_frame (decideDirect admissions out)
  obtain ⟨derived, derivedConflicts⟩ :=
    decideDerived_frame resources (decideSummaries (decideDirect admissions out))
  have sorted : ∀ (site : ComposedSite) decisions,
      ({ site with decisions } : ComposedSite).body = site.body := fun _ _ => rfl
  unfold buildDecisions
  dsimp only
  refine ⟨(sorted _ _).trans (derived.trans (summaries.trans direct)), ?_⟩
  exact derivedConflicts.trans (summariesConflicts.trans directConflicts)

end Decisions

/-- What a call of `compose` comes to. -/
inductive CompositionResult where
  | refused (status : Status)
  | crashed
  | composed (site : ComposedSite)
deriving DecidableEq

namespace CompositionInput

def adopted (input : CompositionInput) : SiteExpectation :=
  if input.expectation.site.isEmpty then { input.expectation with site := input.site }
  else input.expectation

/-- Header and expectation validation; the expectation in canonical order. -/
def prepare (input : CompositionInput) : Except Status SiteExpectation :=
  if !input.site.valid then .error .invalid
  else if !input.epoch.isSet || !input.generation.isSet then .error .invalid
  else if !input.incarnation.valid then .error .invalid
  else if input.nowMs ≤ 0 then .error .invalid
  else if input.publications.length > Limits.maxMemberDomains then .error .limitExceeded
  else if input.retirements.length > Limits.maxMemberDomains then .error .limitExceeded
  else if input.revoked.length > Limits.maxMemberDomains then .error .limitExceeded
  else if input.adopted.site ≠ input.site then .error .siteMismatch
  else input.adopted.canonicalize

variable [StdSort] (input : CompositionInput) (expectation : SiteExpectation)

/-- The header of the site, with every selected record's state. -/
def admitted : ComposedSite where
  site := input.site
  epoch := input.epoch
  generation := input.generation
  incarnation := input.incarnation
  composedAtMs := input.nowMs
  members := (admitMembers input expectation).toList.map (·.2.state)

def resources : Resources := gatherResources (admitMembers input expectation)

/-- The site up to the capacity ledger: every stage that cannot fail. -/
def accounted : ComposedSite :=
  let admissions := admitMembers input expectation
  let resources := input.resources expectation
  let out := attributeResources resources (input.admitted expectation)
  let out := buildFailureDomains admissions resources out
  let out := buildMaintenance input.nowMs (domainMembers admissions resources) resources out
  buildConnectivity resources out

/-- The site from its verdicts on. -/
def concluded (out : ComposedSite) : ComposedSite :=
  let admissions := admitMembers input expectation
  let out := buildMembership expectation admissions out
  let out := buildLifecycle expectation out
  buildDecisions admissions (input.resources expectation) out

end CompositionInput

/-- `SiteComposer::compose`. -/
def compose [StdSort] (input : CompositionInput) : CompositionResult :=
  match input.prepare with
  | .error status => .refused status
  | .ok expectation =>
    match buildObligations (input.resources expectation) (input.accounted expectation) with
    | none => .crashed
    | some out => .composed (input.concluded expectation out)

/-- Composition yields a site, and the site passes a test. -/
def CompositionResult.passes (result : CompositionResult) (test : ComposedSite → Bool) : Bool :=
  match result with
  | .composed site => test site
  | _ => false

theorem CompositionResult.composed_of_passes {result : CompositionResult}
    {test : ComposedSite → Bool} (passed : result.passes test = true) :
    ∃ site, result = .composed site ∧ test site = true := by
  cases result with
  | composed site => exact ⟨site, rfl, passed⟩
  | refused status => cases passed
  | crashed => cases passed

def Evidence.sample : Evidence :=
  { provenance := .measured, observedAtMs := 1000, ttlMs := 60000 }

/-- An empty declaration of a rack domain. -/
def MemberDomainDeclaration.sample (rack : Text) : MemberDomainDeclaration where
  domain := ⟨.rack, rack⟩
  site := ⟨ascii "site-1"⟩
  generation := ⟨1⟩
  observedEpoch := ⟨1⟩
  evidence := Evidence.sample

/-- A rack domain with nine units of internal capacity and some shared links. -/
def MemberDomainDeclaration.uplinked (links : List SharedLinkClaim) : MemberDomainDeclaration :=
  { MemberDomainDeclaration.sample (ascii "rack-1") with
    racks := [
      { id := ⟨ascii "rack-1"⟩, generation := ⟨1⟩, uplink := .up
        localCapacity := { internal := .ofBps 9 }, evidence := Evidence.sample }]
    sharedLinks := links }

/-- An external link that is up and carries the same both ways. -/
def SharedLinkClaim.sample (id : Text) (bps : UInt64) : SharedLinkClaim where
  id := ⟨id⟩
  external := true
  generation := ⟨1⟩
  capacity := { ingress := .ofBps bps, egress := .ofBps bps }
  state := .up
  evidence := Evidence.sample

/-- The record of a declaration, sealed as it is published. -/
def MemberDomainDeclaration.publication (d : MemberDomainDeclaration) :
    MemberPublicationRecord where
  domain := d.domain
  generation := d.generation
  digest := d.computeDigest
  schema := d.schema
  site := d.site
  observedEpoch := d.observedEpoch
  attempt := ⟨1, 1⟩
  acceptanceSequence := 1
  declaration := some { d with digest := d.computeDigest }

/-- A site that expects the domains of some declarations and hears from each. -/
def CompositionInput.sample (declarations : List MemberDomainDeclaration) :
    CompositionInput where
  site := ⟨ascii "site-1"⟩
  epoch := ⟨1⟩
  generation := ⟨1⟩
  incarnation := ⟨1, ⟨ascii "boot-1"⟩⟩
  nowMs := 2000
  expectation := { members := declarations.map fun d => { domain := d.domain } }
  publications := declarations.map (·.publication)

end SiteFabric
