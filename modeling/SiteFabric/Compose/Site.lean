import SiteFabric.Core.Declaration

/-! The composed site: what composition reports, field by field, and the input
it reads. Conflicts, deficits and decisions are bounded lists; one that is full
takes no more and says so in the site's factors. -/

namespace SiteFabric

open Lib

namespace Limits

def maxMemberDomains : Nat := 4096
def maxConflicts : Nat := 8192
def maxDeficits : Nat := 8192
def maxDecisions : Nat := 131072
def maxAttestorsPerResource : Nat := 4096
def maxFailureDomainDepth : Nat := 32

end Limits

inductive MemberLifecycle where
  | unknown | absent | reported | current | stale | superseded | conflicting | incompatible
  | retired | revoked
deriving DecidableEq, Inhabited

structure MemberDomainState where
  domain : MemberDomainKey := {}
  lifecycle : MemberLifecycle := .unknown
  status : Status := .unknown
  generation : Generation := {}
  digest : Digest := Digest.zero
  schema : SchemaVersion := {}
  incarnation : Incarnation := {}
  publisher : MemberId := {}
  receivedAtMs : Int64 := 0
  evidenceState : EvidenceState := .unknown
  expected : Bool := false
  expectationPinned : Bool := false
  source : SourceRef := {}
  factors : Factors := {}
deriving DecidableEq, Inhabited

inductive SiteLifecycle where
  | unknown | initializing | current | degraded | partitioned | incomplete | conflicting
  | indeterminate | stopped
deriving DecidableEq, Inhabited

def SiteLifecycle.token : SiteLifecycle → Text
  | .unknown => ascii "UNKNOWN"
  | .initializing => ascii "INITIALIZING"
  | .current => ascii "CURRENT"
  | .degraded => ascii "DEGRADED"
  | .partitioned => ascii "PARTITIONED"
  | .incomplete => ascii "INCOMPLETE"
  | .conflicting => ascii "CONFLICTING"
  | .indeterminate => ascii "INDETERMINATE"
  | .stopped => ascii "STOPPED"

inductive DecisionKind where
  | unknown | membershipCompleteness | siteEpoch | ownershipMap | rackTopology
  | failureDomainForest | connectivitySummary | sharedResourceAccounting | capacityTotal
  | capacityAvailable | maintenanceExclusion | obligationVerdict | siteLifecycle
deriving DecidableEq, Inhabited

structure DecisionId where
  kind : DecisionKind := .unknown
  subject : ResourceKey := {}
deriving DecidableEq, Inhabited

/-- Decisions are listed by kind, then by subject. -/
def DecisionId.rank (id : DecisionId) : Nat ×ₗ ResourceKey := toLex (id.kind.ctorIdx, id.subject)

structure SiteDecision where
  id : DecisionId := {}
  status : Status := .unknown
  sources : SourceSet := {}
  valueDigest : Digest := Digest.zero
  factors : Factors := {}
deriving DecidableEq, Inhabited

open Canonical in
def decisionValueDigest (decision : SiteDecision) : Digest :=
  Sha256.digestBytes (tag decision.id.kind.ctorIdx ++ resourceKey decision.id.subject ++
    tag decision.status.ctorIdx ++ Canonical.factors decision.factors)

structure ResourceAttribution where
  key : ResourceKey := {}
  attestors : SourceSet := {}
  consensusDigest : Digest := Digest.zero
  distinctContents : Nat := 0
  status : Status := .unknown
  factors : Factors := {}
deriving DecidableEq, Inhabited

def ResourceAttribution.attributed (a : ResourceAttribution) : Bool :=
  a.status == .ok && a.distinctContents == 1

structure CapacityLedgerEntry where
  owner : ResourceKey := {}
  scope : CapacityScope := .unknown
  capacity : CapacityVector := {}
  attestors : SourceSet := {}
  status : Status := .unknown
  countedInTotal : Bool := false
  factors : Factors := {}
deriving DecidableEq, Inhabited

structure CapacityLedger where
  entries : List CapacityLedgerEntry := []
  total : CapacityVector := {}
  available : CapacityVector := {}
  excludedByMaintenance : CapacityVector := {}
  indeterminate : CapacityVector := {}
  closesExactly : Bool := false
  status : Status := .unknown
  factors : Factors := {}
deriving DecidableEq, Inhabited

structure ConnectivitySummary where
  sharedLinks : Nat := 0
  sharedLinksUp : Nat := 0
  sharedLinksDown : Nat := 0
  sharedLinksDegraded : Nat := 0
  sharedLinksUnknown : Nat := 0
  externalLinks : Nat := 0
  internalLinks : Nat := 0
  gateways : Nat := 0
  gatewaysUp : Nat := 0
  gatewaysDown : Nat := 0
  gatewaysDegraded : Nat := 0
  gatewaysUnknown : Nat := 0
  unknownState : List ResourceKey := []
  sources : SourceSet := {}
  status : Status := .unknown
deriving DecidableEq, Inhabited

structure SiteConflict where
  code : Status := .unknown
  subject : ResourceKey := {}
  parties : SourceSet := {}
  variants : List Text := []
  detectedAtMs : Int64 := 0
deriving DecidableEq, Inhabited

structure SiteDeficit where
  code : Status := .unknown
  domain : MemberDomainKey := {}
  detail : Text := Text.empty
deriving DecidableEq, Inhabited

structure FailureDomainNode where
  id : FailureDomainId := {}
  domainClass : FailureDomainClass := .unknown
  parent : Option FailureDomainId := none
  members : List ResourceKey := []
  children : List FailureDomainId := []
  ancestors : List FailureDomainId := []
  depth : Nat := 0
  attestors : SourceSet := {}
  status : Status := .unknown
deriving DecidableEq, Inhabited

structure FailureDomainForest where
  nodes : List FailureDomainNode := []
  cyclic : List FailureDomainId := []
  dangling : List FailureDomainId := []
  status : Status := .unknown
  factors : Factors := {}
deriving DecidableEq, Inhabited

def FailureDomainForest.find (forest : FailureDomainForest) (id : FailureDomainId) :
    Option FailureDomainNode :=
  forest.nodes.find? (·.id = id)

structure MaintenanceEffect where
  id : MaintenanceZoneId := {}
  state : MaintenanceState := .unknown
  excluded : List ResourceKey := []
  indeterminate : List ResourceKey := []
  overlappingObligations : List ObligationId := []
  excludedCapacity : CapacityVector := {}
  status : Status := .unknown
  factors : Factors := {}
deriving DecidableEq, Inhabited

structure ObligationVerdict where
  id : ObligationId := {}
  kind : ObligationKind := .unknown
  status : Status := .unknown
  required : UInt64 := 0
  observed : Nat := 0
  observedKnown : Bool := false
  sources : SourceSet := {}
  factors : Factors := {}
deriving DecidableEq, Inhabited

structure ComposedSite where
  site : SiteId := {}
  epoch : Epoch := {}
  generation : Generation := {}
  incarnation : Incarnation := {}
  composedAtMs : Int64 := 0
  lifecycle : SiteLifecycle := .unknown
  status : Status := .unknown
  membershipComplete : Bool := false
  allEvidenceFresh : Bool := false
  anyConflict : Bool := false
  anyUnknownCapacity : Bool := false
  members : List MemberDomainState := []
  ownership : List ResourceAttribution := []
  capacity : CapacityLedger := {}
  connectivity : ConnectivitySummary := {}
  failureDomains : FailureDomainForest := {}
  maintenance : List MaintenanceEffect := []
  obligations : List ObligationVerdict := []
  conflicts : List SiteConflict := []
  deficits : List SiteDeficit := []
  decisions : List SiteDecision := []
  factors : Factors := {}
deriving DecidableEq, Inhabited

structure CompositionInput where
  site : SiteId := {}
  epoch : Epoch := {}
  generation : Generation := {}
  incarnation : Incarnation := {}
  nowMs : Int64 := 0
  expectation : SiteExpectation := {}
  publications : List MemberPublicationRecord := []
  retirements : List MemberRetirementRecord := []
  revoked : List MemberDomainKey := []
  reconstructed : List MemberDomainKey := []
deriving DecidableEq, Inhabited

namespace ComposedSite

def findMember (site : ComposedSite) (domain : MemberDomainKey) : Option MemberDomainState :=
  site.members.find? (·.domain = domain)

def addConflict (site : ComposedSite) (code : Status) (subject : ResourceKey)
    (parties : SourceSet) (variants : List Text) : ComposedSite :=
  if site.conflicts.length ≥ Limits.maxConflicts then
    { site with factors := site.factors.add (ascii "conflicts_truncated") (ascii "true") }
  else
    let conflict := { code, subject, parties, variants, detectedAtMs := site.composedAtMs }
    { site with conflicts := site.conflicts ++ [conflict] }

def addDeficit (site : ComposedSite) (code : Status) (domain : MemberDomainKey) (detail : Text) :
    ComposedSite :=
  if site.deficits.length ≥ Limits.maxDeficits then
    { site with factors := site.factors.add (ascii "deficits_truncated") (ascii "true") }
  else { site with deficits := site.deficits ++ [{ code, domain, detail }] }

def addDecision (site : ComposedSite) (kind : DecisionKind) (subject : ResourceKey)
    (status : Status) (sources : SourceSet) (factors : Factors) : ComposedSite :=
  if site.decisions.length ≥ Limits.maxDecisions then
    { site with factors := site.factors.add (ascii "decisions_truncated") (ascii "true") }
  else
    let decision : SiteDecision := { id := { kind, subject }, status, sources, factors }
    let decision := { decision with valueDigest := decisionValueDigest decision }
    { site with decisions := site.decisions ++ [decision] }

/-- The part of a site that findings and decisions are about and never change. -/
def body (site : ComposedSite) : ComposedSite :=
  { site with conflicts := [], deficits := [], decisions := [], factors := {} }

/-- What the site says of its resources, apart from members and verdict. -/
def accounts (site : ComposedSite) : ComposedSite :=
  { site.body with
    members := [], membershipComplete := false, allEvidenceFresh := false, anyConflict := false
    lifecycle := .unknown, status := .unknown }

theorem accounts_of_body {site site' : ComposedSite} (same : site'.body = site.body) :
    site'.accounts = site.accounts := by
  unfold accounts
  rw [same]

theorem members_of_body {site site' : ComposedSite} (same : site'.body = site.body) :
    site'.members = site.members :=
  (congrArg ComposedSite.members same :)

/-- The accounts of two sites agree part by part. -/
theorem parts_of_accounts {site site' : ComposedSite} (same : site'.accounts = site.accounts) :
    site'.ownership = site.ownership ∧ site'.failureDomains = site.failureDomains ∧
      site'.maintenance = site.maintenance ∧ site'.capacity = site.capacity ∧
      site'.connectivity = site.connectivity ∧ site'.obligations = site.obligations :=
  ⟨(congrArg ComposedSite.ownership same :), (congrArg ComposedSite.failureDomains same :),
    (congrArg ComposedSite.maintenance same :), (congrArg ComposedSite.capacity same :),
    (congrArg ComposedSite.connectivity same :), (congrArg ComposedSite.obligations same :)⟩

@[simp] theorem body_addConflict (site : ComposedSite) (code : Status) (subject : ResourceKey)
    (parties : SourceSet) (variants : List Text) :
    (site.addConflict code subject parties variants).body = site.body := by
  unfold addConflict
  split <;> rfl

@[simp] theorem body_addDeficit (site : ComposedSite) (code : Status) (domain : MemberDomainKey)
    (detail : Text) : (site.addDeficit code domain detail).body = site.body := by
  unfold addDeficit
  split <;> rfl

@[simp] theorem body_addDecision (site : ComposedSite) (kind : DecisionKind)
    (subject : ResourceKey) (status : Status) (sources : SourceSet) (factors : Factors) :
    (site.addDecision kind subject status sources factors).body = site.body := by
  unfold addDecision
  split <;> rfl

@[simp] theorem conflicts_addDeficit (site : ComposedSite) (code : Status)
    (domain : MemberDomainKey) (detail : Text) :
    (site.addDeficit code domain detail).conflicts = site.conflicts := by
  unfold addDeficit
  split <;> rfl

@[simp] theorem conflicts_addDecision (site : ComposedSite) (kind : DecisionKind)
    (subject : ResourceKey) (status : Status) (sources : SourceSet) (factors : Factors) :
    (site.addDecision kind subject status sources factors).conflicts = site.conflicts := by
  unfold addDecision
  split <;> rfl

/-- Truncation never hides that there was a conflict. -/
theorem conflicts_addConflict_ne_nil (site : ComposedSite) (code : Status)
    (subject : ResourceKey) (parties : SourceSet) (variants : List Text) :
    (site.addConflict code subject parties variants).conflicts ≠ [] := by
  unfold addConflict
  split
  · next full =>
    intro empty
    simp only at empty
    rw [empty] at full
    exact absurd full (by decide)
  · simp

/-- A pass that raises a conflict for some items leaves none exactly when there
were none and it met no such item. -/
theorem conflicts_foldl_eq_nil {ι : Type} {step : ComposedSite → ι → ComposedSite} (loud : ι → Prop)
    (silent : ∀ s i, ¬ loud i → (step s i).conflicts = s.conflicts)
    (raised : ∀ s i, loud i → (step s i).conflicts ≠ []) {items : List ι} {site : ComposedSite}
    (empty : (items.foldl step site).conflicts = []) :
    site.conflicts = [] ∧ ∀ i ∈ items, ¬ loud i := by
  induction items using List.reverseRecOn with
  | nil => exact ⟨empty, fun _ member => absurd member List.not_mem_nil⟩
  | append_singleton items i ih =>
    rw [List.foldl_append, List.foldl_cons, List.foldl_nil] at empty
    have quiet : ¬ loud i := fun noisy => raised _ _ noisy empty
    rw [silent _ _ quiet] at empty
    obtain ⟨start, others⟩ := ih empty
    refine ⟨start, fun j member => ?_⟩
    rcases List.mem_append.mp member with old | last
    · exact others j old
    · rw [List.mem_singleton.mp last]
      exact quiet

end ComposedSite

end SiteFabric
