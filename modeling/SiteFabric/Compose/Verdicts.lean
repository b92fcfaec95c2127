import SiteFabric.Compose.Maintenance

/-! Connectivity, obligation verdicts, membership and the site's one verdict.
A verdict stage that reads a claim its record does not hold has no result: the
source dereferences a null pointer there. -/

namespace SiteFabric

open Lib
open Std (ExtTreeMap)

namespace ConnectivitySummary

def postLink (s : ConnectivitySummary) (key : ResourceKey) (record : ResourceRecord)
    (link : SharedLinkClaim) : ConnectivitySummary :=
  let s := { s with sharedLinks := s.sharedLinks + 1 }
  let s :=
    if link.external then { s with externalLinks := s.externalLinks + 1 }
    else { s with internalLinks := s.internalLinks + 1 }
  let s :=
    if record.status ≠ .ok then
      { s with sharedLinksUnknown := s.sharedLinksUnknown + 1
               unknownState := s.unknownState ++ [key] }
    else
      match link.state with
      | .up => { s with sharedLinksUp := s.sharedLinksUp + 1 }
      | .down => { s with sharedLinksDown := s.sharedLinksDown + 1 }
      | .degraded => { s with sharedLinksDegraded := s.sharedLinksDegraded + 1 }
      | .unknown =>
        { s with sharedLinksUnknown := s.sharedLinksUnknown + 1
                 unknownState := s.unknownState ++ [key] }
  { s with sources := s.sources.insertSet record.sources }

def postGateway (s : ConnectivitySummary) (key : ResourceKey) (record : ResourceRecord)
    (gateway : GatewayClaim) : ConnectivitySummary :=
  let s := { s with gateways := s.gateways + 1 }
  let s :=
    if record.status ≠ .ok then
      { s with gatewaysUnknown := s.gatewaysUnknown + 1, unknownState := s.unknownState ++ [key] }
    else
      match gateway.state with
      | .up => { s with gatewaysUp := s.gatewaysUp + 1 }
      | .down => { s with gatewaysDown := s.gatewaysDown + 1 }
      | .degraded => { s with gatewaysDegraded := s.gatewaysDegraded + 1 }
      | .unknown =>
        { s with gatewaysUnknown := s.gatewaysUnknown + 1
                 unknownState := s.unknownState ++ [key] }
  { s with sources := s.sources.insertSet record.sources }

def post (s : ConnectivitySummary) (entry : ResourceKey × ResourceRecord) : ConnectivitySummary :=
  let (key, record) := entry
  match key.kind, record.link, record.gateway with
  | .sharedLink, some link, _ => s.postLink key record link
  | .gateway, _, some gateway => s.postGateway key record gateway
  | _, _, _ => s

def verdict (s : ConnectivitySummary) : Status :=
  if s.sharedLinks = 0 ∧ s.gateways = 0 then .connectivityUnknown
  else if s.sharedLinksUnknown + s.gatewaysUnknown ≠ 0 then .connectivityUnknown
  else if s.sharedLinksDown + s.gatewaysDown ≠ 0 then .connectivityDown
  else if s.sharedLinksDegraded + s.gatewaysDegraded ≠ 0 then .connectivityDegraded
  else if s.sharedLinksUp = 0 ∧ s.gatewaysUp = 0 then .connectivityUnknown
  else .ok

end ConnectivitySummary

def composeConnectivity [StdSort] (resources : Resources) : ConnectivitySummary :=
  let s := resources.toList.foldl ConnectivitySummary.post {}
  { s with unknownState := sortUnique s.unknownState, status := s.verdict }

def buildConnectivity [StdSort] (resources : Resources) (out : ComposedSite) : ComposedSite :=
  { out with connectivity := composeConnectivity resources }

/-- The domains that hold at least one known resource. -/
def populatedDomains (resources : Resources) (forest : FailureDomainForest) :
    List FailureDomainId :=
  ((forest.nodes.filter fun node => node.members.any (resources.contains ·)).map (·.id)).dedup

/-- A count, and whether something that could have counted was unknown. -/
structure Observation where
  observed : Nat := 0
  anyUnknown : Bool := false
deriving DecidableEq, Inhabited

/-- The state an up-count reads off a record of the wanted kind. -/
def ResourceRecord.stateOf (record : ResourceRecord) (wanted : ResourceKind) :
    Option ConnectivityState :=
  if wanted = .sharedLink then record.link.map (·.state) else record.gateway.map (·.state)

def countUpStep (wanted : ResourceKind) (scope : Option ResourceKey) (seen : Observation)
    (entry : ResourceKey × ResourceRecord) : Option Observation :=
  let (key, record) := entry
  if key.kind ≠ wanted then some seen
  else if scope.any (· ≠ key) then some seen
  else if record.status ≠ .ok then some { seen with anyUnknown := true }
  else
    -- The read of the claim pointer, which is not checked here.
    (record.stateOf wanted).map fun state =>
      match state with
      | .up => { seen with observed := seen.observed + 1 }
      | .unknown => { seen with anyUnknown := true }
      | _ => seen

def countUp (resources : Resources) (wanted : ResourceKind) (scope : Option ResourceKey) :
    Option Observation :=
  resources.toList.foldlM (countUpStep wanted scope) {}

section Count

variable (resources : Resources) (forest : FailureDomainForest)

def countDomains (scopeDomain : Option FailureDomainId) : Observation :=
  let populated := populatedDomains resources forest
  let seen : Observation :=
    match scopeDomain with
    | none => { observed := populated.length }
    | some domain =>
      match forest.find domain with
      | none => { observed := 0, anyUnknown := true }
      | some scope =>
        { observed := (forest.nodes.filter fun node =>
            (node.id = scope.id || node.ancestors.contains scope.id) &&
              populated.contains node.id).length }
  if !forest.cyclic.isEmpty || !forest.dangling.isEmpty then { seen with anyUnknown := true }
  else seen

def countSurvivors (scopeDomain : Option FailureDomainId) : Observation :=
  match scopeDomain.bind forest.find with
  | none => { observed := 0, anyUnknown := true }
  | some scope =>
    { observed := (forest.nodes.filter fun node =>
        node.id ≠ scope.id && node.ancestors.contains scope.id &&
          (populatedDomains resources forest).contains node.id).length
      anyUnknown := forest.cyclic.contains scope.id }

/-- What a count obligation observes. -/
def countFor (obligation : ProtectedObligation) : Option Observation :=
  match obligation.kind with
  | .minUpSharedLinks => countUp resources .sharedLink obligation.scopeResource
  | .minUpGateways => countUp resources .gateway obligation.scopeResource
  | .minDistinctFailureDomains => some (countDomains resources forest obligation.scopeDomain)
  | _ => some (countSurvivors resources forest obligation.scopeDomain)

/-- The verdict on one obligation; nothing when the count reads an absent claim. -/
def verdictFor (available : CapacityVector) (record : ResourceRecord)
    (obligation : ProtectedObligation) : Option ObligationVerdict :=
  let verdict : ObligationVerdict :=
    { id := obligation.id, kind := obligation.kind, required := obligation.required
      sources := record.sources }
  if record.status ≠ .ok then
    some { verdict with
      status := .obligationIndeterminate
      factors := verdict.factors.add (ascii "attribution") record.status.token }
  else if obligation.kind.isCount then
    (countFor resources forest obligation).map fun seen =>
      let verdict := { verdict with observed := seen.observed }
      if seen.observed ≥ obligation.required.toNat then
        { verdict with observedKnown := true, status := .ok }
      else if seen.anyUnknown then
        { verdict with
          status := .obligationIndeterminate
          factors := verdict.factors.add (ascii "unknown_members") (ascii "true") }
      else { verdict with observedKnown := true, status := .obligationViolated }
  else if obligation.kind.channel = .unknown then
    some { verdict with
      status := .obligationIndeterminate
      factors := verdict.factors.add (ascii "kind") (ascii "unsupported") }
  else
    let value := available.channel obligation.kind.channel
    if !value.known then
      some { verdict with
        status := .obligationIndeterminate
        factors := (verdict.factors.add (ascii "channel") obligation.kind.channel.token).add
          (ascii "available") (ascii "UNKNOWN") }
    else
      some { verdict with
        observed := value.bps.toNat
        observedKnown := true
        status := if value.bps ≥ obligation.required then .ok else .obligationViolated }

end Count

/-- The records of obligation keys that hold an obligation, in key order. -/
def obligationRecords (resources : Resources) : List (ResourceRecord × ProtectedObligation) :=
  resources.toList.filterMap fun (key, record) =>
    if key.kind = .obligation then record.obligation.map (record, ·) else none

def buildObligations [StdSort] (resources : Resources) (out : ComposedSite) :
    Option ComposedSite :=
  ((obligationRecords resources).mapM fun (record, obligation) =>
    verdictFor resources out.failureDomains out.capacity.available record obligation).map
    fun verdicts => { out with obligations := sort (byKey ObligationVerdict.id) verdicts }

/-- A revoked or retired domain is a deficit, expected or not. -/
def reportEnded (out : ComposedSite) (entry : MemberDomainKey × Admission) : ComposedSite :=
  match entry.2.lifecycle with
  | .revoked => out.addDeficit .leaseRevoked entry.1 (ascii "authority revoked")
  | .retired => out.addDeficit .alreadyRetired entry.1 (ascii "retired")
  | _ => out

def ExpectedMember.absentState (expected : ExpectedMember) : MemberDomainState where
  domain := expected.domain
  lifecycle := .absent
  status := .membershipMissing
  expected := true
  expectationPinned := expected.pinned
  factors := (Factors.add {} (ascii "expected") (ascii "true")).add (ascii "reported")
    (ascii "false")

def reportExpected (admissions : Admissions) (out : ComposedSite) (expected : ExpectedMember) :
    ComposedSite :=
  match admissions[expected.domain]? with
  | none => out.addDeficit .membershipMissing expected.domain (ascii "no publication received")
  | some admission =>
    match admission.lifecycle with
    | .current => out
    | .reported =>
      out.addDeficit admission.status expected.domain (ascii "declaration not authoritative")
    | .stale => out.addDeficit .evidenceStale expected.domain (ascii "evidence expired")
    | .conflicting =>
      out.addDeficit admission.status expected.domain (ascii "declaration conflicts")
    | .incompatible =>
      out.addDeficit admission.status expected.domain (ascii "declaration incompatible")
    | .retired => out.addDeficit .alreadyRetired expected.domain (ascii "retired")
    | .revoked => out.addDeficit .leaseRevoked expected.domain (ascii "authority revoked")
    | _ => out.addDeficit .unknown expected.domain (ascii "lifecycle unknown")

/-- A member whose declaration conflicts is a site-level conflict. -/
def reportConflicting (out : ComposedSite) (member : MemberDomainState) : ComposedSite :=
  if member.lifecycle = .conflicting then
    let parties : SourceSet := if member.source.valid then SourceSet.insert {} member.source else {}
    out.addConflict member.status {} parties [member.factors.join (ascii ",")]
  else out

/-- The deficits of membership: what ended, then what was expected and is not there. -/
def reportMembership (expectation : SiteExpectation) (admissions : Admissions)
    (out : ComposedSite) : ComposedSite :=
  expectation.members.foldl (reportExpected admissions)
    (admissions.toList.foldl reportEnded out)

section Membership

variable [StdSort] (expectation : SiteExpectation) (admissions : Admissions)

/-- Every domain with a record and every expected domain without one, by domain. -/
def composeMembers (reported : List MemberDomainState) : List MemberDomainState :=
  let absent := expectation.members.filter fun expected => !admissions.contains expected.domain
  (sort (byKey MemberDomainState.domain) (reported ++ absent.map (·.absentState))).destutter
    (fun a b => a.domain ≠ b.domain)

def isCurrent (members : List MemberDomainState) (expected : ExpectedMember) : Bool :=
  (members.find? (·.domain = expected.domain)).any (·.lifecycle = .current)

/-- Members in domain order, and what they make of the expectation. -/
def enrol (out : ComposedSite) : ComposedSite :=
  let members := composeMembers expectation admissions out.members
  { out with
    members
    membershipComplete := !expectation.members.isEmpty &&
      expectation.members.all fun expected => !expected.required || isCurrent members expected
    allEvidenceFresh := members.all (·.evidenceState = .fresh)
    factors :=
      if expectation.members.isEmpty then out.factors.add (ascii "expectation") (ascii "empty")
      else out.factors }

/-- Findings in canonical order. -/
def closeFindings (out : ComposedSite) : ComposedSite :=
  { out with
    anyConflict := !out.conflicts.isEmpty
    conflicts := sort (byKey fun conflict => toLex (conflict.code.ctorIdx, conflict.subject))
      out.conflicts
    deficits := sort (byKey fun deficit => toLex (deficit.domain, deficit.code.ctorIdx))
      out.deficits }

def buildMembership (out : ComposedSite) : ComposedSite :=
  let out := enrol expectation admissions (reportMembership expectation admissions out)
  closeFindings (out.members.foldl reportConflicting out)

end Membership

/-- The findings the lifecycle is decided from. -/
structure SiteFindings where
  conflict : Bool
  allRequiredAbsent : Bool
  anyRequiredMissing : Bool
  indeterminate : Bool
  reduced : Bool
deriving DecidableEq

def siteFindings (expectation : SiteExpectation) (out : ComposedSite) : SiteFindings where
  conflict := out.anyConflict
  allRequiredAbsent := !expectation.members.isEmpty &&
    out.members.all (fun member => member.lifecycle = .current || member.lifecycle = .absent) &&
    expectation.members.all fun expected =>
      !expected.required || (out.findMember expected.domain).all (·.lifecycle = .absent)
  anyRequiredMissing := expectation.members.isEmpty ||
    expectation.members.any fun expected => expected.required && !isCurrent out.members expected
  indeterminate :=
    out.capacity.status = .capacityUnknown ||
    (out.failureDomains.status = .failureDomainDanglingParent ||
      out.failureDomains.status = .noAuthoritativeSource || !out.failureDomains.cyclic.isEmpty) ||
    out.connectivity.status = .connectivityUnknown ||
    out.obligations.any (·.status = .obligationIndeterminate) ||
    out.members.any (·.lifecycle ≠ .current) ||
    maintenanceIndeterminate out.maintenance
  reduced :=
    out.obligations.any (·.status = .obligationViolated) ||
    (out.connectivity.sharedLinksDown ≠ 0 || out.connectivity.gatewaysDown ≠ 0) ||
    (out.connectivity.sharedLinksDegraded ≠ 0 || out.connectivity.gatewaysDegraded ≠ 0)

/-- The precedence of the verdicts. -/
def SiteFindings.lifecycle (f : SiteFindings) : SiteLifecycle :=
  if f.conflict then .conflicting
  else if f.allRequiredAbsent then .partitioned
  else if f.anyRequiredMissing then .incomplete
  else if f.indeterminate then .indeterminate
  else if f.reduced then .degraded
  else .current

def SiteLifecycle.status : SiteLifecycle → Status
  | .current => .current
  | .degraded => .degraded
  | .partitioned => .partitioned
  | .incomplete => .incomplete
  | .conflicting => .conflicting
  | .indeterminate => .indeterminate
  | _ => .notStarted

def buildLifecycle (expectation : SiteExpectation) (out : ComposedSite) : ComposedSite :=
  let lifecycle := (siteFindings expectation out).lifecycle
  { out with
    lifecycle
    status := lifecycle.status
    factors :=
      ((((out.factors.add (ascii "lifecycle") lifecycle.token).add (ascii "members")
        (decimal out.members.length)).add (ascii "conflicts") (decimal out.conflicts.length)).add
        (ascii "deficits") (decimal out.deficits.length)).add (ascii "capacity")
        out.capacity.status.token }

section Frames

/-- A step that only reports deficits changes nothing but deficits and factors. -/
theorem reportEnded_frame (out : ComposedSite) (entry : MemberDomainKey × Admission) :
    (reportEnded out entry).body = out.body ∧ (reportEnded out entry).conflicts = out.conflicts := by
  unfold reportEnded
  split <;> simp

theorem reportExpected_frame (admissions : Admissions) (out : ComposedSite)
    (expected : ExpectedMember) :
    (reportExpected admissions out expected).body = out.body ∧
      (reportExpected admissions out expected).conflicts = out.conflicts := by
  unfold reportExpected
  split
  · simp
  · split <;> simp

theorem reportMembership_body (expectation : SiteExpectation) (admissions : Admissions)
    (out : ComposedSite) : (reportMembership expectation admissions out).body = out.body := by
  rw [reportMembership,
    foldl_frame ComposedSite.body fun site expected => (reportExpected_frame _ site expected).1,
    foldl_frame ComposedSite.body fun site entry => (reportEnded_frame site entry).1]

theorem reportMembership_conflicts (expectation : SiteExpectation) (admissions : Admissions)
    (out : ComposedSite) :
    (reportMembership expectation admissions out).conflicts = out.conflicts := by
  rw [reportMembership,
    foldl_frame ComposedSite.conflicts fun site expected =>
      (reportExpected_frame _ site expected).2,
    foldl_frame ComposedSite.conflicts fun site entry => (reportEnded_frame site entry).2]

theorem reportConflicting_body (members : List MemberDomainState) (out : ComposedSite) :
    (members.foldl reportConflicting out).body = out.body := by
  refine foldl_frame ComposedSite.body (fun site member => ?_) members out
  unfold reportConflicting
  split
  · exact ComposedSite.body_addConflict ..
  · rfl

variable [StdSort] (expectation : SiteExpectation) (admissions : Admissions) (out : ComposedSite)

theorem buildMembership_accounts :
    (buildMembership expectation admissions out).accounts = out.accounts := by
  have reported := ComposedSite.accounts_of_body (reportMembership_body expectation admissions out)
  have raised := ComposedSite.accounts_of_body (reportConflicting_body
    (enrol expectation admissions (reportMembership expectation admissions out)).members
    (enrol expectation admissions (reportMembership expectation admissions out)))
  rw [← reported]
  exact raised

theorem buildMembership_members :
    (buildMembership expectation admissions out).members =
      composeMembers expectation admissions out.members := by
  have reported := ComposedSite.members_of_body (reportMembership_body expectation admissions out)
  have raised := ComposedSite.members_of_body (reportConflicting_body
    (enrol expectation admissions (reportMembership expectation admissions out)).members
    (enrol expectation admissions (reportMembership expectation admissions out)))
  rw [← reported]
  exact raised

/-- A site without conflict after membership had none before it. -/
theorem buildMembership_quiet
    (quiet : (buildMembership expectation admissions out).anyConflict = false) :
    out.conflicts = [] ∧ (buildMembership expectation admissions out).conflicts = [] := by
  have empty : ((enrol expectation admissions (reportMembership expectation admissions
      out)).members.foldl reportConflicting (enrol expectation admissions
      (reportMembership expectation admissions out))).conflicts = [] := by
    simpa [buildMembership, closeFindings] using quiet
  constructor
  · obtain ⟨start, _⟩ := ComposedSite.conflicts_foldl_eq_nil
      (fun member : MemberDomainState => member.lifecycle = .conflicting)
      (fun site member silent => by rw [reportConflicting, if_neg silent])
      (fun site member loud => by
        rw [reportConflicting, if_pos loud]
        exact ComposedSite.conflicts_addConflict_ne_nil _ _ _ _ _) empty
    rw [← reportMembership_conflicts expectation admissions out]
    exact start
  · have sorted := StdSort.perm (byKey fun conflict : SiteConflict =>
      toLex (conflict.code.ctorIdx, conflict.subject)) []
    simp only [buildMembership, closeFindings, empty]
    exact sorted.eq_nil

end Frames

end SiteFabric
