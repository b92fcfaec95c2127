import SiteFabric.Compose.Composer

/-! The resource records in terms of the input alone.
The record selected for a domain speaks for it. A key is settled when every
selected record that names it is CURRENT and their first claims on it have one
digest; those are exactly the attributed resources. -/

namespace SiteFabric

open Lib
open Std (ExtTreeMap)

namespace CompositionInput

/-- What validation of the header promises the later stages. -/
theorem prepare_ok {input : CompositionInput} {expectation : SiteExpectation}
    (prepared : input.prepare = .ok expectation) :
    input.publications.length ≤ Limits.maxMemberDomains ∧
      SiteExpectation.Strict expectation.members ∧
      input.adopted.canonicalize = .ok expectation := by
  unfold prepare at prepared
  split at prepared
  · cases prepared
  split at prepared
  · cases prepared
  split at prepared
  · cases prepared
  split at prepared
  · cases prepared
  split at prepared
  · cases prepared
  next few =>
  split at prepared
  · cases prepared
  split at prepared
  · cases prepared
  split at prepared
  · cases prepared
  exact ⟨Nat.not_lt.mp few, SiteExpectation.canonicalize_strict prepared, prepared⟩

section Parts

variable [StdSort] (input : CompositionInput) (expectation : SiteExpectation)

def forest : FailureDomainForest :=
  composeForest (admitMembers input expectation) (input.resources expectation)

def effects : List MaintenanceEffect :=
  composeEffects input.nowMs
    (domainMembers (admitMembers input expectation) (input.resources expectation))
    (input.resources expectation) (input.forest expectation)

def builds : List LedgerBuild := collectLedgerBuilds (input.resources expectation)

def ledger : CapacityLedger :=
  composeLedger (excludedKeys (input.effects expectation)) (input.builds expectation)

/-- The site up to its verdicts, part by part. -/
theorem accounted_body :
    (input.accounted expectation).body =
      ({ input.admitted expectation with
        ownership := ownershipOf (input.resources expectation)
        failureDomains := input.forest expectation
        maintenance := input.effects expectation
        capacity := input.ledger expectation
        anyUnknownCapacity := (input.ledger expectation).status = .capacityUnknown
        connectivity := composeConnectivity (input.resources expectation) } :
          ComposedSite).body := by
  have owned := attributeResources_body (input.resources expectation) (input.admitted expectation)
  have forested := buildFailureDomains_body (admitMembers input expectation)
    (input.resources expectation)
    (attributeResources (input.resources expectation) (input.admitted expectation))
  have maintained := buildMaintenance_body input.nowMs
    (domainMembers (admitMembers input expectation) (input.resources expectation))
    (input.resources expectation) (buildFailureDomains (admitMembers input expectation)
      (input.resources expectation)
      (attributeResources (input.resources expectation) (input.admitted expectation)))
  rw [forested, owned] at maintained
  exact (congrArg (fun body : ComposedSite =>
    ({ body with connectivity := composeConnectivity (input.resources expectation) } :
      ComposedSite)) maintained :)

/-- A composed site, part by part. -/
structure Composes (site : ComposedSite) : Prop where
  prepared : input.prepare = .ok expectation
  ownership : site.ownership = ownershipOf (input.resources expectation)
  failureDomains : site.failureDomains = input.forest expectation
  maintenance : site.maintenance = input.effects expectation
  capacity : site.capacity = input.ledger expectation
  connectivity : site.connectivity = composeConnectivity (input.resources expectation)
  obligations : ∃ verdicts,
    ((obligationRecords (input.resources expectation)).mapM fun (record, obligation) =>
      verdictFor (input.resources expectation) (input.forest expectation)
        (input.ledger expectation).available record obligation) = some verdicts ∧
      site.obligations = sort (byKey ObligationVerdict.id) verdicts
  members : site.members = composeMembers expectation (admitMembers input expectation)
    ((admitMembers input expectation).toList.map (·.2.state))
  lifecycle : site.lifecycle = (siteFindings expectation site).lifecycle
  quiet : site.anyConflict = false →
    site.conflicts = [] ∧ (input.accounted expectation).conflicts = []

/-- What the closing stages make of any site they are given. -/
theorem concluded_parts (out : ComposedSite) :
    (input.concluded expectation out).accounts = out.accounts ∧
      (input.concluded expectation out).members =
        composeMembers expectation (admitMembers input expectation) out.members ∧
      (input.concluded expectation out).lifecycle =
        (siteFindings expectation (input.concluded expectation out)).lifecycle ∧
      ((input.concluded expectation out).anyConflict = false →
        (input.concluded expectation out).conflicts = [] ∧ out.conflicts = []) := by
  unfold concluded
  dsimp only
  generalize admitMembers input expectation = admissions
  have accounts := buildMembership_accounts expectation admissions out
  have members := buildMembership_members expectation admissions out
  have quiet := buildMembership_quiet expectation admissions out
  generalize buildMembership expectation admissions out = enrolled at *
  have frame := buildDecisions_frame admissions (input.resources expectation)
    (buildLifecycle expectation enrolled)
  generalize buildDecisions admissions (input.resources expectation)
    (buildLifecycle expectation enrolled) = site at *
  obtain ⟨final, conflicts⟩ := frame
  have found : siteFindings expectation site = siteFindings expectation enrolled :=
    (congrArg (siteFindings expectation) final :)
  refine ⟨(ComposedSite.accounts_of_body final).trans accounts,
    (ComposedSite.members_of_body final).trans members, ?_, ?_⟩
  · rw [found]
    exact (congrArg ComposedSite.lifecycle final :)
  · intro none
    rw [show site.anyConflict = enrolled.anyConflict from
      (congrArg ComposedSite.anyConflict final :)] at none
    exact ⟨conflicts.trans (quiet none).2, (quiet none).1⟩

theorem compose_composes {input : CompositionInput} {site : ComposedSite}
    (composed : compose input = .composed site) :
    ∃ expectation, input.Composes expectation site := by
  unfold compose at composed
  cases prepared : input.prepare with
  | error status => simp [prepared] at composed
  | ok expectation =>
    refine ⟨expectation, ?_⟩
    cases built : buildObligations (input.resources expectation) (input.accounted expectation) with
    | none => simp [prepared, built] at composed
    | some judged =>
      simp only [prepared, built, CompositionResult.composed.injEq] at composed
      obtain ⟨verdicts, voted, judged_eq⟩ := Option.map_eq_some_iff.mp built
      have body := input.accounted_body expectation
      obtain ⟨ownership, forest, maintenance, ledger, connectivity, _⟩ :=
        ComposedSite.parts_of_accounts (ComposedSite.accounts_of_body body)
      have members := ComposedSite.members_of_body body
      obtain ⟨accounts, listed, lifecycle, quiet⟩ := input.concluded_parts expectation judged
      rw [composed] at accounts listed lifecycle quiet
      obtain ⟨ownership', forest', maintenance', ledger', connectivity', obligations'⟩ :=
        ComposedSite.parts_of_accounts accounts
      rw [forest, ledger] at voted
      subst judged_eq
      exact {
        prepared
        ownership := ownership'.trans ownership
        failureDomains := forest'.trans forest
        maintenance := maintenance'.trans maintenance
        capacity := ledger'.trans ledger
        connectivity := connectivity'.trans connectivity
        obligations := ⟨verdicts, voted, obligations'⟩
        members := by rw [listed, members]; rfl
        lifecycle
        quiet }

end Parts

/-- The record that speaks for a domain. -/
def Selects (input : CompositionInput) (record : MemberPublicationRecord) : Prop :=
  (bestRecords input.publications)[record.domain]? = some record

theorem selects_of_best {input : CompositionInput} {domain : MemberDomainKey}
    {record : MemberPublicationRecord}
    (found : (bestRecords input.publications)[domain]? = some record) :
    input.Selects record ∧ record.domain = domain := by
  obtain ⟨_, _, named⟩ := bestRecords_mem found
  rw [Selects, named]
  exact ⟨found, rfl⟩

/-- The claims the selected records make on a key, in domain order. -/
def claimsOn (input : CompositionInput) (key : ResourceKey) : List Claim :=
  (bestRecords input.publications).toList.flatMap fun (_, record) =>
    record.claims.filter (·.key = key)

theorem mem_claimsOn {input : CompositionInput} {key : ResourceKey} {claim : Claim} :
    claim ∈ input.claimsOn key ↔
      ∃ record, input.Selects record ∧ claim ∈ record.claims ∧ claim.key = key := by
  simp only [claimsOn, List.mem_flatMap, Prod.exists, mem_toList_iff, List.mem_filter,
    decide_eq_true_eq]
  constructor
  · rintro ⟨domain, record, found, claimed, named⟩
    exact ⟨record, (selects_of_best found).1, claimed, named⟩
  · rintro ⟨record, selected, claimed, named⟩
    exact ⟨record.domain, record, selected, claimed, named⟩

variable [StdSort] (input : CompositionInput) (expectation : SiteExpectation)

/-- Every selected record that names the key is CURRENT, and their first claims
on it have one digest. -/
structure Settled (key : ResourceKey) : Prop where
  named : input.claimsOn key ≠ []
  earned : ∀ record claim, input.Selects record → record.firstClaim key = some claim →
    Earned input expectation record
  agreed : ∀ record record' claim claim', input.Selects record → input.Selects record' →
    record.firstClaim key = some claim → record'.firstClaim key = some claim' →
    claim.digest = claim'.digest

variable {input expectation}

theorem admitMembers_iff {domain : MemberDomainKey} {a : Admission} :
    (admitMembers input expectation)[domain]? = some a ↔
      ∃ record, input.Selects record ∧ record.domain = domain ∧
        admitRecord input expectation record = a := by
  rw [admitMembers_lookup, Option.map_eq_some_iff]
  constructor
  · rintro ⟨record, found, rfl⟩
    obtain ⟨selected, named⟩ := selects_of_best found
    exact ⟨record, selected, named, rfl⟩
  · rintro ⟨record, selected, rfl, rfl⟩
    exact ⟨record, selected, rfl⟩

theorem admitRecord_authoritative_iff {record : MemberPublicationRecord} :
    (admitRecord input expectation record).authoritative = true ↔
      Earned input expectation record := by
  rw [← judge_current_iff, Admission.authoritative, beq_iff_eq]
  rfl

theorem admitMembers_orderly (few : input.publications.length ≤ Limits.maxMemberDomains) :
    (admitMembers input expectation).Orderly where
  keyed domain a found := by
    obtain ⟨record, _, named, rfl⟩ := admitMembers_iff.mp found
    exact named
  few := by
    refine le_trans (length_toList_le (input.publications.map (·.domain)) ?_) ?_
    · intro domain a found
      obtain ⟨record, selected, rfl, rfl⟩ := admitMembers_iff.mp found
      exact List.mem_map.mpr ⟨record, (bestRecords_mem selected).1, rfl⟩
    · rw [List.length_map]
      exact few

variable (input expectation) in
theorem mentionsOf_claims (key : ResourceKey) :
    (mentionsOf (admitMembers input expectation) key).map Prod.snd = input.claimsOn key := by
  rw [mentionsOf_eq, admitMembers, ExtTreeMap.toList_map, List.flatMap_map, List.map_flatMap,
    claimsOn]
  refine congrArg (fun f => List.flatMap f _) (funext fun entry => ?_)
  rw [List.map_map]
  exact List.map_id _

theorem attributed_iff_settled (key : ResourceKey) :
    Attributed (admitMembers input expectation) key ↔ input.Settled expectation key := by
  constructor
  · intro attributed
    refine ⟨?_, ?_, ?_⟩
    · obtain ⟨domain, a, claim, found, first⟩ := attributed.named
      obtain ⟨record, selected, rfl, rfl⟩ := admitMembers_iff.mp found
      obtain ⟨claimed, named⟩ := firstClaim_mem first
      exact List.ne_nil_of_mem (mem_claimsOn.mpr ⟨record, selected, claimed, named⟩)
    · intro record claim selected first
      exact admitRecord_authoritative_iff.mp (attributed.authoritative record.domain
        (admitRecord input expectation record) claim
        (admitMembers_iff.mpr ⟨record, selected, rfl, rfl⟩) first)
    · intro record record' claim claim' selected selected' first first'
      exact attributed.agreed record.domain record'.domain (admitRecord input expectation record)
        (admitRecord input expectation record') claim claim'
        (admitMembers_iff.mpr ⟨record, selected, rfl, rfl⟩) first
        (admitMembers_iff.mpr ⟨record', selected', rfl, rfl⟩) first'
  · intro settled
    refine ⟨?_, ?_, ?_⟩
    · obtain ⟨claim, member⟩ := List.exists_mem_of_ne_nil _ settled.named
      obtain ⟨record, selected, claimed, rfl⟩ := mem_claimsOn.mp member
      obtain ⟨first, found⟩ := firstClaim_of_mem claimed
      exact ⟨record.domain, admitRecord input expectation record, first,
        admitMembers_iff.mpr ⟨record, selected, rfl, rfl⟩, found⟩
    · intro domain a claim found first
      obtain ⟨record, selected, rfl, rfl⟩ := admitMembers_iff.mp found
      exact admitRecord_authoritative_iff.mpr (settled.earned record claim selected first)
    · intro domain domain' a a' claim claim' found first found' first'
      obtain ⟨record, selected, rfl, rfl⟩ := admitMembers_iff.mp found
      obtain ⟨record', selected', rfl, rfl⟩ := admitMembers_iff.mp found'
      exact settled.agreed record record' claim claim' selected selected' first first'

variable (few : input.publications.length ≤ Limits.maxMemberDomains)

include few in
/-- A record of the composition is OK exactly when its key is settled. -/
theorem resources_ok_iff_settled {key : ResourceKey} {record : ResourceRecord}
    (found : (input.resources expectation)[key]? = some record) :
    record.status = .ok ↔ input.Settled expectation key := by
  rw [resources_status_ok_iff (admitMembers_orderly few) found, attributed_iff_settled]

/-- There is a record of a key exactly when a selected record makes a claim on it. -/
theorem resources_isSome_iff (key : ResourceKey) :
    ((input.resources expectation)[key]?).isSome = true ↔ input.claimsOn key ≠ [] := by
  rw [resources, resources_some_iff, ← mentionsOf_claims input expectation, ne_eq, ne_eq,
    List.map_eq_nil_iff]

theorem record_of_claimed (expectation : SiteExpectation) {key : ResourceKey}
    (claimed : input.claimsOn key ≠ []) :
    ∃ record, (input.resources expectation)[key]? = some record :=
  Option.isSome_iff_exists.mp ((resources_isSome_iff key).mpr claimed)

/-- A slot of a record is the last claim of its kind on the key. -/
theorem resources_slot_eq {γ : Type} {slot : ResourceRecord → Option γ} {read : Claim → Option γ}
    (of : ResourceRecord.Slot slot read) {key : ResourceKey} {record : ResourceRecord}
    (found : (input.resources expectation)[key]? = some record) :
    slot record = ((input.claimsOn key).filterMap read).getLast? := by
  rw [resources_slot of found, ← mentionsOf_claims input expectation,
    List.filterMap_map]
  rfl

end CompositionInput

end SiteFabric
