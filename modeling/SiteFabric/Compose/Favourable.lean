import SiteFabric.Compose.Accounts
import SiteFabric.Compose.Sealed

/-! Favourable verdicts.
A site that is CURRENT or DEGRADED has raised no conflict and has only CURRENT
members, so every record that speaks for a domain has earned it and every resource
is attributed. Its capacity is then known unless a channel's declared capacity
passes the plausibility bound, which the lifecycle does not look at. -/

namespace SiteFabric

open Lib
open Std (ExtTreeMap)

/-- CURRENT or DEGRADED. -/
def SiteLifecycle.favourable (lifecycle : SiteLifecycle) : Bool :=
  lifecycle = .current || lifecycle = .degraded

/-- What a favourable verdict rules out. -/
theorem SiteFindings.favourable {f : SiteFindings} (verdict : f.lifecycle.favourable = true) :
    f.conflict = false ∧ f.anyRequiredMissing = false ∧ f.indeterminate = false := by
  obtain ⟨conflict, absent, missing, indeterminate, reduced⟩ := f
  cases conflict with
  | true => cases verdict
  | false =>
    cases absent with
    | true => cases verdict
    | false =>
      cases missing with
      | true => cases verdict
      | false =>
        cases indeterminate with
        | true => cases verdict
        | false => exact ⟨rfl, rfl, rfl⟩

theorem SiteFindings.reduced_of_current {f : SiteFindings} (verdict : f.lifecycle = .current) :
    f.reduced = false := by
  obtain ⟨-, missing, indeterminate⟩ := SiteFindings.favourable
    (show f.lifecycle.favourable = true by rw [verdict]; rfl)
  cases reduced : f.reduced with
  | false => rfl
  | true =>
    rw [SiteFindings.lifecycle, missing, indeterminate, reduced] at verdict
    split at verdict
    · cases verdict
    · split at verdict
      · cases verdict
      · cases verdict

section Members

variable [StdSort] {expectation : SiteExpectation} {admissions : Admissions}

omit [StdSort] in
/-- Every key keeps an entry when runs of one key are cut to their first. -/
theorem destutter'_covers {α κ : Type} [DecidableEq κ] (key : α → κ) (first : α) (rest : List α) :
    ∀ x ∈ first :: rest, ∃ y ∈ rest.destutter' (fun a b => key a ≠ key b) first, key y = key x := by
  induction rest generalizing first with
  | nil => exact fun x member => ⟨x, member, rfl⟩
  | cons second rest ih =>
    intro x member
    by_cases same : key first = key second
    · rw [List.destutter'_cons_neg _ (by simpa using same)]
      rcases List.mem_cons.mp member with rfl | member
      · exact ih x x List.mem_cons_self
      rcases List.mem_cons.mp member with rfl | member
      · rw [← same]
        exact ih first first List.mem_cons_self
      · exact ih first x (List.mem_cons_of_mem _ member)
    · rw [List.destutter'_cons_pos _ same]
      rcases List.mem_cons.mp member with rfl | member
      · exact ⟨x, List.mem_cons_self, rfl⟩
      · obtain ⟨y, kept, equal⟩ := ih second x member
        exact ⟨y, List.mem_cons_of_mem _ kept, equal⟩

/-- A member is the state of an admission, or an expected domain without one. -/
theorem mem_composeMembers {reported : List MemberDomainState} {member : MemberDomainState}
    (listed : member ∈ composeMembers expectation admissions reported) :
    member ∈ reported ∨ member.lifecycle = .absent ∧ admissions.contains member.domain = false := by
  have kept := (List.destutter_sublist _ _).subset listed
  rw [mem_sort, List.mem_append] at kept
  refine kept.imp_right fun absent => ?_
  obtain ⟨expected, missing, rfl⟩ := List.mem_map.mp absent
  exact ⟨rfl, (Bool.not_eq_true' _).mp (List.mem_filter.mp missing).2⟩

/-- Whatever is put into the list leaves a member of its domain there. -/
theorem composeMembers_holds {reported : List MemberDomainState} {state : MemberDomainState}
    (listed : state ∈ reported ++
      (expectation.members.filter fun expected => !admissions.contains expected.domain).map
        (·.absentState)) :
    ∃ member ∈ composeMembers expectation admissions reported, member.domain = state.domain := by
  have sorted := (mem_sort_byKey MemberDomainState.domain).mpr listed
  unfold composeMembers
  dsimp only
  generalize sort (byKey MemberDomainState.domain) (reported ++ _) = members at sorted ⊢
  cases members with
  | nil => cases sorted
  | cons first rest => exact destutter'_covers MemberDomainState.domain first rest state sorted

/-- A domain that reported is listed. -/
theorem composeMembers_covers {reported : List MemberDomainState} {state : MemberDomainState}
    (listed : state ∈ reported) :
    ∃ member ∈ composeMembers expectation admissions reported, member.domain = state.domain :=
  composeMembers_holds (List.mem_append_left _ listed)

/-- So is an expected domain that did not. -/
theorem composeMembers_expects {reported : List MemberDomainState} {expected : ExpectedMember}
    (listed : expected ∈ expectation.members)
    (missing : admissions.contains expected.domain = false) :
    ∃ member ∈ composeMembers expectation admissions reported,
      member.domain = expected.domain := by
  have absent : expected.absentState ∈
      (expectation.members.filter fun expected => !admissions.contains expected.domain).map
        (·.absentState) :=
    List.mem_map.mpr ⟨expected, List.mem_filter.mpr ⟨listed, by rw [missing]; rfl⟩, rfl⟩
  exact composeMembers_holds (List.mem_append_right _ absent)

end Members

namespace CompositionInput

variable [StdSort] {input : CompositionInput} {expectation : SiteExpectation}
  {site : ComposedSite}

/-- The site lists the domain of a selected record. -/
theorem Composes.listed (parts : input.Composes expectation site)
    {record : MemberPublicationRecord} (selected : input.Selects record) :
    ∃ member ∈ site.members, member.domain = record.domain := by
  have admitted : (admitMembers input expectation)[record.domain]? =
      some (admitRecord input expectation record) :=
    admitMembers_iff.mpr ⟨record, selected, rfl, rfl⟩
  have reported : (admitRecord input expectation record).state ∈
      (admitMembers input expectation).toList.map (·.2.state) :=
    List.mem_map.mpr ⟨_, mem_toList_iff.mpr admitted, rfl⟩
  rw [parts.members]
  exact composeMembers_covers reported

/-- It lists it as the record was received, for no such domain is missing. -/
theorem Composes.listed_state (parts : input.Composes expectation site)
    {record : MemberPublicationRecord} (selected : input.Selects record)
    {member : MemberDomainState} (listed : member ∈ site.members)
    (named : member.domain = record.domain) :
    member = (admitRecord input expectation record).state := by
  have admitted : (admitMembers input expectation)[record.domain]? =
      some (admitRecord input expectation record) :=
    admitMembers_iff.mpr ⟨record, selected, rfl, rfl⟩
  rw [parts.members] at listed
  rcases mem_composeMembers listed with reported | ⟨-, missing⟩
  · obtain ⟨⟨_, admission⟩, found, rfl⟩ := List.mem_map.mp reported
    obtain ⟨record', selected', rfl, rfl⟩ := admitMembers_iff.mp (mem_toList_iff.mp found)
    have names : record'.domain = record.domain := named
    rw [Selects, names, selected] at selected'
    rw [Option.some.inj selected']
  · rw [named, ExtTreeMap.contains_eq_isSome_getElem?, admitted] at missing
    cases missing

/-- When every member is CURRENT, every record that speaks for a domain has
earned it. -/
theorem Composes.earned (parts : input.Composes expectation site)
    (current : ∀ member ∈ site.members, member.lifecycle = .current)
    {record : MemberPublicationRecord} (selected : input.Selects record) :
    Earned input expectation record := by
  obtain ⟨member, listed, named⟩ := parts.listed selected
  have lifecycle := current member listed
  rw [parts.listed_state selected listed named] at lifecycle
  rw [← judge_current_iff]
  exact lifecycle

/-- The record behind a CURRENT member. -/
theorem Composes.member (parts : input.Composes expectation site) {member : MemberDomainState}
    (listed : member ∈ site.members) (current : member.lifecycle = .current) :
    ∃ record, input.Selects record ∧ member = (admitRecord input expectation record).state := by
  rw [parts.members] at listed
  rcases mem_composeMembers listed with reported | ⟨absent, -⟩
  · obtain ⟨⟨domain, admission⟩, found, rfl⟩ := List.mem_map.mp reported
    obtain ⟨record, selected, _, rfl⟩ := admitMembers_iff.mp (mem_toList_iff.mp found)
    exact ⟨record, selected, rfl⟩
  · rw [current] at absent
    cases absent

/-- The site lists the domain of a selected record as the record was received. -/
theorem Composes.findMember (parts : input.Composes expectation site)
    {record : MemberPublicationRecord} (selected : input.Selects record) :
    site.findMember record.domain = some (admitRecord input expectation record).state := by
  obtain ⟨member, listed, named⟩ := parts.listed selected
  have some : (site.findMember record.domain).isSome = true :=
    List.find?_isSome.mpr ⟨member, listed, decide_eq_true named⟩
  obtain ⟨found, here⟩ := Option.isSome_iff_exists.mp some
  have domain : found.domain = record.domain := by simpa using List.find?_some here
  rw [here, parts.listed_state selected (List.mem_of_find?_eq_some here) domain]

omit [StdSort] in
theorem conflicts_quiet [StdSort] (nowMs : Int64) (admissions : Admissions) (resources : Resources)
    {out : ComposedSite} (quiet : (buildConnectivity resources (buildMaintenance nowMs
      (domainMembers admissions resources) resources (buildFailureDomains admissions resources
      (attributeResources resources out)))).conflicts = []) :
    ∀ (key : ResourceKey) record, resources[key]? = some record →
      record.status ≠ .ownershipOverlap ∧ record.status ≠ .accountingConflict := by
  have maintained : ∀ members site, (buildConnectivity resources
      (buildMaintenance nowMs members resources site)).conflicts =
        (refuseZones members resources site).conflicts := fun _ _ => rfl
  rw [maintained] at quiet
  exact (attributeResources_quiet (buildFailureDomains_quiet (reportRefusal_quiet _ _ _ quiet)).1).2

variable (input expectation site) in
/-- What a favourable verdict says of a site. -/
structure Favoured : Prop where
  expected : expectation.members ≠ []
  conflicts : site.conflicts = []
  members : ∀ member ∈ site.members, member.lifecycle = .current
  records : ∀ (key : ResourceKey) record, (input.resources expectation)[key]? = some record →
    record.status = .ok
  capacity : site.capacity.status ≠ .capacityUnknown
  acyclic : site.failureDomains.cyclic = []
  anchored : site.failureDomains.status ≠ .failureDomainDanglingParent
  connectivity : site.connectivity.status ≠ .connectivityUnknown
  determinate : ∀ verdict ∈ site.obligations, verdict.status ≠ .obligationIndeterminate
  maintenance : ∀ effect ∈ site.maintenance, effect.status ≠ .maintenanceUnknown

theorem Composes.favoured (parts : input.Composes expectation site)
    (verdict : site.lifecycle.favourable = true) : input.Favoured expectation site := by
  rw [parts.lifecycle] at verdict
  obtain ⟨conflict, missing, indeterminate⟩ := SiteFindings.favourable verdict
  simp only [siteFindings, maintenanceIndeterminate, Bool.or_eq_false_iff, List.isEmpty_eq_false_iff,
    decide_eq_false_iff_not, List.any_eq_false, Bool.not_eq_false', List.isEmpty_iff,
    decide_eq_true_eq, not_not] at conflict missing indeterminate
  obtain ⟨⟨⟨⟨⟨capacity, ⟨anchored, _⟩, acyclic⟩, connectivity⟩, determinate⟩, members⟩,
    maintenance⟩ := indeterminate
  obtain ⟨conflicts, quiet⟩ := parts.quiet conflict
  have few := (prepare_ok parts.prepared).1
  have authoritative : ∀ (domain : MemberDomainKey) a,
      (admitMembers input expectation)[domain]? = some a → a.authoritative = true := by
    intro domain a found
    obtain ⟨record, selected, _, rfl⟩ := admitMembers_iff.mp found
    exact admitRecord_authoritative_iff.mpr (parts.earned members selected)
  exact {
    expected := missing.1
    conflicts, members, capacity, acyclic, anchored, connectivity, determinate, maintenance
    records := fun key record found => resources_ok_of_quiet (admitMembers_orderly few)
      authoritative found (conflicts_quiet _ _ _ quiet key record found) }

/-- What a key offers, from the claims the selected records make on it. -/
def offerOn (input : CompositionInput) (key : ResourceKey) : Option Offer :=
  ((input.claimsOn key).foldl ResourceRecord.keep {}).offer

/-- The keys the selected records make claims on, each once. -/
def claimedKeys (input : CompositionInput) : List ResourceKey :=
  ((bestRecords input.publications).toList.flatMap fun (_, record) =>
    record.claims.map (·.key)).dedup

/-- What the selected records declare on a channel: one value for each key whose
offer feeds it. -/
def declaredOn (input : CompositionInput) (c : CapacityChannel) : List CapacityValue :=
  input.claimedKeys.filterMap fun key => (input.offerOn key).bind fun offer =>
    if offer.mask.feeds c then some (offer.capacity.channel c) else none

omit [StdSort] in
theorem mem_claimedKeys {key : ResourceKey} :
    key ∈ input.claimedKeys ↔ input.claimsOn key ≠ [] := by
  rw [claimedKeys, List.mem_dedup]
  constructor
  · intro member
    obtain ⟨⟨domain, record⟩, found, named⟩ := List.mem_flatMap.mp member
    obtain ⟨claim, claimed, rfl⟩ := List.mem_map.mp named
    exact List.ne_nil_of_mem (mem_claimsOn.mpr
      ⟨record, (selects_of_best (mem_toList_iff.mp found)).1, claimed, rfl⟩)
  · intro some
    obtain ⟨claim, member⟩ := List.exists_mem_of_ne_nil _ some
    obtain ⟨record, selected, claimed, rfl⟩ := mem_claimsOn.mp member
    exact List.mem_flatMap.mpr ⟨(record.domain, record), mem_toList_iff.mpr selected,
      List.mem_map.mpr ⟨claim, claimed, rfl⟩⟩

theorem slot_claims {γ : Type} {slot : ResourceRecord → Option γ} {read : Claim → Option γ}
    (of : ResourceRecord.Slot slot read) {key : ResourceKey} {record : ResourceRecord}
    (found : (input.resources expectation)[key]? = some record) :
    slot ((input.claimsOn key).foldl ResourceRecord.keep {}) = slot record := by
  rw [resources_slot_eq of found, foldl_last slot read of.kept, show slot {} = none from of.blank,
    Option.or_none]

/-- A record offers what the claims on its key offer. -/
theorem offer_eq {key : ResourceKey} {record : ResourceRecord}
    (found : (input.resources expectation)[key]? = some record) :
    record.offer = input.offerOn key := by
  rw [offerOn, ResourceRecord.offer, ResourceRecord.offer,
    slot_claims ResourceRecord.rackSlot found, slot_claims ResourceRecord.linkSlot found,
    slot_claims ResourceRecord.gatewaySlot found, slot_claims ResourceRecord.poolSlot found]

variable (input expectation) in
/-- The keys that have a record are the keys claims are made on. -/
theorem resources_keys :
    ((input.resources expectation).toList.map Prod.fst).Perm input.claimedKeys := by
  have distinct : ((input.resources expectation).toList.map Prod.fst).Nodup :=
    List.pairwise_map.mpr (keys_pairwise _)
  have once : input.claimedKeys.Nodup := List.nodup_dedup _
  refine (List.perm_ext_iff_of_nodup distinct once).mpr fun key => ?_
  rw [mem_claimedKeys, ← resources_isSome_iff, Option.isSome_iff_exists, List.mem_map]
  constructor
  · rintro ⟨⟨_, record⟩, listed, rfl⟩
    exact ⟨record, mem_toList_iff.mp listed⟩
  · rintro ⟨record, found⟩
    exact ⟨(key, record), mem_toList_iff.mpr found, rfl⟩

/-- When every resource is attributed, what the ledger counts on a channel is
what the selected records declare there. -/
theorem channelValues_perm (settled : ∀ (key : ResourceKey) record,
      (input.resources expectation)[key]? = some record → record.status = .ok)
    (c : CapacityChannel) :
    (channelValues c ((input.builds expectation).filter (·.counted))).Perm (input.declaredOn c) := by
  have each : ∀ entry ∈ (input.resources expectation).toList,
      ((((entry.2.offer.map (ledgerBuild entry.1 entry.2)).filter (·.counted)).filter
        (·.mask.feeds c)).map (·.capacity.channel c)) =
      (input.offerOn entry.1).bind fun offer =>
        if offer.mask.feeds c then some (offer.capacity.channel c) else none := by
    rintro ⟨key, record⟩ listed
    have found := mem_toList_iff.mp listed
    rw [← offer_eq found]
    cases record.offer with
    | none => rfl
    | some offer =>
      obtain ⟨_, _, mask, capacity⟩ := ledgerBuild_frame key record offer
      cases feeds : offer.mask.feeds c with
      | false =>
        cases counted : (ledgerBuild key record offer).counted <;>
          simp [Option.filter, counted, mask, feeds]
      | true =>
        have counted := ledgerBuild_counted key record feeds
        rw [decide_eq_true (settled key record found)] at counted
        simp [Option.filter, counted, mask, feeds, capacity]
  have listed : channelValues c ((input.builds expectation).filter (·.counted)) =
      ((input.resources expectation).toList.map Prod.fst).filterMap fun key =>
        (input.offerOn key).bind fun offer =>
          if offer.mask.feeds c then some (offer.capacity.channel c) else none := by
    rw [channelValues, builds, collectLedgerBuilds, List.filter_filterMap, List.filter_filterMap,
      List.map_filterMap, List.filterMap_map]
    exact List.filterMap_congr each
  rw [listed]
  exact (resources_keys input expectation).filterMap _

end CompositionInput

/-- An aggregate that is not reported unknown and did not overflow knows every channel. -/
theorem CapacityAggregate.known_of_status {a : CapacityAggregate}
    (status : a.status ≠ .capacityUnknown) (within : ∀ c, (a.channel c).overflow = false)
    {c : CapacityChannel} (real : c ≠ .unknown) : (a.channel c).known = true := by
  have whole : a.overflowed = false := by
    rw [overflowed, show a.ingress.overflow = false from within .ingress,
      show a.egress.overflow = false from within .egress,
      show a.internal.overflow = false from within .internal]
    rfl
  rw [CapacityAggregate.status, whole, if_neg Bool.false_ne_true] at status
  split at status
  · exact absurd rfl status
  split at status
  · exact absurd rfl status
  next known =>
  simp only [Bool.or_eq_true, Bool.not_eq_true', not_or, Bool.not_eq_false] at known
  cases c with
  | unknown => exact absurd rfl real
  | ingress => exact known.1.1
  | egress => exact known.1.2
  | internal => exact known.2

/-- A ledger that is not reported unknown knows its total unless a channel passes
the bound. -/
theorem composeLedger_known {excluded : List ResourceKey} {builds : List LedgerBuild}
    (status : (composeLedger excluded builds).status ≠ .capacityUnknown)
    (within : ∀ c, exactSum (channelValues c (builds.filter (·.counted))) ≤
      Limits.maxCapacityBps.toNat) {c : CapacityChannel} (real : c ≠ .unknown) :
    ((composeLedger excluded builds).total.channel c).known = true := by
  have total := post_total excluded builds
  unfold composeLedger at status ⊢
  dsimp only at status ⊢
  generalize builds.foldl (Aggregates.post excluded) {} = a at *
  have reported : a.total.status ≠ .capacityUnknown := by
    intro unknown
    rw [unknown] at status
    exact status rfl
  rw [CapacityAggregate.total_channel, Tally.value_known]
  refine CapacityAggregate.known_of_status reported (fun channel => ?_) real
  rw [total, aggregate_channel, (Tally.tallyOf_holds _).overflow, decide_eq_false_iff_not, not_lt]
  exact within channel

/-- Under a favourable verdict the capacity of the site is known, in total and as
available, exactly when no channel's declared capacity passes the bound. -/
theorem favourable_capacity_known_iff [StdSort] {input : CompositionInput} {site : ComposedSite}
    (composed : compose input = .composed site)
    (verdict : site.lifecycle = .current ∨ site.lifecycle = .degraded) :
    (∀ c, c ≠ .unknown → (site.capacity.total.channel c).known = true ∧
      (site.capacity.available.channel c).known = true) ↔
    ∀ c, exactSum (input.declaredOn c) ≤ Limits.maxCapacityBps.toNat := by
  obtain ⟨expectation, parts⟩ := CompositionInput.compose_composes composed
  have favoured := parts.favoured
    (by rcases verdict with current | degraded <;> simp [SiteLifecycle.favourable, *])
  have sums := fun c => exactSum_perm (CompositionInput.channelValues_perm favoured.records c)
  obtain ⟨_, balanced⟩ := composeLedger_balances
    (excludedKeys (input.effects expectation)) (input.builds expectation)
  have status := favoured.capacity
  rw [parts.capacity] at status ⊢
  simp only [← sums]
  constructor
  · intro known c
    by_cases real : c = .unknown
    · subst real
      simp [channelValues, ChannelMask.feeds, exactSum]
    · exact ((balanced c).total_known.mp (known c real).1).2.2
  · intro within c real
    have known := composeLedger_known status within real
    exact ⟨known, (balanced c).available_known.mpr known⟩

/-- Two links that are up and together pass the bound. -/
def MemberDomainDeclaration.oversized : MemberDomainDeclaration :=
  .uplinked [.sample (ascii "link-1") 600000000000000, .sample (ascii "link-2") 600000000000000]

theorem oversized_site_is_current :
    ∃ site, compose (CompositionInput.sample [.oversized]) = .composed site ∧
      site.lifecycle = .current ∧ site.capacity.total.ingress.known = false ∧
      site.capacity.available.ingress.known = false := by
  obtain ⟨site, composed, found⟩ := CompositionInput.composed_of_sealed
    (show (composeSealed (CompositionInput.sample [.oversized])).passes (fun site => decide
      (site.lifecycle = .current ∧ site.capacity.total.ingress.known = false ∧
        site.capacity.available.ingress.known = false)) = true by decide +kernel) .sample
  exact ⟨site, composed, of_decide_eq_true found⟩

theorem uplinked_composes_current :
    ∃ site, compose (CompositionInput.sample [.uplinked [.sample (ascii "link-1") 5]]) =
        .composed site ∧ site.lifecycle = .current := by
  obtain ⟨site, composed, found⟩ := CompositionInput.composed_of_sealed
    (show (composeSealed (CompositionInput.sample [.uplinked [.sample (ascii "link-1") 5]])).passes
      (fun site => decide (site.lifecycle = .current)) = true by decide +kernel) .sample
  exact ⟨site, composed, of_decide_eq_true found⟩

theorem uplinked_site_capacity_known :
    ∃ site, compose (CompositionInput.sample [.uplinked [.sample (ascii "link-1") 5]]) =
        .composed site ∧ site.lifecycle = .current ∧
      ((∀ c, c ≠ .unknown → (site.capacity.total.channel c).known = true ∧
        (site.capacity.available.channel c).known = true) ↔
      ∀ c, exactSum ((CompositionInput.sample
        [.uplinked [.sample (ascii "link-1") 5]]).declaredOn c) ≤ Limits.maxCapacityBps.toNat) := by
  obtain ⟨site, composed, current⟩ := uplinked_composes_current
  exact ⟨site, composed, current, favourable_capacity_known_iff composed (.inl current)⟩

end SiteFabric
