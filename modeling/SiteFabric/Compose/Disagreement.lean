import SiteFabric.Compose.Conflicts
import SiteFabric.Compose.Derived
import SiteFabric.Compose.Favourable
import SiteFabric.Compose.Rejected
import SiteFabric.Compose.Sealed

/-! Members that disagree.
Where each selected declaration speaks of a resource once, two that differ are
attested apart: the resource is in conflict, its ledger entry stays out of every
sum but the indeterminate one, and the site is conflicting. There are no more
members than an attestor list or a source set has room for, so no bound hides it. -/

namespace SiteFabric

open Lib
open Std (ExtTreeMap)

/-- The status of a resource whose claimants differ. -/
def ResourceKind.disputed (kind : ResourceKind) : Status :=
  if kind.exclusive then .ownershipOverlap else .accountingConflict

theorem ResourceKind.disputed_ne_ok (kind : ResourceKind) : kind.disputed ≠ .ok := by
  unfold disputed
  split <;> decide

namespace ResourceRecord

theorem key_place (m : Admission × Claim) (r : ResourceRecord) : (r.place m).key = m.2.key := by
  obtain ⟨_, _, attested⟩ := { r with key := m.2.key }.attest_frame (m.1.attestation m.2)
  rw [place, attested]
  cases m.2 <;> rfl

theorem key_placeAll {key : ResourceKey} (r : ResourceRecord) {ms : List (Admission × Claim)}
    (named : ∀ m ∈ ms, m.2.key = key) (some : ms ≠ []) : (placeAll r ms).key = key := by
  induction ms using List.reverseRecOn with
  | nil => exact absurd rfl some
  | append_singleton ms m _ =>
    rw [placeAll_append]
    exact (key_place m (placeAll r ms)).trans (named m (by simp))

/-- Attestations that differ leave the record in dispute. -/
theorem resolve_disputed [StdSort] {r : ResourceRecord} {a b : Attestation}
    (listed : a ∈ r.attestations) (listed' : b ∈ r.attestations)
    (differ : a.content ≠ b.content) : r.resolve.status = r.key.kind.disputed := by
  have some : ¬ r.attestations.isEmpty = true := by
    rw [List.isEmpty_iff]
    exact List.ne_nil_of_mem listed
  have several : (sort (byKey id) (r.attestations.map (·.content)).dedup).length > 1 := by
    by_contra one
    rw [gt_iff_lt, Nat.not_lt, distinct_le_one_iff, ← agreed_iff] at one
    exact differ (one a listed b listed')
  rw [resolve_status, if_neg some, if_pos several]
  rfl

end ResourceRecord

section Resources

variable [StdSort] {admissions : Admissions} {key : ResourceKey} {record : ResourceRecord}

/-- A record carries the key it is filed under. -/
theorem resources_key (found : (gatherResources admissions)[key]? = some record) :
    record.key = key := by
  rw [resources_lookup] at found
  split at found
  · cases found
  next some =>
  obtain ⟨_, _, _, _, _, resolved⟩ := ((mentionsOf admissions key).foldl
    (fun r m => ResourceRecord.place m r) default).resolve_frame
  rw [← Option.some.inj found, resolved]
  exact ResourceRecord.key_placeAll default (fun m listed => (mem_mentionsOf.mp listed).2.2) some

/-- Two admissions whose first claims on a key differ dispute it. -/
theorem resources_disputed (orderly : admissions.Orderly)
    (found : (gatherResources admissions)[key]? = some record)
    {domain domain' : MemberDomainKey} {a a' : Admission} {claim claim' : Claim}
    (listed : admissions[domain]? = some a) (first : a.firstClaim key = some claim)
    (listed' : admissions[domain']? = some a') (first' : a'.firstClaim key = some claim')
    (differ : claim.digest ≠ claim'.digest) : record.status = key.kind.disputed := by
  obtain ⟨raw, resolved, same⟩ := resources_resolved orderly found
  have named : raw.key = key := by
    obtain ⟨_, _, _, _, _, frame⟩ := raw.resolve_frame
    rw [← resources_key found, resolved, frame]
  rw [resolved, ← named]
  refine ResourceRecord.resolve_disputed (a := a.attestation claim) (b := a'.attestation claim')
    ?_ ?_ differ
  · rw [same]
    exact mem_attestationsFor.mpr ⟨domain, a, claim, listed, first, rfl⟩
  · rw [same]
    exact mem_attestationsFor.mpr ⟨domain', a', claim', listed', first', rfl⟩

end Resources

/-! The ledger without the entries that are not counted. -/

section Ledger

variable (excluded : List ResourceKey) (builds : List LedgerBuild)

theorem post_indeterminate :
    (builds.foldl (Aggregates.post excluded) {}).indeterminate =
      (builds.filter fun b => !b.counted).foldl addAggregate {} := by
  rw [List.foldl_filter]
  refine (List.foldl_hom Aggregates.indeterminate fun a build => ?_).symm
  unfold Aggregates.post
  cases build.counted with
  | false => rfl
  | true => cases excluded.contains build.owner <;> rfl

variable {builds}

/-- Entries that are not counted make no difference to what is summed. -/
theorem composeLedger_uncounted {p : LedgerBuild → Bool}
    (uncounted : ∀ b ∈ builds, p b = false → b.counted = false) :
    (composeLedger excluded builds).total = (composeLedger excluded (builds.filter p)).total ∧
      (composeLedger excluded builds).excludedByMaintenance =
        (composeLedger excluded (builds.filter p)).excludedByMaintenance ∧
      (composeLedger excluded builds).available =
        (composeLedger excluded (builds.filter p)).available := by
  have kept : ∀ q : LedgerBuild → Bool, (∀ b, q b = true → b.counted = true) →
      (builds.filter p).filter q = builds.filter q := by
    intro q counted
    rw [List.filter_filter]
    refine List.filter_congr fun b listed => ?_
    cases held : q b with
    | false => rfl
    | true =>
      cases passed : p b with
      | true => rfl
      | false =>
        exact absurd (counted b held) (by rw [uncounted b listed passed]; decide)
  have total : (builds.foldl (Aggregates.post excluded) {}).total =
      ((builds.filter p).foldl (Aggregates.post excluded) {}).total := by
    rw [post_total, post_total, kept _ fun b counted => counted]
  have held : (builds.foldl (Aggregates.post excluded) {}).excluded =
      ((builds.filter p).foldl (Aggregates.post excluded) {}).excluded := by
    rw [post_excluded, post_excluded, kept _ fun b counted => (Bool.and_eq_true_iff.mp counted).1]
  unfold composeLedger
  simp only [total, held, and_self]

end Ledger

/-! No source set is cut short. -/

/-- A set from which nothing was dropped. -/
def SourceSet.Full (s : SourceSet) : Prop := s.truncated = false ∧ s.dropped = 0

theorem SourceSet.full_single (ref : SourceRef) : (SourceSet.insert {} ref).Full := by
  unfold insert
  exact ⟨rfl, rfl⟩

namespace ComposedSite

/-- Every source set a site holds. -/
def sourceSets (site : ComposedSite) : List SourceSet :=
  site.ownership.map (·.attestors) ++ site.capacity.entries.map (·.attestors) ++
    [site.connectivity.sources] ++ site.failureDomains.nodes.map (·.attestors) ++
    site.obligations.map (·.sources) ++ site.conflicts.map (·.parties) ++
    site.decisions.map (·.sources)

end ComposedSite

/-- A summary merges sets drawn from one pool. -/
theorem connectivity_drawn [StdSort] {resources : Resources} {pool : List SourceRef}
    (fits : pool.length ≤ Limits.maxDecisionSources)
    (drawn : ∀ (key : ResourceKey) record, resources[key]? = some record →
      SourceSet.Drawn pool record.sources) :
    SourceSet.Drawn pool (composeConnectivity resources).sources := by
  have start : SourceSet.Drawn pool ({} : ConnectivitySummary).sources :=
    SourceSet.drawn_empty pool
  have posted : SourceSet.Drawn pool
      (resources.toList.foldl ConnectivitySummary.post {}).sources := by
    refine List.foldlRecOn resources.toList ConnectivitySummary.post
      (motive := fun s => SourceSet.Drawn pool s.sources) start ?_
    intro s before entry listed
    have named := drawn entry.1 entry.2 (mem_toList_iff.mp listed)
    rcases s.sources_post entry with kept | merged
    · rw [kept]
      exact before
    · rw [merged]
      exact (before.insertSet fits named).1
  exact posted

namespace CompositionInput

variable [StdSort] {input : CompositionInput} {expectation : SiteExpectation} {site : ComposedSite}

/-- Every decision rests on sources of the admitted members. -/
theorem decision_drawn (parts : input.Composes expectation site)
    (composed : compose input = .composed site) {decision : SiteDecision}
    (decided : decision ∈ site.decisions) :
    SourceSet.Drawn (admitMembers input expectation).pool decision.sources := by
  obtain ⟨recorded, sorted, filled⟩ := composed_filled parts.prepared composed
  rw [sorted, mem_sort, filled] at decided
  rcases List.mem_append.mp (List.mem_of_mem_take decided) with planned | last
  · exact plan_drawn parts planned
  · rw [List.mem_singleton.mp last]
    exact (SourceSet.mem_gatherFrom (pool_fits parts) fun other listed =>
      plan_drawn parts (List.mem_of_mem_take listed)).1

/-- The parties to every conflict of a composed site are all named. -/
theorem composed_parties (parts : input.Composes expectation site)
    (composed : compose input = .composed site) {conflict : SiteConflict}
    (raised : conflict ∈ site.conflicts) : conflict.parties.Full := by
  have whole : ∀ {key : ResourceKey} {record}, (input.resources expectation)[key]? = some record →
      conflict.parties = record.sources → conflict.parties.Full := by
    intro key record found same
    rw [same]
    exact (record_drawn parts found).whole
  rcases parts.traced composed conflict raised with ⟨_, found, _, same⟩ | ⟨_, same⟩ |
    ⟨_, _, _, _, _, found, same⟩ | ⟨_, _, filed, _, same⟩ | ⟨_, same | ⟨ref, same⟩⟩
  · exact whole found same
  · rw [same]
    exact ⟨rfl, rfl⟩
  · exact whole found same
  · obtain ⟨_, found, -⟩ := mem_zoneRecords.mp filed
    exact whole found same
  · rw [same]
    exact ⟨rfl, rfl⟩
  · rw [same]
    exact SourceSet.full_single ref

/-- No source set of a composed site is cut short. -/
theorem sourceSets_full (parts : input.Composes expectation site)
    (composed : compose input = .composed site) : ∀ s ∈ site.sourceSets, s.Full := by
  intro s listed
  simp only [ComposedSite.sourceSets, List.mem_append, List.mem_map, List.mem_singleton] at listed
  rcases listed with (((((⟨attribution, owned, rfl⟩ | ⟨entry, counted, rfl⟩) | rfl) |
    ⟨node, planted, rfl⟩) | ⟨verdict, voted, rfl⟩) | ⟨conflict, raised, rfl⟩) | ⟨decision, decided, rfl⟩
  · exact (attestors_drawn parts owned).whole
  · obtain ⟨record, found, same⟩ := entry_attestors parts counted
    rw [same]
    exact (record_drawn parts found).whole
  · rw [parts.connectivity]
    exact (connectivity_drawn (pool_fits parts) fun key record found =>
      record_drawn parts found).whole
  · rw [parts.failureDomains] at planted
    obtain ⟨key, record, found, same⟩ := composeForest_attestors planted
    rw [same]
    exact (record_drawn parts found).whole
  · obtain ⟨key, record, obligation, found, -, -, answered⟩ := verdict_record parts voted
    rw [(verdictFor_sources answered).2]
    exact (record_drawn parts found).whole
  · exact composed_parties parts composed raised
  · exact (decision_drawn parts composed decided).whole

/-- Two selected declarations make claims on a key that differ. -/
def Disputed (input : CompositionInput) (key : ResourceKey) : Prop :=
  ∃ record record' claim claim', input.Selects record ∧ input.Selects record' ∧
    (claim ∈ record.claims ∧ claim.key = key) ∧ (claim' ∈ record'.claims ∧ claim'.key = key) ∧
    claim.digest ≠ claim'.digest

/-- No selected declaration makes two claims on a key. -/
def ClaimedOnce (input : CompositionInput) (key : ResourceKey) : Prop :=
  ∀ record, input.Selects record → (record.claims.filter (·.key = key)).length ≤ 1

/-- A dispute as a site shows it: in the attribution of the key, in the ledger, where
its entry is in no sum but the indeterminate one, and in the lifecycle. -/
structure Surfaces (input : CompositionInput) (expectation : SiteExpectation)
    (site : ComposedSite) (key : ResourceKey) : Prop where
  owned : ∃ attribution ∈ site.ownership, attribution.key = key
  status : ∀ attribution ∈ site.ownership, attribution.key = key →
    attribution.status = key.kind.disputed
  entries : ∀ entry ∈ site.capacity.entries, entry.owner = key →
    entry.countedInTotal = false ∧ entry.status = key.kind.disputed
  sums : ∃ rest, rest = composeLedger (excludedKeys (input.effects expectation))
      ((input.builds expectation).filter (·.owner ≠ key)) ∧
    site.capacity.total = rest.total ∧
    site.capacity.excludedByMaintenance = rest.excludedByMaintenance ∧
    site.capacity.available = rest.available
  indeterminate : site.capacity.indeterminate =
      (((input.builds expectation).filter (!·.counted)).foldl addAggregate {}).total ∧
    ∀ build ∈ input.builds expectation, build.owner = key → build.counted = false
  lifecycle : site.lifecycle = .conflicting

/-- Nothing is missing from what a site says of its sources. -/
structure NamesAll (input : CompositionInput) (site : ComposedSite) : Prop where
  sets : ∀ s ∈ site.sourceSets, s.Full
  attestors : ∀ attribution ∈ site.ownership, ∀ record, input.Selects record →
    (record.source ∈ attribution.attestors.items ↔
      ∃ claim ∈ record.claims, claim.key = attribution.key)

omit [StdSort] in
/-- The only claim on a key is the first. -/
theorem firstClaim_of_once {key : ResourceKey} (once : input.ClaimedOnce key)
    {record : MemberPublicationRecord} (selected : input.Selects record) {claim : Claim}
    (claimed : claim ∈ record.claims) (named : claim.key = key) :
    record.firstClaim key = some claim := by
  have among : claim ∈ record.claims.filter (·.key = key) :=
    List.mem_filter.mpr ⟨claimed, decide_eq_true named⟩
  have few := once record selected
  rw [MemberPublicationRecord.firstClaim, ← List.head?_filter]
  match listed : record.claims.filter (·.key = key) with
  | [] =>
    rw [listed] at among
    cases among
  | [only] =>
    rw [listed, List.mem_singleton] at among
    rw [listed, among]
    rfl
  | _ :: _ :: _ =>
    rw [listed] at few
    simp at few

/-- The record of a disputed key. -/
theorem record_disputed (few : input.publications.length ≤ Limits.maxMemberDomains)
    {key : ResourceKey} (once : input.ClaimedOnce key) (disputed : input.Disputed key)
    {found : ResourceRecord} (listed : (input.resources expectation)[key]? = some found) :
    found.status = key.kind.disputed := by
  obtain ⟨record, record', claim, claim', selected, selected', ⟨claimed, named⟩,
    ⟨claimed', named'⟩, differ⟩ := disputed
  exact resources_disputed (admitMembers_orderly few) listed
    (admitMembers_iff.mpr ⟨record, selected, rfl, rfl⟩)
    (firstClaim_of_once once selected claimed named)
    (admitMembers_iff.mpr ⟨record', selected', rfl, rfl⟩)
    (firstClaim_of_once once selected' claimed' named') differ

theorem surfaces (parts : input.Composes expectation site) {key : ResourceKey}
    (once : input.ClaimedOnce key) (disputed : input.Disputed key) :
    input.Surfaces expectation site key := by
  have status : ∀ found, (input.resources expectation)[key]? = some found →
      found.status = key.kind.disputed := fun found listed =>
    record_disputed (prepare_ok parts.prepared).1 once disputed listed
  have claimed : input.claimsOn key ≠ [] := by
    obtain ⟨record, -, claim, -, selected, -, ⟨member, named⟩, -⟩ := disputed
    exact List.ne_nil_of_mem (mem_claimsOn.mpr ⟨record, selected, member, named⟩)
  obtain ⟨found, listed⟩ := record_of_claimed expectation claimed
  have uncounted : ∀ build ∈ input.builds expectation, build.owner = key →
      build.counted = false ∧ build.status = key.kind.disputed := by
    intro build built owner
    obtain ⟨key', record, offer, there, offered, rfl⟩ := mem_collectLedgerBuilds.mp built
    rw [(ledgerBuild_frame key' record offer).1] at owner
    subst owner
    have disputed := status record there
    have unknown : record.status ≠ .unknown := by
      rw [disputed]
      unfold ResourceKind.disputed
      split <;> decide
    have bad : record.status ≠ .ok := disputed ▸ ResourceKind.disputed_ne_ok _
    unfold ledgerBuild
    dsimp only
    rw [if_pos bad, if_neg unknown]
    exact ⟨rfl, disputed⟩
  constructor
  · exact ⟨_, (mem_ownership parts).mpr ⟨key, found, listed, rfl⟩, rfl⟩
  · intro attribution owned same
    obtain ⟨key', record, there, rfl⟩ := (mem_ownership parts).mp owned
    obtain rfl : key' = key := same
    exact status record there
  · intro entry counted owner
    rw [parts.capacity] at counted
    obtain ⟨build, built, rfl⟩ := List.mem_map.mp counted
    rw [(ledgerEntry_frame _ build).1] at owner
    obtain ⟨free, disputed⟩ := uncounted build built owner
    unfold ledgerEntry
    dsimp only
    rw [free]
    exact ⟨rfl, disputed⟩
  · have others : ∀ build ∈ input.builds expectation,
        decide (build.owner ≠ key) = false → build.counted = false :=
      fun build built owner => (uncounted build built (by simpa using owner)).1
    obtain ⟨total, held, available⟩ :=
      composeLedger_uncounted (excludedKeys (input.effects expectation)) others
    rw [parts.capacity]
    exact ⟨_, rfl, total, held, available⟩
  · rw [parts.capacity]
    refine ⟨congrArg CapacityAggregate.total (post_indeterminate _ _), ?_⟩
    exact fun build built owner => (uncounted build built owner).1
  · have loud : site.anyConflict = true := by
      by_contra silent
      have quiet := conflicts_quiet _ _ _ (parts.quiet (by simpa using silent)).2 key found listed
      have disputed := status found listed
      unfold ResourceKind.disputed at disputed
      split at disputed
      · exact quiet.1 disputed
      · exact quiet.2 disputed
    rw [parts.lifecycle, SiteFindings.lifecycle, if_pos]
    exact loud

theorem namesAll (parts : input.Composes expectation site)
    (composed : compose input = .composed site) : input.NamesAll site where
  sets := sourceSets_full parts composed
  attestors := by
    intro attribution owned record selected
    obtain ⟨key, found, listed, rfl⟩ := (mem_ownership parts).mp owned
    exact stands_iff (prepare_ok parts.prepared).1 selected listed

end CompositionInput

/-- In every composed site each dispute over a key that nobody claims twice surfaces,
and no list of sources is cut short. -/
theorem disagreement_surfaces [StdSort] {input : CompositionInput} {site : ComposedSite}
    (composed : compose input = .composed site) :
    ∃ expectation, input.prepare = .ok expectation ∧
      (∀ key, input.ClaimedOnce key → input.Disputed key →
        input.Surfaces expectation site key) ∧
      input.NamesAll site := by
  obtain ⟨expectation, parts⟩ := CompositionInput.compose_composes composed
  exact ⟨expectation, parts.prepared, fun _ => CompositionInput.surfaces parts,
    CompositionInput.namesAll parts composed⟩

/-- Two racks that claim one link with different capacities. -/
theorem quarrel_surfaces :
    ∃ site expectation, compose .quarrel = .composed site ∧
      CompositionInput.quarrel.prepare = .ok expectation ∧
      CompositionInput.quarrel.Surfaces expectation site (.sharedLink ⟨ascii "link-1"⟩) ∧
      CompositionInput.quarrel.NamesAll site := by
  obtain ⟨site, composed, -⟩ := CompositionInput.composed_of_sealed
    (show (composeSealed .quarrel).passes (fun _ => true) = true by decide +kernel) .sample
  obtain ⟨expectation, prepared, surfaces, named⟩ := disagreement_surfaces composed
  refine ⟨site, expectation, composed, prepared, surfaces _ ?_ ?_, named⟩
  · intro record selected
    have once : ∀ record ∈ CompositionInput.quarrel.publications,
        (record.claims.filter (·.key = .sharedLink ⟨ascii "link-1"⟩)).length ≤ 1 := by
      decide +kernel
    exact once record (bestRecords_mem selected).1
  · let first := (MemberDomainDeclaration.uplinked [.sample (ascii "link-1") 5]).publication
    let second := ({ MemberDomainDeclaration.sample (ascii "rack-2") with
      sharedLinks := [.sample (ascii "link-1") 7] } : MemberDomainDeclaration).publication
    have sealed : CompositionInput.quarrel.Sealed := .sample
    have chosen : CompositionInput.quarrel.Selects first :=
      sealed.best_of_folded (MemberDomainDeclaration.publication_sealed _) (by decide +kernel)
    have chosen' : CompositionInput.quarrel.Selects second :=
      sealed.best_of_folded (MemberDomainDeclaration.publication_sealed _) (by decide +kernel)
    have claimed : Claim.link (.sample (ascii "link-1") 5) ∈ first.claims := by decide +kernel
    have claimed' : Claim.link (.sample (ascii "link-1") 7) ∈ second.claims := by decide +kernel
    have differ : (Claim.link (.sample (ascii "link-1") 5)).digest ≠
        (Claim.link (.sample (ascii "link-1") 7)).digest := by decide +kernel
    exact ⟨first, second, _, _, chosen, chosen', ⟨claimed, rfl⟩, ⟨claimed', rfl⟩, differ⟩

end SiteFabric
