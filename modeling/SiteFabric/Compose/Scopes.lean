import SiteFabric.Compose.Derived

/-! The scopes of zones and obligations.
A scope is declared through the parents the domains declare. Composition reads it off the
resolved forest, which leaves out parents nobody describes and ways up that loop. -/

namespace SiteFabric

open Lib Relation
open Std (ExtTreeMap)

namespace CompositionInput

section Declared

variable (input : CompositionInput)

/-- The last zone that is claimed on a key, the one that is kept. -/
def zoneOn (id : MaintenanceZoneId) : Option MaintenanceZone :=
  ((input.claimsOn (.maintenanceZone id)).filterMap Claim.zone?).getLast?

variable [StdSort]

/-- A resource is a member of a domain, or of one that declares it above itself. -/
def Encloses (domain : FailureDomainId) (key : ResourceKey) : Prop :=
  ∃ id, key ∈ input.nodeMembers id ∧ ReflTransGen (Declares input.parentOf) id domain

/-- A resource is a member of a domain, or of one whose resolved ancestry holds it. -/
def Resolves (domain : FailureDomainId) (key : ResourceKey) : Prop :=
  ∃ id, key ∈ input.nodeMembers id ∧
    (id = domain ∨ ¬ input.Loops id ∧ domain ∈ input.above id)

/-- The scope a zone declares. -/
def ZoneScope (zone : MaintenanceZone) (key : ResourceKey) : Prop :=
  key ∈ zone.resources ∨ ∃ domain ∈ zone.domains, input.Encloses domain key

/-- The scope of a zone that is read off the forest. -/
def Reaches (zone : MaintenanceZone) (key : ResourceKey) : Prop :=
  key ∈ zone.resources ∨ ∃ domain ∈ zone.domains, input.Resolves domain key

/-- The scope an obligation declares. -/
def ObligationScope (obligation : ProtectedObligation) (key : ResourceKey) : Prop :=
  obligation.scopeResource = some key ∨
    ∃ domain, obligation.scopeDomain = some domain ∧ input.Encloses domain key

/-- What refuses a zone: a protected obligation whose resource the zone reaches, or whose
domain the zone names, reaches as a resource, or has in its scope. -/
def Detects (zone : MaintenanceZone) (obligation : ProtectedObligation) : Prop :=
  obligation.protectedFromMaintenance = true ∧
    ((∃ resource, obligation.scopeResource = some resource ∧ input.Reaches zone resource) ∨
      ∃ domain, obligation.scopeDomain = some domain ∧
        (domain ∈ zone.domains ∨ input.Reaches zone (.failureDomain domain) ∨
          (input.names domain = true ∧ ¬ input.Loops domain ∧
            ∃ outer ∈ zone.domains, outer ∈ input.above domain)))

/-- Some attributed obligation refuses a zone. -/
def Refuses (expectation : SiteExpectation) (zone : MaintenanceZone) : Prop :=
  ∃ obligation, (∃ id, input.SettledObligation expectation id obligation) ∧
    input.Detects zone obligation

end Declared

section Resolved

variable [StdSort] {input : CompositionInput} {domain : FailureDomainId} {key : ResourceKey}

omit [StdSort] in
theorem mem_above {id : FailureDomainId} (straight : ¬ input.Loops id) :
    domain ∈ input.above id ↔
      TransGen (Declares input.parentOf) id domain ∧ input.names domain = true := by
  rw [Loops, loops_parent_iff, not_not] at straight
  rw [above, List.mem_filter, mem_follow_parent straight]

theorem Resolves.encloses (resolves : input.Resolves domain key) : input.Encloses domain key := by
  obtain ⟨id, listed, rfl | ⟨straight, above⟩⟩ := resolves
  · exact ⟨id, listed, .refl⟩
  · exact ⟨id, listed, ((mem_above straight).mp above).1.to_reflTransGen⟩

/-- In a forest without loops the resolution of a domain misses nothing unless nobody
names the domain. -/
theorem resolves_iff (acyclic : ∀ id, input.names id = true → ¬ input.Loops id) :
    input.Resolves domain key ↔ input.names domain = true ∧ input.Encloses domain key := by
  constructor
  · intro resolves
    refine ⟨?_, resolves.encloses⟩
    obtain ⟨id, listed, rfl | ⟨straight, above⟩⟩ := resolves
    · exact names_of_member listed
    · exact ((mem_above straight).mp above).2
  · rintro ⟨named, id, listed, up⟩
    refine ⟨id, listed, ?_⟩
    rcases reflTransGen_iff_eq_or_transGen.mp up with rfl | up
    · exact .inl rfl
    · have straight := acyclic id (names_of_member listed)
      exact .inr ⟨straight, (mem_above straight).mpr ⟨up, named⟩⟩

theorem Reaches.declared {zone : MaintenanceZone} (reaches : input.Reaches zone key) :
    input.ZoneScope zone key := by
  rcases reaches with named | ⟨domain, among, resolves⟩
  · exact .inl named
  · exact .inr ⟨domain, among, resolves.encloses⟩

variable {expectation : SiteExpectation}
  (few : input.publications.length ≤ Limits.maxMemberDomains)

include few

/-- The ancestors of a node, in terms of the input. -/
theorem mem_ancestors {node : FailureDomainNode} (listed : node ∈ (input.forest expectation).nodes) :
    domain ∈ node.ancestors ↔ ¬ input.Loops node.id ∧ domain ∈ input.above node.id := by
  have stands := stands few listed
  by_cases loops : input.Loops node.id
  · rw [stands.looped loops]
    exact iff_of_false List.not_mem_nil fun both => both.1 loops
  · rw [stands.straight loops, and_iff_right loops]

theorem mem_collectZoneScope {zone : MaintenanceZone} :
    key ∈ collectZoneScope (domainMembers (admitMembers input expectation)
        (input.resources expectation)) (input.forest expectation) zone ↔
      input.Reaches zone key := by
  rw [collectZoneScope, mem_sortUnique, List.mem_append, List.mem_flatMap, Reaches]
  refine or_congr_right (exists_congr fun domain => and_congr_right fun _ => ?_)
  rw [List.mem_append, mem_domainMembers few, List.mem_flatMap, Resolves]
  simp only [List.mem_filter, List.contains_iff_mem]
  constructor
  · rintro (direct | ⟨node, ⟨listed, below⟩, member⟩)
    · exact ⟨domain, direct, .inl rfl⟩
    · rw [(stands few listed).members] at member
      exact ⟨node.id, member, .inr ((mem_ancestors few listed).mp below)⟩
  · rintro ⟨id, member, rfl | below⟩
    · exact .inl member
    · obtain ⟨node, listed, rfl⟩ := forest_of_names expectation (names_of_member member)
      refine .inr ⟨node, ⟨listed, (mem_ancestors few listed).mpr below⟩, ?_⟩
      rwa [(stands few listed).members]

/-- The comparisons an obligation makes with a zone whose scope has been filed. -/
theorem overlaps_iff {scopes : ZoneScopes} {zone : MaintenanceZone}
    {obligation : ProtectedObligation}
    (filed : scopes[zone.id]? = some (collectZoneScope (domainMembers (admitMembers input
      expectation) (input.resources expectation)) (input.forest expectation) zone)) :
    obligationOverlapsZone scopes (input.forest expectation) obligation zone = true ↔
      input.Detects zone obligation := by
  unfold obligationOverlapsZone
  rw [filed, Bool.and_eq_true, Bool.or_eq_true, Detects]
  refine and_congr_right fun _ => or_congr ?_ ?_
  · cases obligation.scopeResource with
    | none => simp
    | some resource => simp [mem_collectZoneScope few]
  · cases obligation.scopeDomain with
    | none => simp
    | some domain =>
      have kinds : ∀ key : ResourceKey, (key.kind = .failureDomain ∧ key.id = domain.value) ↔
          key = .failureDomain domain := by
        rintro ⟨kind, id⟩
        simp [ResourceKey.failureDomain]
      simp only [Option.some.injEq, exists_eq_left', Bool.or_eq_true, or_assoc]
      refine or_congr List.contains_iff_mem (or_congr ?_ ?_)
      · simp [kinds, mem_collectZoneScope few]
      · cases here : (input.forest expectation).find domain with
        | none =>
          refine iff_of_false Bool.false_ne_true fun known => ?_
          obtain ⟨node, listed, named⟩ := forest_of_names expectation known.1
          rw [forest_find.mpr ⟨listed, named⟩] at here
          cases here
        | some node =>
          obtain ⟨listed, rfl⟩ := forest_find.mp here
          simp only [List.any_eq_true, List.contains_iff_mem, mem_ancestors few listed,
            (stands few listed).named, true_and]
          constructor
          · rintro ⟨outer, among, straight, above⟩
            exact ⟨straight, outer, among, above⟩
          · rintro ⟨straight, outer, among, above⟩
            exact ⟨outer, among, straight, above⟩

end Resolved

section Records

variable [StdSort] {input : CompositionInput} {expectation : SiteExpectation}

omit [StdSort] in
theorem zoneOn_id {id : MaintenanceZoneId} {zone : MaintenanceZone}
    (spoken : input.zoneOn id = some zone) : zone.id = id := by
  obtain ⟨claim, claimed, read⟩ := List.mem_filterMap.mp (List.mem_of_getLast? spoken)
  obtain ⟨_, _, _, named⟩ := mem_claimsOn.mp claimed
  cases claim with
  | zone z =>
    cases read
    exact congrArg (fun key : ResourceKey => (⟨key.id⟩ : MaintenanceZoneId)) named
  | _ => cases read

/-- The zones on record are those that speak for their keys. -/
theorem mem_zoneRecords_iff {record : ResourceRecord} {zone : MaintenanceZone} :
    (record, zone) ∈ zoneRecords (input.resources expectation) ↔
      (input.resources expectation)[ResourceKey.maintenanceZone zone.id]? = some record ∧
        input.zoneOn zone.id = some zone := by
  rw [mem_zoneRecords]
  constructor
  · rintro ⟨key, found, -, held⟩
    obtain rfl := input.zone_key expectation found held
    exact ⟨found, (resources_slot_eq ResourceRecord.zoneSlot found).symm.trans held⟩
  · rintro ⟨found, spoken⟩
    exact ⟨_, found, rfl, (resources_slot_eq ResourceRecord.zoneSlot found).trans spoken⟩

/-- A zone that speaks for its key is on record. -/
theorem zone_record (expectation : SiteExpectation) {id : MaintenanceZoneId}
    {zone : MaintenanceZone}
    (spoken : input.zoneOn id = some zone) :
    ∃ record, (record, zone) ∈ zoneRecords (input.resources expectation) := by
  obtain rfl := zoneOn_id spoken
  obtain ⟨claim, claimed, -⟩ := List.mem_filterMap.mp (List.mem_of_getLast? spoken)
  obtain ⟨record, found⟩ := record_of_claimed expectation (List.ne_nil_of_mem claimed)
  exact ⟨record, mem_zoneRecords_iff.mpr ⟨found, spoken⟩⟩

/-- A zone of which the scope has been filed is permitted unless it is refused. -/
theorem refusals_nil_iff (few : input.publications.length ≤ Limits.maxMemberDomains)
    {record : ResourceRecord} {zone : MaintenanceZone}
    (listed : (record, zone) ∈ zoneRecords (input.resources expectation))
    (attributed : record.status = .ok) :
    refusals (input.resources expectation) (zoneScopes (input.resources expectation)
      (domainMembers (admitMembers input expectation) (input.resources expectation))
      (input.forest expectation)) (input.forest expectation) zone = [] ↔
      ¬ input.Refuses expectation zone := by
  have filed := input.zoneScopes_lookup expectation (domainMembers (admitMembers input expectation)
    (input.resources expectation)) (input.forest expectation) listed attributed
  rw [refusals, List.map_eq_nil_iff, List.filter_eq_nil_iff, Refuses, not_exists]
  refine forall_congr' fun obligation => ?_
  rw [overlaps_iff few filed, mem_attributedObligations few, not_and]

end Records

section Sample

variable {d : MemberDomainDeclaration}

/-- Where anything is named the one declaration of a sample speaks. -/
theorem sample_selects {key : ResourceKey} (named : (sample [d]).claimsOn key ≠ []) :
    (sample [d]).Selects d.publication := by
  obtain ⟨claim, member⟩ := List.exists_mem_of_ne_nil _ named
  obtain ⟨record, selected, -⟩ := mem_claimsOn.mp member
  obtain rfl := List.mem_singleton.mp (bestRecords_mem selected).1
  exact selected

/-- The only claim of its kind is the one that is kept. -/
theorem sample_getLast {γ : Type} {key : ResourceKey} {read : Claim → Option γ} {value : γ}
    (selected : (sample [d]).Selects d.publication) {claim : Claim} (claimed : claim ∈ d.claims)
    (named : claim.key = key) (reads : read claim = some value)
    (only : ∀ other ∈ d.claims, ∀ found, read other = some found → found = value) :
    (((sample [d]).claimsOn key).filterMap read).getLast? = some value := by
  have among : claim ∈ (sample [d]).claimsOn key :=
    mem_claimsOn.mpr ⟨d.publication, selected, claimed, named⟩
  cases kept : (((sample [d]).claimsOn key).filterMap read).getLast? with
  | none =>
    rw [List.getLast?_eq_none_iff, List.filterMap_eq_nil_iff] at kept
    exact absurd (kept claim among) (by rw [reads]; exact Option.some_ne_none _)
  | some found =>
    obtain ⟨other, listed, read⟩ := List.mem_filterMap.mp (List.mem_of_getLast? kept)
    obtain ⟨record, selected', claimed', -⟩ := mem_claimsOn.mp listed
    obtain rfl := List.mem_singleton.mp (bestRecords_mem selected').1
    rw [only other claimed' found read]

end Sample

end CompositionInput

end SiteFabric
