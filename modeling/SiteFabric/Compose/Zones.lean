import SiteFabric.Compose.Scopes
import SiteFabric.Compose.Sealed

/-! What zones take out of a site, and what keeps them from it. -/

namespace SiteFabric

open Lib Relation
open Std (ExtTreeMap)

def ComposedSite.effectOn (site : ComposedSite) (id : MaintenanceZoneId) :
    Option MaintenanceEffect :=
  site.maintenance.find? (·.id = id)

namespace CompositionInput

variable [StdSort] {input : CompositionInput} {expectation : SiteExpectation} {site : ComposedSite}

/-- A zone that is attributed, refused by no obligation, and active or of a state nobody
reported. -/
structure Applies (input : CompositionInput) (expectation : SiteExpectation)
    (zone : MaintenanceZone) : Prop where
  attributed : input.Settled expectation (.maintenanceZone zone.id)
  permitted : ¬ input.Refuses expectation zone
  state : zone.state = .active ∨ zone.state = .unknown

/-- A zone is in conflict exactly when it is attributed and some obligation refuses it. -/
theorem effectOf_conflict_iff (nowMs : Int64) (resources : Resources) (scopes : ZoneScopes)
    (forest : FailureDomainForest) {record : ResourceRecord} (zone : MaintenanceZone)
    (resolved : record.status ≠ .maintenanceConflict) :
    (effectOf nowMs resources scopes forest (record, zone)).status = .maintenanceConflict ↔
      record.status = .ok ∧ refusals resources scopes forest zone ≠ [] := by
  have outcome := (effectOf_outcome nowMs resources scopes forest record zone).2
  have status : (effectOf nowMs resources scopes forest (record, zone)).status = _ :=
    congrArg Prod.fst outcome
  rw [status]
  by_cases ok : record.status = .ok
  · by_cases permitted : refusals resources scopes forest zone = []
    · by_cases unknown : zone.state = .unknown
      · simp [ok, permitted, unknown]
      · by_cases active : zone.state = .active <;> simp [ok, permitted, unknown, active]
    · simp [ok, permitted]
  · simp [ok, resolved]

/-- The effect filed for a zone on record. -/
theorem Composes.effectOn (parts : input.Composes expectation site) {record : ResourceRecord}
    {zone : MaintenanceZone} (listed : (record, zone) ∈ zoneRecords (input.resources expectation)) :
    site.effectOn zone.id = some (effectOf input.nowMs (input.resources expectation)
      (zoneScopes (input.resources expectation) (domainMembers (admitMembers input expectation)
        (input.resources expectation)) (input.forest expectation))
      (input.forest expectation) (record, zone)) := by
  have filed : effectOf input.nowMs (input.resources expectation) (zoneScopes (input.resources
      expectation) (domainMembers (admitMembers input expectation) (input.resources expectation))
      (input.forest expectation)) (input.forest expectation) (record, zone) ∈ site.maintenance := by
    rw [parts.maintenance]
    exact mem_sort.mpr (List.mem_map.mpr ⟨_, listed, rfl⟩)
  have found := find_maintenance parts filed
  rwa [(effectOf_outcome ..).1] at found

/-- The effect of a zone: it is in conflict when it is refused, and it takes out what the
zone reaches when the zone applies. -/
theorem Composes.effect (parts : input.Composes expectation site) {id : MaintenanceZoneId}
    {zone : MaintenanceZone} (spoken : input.zoneOn id = some zone) :
    ∃ effect, site.effectOn id = some effect ∧
      (effect.status = .maintenanceConflict ↔
        input.Settled expectation (.maintenanceZone id) ∧ input.Refuses expectation zone) ∧
      ∀ key, key ∈ effect.excluded ↔ input.Applies expectation zone ∧ input.Reaches zone key := by
  have few := (prepare_ok parts.prepared).1
  obtain rfl := zoneOn_id spoken
  obtain ⟨record, listed⟩ := zone_record expectation spoken
  obtain ⟨found, -⟩ := mem_zoneRecords_iff.mp listed
  have settled := resources_ok_iff_settled few found
  have resolved : record.status ≠ .maintenanceConflict := by
    rcases resources_status found with same | same | same | same <;> rw [same] <;> decide
  refine ⟨_, parts.effectOn listed, ?_, fun key => ?_⟩
  · rw [effectOf_conflict_iff _ _ _ _ _ resolved, settled]
    refine and_congr_right fun attributed => ?_
    rw [ne_eq, refusals_nil_iff few listed (settled.mpr attributed), not_not]
  · rcases effectOf_excluded input.nowMs (input.resources expectation) (zoneScopes
        (input.resources expectation) (domainMembers (admitMembers input expectation)
          (input.resources expectation)) (input.forest expectation))
        (input.forest expectation) record zone with ⟨force, -, -, scope⟩ | ⟨idle, none⟩
    · have applies : input.Applies expectation zone :=
        ⟨settled.mp force.attributed,
          (refusals_nil_iff few listed force.attributed).mp force.permitted, force.state⟩
      rw [scope, input.zoneScopes_lookup expectation _ _ listed force.attributed, Option.getD_some,
        mem_collectZoneScope few, and_iff_right applies]
    · rw [none]
      refine iff_of_false List.not_mem_nil ?_
      rintro ⟨applies, -⟩
      have attributed := settled.mpr applies.attributed
      exact idle ⟨attributed, (refusals_nil_iff few listed attributed).mpr applies.permitted,
        applies.state⟩

theorem Composes.attributes_settled (parts : input.Composes expectation site) (key : ResourceKey) :
    site.attributes key = true ↔ input.Settled expectation key := by
  have few := (prepare_ok parts.prepared).1
  rw [attributes_iff parts.ownership]
  constructor
  · rintro ⟨record, found, ok⟩
    exact (resources_ok_iff_settled few found).mp ok
  · intro settled
    obtain ⟨record, found⟩ := record_of_claimed expectation settled.named
    exact ⟨record, found, (resources_ok_iff_settled few found).mpr settled⟩

/-- An entry that feeds a channel is left out of what is available exactly when some zone
takes its owner out. -/
theorem Composes.left_out_iff (parts : input.Composes expectation site) {c : CapacityChannel}
    {entry : CapacityLedgerEntry} (fed : entry ∈ site.fedBy (input.resources expectation) c) :
    entry.countedInTotal = false ↔ ∃ effect ∈ site.maintenance, entry.owner ∈ effect.excluded := by
  obtain ⟨listed, feeds⟩ := List.mem_filter.mp fed
  rw [parts.entries, List.mem_map] at listed
  obtain ⟨build, member, rfl⟩ := listed
  rw [feeds_counted parts.ownership c member, Bool.and_eq_true] at feeds
  have held := parts.excludedKeys_holdsOut build.owner
  have maintained := holdsOut_iff _ _ _ _ parts.maintenance build.owner
  rw [(ledgerEntry_frame _ build).1]
  change site.holdsOut build.owner = true ↔ ∃ effect ∈ input.effects expectation, _ at maintained
  rw [← parts.maintenance] at maintained
  rw [← maintained, ← held, ledgerEntry, feeds.2]
  cases (excludedKeys (input.effects expectation)).contains build.owner <;> simp

end CompositionInput

/-- Zones that are attributed, not refused, and active or of an unknown state take out
what they declare as their scope and all others nothing; what they take out is left out
of what is available, and nothing else is. -/
structure ComposedSite.RemovesScopes [StdSort] (site : ComposedSite) (input : CompositionInput)
    (expectation : SiteExpectation) : Prop where
  excluded : ∀ id zone, input.zoneOn id = some zone → ∃ effect, site.effectOn id = some effect ∧
    ∀ key, key ∈ effect.excluded ↔
      (site.attributes (.maintenanceZone id) = true ∧ effect.status ≠ .maintenanceConflict ∧
        (zone.state = .active ∨ zone.state = .unknown)) ∧ input.ZoneScope zone key
  left_out : ∀ c, ∀ entry ∈ site.fedBy (input.resources expectation) c,
    entry.countedInTotal = false ↔ ∃ effect ∈ site.maintenance, entry.owner ∈ effect.excluded
  available : ∀ c, (site.capacity.available.channel c).known = true →
    (site.capacity.available.channel c).bps.toNat =
      exactSum (((site.fedBy (input.resources expectation) c).filter (·.countedInTotal)).map
        (·.capacity.channel c))

/-- In a forest without cycles zones remove exactly their scopes if and only if the domains
that they name and nobody describes have nothing below them that is not reached anyway. -/
theorem zones_remove_scopes_iff [StdSort] {input : CompositionInput} {expectation : SiteExpectation}
    {site : ComposedSite} (prepared : input.prepare = .ok expectation)
    (composed : compose input = .composed site) (acyclic : site.failureDomains.cyclic = []) :
    site.RemovesScopes input expectation ↔
      ∀ id zone, input.zoneOn id = some zone → input.Applies expectation zone →
        ∀ domain ∈ zone.domains, input.names domain = false →
          ∀ key, input.Encloses domain key → input.Reaches zone key := by
  obtain ⟨expectation', parts⟩ := CompositionInput.compose_composes composed
  obtain rfl : expectation = expectation' := Except.ok.inj (prepared.symm.trans parts.prepared)
  have straight : ∀ id, input.names id = true → ¬ input.Loops id := by
    intro id named loops
    rw [parts.failureDomains] at acyclic
    have listed : id ∈ (input.forest expectation).cyclic :=
      CompositionInput.mem_cyclic.mpr ⟨named, loops⟩
    rw [acyclic] at listed
    cases listed
  have left_out : ∀ c, ∀ entry ∈ site.fedBy (input.resources expectation) c,
      entry.countedInTotal = false ↔
        ∃ effect ∈ site.maintenance, entry.owner ∈ effect.excluded :=
    fun c entry fed => parts.left_out_iff fed
  constructor
  · intro removes id zone spoken applies domain among _ key within
    obtain ⟨effect, found, conflict, reach⟩ := parts.effect spoken
    obtain ⟨effect', found', exact⟩ := removes.excluded id zone spoken
    obtain rfl : effect = effect' := Option.some.inj (found.symm.trans found')
    obtain rfl := CompositionInput.zoneOn_id spoken
    refine ((reach key).mp ((exact key).mpr ⟨⟨?_, ?_, applies.state⟩, ?_⟩)).2
    · exact (parts.attributes_settled _).mpr applies.attributed
    · exact fun refused => applies.permitted (conflict.mp refused).2
    · exact .inr ⟨domain, among, within⟩
  · intro complete
    refine ⟨fun id zone spoken => ?_, left_out, fun c known => ?_⟩
    · obtain ⟨effect, found, conflict, reach⟩ := parts.effect spoken
      obtain rfl := CompositionInput.zoneOn_id spoken
      refine ⟨effect, found, fun key => (reach key).trans ?_⟩
      have applies : input.Applies expectation zone ↔
          site.attributes (.maintenanceZone zone.id) = true ∧
            effect.status ≠ .maintenanceConflict ∧
            (zone.state = .active ∨ zone.state = .unknown) := by
        rw [ne_eq, conflict, parts.attributes_settled]
        exact ⟨fun a => ⟨a.attributed, fun refused => a.permitted refused.2, a.state⟩,
          fun ⟨attributed, permitted, state⟩ =>
            ⟨attributed, fun refused => permitted ⟨attributed, refused⟩, state⟩⟩
      rw [← applies]
      refine and_congr_right fun holds => ⟨CompositionInput.Reaches.declared, ?_⟩
      rintro (named | ⟨domain, among, within⟩)
      · exact .inl named
      · cases described : input.names domain with
        | true =>
          exact .inr ⟨domain, among,
            (CompositionInput.resolves_iff straight).mpr ⟨described, within⟩⟩
        | false => exact complete _ zone spoken holds domain among described key within
    · have balanced := parts.balanced.channels c
      rw [balanced.available_bps (balanced.available_known.mp known)]
      refine congrArg (fun entries => exactSum (List.map _ entries)) ?_
      refine List.filter_congr fun entry fed => ?_
      have maintained := holdsOut_iff _ _ _ _ parts.maintenance entry.owner
      change _ ↔ ∃ effect ∈ input.effects expectation, _ at maintained
      rw [← parts.maintenance, ← left_out c entry fed] at maintained
      rw [Bool.eq_iff_iff, Bool.not_eq_true', ← Bool.not_eq_true, maintained]
      simp

/-- An active zone. -/
def MaintenanceZone.sample (domains : List FailureDomainId) (resources : List ResourceKey) :
    MaintenanceZone where
  id := ⟨ascii "zone-1"⟩
  state := .active
  domains := domains
  resources := resources
  generation := ⟨1⟩
  evidence := Evidence.sample

/-- A rack in a domain of its own, with a zone and some obligations. -/
def CompositionInput.zoned (parent : Option FailureDomainId) (zone : MaintenanceZone)
    (obligations : List ProtectedObligation) : CompositionInput :=
  .sample [{ MemberDomainDeclaration.uplinked [] with
    failureDomains := [{ FailureDomainClaim.sample (ascii "fd-a") [⟨.rack, ascii "rack-1"⟩] with
      parent }]
    maintenanceZones := [zone]
    obligations }]

namespace CompositionInput

variable {parent : Option FailureDomainId} {zone : MaintenanceZone}
  {obligations : List ProtectedObligation} {expectation : SiteExpectation} {site : ComposedSite}

/-- The forest of a zoned rack is its domain. -/
theorem zoned_node (parts : (zoned parent zone obligations).Composes expectation site)
    {node : FailureDomainNode} (listed : node ∈ site.failureDomains.nodes) :
    (zoned parent zone obligations).Stands node := by
  rw [parts.failureDomains] at listed
  exact stands (prepare_ok parts.prepared).1 listed

/-- The declaration of a zoned rack. -/
theorem zoned_selects {node : FailureDomainNode}
    (stands : (zoned parent zone obligations).Stands node) :
    ∃ d, zoned parent zone obligations = sample [d] ∧ (sample [d]).Selects d.publication ∧
      d.maintenanceZones = [zone] ∧ d.obligations = obligations :=
  ⟨_, rfl, sample_selects (names_iff.mp stands.named), rfl, rfl⟩

theorem zoned_zoneOn {node : FailureDomainNode}
    (stands : (zoned parent zone obligations).Stands node) :
    (zoned parent zone obligations).zoneOn zone.id = some zone := by
  obtain ⟨d, same, selected, zones, -⟩ := zoned_selects stands
  have claimed : Claim.zone zone ∈ d.claims := by simp [MemberDomainDeclaration.claims, zones]
  rw [same]
  refine sample_getLast selected claimed rfl rfl fun other listed found read => ?_
  cases other with
  | zone z =>
    cases read
    simpa [MemberDomainDeclaration.claims, zones] using listed
  | _ => cases read

theorem zoned_inForce {obligation : ProtectedObligation} {node : FailureDomainNode}
    (stands : (zoned parent zone [obligation]).Stands node) :
    (zoned parent zone [obligation]).inForce obligation.id = some obligation := by
  obtain ⟨d, same, selected, -, obligations⟩ := zoned_selects stands
  have claimed : Claim.obligation obligation ∈ d.claims := by
    simp [MemberDomainDeclaration.claims, obligations]
  rw [same]
  refine sample_getLast selected claimed rfl rfl fun other listed found read => ?_
  cases other with
  | obligation o =>
    cases read
    simpa [MemberDomainDeclaration.claims, obligations] using listed
  | _ => cases read

theorem zoned_spoken {id : MaintenanceZoneId} {z : MaintenanceZone}
    (spoken : (zoned parent zone obligations).zoneOn id = some z) : z = zone := by
  obtain ⟨claim, listed, read⟩ := List.mem_filterMap.mp (List.mem_of_getLast? spoken)
  obtain ⟨record, selected, claimed, -⟩ := mem_claimsOn.mp listed
  obtain rfl := List.mem_singleton.mp (bestRecords_mem selected).1
  cases claim with
  | zone other =>
    cases read
    simpa [MemberPublicationRecord.claims, MemberDomainDeclaration.publication,
      MemberDomainDeclaration.claims, MemberDomainDeclaration.uplinked,
      MemberDomainDeclaration.sample] using claimed
  | _ => cases read

end CompositionInput

theorem nested_zone_removes_its_scope :
    ∃ expectation site, compose (.zoned none (.sample [⟨ascii "fd-a"⟩] []) []) = .composed site ∧
      (∃ effect ∈ site.maintenance, effect.excluded = [⟨.rack, ascii "rack-1"⟩]) ∧
      site.RemovesScopes (.zoned none (.sample [⟨ascii "fd-a"⟩] []) []) expectation := by
  obtain ⟨site, composed, test⟩ := CompositionInput.composed_of_sealed
    (show (composeSealed (.zoned none (.sample [⟨ascii "fd-a"⟩] []) [])).passes (fun site => decide
      (site.failureDomains.cyclic = [] ∧
        (∃ effect ∈ site.maintenance, effect.excluded = [⟨.rack, ascii "rack-1"⟩]) ∧
        ∃ node ∈ site.failureDomains.nodes, node.id = ⟨ascii "fd-a"⟩)) = true by decide +kernel)
    .sample
  obtain ⟨acyclic, removes, node, listed, named⟩ := of_decide_eq_true test
  obtain ⟨expectation, parts⟩ := CompositionInput.compose_composes composed
  refine ⟨expectation, site, composed, removes,
    (zones_remove_scopes_iff parts.prepared composed acyclic).mpr ?_⟩
  intro id zone spoken _ domain among silent
  obtain rfl := CompositionInput.zoned_spoken spoken
  obtain rfl := List.mem_singleton.mp among
  have described := (CompositionInput.zoned_node parts listed).named
  rw [named, silent] at described
  cases described

/-- A domain below a row that no member describes, and a zone over the row. -/
def CompositionInput.rowZoned : CompositionInput :=
  .zoned (some ⟨ascii "fd-row"⟩) (.sample [⟨ascii "fd-row"⟩] []) []

/-- The zone is active and attributed, and takes nothing out. -/
theorem row_zone_removes_nothing :
    ∃ expectation site, CompositionInput.rowZoned.prepare = .ok expectation ∧
      compose CompositionInput.rowZoned = .composed site ∧ site.failureDomains.cyclic = [] ∧
      ¬ site.RemovesScopes CompositionInput.rowZoned expectation := by
  obtain ⟨site, composed, test⟩ := CompositionInput.composed_of_sealed
    (show (composeSealed CompositionInput.rowZoned).passes (fun site => decide
      (site.failureDomains.cyclic = [] ∧
        (∀ effect ∈ site.maintenance, effect.excluded = [] ∧
          effect.status ≠ .maintenanceConflict) ∧
        site.attributes (.maintenanceZone ⟨ascii "zone-1"⟩) = true ∧
        ∃ node ∈ site.failureDomains.nodes, node.parent = some ⟨ascii "fd-row"⟩ ∧
          node.members = [⟨.rack, ascii "rack-1"⟩])) = true by decide +kernel) .sample
  obtain ⟨acyclic, idle, attributed, node, listed, above, members⟩ := of_decide_eq_true test
  obtain ⟨expectation, parts⟩ := CompositionInput.compose_composes composed
  have stands : CompositionInput.rowZoned.Stands node := CompositionInput.zoned_node parts listed
  refine ⟨expectation, site, parts.prepared, composed, acyclic, fun removes => ?_⟩
  obtain ⟨effect, found, exact⟩ :=
    removes.excluded _ _ (CompositionInput.zoned_zoneOn stands)
  obtain ⟨nothing, permitted⟩ := idle effect (List.mem_of_find?_eq_some found)
  have within : CompositionInput.rowZoned.Encloses ⟨ascii "fd-row"⟩ ⟨.rack, ascii "rack-1"⟩ := by
    refine ⟨node.id, ?_, .single (stands.parent.symm.trans above)⟩
    rw [← stands.members, members]
    exact List.mem_singleton_self _
  have removed := (exact ⟨.rack, ascii "rack-1"⟩).mpr ⟨⟨attributed, permitted, .inl rfl⟩,
    .inr ⟨_, List.mem_singleton_self _, within⟩⟩
  rw [nothing] at removed
  cases removed

/-- The scope of a zone meets that of an attributed obligation that is protected. -/
def CompositionInput.Overlaps [StdSort] (input : CompositionInput) (expectation : SiteExpectation)
    (zone : MaintenanceZone) : Prop :=
  ∃ id obligation, input.SettledObligation expectation id obligation ∧
    obligation.protectedFromMaintenance = true ∧
    ∃ key, input.ZoneScope zone key ∧ input.ObligationScope obligation key

/-- A zone whose scope meets a protected one is refused and takes nothing out. -/
def ComposedSite.KeepsScopes [StdSort] (site : ComposedSite) (input : CompositionInput)
    (zone : MaintenanceZone) : Prop :=
  ∀ id obligation key, input.inForce id = some obligation →
    site.attributes (.obligation id) = true →
    obligation.protectedFromMaintenance = true →
    input.ZoneScope zone key → input.ObligationScope obligation key →
      ∃ effect, site.effectOn zone.id = some effect ∧ effect.status = .maintenanceConflict ∧
        effect.excluded = []

/-- An attributed zone leaves protected scopes alone if and only if it meets none or some
obligation is detected. -/
theorem protected_scopes_are_kept_iff [StdSort] {input : CompositionInput}
    {expectation : SiteExpectation} {site : ComposedSite} {zone : MaintenanceZone}
    (prepared : input.prepare = .ok expectation) (composed : compose input = .composed site)
    (spoken : input.zoneOn zone.id = some zone)
    (attributed : site.attributes (.maintenanceZone zone.id) = true) :
    site.KeepsScopes input zone ↔
      ¬ input.Overlaps expectation zone ∨ input.Refuses expectation zone := by
  obtain ⟨expectation', parts⟩ := CompositionInput.compose_composes composed
  obtain rfl : expectation = expectation' := Except.ok.inj (prepared.symm.trans parts.prepared)
  obtain ⟨effect, found, conflict, reach⟩ := parts.effect spoken
  rw [parts.attributes_settled] at attributed
  rw [and_iff_right attributed] at conflict
  constructor
  · intro keeps
    refine or_iff_not_imp_left.mpr fun overlaps => ?_
    obtain ⟨id, obligation, ⟨owed, promised⟩, guarded, key, inside, inside'⟩ := not_not.mp overlaps
    obtain ⟨effect', found', refused, -⟩ := keeps id obligation key promised
      ((parts.attributes_settled _).mpr owed) guarded inside inside'
    obtain rfl : effect = effect' := Option.some.inj (found.symm.trans found')
    exact conflict.mp refused
  · rintro condition id obligation key promised owed guarded inside inside'
    rw [parts.attributes_settled] at owed
    have refused := condition.resolve_left
      (not_not.mpr ⟨id, obligation, ⟨owed, promised⟩, guarded, key, inside, inside'⟩)
    refine ⟨effect, found, conflict.mpr refused, ?_⟩
    refine List.eq_nil_iff_forall_not_mem.mpr fun key member => ?_
    exact ((reach key).mp member).1.permitted refused

/-- An obligation to keep a domain. -/
def ProtectedObligation.sample (kind : ObligationKind) (scopeDomain : Option FailureDomainId)
    (required : UInt64) : ProtectedObligation where
  id := ⟨ascii "obligation-1"⟩
  kind := kind
  scopeDomain := scopeDomain
  required := required
  generation := ⟨1⟩
  evidence := Evidence.sample

theorem zone_over_domain_is_refused :
    ∃ site, compose (.zoned none (.sample [⟨ascii "fd-a"⟩] [])
        [.sample .domainSurvivability (some ⟨ascii "fd-a"⟩) 1]) = .composed site ∧
      site.KeepsScopes (.zoned none (.sample [⟨ascii "fd-a"⟩] [])
        [.sample .domainSurvivability (some ⟨ascii "fd-a"⟩) 1]) (.sample [⟨ascii "fd-a"⟩] []) := by
  obtain ⟨site, composed, test⟩ := CompositionInput.composed_of_sealed
    (show (composeSealed (.zoned none (.sample [⟨ascii "fd-a"⟩] [])
        [.sample .domainSurvivability (some ⟨ascii "fd-a"⟩) 1])).passes (fun site => decide
      ((∀ effect ∈ site.maintenance, effect.status = .maintenanceConflict) ∧
        site.attributes (.maintenanceZone ⟨ascii "zone-1"⟩) = true ∧
        ∃ node ∈ site.failureDomains.nodes, node.id = ⟨ascii "fd-a"⟩)) = true by decide +kernel)
    .sample
  obtain ⟨refused, attributed, node, listed, -⟩ := of_decide_eq_true test
  obtain ⟨expectation, parts⟩ := CompositionInput.compose_composes composed
  have spoken := CompositionInput.zoned_zoneOn (CompositionInput.zoned_node parts listed)
  obtain ⟨effect, found, conflict, -⟩ := parts.effect spoken
  refine ⟨site, composed, (protected_scopes_are_kept_iff parts.prepared composed spoken
    attributed).mpr (.inr (conflict.mp ?_).2)⟩
  exact refused effect (List.mem_of_find?_eq_some found)

/-- A protected domain, and a zone that names its only member. -/
def CompositionInput.memberZoned : CompositionInput :=
  .zoned none (.sample [] [⟨.rack, ascii "rack-1"⟩])
    [.sample .domainSurvivability (some ⟨ascii "fd-a"⟩) 1]

/-- The zone is applied to the protected rack. -/
theorem zone_over_member_is_applied :
    ∃ zone expectation site, CompositionInput.memberZoned.prepare = .ok expectation ∧
      compose CompositionInput.memberZoned = .composed site ∧
      CompositionInput.memberZoned.zoneOn zone.id = some zone ∧
      site.attributes (.maintenanceZone zone.id) = true ∧
      ¬ site.KeepsScopes CompositionInput.memberZoned zone := by
  obtain ⟨site, composed, test⟩ := CompositionInput.composed_of_sealed
    (show (composeSealed CompositionInput.memberZoned).passes (fun site => decide
      ((∀ effect ∈ site.maintenance, effect.status ≠ .maintenanceConflict) ∧
        site.attributes (.maintenanceZone ⟨ascii "zone-1"⟩) = true ∧
        site.attributes (.obligation ⟨ascii "obligation-1"⟩) = true ∧
        ∃ node ∈ site.failureDomains.nodes, node.id = ⟨ascii "fd-a"⟩ ∧
          node.members = [⟨.rack, ascii "rack-1"⟩])) = true by decide +kernel) .sample
  obtain ⟨permitted, attributed, owed, node, listed, named, members⟩ := of_decide_eq_true test
  obtain ⟨expectation, parts⟩ := CompositionInput.compose_composes composed
  have stands : CompositionInput.memberZoned.Stands node := CompositionInput.zoned_node parts listed
  have spoken := CompositionInput.zoned_zoneOn stands
  have promised := CompositionInput.zoned_inForce stands
  refine ⟨_, expectation, site, parts.prepared, composed, spoken, attributed, fun keeps => ?_⟩
  have within : CompositionInput.memberZoned.Encloses ⟨ascii "fd-a"⟩ ⟨.rack, ascii "rack-1"⟩ := by
    refine ⟨node.id, ?_, named ▸ .refl⟩
    rw [← stands.members, members]
    exact List.mem_singleton_self _
  obtain ⟨effect, found, refused, -⟩ := keeps _ _ _ promised owed rfl
    (.inl (List.mem_singleton_self _)) (.inr ⟨_, rfl, within⟩)
  exact permitted effect (List.mem_of_find?_eq_some found) refused

end SiteFabric
