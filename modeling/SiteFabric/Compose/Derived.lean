import SiteFabric.Compose.Domains
import SiteFabric.Compose.Freshness
import SiteFabric.Compose.Invalidation
import SiteFabric.Compose.Sealed

/-! Invalidation of the derived decisions.
Totals, maintenance effects and verdicts rest on facts about many keys, of which
their sources record a part. Where a domain's records settle no fact a decision
rests on, the decision stands without them. -/

namespace SiteFabric

open Lib
open Std (ExtTreeMap)

/-- The decisions that are derived from many resources at once. -/
def DecisionKind.derived : DecisionKind → Bool
  | .capacityTotal | .capacityAvailable | .maintenanceExclusion | .obligationVerdict => true
  | _ => false

/-- Two sites come to the same on a derived matter. -/
def ComposedSite.DecidesAlike (site site' : ComposedSite) (id : DecisionId) : Prop :=
  match id.kind with
  | .capacityTotal => site'.capacity.total = site.capacity.total
  | .capacityAvailable => site'.capacity.available = site.capacity.available
  | .maintenanceExclusion =>
    (site'.maintenance.find? (·.id = ⟨id.subject.id⟩)).map (fun e => (e.status, e.excluded)) =
      (site.maintenance.find? (·.id = ⟨id.subject.id⟩)).map fun e => (e.status, e.excluded)
  | .obligationVerdict =>
    (site'.obligations.find? (·.id = ⟨id.subject.id⟩)).map (fun v => (v.status, v.observed)) =
      (site.obligations.find? (·.id = ⟨id.subject.id⟩)).map fun v => (v.status, v.observed)
  | _ => True

/-- A fact that a derived decision rests on. -/
inductive Reading where
  /-- A resource puts a value on a channel. -/
  | value (c : CapacityChannel) (key : ResourceKey) (value : CapacityValue)
  /-- A resource that puts a value on a channel is held out. -/
  | heldOut (c : CapacityChannel) (key : ResourceKey)
  /-- A failure domain brings a resource under a zone. -/
  | reached (key : ResourceKey)
  /-- An obligation protects a part of a zone. -/
  | refused (obligation : ProtectedObligation)
  /-- A resource counts towards an obligation. -/
  | counted (key : ResourceKey)
  /-- Something that could count is not known to. -/
  | unclear
deriving DecidableEq

namespace CompositionInput

variable [StdSort] (input : CompositionInput) (expectation : SiteExpectation)

/-- A key is settled on a claim that puts a value on a channel. -/
def Puts (c : CapacityChannel) (key : ResourceKey) (value : CapacityValue) : Prop :=
  input.Settled expectation key ∧ ∃ claim, (input.slotsOn key).offered = some claim ∧
    claim.feeds c = true ∧ claim.on c = value

/-- What a key puts on a channel is held out by a zone in force. -/
def HeldOut (c : CapacityChannel) (key : ResourceKey) : Prop :=
  (∃ value, input.Puts expectation c key value) ∧ input.Covers expectation key

/-- The zone a key is settled on. -/
def SettledZone (id : MaintenanceZoneId) (zone : MaintenanceZone) : Prop :=
  input.Settled expectation (.maintenanceZone id) ∧
    ((input.claimsOn (.maintenanceZone id)).filterMap Claim.zone?).getLast? = some zone

/-- The obligation a key is settled on. -/
def SettledObligation (id : ObligationId) (obligation : ProtectedObligation) : Prop :=
  input.Settled expectation (.obligation id) ∧ input.inForce id = some obligation

def members : DomainMembers :=
  domainMembers (admitMembers input expectation) (input.resources expectation)

/-- A key is under a zone by its failure domains, and the zone is one that takes
capacity out. -/
def Reached (zone : MaintenanceZone) (key : ResourceKey) : Prop :=
  (zone.state = .active ∨ zone.state = .unknown) ∧ key ∉ zone.resources ∧
    ∃ domain ∈ zone.domains, key ∈ ((input.members expectation)[domain]?).getD [] ∨
      ∃ node ∈ (input.forest expectation).nodes, domain ∈ node.ancestors ∧ key ∈ node.members

/-- A settled obligation protects a part of a zone. -/
def Refused (zone : MaintenanceZone) (obligation : ProtectedObligation) : Prop :=
  (∃ id, input.SettledObligation expectation id obligation) ∧
    obligationOverlapsZone (zoneScopes (input.resources expectation) (input.members expectation)
      (input.forest expectation)) (input.forest expectation) obligation zone = true

/-- A failure domain is known. -/
def Planted (id : FailureDomainId) : Prop :=
  ∃ node ∈ (input.forest expectation).nodes, node.id = id

/-- A failure domain is below another. -/
def Below (id scope : FailureDomainId) : Prop :=
  ∃ node ∈ (input.forest expectation).nodes, node.id = id ∧ scope ∈ node.ancestors

/-- A failure domain holds a resource that somebody claims. -/
def Populated (id : FailureDomainId) : Prop :=
  ∃ node ∈ (input.forest expectation).nodes, node.id = id ∧
    ∃ key ∈ node.members, input.claimsOn key ≠ []

/-- An up-count is over a key. -/
def Within (obligation : ProtectedObligation) (wanted : ResourceKind) (key : ResourceKey) : Prop :=
  key.kind = wanted ∧ ∀ resource, obligation.scopeResource = some resource → resource = key

/-- A key counts towards an obligation: as a resource that is up, or as a populated
failure domain. -/
def CountsFor (obligation : ProtectedObligation) (key : ResourceKey) : Prop :=
  match obligation.kind.wanted, obligation.kind with
  | some wanted, _ => Within obligation wanted key ∧ input.Settled expectation key ∧
      (input.slotsOn key).stateOf wanted = some .up
  | none, .minDistinctFailureDomains => ∃ id, key = .failureDomain id ∧
      input.Populated expectation id ∧ ∀ scope, obligation.scopeDomain = some scope →
        input.Planted expectation scope ∧ (id = scope ∨ input.Below expectation id scope)
  | none, .domainSurvivability => ∃ id, key = .failureDomain id ∧
      input.Populated expectation id ∧ ∃ scope, obligation.scopeDomain = some scope ∧
        input.Planted expectation scope ∧ id ≠ scope ∧ input.Below expectation id scope
  | _, _ => False

/-- Something that could count towards an obligation is not known to. -/
def UnclearFor (obligation : ProtectedObligation) : Prop :=
  match obligation.kind.wanted, obligation.kind with
  | some wanted, _ => ∃ key, Within obligation wanted key ∧ input.claimsOn key ≠ [] ∧
      (¬ input.Settled expectation key ∨ (input.slotsOn key).stateOf wanted = some .unknown)
  | none, .minDistinctFailureDomains =>
    (∃ scope, obligation.scopeDomain = some scope ∧ ¬ input.Planted expectation scope) ∨
      (input.forest expectation).cyclic ≠ [] ∨ (input.forest expectation).dangling ≠ []
  | none, .domainSurvivability => ∀ scope, obligation.scopeDomain = some scope →
      ¬ input.Planted expectation scope ∨ scope ∈ (input.forest expectation).cyclic
  | _, _ => False

/-- The facts a decision rests on. -/
def Rests (id : DecisionId) (reading : Reading) : Prop :=
  match id.kind, reading with
  | .capacityTotal, .value c key value => input.Puts expectation c key value
  | .capacityAvailable, .value c key value => input.Puts expectation c key value
  | .capacityAvailable, .heldOut c key => input.HeldOut expectation c key
  | .maintenanceExclusion, .reached key =>
    ∃ zone, input.SettledZone expectation ⟨id.subject.id⟩ zone ∧ input.Reached expectation zone key
  | .maintenanceExclusion, .refused obligation =>
    ∃ zone, input.SettledZone expectation ⟨id.subject.id⟩ zone ∧
      input.Refused expectation zone obligation
  | .obligationVerdict, .value c key value =>
    ∃ obligation, input.SettledObligation expectation ⟨id.subject.id⟩ obligation ∧
      obligation.kind.channel = c ∧ input.Puts expectation c key value
  | .obligationVerdict, .heldOut c key =>
    ∃ obligation, input.SettledObligation expectation ⟨id.subject.id⟩ obligation ∧
      obligation.kind.channel = c ∧ input.HeldOut expectation c key
  | .obligationVerdict, .counted key =>
    ∃ obligation, input.SettledObligation expectation ⟨id.subject.id⟩ obligation ∧
      input.CountsFor expectation obligation key
  | .obligationVerdict, .unclear =>
    ∃ obligation, input.SettledObligation expectation ⟨id.subject.id⟩ obligation ∧
      input.UnclearFor expectation obligation
  | _, _ => False

end CompositionInput

section Ledger

theorem subtractCapacity_channel {minuend subtrahend available : CapacityVector}
    (subtracted : subtractCapacity minuend subtrahend = .ok available) (c : CapacityChannel) :
    subtractChannel (minuend.channel c) (subtrahend.channel c) = .ok (available.channel c) := by
  obtain ⟨ingress, first, subtracted⟩ := bind_ok subtracted
  obtain ⟨egress, second, subtracted⟩ := bind_ok subtracted
  obtain ⟨internal, third, subtracted⟩ := bind_ok subtracted
  cases subtracted
  cases c
  · rfl
  · exact first
  · exact second
  · exact third

/-- What is held out of a total, zero when nothing is. -/
def heldValue (total held : Tally) : CapacityValue :=
  if !held.seen && total.known then .ofBps 0 else held.value

theorem CapacityVector.ext_channels {v w : CapacityVector}
    (each : ∀ c, v.channel c = w.channel c) : v = w := by
  obtain ⟨ingress, egress, internal⟩ := v
  obtain rfl : ingress = w.ingress := each .ingress
  obtain rfl : egress = w.egress := each .egress
  obtain rfl : internal = w.internal := each .internal
  rfl

theorem composeLedger_total (excluded : List ResourceKey) (builds : List LedgerBuild)
    (c : CapacityChannel) :
    (composeLedger excluded builds).total.channel c =
      (Tally.tallyOf (channelValues c (builds.filter (·.counted)))).value := by
  rw [← aggregate_channel, ← post_total excluded, ← CapacityAggregate.total_channel]
  rfl

/-- What is available on a channel is told by the values the counted and the held out
entries put there. -/
theorem composeLedger_available_congr {excluded excluded' : List ResourceKey}
    {builds builds' : List LedgerBuild} {c : CapacityChannel}
    (fed : channelValues c (builds'.filter (·.counted)) = channelValues c (builds.filter (·.counted)))
    (held : channelValues c ((builds'.filter (·.counted)).filter fun b => excluded'.contains b.owner) =
      channelValues c ((builds.filter (·.counted)).filter fun b => excluded.contains b.owner)) :
    (composeLedger excluded' builds').available.channel c =
      (composeLedger excluded builds).available.channel c := by
  have spent : ∀ (excluded : List ResourceKey) (builds : List LedgerBuild),
      (composeLedger excluded builds).excludedByMaintenance.channel c =
        heldValue (Tally.tallyOf (channelValues c (builds.filter (·.counted))))
          (Tally.tallyOf (channelValues c ((builds.filter (·.counted)).filter fun b =>
            excluded.contains b.owner))) := by
    intro excluded builds
    have parts : builds.filter (fun b => b.counted && excluded.contains b.owner) =
        (builds.filter (·.counted)).filter fun b => excluded.contains b.owner := by
      rw [List.filter_filter]
      exact List.filter_congr fun b _ => Bool.and_comm ..
    rw [← aggregate_channel, ← aggregate_channel, ← post_total excluded, ← parts,
      ← post_excluded excluded]
    cases c <;> rfl
  have subtracts := subtractCapacity_channel (composeLedger_balances excluded builds).1 c
  have subtracts' := subtractCapacity_channel (composeLedger_balances excluded' builds').1 c
  rw [composeLedger_total, spent, fed, held, ← spent, ← composeLedger_total excluded,
    subtracts] at subtracts'
  exact (Except.ok.inj subtracts').symm

end Ledger

namespace CompositionInput

variable [StdSort] {input input' : CompositionInput} {expectation : SiteExpectation}
  {site site' : ComposedSite}

/-- What a record puts on a channel is what its key is settled on. -/
theorem puts_iff (few : input.publications.length ≤ Limits.maxMemberDomains) {c : CapacityChannel}
    {key : ResourceKey} {value : CapacityValue} :
    ((input.resources expectation)[key]?).bind (·.puts c) = some value ↔
      input.Puts expectation c key value := by
  constructor
  · intro put
    obtain ⟨record, found, put⟩ := Option.bind_eq_some_iff.mp put
    unfold ResourceRecord.puts at put
    split at put
    · next ok =>
      obtain ⟨claim, offered, same⟩ := Option.map_eq_some_iff.mp put
      obtain ⟨offered, feeds⟩ := Option.filter_eq_some_iff.mp offered
      rw [slotsOn_offered found] at offered
      exact ⟨(resources_ok_iff_settled few found).mp ok, claim, offered, feeds, same⟩
    · cases put
  · rintro ⟨settled, claim, offered, feeds, same⟩
    obtain ⟨record, found⟩ := record_of_claimed expectation settled.named
    rw [← slotsOn_offered found] at offered
    rw [found, Option.bind_some, ResourceRecord.puts,
      if_pos ((resources_ok_iff_settled few found).mpr settled), offered, Option.filter_some,
      if_pos feeds, Option.map_some, same]

/-- What a record puts on a channel is held out where its key is. -/
theorem held_iff (few : input.publications.length ≤ Limits.maxMemberDomains) {c : CapacityChannel} {key : ResourceKey}
    {value : CapacityValue} :
    (((input.resources expectation)[key]?).bind fun record =>
      if (excludedKeys (input.effects expectation)).contains key then record.puts c else none) =
        some value ↔ input.HeldOut expectation c key ∧ input.Puts expectation c key value := by
  have covers := input.excludedKeys_covers expectation key
  by_cases out : (excludedKeys (input.effects expectation)).contains key = true
  · simp only [out, if_true, puts_iff few]
    exact ⟨fun put => ⟨⟨⟨value, put⟩, covers.mp out⟩, put⟩, fun held => held.2⟩
  · simp only [out, Bool.false_eq_true, if_false, Option.bind_fun_none, reduceCtorEq, false_iff]
    exact fun held => out (covers.mpr held.1.2)

section Channels

variable (parts : input.Composes expectation site) (parts' : input'.Composes expectation site')
  {c : CapacityChannel}
  (puts : ∀ key value, input'.Puts expectation c key value ↔ input.Puts expectation c key value)

include parts parts' puts

theorem fed_alike :
    channelValues c ((input'.builds expectation).filter (·.counted)) =
      channelValues c ((input.builds expectation).filter (·.counted)) := by
  have few := (prepare_ok parts.prepared).1
  have few' := (prepare_ok parts'.prepared).1
  have owned := fun all : Resources => channelValues_owned all c fun _ => true
  simp only [List.filter_true, if_true] at owned
  rw [builds, builds, owned, owned]
  refine filterMap_toList_congr (f := fun _ (record : ResourceRecord) => record.puts c)
    (g := fun _ (record : ResourceRecord) => record.puts c) fun key => Option.ext fun value => ?_
  rw [puts_iff few', puts_iff few, puts]

theorem total_alike : site'.capacity.total.channel c = site.capacity.total.channel c := by
  rw [parts.capacity, parts'.capacity, ledger, ledger, composeLedger_total, composeLedger_total,
    fed_alike parts parts' puts]

theorem available_alike
    (held : ∀ key, input'.HeldOut expectation c key ↔ input.HeldOut expectation c key) :
    site'.capacity.available.channel c = site.capacity.available.channel c := by
  rw [parts.capacity, parts'.capacity]
  refine composeLedger_available_congr (fed_alike parts parts' puts) ?_
  rw [builds, builds, channelValues_owned _ _ fun key =>
      (excludedKeys (input'.effects expectation)).contains key,
    channelValues_owned _ _ fun key => (excludedKeys (input.effects expectation)).contains key]
  refine filterMap_toList_congr
    (f := fun key (record : ResourceRecord) =>
      if (excludedKeys (input.effects expectation)).contains key then record.puts c else none)
    (g := fun key (record : ResourceRecord) =>
      if (excludedKeys (input'.effects expectation)).contains key then record.puts c else none)
    fun key => Option.ext fun value => ?_
  rw [held_iff (prepare_ok parts.prepared).1, held_iff (prepare_ok parts'.prepared).1, held, puts]

end Channels

section Zones

theorem mem_attributedObligations (few : input.publications.length ≤ Limits.maxMemberDomains)
    {obligation : ProtectedObligation} :
    obligation ∈ attributedObligations (input.resources expectation) ↔
      ∃ id, input.SettledObligation expectation id obligation := by
  simp only [attributedObligations, List.mem_filterMap, Prod.exists, mem_toList_iff]
  constructor
  · rintro ⟨key, record, found, kept⟩
    split at kept
    · next own =>
      rw [Bool.and_eq_true, decide_eq_true_eq, decide_eq_true_eq] at own
      obtain ⟨rfl, inForce⟩ := inForce_of_slot found kept
      exact ⟨_, (resources_ok_iff_settled few found).mp own.2, inForce⟩
    · cases kept
  · rintro ⟨id, settled, inForce⟩
    obtain ⟨record, found⟩ := record_of_claimed expectation settled.named
    refine ⟨_, record, found, ?_⟩
    rw [decide_eq_true ((resources_ok_iff_settled few found).mpr settled)]
    exact (resources_slot_eq ResourceRecord.obligationSlot found).trans inForce

/-- What there is to a maintenance effect. -/
theorem effectOf_outcome (nowMs : Int64) (resources : Resources) (scopes : ZoneScopes)
    (forest : FailureDomainForest) (record : ResourceRecord) (zone : MaintenanceZone) :
    let effect := effectOf nowMs resources scopes forest (record, zone)
    effect.id = zone.id ∧ (effect.status, effect.excluded) =
      if record.status ≠ .ok then (record.status, [])
      else if refusals resources scopes forest zone ≠ [] then (.maintenanceConflict, [])
      else if zone.state = .unknown then (.maintenanceUnknown, (scopes[zone.id]?).getD [])
      else if zone.state = .active then (.ok, (scopes[zone.id]?).getD [])
      else (.ok, []) := by
  unfold effectOf
  dsimp only
  by_cases ok : record.status = .ok
  · by_cases none : refusals resources scopes forest zone = []
    · by_cases unknown : zone.state = .unknown
      · simp [ok, none, unknown]
      · by_cases active : zone.state = .active
        · cases zone.windowContains nowMs <;>
            simp [ok, none, active, MaintenanceState.excludesCapacity]
        · simp [ok, none, unknown, active, MaintenanceState.excludesCapacity]
    · simp [ok, none]
  · simp [ok]

variable (parts : input.Composes expectation site) (parts' : input'.Composes expectation site')

include parts parts' in
/-- A zone has the same effect where nothing it rests on differs. -/
theorem effect_alike {record : ResourceRecord} {zone : MaintenanceZone}
    (listed : (record, zone) ∈ zoneRecords (input.resources expectation))
    (listed' : (record, zone) ∈ zoneRecords (input'.resources expectation))
    (reached : record.status = .ok →
      ∀ key, input'.Reached expectation zone key ↔ input.Reached expectation zone key)
    (refused : record.status = .ok →
      ∀ o, input'.Refused expectation zone o ↔ input.Refused expectation zone o) :
    ∃ effect ∈ site.maintenance, ∃ effect' ∈ site'.maintenance, effect.id = zone.id ∧
      effect'.id = zone.id ∧
      (effect'.status, effect'.excluded) = (effect.status, effect.excluded) := by
  have refuses : ∀ {input : CompositionInput} {site : ComposedSite},
      input.Composes expectation site →
      (refusals (input.resources expectation) (zoneScopes (input.resources expectation)
        (input.members expectation) (input.forest expectation)) (input.forest expectation) zone = [] ↔
        ∀ o, ¬ input.Refused expectation zone o) := by
    intro input site parts
    rw [refusals, List.map_eq_nil_iff, List.filter_eq_nil_iff]
    simp only [mem_attributedObligations (prepare_ok parts.prepared).1, Refused, not_and]
  have placed : ∀ {input : CompositionInput} {site : ComposedSite},
      input.Composes expectation site →
      (record, zone) ∈ zoneRecords (input.resources expectation) →
      effectOf input.nowMs (input.resources expectation) (zoneScopes (input.resources expectation)
        (input.members expectation) (input.forest expectation)) (input.forest expectation)
          (record, zone) ∈ site.maintenance := by
    intro input site parts listed
    rw [parts.maintenance]
    exact mem_sort.mpr (List.mem_map.mpr ⟨_, listed, rfl⟩)
  refine ⟨_, placed parts listed, _, placed parts' listed', (effectOf_outcome ..).1,
    (effectOf_outcome ..).1, ?_⟩
  rw [(effectOf_outcome ..).2, (effectOf_outcome ..).2]
  by_cases ok : record.status = .ok
  · have none : refusals (input'.resources expectation) (zoneScopes (input'.resources expectation)
        (input'.members expectation) (input'.forest expectation)) (input'.forest expectation)
          zone = [] ↔
        refusals (input.resources expectation) (zoneScopes (input.resources expectation)
          (input.members expectation) (input.forest expectation)) (input.forest expectation)
            zone = [] := by
      rw [refuses parts', refuses parts]
      exact forall_congr' fun o => not_congr (refused ok o)
    have scope : zone.state = .active ∨ zone.state = .unknown →
        (zoneScopes (input'.resources expectation) (input'.members expectation)
          (input'.forest expectation))[zone.id]? =
        (zoneScopes (input.resources expectation) (input.members expectation)
          (input.forest expectation))[zone.id]? := by
      intro state
      rw [zoneScopes_lookup _ _ _ _ listed ok, zoneScopes_lookup _ _ _ _ listed' ok]
      refine congrArg some (sortUnique_congr fun key => ?_)
      have same := reached ok key
      simp only [List.mem_append, List.mem_flatMap, List.mem_filter, List.contains_iff_mem, and_assoc]
      by_cases own : key ∈ zone.resources
      · simp only [own, true_or]
      · simpa only [Reached, state, own, not_false_eq_true, true_and, false_or] using same
    rw [if_neg (not_not_intro ok), if_neg (not_not_intro ok)]
    refine if_congr (not_congr none) rfl ?_
    by_cases unknown : zone.state = .unknown
    · rw [if_pos unknown, if_pos unknown, scope (.inr unknown)]
    · rw [if_neg unknown, if_neg unknown]
      by_cases active : zone.state = .active
      · rw [if_pos active, if_pos active, scope (.inl active)]
      · rw [if_neg active, if_neg active]
  · simp [ok]

include parts in
theorem find_maintenance {effect : MaintenanceEffect} (listed : effect ∈ site.maintenance) :
    site.maintenance.find? (·.id = effect.id) = some effect := by
  refine find?_of_only listed (decide_eq_true rfl) fun other among same => ?_
  rw [parts.maintenance, effects, composeEffects, effectsOf, mem_sort, List.mem_map] at listed among
  obtain ⟨⟨record, zone⟩, filed, rfl⟩ := listed
  obtain ⟨⟨record', zone'⟩, filed', rfl⟩ := among
  obtain ⟨rfl, rfl⟩ := input.zoneRecords_only expectation filed filed' (by
    rw [← (effectOf_outcome input.nowMs ..).1, of_decide_eq_true same, (effectOf_outcome ..).1])
  rfl

/-- A settled record is that of the zone its key is settled on. -/
theorem settledZone_iff (few : input.publications.length ≤ Limits.maxMemberDomains)
    {record : ResourceRecord} {zone : MaintenanceZone}
    (listed : (record, zone) ∈ zoneRecords (input.resources expectation)) (ok : record.status = .ok)
    (zone' : MaintenanceZone) :
    input.SettledZone expectation zone.id zone' ↔ zone' = zone := by
  obtain ⟨key, found, _, held⟩ := mem_zoneRecords.mp listed
  obtain rfl := input.zone_key expectation found held
  rw [SettledZone, ← resources_slot_eq ResourceRecord.zoneSlot found, held,
    ← resources_ok_iff_settled few found]
  exact ⟨fun settled => (Option.some.inj settled.2).symm, fun same => ⟨ok, congrArg some same.symm⟩⟩

include parts parts' in
theorem maintenance_alike {effect : MaintenanceEffect} (listed : effect ∈ site.maintenance)
    (same : (input'.resources expectation)[ResourceKey.maintenanceZone effect.id]? =
      (input.resources expectation)[ResourceKey.maintenanceZone effect.id]?)
    (spared : ∀ reading,
      input'.Rests expectation ⟨.maintenanceExclusion, .maintenanceZone effect.id⟩ reading ↔
        input.Rests expectation ⟨.maintenanceExclusion, .maintenanceZone effect.id⟩ reading) :
    (site'.maintenance.find? (·.id = effect.id)).map (fun e => (e.status, e.excluded)) =
      (site.maintenance.find? (·.id = effect.id)).map fun e => (e.status, e.excluded) := by
  have few := (prepare_ok parts.prepared).1
  have few' := (prepare_ok parts'.prepared).1
  have among := listed
  rw [parts.maintenance, effects, composeEffects, effectsOf, mem_sort, List.mem_map] at among
  obtain ⟨⟨record, zone⟩, filed, made⟩ := among
  have named : zone.id = effect.id := by rw [← made, (effectOf_outcome ..).1]
  rw [← named] at same spared ⊢
  have filed' : (record, zone) ∈ zoneRecords (input'.resources expectation) := by
    obtain ⟨key, found, kind, held⟩ := mem_zoneRecords.mp filed
    obtain rfl := input.zone_key expectation found held
    exact mem_zoneRecords.mpr ⟨_, same.trans found, kind, held⟩
  have rests : record.status = .ok → ∀ {p : MaintenanceZone → Prop} {q : MaintenanceZone → Prop},
      ((∃ z, input'.SettledZone expectation zone.id z ∧ p z) ↔
        ∃ z, input.SettledZone expectation zone.id z ∧ q z) → (p zone ↔ q zone) := by
    intro ok p q each
    simpa only [settledZone_iff few filed ok, settledZone_iff few' filed' ok,
      exists_eq_left] using each
  obtain ⟨effect, listed, effect', listed', id, id', alike⟩ := effect_alike parts parts' filed filed'
    (fun ok key => rests ok (spared (.reached key))) fun ok o => rests ok (spared (.refused o))
  rw [← id] at id' ⊢
  rw [find_maintenance parts listed, ← id', find_maintenance parts' listed', Option.map_some,
    Option.map_some, alike]

end Zones

section Counts

/-- A record that an up-count counts. -/
def showsUp (wanted : ResourceKind) (scope : Option ResourceKey)
    (entry : ResourceKey × ResourceRecord) : Bool :=
  entry.1.kind = wanted && !scope.any (· ≠ entry.1) && entry.2.status = .ok &&
    entry.2.stateOf wanted = some .up

/-- A record that leaves an up-count unclear. -/
def blurs (wanted : ResourceKind) (scope : Option ResourceKey)
    (entry : ResourceKey × ResourceRecord) : Bool :=
  entry.1.kind = wanted && !scope.any (· ≠ entry.1) &&
    (entry.2.status ≠ .ok || entry.2.stateOf wanted = some .unknown)

omit [StdSort] in
theorem countUpStep_adds {wanted : ResourceKind} {scope : Option ResourceKey}
    {seen seen' : Observation} {entry : ResourceKey × ResourceRecord}
    (stepped : countUpStep wanted scope seen entry = some seen') :
    seen'.observed = seen.observed + (if showsUp wanted scope entry then 1 else 0) ∧
      seen'.anyUnknown = (seen.anyUnknown || blurs wanted scope entry) := by
  obtain ⟨key, record⟩ := entry
  unfold countUpStep at stepped
  unfold showsUp blurs
  dsimp only at stepped ⊢
  by_cases kind : key.kind = wanted
  · rw [if_neg (not_not_intro kind)] at stepped
    cases outside : scope.any (· ≠ key) with
    | true =>
      rw [if_pos outside] at stepped
      cases stepped
      simp
    | false =>
      rw [if_neg (by rw [outside]; exact Bool.false_ne_true)] at stepped
      by_cases ok : record.status = .ok
      · rw [if_neg (not_not_intro ok)] at stepped
        obtain ⟨state, read, rfl⟩ := Option.map_eq_some_iff.mp stepped
        cases state <;> simp [kind, ok, read]
      · rw [if_pos ok] at stepped
        cases stepped
        simp [kind, ok]
  · rw [if_pos kind] at stepped
    cases stepped
    simp [kind]

omit [StdSort] in
theorem countUp_adds {wanted : ResourceKind} {scope : Option ResourceKey} {resources : Resources}
    {seen : Observation} (counted : countUp resources wanted scope = some seen) :
    seen.observed = (resources.toList.filter (showsUp wanted scope)).length ∧
      seen.anyUnknown = resources.toList.any (blurs wanted scope) := by
  have passes : ∀ (entries : List (ResourceKey × ResourceRecord)) (s : Observation),
      entries.foldlM (countUpStep wanted scope) s = some seen →
      seen.observed = s.observed + (entries.filter (showsUp wanted scope)).length ∧
        seen.anyUnknown = (s.anyUnknown || entries.any (blurs wanted scope)) := by
    intro entries
    induction entries with
    | nil =>
      intro s done
      cases done
      simp
    | cons entry entries ih =>
      intro s done
      rw [List.foldlM_cons] at done
      obtain ⟨s', stepped, rest⟩ := Option.bind_eq_some_iff.mp done
      obtain ⟨observed, unknown⟩ := countUpStep_adds stepped
      obtain ⟨observed', unknown'⟩ := ih s' rest
      rw [observed', unknown', observed, unknown, List.filter_cons, List.any_cons, Bool.or_assoc]
      refine ⟨?_, rfl⟩
      split
      · rw [List.length_cons]
        omega
      · rfl
  obtain ⟨observed, unknown⟩ := passes resources.toList {} counted
  exact ⟨observed.trans (Nat.zero_add _), unknown.trans (Bool.false_or _)⟩

theorem planted_iff {input : CompositionInput} {expectation : SiteExpectation} {id : FailureDomainId} :
    input.Planted expectation id ↔ ((input.forest expectation).find id).isSome = true := by
  rw [FailureDomainForest.find, List.find?_isSome]
  simp only [Planted, decide_eq_true_eq]

theorem node_of_id {node node' : FailureDomainNode}
    (listed : node ∈ (input.forest expectation).nodes)
    (listed' : node' ∈ (input.forest expectation).nodes) (same : node.id = node'.id) : node = node' :=
  List.inj_on_of_nodup_map (forest_unique input expectation) listed listed' same

theorem holds_iff (node : FailureDomainNode) :
    node.members.any ((input.resources expectation).contains ·) = true ↔
      ∃ key ∈ node.members, input.claimsOn key ≠ [] := by
  rw [List.any_eq_true]
  refine exists_congr fun key => and_congr_right fun _ => ?_
  rw [← ExtTreeMap.isSome_getElem?_eq_contains, resources_isSome_iff]

theorem mem_populated {id : FailureDomainId} :
    id ∈ populatedDomains (input.resources expectation) (input.forest expectation) ↔
      input.Populated expectation id := by
  simp only [populatedDomains, List.mem_dedup, List.mem_map, List.mem_filter, holds_iff, Populated]
  exact ⟨fun ⟨node, ⟨listed, held⟩, same⟩ => ⟨node, listed, same, held⟩,
    fun ⟨node, listed, same, held⟩ => ⟨node, ⟨listed, held⟩, same⟩⟩

theorem below_iff {node : FailureDomainNode} (listed : node ∈ (input.forest expectation).nodes)
    {scope : FailureDomainId} :
    input.Below expectation node.id scope ↔ scope ∈ node.ancestors := by
  constructor
  · rintro ⟨other, among, same, under⟩
    rw [← node_of_id among listed same]
    exact under
  · exact fun under => ⟨node, listed, rfl, under⟩

variable (input expectation) in
/-- A count over some nodes of the forest is the number of their keys. -/
theorem nodes_counted (p : FailureDomainNode → Bool) :
    let keys := ((input.forest expectation).nodes.filter p).map fun node =>
      ResourceKey.failureDomain node.id
    keys.Nodup ∧ keys.length = ((input.forest expectation).nodes.filter p).length ∧
      ∀ key, key ∈ keys ↔ ∃ node ∈ (input.forest expectation).nodes, p node = true ∧
        ResourceKey.failureDomain node.id = key := by
  refine ⟨?_, List.length_map .., fun key => ?_⟩
  · have ids := (forest_unique input expectation).sublist (List.filter_sublist (p := p) |>.map _)
    have injective : Function.Injective ResourceKey.failureDomain := by
      rintro ⟨id⟩ ⟨id'⟩ same
      cases same
      rfl
    have keys := ids.map injective
    rw [List.map_map] at keys
    exact keys
  · simp only [List.mem_map, List.mem_filter, and_assoc]

theorem slotsOn_state {key : ResourceKey} {record : ResourceRecord} (wanted : ResourceKind)
    (found : (input.resources expectation)[key]? = some record) :
    record.stateOf wanted = (input.slotsOn key).stateOf wanted := by
  rw [slotsOn, ResourceRecord.stateOf, ResourceRecord.stateOf,
    slot_claims ResourceRecord.linkSlot found, slot_claims ResourceRecord.gatewaySlot found]

/-- The keys that count towards an obligation, listed once each, and whether something
that could count is not known to. -/
structure Counts (input : CompositionInput) (expectation : SiteExpectation)
    (o : ProtectedObligation) (seen : Observation) (keys : List ResourceKey) : Prop where
  once : keys.Nodup
  observed : keys.length = seen.observed
  counted : ∀ key, key ∈ keys ↔ input.CountsFor expectation o key
  unclear : seen.anyUnknown = true ↔ input.UnclearFor expectation o

theorem countUp_counts (few : input.publications.length ≤ Limits.maxMemberDomains)
    {o : ProtectedObligation} {wanted : ResourceKind} (wants : o.kind.wanted = some wanted)
    {seen : Observation}
    (counted : countUp (input.resources expectation) wanted o.scopeResource = some seen) :
    ∃ keys, Counts input expectation o seen keys := by
  obtain ⟨observed, unknown⟩ := countUp_adds counted
  have within : ∀ key : ResourceKey, (key.kind = wanted ∧ o.scopeResource.any (· ≠ key) = false) ↔
      Within o wanted key := by
    intro key
    refine and_congr_right fun _ => ?_
    cases o.scopeResource <;> simp
  refine ⟨((input.resources expectation).toList.filter (showsUp wanted o.scopeResource)).map
    Prod.fst, ?_, by rw [List.length_map, observed], fun key => ?_, ?_⟩
  · exact (List.pairwise_map.mpr (keys_pairwise _)).sublist (List.filter_sublist.map _)
  · simp only [List.mem_map, List.mem_filter, showsUp, Bool.and_eq_true, decide_eq_true_eq,
      Bool.not_eq_true', Prod.exists, exists_and_right, exists_eq_right, mem_toList_iff, within,
      CountsFor, wants]
    constructor
    · rintro ⟨record, found, ⟨inScope, ok⟩, up⟩
      exact ⟨inScope, (resources_ok_iff_settled few found).mp ok, slotsOn_state wanted found ▸ up⟩
    · rintro ⟨inScope, settled, up⟩
      obtain ⟨record, found⟩ := record_of_claimed expectation settled.named
      exact ⟨record, found, ⟨inScope, (resources_ok_iff_settled few found).mpr settled⟩,
        (slotsOn_state wanted found).trans up⟩
  · simp only [unknown, List.any_eq_true, blurs, Bool.and_eq_true, decide_eq_true_eq,
      Bool.not_eq_true', Bool.or_eq_true, Prod.exists, mem_toList_iff, within, UnclearFor, wants]
    refine exists_congr fun key => ?_
    constructor
    · rintro ⟨record, found, inScope, unsure⟩
      refine ⟨inScope, (resources_isSome_iff key).mp (Option.isSome_of_mem found),
        unsure.imp (mt (resources_ok_iff_settled few found).mpr) fun state => ?_⟩
      exact (slotsOn_state wanted found).symm.trans state
    · rintro ⟨inScope, claimed, unsure⟩
      obtain ⟨record, found⟩ := record_of_claimed expectation claimed
      exact ⟨record, found, inScope, unsure.imp (mt (resources_ok_iff_settled few found).mp)
        fun state => (slotsOn_state wanted found).trans state⟩

omit [StdSort] in
theorem find_mem {forest : FailureDomainForest} {id : FailureDomainId} {node : FailureDomainNode}
    (found : forest.find id = some node) : node ∈ forest.nodes ∧ node.id = id :=
  ⟨List.mem_of_find?_eq_some found, of_decide_eq_true (List.find?_some found :)⟩

theorem countDomains_counts {o : ProtectedObligation}
    (kind : o.kind = .minDistinctFailureDomains) :
    ∃ keys, Counts input expectation o
      (countDomains (input.resources expectation) (input.forest expectation) o.scopeDomain) keys := by
  have tangled : ∀ seen : Observation,
      (if !(input.forest expectation).cyclic.isEmpty || !(input.forest expectation).dangling.isEmpty
        then { seen with anyUnknown := true } else seen).observed = seen.observed ∧
      ((if !(input.forest expectation).cyclic.isEmpty || !(input.forest expectation).dangling.isEmpty
        then { seen with anyUnknown := true } else seen).anyUnknown = true ↔
          seen.anyUnknown = true ∨ (input.forest expectation).cyclic ≠ [] ∨
            (input.forest expectation).dangling ≠ []) := by
    intro seen
    cases (input.forest expectation).cyclic <;> cases (input.forest expectation).dangling <;> simp
  unfold countDomains
  dsimp only
  cases narrowed : o.scopeDomain with
  | none =>
    obtain ⟨observed, unknown⟩ := tangled
      { observed := (populatedDomains (input.resources expectation)
          (input.forest expectation)).length }
    obtain ⟨once, length, listed⟩ := nodes_counted input expectation
      fun node => node.members.any ((input.resources expectation).contains ·)
    refine ⟨_, once, ?_, fun key => ?_, ?_⟩
    · rw [length, observed, populatedDomains, List.Nodup.dedup, List.length_map]
      exact (forest_unique input expectation).sublist (List.filter_sublist.map _)
    · rw [listed]
      simp only [CountsFor, kind, ObligationKind.wanted, narrowed, reduceCtorEq, false_implies, implies_true, and_true,
        holds_iff, Populated]
      constructor
      · rintro ⟨node, among, held, rfl⟩
        exact ⟨_, rfl, node, among, rfl, held⟩
      · rintro ⟨_, rfl, node, among, rfl, held⟩
        exact ⟨node, among, held, rfl⟩
    · rw [unknown]
      simp only [UnclearFor, kind, ObligationKind.wanted, narrowed, reduceCtorEq, false_and, exists_false,
        Bool.false_eq_true]
  | some d =>
    dsimp only
    cases found : (input.forest expectation).find d with
    | none =>
      have missing : ¬ input.Planted expectation d := by
        rw [planted_iff, found]
        exact Bool.false_ne_true
      obtain ⟨observed, unknown⟩ := tangled { observed := 0, anyUnknown := true }
      refine ⟨[], List.nodup_nil, observed.symm, fun key => ?_, ?_⟩
      · simp [CountsFor, kind, ObligationKind.wanted, narrowed, missing]
      · rw [unknown]
        simp [UnclearFor, kind, ObligationKind.wanted, narrowed, missing]
    | some scope =>
      have planted : input.Planted expectation d := by
        rw [planted_iff, found]
        rfl
      obtain ⟨_, rfl⟩ := find_mem found
      obtain ⟨observed, unknown⟩ := tangled
        { observed := ((input.forest expectation).nodes.filter fun node =>
            (node.id = scope.id || node.ancestors.contains scope.id) &&
              (populatedDomains (input.resources expectation)
                (input.forest expectation)).contains node.id).length }
      obtain ⟨once, length, listed⟩ := nodes_counted input expectation
        fun node => (node.id = scope.id || node.ancestors.contains scope.id) &&
          (populatedDomains (input.resources expectation)
            (input.forest expectation)).contains node.id
      refine ⟨_, once, by rw [length, observed], fun key => ?_, ?_⟩
      · rw [listed]
        simp only [CountsFor, kind, ObligationKind.wanted, narrowed, Option.some.injEq, forall_eq', planted, true_and,
          Bool.and_eq_true, Bool.or_eq_true, decide_eq_true_eq, List.contains_iff_mem, mem_populated]
        constructor
        · rintro ⟨node, among, ⟨place, held⟩, rfl⟩
          exact ⟨_, rfl, held, place.imp_right (below_iff among).mpr⟩
        · rintro ⟨_, rfl, ⟨node, among, rfl, held⟩, place⟩
          exact ⟨node, among, ⟨place.imp_right (below_iff among).mp, node, among, rfl, held⟩, rfl⟩
      · rw [unknown]
        simp [UnclearFor, kind, ObligationKind.wanted, narrowed, planted]

theorem countSurvivors_counts {o : ProtectedObligation} (kind : o.kind = .domainSurvivability) :
    ∃ keys, Counts input expectation o
      (countSurvivors (input.resources expectation) (input.forest expectation) o.scopeDomain)
      keys := by
  unfold countSurvivors
  cases found : o.scopeDomain.bind (input.forest expectation).find with
  | none =>
    have missing : ∀ scope, o.scopeDomain = some scope → ¬ input.Planted expectation scope := by
      intro scope narrowed
      rw [narrowed, Option.bind_some] at found
      rw [planted_iff, found]
      exact Bool.false_ne_true
    refine ⟨[], List.nodup_nil, rfl, fun key => ?_, ?_⟩
    · simp only [CountsFor, kind, ObligationKind.wanted, List.not_mem_nil, false_iff]
      rintro ⟨_, _, _, scope, narrowed, planted, _⟩
      exact missing scope narrowed planted
    · simp only [UnclearFor, kind, ObligationKind.wanted, true_iff]
      exact fun scope narrowed => .inl (missing scope narrowed)
  | some scope =>
    obtain ⟨d, narrowed, found⟩ := Option.bind_eq_some_iff.mp found
    have planted : input.Planted expectation d := by
      rw [planted_iff, found]
      rfl
    obtain ⟨_, rfl⟩ := find_mem found
    obtain ⟨once, length, listed⟩ := nodes_counted input expectation
      fun node => node.id ≠ scope.id && node.ancestors.contains scope.id &&
        (populatedDomains (input.resources expectation) (input.forest expectation)).contains node.id
    refine ⟨_, once, length, fun key => ?_, ?_⟩
    · rw [listed]
      simp only [CountsFor, kind, ObligationKind.wanted, narrowed, Option.some.injEq, exists_eq_left', planted, true_and,
        Bool.and_eq_true, decide_eq_true_eq, List.contains_iff_mem, mem_populated]
      constructor
      · rintro ⟨node, among, ⟨⟨apart, under⟩, held⟩, rfl⟩
        exact ⟨_, rfl, held, apart, (below_iff among).mpr under⟩
      · rintro ⟨_, rfl, ⟨node, among, rfl, held⟩, apart, under⟩
        exact ⟨node, among, ⟨⟨apart, (below_iff among).mp under⟩, node, among, rfl, held⟩, rfl⟩
    · simp [UnclearFor, kind, ObligationKind.wanted, narrowed, planted]

theorem countFor_counts (few : input.publications.length ≤ Limits.maxMemberDomains)
    {o : ProtectedObligation} (count : o.kind.isCount = true) {seen : Observation}
    (counted : countFor (input.resources expectation) (input.forest expectation) o = some seen) :
    ∃ keys, Counts input expectation o seen keys := by
  unfold countFor at counted
  cases kind : o.kind with
  | minUpSharedLinks =>
    rw [kind] at counted
    exact countUp_counts few (by rw [kind]; rfl) counted
  | minUpGateways =>
    rw [kind] at counted
    exact countUp_counts few (by rw [kind]; rfl) counted
  | minDistinctFailureDomains =>
    rw [kind] at counted
    cases counted
    exact countDomains_counts kind
  | domainSurvivability =>
    rw [kind] at counted
    cases counted
    exact countSurvivors_counts kind
  | _ =>
    rw [kind] at count
    cases count

/-- Counts of the same keys come to the same. -/
theorem Counts.alike {o : ProtectedObligation} {seen seen' : Observation}
    {keys keys' : List ResourceKey} (counts : Counts input expectation o seen keys)
    (counts' : Counts input' expectation o seen' keys')
    (same : ∀ key, input'.CountsFor expectation o key ↔ input.CountsFor expectation o key)
    (unclear : input'.UnclearFor expectation o ↔ input.UnclearFor expectation o) : seen' = seen := by
  have perm : keys'.Perm keys := (List.perm_ext_iff_of_nodup counts'.once counts.once).mpr fun key => by
    rw [counts'.counted, counts.counted, same]
  have observed : seen'.observed = seen.observed := by
    rw [← counts'.observed, ← counts.observed, perm.length_eq]
  have unknown : seen'.anyUnknown = seen.anyUnknown := by
    rw [Bool.eq_iff_iff, counts'.unclear, counts.unclear, unclear]
  obtain ⟨_, _⟩ := seen
  obtain ⟨_, _⟩ := seen'
  cases observed
  cases unknown
  rfl

end Counts

section Verdicts

omit [StdSort] in
theorem verdictFor_alike {resources resources' : Resources} {forest forest' : FailureDomainForest}
    {available available' : CapacityVector} {record : ResourceRecord} {o : ProtectedObligation}
    {verdict verdict' : ObligationVerdict}
    (answered : verdictFor resources forest available record o = some verdict)
    (answered' : verdictFor resources' forest' available' record o = some verdict')
    (counts : record.status = .ok → o.kind.isCount = true → ∀ seen seen',
      countFor resources forest o = some seen → countFor resources' forest' o = some seen' →
        seen' = seen)
    (channel : record.status = .ok →
      available'.channel o.kind.channel = available.channel o.kind.channel) :
    (verdict'.status, verdict'.observed) = (verdict.status, verdict.observed) := by
  unfold verdictFor at answered answered'
  dsimp only at answered answered'
  by_cases ok : record.status = .ok
  · rw [if_neg (not_not_intro ok)] at answered answered'
    by_cases count : o.kind.isCount = true
    · rw [if_pos count] at answered answered'
      obtain ⟨seen, counted, rfl⟩ := Option.map_eq_some_iff.mp answered
      obtain ⟨seen', counted', rfl⟩ := Option.map_eq_some_iff.mp answered'
      rw [counts ok count seen seen' counted counted']
    · rw [if_neg count] at answered answered'
      rw [channel ok, answered] at answered'
      cases answered'
      rfl
  · rw [if_pos ok] at answered answered'
    cases answered
    cases answered'
    rfl

variable (parts : input.Composes expectation site) (parts' : input'.Composes expectation site')

include parts in
theorem find_obligations {verdict : ObligationVerdict} (listed : verdict ∈ site.obligations) :
    site.obligations.find? (·.id = verdict.id) = some verdict := by
  refine find?_of_only listed (decide_eq_true rfl) fun other among same => ?_
  obtain ⟨key, record, o, found, _, held, answered⟩ := verdict_record parts listed
  obtain ⟨key', record', o', found', _, held', answered'⟩ := verdict_record parts among
  have named := (verdictFor_sources answered).1
  have named' := (verdictFor_sources answered').1
  rw [(inForce_of_slot found held).1, ← named] at found
  rw [(inForce_of_slot found' held').1, ← named', of_decide_eq_true same, found] at found'
  obtain rfl := Option.some.inj found'
  rw [held] at held'
  obtain rfl := Option.some.inj held'
  rw [answered] at answered'
  exact (Option.some.inj answered').symm

include parts parts' in
theorem obligations_alike {verdict : ObligationVerdict} (listed : verdict ∈ site.obligations)
    (same : (input'.resources expectation)[ResourceKey.obligation verdict.id]? =
      (input.resources expectation)[ResourceKey.obligation verdict.id]?)
    (spared : ∀ reading,
      input'.Rests expectation ⟨.obligationVerdict, .obligation verdict.id⟩ reading ↔
        input.Rests expectation ⟨.obligationVerdict, .obligation verdict.id⟩ reading) :
    (site'.obligations.find? (·.id = verdict.id)).map (fun v => (v.status, v.observed)) =
      (site.obligations.find? (·.id = verdict.id)).map fun v => (v.status, v.observed) := by
  have few := (prepare_ok parts.prepared).1
  have few' := (prepare_ok parts'.prepared).1
  obtain ⟨key, record, o, found, kind, held, answered⟩ := verdict_record parts listed
  obtain ⟨rfl, inForce⟩ := inForce_of_slot found held
  have named := (verdictFor_sources answered).1
  rw [named] at same spared ⊢
  have found' := same.trans found
  obtain ⟨verdicts, voted, sorted⟩ := parts'.obligations
  obtain ⟨verdict', answers, answered'⟩ := mapM_yields voted (a := (record, o))
    (List.mem_filterMap.mpr ⟨_, mem_toList_iff.mpr found', by dsimp only; rw [if_pos kind, held]; rfl⟩)
  have listed' : verdict' ∈ site'.obligations := by
    rw [sorted]
    exact mem_sort.mpr answers
  have rests : record.status = .ok → ∀ {p q : ProtectedObligation → Prop},
      ((∃ z, input'.SettledObligation expectation o.id z ∧ p z) ↔
        ∃ z, input.SettledObligation expectation o.id z ∧ q z) → (p o ↔ q o) := by
    intro ok p q each
    have settled : ∀ z, input.SettledObligation expectation o.id z ↔ z = o := fun z => by
      rw [SettledObligation, inForce, ← resources_ok_iff_settled few found]
      exact ⟨fun own => (Option.some.inj own.2).symm, fun own => ⟨ok, congrArg some own.symm⟩⟩
    have settled' : ∀ z, input'.SettledObligation expectation o.id z ↔ z = o := fun z => by
      rw [SettledObligation, (inForce_of_slot found' held).2, ← resources_ok_iff_settled few' found']
      exact ⟨fun own => (Option.some.inj own.2).symm, fun own => ⟨ok, congrArg some own.symm⟩⟩
    simpa only [settled, settled', exists_eq_left] using each
  have alike := verdictFor_alike answered answered'
    (fun ok count seen seen' counted counted' => by
      obtain ⟨keys, counts⟩ := countFor_counts few count counted
      obtain ⟨keys', counts'⟩ := countFor_counts few' count counted'
      exact counts.alike counts' (fun key => rests ok (spared (.counted key)))
        (rests ok (spared .unclear)))
    fun ok => by
      have stands := available_alike parts parts' (c := o.kind.channel)
        (fun key value => (and_congr_right_iff.mp
          (rests ok (spared (.value o.kind.channel key value)))) rfl)
        fun key => (and_congr_right_iff.mp (rests ok (spared (.heldOut o.kind.channel key)))) rfl
      rwa [parts.capacity, parts'.capacity] at stands
  rw [← named, find_obligations parts listed, named, ← (verdictFor_sources answered').1,
    find_obligations parts' listed', Option.map_some, Option.map_some, alike]

end Verdicts

end CompositionInput

/-- A derived decision stands without a domain when it rests on the same facts then, and
composition without the domain goes through. -/
theorem derived_decision_stands [StdSort] {input : CompositionInput}
    {expectation : SiteExpectation} {site : ComposedSite}
    (prepared : input.prepare = .ok expectation) (composed : compose input = .composed site)
    (room : site.decisionsDue ≤ Limits.maxDecisions) (domain : MemberDomainKey)
    (decision : SiteDecision) (decided : decision ∈ site.decisions)
    (derived : decision.id.kind.derived = true)
    (absent : ∀ record, input.Selects record → record.domain = domain →
      record.source ∉ decision.sources.items)
    (spared : ∀ reading, (input.without domain).Rests expectation decision.id reading ↔
      input.Rests expectation decision.id reading)
    (safe : ∀ obligation wanted key,
      ¬ (input.without domain).Blind expectation obligation wanted key) :
    ∃ site', compose (input.without domain) = .composed site' ∧
      site.DecidesAlike site' decision.id := by
  obtain ⟨site', composed'⟩ := (CompositionInput.composed_without_iff prepared).mpr safe
  refine ⟨site', composed', ?_⟩
  obtain ⟨expectation', parts⟩ := CompositionInput.compose_composes composed
  obtain rfl : expectation' = expectation :=
    Except.ok.inj (parts.prepared.symm.trans prepared)
  obtain ⟨expectation'', parts'⟩ := CompositionInput.compose_composes composed'
  obtain rfl : expectation'' = expectation' :=
    Except.ok.inj (parts'.prepared.symm.trans (CompositionInput.prepare_without prepared))
  have same : ∀ key : ResourceKey, (∀ record, input.Selects record → record.domain = domain →
      ∀ found, (input.resources expectation'')[key]? = some found →
        record.source ∈ found.sources.items → record.source ∈ decision.sources.items) →
      ((input.without domain).resources expectation'')[key]? =
        (input.resources expectation'')[key]? := fun key covers =>
    CompositionInput.resources_without (CompositionInput.silent_of_absent
      (CompositionInput.prepare_ok prepared).1 fun record selected here found listed stands =>
        absent record selected here (covers record selected here found listed stands))
  rcases (CompositionInput.mem_decisions_iff prepared composed room).mp decided with planned | rfl
  · simp only [ComposedSite.plan, ComposedSite.directPlan, ComposedSite.summaryPlan,
      ComposedSite.derivedPlan, List.mem_append, List.mem_cons, List.mem_map, List.not_mem_nil,
      or_false] at planned
    rcases planned with (((rfl | rfl) | ⟨attribution, owned, rfl⟩) |
      rfl | rfl | rfl | rfl | rfl | rfl) | ⟨effect, listed, rfl⟩ | ⟨verdict, listed, rfl⟩
    · cases derived
    · cases derived
    · cases derived
    · cases derived
    · cases derived
    · cases derived
    · cases derived
    · exact CapacityVector.ext_channels fun c => CompositionInput.total_alike parts parts' fun key value =>
        spared (.value c key value)
    · exact CapacityVector.ext_channels fun c => CompositionInput.available_alike parts parts'
        (fun key value => spared (.value c key value)) fun key =>
          spared (.heldOut c key)
    · refine CompositionInput.maintenance_alike parts parts' listed
        (same _ fun record selected here found held stands => ?_) spared
      exact ((CompositionInput.mem_effectSources parts effect).2 _).mpr
        ⟨_, found, held, .inl rfl, stands⟩
    · obtain ⟨key, record, o, found, _, held, answered⟩ := CompositionInput.verdict_record parts listed
      obtain ⟨rfl, _⟩ := CompositionInput.inForce_of_slot found held
      obtain ⟨named, sources⟩ := CompositionInput.verdictFor_sources answered
      refine CompositionInput.obligations_alike parts parts' listed
        (same _ fun r selected here other among stands => ?_) spared
      rw [named, found] at among
      change r.source ∈ verdict.sources.items
      rw [sources, Option.some.inj among]
      exact stands
  · cases derived

/-- What a key puts on a channel stands without a domain that is silent on it. -/
theorem CompositionInput.puts_of_silent [StdSort] {input : CompositionInput}
    {expectation : SiteExpectation} {domain : MemberDomainKey} {key : ResourceKey}
    (few : input.publications.length ≤ Limits.maxMemberDomains)
    (silent : (admitMembers input expectation).Silent domain key) (c : CapacityChannel)
    (value : CapacityValue) :
    (input.without domain).Puts expectation c key value ↔ input.Puts expectation c key value := by
  have few' : (input.without domain).publications.length ≤ Limits.maxMemberDomains :=
    (List.length_filter_le _ _).trans few
  rw [← puts_iff few', ← puts_iff few, resources_without silent]

/-- A decision on a matter that leaves a domain out of its sources. -/
def SiteDecision.leavesOut (id : DecisionId) (domain : MemberDomainKey) (decision : SiteDecision) :
    Bool :=
  decision.id = id && decision.sources.items.all (·.domain ≠ domain)

theorem SiteDecision.absent_of_leavesOut {id : DecisionId} {domain : MemberDomainKey}
    {decision : SiteDecision} (leaves : decision.leavesOut id domain = true) :
    decision.id = id ∧ ∀ record : MemberPublicationRecord, record.domain = domain →
      record.source ∉ decision.sources.items := by
  obtain ⟨same, apart⟩ := Bool.and_eq_true_iff.mp leaves
  exact ⟨of_decide_eq_true same, fun record here listed =>
    of_decide_eq_true (List.all_eq_true.mp apart _ listed) here⟩

/-- The rack without a link has no part in the total. -/
theorem link_total_outlives_a_rack :
    ∃ site site' decision, compose .linkAndRack = .composed site ∧
      decision ∈ site.decisions ∧ decision.id.kind = .capacityTotal ∧
      compose (CompositionInput.linkAndRack.without ⟨.rack, ascii "rack-2"⟩) = .composed site' ∧
      site.DecidesAlike site' decision.id := by
  obtain ⟨site, composed, test⟩ := CompositionInput.composed_of_sealed
    (show (composeSealed .linkAndRack).passes (fun site =>
      decide (site.decisionsDue ≤ Limits.maxDecisions) && site.decisions.any
        (·.leavesOut ⟨.capacityTotal, {}⟩ ⟨.rack, ascii "rack-2"⟩)) = true by decide +kernel)
    .sample
  obtain ⟨site', composed', _⟩ := CompositionInput.composed_of_sealed
    (show (composeSealed (CompositionInput.linkAndRack.without ⟨.rack, ascii "rack-2"⟩)).passes
      (fun _ => true) = true by decide +kernel) (CompositionInput.Sealed.sample.without _)
  obtain ⟨room, listed⟩ := Bool.and_eq_true_iff.mp test
  obtain ⟨decision, decided, leaves⟩ := List.any_eq_true.mp listed
  obtain ⟨id, absent⟩ := SiteDecision.absent_of_leavesOut leaves
  obtain ⟨expectation, parts⟩ := CompositionInput.compose_composes composed
  have few := (CompositionInput.prepare_ok parts.prepared).1
  have silent : ∀ key, (admitMembers .linkAndRack expectation).Silent ⟨.rack, ascii "rack-2"⟩ key := by
    intro key a admitted claim claimed
    obtain ⟨record, selected, here, rfl⟩ := CompositionInput.admitMembers_iff.mp admitted
    have published := (bestRecords_mem selected).1
    have none : ∀ r ∈ CompositionInput.linkAndRack.publications,
        r.domain = ⟨.rack, ascii "rack-2"⟩ → r.claims = [] := by decide +kernel
    rw [show (admitRecord _ expectation record).claims = [] from none record published here] at claimed
    cases claimed
  obtain ⟨site'', composed'', alike⟩ := derived_decision_stands parts.prepared composed
    (of_decide_eq_true room) ⟨.rack, ascii "rack-2"⟩ decision decided (by rw [id]; rfl)
    (fun record _ => absent record) (by
      rw [id]
      intro reading
      cases reading with
      | value c key value => exact CompositionInput.puts_of_silent few (silent key) c value
      | _ => exact Iff.rfl)
    ((CompositionInput.composed_without_iff parts.prepared).mp ⟨site', composed'⟩)
  exact ⟨site, site'', decision, composed, decided, by rw [id], composed'', alike⟩

/-- Two racks that claim one link with different capacities. -/
def CompositionInput.quarrel : CompositionInput :=
  .sample [.uplinked [.sample (ascii "link-1") 5],
    { MemberDomainDeclaration.sample (ascii "rack-2") with
      sharedLinks := [.sample (ascii "link-1") 7] }]

/-- The second rack is no source of the total, and without it the link counts. -/
theorem quarrel_total_forgets_a_rack :
    ∃ expectation site site' decision, CompositionInput.quarrel.prepare = .ok expectation ∧
      compose .quarrel = .composed site ∧ site.decisionsDue ≤ Limits.maxDecisions ∧
      decision ∈ site.decisions ∧ decision.id.kind = .capacityTotal ∧
      (∀ record, CompositionInput.quarrel.Selects record →
        record.domain = ⟨.rack, ascii "rack-2"⟩ → record.source ∉ decision.sources.items) ∧
      compose (CompositionInput.quarrel.without ⟨.rack, ascii "rack-2"⟩) = .composed site' ∧
      site.capacity.total.ingress = .unknown ∧ site'.capacity.total.ingress = .ofBps 5 ∧
      ¬ site.DecidesAlike site' decision.id := by
  obtain ⟨site, composed, test⟩ := CompositionInput.composed_of_sealed
    (show (composeSealed .quarrel).passes (fun site =>
      decide (site.decisionsDue ≤ Limits.maxDecisions ∧ site.capacity.total.ingress = .unknown) &&
        site.decisions.any (·.leavesOut ⟨.capacityTotal, {}⟩ ⟨.rack, ascii "rack-2"⟩)) = true by
      decide +kernel) .sample
  obtain ⟨site', composed', total'⟩ := CompositionInput.composed_of_sealed
    (show (composeSealed (CompositionInput.quarrel.without ⟨.rack, ascii "rack-2"⟩)).passes
      (fun site => decide (site.capacity.total.ingress = .ofBps 5)) = true by decide +kernel)
    (CompositionInput.Sealed.sample.without _)
  obtain ⟨known, listed⟩ := Bool.and_eq_true_iff.mp test
  obtain ⟨room, total⟩ := of_decide_eq_true known
  obtain ⟨decision, decided, leaves⟩ := List.any_eq_true.mp listed
  obtain ⟨id, absent⟩ := SiteDecision.absent_of_leavesOut leaves
  obtain ⟨expectation, parts⟩ := CompositionInput.compose_composes composed
  refine ⟨expectation, site, site', decision, parts.prepared, composed, room, decided, by rw [id],
    fun record _ => absent record, composed', total, of_decide_eq_true total', ?_⟩
  rw [id]
  intro alike
  have same : site'.capacity.total.ingress = site.capacity.total.ingress :=
    congrArg CapacityVector.ingress alike
  rw [total, of_decide_eq_true total'] at same
  cases same

end SiteFabric
