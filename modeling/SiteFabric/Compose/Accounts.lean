import SiteFabric.Compose.Selected
import SiteFabric.Compose.Sealed

/-! The ledger identity.
On every channel the total is the exact sum of the attributed entries that feed
it, what maintenance excludes is the sum over the entries a zone in force covers,
and what is available is the sum over the rest. The three are then never at odds:
the closing subtraction cannot underflow. -/

namespace SiteFabric

open Lib
open Std (ExtTreeMap)

/-- One channel of the ledger against what is declared on it: by all entries, by
those held out, and by the rest. -/
structure Balanced (total available excluded : CapacityValue)
    (fed held free : List CapacityValue) : Prop where
  total_known : total.known = true ↔ fed ≠ [] ∧ (∀ v ∈ fed, v.known = true) ∧
    exactSum fed ≤ Limits.maxCapacityBps.toNat
  total_bps : total.known = true → total.bps.toNat = exactSum fed
  available_known : available.known = true ↔ total.known = true
  excluded_bps : total.known = true → excluded.known = true ∧ excluded.bps.toNat = exactSum held
  available_bps : total.known = true → available.bps.toNat = exactSum free
  recombines : total.known = true →
    available.bps.toNat + excluded.bps.toNat = total.bps.toNat

namespace Tally

/-- What is known of a list of values is known of any part of it. -/
theorem tallyOf_part {values part : List CapacityValue} (inside : ∀ v ∈ part, v ∈ values)
    (less : exactSum part ≤ exactSum values) (some : part ≠ [])
    (known : (tallyOf values).known = true) : (tallyOf part).known = true := by
  obtain ⟨_, each, bound⟩ := (tallyOf_known_iff values).mp known
  exact (tallyOf_known_iff part).mpr ⟨some, fun v member => each v (inside v member),
    less.trans bound⟩

end Tally

/-- The excluded channel, zero when nothing is held out of a known total. -/
theorem zeroFill_value {total excluded : CapacityAggregate} {c : CapacityChannel}
    {fed held : List CapacityValue} (fedBy : total.channel c = Tally.tallyOf fed)
    (heldBy : excluded.channel c = Tally.tallyOf held) (inside : ∀ v ∈ held, v ∈ fed)
    (less : exactSum held ≤ exactSum fed) (known : (total.channel c).known = true) :
    (zeroFill total excluded c).known = true ∧
      (zeroFill total excluded c).bps.toNat = exactSum held := by
  unfold zeroFill
  rw [known, Bool.and_true, heldBy, (Tally.tallyOf_holds held).seen, Bool.not_not]
  cases held with
  | nil => exact ⟨rfl, rfl⟩
  | cons v rest =>
    have counted := Tally.tallyOf_part inside less (by simp) (fedBy ▸ known)
    rw [List.isEmpty_cons, if_neg Bool.false_ne_true, Tally.value_known, Tally.value_bps counted]
    exact ⟨counted, Tally.tallyOf_sum_of_known counted⟩

theorem subtractChannel_unknown {left right : CapacityValue} (unknown : left.known = false) :
    subtractChannel left right = .ok .unknown := by
  rw [subtractChannel, unknown]
  rfl

theorem subtractChannel_known {left right : CapacityValue} (left_known : left.known = true)
    (right_known : right.known = true) (less : right.bps.toNat ≤ left.bps.toNat) :
    subtractChannel left right = .ok (.ofBps (left.bps - right.bps)) := by
  rw [subtractChannel, left_known, right_known, if_neg (by decide),
    if_neg (by rw [gt_iff_lt, UInt64.lt_iff_toNat_lt]; omega)]

/-- One channel balances: its subtraction goes through, and whatever it yields is
the sum over what is left. -/
theorem channel_balances {total excluded : CapacityAggregate} {c : CapacityChannel}
    {fed held free : List CapacityValue} (fedBy : total.channel c = Tally.tallyOf fed)
    (heldBy : excluded.channel c = Tally.tallyOf held) (inside : ∀ v ∈ held, v ∈ fed)
    (split : exactSum fed = exactSum held + exactSum free) :
    ∃ available,
      subtractChannel (total.channel c).value (zeroFill total excluded c) = .ok available ∧
        Balanced (total.channel c).value available (zeroFill total excluded c) fed held free := by
  have total_known : (total.channel c).value.known = true ↔ fed ≠ [] ∧
      (∀ v ∈ fed, v.known = true) ∧ exactSum fed ≤ Limits.maxCapacityBps.toNat := by
    rw [Tally.value_known, fedBy, Tally.tallyOf_known_iff]
  cases known : (total.channel c).value.known with
  | false =>
    have never : ∀ {p : Prop}, (total.channel c).value.known = true → p := by
      intro p absurd
      rw [known] at absurd
      cases absurd
    exact ⟨.unknown, subtractChannel_unknown known,
      { total_known
        total_bps := never
        available_known := ⟨nofun, never⟩
        excluded_bps := never
        available_bps := never
        recombines := never }⟩
  | true =>
    have counted : (total.channel c).known = true := by rwa [Tally.value_known] at known
    have bps : (total.channel c).value.bps.toNat = exactSum fed := by
      rw [Tally.value_bps counted, fedBy]
      exact Tally.tallyOf_sum_of_known (fedBy ▸ counted)
    have less : exactSum held ≤ exactSum fed := by omega
    obtain ⟨excluded_known, excluded_bps⟩ := zeroFill_value fedBy heldBy inside less counted
    have fits : (zeroFill total excluded c).bps ≤ (total.channel c).value.bps := by
      rw [UInt64.le_iff_toNat_le]
      omega
    have rest : ((total.channel c).value.bps - (zeroFill total excluded c).bps).toNat =
        exactSum free := by
      rw [UInt64.toNat_sub_of_le _ _ fits]
      omega
    refine ⟨_, subtractChannel_known known excluded_known (by omega),
      { total_known
        total_bps := fun _ => bps
        available_known := ⟨fun _ => known, fun _ => rfl⟩
        excluded_bps := fun _ => ⟨excluded_known, excluded_bps⟩
        available_bps := fun _ => rest
        recombines := fun _ => ?_ }⟩
    rw [CapacityValue.ofBps]
    dsimp only
    omega

section Aggregation

theorem addAggregate_channel (a : CapacityAggregate) (build : LedgerBuild) (c : CapacityChannel) :
    (addAggregate a build).channel c =
      if build.mask.feeds c then ((a.channel c).add (build.capacity.channel c)).1
      else a.channel c := by
  unfold addAggregate
  cases ingress : build.mask.ingress <;> cases egress : build.mask.egress <;>
    cases internal : build.mask.internal <;> cases c <;>
    simp [ChannelMask.feeds, CapacityAggregate.addChannel, CapacityAggregate.channel,
      CapacityAggregate.countEntry, CapacityVector.channel, ingress, egress, internal]

/-- The values some entries put on a channel. -/
def channelValues (c : CapacityChannel) (builds : List LedgerBuild) : List CapacityValue :=
  (builds.filter (·.mask.feeds c)).map (·.capacity.channel c)

theorem channelValues_append (c : CapacityChannel) (first second : List LedgerBuild) :
    channelValues c (first ++ second) = channelValues c first ++ channelValues c second := by
  rw [channelValues, List.filter_append, List.map_append]
  rfl

theorem aggregate_channel (builds : List LedgerBuild) (c : CapacityChannel) :
    (builds.foldl addAggregate {}).channel c = Tally.tallyOf (channelValues c builds) := by
  induction builds using List.reverseRecOn with
  | nil => cases c <;> rfl
  | append_singleton builds build ih =>
    rw [List.foldl_append, List.foldl_cons, List.foldl_nil, addAggregate_channel, ih,
      channelValues_append]
    cases fed : build.mask.feeds c with
    | false => simp [fed, channelValues]
    | true => simp [fed, channelValues, Tally.tallyOf]

variable (excluded : List ResourceKey)

/-- The total is a pass over the counted entries. -/
theorem post_total (builds : List LedgerBuild) :
    (builds.foldl (Aggregates.post excluded) {}).total =
      (builds.filter (·.counted)).foldl addAggregate {} := by
  rw [List.foldl_filter]
  refine (List.foldl_hom Aggregates.total fun a build => ?_).symm
  unfold Aggregates.post
  cases build.counted with
  | false => rfl
  | true => cases excluded.contains build.owner <;> rfl

/-- The excluded capacity is a pass over the counted entries maintenance covers. -/
theorem post_excluded (builds : List LedgerBuild) :
    (builds.foldl (Aggregates.post excluded) {}).excluded =
      (builds.filter fun b => b.counted && excluded.contains b.owner).foldl addAggregate {} := by
  rw [List.foldl_filter]
  refine (List.foldl_hom Aggregates.excluded fun a build => ?_).symm
  unfold Aggregates.post
  cases build.counted with
  | false => rfl
  | true => cases excluded.contains build.owner <;> rfl

theorem channelValues_filter (c : CapacityChannel) (builds : List LedgerBuild)
    (p : LedgerBuild → Bool) : ∀ v ∈ channelValues c (builds.filter p), v ∈ channelValues c builds := by
  intro v member
  obtain ⟨b, fed, rfl⟩ := List.mem_map.mp member
  rw [List.mem_filter, List.mem_filter] at fed
  exact List.mem_map.mpr ⟨b, List.mem_filter.mpr ⟨fed.1.1, fed.2⟩, rfl⟩

theorem exactSum_split (c : CapacityChannel) (builds : List LedgerBuild) (p : LedgerBuild → Bool) :
    exactSum (channelValues c builds) =
      exactSum (channelValues c (builds.filter p)) +
        exactSum (channelValues c (builds.filter fun b => !p b)) := by
  rw [← exactSum_append, ← channelValues_append]
  exact exactSum_perm (((List.filter_append_perm p builds).filter _).map _).symm

theorem subtractCapacity_channels {minuend subtrahend : CapacityVector}
    (each : ∀ c, ∃ value, subtractChannel (minuend.channel c) (subtrahend.channel c) = .ok value) :
    ∃ available, subtractCapacity minuend subtrahend = .ok available ∧
      ∀ c, subtractChannel (minuend.channel c) (subtrahend.channel c) =
        .ok (available.channel c) := by
  obtain ⟨ingress, first⟩ := each .ingress
  obtain ⟨egress, second⟩ := each .egress
  obtain ⟨internal, third⟩ := each .internal
  simp only [CapacityVector.channel] at first second third
  refine ⟨{ ingress, egress, internal }, ?_, fun c => ?_⟩
  · simp only [subtractCapacity, first, second, third]
    rfl
  · cases c with
    | unknown => rfl
    | ingress => exact first
    | egress => exact second
    | internal => exact third

/-- The ledger of any builds balances on every channel, and its subtraction goes
through. -/
theorem composeLedger_balances (builds : List LedgerBuild) :
    subtractCapacity (composeLedger excluded builds).total
        (composeLedger excluded builds).excludedByMaintenance =
      .ok (composeLedger excluded builds).available ∧
    ∀ c, Balanced ((composeLedger excluded builds).total.channel c)
      ((composeLedger excluded builds).available.channel c)
      ((composeLedger excluded builds).excludedByMaintenance.channel c)
      (channelValues c (builds.filter (·.counted)))
      (channelValues c ((builds.filter (·.counted)).filter fun b => excluded.contains b.owner))
      (channelValues c ((builds.filter (·.counted)).filter fun b => !excluded.contains b.owner)) := by
  have total := post_total excluded builds
  have held := post_excluded excluded builds
  unfold composeLedger
  dsimp only
  generalize builds.foldl (Aggregates.post excluded) {} = a at *
  have excludedAt : ∀ c, CapacityVector.channel
      { ingress := zeroFill a.total a.excluded .ingress
        egress := zeroFill a.total a.excluded .egress
        internal := zeroFill a.total a.excluded .internal } c = zeroFill a.total a.excluded c := by
    intro c
    cases c <;> rfl
  generalize CapacityVector.mk (zeroFill a.total a.excluded .ingress)
    (zeroFill a.total a.excluded .egress) (zeroFill a.total a.excluded .internal) = out at *
  have parts : builds.filter (fun b => b.counted && excluded.contains b.owner) =
      (builds.filter (·.counted)).filter fun b => excluded.contains b.owner := by
    rw [List.filter_filter]
    exact List.filter_congr fun b _ => Bool.and_comm ..
  rw [parts] at held
  generalize builds.filter (·.counted) = counted at *
  have fedBy : ∀ c, a.total.channel c = Tally.tallyOf (channelValues c counted) := fun c => by
    rw [total, aggregate_channel]
  have heldBy : ∀ c, a.excluded.channel c =
      Tally.tallyOf (channelValues c (counted.filter fun b => excluded.contains b.owner)) :=
    fun c => by rw [held, aggregate_channel]
  have balances := fun c => channel_balances (fedBy c) (heldBy c)
    (channelValues_filter c counted _) (exactSum_split c counted fun b => excluded.contains b.owner)
  have each : ∀ c, ∃ value,
      subtractChannel (a.total.total.channel c) (out.channel c) = .ok value := fun c => by
    obtain ⟨value, yields, _⟩ := balances c
    rw [CapacityAggregate.total_channel, excludedAt]
    exact ⟨value, yields⟩
  obtain ⟨available, subtracted, channels⟩ := subtractCapacity_channels each
  rw [subtracted]
  refine ⟨rfl, fun c => ?_⟩
  obtain ⟨value, yields, balanced⟩ := balances c
  have same := channels c
  rw [CapacityAggregate.total_channel, excludedAt, yields] at same
  injection same with same
  rw [CapacityAggregate.total_channel, excludedAt, ← same]
  exact balanced

end Aggregation

/-- Whether the capacity a record speaks for is that of an external link. -/
def ResourceRecord.external (r : ResourceRecord) : Bool :=
  r.rack.isNone && r.link.any (·.external)

/-- The channels a ledger entry feeds: those of its scope, which for a link
depend on whether it is external. -/
def CapacityLedgerEntry.mask (resources : Resources) (entry : CapacityLedgerEntry) : ChannelMask :=
  maskFor entry.scope ((resources[entry.owner]?).any ResourceRecord.external)

/-- A zone that is applied: accepted, and in a state that takes capacity out. -/
def MaintenanceEffect.applied (effect : MaintenanceEffect) : Bool :=
  effect.status = .ok && effect.state.excludesCapacity

namespace ComposedSite

def attributes (site : ComposedSite) (key : ResourceKey) : Bool :=
  site.ownership.any fun attribution => attribution.key = key && attribution.status = .ok

/-- Whether a resource is in a zone that is applied, or whose state is unknown. -/
def holdsOut (site : ComposedSite) (key : ResourceKey) : Bool :=
  site.maintenance.any fun effect =>
    (effect.applied || effect.status = .maintenanceUnknown) && effect.excluded.contains key

/-- The ledger entries that feed a channel: those whose resource is attributed
and whose scope feeds it. -/
def fedBy (site : ComposedSite) (resources : Resources) (c : CapacityChannel) :
    List CapacityLedgerEntry :=
  site.capacity.entries.filter fun entry =>
    site.attributes entry.owner && (entry.mask resources).feeds c

/-- Every channel balances over the entries that feed it, and the subtraction
that yields what is available is never refused. -/
structure LedgerIdentity (site : ComposedSite) (resources : Resources) : Prop where
  subtracts : subtractCapacity site.capacity.total site.capacity.excludedByMaintenance =
    .ok site.capacity.available
  channels : ∀ c, Balanced (site.capacity.total.channel c) (site.capacity.available.channel c)
    (site.capacity.excludedByMaintenance.channel c)
    ((site.fedBy resources c).map (·.capacity.channel c))
    (((site.fedBy resources c).filter (site.holdsOut ·.owner)).map (·.capacity.channel c))
    (((site.fedBy resources c).filter (!site.holdsOut ·.owner)).map (·.capacity.channel c))

end ComposedSite

theorem ledgerEntry_frame (excluded : List ResourceKey) (build : LedgerBuild) :
    (ledgerEntry excluded build).owner = build.owner ∧
      (ledgerEntry excluded build).scope = build.scope ∧
      (ledgerEntry excluded build).capacity = build.capacity := by
  unfold ledgerEntry
  dsimp only
  split
  · exact ⟨rfl, rfl, rfl⟩
  · split <;> exact ⟨rfl, rfl, rfl⟩

theorem ResourceRecord.offer_mask {r : ResourceRecord} {offer : Offer}
    (offered : r.offer = some offer) : offer.mask = maskFor offer.scope r.external := by
  unfold ResourceRecord.offer at offered
  unfold ResourceRecord.external
  -- Only a link's scope depends on whether it is external.
  split at offered
  · injection offered with same
    rw [← same]
    rfl
  · next rack link =>
    injection offered with same
    rw [← same, rack, link]
    rfl
  · injection offered with same
    rw [← same]
    rfl
  · next rack link _ _ =>
    injection offered with same
    rw [← same, rack, link]
    rfl
  · cases offered

theorem ledgerBuild_frame (key : ResourceKey) (record : ResourceRecord) (offer : Offer) :
    (ledgerBuild key record offer).owner = key ∧
      (ledgerBuild key record offer).scope = offer.scope ∧
      (ledgerBuild key record offer).mask = offer.mask ∧
      (ledgerBuild key record offer).capacity = offer.capacity := by
  unfold ledgerBuild
  dsimp only
  split
  · exact ⟨rfl, rfl, rfl, rfl⟩
  · split <;> exact ⟨rfl, rfl, rfl, rfl⟩

/-- An entry that feeds a channel is counted exactly when its record is attributed. -/
theorem ledgerBuild_counted (key : ResourceKey) (record : ResourceRecord) {offer : Offer}
    {c : CapacityChannel} (feeds : offer.mask.feeds c = true) :
    (ledgerBuild key record offer).counted = decide (record.status = .ok) := by
  have some : (!offer.mask.ingress && !offer.mask.egress && !offer.mask.internal) = false := by
    cases c with
    | unknown => cases feeds
    | ingress => rw [show offer.mask.ingress = true from feeds]; rfl
    | egress => rw [show offer.mask.egress = true from feeds]; simp
    | internal => rw [show offer.mask.internal = true from feeds]; simp
  unfold ledgerBuild
  dsimp only
  split
  · next other => exact (decide_eq_false other).symm
  · next ok =>
    rw [some, if_neg Bool.false_ne_true]
    exact (decide_eq_true (not_not.mp ok)).symm

theorem mem_collectLedgerBuilds {resources : Resources} {build : LedgerBuild} :
    build ∈ collectLedgerBuilds resources ↔ ∃ (key : ResourceKey) (record : ResourceRecord) (offer : Offer),
      resources[key]? = some record ∧ record.offer = some offer ∧
        ledgerBuild key record offer = build := by
  simp only [collectLedgerBuilds, List.mem_filterMap, Prod.exists, mem_toList_iff,
    Option.map_eq_some_iff]
  exact exists_congr fun key => exists_congr fun record => by simp

theorem attributes_iff {site : ComposedSite} {resources : Resources}
    (owned : site.ownership = ownershipOf resources) (key : ResourceKey) :
    site.attributes key = true ↔
      ∃ record, resources[key]? = some record ∧ record.status = .ok := by
  rw [ComposedSite.attributes, owned, ownershipOf]
  simp only [List.any_map, List.any_eq_true, Prod.exists, mem_toList_iff, Function.comp_apply,
    ResourceRecord.attribution, Bool.and_eq_true, decide_eq_true_eq]
  constructor
  · rintro ⟨_, record, found, rfl, ok⟩
    exact ⟨record, found, ok⟩
  · rintro ⟨record, found, ok⟩
    exact ⟨key, record, found, rfl, ok⟩

section Zones

variable [StdSort] (nowMs : Int64) (resources : Resources) (scopes : ZoneScopes)
  (forest : FailureDomainForest)

/-- A zone in force: attributed, refused by no obligation, and active or of a
state nobody reported. -/
structure InForce (record : ResourceRecord) (zone : MaintenanceZone) : Prop where
  attributed : record.status = .ok
  permitted : refusals resources scopes forest zone = []
  state : zone.state = .active ∨ zone.state = .unknown

/-- An effect lists the scope of its zone when the zone is in force, and else nothing. -/
theorem effectOf_excluded (record : ResourceRecord) (zone : MaintenanceZone) :
    let effect := effectOf nowMs resources scopes forest (record, zone)
    (InForce resources scopes forest record zone ∧ effect.excludes = true ∧
      (effect.applied || effect.status = .maintenanceUnknown) = true ∧
      effect.excluded = (scopes[zone.id]?).getD []) ∨
    (¬ InForce resources scopes forest record zone ∧ effect.excluded = []) := by
  unfold effectOf
  dsimp only
  split
  · next other => exact .inr ⟨fun force => other force.attributed, rfl⟩
  next ok =>
  split
  · next refused =>
    refine .inr ⟨fun force => ?_, rfl⟩
    rw [force.permitted] at refused
    cases refused
  next permitted =>
  have none : refusals resources scopes forest zone = [] := by simpa using permitted
  split
  · next state =>
    refine .inl ⟨⟨not_not.mp ok, none, .inr state⟩, ?_, ?_, rfl⟩
    · simp [MaintenanceEffect.excludes]
    · simp
  next state =>
  by_cases active : zone.state = .active
  · refine .inl ⟨⟨not_not.mp ok, none, .inl active⟩, ?_⟩
    cases zone.windowContains nowMs <;>
      simp [active, MaintenanceState.excludesCapacity, MaintenanceEffect.excludes,
        MaintenanceEffect.applied]
  · refine .inr ⟨fun force => force.state.elim active state, ?_⟩
    simp [active, MaintenanceState.excludesCapacity]

/-- A key is listed by an effect exactly when a zone in force covers it. -/
theorem effectsOf_list (key : ResourceKey) :
    (∃ effect ∈ effectsOf nowMs resources scopes forest, key ∈ effect.excluded) ↔
      ∃ record zone, (record, zone) ∈ zoneRecords resources ∧
        InForce resources scopes forest record zone ∧ key ∈ (scopes[zone.id]?).getD [] := by
  simp only [effectsOf, mem_sort, List.mem_map, Prod.exists]
  constructor
  · rintro ⟨_, ⟨record, zone, listed, rfl⟩, covered⟩
    rcases effectOf_excluded nowMs resources scopes forest record zone with
      ⟨force, _, _, scope⟩ | ⟨_, none⟩
    · exact ⟨record, zone, listed, force, scope ▸ covered⟩
    · rw [none] at covered
      cases covered
  · rintro ⟨record, zone, listed, force, covered⟩
    rcases effectOf_excluded nowMs resources scopes forest record zone with
      ⟨_, _, _, scope⟩ | ⟨idle, _⟩
    · exact ⟨_, ⟨record, zone, listed, rfl⟩, scope ▸ covered⟩
    · exact absurd force idle

/-- What an effect lists it also holds out. -/
theorem effectsOf_holds {effect : MaintenanceEffect} {key : ResourceKey}
    (listed : effect ∈ effectsOf nowMs resources scopes forest) (covered : key ∈ effect.excluded) :
    effect.excludes = true ∧ (effect.applied || effect.status = .maintenanceUnknown) = true := by
  rw [effectsOf, mem_sort, List.mem_map] at listed
  obtain ⟨⟨record, zone⟩, _, rfl⟩ := listed
  rcases effectOf_excluded nowMs resources scopes forest record zone with
    ⟨_, excludes, holds, _⟩ | ⟨_, none⟩
  · exact ⟨excludes, holds⟩
  · rw [none] at covered
    cases covered

theorem holdsOut_iff {site : ComposedSite}
    (maintained : site.maintenance = effectsOf nowMs resources scopes forest) (key : ResourceKey) :
    site.holdsOut key = true ↔
      ∃ effect ∈ effectsOf nowMs resources scopes forest, key ∈ effect.excluded := by
  simp only [ComposedSite.holdsOut, maintained, List.any_eq_true, Bool.and_eq_true,
    List.contains_iff_mem]
  exact exists_congr fun effect => and_congr_right fun listed => ⟨And.right, fun covered =>
    ⟨(effectsOf_holds nowMs resources scopes forest listed covered).2, covered⟩⟩

theorem excludedKeys_contains {site : ComposedSite}
    (maintained : site.maintenance = effectsOf nowMs resources scopes forest) (key : ResourceKey) :
    (excludedKeys site.maintenance).contains key = site.holdsOut key := by
  rw [Bool.eq_iff_iff, holdsOut_iff nowMs resources scopes forest maintained, maintained,
    List.contains_iff_mem, excludedKeys, List.mem_flatMap]
  refine exists_congr fun effect => and_congr_left fun covered => ?_
  rw [List.mem_filter]
  exact ⟨And.left, fun listed =>
    ⟨listed, (effectsOf_holds nowMs resources scopes forest listed covered).1⟩⟩

end Zones

theorem mem_zoneRecords {resources : Resources} {record : ResourceRecord} {zone : MaintenanceZone} :
    (record, zone) ∈ zoneRecords resources ↔ ∃ key : ResourceKey, resources[key]? = some record ∧
      key.kind = .maintenanceZone ∧ record.zone = some zone := by
  simp only [zoneRecords, List.mem_filterMap, Prod.exists, mem_toList_iff]
  constructor
  · rintro ⟨key, r, found, kept⟩
    split at kept
    · next kind =>
      obtain ⟨z, held, same⟩ := Option.map_eq_some_iff.mp kept
      injection same with same same'
      subst same same'
      exact ⟨key, found, kind, held⟩
    · cases kept
  · rintro ⟨key, found, kind, held⟩
    exact ⟨key, record, found, by rw [if_pos kind, held]; rfl⟩

namespace CompositionInput

variable [StdSort] (input : CompositionInput) (expectation : SiteExpectation)

/-- A key some zone in force covers. -/
def Covers (key : ResourceKey) : Prop :=
  let resources := input.resources expectation
  let members := domainMembers (admitMembers input expectation) resources
  let forest := input.forest expectation
  ∃ record zone, (record, zone) ∈ zoneRecords resources ∧
    InForce resources (zoneScopes resources members forest) forest record zone ∧
    key ∈ collectZoneScope members forest zone

/-- A zone record stands under the key of its zone. -/
theorem zone_key {key : ResourceKey} {record : ResourceRecord} {zone : MaintenanceZone}
    (found : (input.resources expectation)[key]? = some record) (held : record.zone = some zone) :
    key = .maintenanceZone zone.id := by
  rw [resources_slot_eq ResourceRecord.zoneSlot found] at held
  obtain ⟨claim, claimed, read⟩ := List.mem_filterMap.mp (List.mem_of_getLast? held)
  obtain ⟨_, _, _, named⟩ := mem_claimsOn.mp claimed
  cases claim with
  | zone z =>
    injection read with same
    rw [← named, ← same]
    rfl
  | _ => cases read

/-- Only one record is filed under the identifier of a zone. -/
theorem zoneRecords_only {record record' : ResourceRecord} {zone zone' : MaintenanceZone}
    (listed : (record, zone) ∈ zoneRecords (input.resources expectation))
    (listed' : (record', zone') ∈ zoneRecords (input.resources expectation))
    (same : zone'.id = zone.id) : record' = record ∧ zone' = zone := by
  obtain ⟨key, found, _, held⟩ := mem_zoneRecords.mp listed
  obtain ⟨key', found', _, held'⟩ := mem_zoneRecords.mp listed'
  rw [input.zone_key expectation found' held', same,
    ← input.zone_key expectation found held, found] at found'
  obtain rfl := Option.some.inj found'
  rw [held] at held'
  exact ⟨rfl, (Option.some.inj held').symm⟩

/-- The scope filed for a zone is the zone's own. -/
theorem zoneScopes_lookup {record : ResourceRecord} {zone : MaintenanceZone}
    (members : DomainMembers) (forest : FailureDomainForest)
    (listed : (record, zone) ∈ zoneRecords (input.resources expectation))
    (attributed : record.status = .ok) :
    (zoneScopes (input.resources expectation) members forest)[zone.id]? =
      some (collectZoneScope members forest zone) := by
  let write := fun entry : ResourceRecord × MaintenanceZone =>
    if entry.2.id = zone.id then
      some (if entry.1.status = .ok then collectZoneScope members forest entry.2 else [])
    else none
  have last : (zoneScopes (input.resources expectation) members forest)[zone.id]? =
      (((zoneRecords (input.resources expectation)).filterMap write).getLast?).or none := by
    refine foldl_last (fun scopes : ZoneScopes => scopes[zone.id]?) write (fun scopes entry => ?_) _ ∅
    rw [lookup_insert]
    by_cases here : entry.2.id = zone.id
    · simp [write, here]
    · simp [write, here]
  have written : ∀ scope ∈ (zoneRecords (input.resources expectation)).filterMap write,
      scope = collectZoneScope members forest zone := by
    intro scope member
    obtain ⟨entry, filed, wrote⟩ := List.mem_filterMap.mp member
    by_cases here : entry.2.id = zone.id
    · obtain ⟨same, same'⟩ := input.zoneRecords_only expectation listed filed here
      simpa [write, same, same', attributed] using wrote.symm
    · simp [write, here] at wrote
  cases found : ((zoneRecords (input.resources expectation)).filterMap write).getLast? with
  | none =>
    rw [List.getLast?_eq_none_iff, List.filterMap_eq_nil_iff] at found
    have skipped := found _ listed
    simp [write] at skipped
  | some scope =>
    rw [last, found, written scope (List.mem_of_getLast? found)]
    rfl

/-- The keys held out of the ledger are those the zones in force cover. -/
theorem excludedKeys_covers (key : ResourceKey) :
    (excludedKeys (input.effects expectation)).contains key = true ↔
      input.Covers expectation key := by
  let site : ComposedSite := { maintenance := input.effects expectation }
  have maintained : site.maintenance = input.effects expectation := rfl
  have held := excludedKeys_contains _ _ _ _ maintained key
  rw [← maintained, held, holdsOut_iff _ _ _ _ rfl]
  refine (effectsOf_list ..).trans (exists_congr fun record => exists_congr fun zone =>
    and_congr_right fun listed => and_congr_right fun force => ?_)
  rw [input.zoneScopes_lookup expectation _ _ listed force.attributed]
  rfl

end CompositionInput

section Entries

variable {site : ComposedSite} {resources : Resources} {excluded : List ResourceKey}

/-- An entry is masked as its build is. -/
theorem ledgerEntry_mask {build : LedgerBuild} (member : build ∈ collectLedgerBuilds resources) :
    (ledgerEntry excluded build).mask resources = build.mask := by
  obtain ⟨key, record, offer, found, offered, rfl⟩ := mem_collectLedgerBuilds.mp member
  obtain ⟨owner, scope, mask, _⟩ := ledgerBuild_frame key record offer
  obtain ⟨entry_owner, entry_scope, _⟩ := ledgerEntry_frame excluded (ledgerBuild key record offer)
  rw [CapacityLedgerEntry.mask, entry_owner, entry_scope, owner, scope, mask, found,
    ResourceRecord.offer_mask offered]
  rfl

/-- An entry feeds a channel when its build is counted and does. -/
theorem feeds_counted (owned : site.ownership = ownershipOf resources) (c : CapacityChannel)
    {build : LedgerBuild} (member : build ∈ collectLedgerBuilds resources) :
    (site.attributes (ledgerEntry excluded build).owner &&
        ((ledgerEntry excluded build).mask resources).feeds c) =
      (build.mask.feeds c && build.counted) := by
  rw [ledgerEntry_mask member, (ledgerEntry_frame excluded build).1]
  obtain ⟨key, record, offer, found, offered, rfl⟩ := mem_collectLedgerBuilds.mp member
  obtain ⟨owner, -, mask, -⟩ := ledgerBuild_frame key record offer
  have attributed : site.attributes key = decide (record.status = .ok) := by
    rw [Bool.eq_iff_iff, attributes_iff owned, decide_eq_true_eq]
    exact ⟨fun ⟨r, at_key, ok⟩ => (Option.some.inj (found.symm.trans at_key)) ▸ ok,
      fun ok => ⟨record, found, ok⟩⟩
  rw [owner, mask, attributed]
  cases fed : offer.mask.feeds c with
  | false => simp
  | true => rw [ledgerBuild_counted key record fed, Bool.and_true, Bool.true_and]

/-- The entries that feed a channel are the counted builds that do. -/
theorem fedBy_values (owned : site.ownership = ownershipOf resources)
    (entries : site.capacity.entries = (collectLedgerBuilds resources).map (ledgerEntry excluded))
    (q : ResourceKey → Bool) (c : CapacityChannel) :
    ((site.fedBy resources c).filter (q ·.owner)).map (·.capacity.channel c) =
      channelValues c (((collectLedgerBuilds resources).filter (·.counted)).filter (q ·.owner)) := by
  rw [ComposedSite.fedBy, entries, List.filter_map, List.filter_map, List.map_map, channelValues,
    List.filter_filter, List.filter_filter, List.filter_filter]
  have kept : ∀ build ∈ collectLedgerBuilds resources,
      (((fun entry : CapacityLedgerEntry => q entry.owner) ∘ ledgerEntry excluded) build &&
        ((fun entry : CapacityLedgerEntry => site.attributes entry.owner &&
          (entry.mask resources).feeds c) ∘ ledgerEntry excluded) build) =
      (build.mask.feeds c && q build.owner && build.counted) := by
    intro build member
    rw [Function.comp_apply, Function.comp_apply, feeds_counted owned c member,
      (ledgerEntry_frame excluded build).1, Bool.and_left_comm, Bool.and_assoc]
  rw [List.filter_congr kept]
  refine List.map_congr_left fun build _ => ?_
  rw [Function.comp_apply, (ledgerEntry_frame excluded build).2.2]

end Entries

namespace CompositionInput.Composes

variable [StdSort] {input : CompositionInput} {expectation : SiteExpectation} {site : ComposedSite}
  (parts : input.Composes expectation site)

include parts

theorem excludedKeys_holdsOut (key : ResourceKey) :
    (excludedKeys (input.effects expectation)).contains key = site.holdsOut key := by
  rw [← parts.maintenance]
  exact excludedKeys_contains _ _ _ _ parts.maintenance key

theorem entries : site.capacity.entries = (collectLedgerBuilds (input.resources expectation)).map
    (ledgerEntry (excludedKeys (input.effects expectation))) := by
  rw [parts.capacity]
  rfl

/-- The ledger balances on every channel. -/
theorem balanced : site.LedgerIdentity (input.resources expectation) := by
  have values := fedBy_values parts.ownership parts.entries
  obtain ⟨subtracts, balanced⟩ := composeLedger_balances
    (excludedKeys (input.effects expectation)) (input.builds expectation)
  refine ⟨?_, fun c => ?_⟩
  · rw [parts.capacity]
    exact subtracts
  · have all := values (fun _ => true) c
    simp only [List.filter_true] at all
    rw [all, values, values fun key => !site.holdsOut key, parts.capacity]
    simp only [← parts.excludedKeys_holdsOut]
    exact balanced c

end CompositionInput.Composes

/-- In every composed site the ledger balances on every channel, over exactly
the entries the zones in force leave and take. -/
theorem composed_ledger_balances [StdSort] {input : CompositionInput} {site : ComposedSite}
    (composed : compose input = .composed site) :
    ∃ expectation, input.prepare = .ok expectation ∧
      site.LedgerIdentity (input.resources expectation) ∧
      ∀ key, site.holdsOut key = true ↔ input.Covers expectation key := by
  obtain ⟨expectation, parts⟩ := CompositionInput.compose_composes composed
  refine ⟨expectation, parts.prepared, parts.balanced, fun key => ?_⟩
  rw [← parts.excludedKeys_holdsOut, input.excludedKeys_covers]

/-- Two links, the second in an active zone. -/
def MemberDomainDeclaration.serviced : MemberDomainDeclaration :=
  { MemberDomainDeclaration.sample (ascii "rack-1") with
    sharedLinks := [.sample (ascii "link-1") 5, .sample (ascii "link-2") 7]
    maintenanceZones := [
      { id := ⟨ascii "zone-1"⟩, state := .active, resources := [.sharedLink ⟨ascii "link-2"⟩]
        generation := ⟨1⟩, evidence := Evidence.sample }] }

theorem serviced_link_balances :
    ∃ site, compose (CompositionInput.sample [.serviced]) = .composed site ∧
      (site.capacity.total.ingress = .ofBps 12 ∧
        site.capacity.excludedByMaintenance.ingress = .ofBps 7 ∧
        site.capacity.available.ingress = .ofBps 5 ∧
        site.holdsOut (.sharedLink ⟨ascii "link-2"⟩) = true) ∧
      ∃ expectation, (CompositionInput.sample [.serviced]).prepare = .ok expectation ∧
        site.LedgerIdentity ((CompositionInput.sample [.serviced]).resources expectation) ∧
        ∀ key, site.holdsOut key = true ↔
          (CompositionInput.sample [.serviced]).Covers expectation key := by
  obtain ⟨site, composed, amounts⟩ := CompositionInput.composed_of_sealed
    (show (composeSealed (CompositionInput.sample [.serviced])).passes (fun site => decide
      (site.capacity.total.ingress = .ofBps 12 ∧
        site.capacity.excludedByMaintenance.ingress = .ofBps 7 ∧
        site.capacity.available.ingress = .ofBps 5 ∧
        site.holdsOut (.sharedLink ⟨ascii "link-2"⟩) = true)) = true by decide +kernel) .sample
  exact ⟨site, composed, of_decide_eq_true amounts, composed_ledger_balances composed⟩

end SiteFabric
