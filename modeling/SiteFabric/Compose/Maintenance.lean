import SiteFabric.Compose.Forest

/-! Maintenance effects and the capacity ledger.
A zone holds capacity out of availability and never out of the total; a zone over
a protected obligation is refused. Every attributed unit of capacity is one ledger
entry, counted once, on the channels its scope feeds. -/

namespace SiteFabric

open Lib
open Std (ExtTreeMap)

/-- Which site aggregates a contribution feeds. -/
structure ChannelMask where
  ingress : Bool := false
  egress : Bool := false
  internal : Bool := false
deriving DecidableEq, Inhabited

def ChannelMask.feeds (mask : ChannelMask) : CapacityChannel → Bool
  | .unknown => false
  | .ingress => mask.ingress
  | .egress => mask.egress
  | .internal => mask.internal

def maskFor (scope : CapacityScope) (external : Bool) : ChannelMask :=
  match scope with
  | .siteIngress => { ingress := true }
  | .siteEgress => { egress := true }
  | .siteInternal | .rackLocal | .podLocal | .clusterLocal => { internal := true }
  | .sharedLink => if external then { ingress := true, egress := true } else { internal := true }
  | .gateway => { ingress := true, egress := true }
  | .unknown => {}

/-- The capacity a record speaks for: its rack's, else its link's, else its
gateway's, else its pool's. -/
structure Offer where
  scope : CapacityScope := .unknown
  mask : ChannelMask := {}
  capacity : CapacityVector := {}
deriving DecidableEq, Inhabited

def ResourceRecord.offer (r : ResourceRecord) : Option Offer :=
  match r.rack, r.link, r.gateway, r.pool with
  | some rack, _, _, _ =>
    some { scope := .rackLocal, mask := maskFor .rackLocal false, capacity := rack.localCapacity }
  | none, some link, _, _ =>
    some { scope := .sharedLink, mask := maskFor .sharedLink link.external
           capacity := link.capacity }
  | none, none, some gateway, _ =>
    some { scope := .gateway, mask := maskFor .gateway true, capacity := gateway.capacity }
  | none, none, none, some pool =>
    some { scope := pool.scope, mask := maskFor pool.scope false, capacity := pool.capacity }
  | none, none, none, none => none

structure LedgerBuild where
  owner : ResourceKey := {}
  scope : CapacityScope := .unknown
  mask : ChannelMask := {}
  capacity : CapacityVector := {}
  attestors : SourceSet := {}
  status : Status := .unknown
  counted : Bool := false
  factors : Factors := {}
deriving DecidableEq, Inhabited

def ledgerBuild (key : ResourceKey) (record : ResourceRecord) (offer : Offer) : LedgerBuild :=
  let build : LedgerBuild :=
    { owner := key, scope := offer.scope, mask := offer.mask, capacity := offer.capacity
      attestors := record.sources, factors := record.factors }
  if record.status ≠ .ok then
    { build with
      status := if record.status = .unknown then .noAuthoritativeSource else record.status }
  else if !build.mask.ingress && !build.mask.egress && !build.mask.internal then
    { build with
      status := .unsupported
      factors := build.factors.add (ascii "scope") (ascii "does_not_feed_site_total") }
  else
    let channelUnknown := (build.mask.ingress && !build.capacity.ingress.known) ||
      (build.mask.egress && !build.capacity.egress.known) ||
      (build.mask.internal && !build.capacity.internal.known)
    { build with status := if channelUnknown then .capacityUnknown else .ok, counted := true }

def collectLedgerBuilds (resources : Resources) : List LedgerBuild :=
  resources.toList.filterMap fun (key, record) => record.offer.map (ledgerBuild key record)

/-- `collect_zone_scope`: the resources a zone names, the members of its domains
and of every domain below one of them. -/
def collectZoneScope [StdSort] (members : DomainMembers) (forest : FailureDomainForest)
    (zone : MaintenanceZone) : List ResourceKey :=
  sortUnique <| zone.resources ++ zone.domains.flatMap fun domain =>
    (members[domain]?).getD [] ++
      (forest.nodes.filter (·.ancestors.contains domain)).flatMap (·.members)

/-- The records of maintenance-zone keys that hold a zone, in key order. -/
def zoneRecords (resources : Resources) : List (ResourceRecord × MaintenanceZone) :=
  resources.toList.filterMap fun (key, record) =>
    if key.kind = .maintenanceZone then record.zone.map (record, ·) else none

abbrev ZoneScopes := ExtTreeMap MaintenanceZoneId (List ResourceKey) compare

def zoneScopes [StdSort] (resources : Resources) (members : DomainMembers)
    (forest : FailureDomainForest) : ZoneScopes :=
  (zoneRecords resources).foldl
    (fun scopes (record, zone) => scopes.insert zone.id
      (if record.status = .ok then collectZoneScope members forest zone else [])) ∅

def obligationOverlapsZone (scopes : ZoneScopes) (forest : FailureDomainForest)
    (obligation : ProtectedObligation) (zone : MaintenanceZone) : Bool :=
  let scope := (scopes[zone.id]?).getD []
  obligation.protectedFromMaintenance &&
    ((match obligation.scopeResource with
      | none => false
      | some resource => scope.contains resource) ||
    (match obligation.scopeDomain with
      | none => false
      | some domain =>
        zone.domains.contains domain ||
          scope.any (fun key => key.kind = .failureDomain && key.id = domain.value) ||
          (match forest.find domain with
            | none => false
            | some node => zone.domains.any (node.ancestors.contains ·))))

/-- The obligations that are attributed, in key order. -/
def attributedObligations (resources : Resources) : List ProtectedObligation :=
  resources.toList.filterMap fun (key, record) =>
    if key.kind = .obligation && record.status = .ok then record.obligation else none

section Effects

variable (nowMs : Int64) (resources : Resources) (scopes : ZoneScopes)
  (forest : FailureDomainForest)

/-- The protected obligations that refuse a zone. -/
def refusals (zone : MaintenanceZone) : List ObligationId :=
  ((attributedObligations resources).filter
    (obligationOverlapsZone scopes forest · zone)).map (·.id)

def effectOf [StdSort] (entry : ResourceRecord × MaintenanceZone) : MaintenanceEffect :=
  let (record, zone) := entry
  let effect : MaintenanceEffect := { id := zone.id, state := zone.state, status := .ok }
  if record.status ≠ .ok then
    { effect with
      status := record.status
      factors := effect.factors.add (ascii "zone_attribution") record.status.token }
  else
    let keys := (scopes[zone.id]?).getD []
    let overlapping := sortUnique (refusals resources scopes forest zone)
    let effect := { effect with overlappingObligations := overlapping }
    if !(refusals resources scopes forest zone).isEmpty then
      { effect with
        status := .maintenanceConflict
        factors := effect.factors.add (ascii "overlapping_obligations")
          (decimal overlapping.length) }
    else if zone.state = .unknown then
      { effect with
        status := .maintenanceUnknown
        excluded := keys
        factors := effect.factors.add (ascii "state") (ascii "UNKNOWN") }
    else
      let effect :=
        if !zone.windowContains nowMs && zone.state = .active then
          { effect with
            factors := effect.factors.add (ascii "window") (ascii "does_not_contain_now") }
        else effect
      if zone.state.excludesCapacity then { effect with excluded := keys } else effect

def effectsOf [StdSort] : List MaintenanceEffect :=
  sort (byKey MaintenanceEffect.id)
    ((zoneRecords resources).map (effectOf nowMs resources scopes forest))

def reportRefusal (out : ComposedSite) (entry : ResourceRecord × MaintenanceZone) : ComposedSite :=
  if entry.1.status = .ok ∧ !(refusals resources scopes forest entry.2).isEmpty then
    out.addConflict .maintenanceConflict (.maintenanceZone entry.2.id) entry.1.sources []
  else out

theorem reportRefusal_body (entries : List (ResourceRecord × MaintenanceZone))
    (out : ComposedSite) :
    (entries.foldl (reportRefusal resources scopes forest) out).body = out.body := by
  refine foldl_frame ComposedSite.body (fun site entry => ?_) entries out
  unfold reportRefusal
  split
  · exact ComposedSite.body_addConflict ..
  · rfl

theorem reportRefusal_quiet {entries : List (ResourceRecord × MaintenanceZone)}
    {out : ComposedSite}
    (empty : (entries.foldl (reportRefusal resources scopes forest) out).conflicts = []) :
    out.conflicts = [] := by
  refine (ComposedSite.conflicts_foldl_eq_nil
    (fun entry : ResourceRecord × MaintenanceZone => entry.1.status = .ok ∧
      (!(refusals resources scopes forest entry.2).isEmpty) = true) ?_ ?_ empty).1
  · intro site entry silent
    rw [reportRefusal, if_neg silent]
  · intro site entry loud
    rw [reportRefusal, if_pos loud]
    exact ComposedSite.conflicts_addConflict_ne_nil _ _ _ _ _

end Effects

/-- Whether an effect takes its keys out of what is available. -/
def MaintenanceEffect.excludes (effect : MaintenanceEffect) : Bool :=
  effect.status ≠ .maintenanceConflict &&
    (effect.state.excludesCapacity || effect.status = .maintenanceUnknown)

def excludedKeys (effects : List MaintenanceEffect) : List ResourceKey :=
  (effects.filter (·.excludes)).flatMap (·.excluded)

def maintenanceIndeterminate (effects : List MaintenanceEffect) : Bool :=
  effects.any (·.status = .maintenanceUnknown)

/-- Adds one ledger entry's masked channels into an aggregate. -/
def addAggregate (aggregate : CapacityAggregate) (build : LedgerBuild) : CapacityAggregate :=
  let aggregate := aggregate.countEntry
  let aggregate :=
    if build.mask.ingress then (aggregate.addChannel .ingress build.capacity.ingress).1
    else aggregate
  let aggregate :=
    if build.mask.egress then (aggregate.addChannel .egress build.capacity.egress).1
    else aggregate
  if build.mask.internal then (aggregate.addChannel .internal build.capacity.internal).1
  else aggregate

/-- The four aggregates of the ledger. -/
structure Aggregates where
  total : CapacityAggregate := {}
  available : CapacityAggregate := {}
  excluded : CapacityAggregate := {}
  indeterminate : CapacityAggregate := {}
deriving DecidableEq, Inhabited

section Ledger

variable (excluded : List ResourceKey)

/-- A counted entry is always part of the total, and of exactly one of available
and excluded; an entry that is not counted is indeterminate. -/
def Aggregates.post (a : Aggregates) (build : LedgerBuild) : Aggregates :=
  if !build.counted then { a with indeterminate := addAggregate a.indeterminate build }
  else
    let a := { a with total := addAggregate a.total build }
    if excluded.contains build.owner then { a with excluded := addAggregate a.excluded build }
    else { a with available := addAggregate a.available build }

def ledgerEntry (build : LedgerBuild) : CapacityLedgerEntry :=
  let entry : CapacityLedgerEntry :=
    { owner := build.owner, scope := build.scope, capacity := build.capacity
      attestors := build.attestors, status := build.status, factors := build.factors }
  if !build.counted then entry
  else if excluded.contains build.owner then
    { entry with factors := entry.factors.add (ascii "maintenance") (ascii "excluded") }
  else { entry with countedInTotal := true }

end Ledger

/-- A channel the total knows and nothing excluded is excluded by zero. -/
def zeroFill (total excluded : CapacityAggregate) (c : CapacityChannel) : CapacityValue :=
  if !(excluded.channel c).seen && (total.channel c).known then .ofBps 0
  else (excluded.channel c).value

def disagrees (left right : CapacityValue) : Bool :=
  left.known != right.known || (left.known && left.bps != right.bps)

/-- The closing checks: whether the ledger closes, and what it says if not. -/
def closingChecks (a : Aggregates) (total excluded : CapacityVector)
    (subtracted : Except Status CapacityVector) (available : CapacityVector) : Bool × Factors :=
  let closes := match subtracted with
    | .ok _ => true
    | .error _ => false
  let factors : Factors := match subtracted with
    | .ok _ => {}
    | .error status => Factors.add {} (ascii "available") status.token
  let (closes, factors) :=
    if a.total.overflowed || a.excluded.overflowed || a.available.overflowed ||
        a.indeterminate.overflowed then
      (false, factors.add (ascii "overflow") (ascii "true"))
    else (closes, factors)
  let (closes, factors) :=
    if !capacityLeq excluded total then
      (false, factors.add (ascii "excluded_exceeds_total") (ascii "true"))
    else (closes, factors)
  let (closes, factors) :=
    if !capacityLeq available total then
      (false, factors.add (ascii "available_exceeds_total") (ascii "true"))
    else (closes, factors)
  let (closes, factors) :=
    match addCapacity {} available >>= fun recombined => addCapacity recombined excluded with
    | .error _ => (false, factors.add (ascii "recombine") (ascii "overflow"))
    | .ok recombined =>
      let agrees := fun (left right : CapacityValue) =>
        !left.known || !right.known || left.bps = right.bps
      if !(agrees recombined.ingress total.ingress && agrees recombined.egress total.egress &&
          agrees recombined.internal total.internal) then
        (false, factors.add (ascii "available_plus_excluded") (ascii "does_not_equal_total"))
      else (closes, factors)
  let recomputed := a.available.total
  if disagrees recomputed.ingress available.ingress ||
      disagrees recomputed.egress available.egress ||
      disagrees recomputed.internal available.internal then
    (false, factors.add (ascii "available") (ascii "does_not_match_sum_of_entries"))
  else (closes, factors)

/-- The ledger of a list of builds, given the keys maintenance holds out. -/
def composeLedger (excluded : List ResourceKey) (builds : List LedgerBuild) : CapacityLedger :=
  let a : Aggregates := builds.foldl (Aggregates.post excluded) {}
  let total := a.total.total
  let excludedValue : CapacityVector :=
    { ingress := zeroFill a.total a.excluded .ingress
      egress := zeroFill a.total a.excluded .egress
      internal := zeroFill a.total a.excluded .internal }
  let subtracted := subtractCapacity total excludedValue
  let available := match subtracted with
    | .ok available => available
    | .error _ => CapacityVector.allUnknown
  let checks := closingChecks a total excludedValue subtracted available
  let totalStatus := a.total.status
  { entries := builds.map (ledgerEntry excluded)
    total
    available
    excludedByMaintenance := excludedValue
    indeterminate := a.indeterminate.total
    closesExactly := checks.1
    status := if totalStatus.isOk then .ok else totalStatus
    factors :=
      if totalStatus.isOk then checks.2 else checks.2.add (ascii "aggregate") totalStatus.token }

section Build

variable [StdSort] (nowMs : Int64) (members : DomainMembers) (resources : Resources)

/-- The effects of every zone, given the forest. -/
def composeEffects (forest : FailureDomainForest) : List MaintenanceEffect :=
  effectsOf nowMs resources (zoneScopes resources members forest) forest

def refuseZones (out : ComposedSite) : ComposedSite :=
  let forest := out.failureDomains
  (zoneRecords resources).foldl
    (reportRefusal resources (zoneScopes resources members forest) forest) out

def buildMaintenance (out : ComposedSite) : ComposedSite :=
  let effects := composeEffects nowMs members resources out.failureDomains
  let capacity := composeLedger (excludedKeys effects) (collectLedgerBuilds resources)
  { refuseZones members resources out with
    maintenance := effects
    capacity
    anyUnknownCapacity := capacity.status = .capacityUnknown }

theorem buildMaintenance_body (out : ComposedSite) :
    (buildMaintenance nowMs members resources out).body =
      (let effects := composeEffects nowMs members resources out.failureDomains
      let capacity := composeLedger (excludedKeys effects) (collectLedgerBuilds resources)
      ({ out.body with
        maintenance := effects
        capacity
        anyUnknownCapacity := capacity.status = .capacityUnknown } : ComposedSite)) := by
  have kept : (refuseZones members resources out).body = out.body := reportRefusal_body ..
  rw [← kept]
  rfl

end Build

end SiteFabric
