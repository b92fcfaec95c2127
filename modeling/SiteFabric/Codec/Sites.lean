import SiteFabric.Codec.Parts

/-! The codecs of the composed site and of its snapshots.
Counters the composer keeps as numbers are written in their words, so a value
beyond the word comes back reduced. Explanations and source sets come back
bounded, as they were filled. -/

namespace SiteFabric

open Canonical Lib.Reader

namespace Limits

def maxDistinctResources : Nat := 65536
def maxDistinctFailureDomains : Nat := 8192
def maxDistinctMaintenanceZones : Nat := 4096
def maxDistinctObligations : Nat := 4096

end Limits

/-- A counter of the composer, in a 64-bit word. -/
def Canonical.counter (n : Nat) : List UInt8 := u64 (UInt64.ofNat n)

def MemberDomainState.write (s : MemberDomainState) : List UInt8 :=
  memberDomainKey s.domain ++ tag s.lifecycle.ctorIdx ++ tag s.status.ctorIdx ++
    Canonical.generation s.generation ++ Canonical.digest s.digest ++ Canonical.schema s.schema ++
    Canonical.incarnation s.incarnation ++ text s.publisher.value ++ i64 s.receivedAtMs ++
    tag s.evidenceState.ctorIdx ++ flag s.expected ++ flag s.expectationPinned ++
    sourceRef s.source ++ Canonical.factors s.factors

def ResourceAttribution.write (a : ResourceAttribution) : List UInt8 :=
  resourceKey a.key ++ sourceSet a.attestors ++ Canonical.digest a.consensusDigest ++
    counter a.distinctContents ++ tag a.status.ctorIdx ++ Canonical.factors a.factors

def CapacityLedgerEntry.write (e : CapacityLedgerEntry) : List UInt8 :=
  resourceKey e.owner ++ tag e.scope.ctorIdx ++ e.capacity.write ++ sourceSet e.attestors ++
    tag e.status.ctorIdx ++ flag e.countedInTotal ++ Canonical.factors e.factors

def CapacityLedger.write (l : CapacityLedger) : List UInt8 :=
  list CapacityLedgerEntry.write l.entries ++ l.total.write ++ l.available.write ++
    l.excludedByMaintenance.write ++ l.indeterminate.write ++ flag l.closesExactly ++
    tag l.status.ctorIdx ++ Canonical.factors l.factors

def ConnectivitySummary.write (s : ConnectivitySummary) : List UInt8 :=
  counter s.sharedLinks ++ counter s.sharedLinksUp ++ counter s.sharedLinksDown ++
    counter s.sharedLinksDegraded ++ counter s.sharedLinksUnknown ++ counter s.externalLinks ++
    counter s.internalLinks ++ counter s.gateways ++ counter s.gatewaysUp ++
    counter s.gatewaysDown ++ counter s.gatewaysDegraded ++ counter s.gatewaysUnknown ++
    list resourceKey s.unknownState ++ sourceSet s.sources ++ tag s.status.ctorIdx

def FailureDomainNode.write (n : FailureDomainNode) : List UInt8 :=
  text n.id.value ++ tag n.domainClass.ctorIdx ++ optional (fun id => text id.value) n.parent ++
    list resourceKey n.members ++ list (fun id => text id.value) n.children ++
    list (fun id => text id.value) n.ancestors ++ u32 (UInt32.ofNat n.depth) ++
    sourceSet n.attestors ++ tag n.status.ctorIdx

def FailureDomainForest.write (f : FailureDomainForest) : List UInt8 :=
  list FailureDomainNode.write f.nodes ++ list (fun id => text id.value) f.cyclic ++
    list (fun id => text id.value) f.dangling ++ tag f.status.ctorIdx ++ Canonical.factors f.factors

def MaintenanceEffect.write (e : MaintenanceEffect) : List UInt8 :=
  text e.id.value ++ tag e.state.ctorIdx ++ list resourceKey e.excluded ++
    list resourceKey e.indeterminate ++ list (fun id => text id.value) e.overlappingObligations ++
    e.excludedCapacity.write ++ tag e.status.ctorIdx ++ Canonical.factors e.factors

def ObligationVerdict.write (v : ObligationVerdict) : List UInt8 :=
  text v.id.value ++ tag v.kind.ctorIdx ++ tag v.status.ctorIdx ++ u64 v.required ++
    counter v.observed ++ flag v.observedKnown ++ sourceSet v.sources ++ Canonical.factors v.factors

def SiteConflict.write (c : SiteConflict) : List UInt8 :=
  tag c.code.ctorIdx ++ resourceKey c.subject ++ sourceSet c.parties ++ list text c.variants ++
    i64 c.detectedAtMs

def SiteDeficit.write (d : SiteDeficit) : List UInt8 :=
  tag d.code.ctorIdx ++ memberDomainKey d.domain ++ text d.detail

def SiteDecision.write (d : SiteDecision) : List UInt8 :=
  tag d.id.kind.ctorIdx ++ resourceKey d.id.subject ++ tag d.status.ctorIdx ++
    sourceSet d.sources ++ Canonical.digest d.valueDigest ++ Canonical.factors d.factors

def ComposedSite.write (s : ComposedSite) : List UInt8 :=
  text s.site.value ++ Canonical.epoch s.epoch ++ Canonical.generation s.generation ++
    Canonical.incarnation s.incarnation ++ i64 s.composedAtMs ++ tag s.lifecycle.ctorIdx ++
    tag s.status.ctorIdx ++ flag s.membershipComplete ++ flag s.allEvidenceFresh ++
    flag s.anyConflict ++ flag s.anyUnknownCapacity ++ list MemberDomainState.write s.members ++
    list ResourceAttribution.write s.ownership ++ s.capacity.write ++ s.connectivity.write ++
    s.failureDomains.write ++ list MaintenanceEffect.write s.maintenance ++
    list ObligationVerdict.write s.obligations ++ list SiteConflict.write s.conflicts ++
    list SiteDeficit.write s.deficits ++ list SiteDecision.write s.decisions ++
    Canonical.factors s.factors

def composedSiteDigest (s : ComposedSite) : Digest := Sha256.digestBytes s.write

/-- An immutable publication of a composed site. -/
structure SiteSnapshot where
  site : SiteId := {}
  epoch : Epoch := {}
  generation : Generation := {}
  incarnation : Incarnation := {}
  sequence : UInt64 := 0
  siteDigest : Digest := Digest.zero
  snapshotDigest : Digest := Digest.zero
  publishedAtMs : Int64 := 0
  lifecycle : SiteLifecycle := .unknown
  status : Status := .unknown
  complete : Bool := false
  sources : SourceSet := {}
  factors : Factors := {}
  state : ComposedSite := {}
deriving DecidableEq, Inhabited

/-- The snapshot body; the envelope digest is not part of it. -/
def SiteSnapshot.write (s : SiteSnapshot) : List UInt8 :=
  text s.site.value ++ Canonical.epoch s.epoch ++ Canonical.generation s.generation ++
    Canonical.incarnation s.incarnation ++ u64 s.sequence ++ Canonical.digest s.siteDigest ++
    i64 s.publishedAtMs ++ tag s.lifecycle.ctorIdx ++ tag s.status.ctorIdx ++ flag s.complete ++
    sourceSet s.sources ++ Canonical.factors s.factors ++ s.state.write

namespace Codec

open Lib.Codec

def counter : Codec Nat :=
  u64.record UInt64.toNat UInt64.ofNat Canonical.counter (fun _ => UInt64.ofNat_toNat) fun _ => rfl

/-- The depth of a node: a 32-bit word no deeper than the bound. -/
def depth : Codec Nat :=
  (u32.ensure (fun word => decide (word.toNat ≤ Limits.maxFailureDomainDepth)) .limitExceeded
    fun _ => rfl).record UInt32.toNat UInt32.ofNat (fun n => Canonical.u32 (UInt32.ofNat n))
    (fun _ => UInt32.ofNat_toNat) fun _ => rfl

def ids (tag : IdTag) (bound : Nat) : Codec (List (StrongId tag)) := list (bound + 1) (strongId tag)

def keys (bound : Nat) : Codec (List ResourceKey) := list (bound + 1) resourceKey

def publisher : Codec MemberId :=
  optionalIdentifier.record (fun t => ⟨t⟩) (fun id => id.value) (fun id => Canonical.text id.value)
    (fun _ => rfl) fun _ => rfl

def memberState : Codec MemberDomainState :=
  (memberDomainKey.and <| (enum MemberLifecycle).and <| (enum Status).and <| generation.and <|
    digest.and <| schema.and <| incarnation.and <| publisher.and <| i64.and <|
    (enum EvidenceState).and <| flag.and <| flag.and <| sourceRef.and factors).record
    (fun (domain, lifecycle, status, generation, digest, schema, incarnation, publisher,
        receivedAtMs, evidenceState, expected, expectationPinned, source, factors) =>
      { domain, lifecycle, status, generation, digest, schema, incarnation, publisher
        receivedAtMs, evidenceState, expected, expectationPinned, source, factors })
    (fun s => (s.domain, s.lifecycle, s.status, s.generation, s.digest, s.schema, s.incarnation,
      s.publisher, s.receivedAtMs, s.evidenceState, s.expected, s.expectationPinned, s.source,
      s.factors))
    MemberDomainState.write (fun _ => rfl) fun _ => by
      unfold MemberDomainState.write
      simp only [List.append_assoc]
      rfl

def ownership : Codec ResourceAttribution :=
  (resourceKey.and <| sourceSet.and <| digest.and <| counter.and <| (enum Status).and
    factors).record
    (fun (key, attestors, consensusDigest, distinctContents, status, factors) =>
      { key, attestors, consensusDigest, distinctContents, status, factors })
    (fun a => (a.key, a.attestors, a.consensusDigest, a.distinctContents, a.status, a.factors))
    ResourceAttribution.write (fun _ => rfl) fun _ => by
      unfold ResourceAttribution.write
      simp only [List.append_assoc]
      rfl

def ledgerEntry : Codec CapacityLedgerEntry :=
  (resourceKey.and <| (enum CapacityScope).and <| capacity.and <| sourceSet.and <|
    (enum Status).and <| flag.and factors).record
    (fun (owner, scope, capacity, attestors, status, countedInTotal, factors) =>
      { owner, scope, capacity, attestors, status, countedInTotal, factors })
    (fun e => (e.owner, e.scope, e.capacity, e.attestors, e.status, e.countedInTotal, e.factors))
    CapacityLedgerEntry.write (fun _ => rfl) fun _ => by
      unfold CapacityLedgerEntry.write
      simp only [List.append_assoc]
      rfl

def ledger : Codec CapacityLedger :=
  ((list (Limits.maxDistinctResources + 1) ledgerEntry).and <| capacity.and <| capacity.and <|
    capacity.and <| capacity.and <| flag.and <| (enum Status).and factors).record
    (fun (entries, total, available, excludedByMaintenance, indeterminate, closesExactly, status,
        factors) =>
      { entries, total, available, excludedByMaintenance, indeterminate, closesExactly, status
        factors })
    (fun l => (l.entries, l.total, l.available, l.excludedByMaintenance, l.indeterminate,
      l.closesExactly, l.status, l.factors))
    CapacityLedger.write (fun _ => rfl) fun _ => by
      unfold CapacityLedger.write
      simp only [List.append_assoc]
      rfl

def connectivity : Codec ConnectivitySummary :=
  (counter.and <| counter.and <| counter.and <| counter.and <| counter.and <| counter.and <|
    counter.and <| counter.and <| counter.and <| counter.and <| counter.and <| counter.and <|
    (keys Limits.maxDistinctResources).and <| sourceSet.and (enum Status)).record
    (fun (sharedLinks, sharedLinksUp, sharedLinksDown, sharedLinksDegraded, sharedLinksUnknown,
        externalLinks, internalLinks, gateways, gatewaysUp, gatewaysDown, gatewaysDegraded,
        gatewaysUnknown, unknownState, sources, status) =>
      { sharedLinks, sharedLinksUp, sharedLinksDown, sharedLinksDegraded, sharedLinksUnknown
        externalLinks, internalLinks, gateways, gatewaysUp, gatewaysDown, gatewaysDegraded
        gatewaysUnknown, unknownState, sources, status })
    (fun s => (s.sharedLinks, s.sharedLinksUp, s.sharedLinksDown, s.sharedLinksDegraded,
      s.sharedLinksUnknown, s.externalLinks, s.internalLinks, s.gateways, s.gatewaysUp,
      s.gatewaysDown, s.gatewaysDegraded, s.gatewaysUnknown, s.unknownState, s.sources, s.status))
    ConnectivitySummary.write (fun _ => rfl) fun _ => by
      unfold ConnectivitySummary.write
      simp only [List.append_assoc]
      rfl

def forestNode : Codec FailureDomainNode :=
  ((strongId .failureDomain).and <| (enum FailureDomainClass).and <|
    (optional (strongId .failureDomain)).and <| (keys Limits.maxResourceMembers).and <|
    (ids .failureDomain Limits.maxDistinctFailureDomains).and <|
    (ids .failureDomain Limits.maxFailureDomainDepth).and <| depth.and <| sourceSet.and
    (enum Status)).record
    (fun (id, domainClass, parent, members, children, ancestors, depth, attestors, status) =>
      { id, domainClass, parent, members, children, ancestors, depth, attestors, status })
    (fun n => (n.id, n.domainClass, n.parent, n.members, n.children, n.ancestors, n.depth,
      n.attestors, n.status))
    FailureDomainNode.write (fun _ => rfl) fun _ => by
      unfold FailureDomainNode.write
      simp only [List.append_assoc]
      rfl

def forest : Codec FailureDomainForest :=
  ((list (Limits.maxDistinctFailureDomains + 1) forestNode).and <|
    (ids .failureDomain Limits.maxDistinctFailureDomains).and <|
    (ids .failureDomain Limits.maxDistinctFailureDomains).and <| (enum Status).and factors).record
    (fun (nodes, cyclic, dangling, status, factors) => { nodes, cyclic, dangling, status, factors })
    (fun f => (f.nodes, f.cyclic, f.dangling, f.status, f.factors))
    FailureDomainForest.write (fun _ => rfl) fun _ => by
      unfold FailureDomainForest.write
      simp only [List.append_assoc]
      rfl

def maintenanceEffect : Codec MaintenanceEffect :=
  ((strongId .maintenanceZone).and <| (enum MaintenanceState).and <|
    (keys Limits.maxDistinctResources).and <| (keys Limits.maxDistinctResources).and <|
    (ids .obligation Limits.maxDistinctObligations).and <| capacity.and <| (enum Status).and
    factors).record
    (fun (id, state, excluded, indeterminate, overlappingObligations, excludedCapacity, status,
        factors) =>
      { id, state, excluded, indeterminate, overlappingObligations, excludedCapacity, status
        factors })
    (fun e => (e.id, e.state, e.excluded, e.indeterminate, e.overlappingObligations,
      e.excludedCapacity, e.status, e.factors))
    MaintenanceEffect.write (fun _ => rfl) fun _ => by
      unfold MaintenanceEffect.write
      simp only [List.append_assoc]
      rfl

def verdict : Codec ObligationVerdict :=
  ((strongId .obligation).and <| (enum ObligationKind).and <| (enum Status).and <| u64.and <|
    counter.and <| flag.and <| sourceSet.and factors).record
    (fun (id, kind, status, required, observed, observedKnown, sources, factors) =>
      { id, kind, status, required, observed, observedKnown, sources, factors })
    (fun v => (v.id, v.kind, v.status, v.required, v.observed, v.observedKnown, v.sources,
      v.factors))
    ObligationVerdict.write (fun _ => rfl) fun _ => by
      unfold ObligationVerdict.write
      simp only [List.append_assoc]
      rfl

def conflict : Codec SiteConflict :=
  ((enum Status).and <| resourceKey.and <| sourceSet.and <|
    (list (Limits.maxAttestorsPerResource + 1) (text Limits.maxTextBytes)).and i64).record
    (fun (code, subject, parties, variants, detectedAtMs) =>
      { code, subject, parties, variants, detectedAtMs })
    (fun c => (c.code, c.subject, c.parties, c.variants, c.detectedAtMs))
    SiteConflict.write (fun _ => rfl) fun _ => by
      unfold SiteConflict.write
      simp only [List.append_assoc]
      rfl

def deficit : Codec SiteDeficit :=
  ((enum Status).and <| memberDomainKey.and (text Limits.maxTextBytes)).record
    (fun (code, domain, detail) => { code, domain, detail })
    (fun d => (d.code, d.domain, d.detail))
    SiteDeficit.write (fun _ => rfl) fun _ => by
      unfold SiteDeficit.write
      simp only [List.append_assoc]
      rfl

def decision : Codec SiteDecision :=
  ((enum DecisionKind).and <| resourceKey.and <| (enum Status).and <| sourceSet.and <|
    digest.and factors).record
    (fun (kind, subject, status, sources, valueDigest, factors) =>
      { id := { kind, subject }, status, sources, valueDigest, factors })
    (fun d => (d.id.kind, d.id.subject, d.status, d.sources, d.valueDigest, d.factors))
    SiteDecision.write (fun _ => rfl) fun _ => by
      unfold SiteDecision.write
      simp only [List.append_assoc]
      rfl

def composedSite : Codec ComposedSite :=
  ((strongId .site).and <| epoch.and <| generation.and <| incarnation.and <| i64.and <|
    (enum SiteLifecycle).and <| (enum Status).and <| flag.and <| flag.and <| flag.and <|
    flag.and <| (list (Limits.maxMemberDomains + 1) memberState).and <|
    (list (Limits.maxDistinctResources + 1) ownership).and <| ledger.and <| connectivity.and <|
    forest.and <| (list (Limits.maxDistinctMaintenanceZones + 1) maintenanceEffect).and <|
    (list (Limits.maxDistinctObligations + 1) verdict).and <|
    (list (Limits.maxConflicts + 1) conflict).and <| (list (Limits.maxDeficits + 1) deficit).and <|
    (list (Limits.maxDecisions + 1) decision).and factors).record
    (fun (site, epoch, generation, incarnation, composedAtMs, lifecycle, status,
        membershipComplete, allEvidenceFresh, anyConflict, anyUnknownCapacity, members, ownership,
        capacity, connectivity, failureDomains, maintenance, obligations, conflicts, deficits,
        decisions, factors) =>
      { site, epoch, generation, incarnation, composedAtMs, lifecycle, status
        membershipComplete, allEvidenceFresh, anyConflict, anyUnknownCapacity, members, ownership
        capacity, connectivity, failureDomains, maintenance, obligations, conflicts, deficits
        decisions, factors })
    (fun s => (s.site, s.epoch, s.generation, s.incarnation, s.composedAtMs, s.lifecycle, s.status,
      s.membershipComplete, s.allEvidenceFresh, s.anyConflict, s.anyUnknownCapacity, s.members,
      s.ownership, s.capacity, s.connectivity, s.failureDomains, s.maintenance, s.obligations,
      s.conflicts, s.deficits, s.decisions, s.factors))
    ComposedSite.write (fun _ => rfl) fun _ => by
      unfold ComposedSite.write
      simp only [List.append_assoc]
      rfl

def snapshotBody : Codec SiteSnapshot :=
  ((strongId .site).and <| epoch.and <| generation.and <| incarnation.and <| u64.and <|
    digest.and <| i64.and <| (enum SiteLifecycle).and <| (enum Status).and <| flag.and <|
    sourceSet.and <| factors.and composedSite).record
    (fun (site, epoch, generation, incarnation, sequence, siteDigest, publishedAtMs, lifecycle,
        status, complete, sources, factors, state) =>
      { site, epoch, generation, incarnation, sequence, siteDigest, publishedAtMs, lifecycle
        status, complete, sources, factors, state })
    (fun s => (s.site, s.epoch, s.generation, s.incarnation, s.sequence, s.siteDigest,
      s.publishedAtMs, s.lifecycle, s.status, s.complete, s.sources, s.factors, s.state))
    SiteSnapshot.write (fun _ => rfl) fun _ => by
      unfold SiteSnapshot.write
      simp only [List.append_assoc]
      rfl

/-- The state of a snapshot that was read is written as it was. -/
theorem snapshotBody_state :
    Ensures snapshotBody.read fun s _ => (composedSite.stored s.state).write = s.state.write := by
  have state : Ensures composedSite.read fun s _ => (composedSite.stored s).write = s.write :=
    Ensures.mono composedSite.keeps fun _ _ kept => kept.stable
  have fields := ensures_and (c := strongId .site) <| ensures_and (c := epoch) <|
    ensures_and (c := generation) <| ensures_and (c := incarnation) <| ensures_and (c := u64) <|
    ensures_and (c := digest) <| ensures_and (c := i64) <|
    ensures_and (c := enum SiteLifecycle) <| ensures_and (c := enum Status) <|
    ensures_and (c := flag) <| ensures_and (c := sourceSet) <| ensures_and (c := factors) state
  exact Ensures.bind fields fun _ _ holds => .pure holds

/-- A snapshot that was read does not have its own digest yet. -/
theorem snapshotBody_undigested :
    Ensures snapshotBody.read fun s _ => s.snapshotDigest = Digest.zero :=
  Ensures.bind (Lib.Codec.keeps _) fun _ _ _ => .pure rfl

end Codec

end SiteFabric
