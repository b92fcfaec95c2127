import SiteFabric.Compose.Favourable
import SiteFabric.Lib.Run

/-! What CURRENT takes.
The verdict is the last branch of a cascade over findings of every earlier stage.
Read back through the stages, it says that every member has earned its place,
every resource is attributed, every link and gateway is up, and nothing the site
promises is broken or in doubt. -/

namespace SiteFabric

open Lib
open Std (ExtTreeMap)

namespace ConnectivitySummary

/-- How many links and gateways are not known to be up. -/
def faults (s : ConnectivitySummary) : Nat :=
  (s.sharedLinksUnknown + s.gatewaysUnknown) + (s.sharedLinksDown + s.gatewaysDown) +
    (s.sharedLinksDegraded + s.gatewaysDegraded)

/-- What one entry adds to the faults. -/
def fault (entry : ResourceKey × ResourceRecord) : Nat :=
  let sound := fun state : ConnectivityState =>
    if entry.2.status = .ok ∧ state = .up then 0 else 1
  match entry.1.kind, entry.2.link, entry.2.gateway with
  | .sharedLink, some link, _ => sound link.state
  | .gateway, _, some gateway => sound gateway.state
  | _, _, _ => 0

theorem postLink_faults (s : ConnectivitySummary) (key : ResourceKey) (record : ResourceRecord)
    (link : SharedLinkClaim) :
    (s.postLink key record link).faults =
      s.faults + if record.status = .ok ∧ link.state = .up then 0 else 1 := by
  unfold postLink faults
  by_cases ok : record.status = .ok
  · cases link.external <;> cases link.state <;> simp [ok] <;> omega
  · cases link.external <;> simp [ok] <;> omega

theorem postGateway_faults (s : ConnectivitySummary) (key : ResourceKey) (record : ResourceRecord)
    (gateway : GatewayClaim) :
    (s.postGateway key record gateway).faults =
      s.faults + if record.status = .ok ∧ gateway.state = .up then 0 else 1 := by
  unfold postGateway faults
  by_cases ok : record.status = .ok
  · cases gateway.state <;> simp [ok] <;> omega
  · simp [ok]
    omega

theorem post_faults (s : ConnectivitySummary) (entry : ResourceKey × ResourceRecord) :
    (s.post entry).faults = s.faults + fault entry := by
  unfold post fault
  dsimp only
  cases entry.1.kind <;> cases entry.2.link <;> cases entry.2.gateway <;>
    first
      | rfl
      | exact postLink_faults ..
      | exact postGateway_faults ..

theorem foldl_faults (entries : List (ResourceKey × ResourceRecord)) (s : ConnectivitySummary) :
    (entries.foldl post s).faults = s.faults + (entries.map fault).sum := by
  induction entries generalizing s with
  | nil => rfl
  | cons entry rest ih =>
    rw [List.foldl_cons, ih, post_faults, List.map_cons, List.sum_cons]
    omega

end ConnectivitySummary

/-- A summary that is not unknown and counts nothing down or degraded counts no fault. -/
theorem composeConnectivity_sound [StdSort] {resources : Resources}
    (determinate : (composeConnectivity resources).status ≠ .connectivityUnknown)
    (down : (composeConnectivity resources).sharedLinksDown = 0 ∧
      (composeConnectivity resources).gatewaysDown = 0)
    (degraded : (composeConnectivity resources).sharedLinksDegraded = 0 ∧
      (composeConnectivity resources).gatewaysDegraded = 0) {key : ResourceKey}
    {record : ResourceRecord} (found : resources[key]? = some record) :
    ConnectivitySummary.fault (key, record) = 0 := by
  have counted := ConnectivitySummary.foldl_faults resources.toList {}
  unfold composeConnectivity at determinate down degraded
  dsimp only at determinate down degraded
  generalize resources.toList.foldl ConnectivitySummary.post {} = s at *
  have known : s.sharedLinksUnknown + s.gatewaysUnknown = 0 := by
    by_contra unknown
    refine determinate ?_
    rw [ConnectivitySummary.verdict, if_pos unknown, ite_self]
  have none : s.faults = 0 := by
    unfold ConnectivitySummary.faults
    omega
  rw [none] at counted
  have total : (resources.toList.map ConnectivitySummary.fault).sum = 0 := by
    change 0 = 0 + _ at counted
    omega
  exact List.sum_eq_zero_iff.mp total _ (List.mem_map.mpr ⟨_, mem_toList_iff.mpr found, rfl⟩)

/-- The three answers an obligation can get. -/
theorem verdictFor_status {resources : Resources} {forest : FailureDomainForest}
    {available : CapacityVector} {record : ResourceRecord} {obligation : ProtectedObligation}
    {verdict : ObligationVerdict}
    (answered : verdictFor resources forest available record obligation = some verdict) :
    verdict.status = .ok ∨ verdict.status = .obligationIndeterminate ∨
      verdict.status = .obligationViolated := by
  unfold verdictFor at answered
  dsimp only at answered
  split at answered
  · injection answered with same
    exact .inr (.inl (same ▸ rfl))
  split at answered
  · obtain ⟨seen, _, rfl⟩ := Option.map_eq_some_iff.mp answered
    split
    · exact .inl rfl
    split
    · exact .inr (.inl rfl)
    · exact .inr (.inr rfl)
  split at answered
  · injection answered with same
    exact .inr (.inl (same ▸ rfl))
  split at answered
  · injection answered with same
    exact .inr (.inl (same ▸ rfl))
  · injection answered with same
    subst same
    dsimp only
    split
    · exact .inl rfl
    · exact .inr (.inr rfl)

/-- An attributed record rests on exactly one content. -/
theorem ResourceRecord.resolve_attributed [StdSort] {r : ResourceRecord} {key : ResourceKey}
    (ok : r.resolve.status = .ok) : (r.resolve.attribution key).attributed = true := by
  have one : r.resolve.distinctContents = 1 := by
    obtain ⟨some, agreed, _⟩ := r.resolve_ok_iff.mp ok
    have counts : r.resolve.distinctContents =
        (sort (byKey id) (r.attestations.map (·.content)).dedup).length := by
      unfold resolve
      dsimp only
      split
      · rfl
      split
      · rfl
      split <;> rfl
    have most := (distinct_le_one_iff _).mpr ((agreed_iff r).mp agreed)
    rw [counts]
    refine Nat.le_antisymm most ?_
    rw [(StdSort.perm _ _).length_eq, Nat.one_le_iff_ne_zero, ne_eq, List.length_eq_zero_iff,
      List.dedup_eq_nil, List.map_eq_nil_iff]
    exact some
  rw [ResourceAttribution.attributed, attribution, ok, one]
  rfl

section Declared

theorem ConnectivityState.tag_injective {a b : ConnectivityState} {rest rest' : List UInt8}
    (tags : Canonical.tag a.ctorIdx ++ rest = Canonical.tag b.ctorIdx ++ rest') : a = b := by
  have first := (List.cons.inj tags).1
  cases a <;> cases b <;> first | rfl | exact absurd first (by decide)

/-- Links of one encoding with one identifier are in one state. -/
theorem SharedLinkClaim.state_of_write {a b : SharedLinkClaim} (ids : a.id = b.id)
    (writes : a.write = b.write) : a.state = b.state := by
  simp only [write, ids, List.append_assoc, List.append_cancel_left_eq] at writes
  obtain ⟨_, writes⟩ := List.append_inj writes rfl
  obtain ⟨_, writes⟩ := List.append_inj writes rfl
  obtain ⟨_, writes⟩ := List.append_inj writes rfl
  exact ConnectivityState.tag_injective writes

theorem GatewayClaim.state_of_write {a b : GatewayClaim} (ids : a.id = b.id)
    (writes : a.write = b.write) : a.state = b.state := by
  simp only [write, ids, List.append_assoc, List.append_cancel_left_eq] at writes
  obtain ⟨_, writes⟩ := List.append_inj writes rfl
  obtain ⟨_, writes⟩ := List.append_inj writes rfl
  exact ConnectivityState.tag_injective writes

/-- Two encodings of one digest. -/
def Collide (a b : List UInt8) : Prop := a ≠ b ∧ Sha256.digestBytes a = Sha256.digestBytes b

namespace MemberPublicationRecord

theorem link_claims {r : MemberPublicationRecord} {link : SharedLinkClaim} :
    Claim.link link ∈ r.claims ↔ ∃ d, r.declaration = some d ∧ link ∈ d.sharedLinks := by
  unfold claims
  cases r.declaration with
  | none => simp
  | some d => simp [MemberDomainDeclaration.claims]

theorem gateway_claims {r : MemberPublicationRecord} {gateway : GatewayClaim} :
    Claim.gateway gateway ∈ r.claims ↔ ∃ d, r.declaration = some d ∧ gateway ∈ d.gateways := by
  unfold claims
  cases r.declaration with
  | none => simp
  | some d => simp [MemberDomainDeclaration.claims]

/-- The first claim on the key of a declared item is of its kind, where the claims listed
before its kind are on other keys. -/
theorem firstClaim_of_split {α : Type} {wrap : α → Claim} {r : MemberPublicationRecord}
    {before after : List Claim} {items : List α} {item : α}
    (split : r.claims = before ++ (items.map wrap ++ after)) (listed : item ∈ items)
    (apart : ∀ claim ∈ before, claim.key ≠ (wrap item).key) :
    ∃ first, r.firstClaim (wrap item).key = some (wrap first) := by
  have passed : before.find? (fun claim => decide (claim.key = (wrap item).key)) = none := by
    rw [List.find?_eq_none]
    intro claim member same
    exact apart claim member (of_decide_eq_true same)
  rw [firstClaim, split, List.find?_append, passed, Option.none_or, List.find?_append]
  cases found : (items.map wrap).find? (fun claim => decide (claim.key = (wrap item).key)) with
  | none =>
    have missed := List.find?_eq_none.mp found (wrap item) (List.mem_map.mpr ⟨item, listed, rfl⟩)
    exact absurd (decide_eq_true rfl) missed
  | some claim =>
    obtain ⟨first, _, rfl⟩ := List.mem_map.mp (List.mem_of_find?_eq_some found)
    exact ⟨first, Option.some_or⟩

theorem firstClaim_link {r : MemberPublicationRecord} {link : SharedLinkClaim}
    (claimed : Claim.link link ∈ r.claims) :
    ∃ first, r.firstClaim (Claim.link link).key = some (.link first) := by
  obtain ⟨d, declared, listed⟩ := link_claims.mp claimed
  obtain ⟨after, split⟩ : ∃ after, r.claims =
      (d.clusters.map .cluster ++ d.pods.map .pod ++ d.racks.map .rack) ++
        (d.sharedLinks.map .link ++ after) := by
    rw [claims, declared]
    simp only [MemberDomainDeclaration.claims, List.append_assoc]
    exact ⟨_, rfl⟩
  refine firstClaim_of_split split listed fun claim member same => ?_
  have kind := congrArg ResourceKey.kind same
  simp only [List.mem_append, List.mem_map] at member
  obtain (⟨_, _, rfl⟩ | ⟨_, _, rfl⟩) | ⟨_, _, rfl⟩ := member <;> cases kind

theorem firstClaim_gateway {r : MemberPublicationRecord} {gateway : GatewayClaim}
    (claimed : Claim.gateway gateway ∈ r.claims) :
    ∃ first, r.firstClaim (Claim.gateway gateway).key = some (.gateway first) := by
  obtain ⟨d, declared, listed⟩ := gateway_claims.mp claimed
  obtain ⟨after, split⟩ : ∃ after, r.claims =
      (d.clusters.map .cluster ++ d.pods.map .pod ++ d.racks.map .rack ++
        d.sharedLinks.map .link) ++ (d.gateways.map .gateway ++ after) := by
    rw [claims, declared]
    simp only [MemberDomainDeclaration.claims, List.append_assoc]
    exact ⟨_, rfl⟩
  refine firstClaim_of_split split listed fun claim member same => ?_
  have kind := congrArg ResourceKey.kind same
  simp only [List.mem_append, List.mem_map] at member
  obtain ((⟨_, _, rfl⟩ | ⟨_, _, rfl⟩) | ⟨_, _, rfl⟩) | ⟨_, _, rfl⟩ := member <;> cases kind

end MemberPublicationRecord

/-- A kind of claim that leads the claims on its keys and agrees with itself
within a declaration that validates. -/
structure Leading {γ : Type} (wrap : γ → Claim) (read : Claim → Option γ) : Prop where
  reads : ∀ claim item, read claim = some item ↔ claim = wrap item
  leads : ∀ (r : MemberPublicationRecord) item, wrap item ∈ r.claims →
    ∃ first, r.firstClaim (wrap item).key = some (wrap first)
  agrees : ∀ (r : MemberPublicationRecord) [StdSort] d canonical, r.declaration = some d →
    d.canonicalize = .ok canonical → ∀ a b, wrap a ∈ r.claims → wrap b ∈ r.claims →
    (wrap a).key = (wrap b).key → (wrap a).digest = (wrap b).digest

/-- What is listed in the declaration of a record is listed in the one it is known to have. -/
theorem MemberPublicationRecord.listed_of_declared {r : MemberPublicationRecord}
    {d : MemberDomainDeclaration} {listed : MemberDomainDeclaration → Prop}
    (declared : r.declaration = some d) (some : ∃ d', r.declaration = some d' ∧ listed d') :
    listed d := by
  obtain ⟨d', declared', holds⟩ := some
  cases declared.symm.trans declared'
  exact holds

theorem leadingLinks : Leading Claim.link Claim.link? where
  reads claim item := by cases claim <;> simp [Claim.link?]
  leads r item claimed := MemberPublicationRecord.firstClaim_link claimed
  agrees r _ d canonical declared accepted a b claimedA claimedB keys := by
    have listedA := r.listed_of_declared declared
      (MemberPublicationRecord.link_claims.mp claimedA)
    have listedB := r.listed_of_declared declared
      (MemberPublicationRecord.link_claims.mp claimedB)
    refine (MemberDomainDeclaration.canonicalize_agrees accepted).1 a listedA b listedB ?_
    exact congrArg StrongId.mk (congrArg ResourceKey.id keys :)

theorem leadingGateways : Leading Claim.gateway Claim.gateway? where
  reads claim item := by cases claim <;> simp [Claim.gateway?]
  leads r item claimed := MemberPublicationRecord.firstClaim_gateway claimed
  agrees r _ d canonical declared accepted a b claimedA claimedB keys := by
    have listedA := r.listed_of_declared declared
      (MemberPublicationRecord.gateway_claims.mp claimedA)
    have listedB := r.listed_of_declared declared
      (MemberPublicationRecord.gateway_claims.mp claimedB)
    refine (MemberDomainDeclaration.canonicalize_agrees accepted).2 a listedA b listedB ?_
    exact congrArg StrongId.mk (congrArg ResourceKey.id keys :)

namespace CompositionInput

variable [StdSort] {input : CompositionInput} {expectation : SiteExpectation}
  {site : ComposedSite}

/-- A declared claim has the digest of the claim its resource record kept. -/
theorem declared_kept {γ : Type} {wrap : γ → Claim} {read : Claim → Option γ}
    {slot : ResourceRecord → Option γ} (leading : Leading wrap read)
    (of : ResourceRecord.Slot slot read) (parts : input.Composes expectation site)
    (favoured : input.Favoured expectation site) {record : MemberPublicationRecord}
    (selected : input.Selects record) {item : γ} (claimed : wrap item ∈ record.claims) :
    ∃ resource kept, (input.resources expectation)[(wrap item).key]? = some resource ∧
      slot resource = some kept ∧ (wrap kept).key = (wrap item).key ∧
      (wrap kept).digest = (wrap item).digest := by
  have few := (prepare_ok parts.prepared).1
  have member : wrap item ∈ input.claimsOn (wrap item).key :=
    mem_claimsOn.mpr ⟨record, selected, claimed, rfl⟩
  have some : ((input.resources expectation)[(wrap item).key]?).isSome = true :=
    (resources_isSome_iff _).mpr (List.ne_nil_of_mem member)
  obtain ⟨resource, found⟩ := Option.isSome_iff_exists.mp some
  have settled := (resources_ok_iff_settled few found).mp (favoured.records _ _ found)
  have slot_eq := resources_slot_eq of found
  cases last : ((input.claimsOn (wrap item).key).filterMap read).getLast? with
  | none =>
    rw [List.getLast?_eq_none_iff, List.filterMap_eq_nil_iff] at last
    have missed := last _ member
    rw [(leading.reads _ _).mpr rfl] at missed
    cases missed
  | some kept =>
    obtain ⟨claim, listed, isKept⟩ := List.mem_filterMap.mp (List.mem_of_getLast? last)
    obtain ⟨record', selected', claimed', named⟩ := mem_claimsOn.mp listed
    rw [(leading.reads _ _).mp isKept] at claimed' named
    refine ⟨resource, kept, found, slot_eq.trans last, named, ?_⟩
    -- Both records lead with a claim of this kind, and the leads agree.
    obtain ⟨first, leads⟩ := leading.leads record item claimed
    obtain ⟨first', leads'⟩ := leading.leads record' kept claimed'
    obtain ⟨lead, lead_key⟩ := firstClaim_mem leads
    obtain ⟨lead', lead_key'⟩ := firstClaim_mem leads'
    rw [named] at leads' lead_key'
    have agreed := settled.agreed record record' _ _ selected selected' leads leads'
    obtain ⟨d, declared, _, _, ⟨canonical, accepted⟩, _⟩ :=
      (settled.earned record _ selected leads).declared
    obtain ⟨d', declared', _, _, ⟨canonical', accepted'⟩, _⟩ :=
      (settled.earned record' _ selected' leads').declared
    calc (wrap kept).digest
        = (wrap first').digest := leading.agrees record' d' canonical' declared' accepted' kept
          first' claimed' lead' (named.trans lead_key'.symm)
      _ = (wrap first).digest := agreed.symm
      _ = (wrap item).digest := leading.agrees record d canonical declared accepted first item
          lead claimed lead_key

/-- A site that has earned CURRENT. -/
structure IsCurrent (input : CompositionInput) (expectation : SiteExpectation)
    (site : ComposedSite) : Prop where
  expected : expectation.members ≠ []
  members : ∀ member ∈ site.members, member.lifecycle = .current ∧
    ∃ record, input.Selects record ∧ record.domain = member.domain ∧
      record.generation = member.generation ∧ record.digest = member.digest ∧
      Earned input expectation record
  ownership : ∀ attribution ∈ site.ownership, attribution.attributed = true
  conflicts : site.conflicts = []
  acyclic : site.failureDomains.cyclic = []
  anchored : site.failureDomains.dangling = []
  sourced : ∀ node ∈ site.failureDomains.nodes, node.status ≠ .noAuthoritativeSource
  linksUp : ∀ (key : ResourceKey) record link, (input.resources expectation)[key]? = some record →
    record.link = some link → link.state = .up
  gatewaysUp : ∀ (key : ResourceKey) record gateway,
    (input.resources expectation)[key]? = some record → record.gateway = some gateway →
    gateway.state = .up
  /-- A declared link is up too, short of a collision with the encoding of one that is. -/
  declaredLinksUp : ∀ record link, input.Selects record → .link link ∈ record.claims →
    link.state = .up ∨ ∃ kept : SharedLinkClaim, kept.state = .up ∧ Collide kept.write link.write
  declaredGatewaysUp : ∀ record gateway, input.Selects record → .gateway gateway ∈ record.claims →
    gateway.state = .up ∨ ∃ kept : GatewayClaim, kept.state = .up ∧
      Collide kept.write gateway.write
  maintenance : ∀ effect ∈ site.maintenance, effect.status ≠ .maintenanceUnknown
  obligations : ∀ verdict ∈ site.obligations, verdict.status = .ok

/-- A kept claim stands under its own key. -/
theorem kept_key {γ : Type} {wrap : γ → Claim} {read : Claim → Option γ}
    {slot : ResourceRecord → Option γ} (leading : Leading wrap read)
    (of : ResourceRecord.Slot slot read) {key : ResourceKey} {record : ResourceRecord} {kept : γ}
    (found : (input.resources expectation)[key]? = some record) (holds : slot record = some kept) :
    (wrap kept).key = key := by
  rw [resources_slot_eq of found] at holds
  obtain ⟨claim, listed, isKept⟩ := List.mem_filterMap.mp (List.mem_of_getLast? holds)
  obtain ⟨_, _, _, named⟩ := mem_claimsOn.mp listed
  rwa [(leading.reads _ _).mp isKept] at named

theorem Composes.faultless (parts : input.Composes expectation site)
    (verdict : site.lifecycle = .current) {key : ResourceKey} {record : ResourceRecord}
    (found : (input.resources expectation)[key]? = some record) :
    ConnectivitySummary.fault (key, record) = 0 := by
  have favoured := parts.favoured (by rw [verdict]; rfl)
  rw [parts.lifecycle] at verdict
  have reduced := SiteFindings.reduced_of_current verdict
  simp only [siteFindings, Bool.or_eq_false_iff, ne_eq, decide_not, Bool.not_eq_false',
    decide_eq_true_eq] at reduced
  have determinate := favoured.connectivity
  rw [parts.connectivity] at determinate reduced
  exact composeConnectivity_sound determinate reduced.1.2 reduced.2 found

theorem Composes.linkUp (parts : input.Composes expectation site)
    (verdict : site.lifecycle = .current) {key : ResourceKey} {record : ResourceRecord}
    (found : (input.resources expectation)[key]? = some record) {link : SharedLinkClaim}
    (holds : record.link = some link) : link.state = .up := by
  have sound := parts.faultless verdict found
  rw [← kept_key leadingLinks ResourceRecord.linkSlot found holds] at sound
  simp only [ConnectivitySummary.fault, Claim.key, ResourceKey.sharedLink, holds] at sound
  by_contra down
  rw [if_neg fun up => down up.2] at sound
  cases sound

theorem Composes.gatewayUp (parts : input.Composes expectation site)
    (verdict : site.lifecycle = .current) {key : ResourceKey} {record : ResourceRecord}
    (found : (input.resources expectation)[key]? = some record) {gateway : GatewayClaim}
    (holds : record.gateway = some gateway) : gateway.state = .up := by
  have sound := parts.faultless verdict found
  rw [← kept_key leadingGateways ResourceRecord.gatewaySlot found holds] at sound
  simp only [ConnectivitySummary.fault, Claim.key, ResourceKey.gateway, holds] at sound
  by_contra down
  rw [if_neg fun up => down up.2] at sound
  cases sound

theorem Composes.isCurrent (parts : input.Composes expectation site)
    (verdict : site.lifecycle = .current) : IsCurrent input expectation site := by
  have favoured := parts.favoured (by rw [verdict]; rfl)
  have few := (prepare_ok parts.prepared).1
  have reduced := SiteFindings.reduced_of_current (parts.lifecycle ▸ verdict)
  refine {
    expected := favoured.expected
    conflicts := favoured.conflicts
    acyclic := favoured.acyclic
    maintenance := favoured.maintenance
    linksUp := fun key record link found holds => parts.linkUp verdict found holds
    gatewaysUp := fun key record gateway found holds => parts.gatewayUp verdict found holds
    members := ?members, ownership := ?ownership, anchored := ?anchored, sourced := ?sourced
    declaredLinksUp := ?links, declaredGatewaysUp := ?gateways, obligations := ?obligations }
  case members =>
    intro member listed
    have current := favoured.members member listed
    obtain ⟨record, selected, rfl⟩ := parts.member listed current
    exact ⟨current, record, selected, rfl, rfl, rfl, parts.earned favoured.members selected⟩
  case ownership =>
    intro attribution listed
    rw [parts.ownership, ownershipOf] at listed
    obtain ⟨⟨key, record⟩, found, rfl⟩ := List.mem_map.mp listed
    have ok := favoured.records key record (mem_toList_iff.mp found)
    obtain ⟨raw, rfl, _⟩ := resources_resolved (admitMembers_orderly few) (mem_toList_iff.mp found)
    exact ResourceRecord.resolve_attributed ok
  case anchored =>
    have acyclic := favoured.acyclic
    have anchored := favoured.anchored
    rw [parts.failureDomains] at acyclic anchored ⊢
    exact FailureDomainForest.grade_dangling acyclic anchored
  case sourced =>
    intro node listed unsourced
    rw [parts.failureDomains] at listed
    obtain ⟨key, record, found, status⟩ := composeForest_unsourced listed unsourced
    rw [favoured.records key record found] at status
    cases status
  case links =>
    intro record link selected claimed
    obtain ⟨resource, kept, found, holds, key, digest⟩ :=
      declared_kept leadingLinks ResourceRecord.linkSlot parts favoured selected claimed
    have up := parts.linkUp verdict found holds
    by_cases writes : kept.write = link.write
    · have ids : kept.id = link.id := congrArg StrongId.mk (congrArg ResourceKey.id key :)
      exact .inl ((SharedLinkClaim.state_of_write ids writes).symm.trans up)
    · exact .inr ⟨kept, up, writes, digest⟩
  case gateways =>
    intro record gateway selected claimed
    obtain ⟨resource, kept, found, holds, key, digest⟩ :=
      declared_kept leadingGateways ResourceRecord.gatewaySlot parts favoured selected claimed
    have up := parts.gatewayUp verdict found holds
    by_cases writes : kept.write = gateway.write
    · have ids : kept.id = gateway.id := congrArg StrongId.mk (congrArg ResourceKey.id key :)
      exact .inl ((GatewayClaim.state_of_write ids writes).symm.trans up)
    · exact .inr ⟨kept, up, writes, digest⟩
  case obligations =>
    intro answer listed
    obtain ⟨verdicts, voted, sorted⟩ := parts.obligations
    have among := listed
    rw [sorted, mem_sort] at among
    obtain ⟨⟨record, obligation⟩, _, answered⟩ := mem_of_mapM voted among
    simp only [siteFindings, Bool.or_eq_false_iff, List.any_eq_false, decide_eq_true_eq] at reduced
    rcases verdictFor_status answered with ok | indeterminate | violated
    · exact ok
    · exact absurd indeterminate (favoured.determinate answer listed)
    · exact absurd violated (reduced.1.1 answer listed)

end CompositionInput

end Declared

/-- A composed site is CURRENT only when it has earned it. -/
theorem current_is_earned [StdSort] {input : CompositionInput} {site : ComposedSite}
    (composed : compose input = .composed site) (current : site.lifecycle = .current) :
    ∃ expectation, input.prepare = .ok expectation ∧ input.IsCurrent expectation site := by
  obtain ⟨expectation, parts⟩ := CompositionInput.compose_composes composed
  exact ⟨expectation, parts.prepared, parts.isCurrent current⟩

theorem uplinked_site_is_current :
    ∃ site, compose (CompositionInput.sample [.uplinked [.sample (ascii "link-1") 5]]) =
        .composed site ∧ site.lifecycle = .current ∧
      ∃ expectation, (CompositionInput.sample
        [.uplinked [.sample (ascii "link-1") 5]]).prepare = .ok expectation ∧
        (CompositionInput.sample [.uplinked [.sample (ascii "link-1") 5]]).IsCurrent
          expectation site := by
  obtain ⟨site, composed, current⟩ := uplinked_composes_current
  exact ⟨site, composed, current, current_is_earned composed current⟩

end SiteFabric
