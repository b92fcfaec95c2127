import SiteFabric.Compose.Decisions
import SiteFabric.Compose.Favourable
import SiteFabric.Compose.Totality
import SiteFabric.Compose.Sealed

/-! The evidence behind what is counted.
Every claim carries evidence of its own. Canonicalization checks its shape;
freshness is asked of the declaration's envelope alone. What composition counts is
fresh exactly when the claims in force were declared with evidence that is still
good. -/

namespace SiteFabric

open Lib
open Std (ExtTreeMap)

/-- Evidence that is nobody's invention, not ahead of the clock and not expired. -/
structure Evidence.Timely (e : Evidence) (nowMs : Int64) : Prop where
  genuine : e.provenance ≠ .synthetic ∧ e.provenance ≠ .reconstructed
  notAhead : ¬ e.observedAtMs > nowMs + futureSkewMs
  lasting : ¬ e.observedAtMs + e.ttlMs.toInt64 < nowMs

theorem Evidence.evaluate_fresh_iff (e : Evidence) (nowMs : Int64) :
    e.evaluate nowMs = .fresh ↔ e.check = .ok () ∧ e.Timely nowMs := by
  have parts : e.Timely nowMs ↔ (e.provenance ≠ .synthetic ∧ e.provenance ≠ .reconstructed) ∧
      ¬ e.observedAtMs > nowMs + futureSkewMs ∧ ¬ e.observedAtMs + e.ttlMs.toInt64 < nowMs :=
    ⟨fun t => ⟨t.genuine, t.notAhead, t.lasting⟩, fun t => ⟨t.1, t.2.1, t.2.2⟩⟩
  rw [parts]
  unfold evaluate check
  by_cases unknown : e.provenance = .unknown
  · simp [unknown]
  by_cases early : e.observedAtMs ≤ 0
  · simp [unknown, early]
  by_cases span : e.ttlMs = 0 ∨ e.ttlMs > Limits.maxEvidenceTtlMs
  · simp [unknown, early, span]
  simp only [unknown, early, span, if_false, or_self, true_and]
  by_cases ahead : e.observedAtMs > nowMs + futureSkewMs
  · simp [ahead]
  by_cases synthetic : e.provenance = .synthetic
  · simp [ahead, synthetic]
  by_cases reconstructed : e.provenance = .reconstructed
  · simp [ahead, reconstructed]
  by_cases expired : e.observedAtMs + e.ttlMs.toInt64 < nowMs
  · simp [ahead, synthetic, reconstructed, expired]
  · simp [ahead, synthetic, reconstructed, expired]

namespace Claim

def evidence : Claim → Evidence
  | .cluster claim => claim.evidence
  | .pod claim => claim.evidence
  | .rack claim => claim.evidence
  | .link claim => claim.evidence
  | .gateway claim => claim.evidence
  | .pool claim => claim.evidence
  | .domain claim => claim.evidence
  | .zone claim => claim.evidence
  | .obligation claim => claim.evidence

/-- The capacity a claim puts on the channels it feeds. -/
def offer : Claim → Option Offer
  | .rack claim =>
    some { scope := .rackLocal, mask := maskFor .rackLocal false, capacity := claim.localCapacity }
  | .link claim =>
    some { scope := .sharedLink, mask := maskFor .sharedLink claim.external
           capacity := claim.capacity }
  | .gateway claim =>
    some { scope := .gateway, mask := maskFor .gateway true, capacity := claim.capacity }
  | .pool claim =>
    some { scope := claim.scope, mask := maskFor claim.scope false, capacity := claim.capacity }
  | _ => none

end Claim

/-- The claim a record's offer is taken from. -/
def ResourceRecord.offered (r : ResourceRecord) : Option Claim :=
  match r.rack, r.link, r.gateway, r.pool with
  | some rack, _, _, _ => some (.rack rack)
  | none, some link, _, _ => some (.link link)
  | none, none, some gateway, _ => some (.gateway gateway)
  | none, none, none, some pool => some (.pool pool)
  | none, none, none, none => none

theorem ResourceRecord.offer_eq_offered (r : ResourceRecord) :
    r.offer = r.offered.bind Claim.offer := by
  unfold ResourceRecord.offer ResourceRecord.offered
  cases r.rack <;> cases r.link <;> cases r.gateway <;> cases r.pool <;> rfl

section Checked

variable {α : Type}

theorem header_of_bind {valid : Bool} {generation : Generation} {evidence : Evidence}
    {rest : Except Status α} {kept : α}
    (checked : (checkHeader valid generation evidence >>= fun _ => rest) = .ok kept) :
    valid = true ∧ evidence.check = .ok () := by
  cases header : checkHeader valid generation evidence with
  | error _ =>
    rw [header] at checked
    cases checked
  | ok done => exact checkHeader_ok header

end Checked

/-- Every claim of a declaration that canonicalizes has a key and evidence in order. -/
theorem MemberDomainDeclaration.claims_checked [StdSort] {d canonical : MemberDomainDeclaration}
    (accepted : d.canonicalize = .ok canonical) {claim : Claim} (listed : claim ∈ d.claims) :
    claim.key.valid = true ∧ claim.evidence.check = .ok () := by
  obtain ⟨_, _, accepted⟩ := bind_ok accepted
  obtain ⟨_, clusters, accepted⟩ := bind_ok accepted
  obtain ⟨_, pods, accepted⟩ := bind_ok accepted
  obtain ⟨_, racks, accepted⟩ := bind_ok accepted
  obtain ⟨_, links, accepted⟩ := bind_ok accepted
  obtain ⟨_, gateways, accepted⟩ := bind_ok accepted
  obtain ⟨_, pools, accepted⟩ := bind_ok accepted
  obtain ⟨_, domains, accepted⟩ := bind_ok accepted
  obtain ⟨_, zones, accepted⟩ := bind_ok accepted
  obtain ⟨_, obligations, _⟩ := bind_ok accepted
  simp only [claims, List.mem_append, List.mem_map] at listed
  rcases listed with (((((((⟨c, own, rfl⟩ | ⟨c, own, rfl⟩) | ⟨c, own, rfl⟩) | ⟨c, own, rfl⟩) |
    ⟨c, own, rfl⟩) | ⟨c, own, rfl⟩) | ⟨c, own, rfl⟩) | ⟨c, own, rfl⟩) | ⟨c, own, rfl⟩
  · obtain ⟨_, checked⟩ := canonicalizeClaims_each clusters own
    exact header_of_bind checked
  · obtain ⟨_, checked⟩ := canonicalizeClaims_each pods own
    exact header_of_bind checked
  · obtain ⟨_, checked⟩ := canonicalizeClaims_each racks own
    exact header_of_bind checked
  · obtain ⟨_, checked⟩ := canonicalizeClaims_each links own
    exact header_of_bind checked
  · obtain ⟨_, checked⟩ := canonicalizeClaims_each gateways own
    exact header_of_bind checked
  · obtain ⟨_, checked⟩ := canonicalizeClaims_each pools own
    exact (header_of_bind checked).imp_left fun valid => (Bool.and_eq_true_iff.mp valid).1
  · obtain ⟨_, checked⟩ := canonicalizeClaims_each domains own
    refine (header_of_bind checked).imp_left fun valid => ?_
    simp only [FailureDomainClaim.valid, Bool.and_eq_true] at valid
    exact valid.1.1.1.1
  · obtain ⟨_, checked⟩ := canonicalizeClaims_each zones own
    refine (header_of_bind checked).imp_left fun valid => ?_
    simp only [MaintenanceZone.valid, Bool.and_eq_true] at valid
    exact valid.1.1.1.1
  · obtain ⟨_, checked⟩ := canonicalizeClaims_each obligations own
    refine (header_of_bind checked).imp_left fun valid => ?_
    simp only [ProtectedObligation.valid, Bool.and_eq_true] at valid
    exact valid.1.1.1.1.1

namespace Claim

/-- What a claim puts on a channel. -/
def on (c : CapacityChannel) (claim : Claim) : CapacityValue :=
  (claim.offer.map (·.capacity.channel c)).getD .unknown

def feeds (c : CapacityChannel) (claim : Claim) : Bool := claim.offer.any (·.mask.feeds c)

end Claim

/-- What an attributed record puts on a channel. -/
def ResourceRecord.puts (c : CapacityChannel) (r : ResourceRecord) : Option CapacityValue :=
  if r.status = .ok then (r.offered.filter (·.feeds c)).map (Claim.on c) else none

/-- The values some owners put on a channel. -/
theorem channelValues_owned (resources : Resources) (c : CapacityChannel) (q : ResourceKey → Bool) :
    channelValues c (((collectLedgerBuilds resources).filter (·.counted)).filter fun b => q b.owner) =
      resources.toList.filterMap fun entry => if q entry.1 then entry.2.puts c else none := by
  unfold channelValues collectLedgerBuilds
  rw [List.filter_filterMap, List.filter_filterMap, List.filter_filterMap, List.map_filterMap]
  refine List.filterMap_congr fun entry _ => ?_
  obtain ⟨key, record⟩ := entry
  dsimp only
  rw [record.offer_eq_offered, ResourceRecord.puts]
  cases record.offered with
  | none => simp
  | some claim =>
    cases made : claim.offer with
    | none => simp [made, Claim.feeds]
    | some offer =>
      obtain ⟨owner, _, mask, capacity⟩ := ledgerBuild_frame key record offer
      cases feeds : offer.mask.feeds c with
      | false =>
        cases counted : (ledgerBuild key record offer).counted <;> cases owned : q key <;>
          simp [Option.filter, counted, owner, owned, mask, feeds, made, Claim.feeds]
      | true =>
        have counted := ledgerBuild_counted key record feeds
        cases owned : q key <;> by_cases ok : record.status = .ok
        · simp [Option.filter, counted, ok, owner, owned, made]
        · simp [Option.filter, counted, ok, made]
        · rw [decide_eq_true ok] at counted
          simp [Option.filter, counted, mask, feeds, capacity, made, ok, owner, owned, Claim.feeds,
            Claim.on]
        · rw [decide_eq_false ok] at counted
          simp [Option.filter, counted, made, ok]

/-- A pass that counts one for each entry that is taken counts those taken. -/
theorem foldl_counts {σ α β : Type} {post : σ → α → σ} {counter : σ → Nat} {taken : α → Option β}
    (one : ∀ s a, counter (post s a) = counter s + (taken a).toList.length) (entries : List α)
    (s : σ) :
    counter (entries.foldl post s) = counter s + (entries.filterMap taken).length := by
  induction entries generalizing s with
  | nil => rfl
  | cons a entries ih =>
    rw [List.foldl_cons, ih, one, List.filterMap_cons]
    cases taken a with
    | none => simp
    | some b => simp; omega

namespace ConnectivitySummary

theorem post_linksUp (s : ConnectivitySummary) (entry : ResourceKey × ResourceRecord) :
    (s.post entry).sharedLinksUp = s.sharedLinksUp +
      (if entry.1.kind = .sharedLink ∧ entry.2.status = .ok then
        entry.2.link.filter (·.state = .up) else none).toList.length := by
  obtain ⟨key, record⟩ := entry
  unfold post
  dsimp only
  split
  · next link kind held =>
    rw [kind, held, postLink]
    by_cases ok : record.status = .ok
    · cases link.external <;> cases state : link.state <;> simp [ok, state, Option.filter]
    · cases link.external <;> simp [ok]
  · next gateway kind held =>
    rw [kind, postGateway]
    by_cases ok : record.status = .ok
    · cases gateway.state <;> simp [ok]
    · simp [ok]
  · next other _ =>
    by_cases kind : key.kind = .sharedLink
    · cases held : record.link with
      | none => simp
      | some link => exact absurd held (other link kind)
    · simp [kind]

theorem post_gatewaysUp (s : ConnectivitySummary) (entry : ResourceKey × ResourceRecord) :
    (s.post entry).gatewaysUp = s.gatewaysUp +
      (if entry.1.kind = .gateway ∧ entry.2.status = .ok then
        entry.2.gateway.filter (·.state = .up) else none).toList.length := by
  obtain ⟨key, record⟩ := entry
  unfold post
  dsimp only
  split
  · next link kind held =>
    rw [kind, postLink]
    by_cases ok : record.status = .ok
    · cases link.external <;> cases link.state <;> simp [ok]
    · cases link.external <;> simp [ok]
  · next gateway kind held =>
    rw [kind, held, postGateway]
    by_cases ok : record.status = .ok
    · cases state : gateway.state <;> simp [ok, state, Option.filter]
    · simp [ok]
  · next _ other =>
    by_cases kind : key.kind = .gateway
    · cases held : record.gateway with
      | none => simp
      | some gateway => exact absurd held (other gateway kind)
    · simp [kind]

end ConnectivitySummary

namespace CompositionInput

section Counted

variable [StdSort] (input : CompositionInput) (expectation : SiteExpectation)

/-- The claims whose capacity the total sums on a channel. -/
def summed (c : CapacityChannel) : List Claim :=
  (input.resources expectation).toList.filterMap fun entry =>
    if entry.2.status = .ok then entry.2.offered.filter (·.feeds c) else none

/-- The claims that are counted as links that are up. -/
def linksUp : List SharedLinkClaim :=
  (input.resources expectation).toList.filterMap fun entry =>
    if entry.1.kind = .sharedLink ∧ entry.2.status = .ok then entry.2.link.filter (·.state = .up)
    else none

/-- The claims that are counted as gateways that are up. -/
def gatewaysUp : List GatewayClaim :=
  (input.resources expectation).toList.filterMap fun entry =>
    if entry.1.kind = .gateway ∧ entry.2.status = .ok then entry.2.gateway.filter (·.state = .up)
    else none

/-- The capacity that is summed is that of these claims. -/
theorem summed_values (c : CapacityChannel) :
    channelValues c ((input.builds expectation).filter (·.counted)) =
      (input.summed expectation c).map (Claim.on c) := by
  have owned := channelValues_owned (input.resources expectation) c fun _ => true
  rw [List.filter_true] at owned
  rw [builds, owned, summed, List.map_filterMap]
  refine List.filterMap_congr fun entry _ => ?_
  rw [if_pos rfl, ResourceRecord.puts]
  split <;> rfl

/-- The total of a channel is the tally of the claims summed there. -/
theorem total_summed {site : ComposedSite} (parts : input.Composes expectation site)
    (c : CapacityChannel) :
    site.capacity.total.channel c =
      (Tally.tallyOf ((input.summed expectation c).map (Claim.on c))).value := by
  rw [parts.capacity, ← summed_values, ← aggregate_channel,
    ← post_total (excludedKeys (input.effects expectation)), ← CapacityAggregate.total_channel]
  rfl

theorem linksUp_length {site : ComposedSite} (parts : input.Composes expectation site) :
    site.connectivity.sharedLinksUp = (input.linksUp expectation).length := by
  rw [parts.connectivity]
  exact (foldl_counts ConnectivitySummary.post_linksUp _ {}).trans (Nat.zero_add _)

theorem gatewaysUp_length {site : ComposedSite} (parts : input.Composes expectation site) :
    site.connectivity.gatewaysUp = (input.gatewaysUp expectation).length := by
  rw [parts.connectivity]
  exact (foldl_counts ConnectivitySummary.post_gatewaysUp _ {}).trans (Nat.zero_add _)

end Counted

/-- What the claims of the selected records leave on a key. -/
def slotsOn (input : CompositionInput) (key : ResourceKey) : ResourceRecord :=
  (input.claimsOn key).foldl ResourceRecord.keep {}

variable [StdSort] {input : CompositionInput} {expectation : SiteExpectation}

theorem slotsOn_offered {key : ResourceKey} {record : ResourceRecord}
    (found : (input.resources expectation)[key]? = some record) :
    record.offered = (input.slotsOn key).offered := by
  rw [slotsOn, ResourceRecord.offered, ResourceRecord.offered,
    slot_claims ResourceRecord.rackSlot found, slot_claims ResourceRecord.linkSlot found,
    slot_claims ResourceRecord.gatewaySlot found, slot_claims ResourceRecord.poolSlot found]

/-- What the attributed records show is what settled keys were left with. -/
theorem exists_ok_iff (few : input.publications.length ≤ Limits.maxMemberDomains)
    (shows : ResourceKey → ResourceRecord → Prop)
    (left : ∀ (key : ResourceKey) record, (input.resources expectation)[key]? = some record →
      (shows key record ↔ shows key (input.slotsOn key))) :
    (∃ entry ∈ (input.resources expectation).toList,
      entry.2.status = .ok ∧ shows entry.1 entry.2) ↔
    ∃ key, input.Settled expectation key ∧ shows key (input.slotsOn key) := by
  constructor
  · rintro ⟨⟨key, record⟩, listed, ok, shown⟩
    have found := mem_toList_iff.mp listed
    exact ⟨key, (resources_ok_iff_settled few found).mp ok, (left key record found).mp shown⟩
  · rintro ⟨key, settled, shown⟩
    obtain ⟨record, found⟩ := record_of_claimed _ settled.named
    exact ⟨(key, record), mem_toList_iff.mpr found, (resources_ok_iff_settled few found).mpr settled,
      (left key record found).mpr shown⟩

theorem mem_summed (few : input.publications.length ≤ Limits.maxMemberDomains)
    {c : CapacityChannel} {claim : Claim} :
    claim ∈ input.summed expectation c ↔ ∃ key, input.Settled expectation key ∧
      (input.slotsOn key).offered = some claim ∧ claim.feeds c = true := by
  rw [← exists_ok_iff few (fun _ record =>
    record.offered = some claim ∧ claim.feeds c = true)
    fun key record found => by rw [slotsOn_offered found]]
  rw [summed, List.mem_filterMap]
  refine exists_congr fun entry => and_congr_right fun _ => ?_
  by_cases ok : entry.2.status = .ok
  · rw [if_pos ok, Option.filter_eq_some_iff]
    exact ⟨fun kept => ⟨ok, kept⟩, fun kept => kept.2⟩
  · rw [if_neg ok]
    exact ⟨fun nothing => (by cases nothing), fun kept => absurd kept.1 ok⟩

/-- What attributed records of a kind have in a slot is what settled keys were left with. -/
theorem mem_shown {α : Type} {kind : ResourceKind} {slot : ResourceRecord → Option α}
    {up : α → Prop} [DecidablePred up] (few : input.publications.length ≤ Limits.maxMemberDomains)
    (left : ∀ key record, (input.resources expectation)[key]? = some record →
      slot record = slot (input.slotsOn key)) {a : α} :
    (a ∈ (input.resources expectation).toList.filterMap fun entry =>
        if entry.1.kind = kind ∧ entry.2.status = .ok then (slot entry.2).filter (up ·) else none) ↔
      ∃ key, input.Settled expectation key ∧ key.kind = kind ∧
        slot (input.slotsOn key) = some a ∧ up a := by
  rw [← exists_ok_iff few (fun key record => key.kind = kind ∧ slot record = some a ∧ up a)
    fun key record found => by rw [left key record found], List.mem_filterMap]
  refine exists_congr fun entry => and_congr_right fun _ => ?_
  by_cases counts : entry.1.kind = kind ∧ entry.2.status = .ok
  · rw [if_pos counts, Option.filter_eq_some_iff, decide_eq_true_eq]
    exact ⟨fun kept => ⟨counts.2, counts.1, kept⟩, fun kept => kept.2.2⟩
  · rw [if_neg counts]
    exact ⟨fun nothing => (by cases nothing), fun kept => absurd ⟨kept.2.1, kept.1⟩ counts⟩

theorem mem_linksUp (few : input.publications.length ≤ Limits.maxMemberDomains)
    {link : SharedLinkClaim} :
    link ∈ input.linksUp expectation ↔ ∃ key, input.Settled expectation key ∧
      key.kind = .sharedLink ∧ (input.slotsOn key).link = some link ∧ link.state = .up :=
  mem_shown few fun key record found => by rw [slotsOn, slot_claims ResourceRecord.linkSlot found]

theorem mem_gatewaysUp (few : input.publications.length ≤ Limits.maxMemberDomains)
    {gateway : GatewayClaim} :
    gateway ∈ input.gatewaysUp expectation ↔ ∃ key, input.Settled expectation key ∧
      key.kind = .gateway ∧ (input.slotsOn key).gateway = some gateway ∧ gateway.state = .up :=
  mem_shown few fun key record found => by
    rw [slotsOn, slot_claims ResourceRecord.gatewaySlot found]

end CompositionInput

/-- The site shows what an obligation asks for. -/
def ProtectedObligation.MetBy (o : ProtectedObligation) (resources : Resources)
    (forest : FailureDomainForest) (available : CapacityVector) : Prop :=
  if o.kind.isCount then
    ∃ seen, countFor resources forest o = some seen ∧ o.required.toNat ≤ seen.observed
  else
    o.kind.channel ≠ .unknown ∧ (available.channel o.kind.channel).known = true ∧
      o.required ≤ (available.channel o.kind.channel).bps

theorem verdictFor_ok_iff {resources : Resources} {forest : FailureDomainForest}
    {available : CapacityVector} {record : ResourceRecord} {o : ProtectedObligation}
    {verdict : ObligationVerdict}
    (answered : verdictFor resources forest available record o = some verdict) :
    verdict.status = .ok ↔ record.status = .ok ∧ o.MetBy resources forest available := by
  unfold verdictFor at answered
  unfold ProtectedObligation.MetBy
  dsimp only at answered
  by_cases ok : record.status = .ok
  · rw [if_neg (not_not_intro ok)] at answered
    by_cases count : o.kind.isCount = true
    · rw [if_pos count] at answered
      obtain ⟨seen, counted, rfl⟩ := Option.map_eq_some_iff.mp answered
      rw [if_pos count, counted]
      by_cases enough : seen.observed ≥ o.required.toNat
      · simp [ok, enough]
      · by_cases unclear : seen.anyUnknown = true
        · simp [ok, enough, unclear]
        · simp [ok, enough, unclear]
    · rw [if_neg count] at answered
      rw [if_neg count]
      by_cases unsupported : o.kind.channel = .unknown
      · rw [if_pos unsupported] at answered
        cases answered
        simp [unsupported]
      · rw [if_neg unsupported] at answered
        cases known : (available.channel o.kind.channel).known with
        | false =>
          rw [known] at answered
          cases answered
          simp
        | true =>
          rw [known] at answered
          cases answered
          by_cases enough : (available.channel o.kind.channel).bps ≥ o.required
          · simp [ok, unsupported, enough]
          · simp [ok, unsupported, enough]
  · rw [if_pos ok] at answered
    cases answered
    simp [ok]

namespace CompositionInput

variable [StdSort] (input : CompositionInput) (expectation : SiteExpectation)

/-- What is asked of an obligation is met in the composition of an input. -/
def Meets (o : ProtectedObligation) : Prop :=
  o.MetBy (input.resources expectation) (input.forest expectation)
    (input.ledger expectation).available

/-- Whatever is counted as capacity, as a link or gateway that is up or as an
obligation kept has evidence of its own that is FRESH. -/
structure CountsOnlyFresh (site : ComposedSite) : Prop where
  capacity : ∀ c, ∀ claim ∈ input.summed expectation c,
    claim.evidence.evaluate input.nowMs = .fresh
  links : ∀ link ∈ input.linksUp expectation, link.evidence.evaluate input.nowMs = .fresh
  gateways : ∀ gateway ∈ input.gatewaysUp expectation,
    gateway.evidence.evaluate input.nowMs = .fresh
  obligations : ∀ verdict ∈ site.obligations, verdict.status = .ok →
    ∀ o, input.inForce verdict.id = some o → o.evidence.evaluate input.nowMs = .fresh

/-- What settled keys are left with was declared with timely evidence, where it feeds
a channel, is up, or is met. -/
structure TimelyWhereCounted : Prop where
  capacity : ∀ key claim c, input.Settled expectation key →
    (input.slotsOn key).offered = some claim → claim.feeds c = true →
    claim.evidence.Timely input.nowMs
  links : ∀ key link, input.Settled expectation key → key.kind = .sharedLink →
    (input.slotsOn key).link = some link → link.state = .up → link.evidence.Timely input.nowMs
  gateways : ∀ key gateway, input.Settled expectation key → key.kind = .gateway →
    (input.slotsOn key).gateway = some gateway → gateway.state = .up →
    gateway.evidence.Timely input.nowMs
  obligations : ∀ id o, input.Settled expectation (.obligation id) → input.inForce id = some o →
    input.Meets expectation o → o.evidence.Timely input.nowMs

variable {input expectation}

/-- On a settled key evidence is fresh as soon as it is timely: canonicalization saw
to the rest. -/
theorem Settled.fresh_iff {key : ResourceKey} (settled : input.Settled expectation key)
    {claim : Claim} (claimed : claim ∈ input.claimsOn key) :
    claim.evidence.evaluate input.nowMs = .fresh ↔ claim.evidence.Timely input.nowMs := by
  obtain ⟨record, selected, listed, rfl⟩ := mem_claimsOn.mp claimed
  obtain ⟨first, leads⟩ := firstClaim_of_mem listed
  obtain ⟨d, declared, _, _, ⟨canonical, accepted⟩, _⟩ :=
    (settled.earned record first selected leads).declared
  have own : claim ∈ d.claims := by
    rw [MemberPublicationRecord.claims, declared] at listed
    exact listed
  rw [Evidence.evaluate_fresh_iff]
  exact and_iff_right (d.claims_checked accepted own).2

omit [StdSort] in
/-- What a slot of a key holds was claimed on the key. -/
theorem slotsOn_claimed {γ : Type} {slot : ResourceRecord → Option γ} {read : Claim → Option γ}
    (of : ResourceRecord.Slot slot read) {key : ResourceKey} {kept : γ}
    (held : slot (input.slotsOn key) = some kept) :
    ∃ claim ∈ input.claimsOn key, read claim = some kept := by
  rw [slotsOn, foldl_last slot read of.kept, show slot {} = none from of.blank,
    Option.or_none] at held
  exact List.mem_filterMap.mp (List.mem_of_getLast? held)

omit [StdSort] in
theorem offered_claimed {key : ResourceKey} {claim : Claim}
    (held : (input.slotsOn key).offered = some claim) : claim ∈ input.claimsOn key := by
  unfold ResourceRecord.offered at held
  split at held
  · next rack slot =>
    obtain ⟨claim, claimed, read⟩ := slotsOn_claimed ResourceRecord.rackSlot slot
    cases claim <;> cases read
    cases held
    exact claimed
  · next link _ slot =>
    obtain ⟨claim, claimed, read⟩ := slotsOn_claimed ResourceRecord.linkSlot slot
    cases claim <;> cases read
    cases held
    exact claimed
  · next gateway _ _ slot =>
    obtain ⟨claim, claimed, read⟩ := slotsOn_claimed ResourceRecord.gatewaySlot slot
    cases claim <;> cases read
    cases held
    exact claimed
  · next pool _ _ _ slot =>
    obtain ⟨claim, claimed, read⟩ := slotsOn_claimed ResourceRecord.poolSlot slot
    cases claim <;> cases read
    cases held
    exact claimed
  · cases held

/-- An obligation gets an OK verdict exactly when its key is settled and it is met. -/
theorem verdict_ok_iff {site : ComposedSite} (parts : input.Composes expectation site)
    {id : ObligationId} {o : ProtectedObligation} (inForce : input.inForce id = some o) :
    (∃ verdict ∈ site.obligations, verdict.id = id ∧ verdict.status = .ok) ↔
      input.Settled expectation (.obligation id) ∧ input.Meets expectation o := by
  have few := (prepare_ok parts.prepared).1
  constructor
  · rintro ⟨verdict, listed, rfl, ok⟩
    obtain ⟨key, record, held, found, _, slot, answered⟩ := verdict_record parts listed
    obtain ⟨same, there⟩ := inForce_of_slot found slot
    obtain ⟨settled, met⟩ := (verdictFor_ok_iff answered).mp ok
    rw [(verdictFor_sources answered).1, there] at inForce
    cases inForce
    rw [(verdictFor_sources answered).1, ← same]
    exact ⟨(resources_ok_iff_settled few found).mp settled, met⟩
  · rintro ⟨settled, met⟩
    obtain ⟨record, found⟩ := record_of_claimed _ settled.named
    have slot : record.obligation = some o := by
      rw [resources_slot_eq ResourceRecord.obligationSlot found]
      exact inForce
    obtain ⟨verdicts, voted, sorted⟩ := parts.obligations
    have among : (record, o) ∈ obligationRecords (input.resources expectation) :=
      List.mem_filterMap.mpr ⟨(.obligation id, record), mem_toList_iff.mpr found, by
        simp [slot, ResourceKey.obligation]⟩
    obtain ⟨verdict, listed, answered⟩ := mapM_yields voted among
    refine ⟨verdict, ?_, ?_, ?_⟩
    · rw [sorted, mem_sort]
      exact listed
    · obtain ⟨same, _⟩ := inForce_of_slot found slot
      rw [(verdictFor_sources answered).1]
      exact congrArg StrongId.mk (congrArg ResourceKey.id same).symm
    · exact (verdictFor_ok_iff answered).mpr
        ⟨(resources_ok_iff_settled few found).mpr settled, met⟩

theorem countsOnlyFresh_iff {site : ComposedSite} (parts : input.Composes expectation site) :
    input.CountsOnlyFresh expectation site ↔ input.TimelyWhereCounted expectation := by
  have few := (prepare_ok parts.prepared).1
  constructor
  · intro counted
    refine ⟨?_, ?_, ?_, ?_⟩
    · intro key claim c settled held feeds
      exact (settled.fresh_iff (offered_claimed held)).mp
        (counted.capacity c claim ((mem_summed few).mpr ⟨key, settled, held, feeds⟩))
    · intro key link settled kind held up
      obtain ⟨claim, claimed, read⟩ := slotsOn_claimed ResourceRecord.linkSlot held
      cases claim <;> cases read
      exact (settled.fresh_iff claimed).mp
        (counted.links link ((mem_linksUp few).mpr ⟨key, settled, kind, held, up⟩))
    · intro key gateway settled kind held up
      obtain ⟨claim, claimed, read⟩ := slotsOn_claimed ResourceRecord.gatewaySlot held
      cases claim <;> cases read
      exact (settled.fresh_iff claimed).mp
        (counted.gateways gateway ((mem_gatewaysUp few).mpr ⟨key, settled, kind, held, up⟩))
    · intro id o settled inForce met
      obtain ⟨verdict, listed, rfl, ok⟩ := (verdict_ok_iff parts inForce).mpr ⟨settled, met⟩
      obtain ⟨claim, claimed, read⟩ := List.mem_filterMap.mp (List.mem_of_getLast? inForce)
      cases claim <;> cases read
      exact (settled.fresh_iff claimed).mp (counted.obligations verdict listed ok o inForce)
  · intro timely
    refine ⟨?_, ?_, ?_, ?_⟩
    · intro c claim listed
      obtain ⟨key, settled, held, feeds⟩ := (mem_summed few).mp listed
      exact (settled.fresh_iff (offered_claimed held)).mpr
        (timely.capacity key claim c settled held feeds)
    · intro link listed
      obtain ⟨key, settled, kind, held, up⟩ := (mem_linksUp few).mp listed
      obtain ⟨claim, claimed, read⟩ := slotsOn_claimed ResourceRecord.linkSlot held
      cases claim <;> cases read
      exact (settled.fresh_iff claimed).mpr (timely.links key link settled kind held up)
    · intro gateway listed
      obtain ⟨key, settled, kind, held, up⟩ := (mem_gatewaysUp few).mp listed
      obtain ⟨claim, claimed, read⟩ := slotsOn_claimed ResourceRecord.gatewaySlot held
      cases claim <;> cases read
      exact (settled.fresh_iff claimed).mpr (timely.gateways key gateway settled kind held up)
    · intro verdict listed ok o inForce
      obtain ⟨settled, met⟩ := (verdict_ok_iff parts inForce).mp ⟨verdict, listed, rfl, ok⟩
      obtain ⟨claim, claimed, read⟩ := List.mem_filterMap.mp (List.mem_of_getLast? inForce)
      cases claim <;> cases read
      exact (settled.fresh_iff claimed).mpr (timely.obligations verdict.id o settled inForce met)

end CompositionInput

/-- What a composed site counts is all fresh exactly when what settled keys are left
with was declared with timely evidence. -/
theorem only_fresh_counted_iff [StdSort] {input : CompositionInput} {site : ComposedSite}
    (composed : compose input = .composed site) :
    ∃ expectation, input.prepare = .ok expectation ∧
      (∀ c, site.capacity.total.channel c =
        (Tally.tallyOf ((input.summed expectation c).map (Claim.on c))).value) ∧
      site.connectivity.sharedLinksUp = (input.linksUp expectation).length ∧
      site.connectivity.gatewaysUp = (input.gatewaysUp expectation).length ∧
      (input.CountsOnlyFresh expectation site ↔ input.TimelyWhereCounted expectation) := by
  obtain ⟨expectation, parts⟩ := CompositionInput.compose_composes composed
  exact ⟨expectation, parts.prepared, CompositionInput.total_summed input expectation parts,
    CompositionInput.linksUp_length input expectation parts,
    CompositionInput.gatewaysUp_length input expectation parts,
    CompositionInput.countsOnlyFresh_iff parts⟩

theorem uplinked_counts_only_fresh :
    ∃ site, compose (CompositionInput.sample [.uplinked [.sample (ascii "link-1") 5]]) =
        .composed site ∧
      ∃ expectation, (CompositionInput.sample
        [.uplinked [.sample (ascii "link-1") 5]]).prepare = .ok expectation ∧
        ((CompositionInput.sample [.uplinked [.sample (ascii "link-1") 5]]).CountsOnlyFresh
          expectation site ↔ (CompositionInput.sample
            [.uplinked [.sample (ascii "link-1") 5]]).TimelyWhereCounted expectation) := by
  obtain ⟨site, composed, _⟩ := uplinked_composes_current
  obtain ⟨expectation, prepared, _, _, _, exact⟩ := only_fresh_counted_iff composed
  exact ⟨site, composed, expectation, prepared, exact⟩

/-- A fresh declaration of a link that nobody measured. -/
def MemberDomainDeclaration.imagined : MemberDomainDeclaration :=
  .uplinked [{ SharedLinkClaim.sample (ascii "link-1") 5 with
    evidence := { Evidence.sample with provenance := .synthetic } }]

/-- The imagined link is counted as up, and its capacity is summed. -/
theorem imagined_link_is_counted :
    ∃ site expectation, compose (CompositionInput.sample [.imagined]) = .composed site ∧
      (CompositionInput.sample [.imagined]).prepare = .ok expectation ∧
      site.lifecycle = .current ∧ site.capacity.total.ingress = .ofBps 5 ∧
      site.connectivity.sharedLinksUp = 1 ∧
      ¬ (CompositionInput.sample [.imagined]).CountsOnlyFresh expectation site := by
  obtain ⟨site, composed, found⟩ := CompositionInput.composed_of_sealed
    (show (composeSealed (CompositionInput.sample [.imagined])).passes (fun site => decide
      (site.lifecycle = .current ∧ site.capacity.total.ingress = .ofBps 5 ∧
        site.connectivity.sharedLinksUp = 1)) = true by decide +kernel) .sample
  obtain ⟨expectation, parts⟩ := CompositionInput.compose_composes composed
  obtain ⟨current, total, up⟩ := of_decide_eq_true found
  refine ⟨site, expectation, composed, parts.prepared, current, total, up, ?_⟩
  intro counted
  have imagined : ((CompositionInput.sample [.imagined]).prepare.toOption.all fun expectation =>
      (((CompositionInput.sample [.imagined]).foldedResources expectation).toList.filterMap
        fun entry => if entry.1.kind = .sharedLink ∧ entry.2.status = .ok then
          entry.2.link.filter (·.state = .up) else none).any fun link =>
        link.evidence.evaluate (CompositionInput.sample [.imagined]).nowMs = .syntheticOnly) =
      true := by decide +kernel
  rw [parts.prepared, Except.toOption, Option.all_some,
    CompositionInput.Sealed.sample.foldedResources_eq] at imagined
  obtain ⟨link, listed, synthetic⟩ := List.any_eq_true.mp imagined
  have fresh := counted.links link listed
  rw [of_decide_eq_true synthetic] at fresh
  cases fresh

end SiteFabric
