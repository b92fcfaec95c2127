import SiteFabric.Compose.Accounts
import SiteFabric.Compose.Sealed

/-! Whether one claim wins over another.
A source attests a resource with the first claim it makes on it, while the record
keeps the last claim of each kind. Several sources that differ are a conflict; one
source that differs with itself is heard as if it agreed. -/

namespace SiteFabric

open Lib
open Std (ExtTreeMap)

/-- The scope and the capacity a claim speaks for. -/
def Claim.offered : Claim → Option (CapacityScope × CapacityVector)
  | .rack claim => some (.rackLocal, claim.localCapacity)
  | .link claim => some (.sharedLink, claim.capacity)
  | .gateway claim => some (.gateway, claim.capacity)
  | .pool claim => some (claim.scope, claim.capacity)
  | _ => none

/-- A record whose claims on a key all have one digest. -/
def MemberPublicationRecord.Uniform (record : MemberPublicationRecord) (key : ResourceKey) : Prop :=
  ∀ claim ∈ record.claims, ∀ claim' ∈ record.claims, claim.key = key → claim'.key = key →
    claim.digest = claim'.digest

namespace CompositionInput

variable (input : CompositionInput)

/-- No claim wins over one that differs: what is disputed is not attributed, and an
attributed entry speaks for a claim of the digest on record. -/
structure NoWinner (site : ComposedSite) : Prop where
  disputed : ∀ key, ∀ claim ∈ input.claimsOn key, ∀ claim' ∈ input.claimsOn key,
    claim.digest ≠ claim'.digest → site.attributes key = false
  attested : ∀ attribution ∈ site.ownership, attribution.status = .ok →
    ∀ entry ∈ site.capacity.entries, entry.owner = attribution.key →
      ∃ claim ∈ input.claimsOn entry.owner, claim.digest = attribution.consensusDigest ∧
        claim.offered = some (entry.scope, entry.capacity)

variable [StdSort] {input} {expectation : SiteExpectation}

/-- What a record offers is what a claim on its key speaks for. -/
theorem offer_claimed {key : ResourceKey} {record : ResourceRecord} {offer : Offer}
    (found : (input.resources expectation)[key]? = some record)
    (offered : record.offer = some offer) :
    ∃ claim ∈ input.claimsOn key, claim.offered = some (offer.scope, offer.capacity) := by
  have kept : ∀ {γ : Type} {slot : ResourceRecord → Option γ} {read : Claim → Option γ} {value : γ},
      ResourceRecord.Slot slot read → slot record = some value →
        ∃ claim ∈ input.claimsOn key, read claim = some value := by
    intro γ slot read value of held
    rw [resources_slot_eq of found] at held
    exact List.mem_filterMap.mp (List.mem_of_getLast? held)
  unfold ResourceRecord.offer at offered
  split at offered
  · next held =>
    obtain ⟨claim, listed, read⟩ := kept ResourceRecord.rackSlot held
    refine ⟨claim, listed, ?_⟩
    cases claim <;> cases read
    cases offered
    rfl
  · next held =>
    obtain ⟨claim, listed, read⟩ := kept ResourceRecord.linkSlot held
    refine ⟨claim, listed, ?_⟩
    cases claim <;> cases read
    cases offered
    rfl
  · next held =>
    obtain ⟨claim, listed, read⟩ := kept ResourceRecord.gatewaySlot held
    refine ⟨claim, listed, ?_⟩
    cases claim <;> cases read
    cases offered
    rfl
  · next held =>
    obtain ⟨claim, listed, read⟩ := kept ResourceRecord.poolSlot held
    refine ⟨claim, listed, ?_⟩
    cases claim <;> cases read
    cases offered
    rfl
  · cases offered

/-- The consensus on an attributed key is the digest of every first claim there. -/
theorem consensus_eq (few : input.publications.length ≤ Limits.maxMemberDomains)
    {key : ResourceKey} {found : ResourceRecord}
    (listed : (input.resources expectation)[key]? = some found) (ok : found.status = .ok)
    {record : MemberPublicationRecord} (selected : input.Selects record) {first : Claim}
    (leads : record.firstClaim key = some first) : found.consensus = first.digest := by
  obtain ⟨raw, resolved, attested⟩ := resources_resolved (admitMembers_orderly few) listed
  rw [resolved] at ok ⊢
  refine ResourceRecord.resolve_consensus (a := (admitRecord input expectation record).attestation
    first) ok ?_
  rw [attested]
  exact mem_attestationsFor.mpr ⟨record.domain, _, first,
    admitMembers_iff.mpr ⟨record, selected, rfl, rfl⟩, leads, rfl⟩

/-- Where no source differs with itself, every claim on an attributed key has the
digest on record. -/
theorem digest_of_uniform (few : input.publications.length ≤ Limits.maxMemberDomains)
    {key : ResourceKey} {found : ResourceRecord}
    (listed : (input.resources expectation)[key]? = some found) (ok : found.status = .ok)
    (uniform : ∀ record, input.Selects record → record.Uniform key) {claim : Claim}
    (claimed : claim ∈ input.claimsOn key) : claim.digest = found.consensus := by
  obtain ⟨record, selected, member, rfl⟩ := mem_claimsOn.mp claimed
  obtain ⟨first, leads⟩ := firstClaim_of_mem member
  obtain ⟨there, named⟩ := firstClaim_mem leads
  rw [consensus_eq few listed ok selected leads]
  exact uniform record selected claim member first there rfl named

theorem noWinner_iff {site : ComposedSite} (parts : input.Composes expectation site) :
    input.NoWinner site ↔ ∀ key, input.Settled expectation key →
      ∀ record, input.Selects record → record.Uniform key := by
  have few := (prepare_ok parts.prepared).1
  have attributed := attributes_iff parts.ownership
  constructor
  · intro none key settled record selected claim member claim' member' named named'
    by_contra differ
    obtain ⟨found, listed⟩ := record_of_claimed expectation settled.named
    have ok := (resources_ok_iff_settled few listed).mpr settled
    have refused := none.disputed key claim (mem_claimsOn.mpr ⟨record, selected, member, named⟩)
      claim' (mem_claimsOn.mpr ⟨record, selected, member', named'⟩) differ
    rw [(attributed key).mpr ⟨found, listed, ok⟩] at refused
    cases refused
  · intro uniform
    constructor
    · intro key claim claimed claim' claimed' differ
      by_contra owned
      obtain ⟨found, listed, ok⟩ := (attributed key).mp (by simpa using owned)
      have settled := (resources_ok_iff_settled few listed).mp ok
      refine differ ?_
      rw [digest_of_uniform few listed ok (uniform key settled) claimed,
        digest_of_uniform few listed ok (uniform key settled) claimed']
    · intro attribution owned ok entry counted same
      rw [parts.ownership] at owned
      obtain ⟨⟨key, found⟩, member, rfl⟩ := List.mem_map.mp owned
      have listed := mem_toList_iff.mp member
      have settled := (resources_ok_iff_settled few listed).mp ok
      rw [parts.capacity] at counted
      obtain ⟨build, built, rfl⟩ := List.mem_map.mp counted
      obtain ⟨owner, record, offer, there, offered, rfl⟩ := mem_collectLedgerBuilds.mp built
      obtain ⟨entry_owner, entry_scope, entry_capacity⟩ := ledgerEntry_frame
        (excludedKeys (input.effects expectation)) (ledgerBuild owner record offer)
      obtain ⟨build_owner, build_scope, _, build_capacity⟩ := ledgerBuild_frame owner record offer
      rw [entry_owner, build_owner] at same ⊢
      obtain rfl : owner = key := same
      rw [listed] at there
      cases there
      obtain ⟨claim, claimed, speaks⟩ := offer_claimed listed offered
      rw [entry_scope, entry_capacity, build_scope, build_capacity]
      exact ⟨claim, claimed, digest_of_uniform few listed ok (uniform owner settled) claimed, speaks⟩

end CompositionInput

/-- No claim wins over another in a composed site exactly when on every settled key
each source agrees with itself. -/
theorem no_silent_winner_iff [StdSort] {input : CompositionInput} {expectation : SiteExpectation}
    {site : ComposedSite} (prepared : input.prepare = .ok expectation)
    (composed : compose input = .composed site) :
    input.NoWinner site ↔ ∀ key, input.Settled expectation key →
      ∀ record, input.Selects record → record.Uniform key := by
  obtain ⟨expectation', parts⟩ := CompositionInput.compose_composes composed
  obtain rfl : expectation' = expectation := Except.ok.inj (parts.prepared.symm.trans prepared)
  exact CompositionInput.noWinner_iff parts

/-- A rack whose claims are all on different keys. -/
theorem uplinked_rack_has_no_winner :
    ∃ site, compose (CompositionInput.sample [.uplinked [.sample (ascii "link-1") 5]]) =
        .composed site ∧
      site.attributes (.sharedLink ⟨ascii "link-1"⟩) = true ∧
      (CompositionInput.sample [.uplinked [.sample (ascii "link-1") 5]]).NoWinner site := by
  obtain ⟨site, composed, owned⟩ := CompositionInput.composed_of_sealed
    (show (composeSealed (CompositionInput.sample [.uplinked [.sample (ascii "link-1") 5]])).passes
      (fun site => site.attributes (.sharedLink ⟨ascii "link-1"⟩)) = true by decide +kernel)
    .sample
  obtain ⟨expectation, parts⟩ := CompositionInput.compose_composes composed
  refine ⟨site, composed, owned, (no_silent_winner_iff parts.prepared composed).mpr ?_⟩
  intro key _ record selected claim member claim' member' named named'
  have apart : ∀ record ∈
      (CompositionInput.sample [.uplinked [.sample (ascii "link-1") 5]]).publications,
        ∀ claim ∈ record.claims, ∀ claim' ∈ record.claims, claim.key = claim'.key →
          claim.digest = claim'.digest := by
    decide +kernel
  exact apart record (bestRecords_mem selected).1 claim member claim' member'
    (named.trans named'.symm)

/-- Two contributions of one owner, at different scopes. -/
def MemberDomainDeclaration.ambiguous : MemberDomainDeclaration :=
  { MemberDomainDeclaration.sample (ascii "rack-1") with
    capacity := [
      { owner := ⟨.capacityPool, ascii "pool-1"⟩, scope := .siteEgress, generation := ⟨1⟩
        capacity := { egress := .ofBps 5 }, evidence := Evidence.sample },
      { owner := ⟨.capacityPool, ascii "pool-1"⟩, scope := .siteIngress, generation := ⟨1⟩
        capacity := { ingress := .ofBps 7 }, evidence := Evidence.sample }] }

/-- The pool is attributed on the strength of its first claim and counted by its
second. -/
theorem ambiguous_pool_has_a_winner :
    ∃ expectation site, (CompositionInput.sample [.ambiguous]).prepare = .ok expectation ∧
      compose (CompositionInput.sample [.ambiguous]) = .composed site ∧
      site.attributes ⟨.capacityPool, ascii "pool-1"⟩ = true ∧
      site.capacity.total.ingress = .ofBps 7 ∧
      ¬ (CompositionInput.sample [.ambiguous]).NoWinner site := by
  obtain ⟨site, composed, found⟩ := CompositionInput.composed_of_sealed
    (show (composeSealed (CompositionInput.sample [.ambiguous])).passes (fun site => decide
      (site.attributes ⟨.capacityPool, ascii "pool-1"⟩ = true ∧
        site.capacity.total.ingress = .ofBps 7)) = true by decide +kernel) .sample
  obtain ⟨expectation, parts⟩ := CompositionInput.compose_composes composed
  obtain ⟨owned, total⟩ := of_decide_eq_true found
  refine ⟨expectation, site, parts.prepared, composed, owned, total, fun none => ?_⟩
  have quarrel : ∃ claim ∈ (CompositionInput.sample [.ambiguous]).claimsOn
        ⟨.capacityPool, ascii "pool-1"⟩,
      ∃ claim' ∈ (CompositionInput.sample [.ambiguous]).claimsOn ⟨.capacityPool, ascii "pool-1"⟩,
        claim.digest ≠ claim'.digest := by
    decide +kernel
  obtain ⟨claim, claimed, claim', claimed', differ⟩ := quarrel
  rw [none.disputed _ claim claimed claim' claimed' differ] at owned
  cases owned

end SiteFabric
