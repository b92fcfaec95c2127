import SiteFabric.Compose.Composer
import SiteFabric.Core.Rounds

/-! Composition of records that are sealed.
A record whose digest is its declaration's own passes the digest checks, so the
cascade need not hash it again; the digest itself is one fold. -/

namespace SiteFabric

open Lib

/-- A record as it is published: its digest is that of what it declares. -/
def MemberPublicationRecord.Sealed (record : MemberPublicationRecord) : Prop :=
  ∀ declaration, record.declaration = some declaration →
    declaration.digest = record.digest ∧ declaration.computeDigest = record.digest

theorem MemberDomainDeclaration.publication_sealed (d : MemberDomainDeclaration) :
    d.publication.Sealed := by
  rintro declaration ⟨⟩
  exact ⟨rfl, rfl⟩

/-- The record with its digest taken by one fold. -/
def MemberPublicationRecord.folded (record : MemberPublicationRecord) : MemberPublicationRecord :=
  match record.declaration with
  | none => record
  | some declaration =>
    let digest := Sha256.digestFold declaration.write
    { record with digest, declaration := some { declaration with digest } }

theorem MemberPublicationRecord.Sealed.folded_eq {record : MemberPublicationRecord}
    (sealed : record.Sealed) : record.folded = record := by
  unfold folded
  split
  · rfl
  · next declaration declared =>
    obtain ⟨copied, computed⟩ := sealed declaration declared
    have fold : Sha256.digestFold declaration.write = record.digest :=
      (Sha256.digestFold_eq _).trans computed
    have kept : { declaration with digest := record.digest } = declaration := by rw [← copied]
    simp only [fold, kept, ← declared]

namespace CompositionInput

def Sealed (input : CompositionInput) : Prop :=
  ∀ record ∈ input.publications, record.Sealed

def folded (input : CompositionInput) : CompositionInput :=
  { input with publications := input.publications.map (·.folded) }

theorem Sealed.folded_eq {input : CompositionInput} (sealed : input.Sealed) :
    input.folded = input := by
  have kept : input.publications.map (·.folded) = input.publications :=
    (List.map_congr_left fun record listed => (sealed record listed).folded_eq).trans (List.map_id _)
  rw [folded, kept]

theorem Sealed.sample {declarations : List MemberDomainDeclaration} :
    (CompositionInput.sample declarations).Sealed := by
  intro record listed
  obtain ⟨d, -, rfl⟩ := List.mem_map.mp listed
  exact d.publication_sealed

end CompositionInput

/-- Which record is selected can be seen on the folded input. -/
theorem CompositionInput.Sealed.best_of_folded {input : CompositionInput} (sealed : input.Sealed)
    {record : MemberPublicationRecord} (own : record.Sealed)
    (found : (bestRecords input.folded.publications)[record.domain]? = some record.folded) :
    (bestRecords input.publications)[record.domain]? = some record := by
  rwa [sealed.folded_eq, own.folded_eq] at found

section Judge

variable [StdSort] (input : CompositionInput) (expectation : SiteExpectation)

/-- The cascade without the digest checks. -/
def judgeSealed (record : MemberPublicationRecord) : Standing :=
  let bare := judge input expectation { record with declaration := none }
  match record.declaration with
  | none => bare
  | some declaration =>
    if bare.lifecycle = .reported then judgeContent input expectation record declaration else bare

theorem judgeSealed_eq {record : MemberPublicationRecord} (sealed : record.Sealed) :
    judgeSealed input expectation record = judge input expectation record := by
  unfold judgeSealed
  cases declared : record.declaration with
  | none =>
    have bare : { record with declaration := none } = record := by rw [← declared]
    rw [bare]
  | some declaration =>
    obtain ⟨copied, computed⟩ := sealed declaration declared
    have unhashed : judgeDeclaration input expectation record declaration =
        judgeContent input expectation record declaration := by
      simp [judgeDeclaration, copied, computed]
    unfold judge
    simp only [declared, unhashed]
    split_ifs <;> simp_all [Standing.because]

def admitSealed : Admissions :=
  (bestRecords input.publications).map fun _ record =>
    { admitRecord input expectation record with
      lifecycle := (judgeSealed input expectation record).lifecycle
      status := (judgeSealed input expectation record).status
      factors := (judgeSealed input expectation record).factors }

theorem admitSealed_eq (sealed : input.Sealed) :
    admitSealed input expectation = admitMembers input expectation := by
  refine ext_lookup fun domain => ?_
  rw [admitSealed, admitMembers_lookup, lookup_map]
  cases found : (bestRecords input.publications)[domain]? with
  | none => rfl
  | some record =>
    have listed := (bestRecords_mem found).1
    simp only [Option.map_some, judgeSealed_eq input expectation (sealed record listed)]
    rfl

end Judge

section Compose

variable [StdSort]

/-- `compose` from the admissions on. -/
def composeFrom (weigh : CompositionInput → SiteExpectation → Admissions)
    (input : CompositionInput) : CompositionResult :=
  match input.prepare with
  | .error status => .refused status
  | .ok expectation =>
    let admissions := weigh input expectation
    let resources := gatherResources admissions
    let out : ComposedSite :=
      { site := input.site
        epoch := input.epoch
        generation := input.generation
        incarnation := input.incarnation
        composedAtMs := input.nowMs
        members := admissions.toList.map (·.2.state) }
    let out := attributeResources resources out
    let out := buildFailureDomains admissions resources out
    let out := buildMaintenance input.nowMs (domainMembers admissions resources) resources out
    match buildObligations resources (buildConnectivity resources out) with
    | none => .crashed
    | some out =>
      .composed (buildDecisions admissions resources
        (buildLifecycle expectation (buildMembership expectation admissions out)))

theorem composeFrom_eq (input : CompositionInput) :
    composeFrom admitMembers input = compose input := rfl

theorem composeFrom_congr {weigh weigh' : CompositionInput → SiteExpectation → Admissions}
    {input : CompositionInput} (same : ∀ expectation, weigh input expectation = weigh' input expectation) :
    composeFrom weigh input = composeFrom weigh' input := by
  simp only [composeFrom, same]

def composeSealed (input : CompositionInput) : CompositionResult :=
  composeFrom admitSealed input.folded

theorem CompositionInput.Sealed.composeSealed_eq {input : CompositionInput}
    (sealed : input.Sealed) : composeSealed input = compose input := by
  rw [composeSealed, sealed.folded_eq, ← composeFrom_eq]
  exact composeFrom_congr fun expectation => admitSealed_eq input expectation sealed

/-- A sealed input that crashes without a hash crashes. -/
theorem CompositionInput.crashed_of_sealed {input : CompositionInput}
    (crashed : composeSealed input = .crashed) (sealed : input.Sealed) :
    compose input = .crashed :=
  sealed.composeSealed_eq ▸ crashed

/-- The resources of the folded input, by the cascade that does not hash. -/
def CompositionInput.foldedResources (input : CompositionInput) (expectation : SiteExpectation) :
    Resources :=
  gatherResources (admitSealed input.folded expectation)

theorem CompositionInput.Sealed.foldedResources_eq {input : CompositionInput}
    (sealed : input.Sealed) (expectation : SiteExpectation) :
    input.foldedResources expectation = input.resources expectation := by
  rw [foldedResources, sealed.folded_eq, admitSealed_eq input expectation sealed]
  rfl

/-- A sealed input is composed without hashing it again. -/
theorem CompositionInput.composed_of_sealed {input : CompositionInput} {test : ComposedSite → Bool}
    (passed : (composeSealed input).passes test = true) (sealed : input.Sealed) :
    ∃ site, compose input = .composed site ∧ test site = true :=
  CompositionResult.composed_of_passes (sealed.composeSealed_eq ▸ passed)

end Compose

end SiteFabric
