import SiteFabric.Compose.Composer

/-! Arrival order is irrelevant.
Composition reads its lists through four things only: the canonical expectation,
the record selected for each domain, and membership in the retired, revoked and
reconstructed lists. None of them can tell one arrangement of the input from
another, so neither can anything computed from them. -/

namespace SiteFabric

open Lib

/-- The same input, its lists in another order. -/
structure CompositionInput.Rearranges (input' input : CompositionInput) : Prop where
  header : input' = { input with
    publications := input'.publications, retirements := input'.retirements
    revoked := input'.revoked, reconstructed := input'.reconstructed
    expectation := { input.expectation with members := input'.expectation.members } }
  publications : input'.publications.Perm input.publications
  retirements : input'.retirements.Perm input.retirements
  revoked : input'.revoked.Perm input.revoked
  reconstructed : input'.reconstructed.Perm input.reconstructed
  members : input'.expectation.members.Perm input.expectation.members

namespace CompositionInput.Rearranges

variable {input' input : CompositionInput} (same : input'.Rearranges input)

include same

theorem site : input'.site = input.site := by rw [same.header]

theorem epoch : input'.epoch = input.epoch := by rw [same.header]

theorem nowMs : input'.nowMs = input.nowMs := by rw [same.header]

theorem adopted : input'.adopted =
    { input.adopted with members := input'.expectation.members } := by
  unfold CompositionInput.adopted
  rw [same.header]
  split <;> rfl

theorem prepare : input'.prepare = input.prepare := by
  have canonical : input'.adopted.canonicalize = input.adopted.canonicalize := by
    rw [same.adopted]
    refine input.adopted.canonicalize_perm ?_
    have kept : input.adopted.members = input.expectation.members := by
      unfold CompositionInput.adopted
      split <;> rfl
    rw [kept]
    exact same.members
  have site : input'.adopted.site = input.adopted.site := by rw [same.adopted]
  unfold CompositionInput.prepare
  rw [canonical, site, same.publications.length_eq, same.retirements.length_eq,
    same.revoked.length_eq]
  rw [same.header]

theorem judge [StdSort] (expectation : SiteExpectation) (record : MemberPublicationRecord) :
    judge input' expectation record = judge input expectation record := by
  have revoked : input'.revoked.contains record.domain = input.revoked.contains record.domain :=
    same.revoked.contains_eq
  have retired : (input'.retirements.map (·.domain)).contains record.domain =
      (input.retirements.map (·.domain)).contains record.domain :=
    (same.retirements.map _).contains_eq
  have reconstructed : input'.reconstructed.contains record.domain =
      input.reconstructed.contains record.domain := same.reconstructed.contains_eq
  have received : ∀ declaration, receive input' expectation record declaration =
      receive input expectation record declaration := by
    intro declaration
    unfold receive
    rw [reconstructed, same.nowMs]
  have content : ∀ declaration, judgeDeclaration input' expectation record declaration =
      judgeDeclaration input expectation record declaration := by
    intro declaration
    unfold judgeDeclaration judgeContent
    rw [received]
  unfold SiteFabric.judge
  rw [revoked, retired, same.site, same.epoch]
  simp only [content]

theorem admitMembers [StdSort] (expectation : SiteExpectation)
    (distinct : DistinctStandings input.publications) :
    admitMembers input' expectation = admitMembers input expectation := by
  have records : admitRecord input' expectation = admitRecord input expectation := by
    funext record
    unfold admitRecord
    rw [same.judge, same.nowMs]
  unfold SiteFabric.admitMembers
  rw [bestRecords_perm same.publications distinct, records]

theorem admitted [StdSort] (expectation : SiteExpectation)
    (distinct : DistinctStandings input.publications) :
    input'.admitted expectation = input.admitted expectation := by
  unfold CompositionInput.admitted
  rw [same.admitMembers expectation distinct]
  rw [same.header]

end CompositionInput.Rearranges

/-- Composition gives one result on every arrangement of its input. -/
theorem compose_ignores_arrival_order [StdSort] {input' input : CompositionInput}
    (same : input'.Rearranges input) (distinct : DistinctStandings input.publications) :
    compose input' = compose input := by
  have resources : ∀ expectation, input'.resources expectation = input.resources expectation := by
    intro expectation
    unfold CompositionInput.resources
    rw [same.admitMembers expectation distinct]
  have accounted : ∀ expectation, input'.accounted expectation = input.accounted expectation := by
    intro expectation
    unfold CompositionInput.accounted
    rw [resources, same.admitMembers expectation distinct, same.admitted expectation distinct,
      same.nowMs]
  have concluded : ∀ expectation out,
      input'.concluded expectation out = input.concluded expectation out := by
    intro expectation out
    unfold CompositionInput.concluded
    rw [resources, same.admitMembers expectation distinct]
  unfold compose
  rw [same.prepare]
  simp only [resources, accounted, concluded]

/-- A domain that published twice, and one that did once. -/
def CompositionInput.twoRacks : CompositionInput :=
  let first := (MemberDomainDeclaration.sample (ascii "rack-1")).publication
  let later := { first with acceptanceSequence := 2 }
  let other := (MemberDomainDeclaration.sample (ascii "rack-2")).publication
  { CompositionInput.sample [.sample (ascii "rack-1"), .sample (ascii "rack-2")] with
    publications := [first, later, other], revoked := [first.domain, other.domain] }

theorem two_racks_compose_in_reverse :
    compose { CompositionInput.twoRacks with
      publications := CompositionInput.twoRacks.publications.reverse
      revoked := CompositionInput.twoRacks.revoked.reverse
      expectation :=
        { CompositionInput.twoRacks.expectation with
          members := CompositionInput.twoRacks.expectation.members.reverse } } =
      compose CompositionInput.twoRacks := by
  refine compose_ignores_arrival_order
    { header := rfl
      publications := List.reverse_perm _
      retirements := List.Perm.refl _
      revoked := List.reverse_perm _
      reconstructed := List.Perm.refl _
      members := List.reverse_perm _ } ?_
  intro a memberA b memberB domains _ _ sequences
  simp only [CompositionInput.twoRacks, List.mem_cons, List.not_mem_nil, or_false] at memberA memberB
  rcases memberA with rfl | rfl | rfl <;> rcases memberB with rfl | rfl | rfl <;>
    first
      | exact absurd sequences (by decide)
      | exact absurd domains (by decide)
      | rfl

end SiteFabric
