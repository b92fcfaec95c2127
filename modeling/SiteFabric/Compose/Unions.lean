import SiteFabric.Compose.Conflicts
import SiteFabric.Compose.Domains
import SiteFabric.Compose.Favourable
import SiteFabric.Compose.Sealed

/-! Domains that several members attest.
Attestors that give a domain one class and one parent agree on it, whatever members each
of them lists. -/

namespace SiteFabric

open Lib

namespace FailureDomainNode

theorem agreement_ok_iff {node : FailureDomainNode} :
    node.agreement = .ok ↔ node.status = .ok ∨ node.status = .unknown := by
  unfold agreement
  split <;> simp_all

theorem settle_ok_iff {nodes : List FailureDomainNode} {node : FailureDomainNode} :
    (node.settle nodes).status = .ok ↔
      node.agreement = .ok ∧ node.dangles nodes = false ∧ node.domainClass ≠ .unknown := by
  have same : ({ node with status := node.agreement } : FailureDomainNode).dangles nodes =
      node.dangles nodes := rfl
  unfold settle
  dsimp only
  rw [same]
  cases node.dangles nodes <;> by_cases known : node.domainClass = .unknown <;> simp [known]

end FailureDomainNode

theorem openNode_ok_iff [StdSort] {admissions : Admissions}
    {entry : FailureDomainId × ResourceRecord} (resolved : entry.2.status ≠ .unknown) :
    (openNode admissions entry).agreement = .ok ↔ entry.2.status = .ok ∧
      (unitedMembers admissions entry.1 entry.2).length ≤ Limits.maxResourceMembers := by
  rw [FailureDomainNode.agreement_ok_iff]
  unfold openNode
  dsimp only
  split
  · next excess =>
    refine iff_of_false ?_ fun fits => absurd excess (Nat.not_lt.mpr fits.2)
    simp
  · next fits => exact (or_iff_left resolved).trans (and_iff_left (Nat.not_lt.mp fits)).symm

theorem openNode_class [StdSort] {admissions : Admissions}
    {entry : FailureDomainId × ResourceRecord} : (openNode admissions entry).domainClass =
      (entry.2.domain.map (·.domainClass)).getD .unknown := by
  unfold openNode
  dsimp only
  split <;> rfl

namespace CompositionInput

variable [StdSort] {input : CompositionInput} {expectation : SiteExpectation}
  {id : FailureDomainId}

/-- A domain dangles when no record names the parent it declares. -/
theorem dangles_iff {record : ResourceRecord}
    (found : (input.resources expectation)[ResourceKey.failureDomain id]? = some record) :
    (openNode (admitMembers input expectation) (id, record)).dangles
        (openNodes (admitMembers input expectation) (input.resources expectation)) = false ↔
      ∀ parent, input.parentOf id = some parent → input.names parent = true := by
  have parent : (openNode (admitMembers input expectation) (id, record)).parent =
      input.parentOf id := by
    rw [parentOf, ← record_domain found]
    unfold openNode
    dsimp only
    split <;> rfl
  have known : ∀ other, (openNodes (admitMembers input expectation)
      (input.resources expectation)).any (·.id = other) = input.names other := by
    intro other
    rw [← planted_names input expectation, FailureDomainForest.knows, planted, plantForest]
    dsimp only
    rw [(StdSort.perm _ _).any_eq, List.any_map]
    refine congrArg (List.any _) (funext fun node => ?_)
    obtain ⟨_, settled⟩ := node.settle_frame (openNodes (admitMembers input expectation)
      (input.resources expectation))
    rw [Function.comp_apply, settled]
  unfold FailureDomainNode.dangles
  rw [parent]
  split
  · next root => simp [root]
  · next above declared => simp [declared, known]

/-- The node of a domain is OK exactly when its key is settled, its members fit, its
parent stands in the forest, its class is known and its way up does not loop. -/
theorem node_ok_iff (few : input.publications.length ≤ Limits.maxMemberDomains)
    {node : FailureDomainNode} (listed : node ∈ (input.forest expectation).nodes) :
    node.status = .ok ↔
      (input.Settled expectation (.failureDomain node.id) ∧
        (sortUnique (input.membersOf node.id)).length ≤ Limits.maxResourceMembers) ∧
      ((∀ parent, input.parentOf node.id = some parent → input.names parent = true) ∧
        ((input.domainClaims node.id).getLast?.map (·.domainClass)).getD .unknown ≠ .unknown) ∧
      ¬ input.Loops node.id := by
  obtain ⟨bare, planted, rfl⟩ := mem_forest.mp listed
  have walk : (FailureDomainForest.resolved (input.planted expectation) bare).status = .ok ↔
      bare.status = .ok ∧ ¬ input.Loops bare.id := by
    rw [FailureDomainForest.resolved, FailureDomainForest.resolveNode, ← planted_loops planted,
      ← FailureDomainForest.ancestry_none_iff]
    split
    · next none => simp [none]
    · next some => simp [some]
  rw [walk, FailureDomainForest.resolved_id, ← and_assoc]
  refine and_congr_left fun _ => ?_
  obtain ⟨id, record, found, rfl⟩ := (mem_planted _ _).mp planted
  have named := (settled_frame (admitMembers input expectation)
    (openNodes (admitMembers input expectation) (input.resources expectation)) (id, record)).1
  have resolved : record.status ≠ .unknown := by
    rcases resources_status found with same | same | same | same <;> rw [same] <;> decide
  rw [named, FailureDomainNode.settle_ok_iff, openNode_ok_iff resolved, unitedMembers_eq few found,
    resources_ok_iff_settled few found]
  refine and_congr_right fun _ => and_congr ?_ ?_
  · exact dangles_iff found
  · rw [openNode_class, ← record_domain found]

variable (input expectation id) in
/-- All claims on a domain come from CURRENT members and agree on its class and its
parent, and some member declares that parent. -/
structure Agrees : Prop where
  claimed : input.domainClaims id ≠ []
  current : ∀ record claim, input.Selects record → Claim.domain claim ∈ record.claims →
    claim.id = id → Earned input expectation record
  agreed : ∀ claim ∈ input.domainClaims id, ∀ other ∈ input.domainClaims id,
    claim.domainClass = other.domainClass ∧ claim.parent = other.parent
  declared : ∀ claim ∈ input.domainClaims id, ∀ parent, claim.parent = some parent →
    input.domainClaims parent ≠ []

omit [StdSort] in
theorem names_of_claims (claimed : input.domainClaims id ≠ []) : input.names id = true := by
  rw [names_iff]
  intro none
  rw [domainClaims, none] at claimed
  exact claimed rfl

theorem Agrees.valid (agrees : input.Agrees expectation id) {claim : FailureDomainClaim}
    (listed : claim ∈ input.domainClaims id) : claim.valid = true := by
  obtain ⟨record, selected, claimed, named⟩ := mem_domainClaims.mp listed
  obtain ⟨declaration, declared, -, -, ⟨canonical, accepted⟩, -⟩ :=
    (agrees.current record claim selected claimed named).declared
  refine MemberDomainDeclaration.domain_valid accepted ?_
  rw [MemberPublicationRecord.claims, declared] at claimed
  simpa [MemberDomainDeclaration.claims] using claimed

theorem Agrees.anchored (agrees : input.Agrees expectation id) :
    (∀ parent, input.parentOf id = some parent → input.names parent = true) ∧
      ((input.domainClaims id).getLast?.map (·.domainClass)).getD .unknown ≠ .unknown := by
  obtain ⟨claim, last⟩ := Option.isSome_iff_exists.mp (List.getLast?_isSome.mpr agrees.claimed)
  have listed := List.mem_of_getLast? last
  have valid := agrees.valid listed
  rw [parentOf, last]
  refine ⟨fun parent declares => names_of_claims (agrees.declared claim listed parent declares), ?_⟩
  simp only [FailureDomainClaim.valid, Bool.and_eq_true, bne_iff_ne] at valid
  exact valid.1.1.1.2

end CompositionInput

/-- A site gives a domain an OK node with the members listed, and records no conflict
for it. -/
structure ComposedSite.Unites [StdSort] (site : ComposedSite) (id : FailureDomainId)
    (members : List ResourceKey) : Prop where
  node : ∃ node, site.failureDomains.find id = some node ∧ node.status = .ok ∧
    node.members = (sortUnique members).take Limits.maxResourceMembers
  quiet : ∀ conflict ∈ site.conflicts, conflict.subject ≠ .failureDomain id

/-- Where attestors agree on a domain their member lists are united if and only if they
also claim one content, the union fits and the way up from the domain does not loop. -/
theorem agreeing_lists_are_united_iff [StdSort] {input : CompositionInput}
    {expectation : SiteExpectation} {site : ComposedSite} {id : FailureDomainId}
    (prepared : input.prepare = .ok expectation) (composed : compose input = .composed site)
    (agrees : input.Agrees expectation id) :
    site.Unites id (input.membersOf id) ↔ input.Settled expectation (.failureDomain id) ∧
      (sortUnique (input.membersOf id)).length ≤ Limits.maxResourceMembers ∧
      ¬ input.Loops id := by
  obtain ⟨expectation', parts⟩ := CompositionInput.compose_composes composed
  obtain rfl : expectation = expectation' := Except.ok.inj (prepared.symm.trans parts.prepared)
  have few := (CompositionInput.prepare_ok parts.prepared).1
  obtain ⟨node, listed, rfl⟩ := CompositionInput.forest_of_names expectation
    (CompositionInput.names_of_claims agrees.claimed)
  have found : site.failureDomains.find node.id = some node := by
    rw [parts.failureDomains]
    exact CompositionInput.forest_find.mpr ⟨listed, rfl⟩
  have ok := CompositionInput.node_ok_iff few listed
  rw [and_iff_right agrees.anchored, and_assoc] at ok
  rw [← ok]
  constructor
  · rintro ⟨⟨other, here, fine, -⟩, -⟩
    rw [found] at here
    rwa [Option.some.inj here]
  · intro fine
    refine ⟨⟨node, found, fine, (CompositionInput.stands few listed).members⟩, ?_⟩
    intro conflict raised subject
    have kinds : ∀ key : ResourceKey, key.kind ≠ .failureDomain → conflict.subject ≠ key := by
      rintro key other rfl
      rw [subject] at other
      exact other rfl
    rcases parts.traced composed conflict raised with ⟨record, known, disputed, _⟩ |
      ⟨none, _⟩ | ⟨other, _, planted, disputed, named, _, _⟩ | ⟨_, _, _, named, _⟩ | ⟨none, _⟩
    · rw [subject] at known
      rw [(CompositionInput.resources_ok_iff_settled few known).mpr (ok.mp fine).1] at disputed
      rcases disputed with overlap | dispute
      · cases overlap
      · cases dispute
    · exact kinds _ (by decide) none
    · rw [subject] at named
      have same : other.id = node.id :=
        congrArg (fun key : ResourceKey => (⟨key.id⟩ : FailureDomainId)) named.symm
      rw [List.inj_on_of_nodup_map (CompositionInput.forest_unique input expectation) planted
        listed same, fine] at disputed
      cases disputed
    · exact kinds _ (by rintro ⟨⟩) named
    · exact kinds _ (by decide) none

/-- Two racks that attest one domain, each with a member list of its own. -/
def CompositionInput.attesting (first second : List ResourceKey) : CompositionInput :=
  .sample [
    { MemberDomainDeclaration.sample (ascii "rack-1") with
      failureDomains := [.sample (ascii "fd-a") first] },
    { MemberDomainDeclaration.sample (ascii "rack-2") with
      failureDomains := [.sample (ascii "fd-a") second] }]

theorem CompositionInput.attesting_claims {first second : List ResourceKey}
    {record : MemberPublicationRecord} (selected : (attesting first second).Selects record) :
    ∃ members, record.claims = [.domain (.sample (ascii "fd-a") members)] := by
  rcases List.mem_cons.mp (bestRecords_mem selected).1 with rfl | later
  · exact ⟨first, rfl⟩
  · obtain rfl := List.mem_singleton.mp later
    exact ⟨second, rfl⟩

/-- Two CURRENT racks that agree on the class and the parent of their domain. -/
theorem CompositionInput.attesting_agrees {first second : List ResourceKey}
    {expectation : SiteExpectation} {site : ComposedSite}
    (parts : (attesting first second).Composes expectation site)
    (current : ∀ member ∈ site.members, member.lifecycle = .current)
    (some : ∃ node ∈ site.failureDomains.nodes, node.id = ⟨ascii "fd-a"⟩) :
    (attesting first second).Agrees expectation ⟨ascii "fd-a"⟩ := by
  have claims : ∀ claim ∈ (attesting first second).domainClaims ⟨ascii "fd-a"⟩,
      ∃ members, claim = .sample (ascii "fd-a") members := by
    intro claim listed
    obtain ⟨record, selected, claimed, -⟩ := mem_domainClaims.mp listed
    obtain ⟨members, only⟩ := attesting_claims selected
    rw [only, List.mem_singleton] at claimed
    exact ⟨members, Claim.domain.inj claimed⟩
  refine ⟨?_, fun record _ selected _ _ => parts.earned current selected, ?_, ?_⟩
  · obtain ⟨node, listed, named⟩ := some
    rw [parts.failureDomains] at listed
    have known := (stands (prepare_ok parts.prepared).1 listed).named
    rw [named, names_iff] at known
    obtain ⟨claim, member⟩ := List.exists_mem_of_ne_nil _ known
    obtain ⟨record, selected, claimed, -⟩ := mem_claimsOn.mp member
    obtain ⟨members, only⟩ := attesting_claims selected
    exact List.ne_nil_of_mem (mem_domainClaims.mpr
      ⟨record, selected, by rw [only]; exact List.mem_singleton_self _, rfl⟩)
  · intro claim listed other listed'
    obtain ⟨members, rfl⟩ := claims claim listed
    obtain ⟨members', rfl⟩ := claims other listed'
    exact ⟨rfl, rfl⟩
  · intro claim listed parent declares
    obtain ⟨members, rfl⟩ := claims claim listed
    cases declares

theorem equal_lists_are_united :
    ∃ site, compose (.attesting [⟨.rack, ascii "rack-1"⟩] [⟨.rack, ascii "rack-1"⟩]) =
        .composed site ∧
      site.Unites ⟨ascii "fd-a"⟩ ((CompositionInput.attesting [⟨.rack, ascii "rack-1"⟩]
        [⟨.rack, ascii "rack-1"⟩]).membersOf ⟨ascii "fd-a"⟩) := by
  obtain ⟨site, composed, test⟩ := CompositionInput.composed_of_sealed
    (show (composeSealed (.attesting [⟨.rack, ascii "rack-1"⟩] [⟨.rack, ascii "rack-1"⟩])).passes
      (fun site => decide ((∀ member ∈ site.members, member.lifecycle = .current) ∧
        (∃ node ∈ site.failureDomains.nodes, node.id = ⟨ascii "fd-a"⟩) ∧
        ∀ node ∈ site.failureDomains.nodes, node.status = .ok)) = true by decide +kernel) .sample
  obtain ⟨current, some, fine⟩ := of_decide_eq_true test
  obtain ⟨expectation, parts⟩ := CompositionInput.compose_composes composed
  have few := (CompositionInput.prepare_ok parts.prepared).1
  have agrees := CompositionInput.attesting_agrees parts current some
  obtain ⟨node, listed, named⟩ := CompositionInput.forest_of_names expectation
    (CompositionInput.names_of_claims agrees.claimed)
  have ok := (CompositionInput.node_ok_iff few listed).mp
    (fine node (parts.failureDomains.symm ▸ listed))
  rw [named] at ok
  exact ⟨site, composed, (agreeing_lists_are_united_iff parts.prepared composed agrees).mpr
    ⟨ok.1.1, ok.1.2, ok.2.2⟩⟩

/-- Two racks that agree on a domain and list different members put it in conflict. -/
theorem unequal_lists_are_not_united :
    ∃ expectation site,
      compose (.attesting [⟨.rack, ascii "rack-1"⟩] [⟨.rack, ascii "rack-2"⟩]) =
        .composed site ∧
      (CompositionInput.attesting [⟨.rack, ascii "rack-1"⟩] [⟨.rack, ascii "rack-2"⟩]).Agrees
        expectation ⟨ascii "fd-a"⟩ ∧
      ¬ site.Unites ⟨ascii "fd-a"⟩ ((CompositionInput.attesting [⟨.rack, ascii "rack-1"⟩]
        [⟨.rack, ascii "rack-2"⟩]).membersOf ⟨ascii "fd-a"⟩) := by
  obtain ⟨site, composed, test⟩ := CompositionInput.composed_of_sealed
    (show (composeSealed (.attesting [⟨.rack, ascii "rack-1"⟩] [⟨.rack, ascii "rack-2"⟩])).passes
      (fun site => decide ((∀ member ∈ site.members, member.lifecycle = .current) ∧
        (∃ node ∈ site.failureDomains.nodes, node.id = ⟨ascii "fd-a"⟩) ∧
        ∀ node ∈ site.failureDomains.nodes, node.status ≠ .ok)) = true by decide +kernel) .sample
  obtain ⟨current, some, disputed⟩ := of_decide_eq_true test
  obtain ⟨expectation, parts⟩ := CompositionInput.compose_composes composed
  refine ⟨expectation, site, composed,
    CompositionInput.attesting_agrees parts current some, ?_⟩
  rintro ⟨⟨node, found, fine, -⟩, -⟩
  exact disputed node (List.mem_of_find?_eq_some found) fine

end SiteFabric
