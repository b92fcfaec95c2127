import SiteFabric.Compose.Accounts
import SiteFabric.Compose.Ancestry

/-! The composed forest in terms of the input.
A domain stands in the forest when a record that speaks names its key. Its node declares
what the last claim on it declares, and lists what all the claims list. -/

namespace SiteFabric

open Lib Relation
open Std (ExtTreeMap)

theorem ResourceRecord.domainSlot : Slot domain Claim.domain? :=
  ⟨rfl, fun _ claim => by cases claim <;> rfl, fun _ _ _ _ => rfl, fun _ _ _ _ _ _ => rfl⟩

theorem FailureDomainNode.settle_frame (nodes : List FailureDomainNode) (node : FailureDomainNode) :
    ∃ status, node.settle nodes = { node with status } := by
  unfold settle
  dsimp only
  split
  · split <;> exact ⟨_, rfl⟩
  · split <;> exact ⟨_, rfl⟩

/-- What a source lists among the members of a domain. -/
def attestedMembers (admissions : Admissions) (id : FailureDomainId) (source : MemberDomainKey) :
    List ResourceKey :=
  match admissions[source]? with
  | none => []
  | some admission =>
    match admission.record.declaration with
    | none => []
    | some declaration => (declaration.failureDomains.filter (·.id = id)).flatMap (·.members)

section Planted

variable [StdSort] (admissions : Admissions) (resources : Resources)

/-- What the record of a domain says of its node. -/
theorem openNode_frame (entry : FailureDomainId × ResourceRecord) :
    (openNode admissions entry).id = entry.1 ∧
      (openNode admissions entry).parent = entry.2.domain.bind (·.parent) ∧
      (openNode admissions entry).members =
        (unitedMembers admissions entry.1 entry.2).take Limits.maxResourceMembers := by
  unfold openNode
  dsimp only
  split
  · exact ⟨rfl, rfl, rfl⟩
  · next few => exact ⟨rfl, rfl, (List.take_of_length_le (Nat.not_lt.mp few)).symm⟩

theorem settled_frame (nodes : List FailureDomainNode)
    (entry : FailureDomainId × ResourceRecord) :
    ((openNode admissions entry).settle nodes).id = entry.1 ∧
      ((openNode admissions entry).settle nodes).parent = entry.2.domain.bind (·.parent) ∧
      ((openNode admissions entry).settle nodes).members =
        (unitedMembers admissions entry.1 entry.2).take Limits.maxResourceMembers := by
  obtain ⟨_, settled⟩ := (openNode admissions entry).settle_frame nodes
  rw [settled]
  exact openNode_frame admissions entry

/-- A planted node is what a record under a failure-domain key makes of it. -/
theorem mem_planted {node : FailureDomainNode} : node ∈ (plantForest admissions resources).nodes ↔
    ∃ id record, resources[ResourceKey.failureDomain id]? = some record ∧
      (openNode admissions (id, record)).settle (openNodes admissions resources) = node := by
  rw [plantForest, mem_sort, List.mem_map]
  constructor
  · rintro ⟨opened, listed, rfl⟩
    obtain ⟨⟨id, record⟩, filed, rfl⟩ := List.mem_map.mp listed
    exact ⟨id, record, mem_domainRecords.mp filed, rfl⟩
  · rintro ⟨id, record, found, rfl⟩
    exact ⟨_, List.mem_map_of_mem (mem_domainRecords.mpr found), rfl⟩

omit [StdSort] in
theorem domainRecords_distinct : (domainRecords resources).Pairwise (·.1 ≠ ·.1) := by
  refine (keys_pairwise resources).filterMap _ fun entry entry' apart kept here kept' there => ?_
  obtain ⟨⟨kind, id⟩, record⟩ := entry
  obtain ⟨⟨kind', id'⟩, record'⟩ := entry'
  rw [Option.ite_none_right_eq_some] at here there
  obtain ⟨rfl, rfl⟩ := And.imp_right Option.some.inj here
  obtain ⟨rfl, rfl⟩ := And.imp_right Option.some.inj there
  rintro same
  cases same
  exact apart rfl

theorem planted_unique : ((plantForest admissions resources).nodes.map (·.id)).Nodup := by
  have ids : ((openNodes admissions resources).map
      (FailureDomainNode.settle (openNodes admissions resources))).map (·.id) =
      (domainRecords resources).map (·.1) := by
    rw [openNodes, List.map_map, List.map_map]
    refine List.map_congr_left fun entry _ => ?_
    exact (settled_frame admissions _ entry).1
  have distinct : ((domainRecords resources).map (·.1)).Nodup :=
    List.pairwise_map.mpr (domainRecords_distinct resources)
  rw [plantForest, ((StdSort.perm _ _).map _).nodup_iff, ids]
  exact distinct

theorem composeForest_nodes : (composeForest admissions resources).nodes =
    (plantForest admissions resources).nodes.map
      (FailureDomainForest.resolved (plantForest admissions resources).nodes) := by
  obtain ⟨_, _, frame⟩ := (plantForest admissions resources).resolveAncestry.grade_frame
  rw [composeForest, frame, FailureDomainForest.resolveAncestry_eq]

theorem composeForest_cyclic : (composeForest admissions resources).cyclic =
    sort (byKey id) (FailureDomainForest.gatherCyclic (plantForest admissions resources).nodes []) := by
  obtain ⟨_, _, frame⟩ := (plantForest admissions resources).resolveAncestry.grade_frame
  rw [composeForest, frame, FailureDomainForest.resolveAncestry_eq]
  rfl

theorem composeForest_unique : ((composeForest admissions resources).nodes.map (·.id)).Nodup := by
  rw [composeForest_nodes, List.map_map]
  have same : (fun node : FailureDomainNode => node.id) ∘
      FailureDomainForest.resolved (plantForest admissions resources).nodes = (·.id) :=
    funext fun node => FailureDomainForest.resolved_id _ node
  rw [same]
  exact planted_unique admissions resources

end Planted

namespace CompositionInput

variable (input : CompositionInput) (id : FailureDomainId)

/-- The failure-domain claims on a domain by the records that speak, in domain order. -/
def domainClaims : List FailureDomainClaim :=
  (input.claimsOn (.failureDomain id)).filterMap Claim.domain?

/-- The parent a domain declares; of several claims the last one's. -/
def parentOf : Option FailureDomainId := (input.domainClaims id).getLast?.bind (·.parent)

def names : Bool := !(input.claimsOn (.failureDomain id)).isEmpty

def membersOf : List ResourceKey := (input.domainClaims id).flatMap (·.members)

/-- The members a node of the forest lists. -/
def nodeMembers [StdSort] : List ResourceKey :=
  (sortUnique (input.membersOf id)).take Limits.maxResourceMembers

/-- The way up from a domain returns, or has more parents than the depth bound. -/
def Loops : Prop :=
  Lib.Loops input.parentOf Limits.maxFailureDomainDepth id (input.parentOf id)

/-- The domains above a domain that stand in the forest, nearest first. -/
def above : List FailureDomainId :=
  (follow input.parentOf Limits.maxFailureDomainDepth (input.parentOf id)).filter input.names

/-- What a node of the forest says of its domain. -/
structure Stands [StdSort] (node : FailureDomainNode) : Prop where
  named : input.names node.id = true
  parent : node.parent = input.parentOf node.id
  members : node.members = input.nodeMembers node.id
  looped : input.Loops node.id → node.ancestors = []
  straight : ¬ input.Loops node.id → node.ancestors = input.above node.id

variable {input id}

theorem names_iff : input.names id = true ↔ input.claimsOn (.failureDomain id) ≠ [] := by
  rw [names, Bool.not_eq_true', List.isEmpty_eq_false_iff]

theorem mem_domainClaims {claim : FailureDomainClaim} : claim ∈ input.domainClaims id ↔
    ∃ record, input.Selects record ∧ Claim.domain claim ∈ record.claims ∧ claim.id = id := by
  rw [domainClaims, List.mem_filterMap]
  constructor
  · rintro ⟨other, member, read⟩
    obtain ⟨record, selected, claimed, named⟩ := mem_claimsOn.mp member
    cases other with
    | domain c =>
      cases read
      refine ⟨record, selected, claimed, ?_⟩
      exact congrArg (fun key : ResourceKey => (⟨key.id⟩ : FailureDomainId)) named
    | _ => cases read
  · rintro ⟨record, selected, claimed, rfl⟩
    exact ⟨_, mem_claimsOn.mpr ⟨record, selected, claimed, rfl⟩, rfl⟩

section Forest

variable [StdSort]

variable (input) in
/-- The nodes of the forest before its ancestry is walked. -/
def planted (expectation : SiteExpectation) : List FailureDomainNode :=
  (plantForest (admitMembers input expectation) (input.resources expectation)).nodes

variable {expectation : SiteExpectation}

/-- The domain of a record is the last claim on it. -/
theorem record_domain {record : ResourceRecord}
    (found : (input.resources expectation)[ResourceKey.failureDomain id]? = some record) :
    record.domain = (input.domainClaims id).getLast? :=
  resources_slot_eq ResourceRecord.domainSlot found

theorem names_of_found {record : ResourceRecord}
    (found : (input.resources expectation)[ResourceKey.failureDomain id]? = some record) :
    input.names id = true := by
  have some : ((input.resources expectation)[ResourceKey.failureDomain id]?).isSome = true := by
    rw [found]
    rfl
  exact names_iff.mpr ((resources_isSome_iff _).mp some)

theorem planted_cases {node : FailureDomainNode} (listed : node ∈ input.planted expectation) :
    ∃ record, (input.resources expectation)[ResourceKey.failureDomain node.id]? = some record ∧
      node.parent = record.domain.bind (·.parent) ∧
      node.members = (unitedMembers (admitMembers input expectation) node.id record).take
        Limits.maxResourceMembers := by
  obtain ⟨id, record, found, rfl⟩ := (mem_planted _ _).mp listed
  obtain ⟨named, parent, members⟩ := settled_frame (admitMembers input expectation)
    (openNodes (admitMembers input expectation) (input.resources expectation)) (id, record)
  rw [named]
  exact ⟨record, found, parent, members⟩

theorem planted_of_found {record : ResourceRecord}
    (found : (input.resources expectation)[ResourceKey.failureDomain id]? = some record) :
    ∃ node ∈ input.planted expectation, node.id = id :=
  ⟨_, (mem_planted _ _).mpr ⟨id, record, found, rfl⟩, (settled_frame _ _ _).1⟩

theorem planted_parent {node : FailureDomainNode} (listed : node ∈ input.planted expectation) :
    node.parent = input.parentOf node.id := by
  obtain ⟨record, found, parent, -⟩ := planted_cases listed
  rw [parent, parentOf, ← record_domain found]

variable (input expectation) in
/-- The planted nodes are those of the domains some record names. -/
theorem planted_names :
    FailureDomainForest.knows (input.planted expectation) = input.names := by
  funext id
  rw [Bool.eq_iff_iff, FailureDomainForest.knows, List.any_eq_true]
  constructor
  · rintro ⟨node, listed, named⟩
    obtain ⟨record, found, -⟩ := planted_cases listed
    rw [← of_decide_eq_true named]
    exact names_of_found found
  · intro named
    obtain ⟨record, found⟩ := record_of_claimed expectation (names_iff.mp named)
    obtain ⟨node, listed, same⟩ := planted_of_found found
    exact ⟨node, listed, decide_eq_true same⟩

theorem planted_of_names (expectation : SiteExpectation) (named : input.names id = true) :
    ∃ node ∈ input.planted expectation, node.id = id := by
  rw [← planted_names input expectation, FailureDomainForest.knows, List.any_eq_true] at named
  obtain ⟨node, listed, same⟩ := named
  exact ⟨node, listed, of_decide_eq_true same⟩

variable (input expectation) in
theorem planted_parentOf :
    FailureDomainForest.parentOf (input.planted expectation) = input.parentOf := by
  funext id
  cases named : input.names id with
  | true =>
    obtain ⟨node, listed, rfl⟩ := planted_of_names expectation named
    rw [← planted_parent listed]
    exact FailureDomainForest.parentOf_node (planted_unique _ _) listed
  | false =>
    have silent : input.claimsOn (.failureDomain id) = [] := by simpa [names] using named
    rw [FailureDomainForest.parentOf_unknown id (by rw [planted_names, named]), parentOf,
      domainClaims, silent]
    rfl

theorem planted_loops {node : FailureDomainNode} (listed : node ∈ input.planted expectation) :
    FailureDomainForest.Loops (input.planted expectation) node ↔ input.Loops node.id := by
  rw [FailureDomainForest.Loops, planted_parentOf, planted_parent listed]
  exact Iff.rfl

theorem mem_attestedMembers {record : MemberPublicationRecord} (selected : input.Selects record)
    {key : ResourceKey} :
    key ∈ attestedMembers (admitMembers input expectation) id record.domain ↔
      ∃ claim, Claim.domain claim ∈ record.claims ∧ claim.id = id ∧ key ∈ claim.members := by
  have admitted : (admitMembers input expectation)[record.domain]? =
      some (admitRecord input expectation record) := admitMembers_iff.mpr ⟨record, selected, rfl, rfl⟩
  have same : (admitRecord input expectation record).record.declaration = record.declaration := rfl
  rw [attestedMembers, admitted, MemberPublicationRecord.claims]
  dsimp only
  rw [same]
  cases record.declaration with
  | none => simp
  | some declaration => simp [MemberDomainDeclaration.claims, and_assoc]

/-- The members of a node are those that the claims on its domain list. -/
theorem unitedMembers_eq (few : input.publications.length ≤ Limits.maxMemberDomains)
    {record : ResourceRecord}
    (found : (input.resources expectation)[ResourceKey.failureDomain id]? = some record) :
    unitedMembers (admitMembers input expectation) id record =
      sortUnique (input.membersOf id) := by
  obtain ⟨raw, resolved, attested⟩ := resources_resolved (admitMembers_orderly few) found
  have attestations : record.attestations =
      attestationsFor (admitMembers input expectation).toList (ResourceKey.failureDomain id) := by
    rw [resolved, ResourceRecord.attestations_resolve, attested]
  refine sortUnique_congr fun key => ?_
  change key ∈ record.attestations.flatMap (fun attestation =>
    attestedMembers (admitMembers input expectation) id attestation.source.domain) ↔ _
  rw [membersOf, List.mem_flatMap, List.mem_flatMap, attestations]
  constructor
  · rintro ⟨attestation, listed, united⟩
    obtain ⟨domain, admission, first, there, _, rfl⟩ := mem_attestationsFor.mp listed
    obtain ⟨record', selected, rfl, rfl⟩ := admitMembers_iff.mp there
    obtain ⟨claim, claimed, named, member⟩ := (mem_attestedMembers selected).mp united
    exact ⟨claim, mem_domainClaims.mpr ⟨record', selected, claimed, named⟩, member⟩
  · rintro ⟨claim, claimed, member⟩
    obtain ⟨record', selected, among, rfl⟩ := mem_domainClaims.mp claimed
    obtain ⟨first, here⟩ := firstClaim_of_mem among
    exact ⟨_, mem_attestationsFor.mpr ⟨_, _, first,
      admitMembers_iff.mpr ⟨record', selected, rfl, rfl⟩, here, rfl⟩,
      (mem_attestedMembers selected).mpr ⟨claim, among, rfl, member⟩⟩

/-- A node of the forest is what the walk makes of a planted node. -/
theorem mem_forest {node : FailureDomainNode} : node ∈ (input.forest expectation).nodes ↔
    ∃ bare ∈ input.planted expectation,
      FailureDomainForest.resolved (input.planted expectation) bare = node := by
  rw [forest, composeForest_nodes, List.mem_map]
  exact Iff.rfl

/-- A node of the forest says of its domain what the input does. -/
theorem stands (few : input.publications.length ≤ Limits.maxMemberDomains)
    {node : FailureDomainNode} (listed : node ∈ (input.forest expectation).nodes) :
    input.Stands node := by
  obtain ⟨bare, planted, rfl⟩ := mem_forest.mp listed
  obtain ⟨record, found, -, members⟩ := planted_cases planted
  have resolution := FailureDomainForest.resolvedTo (input.planted expectation) bare
  have loops := planted_loops planted
  have named := FailureDomainForest.resolved_id (input.planted expectation) bare
  refine { named := ?_, parent := ?_, members := ?_, looped := ?_, straight := ?_ }
  · rw [named]
    exact names_of_found found
  · rw [named, FailureDomainForest.resolved_parent, planted_parent planted]
  · rw [named, FailureDomainForest.resolved_members, members, unitedMembers_eq few found,
      nodeMembers]
  · rw [named, ← loops]
    exact fun looped => (resolution.looped looped).1
  · rw [named, ← loops]
    intro straight
    rw [(resolution.straight straight).1, FailureDomainForest.above, planted_parentOf,
      planted_names, planted_parent planted, above]

/-- Every domain that some record names stands in the forest. -/
theorem forest_of_names (expectation : SiteExpectation) (named : input.names id = true) :
    ∃ node ∈ (input.forest expectation).nodes, node.id = id := by
  obtain ⟨bare, planted, rfl⟩ := planted_of_names expectation named
  exact ⟨_, mem_forest.mpr ⟨bare, planted, rfl⟩, FailureDomainForest.resolved_id _ _⟩

variable (input expectation) in
theorem forest_unique : ((input.forest expectation).nodes.map (·.id)).Nodup :=
  composeForest_unique _ _

theorem forest_find {node : FailureDomainNode} : (input.forest expectation).find id = some node ↔
    node ∈ (input.forest expectation).nodes ∧ node.id = id := by
  rw [FailureDomainForest.find]
  constructor
  · intro found
    exact ⟨List.mem_of_find?_eq_some found, by simpa using List.find?_some found⟩
  · rintro ⟨listed, rfl⟩
    have some : ((input.forest expectation).nodes.find? (·.id = node.id)).isSome = true :=
      List.find?_isSome.mpr ⟨node, listed, decide_eq_true rfl⟩
    obtain ⟨other, found⟩ := Option.isSome_iff_exists.mp some
    rw [found, List.inj_on_of_nodup_map (forest_unique input expectation)
      (List.mem_of_find?_eq_some found) listed (by simpa using List.find?_some found)]

/-- The domains listed as cyclic are those of the forest whose way up loops. -/
theorem mem_cyclic : id ∈ (input.forest expectation).cyclic ↔
    input.names id = true ∧ input.Loops id := by
  rw [forest, composeForest_cyclic, mem_sort_byKey, FailureDomainForest.mem_gatherCyclic,
    or_iff_right List.not_mem_nil]
  change (∃ node ∈ input.planted expectation,
    FailureDomainForest.ancestry (input.planted expectation) node = none ∧ node.id = id) ↔ _
  constructor
  · rintro ⟨node, listed, none, rfl⟩
    obtain ⟨record, found, -⟩ := planted_cases listed
    exact ⟨names_of_found found,
      (planted_loops listed).mp (FailureDomainForest.ancestry_none_iff.mp none)⟩
  · rintro ⟨named, looped⟩
    obtain ⟨node, listed, rfl⟩ := planted_of_names expectation named
    exact ⟨node, listed,
      FailureDomainForest.ancestry_none_iff.mpr ((planted_loops listed).mpr looped), rfl⟩

/-- A domain that lists a member stands in the forest. -/
theorem names_of_member {key : ResourceKey} (listed : key ∈ input.nodeMembers id) :
    input.names id = true := by
  obtain ⟨claim, claimed, -⟩ :=
    List.mem_flatMap.mp (mem_sortUnique.mp (List.mem_of_mem_take listed))
  obtain ⟨record, selected, among, named⟩ := mem_domainClaims.mp claimed
  rw [names_iff]
  exact List.ne_nil_of_mem (mem_claimsOn.mpr ⟨record, selected, among, by rw [← named]; rfl⟩)

/-- The members filed for a domain are those of its node. -/
theorem mem_domainMembers (few : input.publications.length ≤ Limits.maxMemberDomains)
    {key : ResourceKey} :
    key ∈ ((domainMembers (admitMembers input expectation)
        (input.resources expectation))[id]?).getD [] ↔ key ∈ input.nodeMembers id := by
  let write := fun node : FailureDomainNode => if node.id = id then some node.members else none
  have last : (domainMembers (admitMembers input expectation) (input.resources expectation))[id]? =
      (((openNodes (admitMembers input expectation)
        (input.resources expectation)).filterMap write).getLast?).or none := by
    refine foldl_last (fun index : DomainMembers => index[id]?) write (fun index node => ?_) _ ∅
    rw [lookup_insert]
    by_cases here : node.id = id
    · simp [write, here]
    · simp [write, here]
  have written : ∀ members ∈ (openNodes (admitMembers input expectation)
      (input.resources expectation)).filterMap write, members = input.nodeMembers id := by
    intro members member
    obtain ⟨node, listed, wrote⟩ := List.mem_filterMap.mp member
    obtain ⟨⟨other, record⟩, filed, rfl⟩ := List.mem_map.mp listed
    obtain ⟨named, -, united⟩ := openNode_frame (admitMembers input expectation) (other, record)
    obtain ⟨here, same⟩ := Option.ite_none_right_eq_some.mp wrote
    obtain rfl : other = id := named.symm.trans here
    rw [← Option.some.inj same, united, unitedMembers_eq few (mem_domainRecords.mp filed), nodeMembers]
  rw [last, Option.or_none]
  cases filed : ((openNodes (admitMembers input expectation)
      (input.resources expectation)).filterMap write).getLast? with
  | some members =>
    rw [Option.getD_some, written members (List.mem_of_getLast? filed)]
  | none =>
    refine iff_of_false List.not_mem_nil fun listed => ?_
    obtain ⟨record, found⟩ := record_of_claimed expectation (names_iff.mp (names_of_member listed))
    rw [List.getLast?_eq_none_iff, List.filterMap_eq_nil_iff] at filed
    have skipped := filed _ (List.mem_map_of_mem (mem_domainRecords.mpr found))
    simp only [write, if_pos (openNode_frame (admitMembers input expectation) (id, record)).1] at skipped
    cases skipped

end Forest

end CompositionInput

/-- A claim on a physical domain. -/
def FailureDomainClaim.sample (id : Text) (members : List ResourceKey) : FailureDomainClaim where
  id := ⟨id⟩
  domainClass := .physical
  members := members
  generation := ⟨1⟩
  evidence := Evidence.sample

end SiteFabric
