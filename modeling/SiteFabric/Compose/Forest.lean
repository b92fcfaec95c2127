import SiteFabric.Compose.Agreement

/-! The failure-domain forest: one node for each failure-domain key, its members
united over the attestors, its ancestry walked up the declared parents. A walk
that returns to a domain it has met, or that passes the depth bound, is a cycle. -/

namespace SiteFabric

open Lib
open Std (ExtTreeMap)

/-- The records under failure-domain keys, in key order. -/
def domainRecords (resources : Resources) : List (FailureDomainId × ResourceRecord) :=
  resources.toList.filterMap fun (key, record) =>
    if key.kind = .failureDomain then some (⟨key.id⟩, record) else none

section Nodes

variable [StdSort]

/-- The member lists every attestor's declaration gives the domain, united. -/
def unitedMembers (admissions : Admissions) (id : FailureDomainId) (record : ResourceRecord) :
    List ResourceKey :=
  sortUnique <| record.attestations.flatMap fun attestation =>
    match admissions[attestation.source.domain]? with
    | none => []
    | some admission =>
      match admission.record.declaration with
      | none => []
      | some declaration =>
        (declaration.failureDomains.filter (·.id = id)).flatMap (·.members)

def openNode (admissions : Admissions) (entry : FailureDomainId × ResourceRecord) :
    FailureDomainNode :=
  let (id, record) := entry
  let node : FailureDomainNode :=
    { id
      domainClass := (record.domain.map (·.domainClass)).getD .unknown
      parent := record.domain.bind (·.parent)
      members := unitedMembers admissions id record
      attestors := record.sources
      status := record.status }
  if node.members.length > Limits.maxResourceMembers then
    { node with members := node.members.take Limits.maxResourceMembers, status := .limitExceeded }
  else node

end Nodes

namespace FailureDomainNode

/-- Two attestors disagreed about the class or the parent: a conflict. A domain
nobody authoritative has described is missing evidence and stays that. -/
def agreement (node : FailureDomainNode) : Status :=
  match node.status with
  | .unknown => .ok
  | .ownershipOverlap => .failureDomainConflict
  | status => status

def dangles (nodes : List FailureDomainNode) (node : FailureDomainNode) : Bool :=
  match node.parent with
  | none => false
  | some parent => !nodes.any (·.id = parent)

def settle (nodes : List FailureDomainNode) (node : FailureDomainNode) : FailureDomainNode :=
  let node := { node with status := node.agreement }
  let node :=
    if node.dangles nodes then { node with status := .failureDomainDanglingParent } else node
  if node.domainClass = .unknown then { node with status := .failureDomainConflict } else node

end FailureDomainNode

namespace FailureDomainForest

abbrev Parents := ExtTreeMap FailureDomainId (Option FailureDomainId) compare

def parents (nodes : List FailureDomainNode) : Parents :=
  nodes.foldl (fun index node => index.insert node.id node.parent) ∅

/-- Walks up from a parent. The bound is the depth still allowed; the result is
the ancestors, nearest first, or nothing when the walk is a cycle. -/
def climb (index : Parents) (start : FailureDomainId) :
    Nat → Option FailureDomainId → List FailureDomainId → Option (List FailureDomainId)
  | _, none, ancestors => some ancestors
  | 0, some _, _ => none
  | depth + 1, some parent, ancestors =>
    if ancestors.contains parent || parent = start then none
    else
      match index[parent]? with
      | none => some ancestors
      | some above => climb index start depth above (ancestors ++ [parent])

def ancestry (nodes : List FailureDomainNode) (node : FailureDomainNode) :
    Option (List FailureDomainId) :=
  climb (parents nodes) node.id Limits.maxFailureDomainDepth node.parent []

def resolveNode (nodes : List FailureDomainNode) (node : FailureDomainNode) : FailureDomainNode :=
  match ancestry nodes node with
  | none => { node with ancestors := [], depth := 0, status := .failureDomainCycle }
  | some ancestors => { node with ancestors, depth := ancestors.length }

/-- The verdict on a resolved forest. -/
def grade (forest : FailureDomainForest) : FailureDomainForest :=
  if !forest.cyclic.isEmpty then
    { forest with
      status := .failureDomainCycle
      factors := forest.factors.add (ascii "cyclic_domains") (decimal forest.cyclic.length) }
  else if !forest.dangling.isEmpty then
    { forest with
      status := .failureDomainDanglingParent
      factors := forest.factors.add (ascii "dangling_domains") (decimal forest.dangling.length) }
  else if forest.nodes.any (·.status = .failureDomainConflict) then
    { forest with status := .failureDomainConflict }
  else if forest.nodes.any (·.status = .noAuthoritativeSource) then
    { forest with status := .noAuthoritativeSource }
  else { forest with status := .ok }

/-- `resolve_ancestry`, on a forest whose nodes have distinct ids. -/
def resolveAncestry [StdSort] (forest : FailureDomainForest) : FailureDomainForest :=
  let nodes := forest.nodes.map (resolveNode forest.nodes)
  let cyclic := (forest.nodes.filter fun node => (ancestry forest.nodes node).isNone).foldl
    (fun cyclic node => if cyclic.contains node.id then cyclic else cyclic ++ [node.id])
    forest.cyclic
  let children := fun (node : FailureDomainNode) =>
    (forest.nodes.filter (·.parent = some node.id)).map (·.id)
  { forest with
    nodes := nodes.map fun node => { node with children := sort (byKey id) (children node).dedup }
    cyclic := sort (byKey id) cyclic
    dangling := sort (byKey id) forest.dangling }

end FailureDomainForest

section Build

variable [StdSort] (admissions : Admissions) (resources : Resources)

def openNodes : List FailureDomainNode := (domainRecords resources).map (openNode admissions)

/-- The forest before its ancestry is walked. -/
def plantForest : FailureDomainForest :=
  let nodes := openNodes admissions resources
  { nodes := sort (byKey FailureDomainNode.id) (nodes.map (FailureDomainNode.settle nodes))
    dangling := (nodes.filter (FailureDomainNode.dangles nodes)).map (·.id)
    factors := (nodes.filter (·.agreement = .noAuthoritativeSource)).foldl
      (fun factors node => factors.add (ascii "unsourced_domain") node.id.value) {} }

def composeForest : FailureDomainForest := (plantForest admissions resources).resolveAncestry.grade

instance (priority := high) instTransCmpFailureDomainId :
    Std.TransCmp (compare : FailureDomainId → FailureDomainId → Ordering) := inferInstance

abbrev DomainMembers := ExtTreeMap FailureDomainId (List ResourceKey) compare

def domainMembers : DomainMembers :=
  (openNodes admissions resources).foldl (fun index node => index.insert node.id node.members) ∅

end Build

def reportDangling (out : ComposedSite) (node : FailureDomainNode) : ComposedSite :=
  out.addDeficit .failureDomainDanglingParent {}
    (ascii "parent=" ++ (node.parent.map (·.value)).getD Text.empty)

def reportCycle (forest : FailureDomainForest) (out : ComposedSite) : ComposedSite :=
  if forest.cyclic.isEmpty then out
  else out.addConflict .failureDomainCycle {} {} (forest.cyclic.map (·.value))

def reportNode (resources : Resources) (out : ComposedSite) (node : FailureDomainNode) :
    ComposedSite :=
  if node.status = .failureDomainConflict then
    match resources[ResourceKey.failureDomain node.id]? with
    | none => out
    | some record =>
      out.addConflict .failureDomainConflict (.failureDomain node.id) record.sources []
  else out

/-- What the forest has to report: dangling parents, then cycles, then nodes in
conflict. -/
def reportForest [StdSort] (admissions : Admissions) (resources : Resources)
    (out : ComposedSite) : ComposedSite :=
  let nodes := openNodes admissions resources
  let forest := composeForest admissions resources
  let out := (nodes.filter (FailureDomainNode.dangles nodes)).foldl reportDangling out
  let out := reportCycle forest out
  forest.nodes.foldl (reportNode resources) out

def buildFailureDomains [StdSort] (admissions : Admissions) (resources : Resources)
    (out : ComposedSite) : ComposedSite :=
  { reportForest admissions resources out with failureDomains := composeForest admissions resources }

theorem FailureDomainForest.grade_frame (forest : FailureDomainForest) :
    ∃ status factors, forest.grade = { forest with status, factors } := by
  unfold grade
  split
  · exact ⟨_, _, rfl⟩
  split
  · exact ⟨_, _, rfl⟩
  split
  · exact ⟨_, forest.factors, rfl⟩
  split
  · exact ⟨_, forest.factors, rfl⟩
  · exact ⟨_, forest.factors, rfl⟩

/-- A forest graded neither cyclic nor dangling has no dangling domain. -/
theorem FailureDomainForest.grade_dangling {forest : FailureDomainForest}
    (acyclic : forest.grade.cyclic = [])
    (graded : forest.grade.status ≠ .failureDomainDanglingParent) : forest.grade.dangling = [] := by
  obtain ⟨_, _, frame⟩ := forest.grade_frame
  rw [frame] at acyclic ⊢
  by_contra dangling
  refine graded ?_
  unfold grade
  rw [if_neg (by simpa using acyclic), if_pos (by simpa using dangling)]

theorem FailureDomainNode.settle_unsourced {nodes : List FailureDomainNode}
    {node : FailureDomainNode} (unsourced : (node.settle nodes).status = .noAuthoritativeSource) :
    node.status = .noAuthoritativeSource := by
  have agreement : node.agreement = .noAuthoritativeSource := by
    simp only [settle] at unsourced
    split at unsourced
    · split at unsourced
      · simp at unsourced
      · simp at unsourced
    · split at unsourced
      · simp at unsourced
      · exact unsourced
  unfold FailureDomainNode.agreement at agreement
  split at agreement
  · cases agreement
  · cases agreement
  · exact agreement

section Unsourced

variable [StdSort] {admissions : Admissions} {resources : Resources}

theorem openNode_unsourced {entry : FailureDomainId × ResourceRecord}
    (unsourced : (openNode admissions entry).status = .noAuthoritativeSource) :
    entry.2.status = .noAuthoritativeSource := by
  unfold openNode at unsourced
  dsimp only at unsourced
  split at unsourced
  · cases unsourced
  · exact unsourced

omit [StdSort] in
theorem mem_domainRecords {id : FailureDomainId} {record : ResourceRecord} :
    (id, record) ∈ domainRecords resources ↔
      resources[ResourceKey.failureDomain id]? = some record := by
  simp only [domainRecords, List.mem_filterMap, Prod.exists, mem_toList_iff]
  constructor
  · rintro ⟨key, record', found, named⟩
    split at named
    · next kind =>
      obtain ⟨rfl, rfl⟩ := by simpa using named
      obtain ⟨kind', id'⟩ := key
      cases kind
      exact found
    · cases named
  · intro found
    exact ⟨ResourceKey.failureDomain id, record, found, by simp [ResourceKey.failureDomain]⟩

/-- An unsourced node stands for a record nobody authoritative attests. -/
theorem composeForest_unsourced {node : FailureDomainNode}
    (listed : node ∈ (composeForest admissions resources).nodes)
    (unsourced : node.status = .noAuthoritativeSource) :
    ∃ (key : ResourceKey) (record : ResourceRecord), resources[key]? = some record ∧
      record.status = .noAuthoritativeSource := by
  obtain ⟨_, _, frame⟩ := (plantForest admissions resources).resolveAncestry.grade_frame
  rw [composeForest, frame] at listed
  simp only [FailureDomainForest.resolveAncestry, List.map_map, List.mem_map,
    Function.comp_apply] at listed
  obtain ⟨planted, listed, rfl⟩ := listed
  have early : planted.status = .noAuthoritativeSource := by
    unfold FailureDomainForest.resolveNode at unsourced
    split at unsourced
    · cases unsourced
    · exact unsourced
  rw [plantForest, mem_sort, List.mem_map] at listed
  obtain ⟨opened, listed, rfl⟩ := listed
  obtain ⟨entry, recorded, rfl⟩ := List.mem_map.mp listed
  have plain := openNode_unsourced (FailureDomainNode.settle_unsourced early)
  exact ⟨_, entry.2, mem_domainRecords.mp recorded, plain⟩

end Unsourced

@[simp] theorem body_reportForest [StdSort] (admissions : Admissions) (resources : Resources)
    (out : ComposedSite) : (reportForest admissions resources out).body = out.body := by
  have dangling : ∀ (nodes : List FailureDomainNode) (site : ComposedSite),
      (nodes.foldl reportDangling site).body = site.body :=
    foldl_frame ComposedSite.body fun site node => ComposedSite.body_addDeficit ..
  have cycle : ∀ (forest : FailureDomainForest) (site : ComposedSite),
      (reportCycle forest site).body = site.body := by
    intro forest site
    unfold reportCycle
    split
    · rfl
    · exact ComposedSite.body_addConflict ..
  have each : ∀ (nodes : List FailureDomainNode) (site : ComposedSite),
      (nodes.foldl (reportNode resources) site).body = site.body := by
    refine foldl_frame ComposedSite.body fun site node => ?_
    unfold reportNode
    split
    · split
      · rfl
      · exact ComposedSite.body_addConflict ..
    · rfl
  rw [reportForest, each, cycle, dangling]

theorem buildFailureDomains_body [StdSort] (admissions : Admissions) (resources : Resources)
    (out : ComposedSite) :
    (buildFailureDomains admissions resources out).body =
      ({ out.body with failureDomains := composeForest admissions resources } : ComposedSite) :=
  (congrArg (fun body : ComposedSite =>
    ({ body with failureDomains := composeForest admissions resources } : ComposedSite))
    (body_reportForest admissions resources out) :)

/-- A forest built without raising a conflict has no cycle. -/
theorem buildFailureDomains_quiet [StdSort] {admissions : Admissions} {resources : Resources}
    {out : ComposedSite} (empty : (buildFailureDomains admissions resources out).conflicts = []) :
    out.conflicts = [] ∧ (composeForest admissions resources).cyclic = [] := by
  change (reportForest admissions resources out).conflicts = [] at empty
  rw [reportForest] at empty
  obtain ⟨cycle, _⟩ := ComposedSite.conflicts_foldl_eq_nil
    (fun node : FailureDomainNode => node.status = .failureDomainConflict ∧
      (resources[ResourceKey.failureDomain node.id]?).isSome = true)
    (fun s i silent => by
      unfold reportNode
      split
      · next conflict =>
        split
        · rfl
        · next found => exact absurd ⟨conflict, by rw [found]; rfl⟩ silent
      · rfl)
    (fun s i loud => by
      obtain ⟨conflict, found⟩ := loud
      obtain ⟨record, found⟩ := Option.isSome_iff_exists.mp found
      simp only [reportNode, if_pos conflict, found]
      exact ComposedSite.conflicts_addConflict_ne_nil _ _ _ _ _) empty
  unfold reportCycle at cycle
  split at cycle
  · next acyclic =>
    have deficits : ∀ (nodes : List FailureDomainNode) (site : ComposedSite),
        (nodes.foldl reportDangling site).conflicts = site.conflicts :=
      foldl_frame ComposedSite.conflicts fun site node => ComposedSite.conflicts_addDeficit ..
    rw [deficits] at cycle
    exact ⟨cycle, by simpa using acyclic⟩
  · exact absurd cycle (ComposedSite.conflicts_addConflict_ne_nil _ _ _ _ _)

end SiteFabric
