import SiteFabric.Compose.Forest
import SiteFabric.Lib.Ancestry

/-! Ancestry in the failure-domain forest.
What is resolved is measured against the parents the nodes declare: a node keeps the
declared parents that are in the forest when its walk up ends, and none when the walk
returns or passes the depth bound. -/

namespace SiteFabric

open Lib Relation
open Std (ExtTreeMap)

namespace FailureDomainForest

section Declared

variable (nodes : List FailureDomainNode)

/-- The parent a domain declares; of nodes with one id the last speaks. -/
def parentOf (id : FailureDomainId) : Option FailureDomainId := ((parents nodes)[id]?).join

def knows (id : FailureDomainId) : Bool := nodes.any (·.id = id)

/-- The declared parents met on the way up from a node, at most so many. -/
def above (n : Nat) (node : FailureDomainNode) : List FailureDomainId :=
  follow (parentOf nodes) n node.parent

/-- The way up from a node returns to a domain it has met, or has more parents than
the depth bound. -/
def Loops (node : FailureDomainNode) : Prop :=
  Lib.Loops (parentOf nodes) Limits.maxFailureDomainDepth node.id node.parent

variable {nodes}

theorem lookup_parents (id : FailureDomainId) :
    (parents nodes)[id]? =
      (nodes.filterMap fun node => if node.id = id then some node.parent else none).getLast? := by
  refine (foldl_last (fun index : Parents => index[id]?)
    (fun node : FailureDomainNode => if node.id = id then some node.parent else none)
    (fun index node => ?_) nodes ∅).trans (Option.or_none ..)
  rw [lookup_insert]
  split <;> simp_all

theorem lookup_parents_isSome (id : FailureDomainId) :
    ((parents nodes)[id]?).isSome = knows nodes id := by
  rw [lookup_parents, Bool.eq_iff_iff, List.getLast?_isSome, ne_eq, List.filterMap_eq_nil_iff, knows,
    List.any_eq_true]
  simp

theorem parentOf_unknown (id : FailureDomainId) (missing : knows nodes id = false) :
    parentOf nodes id = none := by
  rw [← lookup_parents_isSome, Option.isSome_eq_false_iff, Option.isNone_iff_eq_none] at missing
  rw [parentOf, missing]
  rfl

theorem climb_index (index : Parents) (start : FailureDomainId) (depth : Nat)
    (parent : Option FailureDomainId) (met : List FailureDomainId) :
    climb index start depth parent met =
      Lib.climb (fun id => (index[id]?).join) (fun id => (index[id]?).isSome) start depth parent
        met := by
  induction depth generalizing parent met with
  | zero => cases parent <;> rfl
  | succ depth ih =>
    cases parent with
    | none => rfl
    | some parent =>
      rw [climb, Lib.climb]
      split
      · rfl
      · cases index[parent]? with
        | none => rfl
        | some above => exact ih above (met ++ [parent])

/-- What the walk from a node comes to. -/
theorem ancestry_eq (node : FailureDomainNode) :
    ancestry nodes node =
      if Ends (parentOf nodes) Limits.maxFailureDomainDepth node.parent ∧
          node.id ∉ above nodes Limits.maxFailureDomainDepth node then
        some ((above nodes Limits.maxFailureDomainDepth node).filter (knows nodes))
      else none := by
  have known : (fun id => ((parents nodes)[id]?).isSome) = knows nodes :=
    funext fun id => lookup_parents_isSome id
  rw [ancestry, climb_index, known]
  exact (climb_eq parentOf_unknown (by simp)).trans (by rfl)

theorem ancestry_none_iff {node : FailureDomainNode} :
    ancestry nodes node = none ↔ Loops nodes node := by
  rw [Loops, loops_iff, ancestry_eq]
  split
  · next straight => exact iff_of_false (Option.some_ne_none _) (not_not.mpr straight)
  · next stuck => exact iff_of_true rfl stuck

theorem ancestry_straight {node : FailureDomainNode} (straight : ¬ Loops nodes node) :
    ancestry nodes node =
      some ((above nodes Limits.maxFailureDomainDepth node).filter (knows nodes)) := by
  have walk := @ancestry_eq nodes node
  split at walk
  · exact walk
  · exact absurd walk (ancestry_none_iff.not.mpr straight)

section Unique

variable {nodes : List FailureDomainNode} (unique : (nodes.map (·.id)).Nodup)
include unique

theorem parentOf_node {node : FailureDomainNode} (listed : node ∈ nodes) :
    parentOf nodes node.id = node.parent := by
  have only : ∀ parent ∈ nodes.filterMap fun other =>
      if other.id = node.id then some other.parent else none, parent = node.parent := by
    intro parent written
    obtain ⟨other, member, here⟩ := List.mem_filterMap.mp written
    split at here
    · next same =>
      rw [List.inj_on_of_nodup_map unique member listed same] at here
      exact (Option.some.inj here).symm
    · cases here
  rw [parentOf, lookup_parents]
  cases last : (nodes.filterMap fun other =>
      if other.id = node.id then some other.parent else none).getLast? with
  | none =>
    rw [List.getLast?_eq_none_iff, List.filterMap_eq_nil_iff] at last
    have skipped := last node listed
    simp at skipped
  | some parent =>
    rw [only parent (List.mem_of_getLast? last)]
    rfl

theorem declares_iff {child parent : FailureDomainId} :
    Declares (parentOf nodes) child parent ↔
      ∃ node ∈ nodes, node.id = child ∧ node.parent = some parent := by
  constructor
  · intro declares
    have known : knows nodes child = true := by
      by_contra missing
      rw [Declares, parentOf_unknown child (by simpa using missing)] at declares
      cases declares
    obtain ⟨node, listed, named⟩ := List.any_eq_true.mp known
    have named : node.id = child := by simpa using named
    refine ⟨node, listed, named, ?_⟩
    rw [← parentOf_node unique listed, named]
    exact declares
  · rintro ⟨node, listed, rfl, parent⟩
    rw [Declares, parentOf_node unique listed, parent]

end Unique

end Declared

section Resolution

variable (nodes : List FailureDomainNode)

/-- A node and what it is resolved to: nothing above it when its way up loops, else the
declared parents that are in the forest, nearest first; below it the nodes that declare
it their parent, in order. -/
structure ResolvedTo (node resolved : FailureDomainNode) : Prop where
  declared : ∃ children ancestors depth status,
    resolved = { node with children, ancestors, depth, status }
  looped : Loops nodes node → resolved.ancestors = [] ∧ resolved.depth = 0
  straight : ¬ Loops nodes node →
    resolved.ancestors = (above nodes Limits.maxFailureDomainDepth node).filter (knows nodes) ∧
      resolved.depth = resolved.ancestors.length
  ordered : resolved.children.Pairwise (· < ·)
  children : ∀ id, id ∈ resolved.children ↔
    ∃ child ∈ nodes, child.id = id ∧ child.parent = some node.id

variable [StdSort]

/-- A forest and what it is resolved to. -/
structure Exact (before after : FailureDomainForest) : Prop where
  nodes : List.Forall₂ (ResolvedTo before.nodes) before.nodes after.nodes
  cyclic : ∀ node ∈ before.nodes, node.id ∈ after.cyclic ↔ Loops before.nodes node
  stable : after.resolveAncestry = after

/-- The node that `resolve_ancestry` leaves. -/
def resolved (node : FailureDomainNode) : FailureDomainNode :=
  { resolveNode nodes node with
    children := sort (byKey id)
      (((nodes.filter (·.parent = some node.id)).map (·.id)).dedup) }

/-- The ids of nodes without an ancestry join a list once. -/
def gatherCyclic (cyclic : List FailureDomainId) : List FailureDomainId :=
  (nodes.filter fun node => (ancestry nodes node).isNone).foldl
    (fun cyclic node => if cyclic.contains node.id then cyclic else cyclic ++ [node.id]) cyclic

theorem resolveAncestry_eq (forest : FailureDomainForest) :
    forest.resolveAncestry = { forest with
      nodes := forest.nodes.map (resolved forest.nodes)
      cyclic := sort (byKey id) (gatherCyclic forest.nodes forest.cyclic)
      dangling := sort (byKey id) forest.dangling } := by
  rw [resolveAncestry, List.map_map]
  have same : ∀ node : FailureDomainNode, (resolveNode forest.nodes node).id = node.id := by
    intro node
    unfold resolveNode
    split <;> rfl
  unfold gatherCyclic
  congr 1
  refine List.map_congr_left fun node _ => ?_
  rw [Function.comp_apply, resolved]
  dsimp only
  rw [same]

omit [StdSort] in
theorem mem_foldl_join {items : List FailureDomainNode} {cyclic : List FailureDomainId}
    {id : FailureDomainId} :
    id ∈ items.foldl (fun cyclic node =>
        if cyclic.contains node.id then cyclic else cyclic ++ [node.id]) cyclic ↔
      id ∈ cyclic ∨ ∃ node ∈ items, node.id = id := by
  induction items generalizing cyclic with
  | nil => simp
  | cons node rest ih =>
    rw [List.foldl_cons, ih]
    split
    · next held =>
      have held : node.id ∈ cyclic := by simpa using held
      constructor
      · rintro (old | ⟨other, later, rfl⟩)
        · exact .inl old
        · exact .inr ⟨other, List.mem_cons_of_mem _ later, rfl⟩
      · rintro (old | ⟨other, member, rfl⟩)
        · exact .inl old
        · rcases List.mem_cons.mp member with rfl | later
          · exact .inl held
          · exact .inr ⟨other, later, rfl⟩
    · simp only [List.mem_append, List.mem_cons, List.not_mem_nil, or_false, exists_eq_or_imp]
      rw [or_assoc, eq_comm (a := id)]

omit [StdSort] in
theorem mem_gatherCyclic {cyclic : List FailureDomainId} {id : FailureDomainId} :
    id ∈ gatherCyclic nodes cyclic ↔
      id ∈ cyclic ∨ ∃ node ∈ nodes, ancestry nodes node = none ∧ node.id = id := by
  rw [gatherCyclic, mem_foldl_join]
  simp only [List.mem_filter, Option.isNone_iff_eq_none, and_assoc]

omit [StdSort] in
/-- A list that holds them all already stays as it is. -/
theorem gatherCyclic_of_held {cyclic : List FailureDomainId}
    (held : ∀ node ∈ nodes, ancestry nodes node = none → node.id ∈ cyclic) :
    gatherCyclic nodes cyclic = cyclic := by
  have all : ∀ node ∈ nodes.filter fun node => (ancestry nodes node).isNone,
      node.id ∈ cyclic := by
    intro node member
    obtain ⟨listed, none⟩ := List.mem_filter.mp member
    exact held node listed (Option.isNone_iff_eq_none.mp none)
  unfold gatherCyclic
  generalize nodes.filter (fun node => (ancestry nodes node).isNone) = items at all
  induction items with
  | nil => rfl
  | cons node rest ih =>
    rw [List.foldl_cons, if_pos (by simpa using all node List.mem_cons_self)]
    exact ih fun other later => all other (List.mem_cons_of_mem _ later)

/-- Only what a node is resolved to changes. -/
theorem resolved_frame (node : FailureDomainNode) : ∃ children ancestors depth status,
    resolved nodes node = { node with children, ancestors, depth, status } := by
  unfold resolved resolveNode
  split
  · exact ⟨_, _, _, _, rfl⟩
  · exact ⟨_, _, _, node.status, rfl⟩

theorem resolved_id (node : FailureDomainNode) : (resolved nodes node).id = node.id := by
  obtain ⟨_, _, _, _, frame⟩ := resolved_frame nodes node
  rw [frame]

theorem resolved_parent (node : FailureDomainNode) :
    (resolved nodes node).parent = node.parent := by
  obtain ⟨_, _, _, _, frame⟩ := resolved_frame nodes node
  rw [frame]

theorem resolved_members (node : FailureDomainNode) :
    (resolved nodes node).members = node.members := by
  obtain ⟨_, _, _, _, frame⟩ := resolved_frame nodes node
  rw [frame]

/-- Resolved nodes declare what they declared. -/
theorem ancestry_resolved (node : FailureDomainNode) :
    ancestry (nodes.map (resolved nodes)) (resolved nodes node) = ancestry nodes node := by
  have parents_eq : parents (nodes.map (resolved nodes)) = parents nodes := by
    unfold parents
    rw [List.foldl_map]
    simp only [resolved_id, resolved_parent]
  rw [ancestry, ancestry, parents_eq, resolved_id, resolved_parent]

theorem resolved_resolved (node : FailureDomainNode) :
    resolved (nodes.map (resolved nodes)) (resolved nodes node) = resolved nodes node := by
  have below : ((nodes.map (resolved nodes)).filter (·.parent = some node.id)).map (·.id) =
      (nodes.filter (·.parent = some node.id)).map (·.id) := by
    rw [List.filter_map, List.map_map]
    simp only [Function.comp_def, resolved_id, resolved_parent]
  rw [resolved, resolved_id, below, resolveNode, ancestry_resolved]
  unfold resolved resolveNode
  cases ancestry nodes node <;> rfl

/-- Resolving a forest again changes nothing. -/
theorem resolveAncestry_idem (forest : FailureDomainForest) :
    forest.resolveAncestry.resolveAncestry = forest.resolveAncestry := by
  have nodes : (forest.nodes.map (resolved forest.nodes)).map
      (resolved (forest.nodes.map (resolved forest.nodes))) =
      forest.nodes.map (resolved forest.nodes) := by
    rw [List.map_map]
    exact List.map_congr_left fun node _ => resolved_resolved forest.nodes node
  have held : ∀ node ∈ forest.nodes.map (resolved forest.nodes),
      ancestry (forest.nodes.map (resolved forest.nodes)) node = none →
        node.id ∈ sort (byKey id) (gatherCyclic forest.nodes forest.cyclic) := by
    intro node member none
    obtain ⟨before, listed, rfl⟩ := List.mem_map.mp member
    rw [ancestry_resolved] at none
    rw [mem_sort_byKey, mem_gatherCyclic, resolved_id]
    exact .inr ⟨before, listed, none, rfl⟩
  rw [resolveAncestry_eq forest, resolveAncestry_eq]
  dsimp only
  rw [nodes, gatherCyclic_of_held _ held, sort_of_ordered (sort_ordered _),
    sort_of_ordered (sort_ordered _)]

theorem resolvedTo (node : FailureDomainNode) : ResolvedTo nodes node (resolved nodes node) where
  declared := resolved_frame nodes node
  looped loops := by
    rw [resolved, resolveNode, ancestry_none_iff.mpr loops]
    exact ⟨rfl, rfl⟩
  straight straight := by
    rw [resolved, resolveNode, ancestry_straight straight]
    exact ⟨rfl, rfl⟩
  ordered := sort_strict (List.nodup_dedup _)
  children id := by
    rw [resolved, mem_sort_byKey, List.mem_dedup, List.mem_map]
    simp only [List.mem_filter, decide_eq_true_eq, and_assoc]
    exact exists_congr fun child => and_congr_right fun _ => and_comm

end Resolution

/-- Over a forest whose nodes have distinct ids the resolution is exact if and only if
every node that is listed as cyclic beforehand is on or below a cycle, or too deep. -/
theorem ancestry_is_exact_iff [StdSort] {forest : FailureDomainForest}
    (unique : (forest.nodes.map (·.id)).Nodup) :
    Exact forest forest.resolveAncestry ↔
      ∀ node ∈ forest.nodes, node.id ∈ forest.cyclic → Loops forest.nodes node := by
  have cyclic : ∀ node ∈ forest.nodes, node.id ∈ forest.resolveAncestry.cyclic ↔
      node.id ∈ forest.cyclic ∨ Loops forest.nodes node := by
    intro node listed
    rw [resolveAncestry_eq, mem_sort_byKey, mem_gatherCyclic]
    refine or_congr_right ⟨?_, fun loops => ?_⟩
    · rintro ⟨other, member, none, same⟩
      rw [← List.inj_on_of_nodup_map unique member listed same]
      exact ancestry_none_iff.mp none
    · exact ⟨node, listed, ancestry_none_iff.mpr loops, rfl⟩
  constructor
  · intro exact node listed stale
    exact (exact.cyclic node listed).mp ((cyclic node listed).mpr (.inl stale))
  · intro sound
    refine ⟨?_, fun node listed => (cyclic node listed).trans
      (or_iff_right_of_imp (sound node listed)), forest.resolveAncestry_idem⟩
    rw [resolveAncestry_eq]
    exact List.forall₂_map_right_iff.mpr (List.forall₂_same.mpr fun node _ =>
      resolvedTo forest.nodes node)

end FailureDomainForest

/-- A physical domain that lists some resources. -/
def FailureDomainNode.listing (id : Text) (parent : Option Text) (members : List ResourceKey) :
    FailureDomainNode where
  id := ⟨id⟩
  domainClass := .physical
  parent := parent.map fun parent => ⟨parent⟩
  members := members

namespace FailureDomainForest

/-- A chain whose last parent nobody declares, and two domains in a ring. -/
def ringAndChain : FailureDomainForest where
  nodes := [.listing (ascii "fd-a") (some (ascii "fd-b")) [],
    .listing (ascii "fd-b") (some (ascii "fd-row")) [],
    .listing (ascii "fd-x") (some (ascii "fd-y")) [],
    .listing (ascii "fd-y") (some (ascii "fd-x")) []]

theorem ring_and_chain_resolve_exactly : Exact ringAndChain ringAndChain.resolveAncestry :=
  (ancestry_is_exact_iff (by decide)).mpr fun _ _ stale => by cases stale

/-- The ring is resolved, and then broken at one of its domains. -/
def mendedRing : FailureDomainForest :=
  { ringAndChain.resolveAncestry with
    nodes := ringAndChain.resolveAncestry.nodes.map fun node =>
      if node.id = ⟨ascii "fd-y"⟩ then { node with parent := none } else node }

/-- Resolved again, the root it was broken at is still listed as cyclic. -/
theorem mended_root_stays_cyclic :
    (mendedRing.nodes.map (·.id)).Nodup ∧ ¬ Exact mendedRing mendedRing.resolveAncestry := by
  refine ⟨by decide +kernel, fun exact => ?_⟩
  have root : ∃ node ∈ mendedRing.nodes, node.id ∈ mendedRing.resolveAncestry.cyclic ∧
      node.parent = none := by
    decide +kernel
  obtain ⟨node, listed, stale, root⟩ := root
  obtain ⟨n, back | deep⟩ := (exact.cyclic node listed).mp stale
  · rw [root, follow_none] at back
    exact back (List.nodup_singleton _)
  · rw [root, follow_none] at deep
    cases deep

section Separateness

/-- The domains that list a resource, and what is above them. -/
def domainsOf (forest : FailureDomainForest) (key : ResourceKey) : List FailureDomainId :=
  (forest.nodes.filter (·.members.contains key)).flatMap fun node => node.id :: node.ancestors

def areSeparate (forest : FailureDomainForest) (left right : ResourceKey) : Bool :=
  let leftDomains := forest.domainsOf left
  let rightDomains := forest.domainsOf right
  if leftDomains.isEmpty || rightDomains.isEmpty then false
  else !leftDomains.any (rightDomains.contains ·)

variable (nodes : List FailureDomainNode) (key : ResourceKey) (domain : FailureDomainId)

/-- A resource shares the fate of every domain that lists it and of all that these
declare above themselves. -/
def Shares : Prop :=
  ∃ node ∈ nodes, key ∈ node.members ∧ ReflTransGen
    (fun child parent => ∃ other ∈ nodes, other.id = child ∧ other.parent = some parent)
    node.id domain

/-- A domain that lists a resource, or one of the forest above such a domain whose way
up does not loop. -/
def Keeps : Prop :=
  ∃ node ∈ nodes, key ∈ node.members ∧ (domain = node.id ∨
    (¬ Loops nodes node ∧ domain ∈ above nodes Limits.maxFailureDomainDepth node ∧
      ∃ other ∈ nodes, other.id = domain))

variable {nodes key domain}

theorem mem_domainsOf [StdSort] {forest : FailureDomainForest} :
    domain ∈ forest.resolveAncestry.domainsOf key ↔ Keeps forest.nodes key domain := by
  have kept : ∀ node : FailureDomainNode, domain ∈ (resolved forest.nodes node).ancestors ↔
      ¬ Loops forest.nodes node ∧
        domain ∈ above forest.nodes Limits.maxFailureDomainDepth node ∧
        ∃ other ∈ forest.nodes, other.id = domain := by
    intro node
    have resolution := resolvedTo forest.nodes node
    by_cases loops : Loops forest.nodes node
    · rw [(resolution.looped loops).1]
      exact iff_of_false List.not_mem_nil fun straight => straight.1 loops
    · rw [(resolution.straight loops).1, List.mem_filter, knows, List.any_eq_true,
        and_iff_right loops]
      simp
  rw [domainsOf, resolveAncestry_eq, List.mem_flatMap, Keeps]
  simp only [List.mem_filter, List.mem_map, List.contains_iff_mem, List.mem_cons]
  constructor
  · rintro ⟨_, ⟨⟨node, listed, rfl⟩, member⟩, here⟩
    rw [resolved_members] at member
    rw [resolved_id, kept] at here
    exact ⟨node, listed, member, here⟩
  · rintro ⟨node, listed, member, here⟩
    refine ⟨_, ⟨⟨node, listed, rfl⟩, ?_⟩, ?_⟩
    · rwa [resolved_members]
    · rwa [resolved_id, kept]

theorem areSeparate_iff {forest : FailureDomainForest} {left right : ResourceKey} :
    forest.areSeparate left right = true ↔
      (∃ domain, domain ∈ forest.domainsOf left) ∧ (∃ domain, domain ∈ forest.domainsOf right) ∧
        ∀ domain, ¬ (domain ∈ forest.domainsOf left ∧ domain ∈ forest.domainsOf right) := by
  unfold areSeparate
  dsimp only
  split
  · next empty =>
    refine iff_of_false Bool.false_ne_true ?_
    rintro ⟨⟨domain, some⟩, ⟨domain', some'⟩, -⟩
    rcases Bool.or_eq_true _ _ ▸ empty with none | none
    · rw [List.isEmpty_iff.mp none] at some
      cases some
    · rw [List.isEmpty_iff.mp none] at some'
      cases some'
  · next full =>
    simp only [Bool.or_eq_true, List.isEmpty_iff, not_or] at full
    rw [and_iff_right (List.exists_mem_of_ne_nil _ full.1),
      and_iff_right (List.exists_mem_of_ne_nil _ full.2)]
    simp

/-- A resource that shares a fate is listed by a domain, which it keeps. -/
theorem Shares.keeps (shares : Shares nodes key domain) : ∃ kept, Keeps nodes key kept := by
  obtain ⟨node, listed, member, -⟩ := shares
  exact ⟨node.id, node, listed, member, .inl rfl⟩

/-- On every resolved forest a true answer means that the declared fates of the two
resources have nothing in common if and only if resources that do share a fate share one
that is kept on both sides. -/
theorem separateness_is_proven_iff [StdSort] (forest : FailureDomainForest)
    (left right : ResourceKey) :
    (forest.resolveAncestry.areSeparate left right = true →
        ∀ domain, ¬ (Shares forest.nodes left domain ∧ Shares forest.nodes right domain)) ↔
      ((∃ domain, Shares forest.nodes left domain ∧ Shares forest.nodes right domain) →
        ∃ domain, Keeps forest.nodes left domain ∧ Keeps forest.nodes right domain) := by
  rw [areSeparate_iff]
  simp only [mem_domainsOf]
  constructor
  · rintro proven ⟨domain, shares, shares'⟩
    by_contra none
    have keeps := shares.keeps
    have keeps' := shares'.keeps
    exact proven ⟨keeps, keeps', fun domain both => none ⟨domain, both⟩⟩ domain
      ⟨shares, shares'⟩
  · rintro kept ⟨-, -, apart⟩ domain both
    obtain ⟨common, here⟩ := kept ⟨domain, both⟩
    exact apart common here

/-- Two racks in domains that declare one row, which no member declares. -/
def sharedRow : FailureDomainForest where
  nodes := [.listing (ascii "fd-a") (some (ascii "fd-row")) [⟨.rack, ascii "rack-a"⟩],
    .listing (ascii "fd-b") (some (ascii "fd-row")) [⟨.rack, ascii "rack-b"⟩]]

/-- The racks are called separate, and share the row. -/
theorem racks_of_one_row_look_separate :
    ¬ (sharedRow.resolveAncestry.areSeparate ⟨.rack, ascii "rack-a"⟩ ⟨.rack, ascii "rack-b"⟩ =
        true →
      ∀ domain, ¬ (Shares sharedRow.nodes ⟨.rack, ascii "rack-a"⟩ domain ∧
        Shares sharedRow.nodes ⟨.rack, ascii "rack-b"⟩ domain)) := by
  intro proven
  refine proven (by decide +kernel) ⟨ascii "fd-row"⟩ ⟨?_, ?_⟩
  · refine ⟨_, List.mem_cons_self, List.mem_singleton_self _, .single ?_⟩
    exact ⟨_, List.mem_cons_self, rfl, rfl⟩
  · refine ⟨_, List.mem_cons_of_mem _ List.mem_cons_self, List.mem_singleton_self _, .single ?_⟩
    exact ⟨_, List.mem_cons_of_mem _ List.mem_cons_self, rfl, rfl⟩

end Separateness

end FailureDomainForest

end SiteFabric
