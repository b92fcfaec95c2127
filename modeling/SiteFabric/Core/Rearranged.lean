import SiteFabric.Core.Sealing

/-! Sealing does not see the order of what it seals.
The check of a claim sorts the lists inside it, so claims that differ by the order of
those lists come out alike; a claim list collapses exactly when claims under one key
have one digest, and what is left has one claim for each key, by key. -/

namespace SiteFabric

open Lib

section Collapse

variable {α : Type} {keyOf : α → Text} {digestOf : α → Digest}

/-- Claims under one key have one digest. -/
def KeysAgree (keyOf : α → Text) (digestOf : α → Digest) (items : List α) : Prop :=
  ∀ a ∈ items, ∀ b ∈ items, keyOf a = keyOf b → digestOf a = digestOf b

theorem collapseFrom_of_agree {head : α} {items : List α}
    (agree : KeysAgree keyOf digestOf (head :: items)) :
    ∃ out, collapseFrom keyOf digestOf head items = .ok out := by
  induction items generalizing head with
  | nil => exact ⟨_, rfl⟩
  | cons next rest ih =>
    unfold collapseFrom
    by_cases same : keyOf next = keyOf head
    · have agreed : digestOf next = digestOf head := agree next (by simp) head (by simp) same
      rw [if_pos same, if_pos agreed]
      have fewer := (List.sublist_cons_self next rest).cons_cons head
      exact ih fun a member b member' => agree a (fewer.subset member) b (fewer.subset member')
    · rw [if_neg same]
      obtain ⟨out, collapsed⟩ := @ih next fun a member b member' =>
        agree a (List.mem_cons_of_mem _ member) b (List.mem_cons_of_mem _ member')
      exact ⟨head :: out, by rw [collapsed]; rfl⟩

/-- What a sorted list collapses to: one item for each key, by key. -/
structure Collapsed (keyOf : α → Text) (items out : List α) : Prop where
  strict : (out.map keyOf).Pairwise (· < ·)
  kept : out ⊆ items
  few : out.length ≤ items.length
  keyed : ∀ a ∈ items, ∃ b ∈ out, keyOf b = keyOf a

theorem Collapsed.of_perm {items items' out : List α} (collapsed : Collapsed keyOf items out)
    (perm : items.Perm items') : Collapsed keyOf items' out where
  strict := collapsed.strict
  kept := fun _ member => perm.mem_iff.mp (collapsed.kept member)
  few := collapsed.few.trans perm.length_eq.le
  keyed := fun a member => collapsed.keyed a (perm.mem_iff.mpr member)

theorem collapseFrom_collapsed {head : α} {items out : List α}
    (sorted : (head :: items).Pairwise fun a b => byKey keyOf b a = false)
    (collapsed : collapseFrom keyOf digestOf head items = .ok out) :
    Collapsed keyOf (head :: items) out ∧ ∃ rest, out = head :: rest := by
  induction items generalizing head out with
  | nil =>
    cases collapsed
    exact ⟨⟨List.pairwise_singleton _ _, fun _ member => member, le_rfl,
      fun a member => ⟨a, member, rfl⟩⟩, [], rfl⟩
  | cons next rest ih =>
    obtain ⟨above, tail⟩ := List.pairwise_cons.mp sorted
    unfold collapseFrom at collapsed
    split at collapsed
    · next same =>
      split at collapsed
      · obtain ⟨shorter, first⟩ :=
          ih (sorted.sublist ((List.sublist_cons_self next rest).cons_cons head)) collapsed
        have fewer := (List.sublist_cons_self next rest).cons_cons head
        refine ⟨⟨shorter.strict, fun a member => fewer.subset (shorter.kept member),
          shorter.few.trans fewer.length_le, fun a member => ?_⟩, first⟩
        rcases List.mem_cons.mp member with rfl | member
        · exact shorter.keyed _ List.mem_cons_self
        rcases List.mem_cons.mp member with rfl | member
        · rw [same]
          exact shorter.keyed _ List.mem_cons_self
        · exact shorter.keyed a (List.mem_cons_of_mem _ member)
      · cases collapsed
    · next apart =>
      cases later : collapseFrom keyOf digestOf next rest with
      | error _ =>
        rw [later] at collapsed
        cases collapsed
      | ok others =>
        rw [later] at collapsed
        cases collapsed
        obtain ⟨shorter, _, rfl⟩ := ih tail later
        have first : keyOf head < keyOf next :=
          lt_of_le_of_ne (not_lt.mp (of_decide_eq_false (above next List.mem_cons_self)))
            (Ne.symm apart)
        refine ⟨⟨?_, List.cons_subset_cons head shorter.kept,
          Nat.succ_le_succ shorter.few, fun a member => ?_⟩, _, rfl⟩
        · refine List.pairwise_cons.mpr ⟨fun key listed => ?_, shorter.strict⟩
          rcases List.mem_cons.mp listed with rfl | listed
          · exact first
          · exact first.trans ((List.pairwise_cons.mp shorter.strict).1 key listed)
        · rcases List.mem_cons.mp member with rfl | member
          · exact ⟨_, List.mem_cons_self, rfl⟩
          · obtain ⟨b, listed, named⟩ := shorter.keyed a member
            exact ⟨b, List.mem_cons_of_mem _ listed, named⟩

/-- Items that are by key already, one for each, stay as they are. -/
theorem collapseFrom_of_strict {head : α} {items : List α}
    (strict : ((head :: items).map keyOf).Pairwise (· < ·)) :
    collapseFrom keyOf digestOf head items = .ok (head :: items) := by
  induction items generalizing head with
  | nil => rfl
  | cons next rest ih =>
    obtain ⟨above, tail⟩ := List.pairwise_cons.mp strict
    have apart : keyOf next ≠ keyOf head := (above (keyOf next) List.mem_cons_self).ne'
    rw [collapseFrom, if_neg apart, ih tail]
    rfl

theorem canonicalizeList_collapsed {bound : Nat} {items out : List α}
    (canonical : canonicalizeList keyOf digestOf bound items = .ok out) :
    items.length ≤ bound ∧ Collapsed keyOf items out := by
  unfold canonicalizeList at canonical
  split at canonical
  · cases canonical
  next within =>
  refine ⟨not_lt.mp within, ?_⟩
  have perm := stableSort_perm (byKey keyOf) items
  have sorted := stableSort_sorted (byKey_strictWeak keyOf) items
  have collapsed : Collapsed keyOf (stableSort (byKey keyOf) items) out := by
    cases listed : stableSort (byKey keyOf) items with
    | nil =>
      rw [listed] at canonical
      cases canonical
      exact ⟨List.Pairwise.nil, fun _ member => member, le_rfl,
        fun a member => absurd member List.not_mem_nil⟩
    | cons head rest =>
      rw [listed] at canonical sorted
      exact (collapseFrom_collapsed sorted canonical).1
  exact collapsed.of_perm perm

theorem canonicalizeList_ok_iff {bound : Nat} {items : List α} :
    (∃ out, canonicalizeList keyOf digestOf bound items = .ok out) ↔
      items.length ≤ bound ∧ KeysAgree keyOf digestOf items := by
  constructor
  · rintro ⟨out, canonical⟩
    exact ⟨(canonicalizeList_collapsed canonical).1, fun a member b member' =>
      canonicalizeList_agrees canonical member member'⟩
  · rintro ⟨within, agree⟩
    have perm := stableSort_perm (byKey keyOf) items
    rw [canonicalizeList, if_neg (not_lt.mpr within)]
    cases listed : stableSort (byKey keyOf) items with
    | nil => exact ⟨_, rfl⟩
    | cons head rest =>
      rw [listed] at perm
      exact collapseFrom_of_agree fun a member b member' =>
        agree a (perm.mem_iff.mp member) b (perm.mem_iff.mp member')

/-- A canonical list is its own canonical form. -/
theorem canonicalizeList_again {bound : Nat} {items out : List α}
    (canonical : canonicalizeList keyOf digestOf bound items = .ok out) :
    canonicalizeList keyOf digestOf bound out = .ok out := by
  obtain ⟨within, collapsed⟩ := canonicalizeList_collapsed canonical
  have strict := collapsed.strict
  have sorted : stableSort (byKey keyOf) out = out := by
    refine List.Pairwise.insertionSort_eq ((List.pairwise_map.mp strict).imp fun {a b} below => ?_)
    exact decide_eq_false below.asymm
  rw [canonicalizeList, if_neg (not_lt.mpr (collapsed.few.trans within)), sorted]
  cases out with
  | nil => rfl
  | cons head rest => exact collapseFrom_of_strict strict

/-- Lists by key over the same keys have the same contents when a key tells a content. -/
theorem contents_eq {β : Type} {content : α → β} {out out' : List α}
    (strict : (out.map keyOf).Pairwise (· < ·)) (strict' : (out'.map keyOf).Pairwise (· < ·))
    (keyed : ∀ a ∈ out, ∃ b ∈ out', keyOf b = keyOf a)
    (keyed' : ∀ b ∈ out', ∃ a ∈ out, keyOf a = keyOf b)
    (told : ∀ a ∈ out, ∀ b ∈ out', keyOf a = keyOf b → content a = content b) :
    out.map content = out'.map content := by
  have keys : out.map keyOf = out'.map keyOf := by
    refine List.Perm.eq_of_pairwise (fun _ _ _ _ below above => absurd above below.asymm) strict
      strict' ((List.perm_ext_iff_of_nodup (strict.imp ne_of_lt) (strict'.imp ne_of_lt)).mpr
        fun key => ?_)
    rw [List.mem_map, List.mem_map]
    constructor
    · rintro ⟨a, member, rfl⟩
      exact keyed a member
    · rintro ⟨b, member, rfl⟩
      exact keyed' b member
  refine List.ext_getElem (by simpa using congrArg List.length keys) fun i inside inside' => ?_
  rw [List.length_map] at inside inside'
  have named : keyOf out[i] = keyOf out'[i] := by
    have at_i := congrArg (·[i]?) keys
    simpa [inside, inside'] using at_i
  rw [List.getElem_map, List.getElem_map]
  exact told _ (List.getElem_mem inside) _ (List.getElem_mem inside') named

end Collapse

section Check

variable {α : Type} {keyOf : α → Text} {digestOf : α → Digest} {check : α → Except Status α}

theorem checkAll_iff {items out : List α} :
    checkAll check items = .ok out ↔
      List.Forall₂ (fun claim checked => check claim = .ok checked) items out := by
  induction items generalizing out with
  | nil =>
    rw [List.forall₂_nil_left_iff]
    exact ⟨fun done => (Except.ok.inj done).symm, fun none => by rw [none]; rfl⟩
  | cons claim rest ih =>
    rw [List.forall₂_cons_left_iff]
    constructor
    · intro done
      obtain ⟨checked, first, done⟩ := bind_ok done
      obtain ⟨others, later, done⟩ := bind_ok done
      exact ⟨checked, others, first, ih.mp later, (Except.ok.inj done).symm⟩
    · rintro ⟨checked, others, first, later, rfl⟩
      rw [checkAll, first, ih.mpr later]
      rfl

/-- One list is another in some order, item by item in some other form. -/
def Rearranged (form : α → α → Prop) (items items' : List α) : Prop :=
  ∃ middle, items.Perm middle ∧ List.Forall₂ form middle items'

theorem Rearranged.symm {form : α → α → Prop} (back : ∀ a b, form a b → form b a)
    {items items' : List α} (rearranged : Rearranged form items items') :
    Rearranged form items' items := by
  obtain ⟨middle, perm, forms⟩ := rearranged
  obtain ⟨middle', forms', perm'⟩ := List.perm_comp_forall₂ perm forms
  exact ⟨middle', perm'.symm, forms'.flip.imp fun a b => back b a⟩

theorem Rearranged.length_eq {form : α → α → Prop} {items items' : List α}
    (rearranged : Rearranged form items items') : items'.length = items.length := by
  obtain ⟨middle, perm, forms⟩ := rearranged
  rw [perm.length_eq, forms.length_eq]

/-- Claims that check alike are checked alike in any order. -/
theorem Rearranged.checkAll {form : α → α → Prop} (alike : ∀ a b, form a b → check a = check b)
    {items items' out : List α} (rearranged : Rearranged form items items')
    (checked : checkAll check items = .ok out) :
    ∃ out', SiteFabric.checkAll check items' = .ok out' ∧ out'.Perm out := by
  obtain ⟨middle, perm, forms⟩ := rearranged
  obtain ⟨out', passed, perm'⟩ := List.perm_comp_forall₂ perm.symm (checkAll_iff.mp checked)
  refine ⟨out', checkAll_iff.mpr ?_, perm'⟩
  clear perm perm' checked
  induction forms generalizing out' with
  | nil => exact passed
  | cons same _ ih =>
    obtain ⟨first, others, one, more, rfl⟩ := List.forall₂_cons_left_iff.mp passed
    exact .cons ((alike _ _ same).symm.trans one) (ih _ more)

/-- Claims of a list that have one digest, as they are checked, have one content. -/
def Collisionless (check : α → Except Status α) (digestOf : α → Digest) (content : α → List UInt8)
    (items : List α) : Prop :=
  ∀ a ∈ items, ∀ b ∈ items, ∀ a' b', check a = .ok a' → check b = .ok b' →
    digestOf a' = digestOf b' → content a' = content b'

/-- A rearranged list is canonical when the list is, and has its contents. -/
theorem Rearranged.canonicalizeClaims {form : α → α → Prop} {bound : Nat}
    {items items' out : List α} (rearranged : Rearranged form items items')
    (canonical : canonicalizeClaims keyOf digestOf check bound items = .ok out)
    (alike : ∀ a b, form a b → check a = check b) :
    ∃ out', SiteFabric.canonicalizeClaims keyOf digestOf check bound items' = .ok out' ∧
      ∀ content, Collisionless check digestOf content items →
        out'.map content = out.map content := by
  obtain ⟨checked, passed, listed⟩ := bind_ok canonical
  obtain ⟨checked', passed', perm⟩ := rearranged.checkAll alike passed
  obtain ⟨within, agree⟩ := canonicalizeList_ok_iff.mp ⟨out, listed⟩
  obtain ⟨out', listed'⟩ : ∃ out', canonicalizeList keyOf digestOf bound checked' = .ok out' :=
    canonicalizeList_ok_iff.mpr ⟨perm.length_eq.le.trans within, fun a member b member' =>
      agree a (perm.mem_iff.mp member) b (perm.mem_iff.mp member')⟩
  refine ⟨out', by rw [SiteFabric.canonicalizeClaims, passed']; exact listed', ?_⟩
  intro content collisionless
  have collapsed := (canonicalizeList_collapsed listed).2
  have collapsed' := (canonicalizeList_collapsed listed').2.of_perm perm
  refine contents_eq collapsed'.strict collapsed.strict
    (fun a member => collapsed.keyed a (collapsed'.kept member))
    (fun b member => collapsed'.keyed b (collapsed.kept member)) fun a member b member' named => ?_
  have memberA := collapsed'.kept member
  have memberB := collapsed.kept member'
  obtain ⟨claim, listedA, one⟩ := checkAll_mem passed memberA
  obtain ⟨claim', listedB, one'⟩ := checkAll_mem passed memberB
  exact collisionless claim listedA claim' listedB a b one one' (agree a memberA b memberB named)

/-- Canonical claims are their own canonical form, when a checked claim checks to itself. -/
theorem canonicalizeClaims_again (again : ∀ claim checked, check claim = .ok checked →
      check checked = .ok checked) {bound : Nat} {items out : List α}
    (canonical : canonicalizeClaims keyOf digestOf check bound items = .ok out) :
    canonicalizeClaims keyOf digestOf check bound out = .ok out := by
  obtain ⟨checked, passed, listed⟩ := bind_ok canonical
  have each : checkAll check out = .ok out := by
    refine checkAll_iff.mpr (List.forall₂_same.mpr fun a member => ?_)
    obtain ⟨claim, -, one⟩ := checkAll_mem passed ((canonicalizeList_collapsed listed).2.kept member)
    exact again claim a one
  rw [canonicalizeClaims, each]
  exact canonicalizeList_again listed

theorem canonicalizeClaims_fewer {bound : Nat} {items out : List α}
    (canonical : canonicalizeClaims keyOf digestOf check bound items = .ok out) :
    out.length ≤ items.length := by
  obtain ⟨checked, passed, listed⟩ := bind_ok canonical
  rw [(checkAll_iff.mp passed).length_eq]
  exact (canonicalizeList_collapsed listed).2.few

end Check

section Claims

theorem RackClaim.check_keeps (claim checked : RackClaim)
    (accepted : claim.check = .ok checked) : checked = claim := (measured_ok accepted).1

theorem CapacityContribution.check_keeps (claim checked : CapacityContribution)
    (accepted : claim.check = .ok checked) : checked = claim := (measured_ok accepted).1

theorem ProtectedObligation.check_keeps (claim checked : ProtectedObligation)
    (accepted : claim.check = .ok checked) : checked = claim := by
  obtain ⟨_, _, accepted⟩ := bind_ok accepted
  obtain ⟨_, _, accepted⟩ := bind_ok accepted
  exact (Except.ok.inj accepted).symm

/-- A check that leaves a claim as it was accepts it again. -/
theorem again_of_keeps {α : Type} {check : α → Except Status α}
    (keeps : ∀ claim checked, check claim = .ok checked → checked = claim) (claim checked : α)
    (accepted : check claim = .ok checked) : check checked = .ok checked := by
  obtain rfl := keeps claim checked accepted
  exact accepted

section Sorted

variable [StdSort]

@[simp] theorem sortUnique_again {α : Type} [LinearOrder α] (xs : List α) :
    sortUnique (sortUnique xs) = sortUnique xs :=
  sortUnique_congr fun _ => mem_sortUnique

theorem sortUnique_perm {α : Type} [LinearOrder α] {xs ys : List α} (perm : xs.Perm ys) :
    sortUnique xs = sortUnique ys :=
  sortUnique_congr fun _ => perm.mem_iff

theorem all_sortUnique {α : Type} [LinearOrder α] (xs : List α) (p : α → Bool) :
    (sortUnique xs).all p = xs.all p := by
  rw [Bool.eq_iff_iff, List.all_eq_true, List.all_eq_true]
  simp only [mem_sortUnique]

end Sorted

/-- The claim with the lists inside it in some other order. -/
def ClusterClaim.Reordered (claim claim' : ClusterClaim) : Prop :=
  claim.pods.Perm claim'.pods ∧ claim.racks.Perm claim'.racks ∧
    claim' = { claim with pods := claim'.pods, racks := claim'.racks }

def PodClaim.Reordered (claim claim' : PodClaim) : Prop :=
  claim.racks.Perm claim'.racks ∧ claim' = { claim with racks := claim'.racks }

def FailureDomainClaim.Reordered (claim claim' : FailureDomainClaim) : Prop :=
  claim.members.Perm claim'.members ∧ claim' = { claim with members := claim'.members }

def MaintenanceZone.Reordered (zone zone' : MaintenanceZone) : Prop :=
  zone.domains.Perm zone'.domains ∧ zone.resources.Perm zone'.resources ∧
    zone' = { zone with domains := zone'.domains, resources := zone'.resources }

theorem ClusterClaim.Reordered.symm {claim claim' : ClusterClaim}
    (reordered : claim.Reordered claim') : claim'.Reordered claim := by
  obtain ⟨pods, racks, same⟩ := reordered
  exact ⟨pods.symm, racks.symm, by rw [same]⟩

theorem PodClaim.Reordered.symm {claim claim' : PodClaim}
    (reordered : claim.Reordered claim') : claim'.Reordered claim := by
  obtain ⟨racks, same⟩ := reordered
  exact ⟨racks.symm, by rw [same]⟩

theorem FailureDomainClaim.Reordered.symm {claim claim' : FailureDomainClaim}
    (reordered : claim.Reordered claim') : claim'.Reordered claim := by
  obtain ⟨members, same⟩ := reordered
  exact ⟨members.symm, by rw [same]⟩

theorem MaintenanceZone.Reordered.symm {zone zone' : MaintenanceZone}
    (reordered : zone.Reordered zone') : zone'.Reordered zone := by
  obtain ⟨domains, resources, same⟩ := reordered
  exact ⟨domains.symm, resources.symm, by rw [same]⟩

variable [StdSort]

theorem ClusterClaim.Reordered.check {claim claim' : ClusterClaim}
    (reordered : claim.Reordered claim') : claim.check = claim'.check := by
  obtain ⟨pods, racks, same⟩ := reordered
  rw [same]
  simp only [ClusterClaim.check, sortUnique_perm pods, sortUnique_perm racks]

theorem PodClaim.Reordered.check {claim claim' : PodClaim}
    (reordered : claim.Reordered claim') : claim.check = claim'.check := by
  obtain ⟨racks, same⟩ := reordered
  rw [same]
  simp only [PodClaim.check, sortUnique_perm racks]

theorem FailureDomainClaim.Reordered.check {claim claim' : FailureDomainClaim}
    (reordered : claim.Reordered claim') : claim.check = claim'.check := by
  obtain ⟨members, same⟩ := reordered
  have valid : claim.valid = claim'.valid := by
    rw [same, FailureDomainClaim.valid, FailureDomainClaim.valid, members.all_eq]
  rw [FailureDomainClaim.check, FailureDomainClaim.check, valid, same]
  simp only [sortUnique_perm members]

theorem MaintenanceZone.Reordered.check {zone zone' : MaintenanceZone}
    (reordered : zone.Reordered zone') : zone.check = zone'.check := by
  obtain ⟨domains, resources, same⟩ := reordered
  have valid : zone.valid = zone'.valid := by
    rw [same, MaintenanceZone.valid, MaintenanceZone.valid, domains.all_eq, resources.all_eq]
  rw [MaintenanceZone.check, MaintenanceZone.check, valid, same]
  simp only [sortUnique_perm domains, sortUnique_perm resources]

theorem ClusterClaim.check_again (claim checked : ClusterClaim)
    (accepted : claim.check = .ok checked) : checked.check = .ok checked := by
  obtain ⟨_, header, accepted⟩ := bind_ok accepted
  obtain ⟨_, digest, accepted⟩ := bind_ok accepted
  cases accepted
  dsimp only at digest
  simp only [ClusterClaim.check, sortUnique_again, header, digest]
  rfl

theorem PodClaim.check_again (claim checked : PodClaim)
    (accepted : claim.check = .ok checked) : checked.check = .ok checked := by
  obtain ⟨_, header, accepted⟩ := bind_ok accepted
  obtain ⟨_, digest, accepted⟩ := bind_ok accepted
  cases accepted
  dsimp only at digest
  simp only [PodClaim.check, sortUnique_again, header, digest]
  rfl

theorem FailureDomainClaim.check_again (claim checked : FailureDomainClaim)
    (accepted : claim.check = .ok checked) : checked.check = .ok checked := by
  obtain ⟨_, header, accepted⟩ := bind_ok accepted
  dsimp only at accepted
  split at accepted
  · cases accepted
  next few =>
  obtain ⟨_, digest, accepted⟩ := bind_ok accepted
  cases accepted
  have valid : FailureDomainClaim.valid { claim with members := sortUnique claim.members } =
      claim.valid := by
    simp only [FailureDomainClaim.valid, all_sortUnique]
  simp only [FailureDomainClaim.check, sortUnique_again, valid, header, few, digest]
  rfl

theorem MaintenanceZone.check_again (zone checked : MaintenanceZone)
    (accepted : zone.check = .ok checked) : checked.check = .ok checked := by
  obtain ⟨_, header, accepted⟩ := bind_ok accepted
  dsimp only at accepted
  split at accepted
  · cases accepted
  next some =>
  obtain ⟨_, digest, accepted⟩ := bind_ok accepted
  cases accepted
  have valid : MaintenanceZone.valid { zone with
      domains := sortUnique zone.domains, resources := sortUnique zone.resources } =
      zone.valid := by
    simp only [MaintenanceZone.valid, all_sortUnique]
  simp only [MaintenanceZone.check, sortUnique_again, valid, header, some, digest]
  rfl

end Claims

theorem Canonical.list_congr {α : Type} {write : α → List UInt8} {items items' : List α}
    (same : items.map write = items'.map write) : list write items = list write items' := by
  have length := congrArg List.length same
  rw [List.length_map, List.length_map] at length
  rw [list, list, length, List.flatMap_def, List.flatMap_def, same]

namespace MemberDomainDeclaration

/-- The declaration with the claims of another. -/
def relist (d like : MemberDomainDeclaration) : MemberDomainDeclaration :=
  { d with
    clusters := like.clusters, pods := like.pods, racks := like.racks
    sharedLinks := like.sharedLinks, gateways := like.gateways, capacity := like.capacity
    failureDomains := like.failureDomains, maintenanceZones := like.maintenanceZones
    obligations := like.obligations }

/-- An envelope that holds some claims holds as many or fewer. -/
theorem checkEnvelope_relist {d like : MemberDomainDeclaration}
    (fewer : like.resourceClaimCount ≤ d.resourceClaimCount) (passed : d.checkEnvelope = .ok ()) :
    (d.relist like).checkEnvelope = .ok () := by
  unfold checkEnvelope at passed ⊢
  split at passed
  · cases passed
  next named =>
  split at passed
  · cases passed
  next compatible =>
  refine (if_neg named).trans ((if_neg compatible).trans ?_)
  obtain ⟨_, fresh, passed⟩ := bind_ok passed
  split at passed
  · cases passed
  next few =>
  have fewer' : ¬ (d.relist like).resourceClaimCount > Limits.maxClaimLists :=
    not_lt.mpr (fewer.trans (not_lt.mp few))
  rw [show (d.relist like).evidence = d.evidence from rfl, fresh]
  exact if_neg fewer'

/-- The declaration with its claims, and the lists inside them, in some other order. -/
structure Reordered (d d' : MemberDomainDeclaration) : Prop where
  clusters : Rearranged ClusterClaim.Reordered d.clusters d'.clusters
  pods : Rearranged PodClaim.Reordered d.pods d'.pods
  racks : Rearranged Eq d.racks d'.racks
  sharedLinks : Rearranged Eq d.sharedLinks d'.sharedLinks
  gateways : Rearranged Eq d.gateways d'.gateways
  capacity : Rearranged Eq d.capacity d'.capacity
  failureDomains : Rearranged FailureDomainClaim.Reordered d.failureDomains d'.failureDomains
  maintenanceZones : Rearranged MaintenanceZone.Reordered d.maintenanceZones d'.maintenanceZones
  obligations : Rearranged Eq d.obligations d'.obligations
  header : d' = d.relist d'

theorem Reordered.count {d d' : MemberDomainDeclaration} (reordered : d.Reordered d') :
    d'.resourceClaimCount = d.resourceClaimCount := by
  simp only [resourceClaimCount, reordered.clusters.length_eq, reordered.pods.length_eq,
    reordered.racks.length_eq, reordered.sharedLinks.length_eq, reordered.gateways.length_eq,
    reordered.capacity.length_eq, reordered.failureDomains.length_eq,
    reordered.maintenanceZones.length_eq, reordered.obligations.length_eq]

theorem Reordered.symm {d d' : MemberDomainDeclaration} (reordered : d.Reordered d') :
    d'.Reordered d where
  clusters := reordered.clusters.symm fun _ _ => ClusterClaim.Reordered.symm
  pods := reordered.pods.symm fun _ _ => PodClaim.Reordered.symm
  racks := reordered.racks.symm fun _ _ => Eq.symm
  sharedLinks := reordered.sharedLinks.symm fun _ _ => Eq.symm
  gateways := reordered.gateways.symm fun _ _ => Eq.symm
  capacity := reordered.capacity.symm fun _ _ => Eq.symm
  failureDomains := reordered.failureDomains.symm fun _ _ => FailureDomainClaim.Reordered.symm
  maintenanceZones := reordered.maintenanceZones.symm fun _ _ => MaintenanceZone.Reordered.symm
  obligations := reordered.obligations.symm fun _ _ => Eq.symm
  header := by rw [reordered.header]; rfl

section Sealing

variable [StdSort]

/-- What `canonicalize` asks of a declaration and makes of it, list by list. -/
structure Canonicalizes (d canonical : MemberDomainDeclaration) : Prop where
  envelope : d.checkEnvelope = .ok ()
  clusters : canonicalizeClaims (fun claim => claim.id.value) ClusterClaim.digest
    ClusterClaim.check Limits.maxClaimLists d.clusters = .ok canonical.clusters
  pods : canonicalizeClaims (fun claim => claim.id.value) PodClaim.digest
    PodClaim.check Limits.maxClaimLists d.pods = .ok canonical.pods
  racks : canonicalizeClaims (fun claim => claim.id.value) RackClaim.digest
    RackClaim.check Limits.maxClaimLists d.racks = .ok canonical.racks
  sharedLinks : canonicalizeClaims (fun claim => claim.id.value) SharedLinkClaim.digest
    SharedLinkClaim.check Limits.maxClaimLists d.sharedLinks = .ok canonical.sharedLinks
  gateways : canonicalizeClaims (fun claim => claim.id.value) GatewayClaim.digest
    GatewayClaim.check Limits.maxClaimLists d.gateways = .ok canonical.gateways
  capacity : canonicalizeClaims CapacityContribution.listKey CapacityContribution.digest
    CapacityContribution.check Limits.maxCapacityContributions d.capacity = .ok canonical.capacity
  failureDomains : canonicalizeClaims (fun claim => claim.id.value) FailureDomainClaim.digest
    FailureDomainClaim.check Limits.maxFailureDomainsPerDeclaration d.failureDomains =
      .ok canonical.failureDomains
  maintenanceZones : canonicalizeClaims (fun claim => claim.id.value) MaintenanceZone.digest
    MaintenanceZone.check Limits.maxMaintenanceZonesPerDeclaration d.maintenanceZones =
      .ok canonical.maintenanceZones
  obligations : canonicalizeClaims (fun claim => claim.id.value) ProtectedObligation.digest
    ProtectedObligation.check Limits.maxObligationsPerDeclaration d.obligations =
      .ok canonical.obligations
  header : canonical = d.relist canonical

theorem canonicalize_iff {d canonical : MemberDomainDeclaration} :
    d.canonicalize = .ok canonical ↔ d.Canonicalizes canonical := by
  constructor
  · intro accepted
    obtain ⟨_, envelope, accepted⟩ := bind_ok accepted
    obtain ⟨_, clusters, accepted⟩ := bind_ok accepted
    obtain ⟨_, pods, accepted⟩ := bind_ok accepted
    obtain ⟨_, racks, accepted⟩ := bind_ok accepted
    obtain ⟨_, sharedLinks, accepted⟩ := bind_ok accepted
    obtain ⟨_, gateways, accepted⟩ := bind_ok accepted
    obtain ⟨_, capacity, accepted⟩ := bind_ok accepted
    obtain ⟨_, failureDomains, accepted⟩ := bind_ok accepted
    obtain ⟨_, maintenanceZones, accepted⟩ := bind_ok accepted
    obtain ⟨_, obligations, accepted⟩ := bind_ok accepted
    cases accepted
    exact ⟨envelope, clusters, pods, racks, sharedLinks, gateways, capacity, failureDomains,
      maintenanceZones, obligations, rfl⟩
  · intro parts
    rw [canonicalize, parts.envelope, parts.clusters, parts.pods, parts.racks, parts.sharedLinks,
      parts.gateways, parts.capacity, parts.failureDomains, parts.maintenanceZones,
      parts.obligations]
    exact congrArg Except.ok parts.header.symm

/-- Within each list of the declaration, claims of one digest have one content. -/
structure Injective (d : MemberDomainDeclaration) : Prop where
  clusters : Collisionless ClusterClaim.check ClusterClaim.digest ClusterClaim.write d.clusters
  pods : Collisionless PodClaim.check PodClaim.digest PodClaim.write d.pods
  racks : Collisionless RackClaim.check RackClaim.digest RackClaim.write d.racks
  sharedLinks : Collisionless SharedLinkClaim.check SharedLinkClaim.digest SharedLinkClaim.write
    d.sharedLinks
  gateways : Collisionless GatewayClaim.check GatewayClaim.digest GatewayClaim.write d.gateways
  capacity : Collisionless CapacityContribution.check CapacityContribution.digest
    CapacityContribution.write d.capacity
  failureDomains : Collisionless FailureDomainClaim.check FailureDomainClaim.digest
    FailureDomainClaim.write d.failureDomains
  maintenanceZones : Collisionless MaintenanceZone.check MaintenanceZone.digest
    MaintenanceZone.write d.maintenanceZones
  obligations : Collisionless ProtectedObligation.check ProtectedObligation.digest
    ProtectedObligation.write d.obligations

/-- A reordered declaration is canonical when the declaration is, with its content. -/
theorem Reordered.canonicalizes {d d' canonical : MemberDomainDeclaration}
    (reordered : d.Reordered d') (parts : d.Canonicalizes canonical) :
    ∃ canonical', d'.Canonicalizes canonical' ∧
      (d.Injective → canonical'.write = canonical.write) := by
  have same {α : Type} {check : α → Except Status α} : ∀ a b, a = b → check a = check b :=
    fun _ _ => congrArg check
  obtain ⟨clusters, clusters', oneCluster⟩ :=
    reordered.clusters.canonicalizeClaims parts.clusters fun _ _ => ClusterClaim.Reordered.check
  obtain ⟨pods, pods', onePod⟩ :=
    reordered.pods.canonicalizeClaims parts.pods fun _ _ => PodClaim.Reordered.check
  obtain ⟨racks, racks', oneRack⟩ := reordered.racks.canonicalizeClaims parts.racks same
  obtain ⟨sharedLinks, sharedLinks', oneLink⟩ :=
    reordered.sharedLinks.canonicalizeClaims parts.sharedLinks same
  obtain ⟨gateways, gateways', oneGateway⟩ :=
    reordered.gateways.canonicalizeClaims parts.gateways same
  obtain ⟨capacity, capacity', oneCapacity⟩ :=
    reordered.capacity.canonicalizeClaims parts.capacity same
  obtain ⟨failureDomains, failureDomains', oneDomain⟩ :=
    reordered.failureDomains.canonicalizeClaims parts.failureDomains fun _ _ => FailureDomainClaim.Reordered.check
  obtain ⟨maintenanceZones, maintenanceZones', oneZone⟩ :=
    reordered.maintenanceZones.canonicalizeClaims parts.maintenanceZones fun _ _ => MaintenanceZone.Reordered.check
  obtain ⟨obligations, obligations', oneObligation⟩ :=
    reordered.obligations.canonicalizeClaims parts.obligations same
  have envelope : d'.checkEnvelope = .ok () := by
    rw [reordered.header]
    exact checkEnvelope_relist reordered.count.le parts.envelope
  refine ⟨{ d' with clusters, pods, racks, sharedLinks, gateways, capacity, failureDomains,
                    maintenanceZones, obligations },
    ⟨envelope, clusters', pods', racks', sharedLinks', gateways', capacity', failureDomains',
      maintenanceZones', obligations', rfl⟩, fun injective => ?_⟩
  rw [parts.header, reordered.header]
  simp only [write, relist, Canonical.list_congr (oneCluster _ injective.clusters),
    Canonical.list_congr (onePod _ injective.pods), Canonical.list_congr (oneRack _ injective.racks),
    Canonical.list_congr (oneLink _ injective.sharedLinks),
    Canonical.list_congr (oneGateway _ injective.gateways),
    Canonical.list_congr (oneCapacity _ injective.capacity),
    Canonical.list_congr (oneDomain _ injective.failureDomains),
    Canonical.list_congr (oneZone _ injective.maintenanceZones),
    Canonical.list_congr (oneObligation _ injective.obligations)]

theorem Canonicalizes.count {d canonical : MemberDomainDeclaration}
    (parts : d.Canonicalizes canonical) :
    canonical.resourceClaimCount ≤ d.resourceClaimCount := by
  have clusters := canonicalizeClaims_fewer parts.clusters
  have pods := canonicalizeClaims_fewer parts.pods
  have racks := canonicalizeClaims_fewer parts.racks
  have sharedLinks := canonicalizeClaims_fewer parts.sharedLinks
  have gateways := canonicalizeClaims_fewer parts.gateways
  have capacity := canonicalizeClaims_fewer parts.capacity
  have failureDomains := canonicalizeClaims_fewer parts.failureDomains
  have maintenanceZones := canonicalizeClaims_fewer parts.maintenanceZones
  have obligations := canonicalizeClaims_fewer parts.obligations
  unfold resourceClaimCount
  omega

/-- A canonical declaration is its own canonical form, whatever its digest. -/
theorem Canonicalizes.again {d canonical : MemberDomainDeclaration}
    (parts : d.Canonicalizes canonical) (digest : Digest) :
    Canonicalizes { canonical with digest } { canonical with digest } where
  envelope := by
    have kept := checkEnvelope_relist parts.count parts.envelope
    rw [← parts.header] at kept
    exact kept
  clusters := canonicalizeClaims_again ClusterClaim.check_again parts.clusters
  pods := canonicalizeClaims_again PodClaim.check_again parts.pods
  racks := canonicalizeClaims_again (again_of_keeps RackClaim.check_keeps) parts.racks
  sharedLinks :=
    canonicalizeClaims_again (again_of_keeps SharedLinkClaim.check_keeps) parts.sharedLinks
  gateways := canonicalizeClaims_again (again_of_keeps GatewayClaim.check_keeps) parts.gateways
  capacity :=
    canonicalizeClaims_again (again_of_keeps CapacityContribution.check_keeps) parts.capacity
  failureDomains := canonicalizeClaims_again FailureDomainClaim.check_again parts.failureDomains
  maintenanceZones := canonicalizeClaims_again MaintenanceZone.check_again parts.maintenanceZones
  obligations :=
    canonicalizeClaims_again (again_of_keeps ProtectedObligation.check_keeps) parts.obligations
  header := rfl

theorem sealDeclaration_iff {d sealed : MemberDomainDeclaration} :
    d.sealDeclaration = .ok sealed ↔
      ∃ canonical, d.Canonicalizes canonical ∧
        sealed = { canonical with digest := canonical.computeDigest } := by
  constructor
  · intro accepted
    obtain ⟨canonical, accepted, done⟩ := bind_ok accepted
    exact ⟨canonical, canonicalize_iff.mp accepted, (Except.ok.inj done).symm⟩
  · rintro ⟨canonical, parts, rfl⟩
    rw [sealDeclaration, canonicalize_iff.mpr parts]
    rfl

theorem Reordered.seals {d d' sealed : MemberDomainDeclaration} (reordered : d.Reordered d')
    (accepted : d.sealDeclaration = .ok sealed) :
    ∃ sealed', d'.sealDeclaration = .ok sealed' ∧ (d.Injective → sealed'.digest = sealed.digest) := by
  obtain ⟨canonical, parts, rfl⟩ := sealDeclaration_iff.mp accepted
  obtain ⟨canonical', parts', same⟩ := reordered.canonicalizes parts
  exact ⟨_, sealDeclaration_iff.mpr ⟨canonical', parts', rfl⟩,
    fun injective => congrArg Sha256.digestBytes (same injective)⟩

/-- A declaration seals exactly when it does in any order, and to one digest, if claims of
one digest have one content; a sealed declaration seals to itself. -/
theorem sealing_is_canonical {d d' : MemberDomainDeclaration} (reordered : d.Reordered d')
    (injective : d.Injective) :
    ((∃ sealed, d.sealDeclaration = .ok sealed) ↔ ∃ sealed, d'.sealDeclaration = .ok sealed) ∧
      (∀ sealed sealed', d.sealDeclaration = .ok sealed → d'.sealDeclaration = .ok sealed' →
        sealed'.digest = sealed.digest) ∧
      ∀ sealed, d.sealDeclaration = .ok sealed → sealed.sealDeclaration = .ok sealed := by
  refine ⟨⟨?_, ?_⟩, ?_, ?_⟩
  · rintro ⟨sealed, accepted⟩
    exact (reordered.seals accepted).imp fun _ => And.left
  · rintro ⟨sealed, accepted⟩
    exact (reordered.symm.seals accepted).imp fun _ => And.left
  · intro sealed sealed' accepted accepted'
    obtain ⟨other, accepted'', same⟩ := reordered.seals accepted
    obtain rfl := Except.ok.inj (accepted'.symm.trans accepted'')
    exact same injective
  · intro sealed accepted
    obtain ⟨canonical, parts, rfl⟩ := sealDeclaration_iff.mp accepted
    exact sealDeclaration_iff.mpr ⟨_, parts.again _, rfl⟩

end Sealing

/-- A cluster that lists some racks. -/
def listing (racks : List RackId) (recordDigest : Digest) : ClusterClaim where
  id := ⟨ascii "cluster-1"⟩
  generation := ⟨1⟩
  recordDigest
  racks
  evidence := { provenance := .measured, observedAtMs := 1000, ttlMs := 60000 }

/-- A rack domain that claims some clusters. -/
def claiming (clusters : List ClusterClaim) : MemberDomainDeclaration where
  domain := ⟨.rack, ascii "rack-1"⟩
  site := ⟨ascii "site-1"⟩
  generation := ⟨1⟩
  observedEpoch := ⟨1⟩
  clusters
  evidence := { provenance := .measured, observedAtMs := 1000, ttlMs := 60000 }

theorem listed_reordered (a b : RackId) (own : Digest) :
    (claiming [listing [a, b] own, listing [b, a] Digest.zero]).Reordered
      (claiming [listing [a, b] Digest.zero, listing [b, a] own]) where
  clusters := ⟨_, .swap _ _ _, .cons ⟨.refl _, .swap _ _ _, rfl⟩
    (.cons ⟨.refl _, .swap _ _ _, rfl⟩ .nil)⟩
  pods := ⟨[], .refl _, .nil⟩
  racks := ⟨[], .refl _, .nil⟩
  sharedLinks := ⟨[], .refl _, .nil⟩
  gateways := ⟨[], .refl _, .nil⟩
  capacity := ⟨[], .refl _, .nil⟩
  failureDomains := ⟨[], .refl _, .nil⟩
  maintenanceZones := ⟨[], .refl _, .nil⟩
  obligations := ⟨[], .refl _, .nil⟩
  header := rfl

theorem listed_injective [StdSort] (a b : RackId) (own : Digest) :
    (claiming [listing [a, b] own, listing [b, a] Digest.zero]).Injective := by
  have one : ∀ claim ∈ [listing [a, b] own, listing [b, a] Digest.zero], ∀ checked,
      claim.check = .ok checked → checked.write =
        ({ listing (sortUnique [a, b]) own with pods := sortUnique [] } : ClusterClaim).write := by
    intro claim listed checked accepted
    have racks : sortUnique claim.racks = sortUnique [a, b] := by
      rcases List.mem_cons.mp listed with rfl | listed
      · rfl
      · rw [List.mem_singleton.mp listed]
        exact sortUnique_perm (.swap _ _ _)
    obtain ⟨_, -, accepted⟩ := bind_ok accepted
    obtain ⟨_, -, accepted⟩ := bind_ok accepted
    rw [← Except.ok.inj accepted, racks]
    rcases List.mem_cons.mp listed with rfl | listed
    · rfl
    · rw [List.mem_singleton.mp listed]
      rfl
  constructor
  · intro claim listed claim' listed' checked checked' accepted accepted' _
    exact (one claim listed checked accepted).trans (one claim' listed' checked' accepted').symm
  all_goals exact fun claim listed => absurd listed List.not_mem_nil

/-- One cluster twice, with its racks in two orders and its record digest once. -/
theorem listed_twice_seals_in_any_order :
    let a : RackId := ⟨ascii "rack-a"⟩
    let b : RackId := ⟨ascii "rack-b"⟩
    let own := (listing [a, b] Digest.zero).digest
    ∃ sealed sealed',
      (claiming [listing [a, b] own, listing [b, a] Digest.zero]).sealDeclaration = .ok sealed ∧
      (claiming [listing [a, b] Digest.zero, listing [b, a] own]).sealDeclaration = .ok sealed' ∧
      sealed'.digest = sealed.digest := by
  intro a b own
  obtain ⟨seals, alike, -⟩ :=
    sealing_is_canonical (listed_reordered a b own) (listed_injective a b own)
  have accepted : (claiming [listing [a, b] own, listing [b, a] Digest.zero]).sealDeclaration.isOk =
      true := by
    decide +kernel
  cases first : (claiming [listing [a, b] own, listing [b, a] Digest.zero]).sealDeclaration with
  | error _ =>
    rw [first] at accepted
    cases accepted
  | ok sealed =>
    obtain ⟨sealed', second⟩ := seals.mp ⟨sealed, first⟩
    exact ⟨sealed, sealed', rfl, second, alike sealed sealed' first second⟩

end MemberDomainDeclaration

end SiteFabric
