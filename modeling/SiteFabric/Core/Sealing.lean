import SiteFabric.Core.Declaration

/-! What canonicalization guarantees.
A refusal always carries a refusing status, so a declaration validates exactly
when it has a canonical form; and in a declaration that has one, two claims
under one key have one digest. -/

namespace SiteFabric

open Lib

/-- Every refusal carries a status that is not a success. -/
def Refuses {α : Type} (outcome : Except Status α) : Prop :=
  ∀ status, outcome = .error status → status.isOk = false

/-- The statuses canonicalization refuses with: none of them is about authority. -/
def Status.defects : List Status :=
  [.malformed, .invalid, .evidenceMissing, .schemaIncompatible, .limitExceeded, .conflicting,
    .capacityOverflow, .digestMismatchDeclaration]

def Defective {α : Type} (outcome : Except Status α) : Prop :=
  ∀ status, outcome = .error status → status ∈ Status.defects

section Defective

variable {α β : Type}

theorem Defective.refuses {outcome : Except Status α} (defective : Defective outcome) :
    Refuses outcome := by
  have failures : ∀ status ∈ Status.defects, status.isOk = false := by decide
  exact fun status refused => failures status (defective status refused)

theorem defective_ok (a : α) : Defective (.ok a) := fun _ impossible => by cases impossible

theorem defective_error {status : Status} (listed : status ∈ Status.defects) :
    Defective (.error status : Except Status α) := by
  rintro _ ⟨⟩
  exact listed

theorem Defective.bind {outcome : Except Status α} {next : α → Except Status β}
    (first : Defective outcome) (rest : ∀ a, Defective (next a)) : Defective (outcome >>= next) := by
  cases outcome with
  | error status => exact fun _ same => first _ (by injection same with same; rw [same])
  | ok a => exact rest a

theorem bind_ok {outcome : Except Status α} {next : α → Except Status β} {b : β}
    (done : (outcome >>= next) = .ok b) : ∃ a, outcome = .ok a ∧ next a = .ok b := by
  cases outcome with
  | error _ => cases done
  | ok a => exact ⟨a, rfl, done⟩

theorem Defective.ite {condition : Prop} [Decidable condition] {yes no : Except Status α}
    (first : Defective yes) (second : Defective no) : Defective (if condition then yes else no) := by
  split
  · exact first
  · exact second

end Defective

theorem Evidence.check_defective (e : Evidence) : Defective e.check :=
  .ite (defective_error (by decide)) (.ite (defective_error (by decide))
    (.ite (defective_error (by decide)) (defective_ok ())))

theorem checkHeader_defective (valid : Bool) (generation : Generation) (evidence : Evidence) :
    Defective (checkHeader valid generation evidence) :=
  .ite (defective_error (by decide)) evidence.check_defective

theorem checkCapacity_defective (v : CapacityVector) : Defective (checkCapacity v) :=
  .ite (defective_ok ()) (defective_error (by decide))

theorem checkRecordDigest_defective (declared computed : Digest) :
    Defective (checkRecordDigest declared computed) :=
  .ite (defective_ok ()) (defective_error (by decide))

section Sorted

variable [StdSort] {α : Type} [LinearOrder α]

theorem sortUnique_eq_dedup (xs : List α) : sortUnique xs = (sort (byKey id) xs).dedup := by
  exact List.Pairwise.destutter_eq_dedup (r := (· ≤ ·)) (sort_ordered xs)

@[simp] theorem mem_sortUnique {xs : List α} {x : α} : x ∈ sortUnique xs ↔ x ∈ xs := by
  rw [sortUnique_eq_dedup, List.mem_dedup, mem_sort]

/-- A list of values in their own order is told by what it holds. -/
theorem sortUnique_congr {xs ys : List α} (same : ∀ x, x ∈ xs ↔ x ∈ ys) :
    sortUnique xs = sortUnique ys := by
  have ordered : ∀ zs : List α, (sortUnique zs).Pairwise (· ≤ ·) := by
    exact fun zs => (sort_ordered zs).sublist (List.destutter_sublist _ _)
  refine List.Perm.eq_of_pairwise' (ordered xs) (ordered ys) ?_
  rw [List.perm_ext_iff_of_nodup]
  · exact fun x => by rw [mem_sortUnique, mem_sortUnique, same]
  · rw [sortUnique_eq_dedup]
    exact List.nodup_dedup _
  · rw [sortUnique_eq_dedup]
    exact List.nodup_dedup _

end Sorted

section Lists

variable {α : Type} {keyOf : α → Text} {digestOf : α → Digest}

theorem collapseFrom_defective (head : α) (items : List α) :
    Defective (collapseFrom keyOf digestOf head items) := by
  induction items generalizing head with
  | nil => exact defective_ok _
  | cons next rest ih =>
    refine .ite (.ite (ih head) (defective_error (by decide))) ?_
    intro status refused
    cases collapsed : collapseFrom keyOf digestOf next rest with
    | ok _ =>
      rw [collapsed] at refused
      cases refused
    | error _ =>
      rw [collapsed] at refused
      injection refused with same
      exact ih next status (by rw [collapsed, same])

theorem canonicalizeList_defective (bound : Nat) (items : List α) :
    Defective (canonicalizeList keyOf digestOf bound items) := by
  refine .ite (defective_error (by decide)) ?_
  unfold collapse
  split
  · exact defective_ok _
  · exact collapseFrom_defective _ _

theorem checkAll_defective {check : α → Except Status α} (each : ∀ claim, Defective (check claim))
    (items : List α) : Defective (checkAll check items) := by
  induction items with
  | nil => exact defective_ok _
  | cons claim rest ih =>
    exact (each claim).bind fun _ => ih.bind fun _ => defective_ok _

theorem canonicalizeClaims_defective {check : α → Except Status α}
    (each : ∀ claim, Defective (check claim)) (bound : Nat) (items : List α) :
    Defective (canonicalizeClaims keyOf digestOf check bound items) :=
  (checkAll_defective each items).bind fun _ => canonicalizeList_defective bound _

/-- A sorted list that collapses has one digest under each key. -/
theorem collapseFrom_agrees {head : α} {items out : List α}
    (sorted : (head :: items).Pairwise fun a b => byKey keyOf b a = false)
    (collapsed : collapseFrom keyOf digestOf head items = .ok out) :
    ∀ a ∈ head :: items, ∀ b ∈ head :: items, keyOf a = keyOf b → digestOf a = digestOf b := by
  induction items generalizing head out with
  | nil =>
    intro a memberA b memberB _
    rw [List.mem_singleton.mp memberA, List.mem_singleton.mp memberB]
  | cons next rest ih =>
    obtain ⟨above, tail⟩ := List.pairwise_cons.mp sorted
    unfold collapseFrom at collapsed
    by_cases same : keyOf next = keyOf head
    · rw [if_pos same] at collapsed
      by_cases agreed : digestOf next = digestOf head
      · rw [if_pos agreed] at collapsed
        have shorter : (head :: rest).Pairwise fun a b => byKey keyOf b a = false :=
          sorted.sublist ((List.sublist_cons_self next rest).cons_cons head)
        have step := ih shorter collapsed
        -- The collapsed item stands for the head of its run.
        have stand : ∀ a ∈ head :: next :: rest, ∃ a' ∈ head :: rest,
            keyOf a' = keyOf a ∧ digestOf a' = digestOf a := by
          intro a member
          rcases List.mem_cons.mp member with rfl | member
          · exact ⟨_, List.mem_cons_self, rfl, rfl⟩
          · rcases List.mem_cons.mp member with rfl | member
            · exact ⟨head, List.mem_cons_self, same.symm, agreed.symm⟩
            · exact ⟨a, List.mem_cons_of_mem _ member, rfl, rfl⟩
        intro a memberA b memberB keys
        obtain ⟨a', inA, keyA, digestA⟩ := stand a memberA
        obtain ⟨b', inB, keyB, digestB⟩ := stand b memberB
        rw [← digestA, ← digestB]
        exact step a' inA b' inB (by rw [keyA, keyB, keys])
      · rw [if_neg agreed] at collapsed
        cases collapsed
    · rw [if_neg same] at collapsed
      cases shorter : collapseFrom keyOf digestOf next rest with
      | error _ =>
        rw [shorter] at collapsed
        cases collapsed
      | ok _ =>
        have step := ih tail shorter
        have apart : ∀ b ∈ next :: rest, keyOf b ≠ keyOf head := by
          intro b member keys
          have first := of_decide_eq_false (above next List.mem_cons_self)
          have later : ¬ keyOf b < keyOf next := by
            rcases List.mem_cons.mp member with rfl | member
            · exact lt_irrefl _
            · exact of_decide_eq_false ((List.pairwise_cons.mp tail).1 b member)
          rw [keys] at later
          exact same (le_antisymm (not_lt.mp later) (not_lt.mp first))
        intro a memberA b memberB keys
        rcases List.mem_cons.mp memberA with rfl | inA <;>
          rcases List.mem_cons.mp memberB with rfl | inB
        · rfl
        · exact absurd keys.symm (apart b inB)
        · exact absurd keys (apart a inA)
        · exact step a inA b inB keys

theorem canonicalizeList_agrees {bound : Nat} {items out : List α}
    (canonical : canonicalizeList keyOf digestOf bound items = .ok out) {a b : α}
    (memberA : a ∈ items) (memberB : b ∈ items) (keys : keyOf a = keyOf b) :
    digestOf a = digestOf b := by
  unfold canonicalizeList at canonical
  split at canonical
  · cases canonical
  have perm := stableSort_perm (byKey keyOf) items
  have sorted := stableSort_sorted (byKey_strictWeak keyOf) items
  replace memberA := perm.mem_iff.mpr memberA
  replace memberB := perm.mem_iff.mpr memberB
  cases listed : stableSort (byKey keyOf) items with
  | nil =>
    rw [listed] at memberA
    exact absurd memberA List.not_mem_nil
  | cons head rest =>
    rw [listed] at canonical memberA memberB sorted
    exact collapseFrom_agrees sorted canonical a memberA b memberB keys

/-- A check that only accepts or refuses leaves an accepted list as it was. -/
theorem checkAll_keeps {check : α → Except Status α}
    (keeps : ∀ claim checked, check claim = .ok checked → checked = claim) {items out : List α}
    (checked : checkAll check items = .ok out) : out = items := by
  induction items generalizing out with
  | nil =>
    injection checked with same
    exact same.symm
  | cons claim rest ih =>
    unfold checkAll at checked
    cases first : check claim with
    | error _ =>
      rw [first] at checked
      cases checked
    | ok one =>
      cases others : checkAll check rest with
      | error _ =>
        rw [first, others] at checked
        cases checked
      | ok more =>
        rw [first, others] at checked
        injection checked with same
        rw [← same, keeps claim one first, ih others]

theorem canonicalizeClaims_agrees {check : α → Except Status α}
    (keeps : ∀ claim checked, check claim = .ok checked → checked = claim) {bound : Nat}
    {items out : List α} (canonical : canonicalizeClaims keyOf digestOf check bound items = .ok out)
    {a b : α} (memberA : a ∈ items) (memberB : b ∈ items) (keys : keyOf a = keyOf b) :
    digestOf a = digestOf b := by
  unfold canonicalizeClaims at canonical
  cases checked : checkAll check items with
  | error _ =>
    rw [checked] at canonical
    cases canonical
  | ok list =>
    rw [checked] at canonical
    have same := checkAll_keeps keeps checked
    subst same
    exact canonicalizeList_agrees canonical memberA memberB keys

theorem collapseFrom_sublist {head : α} {items out : List α}
    (collapsed : collapseFrom keyOf digestOf head items = .ok out) : out.Sublist (head :: items) := by
  induction items generalizing head out with
  | nil =>
    cases collapsed
    exact List.Sublist.refl _
  | cons next rest ih =>
    unfold collapseFrom at collapsed
    split at collapsed
    · split at collapsed
      · exact (ih collapsed).trans ((List.sublist_cons_self next rest).cons_cons head)
      · cases collapsed
    · cases later : collapseFrom keyOf digestOf next rest with
      | error _ =>
        rw [later] at collapsed
        cases collapsed
      | ok tail =>
        rw [later] at collapsed
        cases collapsed
        exact (ih later).cons_cons head

theorem checkAll_mem {check : α → Except Status α} {items out : List α}
    (checked : checkAll check items = .ok out) {a : α} (member : a ∈ out) :
    ∃ claim ∈ items, check claim = .ok a := by
  induction items generalizing out with
  | nil =>
    cases checked
    cases member
  | cons claim rest ih =>
    obtain ⟨first, one, more⟩ := bind_ok checked
    obtain ⟨tail, others, returned⟩ := bind_ok more
    cases returned
    rcases List.mem_cons.mp member with rfl | later
    · exact ⟨claim, List.mem_cons_self, one⟩
    · obtain ⟨other, listed, passed⟩ := ih others later
      exact ⟨other, List.mem_cons_of_mem _ listed, passed⟩

theorem checkAll_each {check : α → Except Status α} {items out : List α}
    (checked : checkAll check items = .ok out) {claim : α} (listed : claim ∈ items) :
    ∃ a, check claim = .ok a := by
  induction items generalizing out with
  | nil => cases listed
  | cons head rest ih =>
    obtain ⟨first, one, more⟩ := bind_ok checked
    obtain ⟨tail, others, -⟩ := bind_ok more
    rcases List.mem_cons.mp listed with rfl | later
    · exact ⟨first, one⟩
    · exact ih others later

/-- Every claim of a list that has a canonical form passed its check. -/
theorem canonicalizeClaims_each {check : α → Except Status α} {bound : Nat} {items out : List α}
    (canonical : canonicalizeClaims keyOf digestOf check bound items = .ok out) {claim : α}
    (listed : claim ∈ items) : ∃ a, check claim = .ok a := by
  obtain ⟨checked, passed, -⟩ := bind_ok canonical
  exact checkAll_each passed listed

/-- A canonical list is within its bound, and each claim of it passed its check. -/
theorem canonicalizeClaims_checked {check : α → Except Status α} {bound : Nat} {items out : List α}
    (canonical : canonicalizeClaims keyOf digestOf check bound items = .ok out) :
    out.length ≤ bound ∧ ∀ a ∈ out, ∃ claim, check claim = .ok a := by
  obtain ⟨checked, passed, listed⟩ := bind_ok canonical
  unfold canonicalizeList at listed
  split at listed
  · cases listed
  next within =>
  have perm := stableSort_perm (byKey keyOf) checked
  have kept : out.Sublist (stableSort (byKey keyOf) checked) := by
    cases sorted : stableSort (byKey keyOf) checked with
    | nil =>
      rw [sorted] at listed
      cases listed
      exact List.Sublist.refl _
    | cons head rest =>
      rw [sorted] at listed
      exact collapseFrom_sublist listed
  constructor
  · have length := kept.length_le
    rw [perm.length_eq] at length
    omega
  · intro a member
    obtain ⟨claim, -, one⟩ := checkAll_mem passed (perm.mem_iff.mp (kept.subset member))
    exact ⟨claim, one⟩

end Lists

theorem ClusterClaim.check_defective [StdSort] (claim : ClusterClaim) : Defective claim.check :=
  (checkHeader_defective _ _ _).bind fun _ => (checkRecordDigest_defective _ _).bind fun _ =>
    defective_ok _

theorem PodClaim.check_defective [StdSort] (claim : PodClaim) : Defective claim.check :=
  (checkHeader_defective _ _ _).bind fun _ => (checkRecordDigest_defective _ _).bind fun _ =>
    defective_ok _

theorem RackClaim.check_defective (claim : RackClaim) : Defective claim.check :=
  (checkHeader_defective _ _ _).bind fun _ => (checkCapacity_defective _).bind fun _ =>
    (checkRecordDigest_defective _ _).bind fun _ => defective_ok _

theorem SharedLinkClaim.check_defective (claim : SharedLinkClaim) : Defective claim.check :=
  (checkHeader_defective _ _ _).bind fun _ => (checkCapacity_defective _).bind fun _ =>
    (checkRecordDigest_defective _ _).bind fun _ => defective_ok _

theorem GatewayClaim.check_defective (claim : GatewayClaim) : Defective claim.check :=
  (checkHeader_defective _ _ _).bind fun _ => (checkCapacity_defective _).bind fun _ =>
    (checkRecordDigest_defective _ _).bind fun _ => defective_ok _

theorem CapacityContribution.check_defective (claim : CapacityContribution) : Defective claim.check :=
  (checkHeader_defective _ _ _).bind fun _ => (checkCapacity_defective _).bind fun _ =>
    (checkRecordDigest_defective _ _).bind fun _ => defective_ok _

theorem FailureDomainClaim.check_defective [StdSort] (claim : FailureDomainClaim) : Defective claim.check :=
  (checkHeader_defective _ _ _).bind fun _ => .ite (defective_error (by decide))
    ((checkRecordDigest_defective _ _).bind fun _ => defective_ok _)

theorem MaintenanceZone.check_defective [StdSort] (claim : MaintenanceZone) : Defective claim.check :=
  (checkHeader_defective _ _ _).bind fun _ => .ite (defective_error (by decide))
    ((checkRecordDigest_defective _ _).bind fun _ => defective_ok _)

theorem ProtectedObligation.check_defective (claim : ProtectedObligation) : Defective claim.check :=
  (checkHeader_defective _ _ _).bind fun _ => (checkRecordDigest_defective _ _).bind fun _ =>
    defective_ok _

/-- What the check of a claim with a capacity has seen when it accepts: it returns the claim. -/
theorem measured_ok {valid : Bool} {generation : Generation} {evidence : Evidence}
    {capacity : CapacityVector} {declared computed : Digest} {claim checked : α}
    (accepted : (do
      checkHeader valid generation evidence
      checkCapacity capacity
      checkRecordDigest declared computed
      return claim : Except Status α) = .ok checked) :
    checked = claim ∧ checkHeader valid generation evidence = .ok () ∧
      checkCapacity capacity = .ok () := by
  obtain ⟨_, header, accepted⟩ := bind_ok accepted
  obtain ⟨_, measured, accepted⟩ := bind_ok accepted
  obtain ⟨_, _, accepted⟩ := bind_ok accepted
  exact ⟨(Except.ok.inj accepted).symm, header, measured⟩

theorem SharedLinkClaim.check_keeps (claim checked : SharedLinkClaim)
    (accepted : claim.check = .ok checked) : checked = claim := (measured_ok accepted).1

theorem GatewayClaim.check_keeps (claim checked : GatewayClaim)
    (accepted : claim.check = .ok checked) : checked = claim := (measured_ok accepted).1

namespace MemberDomainDeclaration

theorem checkEnvelope_defective (d : MemberDomainDeclaration) : Defective d.checkEnvelope :=
  .ite (defective_error (by decide)) (.ite (defective_error (by decide))
    (d.evidence.check_defective.bind fun _ => .ite (defective_error (by decide)) (defective_ok _)))

variable [StdSort]

theorem canonicalize_defective (d : MemberDomainDeclaration) : Defective d.canonicalize :=
  d.checkEnvelope_defective.bind fun _ =>
  (canonicalizeClaims_defective ClusterClaim.check_defective _ _).bind fun _ =>
  (canonicalizeClaims_defective PodClaim.check_defective _ _).bind fun _ =>
  (canonicalizeClaims_defective RackClaim.check_defective _ _).bind fun _ =>
  (canonicalizeClaims_defective SharedLinkClaim.check_defective _ _).bind fun _ =>
  (canonicalizeClaims_defective GatewayClaim.check_defective _ _).bind fun _ =>
  (canonicalizeClaims_defective CapacityContribution.check_defective _ _).bind fun _ =>
  (canonicalizeClaims_defective FailureDomainClaim.check_defective _ _).bind fun _ =>
  (canonicalizeClaims_defective MaintenanceZone.check_defective _ _).bind fun _ =>
  (canonicalizeClaims_defective ProtectedObligation.check_defective _ _).bind fun _ =>
  defective_ok _

theorem canonicalize_refuses (d : MemberDomainDeclaration) : Refuses d.canonicalize :=
  d.canonicalize_defective.refuses

theorem sealDeclaration_defective (d : MemberDomainDeclaration) : Defective d.sealDeclaration :=
  d.canonicalize_defective.bind fun _ => defective_ok _

theorem sealDeclaration_refuses (d : MemberDomainDeclaration) : Refuses d.sealDeclaration :=
  d.sealDeclaration_defective.refuses

/-- Sealing orders the claims and sets the digest; whose they are stays. -/
theorem sealDeclaration_keeps {d canonical : MemberDomainDeclaration}
    (accepted : d.sealDeclaration = .ok canonical) :
    canonical.domain = d.domain ∧ canonical.site = d.site ∧ canonical.generation = d.generation := by
  obtain ⟨_, accepted, sealing⟩ := bind_ok accepted
  obtain ⟨_, _, accepted⟩ := bind_ok accepted
  obtain ⟨_, _, accepted⟩ := bind_ok accepted
  obtain ⟨_, _, accepted⟩ := bind_ok accepted
  obtain ⟨_, _, accepted⟩ := bind_ok accepted
  obtain ⟨_, _, accepted⟩ := bind_ok accepted
  obtain ⟨_, _, accepted⟩ := bind_ok accepted
  obtain ⟨_, _, accepted⟩ := bind_ok accepted
  obtain ⟨_, _, accepted⟩ := bind_ok accepted
  obtain ⟨_, _, accepted⟩ := bind_ok accepted
  obtain ⟨_, _, accepted⟩ := bind_ok accepted
  cases accepted
  cases sealing
  exact ⟨rfl, rfl, rfl⟩

/-- A declaration validates exactly when it has a canonical form. -/
theorem validate_isOk_iff (d : MemberDomainDeclaration) :
    d.validate.isOk = true ↔ ∃ canonical, d.canonicalize = .ok canonical := by
  unfold validate
  cases outcome : d.canonicalize with
  | ok canonical => exact ⟨fun _ => ⟨canonical, rfl⟩, fun _ => rfl⟩
  | error status =>
    have refused := d.canonicalize_refuses status outcome
    constructor
    · intro accepted
      rw [refused] at accepted
      cases accepted
    · rintro ⟨_, impossible⟩
      cases impossible

/-- In a declaration with a canonical form, links of one id have one digest, and
so have gateways. -/
theorem canonicalize_agrees {d canonical : MemberDomainDeclaration}
    (accepted : d.canonicalize = .ok canonical) :
    (∀ a ∈ d.sharedLinks, ∀ b ∈ d.sharedLinks, a.id = b.id → a.digest = b.digest) ∧
      ∀ a ∈ d.gateways, ∀ b ∈ d.gateways, a.id = b.id → a.digest = b.digest := by
  obtain ⟨_, _, accepted⟩ := bind_ok accepted
  obtain ⟨_, _, accepted⟩ := bind_ok accepted
  obtain ⟨_, _, accepted⟩ := bind_ok accepted
  obtain ⟨_, _, accepted⟩ := bind_ok accepted
  obtain ⟨_, links, accepted⟩ := bind_ok accepted
  obtain ⟨_, gateways, _⟩ := bind_ok accepted
  constructor
  · intro a memberA b memberB ids
    exact canonicalizeClaims_agrees SharedLinkClaim.check_keeps links memberA memberB
      (congrArg StrongId.value ids)
  · intro a memberA b memberB ids
    exact canonicalizeClaims_agrees GatewayClaim.check_keeps gateways memberA memberB
      (congrArg StrongId.value ids)

/-- The failure domains of a declaration that has a canonical form are valid. -/
theorem domain_valid {d canonical : MemberDomainDeclaration}
    (accepted : d.canonicalize = .ok canonical) {claim : FailureDomainClaim}
    (listed : claim ∈ d.failureDomains) : claim.valid = true := by
  obtain ⟨_, -, accepted⟩ := bind_ok accepted
  obtain ⟨_, -, accepted⟩ := bind_ok accepted
  obtain ⟨_, -, accepted⟩ := bind_ok accepted
  obtain ⟨_, -, accepted⟩ := bind_ok accepted
  obtain ⟨_, -, accepted⟩ := bind_ok accepted
  obtain ⟨_, -, accepted⟩ := bind_ok accepted
  obtain ⟨_, -, accepted⟩ := bind_ok accepted
  obtain ⟨_, domains, -⟩ := bind_ok accepted
  obtain ⟨_, checked⟩ := canonicalizeClaims_each domains listed
  obtain ⟨_, header, -⟩ := bind_ok checked
  exact (checkHeader_ok header).1

end MemberDomainDeclaration

namespace SiteExpectation

/-- The order `canonicalize` leaves members in: by domain, each domain once. -/
def Strict (members : List ExpectedMember) : Prop :=
  members.Pairwise fun a b => a.domain < b.domain

theorem strict_of_sorted {members : List ExpectedMember}
    (sorted : members.Pairwise fun a b => byKey ExpectedMember.domain b a = false)
    (distinct : hasAdjacentDuplicate members = false) : Strict members := by
  induction members with
  | nil => exact List.Pairwise.nil
  | cons first rest ih =>
    obtain ⟨above, tail⟩ := List.pairwise_cons.mp sorted
    cases rest with
    | nil => exact List.pairwise_singleton _ _
    | cons second rest =>
      simp only [hasAdjacentDuplicate, Bool.or_eq_false_iff, decide_eq_false_iff_not] at distinct
      have strict := ih tail distinct.2
      have step : first.domain < second.domain :=
        lt_of_le_of_ne (not_lt.mp (of_decide_eq_false (above second List.mem_cons_self)))
          distinct.1
      refine List.pairwise_cons.mpr ⟨fun later member => ?_, strict⟩
      rcases List.mem_cons.mp member with rfl | member
      · exact step
      · exact step.trans ((List.pairwise_cons.mp strict).1 later member)

theorem hasAdjacentDuplicate_congr {members members' : List ExpectedMember}
    (domains : members'.map (·.domain) = members.map (·.domain)) :
    hasAdjacentDuplicate members' = hasAdjacentDuplicate members := by
  induction members generalizing members' with
  | nil => rw [List.map_eq_nil_iff.mp domains]
  | cons first rest ih =>
    obtain ⟨first', rest', rfl, head, tail⟩ := List.map_eq_cons_iff.mp domains
    cases rest with
    | nil =>
      rw [List.map_eq_nil_iff.mp tail]
      rfl
    | cons second rest =>
      obtain ⟨second', rest', rfl, next, tail⟩ := List.map_eq_cons_iff.mp tail
      have later : hasAdjacentDuplicate (second' :: rest') = hasAdjacentDuplicate (second :: rest) :=
        ih (by rw [List.map_cons, next, tail]; rfl)
      simp only [hasAdjacentDuplicate, head, next, later]

theorem canonicalize_strict {e canonical : SiteExpectation}
    (accepted : e.canonicalize = .ok canonical) : Strict canonical.members := by
  unfold canonicalize at accepted
  split at accepted
  · cases accepted
  split at accepted
  · cases accepted
  split at accepted
  · cases accepted
  dsimp only at accepted
  split at accepted
  · cases accepted
  next distinct =>
  obtain ⟨_, _, accepted⟩ := bind_ok accepted
  injection accepted with same
  rw [← same]
  exact strict_of_sorted (stableSort_sorted (byKey_strictWeak _) _)
    ((Bool.not_eq_true _).mp distinct)

theorem domains_sorted {members : List ExpectedMember}
    (sorted : members.Pairwise fun a b => byKey ExpectedMember.domain b a = false) :
    (members.map (·.domain)).Pairwise (· ≤ ·) := by
  rw [List.pairwise_map]
  exact sorted.imp fun {a b} below => not_lt.mp (of_decide_eq_false below)

/-- The canonical form does not depend on the order of the members. -/
theorem canonicalize_perm (e : SiteExpectation) {members : List ExpectedMember}
    (perm : members.Perm e.members) : { e with members }.canonicalize = e.canonicalize := by
  have sorts : (stableSort (byKey ExpectedMember.domain) members).Perm
      (stableSort (byKey ExpectedMember.domain) e.members) :=
    ((stableSort_perm _ members).trans perm).trans (stableSort_perm _ e.members).symm
  have sorted := stableSort_sorted (byKey_strictWeak ExpectedMember.domain) e.members
  have sorted' := stableSort_sorted (byKey_strictWeak ExpectedMember.domain) members
  have duplicates := hasAdjacentDuplicate_congr
    ((sorts.map ExpectedMember.domain).eq_of_pairwise (fun _ _ _ _ => le_antisymm)
      (domains_sorted sorted') (domains_sorted sorted))
  unfold canonicalize
  dsimp only
  rw [perm.length_eq, duplicates]
  cases distinct : hasAdjacentDuplicate (stableSort (byKey ExpectedMember.domain) e.members) with
  | true => simp
  | false =>
    have lists : stableSort (byKey ExpectedMember.domain) members =
        stableSort (byKey ExpectedMember.domain) e.members :=
      List.Perm.eq_of_pairwise (fun a b _ _ below above => absurd above (lt_asymm below))
        (strict_of_sorted sorted' (duplicates.trans distinct)) (strict_of_sorted sorted distinct)
        sorts
    rw [lists]

end SiteExpectation

end SiteFabric
