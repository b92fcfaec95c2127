import SiteFabric.Compose.Zones
import Mathlib.Data.Set.Card
import SiteFabric.Compose.Sealed

/-! The floors a site promised to keep.
A capacity floor is compared with what the whole site has available, whatever its scope.
A counted floor counts what is attributed and up, or the domains that list a resource
anybody claims, whether or not a zone holds it out. -/

namespace SiteFabric

open Lib Relation
open Std (ExtTreeMap)

open Classical in
/-- What the entries of some resources that no zone holds out put on a channel. -/
noncomputable def ComposedSite.providedBy (site : ComposedSite) (resources : Resources)
    (c : CapacityChannel) (p : ResourceKey → Prop) : Nat :=
  exactSum (((site.fedBy resources c).filter fun entry =>
    !site.holdsOut entry.owner && decide (p entry.owner)).map (·.capacity.channel c))

namespace CompositionInput

section Capacity

variable [StdSort] (input : CompositionInput) (expectation : SiteExpectation)

open Classical in
/-- What some resources put on a channel. -/
noncomputable def offeredBy (c : CapacityChannel) (p : ResourceKey → Prop) : Nat :=
  exactSum ((input.resources expectation).toList.filterMap fun entry =>
    if p entry.1 then entry.2.puts c else none)

/-- What the whole site offers on a channel outside the zones in force is known, within
bounds, and no less than required. -/
structure Suffices (c : CapacityChannel) (required : UInt64) : Prop where
  some : ∃ key value, input.Puts expectation c key value
  known : ∀ key value, input.Puts expectation c key value → value.known = true
  bounded : input.offeredBy expectation c (fun _ => True) ≤ Limits.maxCapacityBps.toNat
  enough : required.toNat ≤ input.offeredBy expectation c fun key =>
    ¬ input.Covers expectation key

variable {input expectation} {site : ComposedSite} {c : CapacityChannel}

theorem fedBy_offers (parts : input.Composes expectation site) (q : ResourceKey → Bool) :
    ((site.fedBy (input.resources expectation) c).filter (q ·.owner)).map (·.capacity.channel c) =
      (input.resources expectation).toList.filterMap fun entry =>
        if q entry.1 then entry.2.puts c else none := by
  rw [fedBy_values parts.ownership parts.entries, channelValues_owned]

theorem mem_fedBy (parts : input.Composes expectation site) {value : CapacityValue} :
    value ∈ (site.fedBy (input.resources expectation) c).map (·.capacity.channel c) ↔
      ∃ key, input.Puts expectation c key value := by
  have all := fedBy_offers (c := c) parts fun _ => true
  simp only [List.filter_true, if_true] at all
  rw [all, List.mem_filterMap, Prod.exists]
  refine exists_congr fun key => ?_
  rw [← puts_iff (prepare_ok parts.prepared).1, Option.bind_eq_some_iff]
  exact exists_congr fun record => and_congr_left fun _ => mem_toList_iff

theorem holdsOut_covers (parts : input.Composes expectation site) (key : ResourceKey) :
    site.holdsOut key = true ↔ input.Covers expectation key := by
  rw [← parts.excludedKeys_holdsOut, input.excludedKeys_covers]

/-- What the site provides is what its input offers outside the zones in force. -/
theorem providedBy_eq (parts : input.Composes expectation site) (p : ResourceKey → Prop) :
    site.providedBy (input.resources expectation) c p =
      input.offeredBy expectation c fun key => ¬ input.Covers expectation key ∧ p key := by
  classical
  rw [ComposedSite.providedBy, offeredBy,
    fedBy_offers parts fun key => !site.holdsOut key && decide (p key)]
  refine congrArg exactSum (List.filterMap_congr fun entry _ => ?_)
  have kept : (!site.holdsOut entry.1 && decide (p entry.1)) = true ↔
      ¬ input.Covers expectation entry.1 ∧ p entry.1 := by
    rw [Bool.and_eq_true, Bool.not_eq_true', ← Bool.not_eq_true, holdsOut_covers parts,
      decide_eq_true_eq]
  by_cases free : ¬ input.Covers expectation entry.1 ∧ p entry.1
  · rw [if_pos free, if_pos (kept.mpr free)]
  · rw [if_neg free, if_neg (mt kept.mp free)]

theorem offeredBy_all (parts : input.Composes expectation site) :
    input.offeredBy expectation c (fun _ => True) =
      exactSum ((site.fedBy (input.resources expectation) c).map (·.capacity.channel c)) := by
  have all := fedBy_offers (c := c) parts fun _ => true
  simp only [List.filter_true, if_true] at all
  rw [all, offeredBy]
  simp only [if_true]

theorem offeredBy_free (parts : input.Composes expectation site) :
    input.offeredBy expectation c (fun key => ¬ input.Covers expectation key) =
      exactSum (((site.fedBy (input.resources expectation) c).filter (!site.holdsOut ·.owner)).map
        (·.capacity.channel c)) := by
  have free := providedBy_eq (c := c) parts fun _ => True
  simpa only [ComposedSite.providedBy, decide_true, Bool.and_true, and_true] using free.symm

/-- A capacity floor is met when the whole site suffices, whatever the floor's scope. -/
theorem meets_capacity_iff (parts : input.Composes expectation site) {o : ProtectedObligation}
    (measured : o.kind.channel ≠ .unknown) :
    input.Meets expectation o ↔ input.Suffices expectation o.kind.channel o.required := by
  have count : o.kind.isCount = false := by
    cases kind : o.kind <;> rw [kind] at measured <;> first | rfl | exact absurd rfl measured
  have balanced := parts.balanced.channels o.kind.channel
  rw [Meets, ProtectedObligation.MetBy, count, if_neg Bool.false_ne_true, and_iff_right measured,
    ← parts.capacity]
  constructor
  · rintro ⟨known, enough⟩
    have total := balanced.available_known.mp known
    obtain ⟨some, each, bounded⟩ := balanced.total_known.mp total
    obtain ⟨value, member⟩ := List.exists_mem_of_ne_nil _ some
    obtain ⟨key, put⟩ := (mem_fedBy parts).mp member
    refine ⟨⟨key, value, put⟩, ?_, ?_, ?_⟩
    · intro key value put
      exact each value ((mem_fedBy parts).mpr ⟨key, put⟩)
    · rwa [offeredBy_all parts]
    · rw [offeredBy_free parts, ← balanced.available_bps total]
      exact UInt64.le_iff_toNat_le.mp enough
  · rintro ⟨⟨key, value, put⟩, each, bounded, enough⟩
    have total : (site.capacity.total.channel o.kind.channel).known = true := by
      refine balanced.total_known.mpr ⟨?_, ?_, ?_⟩
      · exact List.ne_nil_of_mem ((mem_fedBy parts).mpr ⟨key, put⟩)
      · intro value member
        obtain ⟨key, put⟩ := (mem_fedBy parts).mp member
        exact each key value put
      · rwa [← offeredBy_all parts]
    refine ⟨balanced.available_known.mpr total, UInt64.le_iff_toNat_le.mpr ?_⟩
    rwa [balanced.available_bps total, ← offeredBy_free parts]

end Capacity

end CompositionInput

/-- Capacity floors are kept in their scope if and only if what the site as a whole offers
is enough only where the scope offers enough. -/
theorem scoped_floors_are_measured_in_scope_iff [StdSort] {input : CompositionInput}
    {expectation : SiteExpectation} {site : ComposedSite} {id : ObligationId}
    {o : ProtectedObligation} (prepared : input.prepare = .ok expectation)
    (composed : compose input = .composed site) (inForce : input.inForce id = some o)
    (attributed : site.attributes (.obligation id) = true)
    (measured : o.kind.channel ≠ .unknown) :
    (∀ verdict ∈ site.obligations, verdict.id = id → verdict.status = .ok →
      o.required.toNat ≤ site.providedBy (input.resources expectation) o.kind.channel
        (input.ObligationScope o)) ↔
      (input.Suffices expectation o.kind.channel o.required →
        o.required.toNat ≤ input.offeredBy expectation o.kind.channel fun key =>
          ¬ input.Covers expectation key ∧ input.ObligationScope o key) := by
  obtain ⟨expectation', parts⟩ := CompositionInput.compose_composes composed
  obtain rfl : expectation = expectation' := Except.ok.inj (prepared.symm.trans parts.prepared)
  have earned := CompositionInput.verdict_ok_iff parts inForce
  rw [← parts.attributes_settled, attributed, CompositionInput.meets_capacity_iff parts measured,
    and_iff_right rfl] at earned
  rw [← earned, CompositionInput.providedBy_eq parts]
  exact ⟨fun kept ⟨verdict, listed, same, ok⟩ => kept verdict listed same ok,
    fun kept verdict listed same ok => kept ⟨verdict, listed, same, ok⟩⟩

/-- Nine units of internal capacity in the domain of a rack, and a floor under them in
some domain. -/
def CompositionInput.floored (domain : FailureDomainId) : CompositionInput :=
  .zoned none (.sample [] [⟨.rack, ascii "rack-2"⟩])
    [.sample .minInternalCapacity (some domain) 9]

theorem floor_over_its_rack_is_measured :
    ∃ expectation site, compose (.floored ⟨ascii "fd-a"⟩) = .composed site ∧
      (∃ verdict ∈ site.obligations, verdict.status = .ok) ∧
      ∀ verdict ∈ site.obligations, verdict.id = ⟨ascii "obligation-1"⟩ → verdict.status = .ok →
        9 ≤ site.providedBy ((CompositionInput.floored ⟨ascii "fd-a"⟩).resources expectation)
          .internal ((CompositionInput.floored ⟨ascii "fd-a"⟩).ObligationScope
            (.sample .minInternalCapacity (some ⟨ascii "fd-a"⟩) 9)) := by
  obtain ⟨site, composed, test⟩ := CompositionInput.composed_of_sealed
    (show (composeSealed (.floored ⟨ascii "fd-a"⟩)).passes (fun site => decide
      (site.attributes (.obligation ⟨ascii "obligation-1"⟩) = true ∧
        site.capacity.available.internal = .ofBps 9 ∧
        (∃ verdict ∈ site.obligations, verdict.status = .ok) ∧
        (∀ entry ∈ site.capacity.entries, entry.owner = ⟨.rack, ascii "rack-1"⟩) ∧
        ∃ node ∈ site.failureDomains.nodes, node.id = ⟨ascii "fd-a"⟩ ∧
          node.members = [⟨.rack, ascii "rack-1"⟩])) = true by decide +kernel) .sample
  obtain ⟨attributed, nine, kept, owners, node, listed, named, members⟩ := of_decide_eq_true test
  obtain ⟨expectation, parts⟩ := CompositionInput.compose_composes composed
  have stands : (CompositionInput.floored ⟨ascii "fd-a"⟩).Stands node :=
    CompositionInput.zoned_node parts listed
  have inForce := CompositionInput.zoned_inForce stands
  refine ⟨expectation, site, composed, kept, (scoped_floors_are_measured_in_scope_iff
    parts.prepared composed inForce attributed (by decide)).mpr fun _ => ?_⟩
  have inside : (CompositionInput.floored ⟨ascii "fd-a"⟩).ObligationScope
      (.sample .minInternalCapacity (some ⟨ascii "fd-a"⟩) 9) ⟨.rack, ascii "rack-1"⟩ := by
    refine .inr ⟨_, rfl, node.id, ?_, named ▸ .refl⟩
    rw [← stands.members, members]
    exact List.mem_singleton_self _
  have balanced := parts.balanced.channels .internal
  have free := balanced.available_bps (balanced.available_known.mp (by
    change site.capacity.available.internal.known = true
    rw [nine]
    rfl))
  change site.capacity.available.internal.bps.toNat = _ at free
  rw [nine] at free
  rw [← CompositionInput.providedBy_eq parts, ComposedSite.providedBy]
  refine (le_of_eq free).trans (le_of_eq ?_)
  refine congrArg (fun entries => exactSum (List.map _ entries)) (List.filter_congr ?_)
  intro entry fed
  rw [owners entry (List.mem_filter.mp fed).1]
  simp only [inside, decide_true, Bool.and_true]

/-- The floor is kept in a domain where nothing has any capacity. -/
theorem floor_over_nothing_is_kept :
    ∃ id o expectation site, (CompositionInput.floored ⟨ascii "fd-b"⟩).prepare = .ok expectation ∧
      compose (.floored ⟨ascii "fd-b"⟩) = .composed site ∧
      (CompositionInput.floored ⟨ascii "fd-b"⟩).inForce id = some o ∧
      site.attributes (.obligation id) = true ∧ o.kind.channel ≠ .unknown ∧
      ∃ verdict ∈ site.obligations, verdict.id = id ∧ verdict.status = .ok ∧
        ¬ o.required.toNat ≤ site.providedBy
          ((CompositionInput.floored ⟨ascii "fd-b"⟩).resources expectation) o.kind.channel
          ((CompositionInput.floored ⟨ascii "fd-b"⟩).ObligationScope o) := by
  obtain ⟨site, composed, test⟩ := CompositionInput.composed_of_sealed
    (show (composeSealed (.floored ⟨ascii "fd-b"⟩)).passes (fun site => decide
      (site.attributes (.obligation ⟨ascii "obligation-1"⟩) = true ∧
        (∃ verdict ∈ site.obligations, verdict.id = ⟨ascii "obligation-1"⟩ ∧
          verdict.status = .ok) ∧
        (∃ node ∈ site.failureDomains.nodes, node.id = ⟨ascii "fd-a"⟩) ∧
        ∀ node ∈ site.failureDomains.nodes, node.id ≠ ⟨ascii "fd-b"⟩ ∧ node.parent = none)) =
      true by decide +kernel) .sample
  obtain ⟨attributed, ⟨verdict, voted, named, kept⟩, ⟨node, listed, -⟩, alone⟩ :=
    of_decide_eq_true test
  obtain ⟨expectation, parts⟩ := CompositionInput.compose_composes composed
  have inForce := CompositionInput.zoned_inForce (CompositionInput.zoned_node parts listed)
  refine ⟨_, _, expectation, site, parts.prepared, composed, inForce, attributed, by decide,
    verdict, voted, named, kept, ?_⟩
  have outside : ∀ key, ¬ (CompositionInput.floored ⟨ascii "fd-b"⟩).ObligationScope
      (.sample .minInternalCapacity (some ⟨ascii "fd-b"⟩) 9) key := by
    rintro key (single | ⟨domain, limited, id, member, up⟩)
    · cases single
    · cases limited
      obtain ⟨node, among, rfl⟩ := CompositionInput.forest_of_names expectation
        (CompositionInput.names_of_member member)
      rw [← parts.failureDomains] at among
      obtain ⟨other, root⟩ := alone node among
      rcases up.cases_head with same | ⟨parent, declared, -⟩
      · exact other same
      · rw [(CompositionInput.zoned_node parts among).parent] at root
        exact Option.some_ne_none _ (declared.symm.trans root)
  have none : site.providedBy ((CompositionInput.floored ⟨ascii "fd-b"⟩).resources expectation)
      .internal ((CompositionInput.floored ⟨ascii "fd-b"⟩).ObligationScope
        (.sample .minInternalCapacity (some ⟨ascii "fd-b"⟩) 9)) = 0 := by
    rw [ComposedSite.providedBy, List.filter_eq_nil_iff.mpr]
    · rfl
    · intro entry _
      simp [outside]
  change ¬ 9 ≤ site.providedBy _ .internal _
  rw [none]
  decide

namespace CompositionInput

section Counts

variable [StdSort] (input : CompositionInput) (expectation : SiteExpectation)

/-- A resource is attributed, and no zone in force holds it out. -/
def Serves (key : ResourceKey) : Prop :=
  input.Settled expectation key ∧ ¬ input.Covers expectation key

/-- A resource is in the scope of an obligation, which is the site when none is given. -/
def InScope (o : ProtectedObligation) (key : ResourceKey) : Prop :=
  (o.scopeDomain = none ∧ o.scopeResource = none) ∨ input.ObligationScope o key

/-- A failure domain is in the scope of an obligation: in or below its domain, or a domain
of its resource. -/
def DomainInScope (o : ProtectedObligation) (id : FailureDomainId) : Prop :=
  (o.scopeDomain = none ∧ o.scopeResource = none) ∨
    (∃ resource, o.scopeResource = some resource ∧ resource ∈ input.nodeMembers id) ∨
      ∃ domain, o.scopeDomain = some domain ∧ ReflTransGen (Declares input.parentOf) id domain

/-- A witness of a counted floor: a link or gateway that serves and is up, or a domain that
lists a resource that serves. -/
def Earns (serves : ResourceKey → Prop) (o : ProtectedObligation) (key : ResourceKey) : Prop :=
  match o.kind.wanted with
  | some wanted => key.kind = wanted ∧ (input.slotsOn key).stateOf wanted = some .up ∧
      serves key ∧ input.InScope o key
  | none => ∃ id, key = .failureDomain id ∧ input.DomainInScope o id ∧
      ∃ member ∈ input.nodeMembers id, serves member

variable {input expectation}

theorem Counts.encard {o : ProtectedObligation} {seen : Observation} {keys : List ResourceKey}
    (counts : Counts input expectation o seen keys) :
    {key | input.CountsFor expectation o key}.encard = seen.observed := by
  have listed : {key | input.CountsFor expectation o key} = (keys.toFinset : Set ResourceKey) := by
    ext key
    rw [List.coe_toFinset]
    exact (counts.counted key).symm
  rw [listed, Set.encard_coe_eq_coe_finsetCard, List.toFinset_card_of_nodup counts.once,
    counts.observed]

variable {site : ComposedSite} {id : ObligationId} {o : ProtectedObligation}

/-- A counted floor is met when enough is counted. -/
theorem meets_count_iff (parts : input.Composes expectation site)
    (inForce : input.inForce id = some o) (settled : input.Settled expectation (.obligation id))
    (count : o.kind.isCount = true) :
    input.Meets expectation o ↔
      (o.required.toNat : ℕ∞) ≤ {key | input.CountsFor expectation o key}.encard := by
  have few := (prepare_ok parts.prepared).1
  obtain ⟨record, found⟩ := record_of_claimed expectation settled.named
  have slot : record.obligation = some o := by
    rw [resources_slot_eq ResourceRecord.obligationSlot found]
    exact inForce
  obtain ⟨verdicts, voted, -⟩ := parts.obligations
  have among : (record, o) ∈ obligationRecords (input.resources expectation) :=
    List.mem_filterMap.mpr ⟨(.obligation id, record), mem_toList_iff.mpr found, by
      simp [slot, ResourceKey.obligation]⟩
  obtain ⟨verdict, -, answered⟩ := mapM_yields voted among
  unfold verdictFor at answered
  dsimp only at answered
  rw [if_neg (not_not_intro ((resources_ok_iff_settled few found).mpr settled)),
    if_pos count] at answered
  obtain ⟨seen, counted, -⟩ := Option.map_eq_some_iff.mp answered
  obtain ⟨keys, counts⟩ := countFor_counts few count counted
  rw [Meets, ProtectedObligation.MetBy, if_pos count, counted, counts.encard, Nat.cast_le]
  simp

theorem earns_iff (parts : input.Composes expectation site) (key : ResourceKey) :
    input.Earns (fun key => site.attributes key = true ∧ site.holdsOut key = false) o key ↔
      input.Earns (input.Serves expectation) o key := by
  have serves : (fun key => site.attributes key = true ∧ site.holdsOut key = false) =
      input.Serves expectation := by
    funext key
    rw [Serves, parts.attributes_settled, ← holdsOut_covers parts, Bool.not_eq_true]
  rw [serves]

end Counts

end CompositionInput

/-- Counted floors are earned if and only if what is counted for one is enough only where
its witnesses are. -/
theorem counted_floors_are_earned_iff [StdSort] {input : CompositionInput}
    {expectation : SiteExpectation} {site : ComposedSite} {id : ObligationId}
    {o : ProtectedObligation} (prepared : input.prepare = .ok expectation)
    (composed : compose input = .composed site) (inForce : input.inForce id = some o)
    (attributed : site.attributes (.obligation id) = true) (count : o.kind.isCount = true) :
    (∀ verdict ∈ site.obligations, verdict.id = id → verdict.status = .ok →
      (o.required.toNat : ℕ∞) ≤ {key | input.Earns (fun key => site.attributes key = true ∧
        site.holdsOut key = false) o key}.encard) ↔
      ((o.required.toNat : ℕ∞) ≤ {key | input.CountsFor expectation o key}.encard →
        (o.required.toNat : ℕ∞) ≤ {key | input.Earns (input.Serves expectation) o key}.encard) := by
  obtain ⟨expectation', parts⟩ := CompositionInput.compose_composes composed
  obtain rfl : expectation = expectation' := Except.ok.inj (prepared.symm.trans parts.prepared)
  have settled := (parts.attributes_settled _).mp attributed
  have earned := CompositionInput.verdict_ok_iff parts inForce
  rw [and_iff_right settled, CompositionInput.meets_count_iff parts inForce settled count] at earned
  rw [← earned]
  simp only [CompositionInput.earns_iff parts]
  exact ⟨fun kept ⟨verdict, listed, same, ok⟩ => kept verdict listed same ok,
    fun kept verdict listed same ok => kept ⟨verdict, listed, same, ok⟩⟩

/-- A rack in a domain, with a zone over some resources and a floor of one domain. -/
def CompositionInput.counted (domains : List FailureDomainId) (resources : List ResourceKey) :
    CompositionInput :=
  .zoned none (.sample domains resources) [.sample .minDistinctFailureDomains none 1]

theorem domain_with_its_rack_is_earned :
    ∃ site, compose (.counted [] [⟨.rack, ascii "rack-2"⟩]) = .composed site ∧
      (∃ verdict ∈ site.obligations, verdict.status = .ok) ∧
      ∀ verdict ∈ site.obligations, verdict.id = ⟨ascii "obligation-1"⟩ → verdict.status = .ok →
        1 ≤ {key | (CompositionInput.counted [] [⟨.rack, ascii "rack-2"⟩]).Earns
          (fun key => site.attributes key = true ∧ site.holdsOut key = false)
          (.sample .minDistinctFailureDomains none 1) key}.encard := by
  obtain ⟨site, composed, test⟩ := CompositionInput.composed_of_sealed
    (show (composeSealed (.counted [] [⟨.rack, ascii "rack-2"⟩])).passes (fun site => decide
      (site.attributes (.obligation ⟨ascii "obligation-1"⟩) = true ∧
        (∃ verdict ∈ site.obligations, verdict.status = .ok) ∧
        ∃ node ∈ site.failureDomains.nodes, ∃ member ∈ node.members,
          site.attributes member = true ∧ site.holdsOut member = false)) = true by decide +kernel)
    .sample
  obtain ⟨attributed, kept, node, listed, member, held, serves⟩ := of_decide_eq_true test
  obtain ⟨expectation, parts⟩ := CompositionInput.compose_composes composed
  have stands : (CompositionInput.counted [] [⟨.rack, ascii "rack-2"⟩]).Stands node :=
    CompositionInput.zoned_node parts listed
  have inForce := CompositionInput.zoned_inForce stands
  have earns : (CompositionInput.counted [] [⟨.rack, ascii "rack-2"⟩]).Earns
      (fun key => site.attributes key = true ∧ site.holdsOut key = false)
      (.sample .minDistinctFailureDomains none 1) (.failureDomain node.id) :=
    ⟨node.id, rfl, .inl ⟨rfl, rfl⟩, member, stands.members ▸ held, serves⟩
  refine ⟨site, composed, kept, (counted_floors_are_earned_iff parts.prepared composed inForce
    attributed (by decide)).mpr fun _ => ?_⟩
  exact Set.one_le_encard_iff_nonempty.mpr ⟨_, (CompositionInput.earns_iff parts _).mp earns⟩

/-- The floor is kept by a domain whose only rack is held out. -/
theorem held_out_domain_keeps_a_floor :
    ∃ id o expectation site, (CompositionInput.counted [⟨ascii "fd-a"⟩] []).prepare =
        .ok expectation ∧
      compose (.counted [⟨ascii "fd-a"⟩] []) = .composed site ∧
      (CompositionInput.counted [⟨ascii "fd-a"⟩] []).inForce id = some o ∧
      site.attributes (.obligation id) = true ∧ o.kind.isCount = true ∧
      ∃ verdict ∈ site.obligations, verdict.id = id ∧ verdict.status = .ok ∧
        ¬ (o.required.toNat : ℕ∞) ≤ {key | (CompositionInput.counted [⟨ascii "fd-a"⟩] []).Earns
          (fun key => site.attributes key = true ∧ site.holdsOut key = false) o key}.encard := by
  obtain ⟨site, composed, test⟩ := CompositionInput.composed_of_sealed
    (show (composeSealed (.counted [⟨ascii "fd-a"⟩] [])).passes (fun site => decide
      (site.attributes (.obligation ⟨ascii "obligation-1"⟩) = true ∧
        (∃ verdict ∈ site.obligations, verdict.id = ⟨ascii "obligation-1"⟩ ∧
          verdict.status = .ok) ∧
        (∃ node ∈ site.failureDomains.nodes, node.id = ⟨ascii "fd-a"⟩) ∧
        ∀ node ∈ site.failureDomains.nodes, ∀ member ∈ node.members,
          site.holdsOut member = true)) = true by decide +kernel) .sample
  obtain ⟨attributed, ⟨verdict, voted, named, kept⟩, ⟨node, listed, -⟩, out⟩ :=
    of_decide_eq_true test
  obtain ⟨expectation, parts⟩ := CompositionInput.compose_composes composed
  have inForce := CompositionInput.zoned_inForce (CompositionInput.zoned_node parts listed)
  refine ⟨_, _, expectation, site, parts.prepared, composed, inForce, attributed, by decide,
    verdict, voted, named, kept, ?_⟩
  have none : ∀ key, ¬ (CompositionInput.counted [⟨ascii "fd-a"⟩] []).Earns
      (fun key => site.attributes key = true ∧ site.holdsOut key = false)
      (.sample .minDistinctFailureDomains none 1) key := by
    rintro key ⟨id, -, -, member, held, -, free⟩
    obtain ⟨node, among, rfl⟩ := CompositionInput.forest_of_names expectation
      (CompositionInput.names_of_member held)
    rw [← parts.failureDomains] at among
    have stands : (CompositionInput.counted [⟨ascii "fd-a"⟩] []).Stands node :=
      CompositionInput.zoned_node parts among
    rw [← stands.members] at held
    rw [out node among member held] at free
    cases free
  change ¬ (1 : ℕ∞) ≤ _
  rw [Set.one_le_encard_iff_nonempty]
  rintro ⟨key, earns⟩
  exact none key earns

end SiteFabric
