import SiteFabric.Compose.Accounts
import SiteFabric.Compose.Sealed

/-! When the ledger closes.
What is available is computed by subtraction and summed again over the entries
maintenance leaves. While nothing overflows only that comparison can fail, and it
fails on a channel that is wholly held out: over no entry the sum is unknown,
where the subtraction leaves a known zero. -/

namespace SiteFabric

open Lib
open Std (ExtTreeMap)

def Aggregates.overflowed (a : Aggregates) : Bool :=
  a.total.overflowed || a.excluded.overflowed || a.available.overflowed ||
    a.indeterminate.overflowed

section Checks

/-- Recombining starts from unknown channels and stays there. -/
theorem addCapacity_unknown (v : CapacityVector) : addCapacity {} v = .ok {} := by
  have each : ∀ value, addChannelKnown {} value = .ok {} := by
    intro value
    rw [addChannelKnown, Bool.not_false, Bool.or_true, if_pos rfl]
    rfl
  rw [addCapacity, each, each, each]
  rfl

theorem channelLeq_of_le {part whole : CapacityValue}
    (less : whole.known = true → part.bps.toNat ≤ whole.bps.toNat) :
    channelLeq part whole = true := by
  unfold channelLeq
  cases known : whole.known with
  | false => simp
  | true =>
    have bounded : ¬ part.bps > whole.bps := by
      rw [gt_iff_lt, UInt64.lt_iff_toNat_lt]
      exact Nat.not_lt.mpr (less known)
    simp [bounded]

theorem capacityLeq_of_channels {part whole : CapacityVector}
    (each : ∀ c, channelLeq (part.channel c) (whole.channel c) = true) :
    capacityLeq part whole = true := by
  rw [capacityLeq, Bool.and_eq_true, Bool.and_eq_true]
  exact ⟨⟨each .ingress, each .egress⟩, each .internal⟩

/-- Where nothing overflows and both parts are within the total, the checks come
down to the second sum. -/
theorem closingChecks_iff {a : Aggregates} {total excluded available : CapacityVector}
    (within : a.overflowed = false) (held : capacityLeq excluded total = true)
    (left : capacityLeq available total = true) :
    (closingChecks a total excluded (.ok available) available).1 = true ↔
      ∀ c, disagrees (a.available.total.channel c) (available.channel c) = false := by
  have flags : (a.total.overflowed || a.excluded.overflowed || a.available.overflowed ||
      a.indeterminate.overflowed) = false := within
  have recombined : (addCapacity {} available >>= fun recombined =>
      addCapacity recombined excluded) = .ok {} := by
    rw [addCapacity_unknown]
    exact addCapacity_unknown excluded
  simp only [closingChecks, flags, held, left, recombined]
  split
  · next wrong =>
    simp only [Bool.or_eq_true] at wrong
    constructor
    · intro never
      cases never
    · intro agrees
      have ingress := agrees .ingress
      have egress := agrees .egress
      have internal := agrees .internal
      simp only [CapacityVector.channel] at ingress egress internal
      simp only [ingress, egress, internal] at wrong
      simp at wrong
  · next right =>
    simp only [Bool.not_eq_true, Bool.or_eq_false_iff] at right
    refine ⟨fun _ c => ?_, fun _ => rfl⟩
    cases c with
    | unknown => rfl
    | ingress => exact right.1.1
    | egress => exact right.1.2
    | internal => exact right.2

/-- On a balanced channel of known values the two ways to what is available part
exactly where everything that feeds the channel is held out. -/
theorem disagrees_iff {total available excluded : CapacityValue} {fed held free : List CapacityValue}
    (balanced : Balanced total available excluded fed held free)
    (known : ∀ v ∈ fed, v.known = true) (within : exactSum fed ≤ Limits.maxCapacityBps.toNat)
    (inside : ∀ v ∈ free, v ∈ fed) (less : exactSum free ≤ exactSum fed) :
    disagrees (Tally.tallyOf free).value available = false ↔ (fed ≠ [] → free ≠ []) := by
  have reported : available.known = true ↔ fed ≠ [] := by
    rw [balanced.available_known, balanced.total_known]
    exact ⟨And.left, fun some => ⟨some, known, within⟩⟩
  have summed : (Tally.tallyOf free).value.known = true ↔ free ≠ [] := by
    rw [Tally.value_known, Tally.tallyOf_known_iff]
    exact ⟨And.left, fun some => ⟨some, fun v member => known v (inside v member), less.trans within⟩⟩
  by_cases some : free = []
  · subst some
    have unseen : (Tally.tallyOf []).value.known = false := rfl
    rw [disagrees, unseen, Bool.false_and, Bool.or_false]
    cases here : available.known with
    | false =>
      have none : ¬ fed ≠ [] := fun feeds => by
        rw [reported.mpr feeds] at here
        cases here
      exact ⟨fun _ feeds => absurd feeds none, fun _ => rfl⟩
    | true =>
      have feeds := reported.mp here
      exact ⟨fun never => (nomatch never), fun kept => absurd rfl (kept feeds)⟩
  · have feeds : fed ≠ [] := by
      obtain ⟨v, listed⟩ := List.exists_mem_of_ne_nil free some
      exact List.ne_nil_of_mem (inside v listed)
    have counted : (Tally.tallyOf free).known = true := by
      rw [← Tally.value_known]
      exact summed.mpr some
    have total_known : total.known = true := balanced.available_known.mp (reported.mpr feeds)
    have same : (Tally.tallyOf free).value.bps = available.bps := by
      apply UInt64.toNat_inj.mp
      rw [Tally.value_bps counted, Tally.tallyOf_sum_of_known counted,
        balanced.available_bps total_known]
    refine ⟨fun _ _ => some, fun _ => ?_⟩
    rw [disagrees, summed.mpr some, reported.mpr feeds, same]
    simp

end Checks

theorem CapacityAggregate.channel_overflow {a : CapacityAggregate} (none : a.overflowed = false)
    (c : CapacityChannel) : (a.channel c).overflow = false := by
  simp only [overflowed, Bool.or_eq_false_iff] at none
  cases c with
  | unknown => rfl
  | ingress => exact none.1.1
  | egress => exact none.1.2
  | internal => exact none.2

section Builds

variable (excluded : List ResourceKey) (builds : List LedgerBuild)

/-- What is available is a pass over the counted entries maintenance leaves. -/
theorem post_available :
    (builds.foldl (Aggregates.post excluded) {}).available =
      (builds.filter fun b => b.counted && !excluded.contains b.owner).foldl addAggregate {} := by
  rw [List.foldl_filter]
  refine (List.foldl_hom Aggregates.available fun a build => ?_).symm
  unfold Aggregates.post
  cases build.counted with
  | false => rfl
  | true => cases excluded.contains build.owner <;> rfl

/-- A ledger of known values that do not overflow closes exactly when no channel
is wholly held out. -/
theorem composeLedger_closes_iff
    (known : ∀ c, ∀ v ∈ channelValues c (builds.filter (·.counted)), v.known = true)
    (within : (builds.foldl (Aggregates.post excluded) {}).overflowed = false) :
    (composeLedger excluded builds).closesExactly = true ↔
      ∀ c, channelValues c (builds.filter (·.counted)) ≠ [] →
        channelValues c ((builds.filter (·.counted)).filter fun b => !excluded.contains b.owner) ≠
          [] := by
  obtain ⟨subtracts, balanced⟩ := composeLedger_balances excluded builds
  have total := post_total excluded builds
  have free := post_available excluded builds
  have parts : builds.filter (fun b => b.counted && !excluded.contains b.owner) =
      (builds.filter (·.counted)).filter fun b => !excluded.contains b.owner := by
    rw [List.filter_filter]
    exact List.filter_congr fun b _ => Bool.and_comm ..
  rw [parts] at free
  have held : capacityLeq (composeLedger excluded builds).excludedByMaintenance
      (composeLedger excluded builds).total = true :=
    capacityLeq_of_channels fun c => channelLeq_of_le fun counted => by
      have whole := (balanced c).recombines counted
      omega
  have left : capacityLeq (composeLedger excluded builds).available
      (composeLedger excluded builds).total = true :=
    capacityLeq_of_channels fun c => channelLeq_of_le fun counted => by
      have whole := (balanced c).recombines counted
      omega
  have closes : (composeLedger excluded builds).closesExactly =
      (closingChecks (builds.foldl (Aggregates.post excluded) {})
        (composeLedger excluded builds).total
        (composeLedger excluded builds).excludedByMaintenance
        (subtractCapacity (composeLedger excluded builds).total
          (composeLedger excluded builds).excludedByMaintenance)
        (composeLedger excluded builds).available).1 := rfl
  rw [closes, subtracts, closingChecks_iff within held left]
  refine forall_congr' fun c => ?_
  have sum : exactSum (channelValues c (builds.filter (·.counted))) ≤
      Limits.maxCapacityBps.toNat := by
    simp only [Aggregates.overflowed, Bool.or_eq_false_iff] at within
    have fits := CapacityAggregate.channel_overflow within.1.1.1 c
    rw [total, aggregate_channel, (Tally.tallyOf_holds _).overflow, decide_eq_false_iff_not] at fits
    exact Nat.not_lt.mp fits
  have split := exactSum_split c (builds.filter (·.counted)) fun b => excluded.contains b.owner
  rw [CapacityAggregate.total_channel, free, aggregate_channel]
  exact disagrees_iff (balanced c) (known c) sum (channelValues_filter c _ _) (by omega)

theorem channelValues_ne_nil {c : CapacityChannel} {builds : List LedgerBuild} :
    channelValues c builds ≠ [] ↔ ∃ b ∈ builds, b.mask.feeds c = true := by
  simp [channelValues]

end Builds

namespace CompositionInput

variable [StdSort] (input : CompositionInput) (expectation : SiteExpectation)

/-- An attributed resource whose scope feeds a channel. -/
def Feeds (c : CapacityChannel) (key : ResourceKey) : Prop :=
  ∃ record offer, (input.resources expectation)[key]? = some record ∧ record.status = .ok ∧
    record.offer = some offer ∧ offer.mask.feeds c = true

/-- The aggregates of the ledger. -/
def aggregates : Aggregates :=
  (input.builds expectation).foldl (Aggregates.post (excludedKeys (input.effects expectation))) {}

theorem exists_counted_iff (c : CapacityChannel) (p : ResourceKey → Bool) :
    (∃ b ∈ ((input.builds expectation).filter (·.counted)).filter (p ·.owner),
        b.mask.feeds c = true) ↔
      ∃ key, input.Feeds expectation c key ∧ p key = true := by
  simp only [List.mem_filter, builds, mem_collectLedgerBuilds]
  constructor
  · rintro ⟨_, ⟨⟨⟨key, record, offer, found, offered, rfl⟩, counted⟩, kept⟩, feeds⟩
    obtain ⟨owner, -, mask, -⟩ := ledgerBuild_frame key record offer
    rw [mask] at feeds
    rw [ledgerBuild_counted key record feeds, decide_eq_true_eq] at counted
    exact ⟨key, ⟨record, offer, found, counted, offered, feeds⟩, owner ▸ kept⟩
  · rintro ⟨key, ⟨record, offer, found, ok, offered, feeds⟩, kept⟩
    obtain ⟨owner, -, mask, -⟩ := ledgerBuild_frame key record offer
    refine ⟨_, ⟨⟨⟨key, record, offer, found, offered, rfl⟩, ?_⟩, owner.symm ▸ kept⟩, mask ▸ feeds⟩
    rw [ledgerBuild_counted key record feeds, decide_eq_true_eq]
    exact ok

end CompositionInput

/-- A composed ledger of known values that do not overflow closes exactly when
maintenance leaves something on every channel that an attributed resource feeds. -/
theorem ledger_closes_iff [StdSort] {input : CompositionInput} {expectation : SiteExpectation}
    {site : ComposedSite} (prepared : input.prepare = .ok expectation)
    (composed : compose input = .composed site)
    (known : ∀ c, ∀ entry ∈ site.fedBy (input.resources expectation) c,
      (entry.capacity.channel c).known = true)
    (within : (input.aggregates expectation).overflowed = false) :
    site.capacity.closesExactly = true ↔
      ∀ c key, input.Feeds expectation c key →
        ∃ key', input.Feeds expectation c key' ∧ ¬ input.Covers expectation key' := by
  obtain ⟨expectation', parts⟩ := CompositionInput.compose_composes composed
  obtain rfl : expectation = expectation' := Except.ok.inj (prepared.symm.trans parts.prepared)
  have entries : site.capacity.entries = (collectLedgerBuilds (input.resources expectation)).map
      (ledgerEntry (excludedKeys (input.effects expectation))) := by
    rw [parts.capacity]
    rfl
  have reported : ∀ c, ∀ v ∈ channelValues c ((input.builds expectation).filter (·.counted)),
      v.known = true := by
    intro c v listed
    have values := fedBy_values parts.ownership entries (fun _ => true) c
    simp only [List.filter_true] at values
    rw [CompositionInput.builds, ← values] at listed
    obtain ⟨entry, fed, rfl⟩ := List.mem_map.mp listed
    exact known c entry fed
  have all := input.exists_counted_iff expectation (p := fun _ => true)
  have free := input.exists_counted_iff expectation
    (p := fun key => !(excludedKeys (input.effects expectation)).contains key)
  simp only [List.filter_true, and_true] at all
  rw [parts.capacity, CompositionInput.ledger,
    composeLedger_closes_iff _ _ reported within]
  simp only [channelValues_ne_nil, all, free, Bool.not_eq_true', ← Bool.not_eq_true,
    input.excludedKeys_covers expectation]
  exact forall_congr' fun c => forall_exists_index

/-- Whether every entry that feeds a channel knows it. -/
def ComposedSite.reportsAll (site : ComposedSite) (resources : Resources) : Bool :=
  [CapacityChannel.ingress, .egress, .internal].all fun c =>
    (site.fedBy resources c).all fun entry => (entry.capacity.channel c).known

theorem ComposedSite.known_of_reportsAll {site : ComposedSite} {resources : Resources}
    (all : site.reportsAll resources = true) (c : CapacityChannel) :
    ∀ entry ∈ site.fedBy resources c, (entry.capacity.channel c).known = true := by
  intro entry fed
  rw [reportsAll, List.all_eq_true] at all
  cases c with
  | unknown =>
    have feeds := (List.mem_filter.mp fed).2
    rw [Bool.and_eq_true] at feeds
    cases feeds.2
  | _ => exact List.all_eq_true.mp (all _ (by simp)) entry fed

/-- Whether the amounts of a site overflow, over its resources. -/
def ComposedSite.overflows [StdSort] (site : ComposedSite) (resources : Resources) : Bool :=
  ((collectLedgerBuilds resources).foldl (Aggregates.post (excludedKeys site.maintenance))
    {}).overflowed

theorem CompositionInput.Composes.overflows [StdSort] {input : CompositionInput}
    {expectation : SiteExpectation} {site : ComposedSite} (parts : input.Composes expectation site) :
    site.overflows (input.resources expectation) = (input.aggregates expectation).overflowed := by
  rw [ComposedSite.overflows, parts.maintenance]
  rfl

/-- One of two links is in an active zone and the ledger closes. -/
theorem serviced_ledger_closes :
    ∃ site expectation, compose (CompositionInput.sample [.serviced]) = .composed site ∧
      (CompositionInput.sample [.serviced]).prepare = .ok expectation ∧
      site.capacity.closesExactly = true ∧
      ∀ c key, (CompositionInput.sample [.serviced]).Feeds expectation c key →
        ∃ key', (CompositionInput.sample [.serviced]).Feeds expectation c key' ∧
          ¬ (CompositionInput.sample [.serviced]).Covers expectation key' := by
  obtain ⟨site, composed, test⟩ := CompositionInput.composed_of_sealed
    (show (composeSealed (CompositionInput.sample [.serviced])).passes (fun site =>
      site.capacity.closesExactly &&
        (CompositionInput.sample [.serviced]).prepare.toOption.all fun expectation =>
          site.reportsAll ((CompositionInput.sample [.serviced]).foldedResources expectation) &&
            !site.overflows ((CompositionInput.sample [.serviced]).foldedResources expectation)) =
      true by decide +kernel) .sample
  obtain ⟨expectation, parts⟩ := CompositionInput.compose_composes composed
  rw [parts.prepared, Except.toOption, Option.all_some, Bool.and_eq_true, Bool.and_eq_true,
    CompositionInput.Sealed.sample.foldedResources_eq, parts.overflows, Bool.not_eq_true'] at test
  obtain ⟨closes, all, within⟩ := test
  exact ⟨site, expectation, composed, parts.prepared, closes,
    (ledger_closes_iff parts.prepared composed (ComposedSite.known_of_reportsAll all) within).mp
      closes⟩

/-- The only link of a site is in an active zone. -/
def MemberDomainDeclaration.drained : MemberDomainDeclaration :=
  { MemberDomainDeclaration.serviced with
    sharedLinks := [.sample (ascii "link-2") 7] }

/-- All that feeds the site is held out, and the ledger does not close. -/
theorem drained_ledger_stays_open :
    ∃ site expectation, compose (CompositionInput.sample [.drained]) = .composed site ∧
      (CompositionInput.sample [.drained]).prepare = .ok expectation ∧
      (∀ c, ∀ entry ∈ site.fedBy ((CompositionInput.sample [.drained]).resources expectation) c,
        (entry.capacity.channel c).known = true) ∧
      ((CompositionInput.sample [.drained]).aggregates expectation).overflowed = false ∧
      site.capacity.closesExactly = false := by
  obtain ⟨site, composed, test⟩ := CompositionInput.composed_of_sealed
    (show (composeSealed (CompositionInput.sample [.drained])).passes (fun site =>
      !site.capacity.closesExactly &&
        (CompositionInput.sample [.drained]).prepare.toOption.all fun expectation =>
          site.reportsAll ((CompositionInput.sample [.drained]).foldedResources expectation) &&
            !site.overflows ((CompositionInput.sample [.drained]).foldedResources expectation)) =
      true by decide +kernel) .sample
  obtain ⟨expectation, parts⟩ := CompositionInput.compose_composes composed
  rw [parts.prepared, Except.toOption, Option.all_some, Bool.and_eq_true, Bool.and_eq_true,
    CompositionInput.Sealed.sample.foldedResources_eq, parts.overflows, Bool.not_eq_true',
    Bool.not_eq_true'] at test
  obtain ⟨stays, all, within⟩ := test
  exact ⟨site, expectation, composed, parts.prepared, ComposedSite.known_of_reportsAll all, within,
    stays⟩

end SiteFabric
