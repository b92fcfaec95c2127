import SiteFabric.Compose.Decisions
import SiteFabric.Compose.Closing

/-! Whether the ledger explains its total.
The total sums every entry whose resource is attributed and feeds a channel. An entry
is flagged as counted only when, besides, no zone in force covers its resource; the
sources of the decision on the total are read off the flags. -/

namespace SiteFabric

open Lib

namespace ComposedSite

/-- The flagged entries that feed a channel. -/
def flagged (site : ComposedSite) (resources : Resources) (c : CapacityChannel) :
    List CapacityLedgerEntry :=
  site.capacity.entries.filter fun entry =>
    entry.countedInTotal && (entry.mask resources).feeds c

/-- The flags, the sums and the sources agree on which entries make up the total. -/
structure ExplainsTotal (site : ComposedSite) (resources : Resources) : Prop where
  flags : ∀ entry ∈ site.capacity.entries,
    entry.countedInTotal = true ↔ ∃ c, entry ∈ site.fedBy resources c
  sums : ∀ c, (site.capacity.total.channel c).known = true →
    (site.capacity.total.channel c).bps.toNat =
      exactSum ((site.flagged resources c).map (·.capacity.channel c))
  sources : ∀ decision ∈ site.decisions, decision.id.kind = .capacityTotal →
    ∀ source, source ∈ decision.sources.items ↔
      ∃ c, ∃ entry ∈ site.fedBy resources c, source ∈ entry.attestors.items

end ComposedSite

theorem ledgerEntry_flag (excluded : List ResourceKey) (build : LedgerBuild) :
    (ledgerEntry excluded build).countedInTotal =
      (build.counted && !excluded.contains build.owner) := by
  unfold ledgerEntry
  dsimp only
  cases build.counted <;> cases excluded.contains build.owner <;> rfl

/-- A counted build feeds some channel. -/
theorem feeds_of_counted {key : ResourceKey} {record : ResourceRecord} {offer : Offer}
    (counted : (ledgerBuild key record offer).counted = true) :
    ∃ c, offer.mask.feeds c = true := by
  unfold ledgerBuild at counted
  dsimp only at counted
  split at counted
  · cases counted
  split at counted
  · cases counted
  next some =>
  cases ingress : offer.mask.ingress with
  | true => exact ⟨.ingress, ingress⟩
  | false =>
    cases egress : offer.mask.egress with
    | true => exact ⟨.egress, egress⟩
    | false =>
      have internal : offer.mask.internal = true := by simpa [ingress, egress] using some
      exact ⟨.internal, internal⟩

namespace CompositionInput

variable [StdSort] {input : CompositionInput} {expectation : SiteExpectation} {site : ComposedSite}

/-- What the total sums is what some channel of it is fed by. -/
theorem counted_feeds {build : LedgerBuild} (member : build ∈ input.builds expectation)
    (counted : build.counted = true) : ∃ c, build.mask.feeds c = true ∧
      input.Feeds expectation c build.owner := by
  obtain ⟨key, record, offer, found, offered, rfl⟩ := mem_collectLedgerBuilds.mp member
  obtain ⟨owner, -, mask, -⟩ := ledgerBuild_frame key record offer
  obtain ⟨c, feeds⟩ := feeds_of_counted counted
  rw [ledgerBuild_counted key record feeds, decide_eq_true_eq] at counted
  rw [owner, mask]
  exact ⟨c, feeds, record, offer, found, counted, offered, feeds⟩

theorem build_of_feeds {c : CapacityChannel} {key : ResourceKey}
    (fed : input.Feeds expectation c key) :
    ∃ build ∈ input.builds expectation, build.owner = key ∧ build.counted = true := by
  obtain ⟨record, offer, found, ok, offered, feeds⟩ := fed
  refine ⟨_, mem_collectLedgerBuilds.mpr ⟨key, record, offer, found, offered, rfl⟩,
    (ledgerBuild_frame key record offer).1, ?_⟩
  rw [ledgerBuild_counted key record feeds, decide_eq_true_eq]
  exact ok

/-- An entry is flagged when it is summed and no zone in force covers it. -/
theorem flag_iff {build : LedgerBuild} :
    (ledgerEntry (excludedKeys (input.effects expectation)) build).countedInTotal = true ↔
      build.counted = true ∧ ¬ input.Covers expectation build.owner := by
  rw [ledgerEntry_flag, Bool.and_eq_true, Bool.not_eq_true', ← Bool.not_eq_true,
    input.excludedKeys_covers]

namespace Composes

variable (parts : input.Composes expectation site)

include parts

theorem mem_fedBy {c : CapacityChannel} {entry : CapacityLedgerEntry} :
    entry ∈ site.fedBy (input.resources expectation) c ↔
      ∃ build ∈ input.builds expectation, build.counted = true ∧ build.mask.feeds c = true ∧
        ledgerEntry (excludedKeys (input.effects expectation)) build = entry := by
  rw [ComposedSite.fedBy, List.mem_filter, parts.entries, List.mem_map]
  constructor
  · rintro ⟨⟨build, member, rfl⟩, fed⟩
    rw [feeds_counted parts.ownership c member, Bool.and_eq_true] at fed
    exact ⟨build, member, fed.2, fed.1, rfl⟩
  · rintro ⟨build, member, counted, feeds, rfl⟩
    refine ⟨⟨build, member, rfl⟩, ?_⟩
    rw [feeds_counted parts.ownership c member, counted, feeds]
    rfl

/-- With nothing covered that is summed, the flagged entries of a channel are those it
is fed by. -/
theorem flagged_eq (bare : ∀ c key, input.Feeds expectation c key → ¬ input.Covers expectation key)
    (c : CapacityChannel) :
    site.flagged (input.resources expectation) c = site.fedBy (input.resources expectation) c := by
  refine List.filter_congr fun entry listed => ?_
  rw [parts.entries, List.mem_map] at listed
  obtain ⟨build, member, rfl⟩ := listed
  rw [feeds_counted parts.ownership c member, ledgerEntry_mask member, Bool.eq_iff_iff,
    Bool.and_eq_true, Bool.and_eq_true, flag_iff, and_comm]
  refine and_congr_right fun _ => ⟨And.left, fun counted => ⟨counted, ?_⟩⟩
  obtain ⟨c', -, fed⟩ := counted_feeds member counted
  exact bare c' _ fed

end Composes

/-- The decision on the total rests on the sources of the flagged entries. -/
theorem total_sources (prepared : input.prepare = .ok expectation)
    (composed : compose input = .composed site) {decision : SiteDecision}
    (recorded : decision ∈ site.decisions) (total : decision.id.kind = .capacityTotal) :
    decision.sources = site.capacitySources := by
  obtain ⟨_, sorted, filled⟩ := composed_filled prepared composed
  rw [sorted, mem_sort, filled] at recorded
  have drawn := List.mem_of_mem_take recorded
  simp only [ComposedSite.plan, ComposedSite.directPlan, ComposedSite.summaryPlan,
    ComposedSite.derivedPlan, List.mem_append, List.mem_cons, List.mem_map, List.not_mem_nil,
    or_false] at drawn
  rcases drawn with ((((rfl | rfl) | ⟨attribution, _, rfl⟩) |
    rfl | rfl | rfl | rfl | rfl | rfl) | ⟨effect, _, rfl⟩ | ⟨verdict, _, rfl⟩) | rfl
  all_goals first | rfl | cases total

end CompositionInput

/-- The ledger explains its total exactly when no zone in force covers what it sums. -/
theorem total_is_explained_iff [StdSort] {input : CompositionInput} {expectation : SiteExpectation}
    {site : ComposedSite} (prepared : input.prepare = .ok expectation)
    (composed : compose input = .composed site) :
    site.ExplainsTotal (input.resources expectation) ↔
      ∀ c key, input.Feeds expectation c key → ¬ input.Covers expectation key := by
  obtain ⟨expectation', parts⟩ := CompositionInput.compose_composes composed
  obtain rfl : expectation = expectation' := Except.ok.inj (prepared.symm.trans parts.prepared)
  constructor
  · intro explained c key fed
    obtain ⟨build, member, rfl, counted⟩ := CompositionInput.build_of_feeds fed
    obtain ⟨c', feeds, -⟩ := CompositionInput.counted_feeds member counted
    have summed := parts.mem_fedBy.mpr ⟨build, member, counted, feeds, rfl⟩
    have flag := (explained.flags _ (List.mem_filter.mp summed).1).mpr ⟨c', summed⟩
    exact (CompositionInput.flag_iff.mp flag).2
  · intro bare
    have flags : ∀ entry ∈ site.capacity.entries,
        entry.countedInTotal = true ↔ ∃ c, entry ∈ site.fedBy (input.resources expectation) c := by
      intro entry listed
      rw [parts.entries, List.mem_map] at listed
      obtain ⟨build, member, rfl⟩ := listed
      constructor
      · intro flag
        obtain ⟨counted, -⟩ := CompositionInput.flag_iff.mp flag
        obtain ⟨c, feeds, -⟩ := CompositionInput.counted_feeds member counted
        exact ⟨c, parts.mem_fedBy.mpr ⟨build, member, counted, feeds, rfl⟩⟩
      · rintro ⟨c, fed⟩
        rw [ComposedSite.fedBy, List.mem_filter, feeds_counted parts.ownership c member,
          Bool.and_eq_true] at fed
        obtain ⟨c', -, feeds⟩ := CompositionInput.counted_feeds member fed.2.2
        exact CompositionInput.flag_iff.mpr ⟨fed.2.2, bare c' _ feeds⟩
    refine ⟨flags, fun c known => ?_, fun decision recorded total source => ?_⟩
    · rw [parts.flagged_eq bare c]
      exact (parts.balanced.channels c).total_bps known
    · rw [CompositionInput.total_sources prepared composed recorded total,
        (CompositionInput.mem_capacitySources parts).2]
      constructor
      · rintro ⟨entry, listed, flag, stands⟩
        obtain ⟨c, fed⟩ := (flags entry listed).mp flag
        exact ⟨c, entry, fed, stands⟩
      · rintro ⟨c, entry, fed, stands⟩
        have listed := (List.mem_filter.mp fed).1
        exact ⟨entry, listed, (flags entry listed).mpr ⟨c, fed⟩, stands⟩

/-- A rack with an external link and no zone. -/
theorem uplinked_total_is_explained :
    ∃ site expectation,
      compose (CompositionInput.sample [.uplinked [.sample (ascii "link-1") 5]]) =
        .composed site ∧
      site.capacity.total.ingress = .ofBps 5 ∧
      site.ExplainsTotal ((CompositionInput.sample
        [.uplinked [.sample (ascii "link-1") 5]]).resources expectation) := by
  obtain ⟨site, composed, test⟩ := CompositionInput.composed_of_sealed
    (show (composeSealed (CompositionInput.sample [.uplinked [.sample (ascii "link-1") 5]])).passes
      (fun site => decide (site.capacity.total.ingress = .ofBps 5) &&
        (CompositionInput.sample [.uplinked [.sample (ascii "link-1") 5]]).prepare.toOption.all
          fun expectation => (zoneRecords ((CompositionInput.sample
            [.uplinked [.sample (ascii "link-1") 5]]).foldedResources expectation)).isEmpty) =
      true by decide +kernel) .sample
  obtain ⟨expectation, parts⟩ := CompositionInput.compose_composes composed
  rw [parts.prepared, Except.toOption, Option.all_some, Bool.and_eq_true,
    CompositionInput.Sealed.sample.foldedResources_eq, List.isEmpty_iff] at test
  obtain ⟨total, none⟩ := test
  refine ⟨site, expectation, composed, of_decide_eq_true total,
    (total_is_explained_iff parts.prepared composed).mpr fun c key _ covered => ?_⟩
  obtain ⟨record, zone, listed, -⟩ := covered
  rw [none] at listed
  cases listed

/-- The total counts both links and the flags count one. -/
theorem serviced_total_is_unexplained :
    ∃ site expectation, compose (CompositionInput.sample [.serviced]) = .composed site ∧
      (CompositionInput.sample [.serviced]).prepare = .ok expectation ∧
      site.capacity.total.ingress = .ofBps 12 ∧
      exactSum ((site.flagged ((CompositionInput.sample [.serviced]).resources expectation)
        .ingress).map (·.capacity.ingress)) = 5 ∧
      ¬ site.ExplainsTotal ((CompositionInput.sample [.serviced]).resources expectation) := by
  obtain ⟨site, composed, test⟩ := CompositionInput.composed_of_sealed
    (show (composeSealed (CompositionInput.sample [.serviced])).passes (fun site =>
      decide (site.capacity.total.ingress = .ofBps 12) &&
        (CompositionInput.sample [.serviced]).prepare.toOption.all fun expectation =>
          decide (exactSum ((site.flagged
            ((CompositionInput.sample [.serviced]).foldedResources expectation)
              .ingress).map (·.capacity.ingress)) = 5)) = true by decide +kernel) .sample
  obtain ⟨expectation, parts⟩ := CompositionInput.compose_composes composed
  rw [parts.prepared, Except.toOption, Option.all_some, Bool.and_eq_true,
    CompositionInput.Sealed.sample.foldedResources_eq, decide_eq_true_eq, decide_eq_true_eq] at test
  obtain ⟨total, flagged⟩ := test
  refine ⟨site, expectation, composed, parts.prepared, total, flagged, fun explained => ?_⟩
  have sum := explained.sums .ingress (by rw [CapacityVector.channel, total]; rfl)
  rw [CapacityVector.channel, total] at sum
  exact absurd (sum.trans flagged) (by decide)

end SiteFabric
