import SiteFabric.Compose.Favourable
import SiteFabric.Compose.Sealed

/-! Sites that are PARTITIONED.
The verdict asks that no required member has reported and that nothing else which has
is less than CURRENT. It does not ask that a member is required, or that nobody has
reported at all. -/

namespace SiteFabric

open Lib

theorem SiteFindings.partitioned_iff {f : SiteFindings} (quiet : f.conflict = false) :
    f.lifecycle = .partitioned ↔ f.allRequiredAbsent = true := by
  unfold SiteFindings.lifecycle
  rw [quiet]
  cases f.allRequiredAbsent <;> cases f.anyRequiredMissing <;> cases f.indeterminate <;>
    cases f.reduced <;> decide

theorem buildMembership_anyConflict [StdSort] (expectation : SiteExpectation)
    (admissions : Admissions) (out : ComposedSite) :
    (buildMembership expectation admissions out).anyConflict =
      !(buildMembership expectation admissions out).conflicts.isEmpty := by
  unfold buildMembership
  dsimp only
  generalize List.foldl reportConflicting _ _ = reported
  exact congrArg not (StdSort.perm _ reported.conflicts).isEmpty_eq.symm

/-- The flag of a composed site says whether it lists a conflict. -/
theorem compose_anyConflict [StdSort] {input : CompositionInput} {site : ComposedSite}
    (composed : compose input = .composed site) : site.anyConflict = !site.conflicts.isEmpty := by
  have closed : ∀ (expectation : SiteExpectation) (out : ComposedSite),
      (input.concluded expectation out).anyConflict =
        !(input.concluded expectation out).conflicts.isEmpty := by
    intro expectation out
    unfold CompositionInput.concluded
    dsimp only
    generalize admitMembers input expectation = admissions
    have enrolled := buildMembership_anyConflict expectation admissions out
    generalize buildMembership expectation admissions out = member at enrolled ⊢
    obtain ⟨final, conflicts⟩ := buildDecisions_frame admissions (input.resources expectation)
      (buildLifecycle expectation member)
    generalize buildDecisions admissions (input.resources expectation)
      (buildLifecycle expectation member) = site at final conflicts ⊢
    rw [conflicts, show site.anyConflict = member.anyConflict from
      (congrArg ComposedSite.anyConflict final :)]
    exact enrolled
  unfold compose at composed
  cases prepared : input.prepare with
  | error status => simp [prepared] at composed
  | ok expectation =>
    cases built : buildObligations (input.resources expectation) (input.accounted expectation) with
    | none => simp [prepared, built] at composed
    | some judged =>
      simp only [prepared, built, CompositionResult.composed.injEq] at composed
      rw [← composed]
      exact closed expectation judged

section Admission

variable [StdSort] (input : CompositionInput) (expectation : SiteExpectation)

theorem objection_ne_absent {record : MemberPublicationRecord}
    {declaration : MemberDomainDeclaration} {against : Standing}
    (objected : objection expectation record declaration = some against) :
    against.lifecycle ≠ .absent := by
  unfold objection at objected
  grind [Standing.because]

omit [StdSort] in
theorem judgeEvidence_ne_absent (state : EvidenceState) :
    (judgeEvidence state).lifecycle ≠ .absent := by
  cases state <;> simp [judgeEvidence, Standing.because]

/-- No record leaves its domain ABSENT. -/
theorem judge_ne_absent (record : MemberPublicationRecord) :
    (judge input expectation record).lifecycle ≠ .absent := by
  have received : ∀ declaration,
      (receive input expectation record declaration).lifecycle ≠ .absent := by
    intro declaration
    unfold receive
    split
    · next against objected => exact objection_ne_absent expectation objected
    · split
      · simp [Standing.because]
      · exact judgeEvidence_ne_absent _
  have content : ∀ declaration,
      (judgeContent input expectation record declaration).lifecycle ≠ .absent := by
    intro declaration
    unfold judgeContent
    dsimp only
    split
    · exact received declaration
    · exact received declaration
  unfold judge
  split
  · simp [Standing.because]
  split
  · simp [Standing.because]
  split
  · simp [Standing.because]
  split
  · simp [Standing.because]
  split
  · simp [Standing.because]
  split
  · simp [Standing.because]
  · unfold judgeDeclaration
    split
    · simp [Standing.because]
    split
    · simp [Standing.because]
    · exact content _

end Admission

namespace CompositionInput

variable [StdSort] (input : CompositionInput) (expectation : SiteExpectation)

/-- Members are expected, none that is required has a record that speaks for it, and
every record that speaks for a domain has earned CURRENT. -/
structure Deserted : Prop where
  expected : expectation.members ≠ []
  silent : ∀ expected ∈ expectation.members, expected.required = true →
    ∀ record, input.Selects record → record.domain ≠ expected.domain
  earned : ∀ record, input.Selects record → Earned input expectation record

variable {input expectation} {site : ComposedSite}

/-- A member is the state a selected record was received in, or it is ABSENT and no
record speaks for its domain. -/
theorem Composes.member_cases (parts : input.Composes expectation site)
    {member : MemberDomainState} (listed : member ∈ site.members) :
    (∃ record, input.Selects record ∧ member = (admitRecord input expectation record).state) ∨
      (member.lifecycle = .absent ∧ ∀ record, input.Selects record → record.domain ≠ member.domain) := by
  have among := listed
  rw [parts.members] at among
  rcases mem_composeMembers among with reported | ⟨absent, missing⟩
  · obtain ⟨⟨domain, admission⟩, found, rfl⟩ := List.mem_map.mp reported
    obtain ⟨record, selected, -, rfl⟩ := admitMembers_iff.mp (mem_toList_iff.mp found)
    exact .inl ⟨record, selected, rfl⟩
  · refine .inr ⟨absent, fun record selected here => ?_⟩
    have admitted : (admitMembers input expectation)[member.domain]? =
        some (admitRecord input expectation record) :=
      admitMembers_iff.mpr ⟨record, selected, here, rfl⟩
    rw [Std.ExtTreeMap.contains_eq_isSome_getElem?, admitted] at missing
    cases missing

theorem Composes.absent_iff (parts : input.Composes expectation site) (domain : MemberDomainKey) :
    (∀ member ∈ site.findMember domain, member.lifecycle = .absent) ↔
      ∀ record, input.Selects record → record.domain ≠ domain := by
  constructor
  · rintro absent record selected rfl
    exact judge_ne_absent input expectation record (absent _ (parts.findMember selected))
  · intro silent member found
    have named : member.domain = domain := by simpa using List.find?_some found
    rcases parts.member_cases (List.mem_of_find?_eq_some found) with
      ⟨record, selected, rfl⟩ | ⟨absent, -⟩
    · exact absurd named (silent record selected)
    · exact absent

theorem Composes.settled_iff (parts : input.Composes expectation site) :
    (∀ member ∈ site.members, member.lifecycle = .current ∨ member.lifecycle = .absent) ↔
      ∀ record, input.Selects record → Earned input expectation record := by
  constructor
  · intro settled record selected
    have listed := List.mem_of_find?_eq_some (parts.findMember selected)
    rcases settled _ listed with current | absent
    · exact (judge_current_iff ..).mp current
    · exact absurd absent (judge_ne_absent input expectation record)
  · intro earned member listed
    rcases parts.member_cases listed with ⟨record, selected, rfl⟩ | ⟨absent, -⟩
    · exact .inl ((judge_current_iff ..).mpr (earned record selected))
    · exact .inr absent

theorem Composes.partitioned_iff (parts : input.Composes expectation site)
    (quiet : site.anyConflict = false) :
    site.lifecycle = .partitioned ↔ input.Deserted expectation := by
  rw [parts.lifecycle, SiteFindings.partitioned_iff (f := siteFindings expectation site) quiet]
  simp only [siteFindings, Bool.and_eq_true, List.all_eq_true, Bool.or_eq_true, decide_eq_true_eq,
    Bool.not_eq_true', List.isEmpty_eq_false_iff, Option.all_eq_true]
  rw [parts.settled_iff]
  have silent : ∀ expected : ExpectedMember,
      (expected.required = false ∨
        ∀ member, site.findMember expected.domain = some member → member.lifecycle = .absent) ↔
      (expected.required = true → ∀ record, input.Selects record →
        record.domain ≠ expected.domain) := by
    intro expected
    rw [← parts.absent_iff]
    cases expected.required <;> simp
  constructor
  · rintro ⟨⟨expected, earned⟩, absent⟩
    exact ⟨expected, fun member listed => (silent member).mp (absent member listed), earned⟩
  · rintro ⟨expected, unheard, earned⟩
    exact ⟨⟨expected, earned⟩, fun member listed => (silent member).mpr (unheard member listed)⟩

/-- The site lists an expected domain that no record speaks for as ABSENT. -/
theorem Composes.lists_absent (parts : input.Composes expectation site) {expected : ExpectedMember}
    (listed : expected ∈ expectation.members)
    (silent : ∀ record, input.Selects record → record.domain ≠ expected.domain) :
    ∃ member ∈ site.findMember expected.domain, member.lifecycle = .absent := by
  have missing : (admitMembers input expectation).contains expected.domain = false := by
    rw [Std.ExtTreeMap.contains_eq_isSome_getElem?, admitMembers_lookup]
    cases found : (bestRecords input.publications)[expected.domain]? with
    | none => rfl
    | some record =>
      obtain ⟨selected, named⟩ := selects_of_best found
      exact absurd named (silent record selected)
  obtain ⟨member, among, named⟩ : ∃ member ∈ composeMembers expectation
      (admitMembers input expectation) ((admitMembers input expectation).toList.map (·.2.state)),
      member.domain = expected.domain := composeMembers_expects listed missing
  rw [← parts.members] at among
  have some : (site.findMember expected.domain).isSome = true :=
    List.find?_isSome.mpr ⟨member, among, decide_eq_true named⟩
  obtain ⟨found, here⟩ := Option.isSome_iff_exists.mp some
  exact ⟨found, here, (parts.absent_iff _).mpr silent found here⟩

end CompositionInput

namespace ComposedSite

/-- PARTITIONED says that members are required and that every one of them is ABSENT. -/
def MeansUnheard (site : ComposedSite) (expectation : SiteExpectation) : Prop :=
  site.lifecycle = .partitioned →
    (∃ expected ∈ expectation.members, expected.required = true) ∧
    ∀ expected ∈ expectation.members, expected.required = true →
      ∃ member ∈ site.findMember expected.domain, member.lifecycle = .absent

/-- A site that some members report to, all of them CURRENT, is not PARTITIONED. -/
def HearsCurrent (site : ComposedSite) : Prop :=
  (∃ member ∈ site.members, member.lifecycle ≠ .absent) →
    (∀ member ∈ site.members, member.lifecycle ≠ .absent → member.lifecycle = .current) →
      site.lifecycle ≠ .partitioned

end ComposedSite

/-- Without conflicts PARTITIONED means what it says unless every record that speaks for a
domain has earned CURRENT, none speaks for a required one, and no member is required or
some record does speak for a domain. -/
theorem partitioned_is_unheard_iff [StdSort] {input : CompositionInput}
    {expectation : SiteExpectation} {site : ComposedSite}
    (prepared : input.prepare = .ok expectation) (composed : compose input = .composed site)
    (quiet : site.conflicts = []) :
    (site.MeansUnheard expectation ↔ ¬ (input.Deserted expectation ∧
        ∀ expected ∈ expectation.members, expected.required = false)) ∧
      (site.HearsCurrent ↔ ¬ (input.Deserted expectation ∧ ∃ record, input.Selects record)) := by
  obtain ⟨expectation', parts⟩ := CompositionInput.compose_composes composed
  obtain rfl : expectation' = expectation := Except.ok.inj (parts.prepared.symm.trans prepared)
  have none : site.anyConflict = false := by rw [compose_anyConflict composed, quiet]; rfl
  have verdict := parts.partitioned_iff none
  constructor
  · rw [ComposedSite.MeansUnheard, verdict]
    constructor
    · rintro means ⟨unheard, optional⟩
      obtain ⟨⟨expected, listed, required⟩, -⟩ := means unheard
      rw [optional expected listed] at required
      cases required
    · intro kept unheard
      refine ⟨?_, fun expected listed required =>
        parts.lists_absent listed (unheard.silent expected listed required)⟩
      by_contra optional
      refine kept ⟨unheard, fun expected listed => ?_⟩
      exact Bool.eq_false_iff.mpr fun required => optional ⟨expected, listed, required⟩
  · have reporting : (∃ member ∈ site.members, member.lifecycle ≠ .absent) ↔
        ∃ record, input.Selects record := by
      constructor
      · rintro ⟨member, listed, present⟩
        rcases parts.member_cases listed with ⟨record, selected, -⟩ | ⟨absent, -⟩
        · exact ⟨record, selected⟩
        · exact absurd absent present
      · rintro ⟨record, selected⟩
        exact ⟨_, List.mem_of_find?_eq_some (parts.findMember selected),
          judge_ne_absent input expectation' record⟩
    rw [ComposedSite.HearsCurrent, reporting]
    constructor
    · rintro hears ⟨unheard, some⟩
      refine hears some (fun member listed present => ?_) (verdict.mpr unheard)
      exact (parts.settled_iff.mpr unheard.earned member listed).resolve_right present
    · exact fun kept some _ partitioned => kept ⟨verdict.mp partitioned, some⟩

/-- A site that requires one rack and hears from nobody. -/
def CompositionInput.unheard : CompositionInput :=
  { CompositionInput.sample [.sample (ascii "rack-1")] with publications := [] }

theorem unheard_site_is_partitioned :
    ∃ expectation site, CompositionInput.unheard.prepare = .ok expectation ∧
      compose CompositionInput.unheard = .composed site ∧ site.lifecycle = .partitioned ∧
      site.MeansUnheard expectation ∧ site.HearsCurrent := by
  obtain ⟨site, composed, test⟩ := CompositionInput.composed_of_sealed
    (show (composeSealed CompositionInput.unheard).passes (fun site =>
      decide (site.conflicts = [] ∧ site.lifecycle = .partitioned) &&
        CompositionInput.unheard.prepare.toOption.all fun expectation =>
          expectation.members.all (·.required)) = true by decide +kernel)
    fun _ listed => absurd listed List.not_mem_nil
  obtain ⟨expectation, parts⟩ := CompositionInput.compose_composes composed
  rw [parts.prepared, Except.toOption, Option.all_some, Bool.and_eq_true] at test
  obtain ⟨verdict, required⟩ := test
  obtain ⟨quiet, partitioned⟩ := of_decide_eq_true verdict
  obtain ⟨means, hears⟩ := partitioned_is_unheard_iff parts.prepared composed quiet
  refine ⟨expectation, site, parts.prepared, composed, partitioned, means.mpr ?_, hears.mpr ?_⟩
  · rintro ⟨unheard, optional⟩
    obtain ⟨expected, listed⟩ := List.exists_mem_of_ne_nil _ unheard.expected
    have needed := List.all_eq_true.mp required expected listed
    rw [optional expected listed] at needed
    cases needed
  · rintro ⟨-, record, selected⟩
    cases (bestRecords_mem selected).1

/-- A site that expects one rack without requiring it, and hears from it. -/
def CompositionInput.optional : CompositionInput :=
  { CompositionInput.sample [.sample (ascii "rack-1")] with
    expectation := { members := [{ domain := ⟨.rack, ascii "rack-1"⟩, required := false }] } }

/-- Its only member is CURRENT, and the site is PARTITIONED. -/
theorem optional_site_is_partitioned :
    ∃ expectation site, CompositionInput.optional.prepare = .ok expectation ∧
      compose CompositionInput.optional = .composed site ∧ site.conflicts = [] ∧
      ¬ site.MeansUnheard expectation ∧ ¬ site.HearsCurrent := by
  obtain ⟨site, composed, test⟩ := CompositionInput.composed_of_sealed
    (show (composeSealed CompositionInput.optional).passes (fun site =>
      decide (site.conflicts = [] ∧ site.lifecycle = .partitioned ∧
        (∃ member ∈ site.members, member.lifecycle ≠ .absent) ∧
        ∀ member ∈ site.members, member.lifecycle = .current) &&
        CompositionInput.optional.prepare.toOption.all fun expectation =>
          expectation.members.all (!·.required)) = true by decide +kernel) .sample
  obtain ⟨expectation, parts⟩ := CompositionInput.compose_composes composed
  rw [parts.prepared, Except.toOption, Option.all_some, Bool.and_eq_true] at test
  obtain ⟨verdict, optional⟩ := test
  obtain ⟨quiet, partitioned, some, current⟩ := of_decide_eq_true verdict
  refine ⟨expectation, site, parts.prepared, composed, quiet, fun means => ?_, fun hears => ?_⟩
  · obtain ⟨⟨expected, listed, required⟩, -⟩ := means partitioned
    have free := List.all_eq_true.mp optional expected listed
    rw [required] at free
    cases free
  · exact hears some (fun member listed _ => current member listed) partitioned

end SiteFabric
