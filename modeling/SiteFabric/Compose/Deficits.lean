import SiteFabric.Compose.Decisions
import SiteFabric.Compose.Partitions

/-! Membership, account by account.
Deficits are drawn up as a list in advance, like decisions: where the bounded list has
room for all, the site's deficits are the list that was drawn up. Members are one for
each domain that a usable record or the expectation names, by domain. -/

namespace SiteFabric

open Lib
open Std (ExtTreeMap)

namespace ComposedSite

def note (site : ComposedSite) : Option SiteDeficit → ComposedSite
  | none => site
  | some d => site.addDeficit d.code d.domain d.detail

/-- The deficits of a site are the first of those drawn up. -/
def Owes (site : ComposedSite) (planned : List SiteDeficit) : Prop :=
  site.deficits = planned.take Limits.maxDeficits

theorem Owes.note {site : ComposedSite} {planned : List SiteDeficit} (owes : site.Owes planned)
    (deficit : Option SiteDeficit) : (site.note deficit).Owes (planned ++ deficit.toList) := by
  cases deficit with
  | none => simpa [ComposedSite.note] using owes
  | some d =>
    unfold Owes at owes ⊢
    rw [ComposedSite.note, addDeficit, owes, List.length_take]
    by_cases full : Limits.maxDeficits ≤ planned.length
    · rw [if_pos (by omega), List.take_append_of_le_length full, ← owes]
    · rw [if_neg (by omega), List.take_of_length_le (by omega),
        List.take_of_length_le (by simp; omega)]
      rfl

theorem Owes.foldl {α : Type} {site : ComposedSite} {planned : List SiteDeficit}
    (owes : site.Owes planned) (deficit : α → Option SiteDeficit) (items : List α) :
    (items.foldl (fun site item => site.note (deficit item)) site).Owes
      (planned ++ items.filterMap deficit) := by
  induction items generalizing site planned with
  | nil => simpa using owes
  | cons item items ih =>
    have one := ih (owes.note (deficit item))
    rw [List.append_assoc] at one
    have parts : (deficit item).toList ++ items.filterMap deficit =
        (item :: items).filterMap deficit := by
      rw [List.filterMap_cons]
      cases deficit item <;> rfl
    rwa [parts] at one

@[simp] theorem deficits_addConflict (site : ComposedSite) (code : Status) (subject : ResourceKey)
    (parties : SourceSet) (variants : List Text) :
    (site.addConflict code subject parties variants).deficits = site.deficits := by
  unfold addConflict
  split <;> rfl

@[simp] theorem deficits_addDecision (site : ComposedSite) (kind : DecisionKind)
    (subject : ResourceKey) (status : Status) (sources : SourceSet) (factors : Factors) :
    (site.addDecision kind subject status sources factors).deficits = site.deficits := by
  unfold addDecision
  split <;> rfl

theorem Owes.of_deficits {site site' : ComposedSite} {planned : List SiteDeficit}
    (owes : site.Owes planned) (same : site'.deficits = site.deficits) : site'.Owes planned :=
  same.trans owes

end ComposedSite

/-- The deficit of a parent that no node of the forest has. -/
def FailureDomainNode.deficit (node : FailureDomainNode) : SiteDeficit where
  code := .failureDomainDanglingParent
  detail := ascii "parent=" ++ (node.parent.map (·.value)).getD Text.empty

/-- The deficit of a domain that was revoked or retired. -/
def endedDeficit (entry : MemberDomainKey × Admission) : Option SiteDeficit :=
  match entry.2.lifecycle with
  | .revoked => some ⟨.leaseRevoked, entry.1, ascii "authority revoked"⟩
  | .retired => some ⟨.alreadyRetired, entry.1, ascii "retired"⟩
  | _ => none

/-- The deficit of an expected member that is not CURRENT. -/
def ExpectedMember.deficit (admissions : Admissions) (expected : ExpectedMember) :
    Option SiteDeficit :=
  match admissions[expected.domain]? with
  | none => some ⟨.membershipMissing, expected.domain, ascii "no publication received"⟩
  | some admission =>
    match admission.lifecycle with
    | .current => none
    | .reported =>
      some ⟨admission.status, expected.domain, ascii "declaration not authoritative"⟩
    | .stale => some ⟨.evidenceStale, expected.domain, ascii "evidence expired"⟩
    | .conflicting => some ⟨admission.status, expected.domain, ascii "declaration conflicts"⟩
    | .incompatible => some ⟨admission.status, expected.domain, ascii "declaration incompatible"⟩
    | .retired => some ⟨.alreadyRetired, expected.domain, ascii "retired"⟩
    | .revoked => some ⟨.leaseRevoked, expected.domain, ascii "authority revoked"⟩
    | _ => some ⟨.unknown, expected.domain, ascii "lifecycle unknown"⟩

theorem reportEnded_eq (out : ComposedSite) (entry : MemberDomainKey × Admission) :
    reportEnded out entry = out.note (endedDeficit entry) := by
  unfold reportEnded endedDeficit
  cases entry.2.lifecycle <;> rfl

theorem reportExpected_eq (admissions : Admissions) (out : ComposedSite)
    (expected : ExpectedMember) :
    reportExpected admissions out expected = out.note (expected.deficit admissions) := by
  unfold reportExpected ExpectedMember.deficit
  cases admissions[expected.domain]? with
  | none => rfl
  | some admission =>
    dsimp only
    cases admission.lifecycle <;> rfl

theorem ExpectedMember.deficit_iff {admissions : Admissions} {expected : ExpectedMember} :
    (∃ d, expected.deficit admissions = some d) ↔
      ∀ a, admissions[expected.domain]? = some a → a.lifecycle ≠ .current := by
  unfold ExpectedMember.deficit
  cases admissions[expected.domain]? with
  | none => simp
  | some admission => cases found : admission.lifecycle <;> simp [found]

theorem ExpectedMember.deficit_domain {admissions : Admissions} {expected : ExpectedMember}
    {d : SiteDeficit} (owed : expected.deficit admissions = some d) : d.domain = expected.domain := by
  unfold ExpectedMember.deficit at owed
  split at owed
  · cases owed
    rfl
  · split at owed <;> cases owed <;> rfl

theorem endedDeficit_domain {entry : MemberDomainKey × Admission} {d : SiteDeficit}
    (owed : endedDeficit entry = some d) :
    d.domain = entry.1 ∧ entry.2.lifecycle ≠ .current := by
  unfold endedDeficit at owed
  split at owed
  · next ended =>
    cases owed
    exact ⟨rfl, by rw [ended]; nofun⟩
  · next ended =>
    cases owed
    exact ⟨rfl, by rw [ended]; nofun⟩
  · cases owed

section Stages

variable {planned : List SiteDeficit} {out : ComposedSite}

theorem attributeResources_owes (resources : Resources) (owes : out.Owes planned) :
    (attributeResources resources out).Owes planned := by
  refine owes.of_deficits (foldl_frame ComposedSite.deficits (fun site entry => ?_) _ _)
  unfold raiseDisagreement
  split
  · exact ComposedSite.deficits_addConflict ..
  split
  · exact ComposedSite.deficits_addConflict ..
  · rfl

variable [StdSort] (admissions : Admissions) (resources : Resources)

theorem buildFailureDomains_owes (owes : out.Owes planned) :
    (buildFailureDomains admissions resources out).Owes (planned ++
      ((openNodes admissions resources).filter (FailureDomainNode.dangles
        (openNodes admissions resources))).map (·.deficit)) := by
  have dangling := owes.foldl (fun node : FailureDomainNode => some node.deficit)
    ((openNodes admissions resources).filter (FailureDomainNode.dangles
      (openNodes admissions resources)))
  rw [List.filterMap_eq_map'] at dangling
  have cycle : ∀ (forest : FailureDomainForest) (site : ComposedSite),
      (reportCycle forest site).deficits = site.deficits := by
    intro forest site
    unfold reportCycle
    split
    · rfl
    · exact ComposedSite.deficits_addConflict ..
  have each : ∀ (nodes : List FailureDomainNode) (site : ComposedSite),
      (nodes.foldl (reportNode resources) site).deficits = site.deficits := by
    refine foldl_frame ComposedSite.deficits fun site node => ?_
    unfold reportNode
    split
    · split
      · rfl
      · exact ComposedSite.deficits_addConflict ..
    · rfl
  change (reportForest admissions resources out).Owes _
  rw [reportForest]
  exact dangling.of_deficits ((each _ _).trans (cycle _ _))

theorem buildMaintenance_owes (nowMs : Int64) (members : DomainMembers) (owes : out.Owes planned) :
    (buildMaintenance nowMs members resources out).Owes planned := by
  change (refuseZones members resources out).Owes planned
  refine owes.of_deficits (foldl_frame ComposedSite.deficits (fun site entry => ?_) _ _)
  unfold reportRefusal
  split
  · exact ComposedSite.deficits_addConflict ..
  · rfl

/-- The deficits of membership: what ended, then what was expected and is not CURRENT. -/
def membershipDeficits (expectation : SiteExpectation) : List SiteDeficit :=
  admissions.toList.filterMap endedDeficit ++
    expectation.members.filterMap (·.deficit admissions)

omit [StdSort] in
theorem reportMembership_owes (expectation : SiteExpectation) (owes : out.Owes planned) :
    (reportMembership expectation admissions out).Owes
      (planned ++ membershipDeficits admissions expectation) := by
  have ended := owes.foldl endedDeficit admissions.toList
  have missing := ended.foldl (·.deficit admissions) expectation.members
  rw [List.append_assoc] at missing
  rw [reportMembership, funext fun out => funext fun entry => reportEnded_eq out entry,
    funext fun out => funext fun expected => reportExpected_eq admissions out expected]
  exact missing

theorem buildMembership_owes (expectation : SiteExpectation) (owes : out.Owes planned) :
    ∃ recorded : ComposedSite,
      (buildMembership expectation admissions out).deficits =
        sort (byKey fun deficit => toLex (deficit.domain, deficit.code.ctorIdx))
          recorded.deficits ∧
      recorded.Owes (planned ++ membershipDeficits admissions expectation) := by
  have conflicting : ∀ (members : List MemberDomainState) (site : ComposedSite),
      (members.foldl reportConflicting site).deficits = site.deficits := by
    refine foldl_frame ComposedSite.deficits fun site member => ?_
    unfold reportConflicting
    split
    · exact ComposedSite.deficits_addConflict ..
    · rfl
  exact ⟨_, rfl, (reportMembership_owes admissions expectation owes).of_deficits
    (conflicting _ _)⟩

omit [StdSort] in
theorem foldl_addDecision_deficits {α : Type} (kind : DecisionKind) (subject : α → ResourceKey)
    (status : α → Status) (sources : α → SourceSet) (factors : α → Factors) (items : List α)
    (site : ComposedSite) :
    (items.foldl (fun out item => out.addDecision kind (subject item) (status item)
      (sources item) (factors item)) site).deficits = site.deficits :=
  foldl_frame ComposedSite.deficits (fun _ _ => ComposedSite.deficits_addDecision ..) items site

theorem buildDecisions_deficits (out : ComposedSite) :
    (buildDecisions admissions resources out).deficits = out.deficits := by
  have direct : (decideDirect admissions out).deficits = out.deficits := by
    unfold decideDirect
    dsimp only
    rw [foldl_addDecision_deficits, ComposedSite.deficits_addDecision,
      ComposedSite.deficits_addDecision]
  have summaries (site : ComposedSite) : (decideSummaries site).deficits = site.deficits := by
    unfold decideSummaries
    simp
  have derived (site : ComposedSite) : (decideDerived resources site).deficits = site.deficits := by
    unfold decideDerived
    dsimp only
    rw [ComposedSite.deficits_addDecision, foldl_addDecision_deficits, foldl_addDecision_deficits]
  unfold buildDecisions
  dsimp only
  rw [derived, summaries, direct]

end Stages

namespace CompositionInput

variable [StdSort] {input : CompositionInput} {expectation : SiteExpectation} {site : ComposedSite}

section Due

variable (input expectation)

/-- The deficits of the forest. -/
def danglingDue : List SiteDeficit :=
  ((openNodes (admitMembers input expectation) (input.resources expectation)).filter
    (FailureDomainNode.dangles
      (openNodes (admitMembers input expectation) (input.resources expectation)))).map (·.deficit)

/-- Every deficit of a composition, in the order it is found. -/
def deficitsDue : List SiteDeficit :=
  input.danglingDue expectation ++ membershipDeficits (admitMembers input expectation) expectation

theorem accounted_owes : (input.accounted expectation).Owes (input.danglingDue expectation) := by
  have clear : (input.admitted expectation).Owes [] := rfl
  have attributed := attributeResources_owes (input.resources expectation) clear
  have forested := buildFailureDomains_owes (admitMembers input expectation)
    (input.resources expectation) attributed
  have maintained := buildMaintenance_owes (input.resources expectation) input.nowMs
    (domainMembers (admitMembers input expectation) (input.resources expectation)) forested
  unfold accounted buildConnectivity
  dsimp only
  exact maintained.of_deficits rfl

end Due

theorem composed_owes (prepared : input.prepare = .ok expectation)
    (composed : compose input = .composed site) :
    ∃ recorded : ComposedSite,
      site.deficits = sort (byKey fun deficit => toLex (deficit.domain, deficit.code.ctorIdx))
        recorded.deficits ∧ recorded.Owes (input.deficitsDue expectation) := by
  unfold compose at composed
  rw [prepared] at composed
  dsimp only at composed
  split at composed
  · cases composed
  next judged built =>
  injection composed with same
  have start : judged.Owes (input.danglingDue expectation) := by
    obtain ⟨verdicts, _, rfl⟩ := Option.map_eq_some_iff.mp built
    exact (input.accounted_owes expectation).of_deficits rfl
  obtain ⟨recorded, sorted, owes⟩ :=
    buildMembership_owes (admitMembers input expectation) expectation start
  refine ⟨recorded, ?_, owes⟩
  rw [← same, concluded]
  exact (buildDecisions_deficits ..).trans sorted

theorem deficit_due (prepared : input.prepare = .ok expectation)
    (composed : compose input = .composed site) {deficit : SiteDeficit}
    (listed : deficit ∈ site.deficits) : deficit ∈ input.deficitsDue expectation := by
  obtain ⟨recorded, sorted, owes⟩ := composed_owes prepared composed
  rw [sorted, mem_sort, owes] at listed
  exact List.mem_of_mem_take listed

/-- A list of deficits that is not full is complete. -/
theorem mem_deficits (prepared : input.prepare = .ok expectation)
    (composed : compose input = .composed site)
    (room : site.deficits.length < Limits.maxDeficits) {deficit : SiteDeficit}
    (due : deficit ∈ input.deficitsDue expectation) : deficit ∈ site.deficits := by
  obtain ⟨recorded, sorted, owes⟩ := composed_owes prepared composed
  rw [sorted, (StdSort.perm _ recorded.deficits).length_eq, owes, List.length_take] at room
  rw [sorted, mem_sort, owes, List.take_of_length_le (by omega)]
  exact due

end CompositionInput

/-- Members are by domain, and no two of one domain. -/
theorem composeMembers_strict [StdSort] (expectation : SiteExpectation) (admissions : Admissions)
    (reported : List MemberDomainState) :
    (composeMembers expectation admissions reported).Pairwise fun a b => a.domain < b.domain := by
  unfold composeMembers
  dsimp only
  generalize reported ++ _ = states
  have sorted := StdSort.sorted (byKey MemberDomainState.domain)
    (byKey_strictWeak MemberDomainState.domain) states
  generalize sort (byKey MemberDomainState.domain) states = members at sorted ⊢
  have apart := List.isChain_destutter (fun a b : MemberDomainState => a.domain ≠ b.domain) members
  have kept := (sorted.sublist (List.destutter_sublist
    (fun a b : MemberDomainState => a.domain ≠ b.domain) members)).isChain
  generalize members.destutter (fun a b => a.domain ≠ b.domain) = shown at apart kept ⊢
  have strict : shown.IsChain fun a b => a.domain < b.domain := by
    induction shown with
    | nil => exact .nil
    | cons first rest ih =>
      rw [List.isChain_cons] at apart kept ⊢
      refine ⟨fun second next => ?_, ih apart.2 kept.2⟩
      have below : first.domain ≤ second.domain :=
        not_lt.mp (of_decide_eq_false (kept.1 second next))
      exact below.lt_of_ne (apart.1 second next)
  exact List.isChain_iff_pairwise.mp strict

theorem composeMembers_domains [StdSort] {expectation : SiteExpectation} {admissions : Admissions}
    {reported : List MemberDomainState} {domain : MemberDomainKey} :
    (∃ member ∈ composeMembers expectation admissions reported, member.domain = domain) ↔
      (∃ state ∈ reported, state.domain = domain) ∨
        ∃ expected ∈ expectation.members, admissions.contains expected.domain = false ∧
          expected.domain = domain := by
  constructor
  · rintro ⟨member, listed, rfl⟩
    have kept := (List.destutter_sublist _ _).subset listed
    rw [mem_sort, List.mem_append] at kept
    refine kept.imp (fun state => ⟨member, state, rfl⟩) fun absent => ?_
    obtain ⟨expected, missing, rfl⟩ := List.mem_map.mp absent
    obtain ⟨named, silent⟩ := List.mem_filter.mp missing
    exact ⟨expected, named, (Bool.not_eq_true' _).mp silent, rfl⟩
  · rintro (⟨state, listed, rfl⟩ | ⟨expected, listed, silent, rfl⟩)
    · exact composeMembers_covers listed
    · exact composeMembers_expects listed silent

namespace SiteExpectation

theorem checkMember_valid {members : List ExpectedMember}
    (checked : members.forM checkMember = .ok ()) : ∀ member ∈ members, member.domain.valid = true := by
  induction members with
  | nil => simp
  | cons first rest ih =>
    rw [List.forM_eq_forM, List.forM_cons] at checked
    obtain ⟨_, one, others⟩ := bind_ok checked
    intro member listed
    rcases List.mem_cons.mp listed with rfl | later
    · cases valid : member.domain.valid with
      | true => rfl
      | false =>
        rw [checkMember, valid] at one
        cases one
    · exact ih others member later

/-- The canonical expectation lists the members given, all with a valid domain. -/
theorem canonicalize_members {e canonical : SiteExpectation}
    (accepted : e.canonicalize = .ok canonical) :
    canonical.members.Perm e.members ∧ ∀ member ∈ canonical.members, member.domain.valid = true := by
  unfold canonicalize at accepted
  split at accepted
  · cases accepted
  split at accepted
  · cases accepted
  split at accepted
  · cases accepted
  dsimp only at accepted
  split at accepted
  · cases accepted
  obtain ⟨_, checked, accepted⟩ := bind_ok accepted
  injection accepted with same
  rw [← same]
  exact ⟨stableSort_perm _ _, checkMember_valid checked⟩

end SiteExpectation

namespace CompositionInput

theorem prepare_members {input : CompositionInput} {expectation : SiteExpectation}
    (prepared : input.prepare = .ok expectation) :
    expectation.members.Perm input.expectation.members ∧
      ∀ member ∈ expectation.members, member.domain.valid = true := by
  obtain ⟨listed, valid⟩ := SiteExpectation.canonicalize_members (prepare_ok prepared).2.2
  refine ⟨listed.trans (.of_eq ?_), valid⟩
  unfold adopted
  split <;> rfl

/-- A record speaks for every domain with a usable record, and for no other. -/
theorem selects_iff_usable {input : CompositionInput} {domain : MemberDomainKey} :
    (∃ record, input.Selects record ∧ record.domain = domain) ↔
      ∃ record ∈ input.publications, record.usable = true ∧ record.domain = domain := by
  constructor
  · rintro ⟨record, selected, named⟩
    obtain ⟨listed, usable, -⟩ := bestRecords_mem selected
    exact ⟨record, listed, usable, named⟩
  · rintro ⟨record, listed, usable, named⟩
    have leads := select_leads MemberPublicationRecord.domain MemberPublicationRecord.standing
      (input.publications.filter (·.usable)) domain
    rw [← bestRecords_eq] at leads
    cases found : (bestRecords input.publications)[domain]? with
    | none =>
      rw [found] at leads
      exact absurd named (leads record (List.mem_filter.mpr ⟨listed, usable⟩))
    | some best => exact ⟨best, selects_of_best found⟩

variable [StdSort] {input : CompositionInput} {expectation : SiteExpectation}

theorem reported_iff {domain : MemberDomainKey} :
    (∃ state ∈ (admitMembers input expectation).toList.map (·.2.state), state.domain = domain) ↔
      ∃ record ∈ input.publications, record.usable = true ∧ record.domain = domain := by
  rw [← selects_iff_usable]
  constructor
  · rintro ⟨state, listed, named⟩
    obtain ⟨⟨domain', admission⟩, found, rfl⟩ := List.mem_map.mp listed
    obtain ⟨record, selected, -, rfl⟩ := admitMembers_iff.mp (mem_toList_iff.mp found)
    exact ⟨record, selected, named⟩
  · rintro ⟨record, selected, rfl⟩
    have admitted : (admitMembers input expectation)[record.domain]? =
        some (admitRecord input expectation record) :=
      admitMembers_iff.mpr ⟨record, selected, rfl, rfl⟩
    exact ⟨_, List.mem_map.mpr ⟨_, mem_toList_iff.mpr admitted, rfl⟩, rfl⟩

end CompositionInput

namespace ComposedSite

/-- The members account for what was reported and expected, and the deficits for the
members. -/
structure AccountsMembers (site : ComposedSite) (input : CompositionInput) : Prop where
  ordered : site.members.Pairwise fun a b => a.domain < b.domain
  exact : ∀ domain, (∃ member ∈ site.members, member.domain = domain) ↔
    (∃ record ∈ input.publications, record.usable = true ∧ record.domain = domain) ∨
      ∃ expected ∈ input.expectation.members, expected.domain = domain
  named : ∀ expected ∈ input.expectation.members,
    (∀ member ∈ site.members, member.domain = expected.domain → member.lifecycle ≠ .current) →
      ∃ deficit ∈ site.deficits, deficit.domain = expected.domain
  fair : ∀ deficit ∈ site.deficits, ∀ member ∈ site.members, member.domain = deficit.domain →
    member.lifecycle ≠ .current

end ComposedSite

/-- Where the deficits have room, members and deficits account for each other. -/
theorem membership_is_accounted [StdSort] {input : CompositionInput} {site : ComposedSite}
    (composed : compose input = .composed site)
    (room : site.deficits.length < Limits.maxDeficits) : site.AccountsMembers input := by
  obtain ⟨expectation, parts⟩ := CompositionInput.compose_composes composed
  have prepared := parts.prepared
  obtain ⟨same, valid⟩ := CompositionInput.prepare_members prepared
  have lookup (domain : MemberDomainKey) (admission : Admission)
      (found : (admitMembers input expectation)[domain]? = some admission) :
      ∃ member ∈ site.members, member.domain = domain ∧ member.lifecycle = admission.lifecycle := by
    obtain ⟨record, selected, rfl, rfl⟩ := CompositionInput.admitMembers_iff.mp found
    exact ⟨_, List.mem_of_find?_eq_some (parts.findMember selected), rfl, rfl⟩
  have ordered : site.members.Pairwise fun a b => a.domain < b.domain := by
    rw [parts.members]
    exact composeMembers_strict ..
  constructor
  case ordered => exact ordered
  case exact =>
    intro domain
    rw [parts.members, composeMembers_domains, CompositionInput.reported_iff]
    refine ⟨Or.imp_right fun ⟨expected, listed, _, named⟩ =>
      ⟨expected, same.mem_iff.mp listed, named⟩, ?_⟩
    rintro (reported | ⟨expected, listed, rfl⟩)
    · exact .inl reported
    · cases heard : (admitMembers input expectation).contains expected.domain with
      | false => exact .inr ⟨expected, same.mem_iff.mpr listed, heard, rfl⟩
      | true =>
        rw [Std.ExtTreeMap.contains_eq_isSome_getElem?, Option.isSome_iff_exists] at heard
        obtain ⟨admission, found⟩ := heard
        obtain ⟨record, selected, named, -⟩ := CompositionInput.admitMembers_iff.mp found
        exact .inl (CompositionInput.selects_iff_usable.mp ⟨record, selected, named⟩)
  case named =>
    intro expected listed elsewhere
    have due : ∃ deficit, expected.deficit (admitMembers input expectation) = some deficit := by
      rw [ExpectedMember.deficit_iff]
      intro admission found current
      obtain ⟨member, among, named, lifecycle⟩ := lookup _ _ found
      exact elsewhere member among named (lifecycle.trans current)
    obtain ⟨deficit, owed⟩ := due
    refine ⟨deficit, CompositionInput.mem_deficits prepared composed room ?_,
      ExpectedMember.deficit_domain owed⟩
    refine List.mem_append_right _ (List.mem_append_right _ ?_)
    exact List.mem_filterMap.mpr ⟨expected, same.mem_iff.mpr listed, owed⟩
  case fair =>
    intro deficit listed member among named current
    obtain ⟨record, selected, rfl⟩ := parts.member among current
    have admitted : (admitMembers input expectation)[record.domain]? =
        some (admitRecord input expectation record) :=
      CompositionInput.admitMembers_iff.mpr ⟨record, selected, rfl, rfl⟩
    rcases List.mem_append.mp (CompositionInput.deficit_due prepared composed listed) with
      dangling | owed
    · -- A deficit of the forest names the empty domain, which no record has.
      obtain ⟨node, -, rfl⟩ := List.mem_map.mp dangling
      have usable := (bestRecords_mem selected).2.1
      have empty : record.domain = {} := named
      rw [MemberPublicationRecord.usable, empty] at usable
      cases usable
    rcases List.mem_append.mp owed with ended | missing
    · obtain ⟨⟨domain, admission⟩, found, owed⟩ := List.mem_filterMap.mp ended
      obtain ⟨here, apart⟩ := endedDeficit_domain owed
      have found := mem_toList_iff.mp found
      rw [show domain = record.domain from here.symm.trans named.symm, admitted] at found
      exact apart (Option.some.inj found ▸ current)
    · obtain ⟨expected, -, owed⟩ := List.mem_filterMap.mp missing
      have here : expected.domain = record.domain :=
        (ExpectedMember.deficit_domain owed).symm.trans named.symm
      refine ExpectedMember.deficit_iff.mp ⟨deficit, owed⟩ _ ?_ current
      rw [here, admitted]

/-- A rack reports that is not expected, and the expected rack is silent. -/
def CompositionInput.awaited : CompositionInput :=
  { CompositionInput.sample [.sample (ascii "rack-1")] with
    expectation := { members := [{ domain := ⟨.rack, ascii "rack-2"⟩ }] } }

theorem awaited_membership_is_accounted :
    ∃ site, compose CompositionInput.awaited = .composed site ∧
      site.members.map (·.domain.id) = [ascii "rack-1", ascii "rack-2"] ∧
      site.deficits.map (·.domain.id) = [ascii "rack-2"] ∧
      site.AccountsMembers CompositionInput.awaited := by
  obtain ⟨site, composed, test⟩ := CompositionInput.composed_of_sealed
    (show (composeSealed CompositionInput.awaited).passes (fun site => decide
      (site.members.map (·.domain.id) = [ascii "rack-1", ascii "rack-2"] ∧
        site.deficits.map (·.domain.id) = [ascii "rack-2"])) = true by decide +kernel)
    (List.forall_mem_singleton.mpr (MemberDomainDeclaration.publication_sealed _))
  obtain ⟨members, deficits⟩ := of_decide_eq_true test
  have room : site.deficits.length < Limits.maxDeficits := by
    have one := congrArg List.length deficits
    rw [List.length_map] at one
    rw [one]
    decide
  exact ⟨site, composed, members, deficits, membership_is_accounted composed room⟩

end SiteFabric
