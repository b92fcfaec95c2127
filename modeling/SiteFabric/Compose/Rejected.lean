import SiteFabric.Compose.Apart
import SiteFabric.Compose.Sealed

/-! What a rejected record still says.
Admission turns a record away for its site, its schema, its epoch, its digest or
its content; attribution reads the claims of every admitted record, rejected or
not. A rejected record is unheard exactly when its declaration claims nothing. -/

namespace SiteFabric

open Lib
open Std (ExtTreeMap)

/-- The standing of a record that admission rejects, for a fault of its own. -/
def Standing.Rejected (s : Standing) : Prop :=
  (s.lifecycle = .incompatible ∨ s.lifecycle = .conflicting) ∧
    s.status ≠ .membershipUnexpected ∧ s.status ≠ .generationMismatch

/-- A record without what it declares, where it is the one withdrawn. -/
def MemberPublicationRecord.withdraw (record listed : MemberPublicationRecord) :
    MemberPublicationRecord :=
  if listed = record then { listed with declaration := none } else listed

namespace CompositionInput

/-- The grounds on which a record that nobody ended is turned away. -/
structure Rejects [StdSort] (input : CompositionInput) (expectation : SiteExpectation)
    (record : MemberPublicationRecord) : Prop where
  notRevoked : record.domain ∉ input.revoked
  notRetired : ∀ retirement ∈ input.retirements, retirement.domain ≠ record.domain
  ground : record.site ≠ input.site ∨
    record.schema.compatibleWith SchemaVersion.model = false ∨
    record.observedEpoch > input.epoch ∨
    ∃ declaration, record.declaration = some declaration ∧
      (declaration.digest ≠ record.digest ∨ declaration.computeDigest ≠ record.digest ∨
        declaration.validate.isOk = false ∨
        ∃ expected, expectation.find record.domain = some expected ∧ expected.pinned = true ∧
          expected.generation = record.generation ∧ expected.digest ≠ record.digest)

/-- The input without what a record declares. -/
def withdraw (input : CompositionInput) (record : MemberPublicationRecord) : CompositionInput :=
  { input with publications := input.publications.map record.withdraw }

/-- A record the site owes nothing: its source stands nowhere, and its declaration
can go. -/
structure Unheard [StdSort] (input : CompositionInput) (site : ComposedSite)
    (record : MemberPublicationRecord) : Prop where
  ownership : ∀ attribution ∈ site.ownership, record.source ∉ attribution.attestors.items
  ledger : ∀ entry ∈ site.capacity.entries, record.source ∉ entry.attestors.items
  forest : ∀ node ∈ site.failureDomains.nodes, record.source ∉ node.attestors.items
  connectivity : record.source ∉ site.connectivity.sources.items
  removable : ∃ site', compose (input.withdraw record) = .composed site' ∧
    site'.ownership = site.ownership ∧ site'.capacity = site.capacity ∧
    site'.connectivity = site.connectivity ∧ site'.failureDomains = site.failureDomains ∧
    site'.maintenance = site.maintenance ∧ site'.obligations = site.obligations

end CompositionInput

section Judge

variable [StdSort] {input : CompositionInput} {expectation : SiteExpectation}

theorem validate_spares (d : MemberDomainDeclaration) :
    d.validate ≠ .membershipUnexpected ∧ d.validate ≠ .generationMismatch := by
  have defect := d.canonicalize_defective
  unfold MemberDomainDeclaration.validate
  cases outcome : d.canonicalize with
  | ok canonical => exact ⟨by simp, by simp⟩
  | error status =>
    have listed := defect status outcome
    constructor
    · rintro rfl
      exact absurd listed (by decide)
    · rintro rfl
      exact absurd listed (by decide)

omit [StdSort] in
theorem judgeEvidence_admits (state : EvidenceState) : ¬ (judgeEvidence state).Rejected := by
  rintro ⟨lifecycle, _⟩
  cases state <;> simp [judgeEvidence, Standing.because] at lifecycle

theorem objection_rejects_iff {record : MemberPublicationRecord}
    {declaration : MemberDomainDeclaration} :
    (∃ against, objection expectation record declaration = some against ∧ against.Rejected) ↔
      declaration.validate.isOk = false ∨
        ∃ expected, expectation.find record.domain = some expected ∧ expected.pinned = true ∧
          expected.generation = record.generation ∧ expected.digest ≠ record.digest := by
  obtain ⟨welcome, current⟩ := validate_spares declaration
  unfold objection
  dsimp only
  cases valid : declaration.validate.isOk with
  | false => simp [Standing.Rejected, Standing.because, welcome, current]
  | true =>
    simp only [Bool.not_true, Bool.false_eq_true, if_false, Bool.true_eq_false, false_or]
    cases expectation.find record.domain with
    | none =>
      cases expectation.rejectUnexpected <;> simp [Standing.Rejected, Standing.because]
    | some expected =>
      cases pinned : expected.pinned with
      | false => simp [pinned]
      | true =>
        by_cases generation : expected.generation = record.generation
        · by_cases digest : expected.digest = record.digest
          · simp [pinned, generation, digest]
          · simp [pinned, generation, digest, Standing.Rejected, Standing.because]
        · simp [pinned, generation, Standing.Rejected, Standing.because]

theorem judgeContent_rejects_iff {record : MemberPublicationRecord}
    {declaration : MemberDomainDeclaration} :
    (judgeContent input expectation record declaration).Rejected ↔
      ∃ against, objection expectation record declaration = some against ∧ against.Rejected := by
  have marked : (judgeContent input expectation record declaration).Rejected ↔
      (receive input expectation record declaration).Rejected := by
    simp only [judgeContent]
    split <;> rfl
  rw [marked, receive]
  cases objection expectation record declaration with
  | some against => simp
  | none =>
    dsimp only
    split
    · simp [Standing.Rejected, Standing.because]
    · simp [judgeEvidence_admits]

/-- Admission rejects a record for a fault of its own exactly on these grounds. -/
theorem judge_rejects_iff (record : MemberPublicationRecord) :
    (judge input expectation record).Rejected ↔ input.Rejects expectation record := by
  have grounds : input.Rejects expectation record ↔ record.domain ∉ input.revoked ∧
      (∀ retirement ∈ input.retirements, retirement.domain ≠ record.domain) ∧ _ :=
    ⟨fun r => ⟨r.notRevoked, r.notRetired, r.ground⟩, fun r => ⟨r.1, r.2.1, r.2.2⟩⟩
  rw [grounds]
  unfold judge
  by_cases revoked : record.domain ∈ input.revoked
  · simp [revoked, Standing.Rejected, Standing.because]
  have known : input.revoked.contains record.domain = false := by simpa using revoked
  by_cases retired : ∃ retirement ∈ input.retirements, retirement.domain = record.domain
  · have ended : ¬ ∀ retirement ∈ input.retirements, retirement.domain ≠ record.domain := by
      simpa using retired
    have listed : (input.retirements.map (·.domain)).contains record.domain = true := by
      simpa using retired
    simp only [known, listed, Bool.false_eq_true, if_false, if_true, ended, false_and, and_false,
      iff_false]
    simp [Standing.Rejected, Standing.because]
  have kept : ∀ retirement ∈ input.retirements, retirement.domain ≠ record.domain := by
    simpa using retired
  have unlisted : (input.retirements.map (·.domain)).contains record.domain = false := by
    simpa using kept
  simp only [known, unlisted, Bool.false_eq_true, if_false, revoked, not_false_eq_true, true_and]
  rw [and_iff_right kept]
  by_cases site : record.site = input.site
  · by_cases schema : record.schema.compatibleWith SchemaVersion.model = true
    · by_cases epoch : record.observedEpoch > input.epoch
      · simp [site, schema, epoch, Standing.Rejected, Standing.because]
      · cases declared : record.declaration with
        | none => simp [site, schema, epoch, Standing.Rejected, Standing.because]
        | some declaration =>
          by_cases digest : declaration.digest = record.digest
          · by_cases computed : declaration.computeDigest = record.digest
            · have content := @judgeContent_rejects_iff _ input expectation record declaration
              rw [objection_rejects_iff] at content
              simp [site, schema, epoch, judgeDeclaration, digest, computed, content]
            · simp [site, schema, epoch, judgeDeclaration, digest, computed, Standing.Rejected,
                Standing.because]
          · simp [site, schema, epoch, judgeDeclaration, digest, Standing.Rejected,
              Standing.because]
    · simp [site, schema, Standing.Rejected, Standing.because]
  · simp [site, Standing.Rejected, Standing.because]

end Judge

section Withdraw

variable (record : MemberPublicationRecord)

theorem withdraw_frame (listed : MemberPublicationRecord) :
    (record.withdraw listed).domain = listed.domain ∧
      (record.withdraw listed).standing = listed.standing ∧
      (record.withdraw listed).usable = listed.usable := by
  unfold MemberPublicationRecord.withdraw
  split
  · exact ⟨rfl, rfl, rfl⟩
  · exact ⟨rfl, rfl, rfl⟩

theorem withdraw_of_ne {listed : MemberPublicationRecord}
    (other : listed.domain ≠ record.domain) : record.withdraw listed = listed := by
  refine if_neg fun same => other ?_
  rw [same]

theorem withdraw_claims (silent : record.claims = []) (listed : MemberPublicationRecord) :
    (record.withdraw listed).claims = listed.claims := by
  unfold MemberPublicationRecord.withdraw
  split
  · next same =>
    rw [same, silent]
    rfl
  · rfl

theorem bestRecords_withdraw (publications : List MemberPublicationRecord) :
    bestRecords (publications.map record.withdraw) =
      (bestRecords publications).map fun _ => record.withdraw := by
  have kept : (publications.map record.withdraw).filter (·.usable) =
      (publications.filter (·.usable)).map record.withdraw := by
    rw [List.filter_map]
    refine congrArg (List.map record.withdraw) (List.filter_congr fun listed _ => ?_)
    exact (withdraw_frame record listed).2.2
  rw [bestRecords_eq, bestRecords_eq, kept]
  exact select_map (fun listed => (withdraw_frame record listed).1)
    (fun listed => (withdraw_frame record listed).2.1) _

end Withdraw

section Standing

/-- A node is attested by those who attest its record. -/
theorem composeForest_attestors [StdSort] {admissions : Admissions} {resources : Resources}
    {node : FailureDomainNode} (listed : node ∈ (composeForest admissions resources).nodes) :
    ∃ (key : ResourceKey) (record : ResourceRecord), resources[key]? = some record ∧
      node.attestors = record.sources := by
  obtain ⟨_, _, frame⟩ := (plantForest admissions resources).resolveAncestry.grade_frame
  rw [composeForest, frame] at listed
  simp only [FailureDomainForest.resolveAncestry, List.map_map, List.mem_map,
    Function.comp_apply] at listed
  obtain ⟨planted, listed, rfl⟩ := listed
  have resolved : (FailureDomainForest.resolveNode (plantForest admissions resources).nodes
      planted).attestors = planted.attestors := by
    unfold FailureDomainForest.resolveNode
    split <;> rfl
  rw [plantForest, mem_sort, List.mem_map] at listed
  obtain ⟨opened, listed, rfl⟩ := listed
  obtain ⟨⟨id, record⟩, recorded, rfl⟩ := List.mem_map.mp listed
  refine ⟨_, record, mem_domainRecords.mp recorded, ?_⟩
  have settled : ∀ (nodes : List FailureDomainNode) (opened : FailureDomainNode),
      (opened.settle nodes).attestors = opened.attestors := by
    intro nodes opened
    unfold FailureDomainNode.settle
    dsimp only
    split <;> split <;> rfl
  have opens : (openNode admissions (id, record)).attestors = record.sources := by
    unfold openNode
    dsimp only
    split <;> rfl
  exact resolved.trans ((settled _ _).trans opens)

theorem ConnectivitySummary.sources_post (s : ConnectivitySummary)
    (entry : ResourceKey × ResourceRecord) : (s.post entry).sources = s.sources ∨
      (s.post entry).sources = s.sources.insertSet entry.2.sources := by
  have link : ∀ link, (s.postLink entry.1 entry.2 link).sources =
      s.sources.insertSet entry.2.sources := by
    intro link
    unfold postLink
    dsimp only
    split <;> split <;> try rfl
    all_goals split <;> rfl
  have gateway : ∀ gateway, (s.postGateway entry.1 entry.2 gateway).sources =
      s.sources.insertSet entry.2.sources := by
    intro gateway
    unfold postGateway
    dsimp only
    split
    · rfl
    · split <;> rfl
  unfold post
  dsimp only
  split
  · exact .inr (link _)
  · exact .inr (gateway _)
  · exact .inl rfl

theorem ConnectivitySummary.mem_sources_post (s : ConnectivitySummary)
    (entry : ResourceKey × ResourceRecord) (source : SourceRef)
    (stands : source ∈ (s.post entry).sources.items) :
    source ∈ s.sources.items ∨ source ∈ entry.2.sources.items := by
  rcases s.sources_post entry with kept | merged
  · exact .inl (kept ▸ stands)
  · exact SourceSet.mem_of_insertSet (merged ▸ stands)

/-- The sources of a summary stand on the records it is over. -/
theorem connectivity_sources [StdSort] {resources : Resources} {source : SourceRef}
    (stands : source ∈ (composeConnectivity resources).sources.items) :
    ∃ (key : ResourceKey) (record : ResourceRecord), resources[key]? = some record ∧
      source ∈ record.sources.items := by
  have posted : ∀ (entries : List (ResourceKey × ResourceRecord)) (s : ConnectivitySummary),
      source ∈ (entries.foldl ConnectivitySummary.post s).sources.items →
        source ∈ s.sources.items ∨ ∃ entry ∈ entries, source ∈ entry.2.sources.items := by
    intro entries
    induction entries with
    | nil => exact fun s member => .inl member
    | cons entry entries ih =>
      intro s member
      rcases ih _ member with early | ⟨late, listed, stands⟩
      · rcases ConnectivitySummary.mem_sources_post s entry source early with old | new
        · exact .inl old
        · exact .inr ⟨entry, List.mem_cons_self, new⟩
      · exact .inr ⟨late, List.mem_cons_of_mem _ listed, stands⟩
  rcases posted resources.toList {} stands with none | ⟨⟨key, record⟩, listed, stands⟩
  · exact absurd none List.not_mem_nil
  · exact ⟨key, record, mem_toList_iff.mp listed, stands⟩

end Standing

namespace CompositionInput

variable [StdSort] {input : CompositionInput} {expectation : SiteExpectation}
  {record : MemberPublicationRecord}

theorem admitted_withdraw (domain : MemberDomainKey) :
    (admitMembers (input.withdraw record) expectation)[domain]? =
      ((bestRecords input.publications)[domain]?).map fun listed =>
        admitRecord input expectation (record.withdraw listed) := by
  rw [admitMembers_lookup, withdraw, bestRecords_withdraw, lookup_map, Option.map_map]
  rfl

theorem agreeBut_withdraw : Admissions.AgreeBut record.domain
    (admitMembers (input.withdraw record) expectation) (admitMembers input expectation) := by
  intro other apart
  rw [admitted_withdraw, admitMembers_lookup]
  refine Option.map_congr fun listed found => ?_
  have named := (selects_of_best found).2
  rw [withdraw_of_ne record (by rw [named]; exact apart)]

/-- A record that claims nothing is silent on every key, withdrawn or not. -/
theorem silent_of_claims (selected : input.Selects record) (silent : record.claims = [])
    (key : ResourceKey) :
    (admitMembers input expectation).Silent record.domain key ∧
      (admitMembers (input.withdraw record) expectation).Silent record.domain key := by
  have best : (bestRecords input.publications)[record.domain]? = some record := selected
  constructor
  · intro a found claim claimed
    rw [admitMembers_lookup, best] at found
    cases found
    rw [show (admitRecord input expectation record).claims = [] from silent] at claimed
    exact absurd claimed List.not_mem_nil
  · intro a found claim claimed
    rw [admitted_withdraw, best] at found
    cases found
    have none : (admitRecord input expectation (record.withdraw record)).claims = [] :=
      (withdraw_claims record silent record).trans silent
    rw [none] at claimed
    exact absurd claimed List.not_mem_nil

theorem resources_withdraw (selected : input.Selects record) (silent : record.claims = []) :
    (input.withdraw record).resources expectation = input.resources expectation :=
  ext_lookup fun key =>
    resources_agree agreeBut_withdraw (silent_of_claims selected silent key).1
      (silent_of_claims selected silent key).2

theorem unheard_of_silent {site : ComposedSite} (parts : input.Composes expectation site)
    (composed : compose input = .composed site) (selected : input.Selects record)
    (silent : record.claims = []) : input.Unheard site record := by
  have few := (prepare_ok parts.prepared).1
  have orderly := @admitMembers_orderly _ _ expectation few
  have absent : ∀ (key : ResourceKey) found, (input.resources expectation)[key]? = some found →
      record.source ∉ found.sources.items := by
    intro key found listed stands
    obtain ⟨claim, claimed, _⟩ := (stands_iff few selected listed).mp stands
    rw [silent] at claimed
    exact absurd claimed List.not_mem_nil
  refine { ownership := ?_, ledger := ?_, forest := ?_, connectivity := ?_, removable := ?_ }
  · rw [parts.ownership]
    intro attribution listed
    obtain ⟨⟨key, found⟩, entry, rfl⟩ := List.mem_map.mp listed
    exact absent key found (mem_toList_iff.mp entry)
  · rw [parts.capacity]
    intro entry listed
    obtain ⟨build, built, rfl⟩ := List.mem_map.mp listed
    obtain ⟨key, found, offer, named, _, rfl⟩ := mem_collectLedgerBuilds.mp built
    rw [ledgerEntry_attestors, ledgerBuild_attestors]
    exact absent key found named
  · rw [parts.failureDomains]
    intro node listed
    obtain ⟨key, found, named, same⟩ := composeForest_attestors listed
    rw [same]
    exact absent key found named
  · rw [parts.connectivity]
    intro stands
    obtain ⟨key, found, named, member⟩ := connectivity_sources stands
    exact absent key found named member
  · have few' : (input.publications.map record.withdraw).length ≤ Limits.maxMemberDomains := by
      rw [List.length_map]
      exact few
    refine parts.agree composed (prepare_publications parts.prepared few') rfl
      (resources_withdraw selected silent) ?_
    refine openNodes_agree agreeBut_withdraw (fun _ _ => rfl) fun key found _ named => ?_
    exact fun attestation => attestor_apart orderly (silent_of_claims selected silent key).1 named

/-- A record is unheard exactly when it claims nothing. -/
theorem unheard_iff {site : ComposedSite} (parts : input.Composes expectation site)
    (composed : compose input = .composed site) (selected : input.Selects record) :
    input.Unheard site record ↔ record.claims = [] := by
  have few := (prepare_ok parts.prepared).1
  refine ⟨fun unheard => ?_, unheard_of_silent parts composed selected⟩
  by_contra speaks
  obtain ⟨claim, claimed⟩ := List.exists_mem_of_ne_nil _ speaks
  have named : input.claimsOn claim.key ≠ [] :=
    List.ne_nil_of_mem (mem_claimsOn.mpr ⟨record, selected, claimed, rfl⟩)
  obtain ⟨found, listed⟩ := Option.isSome_iff_exists.mp
    ((@resources_isSome_iff _ _ expectation claim.key).mpr named)
  have owned : found.attribution claim.key ∈ site.ownership := by
    rw [parts.ownership]
    exact List.mem_map.mpr ⟨(claim.key, found), mem_toList_iff.mpr listed, rfl⟩
  exact unheard.ownership _ owned ((stands_iff few selected listed).mpr ⟨claim, claimed, rfl⟩)

end CompositionInput

/-- No rejected record is heard exactly when no rejected record claims anything. -/
theorem rejected_records_are_unheard_iff [StdSort] {input : CompositionInput}
    {expectation : SiteExpectation} {site : ComposedSite}
    (prepared : input.prepare = .ok expectation) (composed : compose input = .composed site) :
    (∀ record, input.Selects record → input.Rejects expectation record →
        input.Unheard site record) ↔
      ∀ record, input.Selects record → input.Rejects expectation record → record.claims = [] := by
  obtain ⟨expectation', parts⟩ := CompositionInput.compose_composes composed
  obtain rfl : expectation' = expectation :=
    Except.ok.inj (parts.prepared.symm.trans prepared)
  refine forall_congr' fun record => forall₂_congr fun selected _ => ?_
  exact CompositionInput.unheard_iff parts composed selected

/-- The record of another site about a rack with some links. -/
def MemberPublicationRecord.stray (links : List SharedLinkClaim) : MemberPublicationRecord :=
  { ({ MemberDomainDeclaration.sample (ascii "rack-2") with
      sharedLinks := links } : MemberDomainDeclaration).publication with
    site := ⟨ascii "site-2"⟩ }

theorem MemberPublicationRecord.stray_sealed (links : List SharedLinkClaim) :
    (stray links).Sealed := by
  rintro declaration ⟨⟩
  exact ⟨rfl, rfl⟩

/-- Nobody but a stray record without links. -/
def CompositionInput.mute : CompositionInput :=
  { CompositionInput.sample [] with publications := [.stray []] }

theorem mute_stray_is_unheard :
    ∃ site, compose .mute = .composed site ∧ CompositionInput.mute.Selects (.stray []) ∧
      CompositionInput.mute.Unheard site (.stray []) := by
  have sealed : CompositionInput.mute.Sealed :=
    List.forall_mem_singleton.mpr (MemberPublicationRecord.stray_sealed _)
  obtain ⟨site, composed, _⟩ := CompositionInput.composed_of_sealed
    (show (composeSealed .mute).passes (fun _ => true) = true by decide +kernel) sealed
  obtain ⟨expectation, parts⟩ := CompositionInput.compose_composes composed
  have selected : CompositionInput.mute.Selects (.stray []) :=
    sealed.best_of_folded (MemberPublicationRecord.stray_sealed _) (by decide +kernel)
  have rejected : CompositionInput.mute.Rejects expectation (.stray []) :=
    { notRevoked := List.not_mem_nil
      notRetired := fun _ listed => absurd listed List.not_mem_nil
      ground := .inl (by decide) }
  refine ⟨site, composed, selected,
    (rejected_records_are_unheard_iff parts.prepared composed).mpr ?_ _ selected rejected⟩
  intro record chosen _
  rw [List.mem_singleton.mp (bestRecords_mem chosen).1]
  rfl

/-- A rack with an external link, and a record of another site. -/
def CompositionInput.strayed (links : List SharedLinkClaim) : CompositionInput :=
  let honest := MemberDomainDeclaration.uplinked [.sample (ascii "link-1") 5]
  { CompositionInput.sample [honest] with
    publications := [honest.publication, .stray links] }

/-- A record of another site makes the site disown a link that its one rightful
claimant attests. -/
theorem stray_record_withdraws_a_link :
    ∃ expectation site,
      (CompositionInput.strayed [.sample (ascii "link-1") 7]).prepare = .ok expectation ∧
      compose (.strayed [.sample (ascii "link-1") 7]) = .composed site ∧
      site.attributes (.sharedLink ⟨ascii "link-1"⟩) = false ∧
      ¬ ∀ record, (CompositionInput.strayed [.sample (ascii "link-1") 7]).Selects record →
        (CompositionInput.strayed [.sample (ascii "link-1") 7]).Rejects expectation record →
          (CompositionInput.strayed [.sample (ascii "link-1") 7]).Unheard site record := by
  have sealed : (CompositionInput.strayed [.sample (ascii "link-1") 7]).Sealed :=
    List.forall_mem_cons.mpr ⟨MemberDomainDeclaration.publication_sealed _,
      List.forall_mem_singleton.mpr (MemberPublicationRecord.stray_sealed _)⟩
  obtain ⟨site, composed, disowned⟩ := CompositionInput.composed_of_sealed
    (show (composeSealed (.strayed [.sample (ascii "link-1") 7])).passes
      (fun site => !site.attributes (.sharedLink ⟨ascii "link-1"⟩)) = true by decide +kernel) sealed
  obtain ⟨expectation, parts⟩ := CompositionInput.compose_composes composed
  refine ⟨expectation, site, parts.prepared, composed, by simpa using disowned, fun all => ?_⟩
  have selected : (CompositionInput.strayed [.sample (ascii "link-1") 7]).Selects
      (.stray [.sample (ascii "link-1") 7]) :=
    sealed.best_of_folded (MemberPublicationRecord.stray_sealed _) (by decide +kernel)
  have unheard := all _ selected
    { notRevoked := List.not_mem_nil
      notRetired := fun _ listed => absurd listed List.not_mem_nil
      ground := .inl (by decide) }
  have silent := (CompositionInput.unheard_iff parts composed selected).mp unheard
  cases silent

end SiteFabric
