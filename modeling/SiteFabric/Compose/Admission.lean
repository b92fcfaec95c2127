import SiteFabric.Compose.Site
import SiteFabric.Core.Sealing
import SiteFabric.Lib.Selection

/-! Per-domain admission: exactly one record speaks for a domain, and it is
judged by a fixed cascade. `judge_current_iff` is what a domain must show to be
CURRENT; every other branch of the cascade names the first thing it lacks. -/

namespace SiteFabric

open Lib
open Std (ExtTreeMap)

/-- A record the selection reads at all. -/
def MemberPublicationRecord.usable (r : MemberPublicationRecord) : Bool :=
  r.domain.valid && !r.generation.isUnset && !r.digest.isZero

/-- Whether a later record takes the place of the incumbent. Equal standing
keeps the incumbent. -/
def MemberPublicationRecord.replaces (record incumbent : MemberPublicationRecord) : Bool :=
  decide (record.generation > incumbent.generation) ||
    (record.generation = incumbent.generation && decide (record.attempt > incumbent.attempt)) ||
    (record.generation = incumbent.generation && record.attempt = incumbent.attempt &&
      decide (record.acceptanceSequence > incumbent.acceptanceSequence))

/-- Generation, then attempt, then acceptance sequence. -/
def MemberPublicationRecord.standing (r : MemberPublicationRecord) :
    Generation ×ₗ (PublishAttempt ×ₗ Nat) :=
  toLex (r.generation, toLex (r.attempt, r.acceptanceSequence.toNat))

abbrev BestRecords := ExtTreeMap MemberDomainKey MemberPublicationRecord compare

def keepBetter (best : BestRecords) (record : MemberPublicationRecord) : BestRecords :=
  match best[record.domain]? with
  | none => best.insert record.domain record
  | some incumbent =>
    if record.replaces incumbent then best.insert record.domain record else best

def bestRecords (publications : List MemberPublicationRecord) : BestRecords :=
  (publications.filter (·.usable)).foldl keepBetter ∅

theorem MemberPublicationRecord.replaces_eq (record incumbent : MemberPublicationRecord) :
    record.replaces incumbent = decide (incumbent.standing < record.standing) := by
  rw [Bool.eq_iff_iff, decide_eq_true_eq]
  simp only [replaces, standing, Prod.Lex.toLex_lt_toLex, Bool.or_eq_true, Bool.and_eq_true,
    decide_eq_true_eq, gt_iff_lt, UInt64.lt_iff_toNat_lt]
  grind

/-- The code's selection is the library's, under the records' standing. -/
theorem bestRecords_eq (publications : List MemberPublicationRecord) :
    bestRecords publications =
      select MemberPublicationRecord.domain MemberPublicationRecord.standing
        (publications.filter (·.usable)) := by
  have step : keepBetter =
      consider MemberPublicationRecord.domain MemberPublicationRecord.standing := by
    funext best record
    simp only [keepBetter, consider, MemberPublicationRecord.replaces_eq, decide_eq_true_eq]
    cases best[record.domain]? with
    | none => rfl
    | some incumbent => exact if_congr Iff.rfl rfl rfl
  rw [bestRecords, step, select]

theorem bestRecords_mem {publications : List MemberPublicationRecord} {domain : MemberDomainKey}
    {record : MemberPublicationRecord} (found : (bestRecords publications)[domain]? = some record) :
    record ∈ publications ∧ record.usable = true ∧ record.domain = domain := by
  rw [bestRecords_eq] at found
  obtain ⟨member, named⟩ := select_mem found
  obtain ⟨listed, usable⟩ := List.mem_filter.mp member
  exact ⟨listed, usable, named⟩

/-- No two records of one domain agree on generation, attempt and acceptance
sequence. -/
def DistinctStandings (publications : List MemberPublicationRecord) : Prop :=
  ∀ a ∈ publications, ∀ b ∈ publications, a.domain = b.domain → a.generation = b.generation →
    a.attempt = b.attempt → a.acceptanceSequence = b.acceptanceSequence → a = b

theorem bestRecords_perm {publications publications' : List MemberPublicationRecord}
    (perm : publications'.Perm publications) (distinct : DistinctStandings publications) :
    bestRecords publications' = bestRecords publications := by
  rw [bestRecords_eq, bestRecords_eq]
  refine select_perm (perm.filter _) fun a memberA b memberB named tied => ?_
  obtain ⟨generation, attempt, sequence⟩ := by simpa [MemberPublicationRecord.standing] using tied
  exact distinct a (List.mem_filter.mp memberA).1 b (List.mem_filter.mp memberB).1 named generation
    attempt (UInt64.toNat_inj.mp sequence)

/-- The outcome of the cascade for one domain. -/
structure Standing where
  lifecycle : MemberLifecycle
  status : Status
  factors : Factors := {}
deriving DecidableEq, Inhabited

def Standing.because (s : Standing) (label value : Text) : Standing :=
  { s with factors := s.factors.add label value }

def evidenceToStatus : EvidenceState → Status
  | .fresh => .ok
  | .stale => .evidenceStale
  | .future => .evidenceFuture
  | .syntheticOnly => .evidenceSyntheticOnly
  | .reconstructedNeedsRevalidation => .evidenceStale
  | .invalid => .invalid
  | .unknown => .evidenceMissing

/-- The last word when nothing else was said: the declaration's own evidence. -/
def judgeEvidence (state : EvidenceState) : Standing :=
  match state with
  | .fresh => { lifecycle := .current, status := .current }
  | .syntheticOnly =>
    Standing.because { lifecycle := .reported, status := .evidenceSyntheticOnly }
      (ascii "provenance") (ascii "SYNTHETIC")
  | .reconstructedNeedsRevalidation =>
    Standing.because { lifecycle := .stale, status := .evidenceStale }
      (ascii "provenance") (ascii "RECONSTRUCTED")
  | state =>
    Standing.because { lifecycle := .stale, status := evidenceToStatus state }
      (ascii "evidence") state.token

section Judge

variable [StdSort] (input : CompositionInput) (expectation : SiteExpectation)

/-- What the declaration's content, or the expectation, holds against it. -/
def objection (record : MemberPublicationRecord) (declaration : MemberDomainDeclaration) :
    Option Standing :=
  let declared := declaration.validate
  if !declared.isOk then
    some (Standing.because { lifecycle := .incompatible, status := declared }
      (ascii "declaration_invalid") declared.token)
  else
    match expectation.find record.domain with
    | some expected =>
      if !expected.pinned then none
      else if expected.generation ≠ record.generation then
        some ((Standing.because { lifecycle := .conflicting, status := .generationMismatch }
          (ascii "expected_generation") expected.generation.toText).because
          (ascii "actual_generation") record.generation.toText)
      else if expected.digest ≠ record.digest then
        some ((Standing.because { lifecycle := .conflicting, status := .digestMismatchDeclaration }
          (ascii "expected_digest") expected.digest.shortHex).because
          (ascii "actual_digest") record.digest.shortHex)
      else none
    | none =>
      if expectation.rejectUnexpected then
        some (Standing.because { lifecycle := .incompatible, status := .membershipUnexpected }
          (ascii "unexpected_domain") record.domain.toText)
      else none

def receive (record : MemberPublicationRecord) (declaration : MemberDomainDeclaration) : Standing :=
  match objection expectation record declaration with
  | some against => against
  | none =>
    if input.reconstructed.contains record.domain then
      -- Recovered from disk: intact, but a record of the past.
      (Standing.because { lifecycle := .stale, status := .evidenceStale }
        (ascii "provenance") (ascii "RECONSTRUCTED")).because (ascii "source") (ascii "recovered")
    else judgeEvidence (declaration.evidence.evaluate input.nowMs)

def judgeContent (record : MemberPublicationRecord) (declaration : MemberDomainDeclaration) :
    Standing :=
  let standing := receive input expectation record declaration
  if (expectation.find record.domain).isNone && !expectation.rejectUnexpected &&
      standing.lifecycle == .current then
    standing.because (ascii "unexpected_domain") record.domain.toText
  else standing

def judgeDeclaration (record : MemberPublicationRecord) (declaration : MemberDomainDeclaration) :
    Standing :=
  if declaration.digest ≠ record.digest then
    (Standing.because { lifecycle := .conflicting, status := .digestMismatchDeclaration }
      (ascii "record_digest") record.digest.shortHex).because
      (ascii "declaration_digest") declaration.digest.shortHex
  else if declaration.computeDigest ≠ record.digest then
    Standing.because { lifecycle := .conflicting, status := .digestMismatchDeclaration }
      (ascii "recomputed") declaration.computeDigest.shortHex
  else judgeContent input expectation record declaration

def judge (record : MemberPublicationRecord) : Standing :=
  if input.revoked.contains record.domain then
    Standing.because { lifecycle := .revoked, status := .leaseRevoked }
      (ascii "revoked") (ascii "true")
  else if (input.retirements.map (·.domain)).contains record.domain then
    Standing.because { lifecycle := .retired, status := .alreadyRetired }
      (ascii "retired") (ascii "true")
  else if record.site ≠ input.site then
    Standing.because { lifecycle := .incompatible, status := .siteMismatch }
      (ascii "site") record.site.value
  else if !record.schema.compatibleWith SchemaVersion.model then
    Standing.because { lifecycle := .incompatible, status := .schemaIncompatible }
      (ascii "schema") record.schema.toText
  else if record.observedEpoch > input.epoch then
    (Standing.because { lifecycle := .incompatible, status := .epochMismatch }
      (ascii "observed_epoch") record.observedEpoch.toText).because
      (ascii "site_epoch") input.epoch.toText
  else
    match record.declaration with
    | none =>
      Standing.because { lifecycle := .reported, status := .partialKnowledge }
        (ascii "declaration") (ascii "not_retained")
    | some declaration => judgeDeclaration input expectation record declaration

/-- What a record must show to make its domain CURRENT. -/
structure Earned (record : MemberPublicationRecord) : Prop where
  notRevoked : record.domain ∉ input.revoked
  notRetired : ∀ retirement ∈ input.retirements, retirement.domain ≠ record.domain
  site : record.site = input.site
  schema : record.schema.compatibleWith SchemaVersion.model = true
  epoch : record.observedEpoch ≤ input.epoch
  declared : ∃ declaration, record.declaration = some declaration ∧
    declaration.digest = record.digest ∧ declaration.computeDigest = record.digest ∧
    (∃ canonical, declaration.canonicalize = .ok canonical) ∧
    declaration.evidence.evaluate input.nowMs = .fresh
  pin : ∀ expected, expectation.find record.domain = some expected → expected.pinned = true →
    expected.generation = record.generation ∧ expected.digest = record.digest
  welcome : expectation.rejectUnexpected = true → (expectation.find record.domain).isSome = true
  notReconstructed : record.domain ∉ input.reconstructed

omit [StdSort] in
theorem judgeEvidence_current_iff (state : EvidenceState) :
    (judgeEvidence state).lifecycle = .current ↔ state = .fresh := by
  cases state <;> simp [judgeEvidence, Standing.because]

theorem objection_ne_current {record : MemberPublicationRecord}
    {declaration : MemberDomainDeclaration} {against : Standing}
    (objected : objection expectation record declaration = some against) :
    against.lifecycle ≠ .current := by
  unfold objection at objected
  grind [Standing.because]

theorem objection_none_iff (record : MemberPublicationRecord)
    (declaration : MemberDomainDeclaration) :
    objection expectation record declaration = none ↔
      (∃ canonical, declaration.canonicalize = .ok canonical) ∧
      (∀ expected, expectation.find record.domain = some expected → expected.pinned = true →
        expected.generation = record.generation ∧ expected.digest = record.digest) ∧
      (expectation.rejectUnexpected = true → (expectation.find record.domain).isSome = true) := by
  rw [← declaration.validate_isOk_iff]
  unfold objection
  by_cases valid : declaration.validate.isOk = true
  · cases expectation.find record.domain with
    | none => simp [valid]
    | some expected =>
      by_cases pinned : expected.pinned = true
      · by_cases generation : expected.generation = record.generation
        · simp [valid, pinned, generation]
        · simp [valid, pinned, generation]
      · simp [valid, pinned]
  · simp [valid]

theorem judgeContent_current_iff (record : MemberPublicationRecord)
    (declaration : MemberDomainDeclaration) :
    (judgeContent input expectation record declaration).lifecycle = .current ↔
      objection expectation record declaration = none ∧ record.domain ∉ input.reconstructed ∧
        declaration.evidence.evaluate input.nowMs = .fresh := by
  have marked : (judgeContent input expectation record declaration).lifecycle =
      (receive input expectation record declaration).lifecycle := by
    simp only [judgeContent]
    split <;> rfl
  rw [marked, receive]
  cases objected : objection expectation record declaration with
  | some against => simp [objection_ne_current expectation objected]
  | none =>
    by_cases recovered : record.domain ∈ input.reconstructed
    · simp [recovered, Standing.because]
    · simp [recovered, judgeEvidence_current_iff]

theorem judge_current_iff (record : MemberPublicationRecord) :
    (judge input expectation record).lifecycle = .current ↔ Earned input expectation record := by
  constructor
  · intro current
    unfold judge at current
    split at current
    · simp [Standing.because] at current
    split at current
    · simp [Standing.because] at current
    split at current
    · simp [Standing.because] at current
    split at current
    · simp [Standing.because] at current
    split at current
    · simp [Standing.because] at current
    next notRevoked notRetired site schema epoch =>
    cases declared : record.declaration with
    | none => simp [declared, Standing.because] at current
    | some declaration =>
      simp only [declared] at current
      unfold judgeDeclaration at current
      split at current
      · simp [Standing.because] at current
      split at current
      · simp [Standing.because] at current
      next digest recomputed =>
      obtain ⟨unopposed, notReconstructed, fresh⟩ :=
        (judgeContent_current_iff input expectation record declaration).mp current
      obtain ⟨canonical, pin, welcome⟩ := (objection_none_iff expectation record _).mp unopposed
      exact {
        notRevoked := by simpa using notRevoked
        notRetired := by simpa using notRetired
        site := by simpa using site
        schema := by simpa using schema
        epoch := by simpa using epoch
        declared := ⟨declaration, declared, by simpa using digest, by simpa using recomputed,
          canonical, fresh⟩
        pin, welcome, notReconstructed }
  · intro earned
    obtain ⟨declaration, declared, digest, recomputed, canonical, fresh⟩ := earned.declared
    have unopposed := (objection_none_iff expectation record declaration).mpr
      ⟨canonical, earned.pin, earned.welcome⟩
    have content := (judgeContent_current_iff input expectation record declaration).mpr
      ⟨unopposed, earned.notReconstructed, fresh⟩
    have notRetired : ¬ ∃ retirement ∈ input.retirements, retirement.domain = record.domain :=
      fun ⟨retirement, listed, same⟩ => earned.notRetired retirement listed same
    simp [judge, judgeDeclaration, earned.notRevoked, notRetired, earned.site, earned.schema,
      not_lt.mpr earned.epoch, declared, digest, recomputed, content]

end Judge

/-- The record that speaks for a domain, and how it was received. -/
structure Admission where
  record : MemberPublicationRecord := {}
  lifecycle : MemberLifecycle := .unknown
  status : Status := .unknown
  evidenceState : EvidenceState := .unknown
  expected : Bool := false
  expectationPinned : Bool := false
  factors : Factors := {}
deriving DecidableEq, Inhabited

namespace Admission

def authoritative (a : Admission) : Bool := a.lifecycle == .current

def source (a : Admission) : SourceRef := a.record.source

/-- The site's view of the domain. -/
def state (a : Admission) : MemberDomainState where
  domain := a.record.domain
  lifecycle := a.lifecycle
  status := a.status
  generation := a.record.generation
  digest := a.record.digest
  schema := a.record.schema
  incarnation := a.record.incarnation
  publisher := a.record.publisher
  receivedAtMs := a.record.receivedAtMs
  evidenceState := a.evidenceState
  expected := a.expected
  expectationPinned := a.expectationPinned
  source := a.source
  factors := a.factors

end Admission

section Admit

variable [StdSort] (input : CompositionInput) (expectation : SiteExpectation)

def admitRecord (record : MemberPublicationRecord) : Admission :=
  let standing := judge input expectation record
  let expected := expectation.find record.domain
  { record
    lifecycle := standing.lifecycle
    status := standing.status
    evidenceState := (record.declaration.map (·.evidence.evaluate input.nowMs)).getD .unknown
    expected := expected.isSome
    expectationPinned := (expected.map (·.pinned)).getD false
    factors := standing.factors }

abbrev Admissions := ExtTreeMap MemberDomainKey Admission compare

def admitMembers : Admissions :=
  (bestRecords input.publications).map fun _ record => admitRecord input expectation record

theorem admitMembers_lookup (domain : MemberDomainKey) :
    (admitMembers input expectation)[domain]? =
      ((bestRecords input.publications)[domain]?).map (admitRecord input expectation) := by
  rw [admitMembers, lookup_map]

end Admit

end SiteFabric
