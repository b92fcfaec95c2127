import SiteFabric.Authority.Incarnations
import SiteFabric.Compose.Composer
import SiteFabric.Controller.Chain
import SiteFabric.Store.Files

/-! The site controller.
It holds the publications of its member domains, fences every offer against the
authority registry, composes on demand and publishes what it composed to the
chain. Entry points run one after the other; what the clock and the file system
say during a call comes with the call. A composition that crashes takes the
process with it. -/

namespace SiteFabric

open Lib Authority Store
open Std (ExtTreeMap)

abbrev ControllerId := StrongId .controller

namespace Limits

def maxConnections : Nat := 512

end Limits

structure ControllerConfig where
  site : SiteId := {}
  expectation : SiteExpectation := {}
  id : ControllerId := {}
  incarnation : Incarnation := {}
  leaseTtlMs : Int64 := 30000
  maxConnections : Nat := 64
  retainDeclarations : Bool := true
  persistent : Bool := false
  store : StoreConfig := {}
  snapshotHistory : Nat := Limits.defaultSnapshotHistory
  composeOnPublish : Bool := true
deriving DecidableEq

/-- What the clock, the file system and the network answer during one call. A
recomposition inside a call reads the clock again. -/
structure Moment where
  nowMs : Int64
  recomposeMs : Int64 := nowMs
  opening : Answers := {}
  record : Answers := {}
  tombstone : Answers := {}
  snapshot : Answers := {}
  bound : Status := .ok
deriving DecidableEq

structure SiteController where
  config : ControllerConfig
  authority : Registry := {}
  chain : SnapshotChain := {}
  store : Option SiteStore := none
  publications : ExtTreeMap MemberDomainKey MemberPublicationRecord compare := ∅
  retirements : List MemberRetirementRecord := []
  revoked : List MemberDomainKey := []
  reconstructed : List MemberDomainKey := []
  acceptanceSequence : UInt64 := 0
  siteGeneration : Generation := {}
  token : AuthorityToken := {}
  incarnation : Incarnation := {}
  epoch : Epoch := {}
  running : Bool := false
  crashed : Bool := false
  /-- A history variable: every append asked of the store, and its answer. -/
  journal : List (Content × Status) := []

structure PublishResponse where
  status : Status := .unknown
  site : SiteId := {}
  epoch : Epoch := {}
  siteGeneration : Generation := {}
  acceptanceSequence : UInt64 := 0
  recomposed : Bool := false
  factors : Factors := {}
deriving DecidableEq

structure RetireRequest where
  domain : MemberDomainKey := {}
  generation : Generation := {}
  incarnation : Incarnation := {}
  reason : Text := Text.empty
deriving DecidableEq

structure RetireResponse where
  status : Status := .unknown
  site : SiteId := {}
  epoch : Epoch := {}
  acceptanceSequence : UInt64 := 0
  factors : Factors := {}
deriving DecidableEq

/-- The death record of an incarnation, as the store keeps it. -/
def tombstoneText (domain : MemberDomainKey) (incarnation : Incarnation) : Text :=
  domain.toText ++ ascii "/" ++ incarnation.toText

/-- An answer that notes a step that failed. -/
def Factors.note (f : Factors) (label : Text) (status : Status) : Factors :=
  if status.isOk then f else f.add label status.token

namespace SiteController

/-- The constructor. A missing nonce is drawn at random, a missing sequence is one. -/
def construct (config : ControllerConfig) (nonce : BootNonce) : SiteController where
  config := config
  chain := ({} : SnapshotChain).setHistoryLimit config.snapshotHistory
  incarnation :=
    { sequence := if config.incarnation.sequence = 0 then 1 else config.incarnation.sequence
      boot := if config.incarnation.boot.valid then config.incarnation.boot else nonce }

def create (config : ControllerConfig) (nonce : BootNonce) : Except Status SiteController :=
  if !config.site.valid then .error .invalid
  else if config.leaseTtlMs ≤ 0 then .error .invalid
  else if config.maxConnections = 0 ∨ config.maxConnections > Limits.maxConnections then
    .error .invalid
  else if config.snapshotHistory > Limits.maxSnapshotHistory then .error .invalid
  else
    let expectation :=
      if config.expectation.site.isEmpty then { config.expectation with site := config.site }
      else config.expectation
    match expectation.canonicalize with
    | .error _ => .error .invalid
    | .ok expectation => .ok { construct config nonce with config := { config with expectation } }

/-- An append to the store, when there is one. -/
def persist (c : SiteController) (io : Answers) (content : Content) : Status × SiteController :=
  match c.store with
  | none => (.ok, c)
  | some store =>
    let appended := store.append io content
    (appended.1,
      { c with store := some appended.2, journal := c.journal ++ [(content, appended.1)] })

/-- A domain that reports is no longer only a recovered record. -/
def reported (c : SiteController) (domain : MemberDomainKey) : SiteController :=
  { c with reconstructed := c.reconstructed.filter (· ≠ domain) }

def compositionInput (c : SiteController) (nowMs : Int64) : CompositionInput where
  site := c.config.site
  epoch := c.epoch
  generation := c.siteGeneration.next
  incarnation := c.incarnation
  nowMs := nowMs
  expectation := c.config.expectation
  publications := c.publications.toList.map Prod.snd
  retirements := c.retirements
  revoked := c.revoked
  reconstructed := c.reconstructed

def acquireRequest (c : SiteController) (generation : Generation) (nowMs : Int64) :
    AcquireRequest where
  holder := c.config.id.value
  site := c.config.site
  epoch := c.epoch
  incarnation := c.incarnation
  generation := generation
  nowMs := nowMs
  ttlMs := c.config.leaseTtlMs

/-- The snapshot of a composed site, before it has a number. -/
def snapshotOf (site : ComposedSite) (nowMs : Int64) : SiteSnapshot where
  site := site.site
  epoch := site.epoch
  generation := site.generation
  incarnation := site.incarnation
  publishedAtMs := nowMs
  lifecycle := site.lifecycle
  status := site.status
  complete := site.membershipComplete && site.lifecycle == .current
  sources := SourceSet.gatherFrom SiteDecision.sources site.decisions
  factors := site.factors
  state := site

/-- The end of a recomposition: the snapshot goes to the chain and, with the
number the chain gave it, to the store. -/
def publishSnapshot (c : SiteController) (io : Moment) (generation : Generation)
    (snapshot : SiteSnapshot) : SiteController × SnapshotPublishResult :=
  let published := c.chain.publish snapshot c.token io.recomposeMs
  let c := { c with chain := published.1 }
  if !published.2.status.isOk || published.2.status == .alreadyExists then (c, published.2)
  else
    let c := { c with siteGeneration := generation }
    let persisted := c.persist io.snapshot (.snapshot (c.chain.current.getD snapshot))
    (persisted.2,
      { published.2 with
        factors := published.2.factors.note (ascii "persist_snapshot") persisted.1 })

/-- The lease must carry the generation being published. -/
def publishSite (c : SiteController) (io : Moment) (generation : Generation) (site : ComposedSite) :
    SiteController × SnapshotPublishResult :=
  let acquired := c.authority.acquireSiteAuthority (c.acquireRequest generation io.recomposeMs)
  let c := { c with authority := acquired.registry }
  if !acquired.status.isOk then
    (c, { status := acquired.status
          factors := ({} : Factors).add (ascii "authority") acquired.status.token })
  else
    let c := { c with token := acquired.token.getD {} }
    let digested := (snapshotOf site io.recomposeMs).recomputeDigest
    if !digested.1.isOk then (c, { status := digested.1 })
    else c.publishSnapshot io generation digested.2

variable [StdSort]

def recompose (c : SiteController) (io : Moment) : SiteController × SnapshotPublishResult :=
  match compose (c.compositionInput io.recomposeMs) with
  | .crashed => ({ c with crashed := true }, {})
  | .refused status =>
    (c, { status, factors := ({} : Factors).add (ascii "compose") status.token })
  | .composed site => c.publishSite io c.siteGeneration.next site

/-- The record of a declaration that passed the fences. -/
def recordOf (c : SiteController) (io : Moment) (publisher : MemberId) (incarnation : Incarnation)
    (declaration canonical : MemberDomainDeclaration) (attempt : PublishAttempt) :
    MemberPublicationRecord where
  domain := canonical.domain
  generation := canonical.generation
  digest := canonical.digest
  schema := canonical.schema
  site := canonical.site
  observedEpoch := declaration.observedEpoch
  incarnation := incarnation
  publisher := publisher
  attempt := attempt
  receivedAtMs := io.nowMs
  acceptanceSequence := c.acceptanceSequence + 1
  declaration := if c.config.retainDeclarations then some canonical else none

/-- What the fences see of a record. -/
def offerOf (r : MemberPublicationRecord) : Registry.Offer where
  domain := r.domain
  epoch := r.observedEpoch
  incarnation := r.incarnation
  generation := r.generation
  digest := r.digest
  attempt := r.attempt

/-- What a publication comes to: refused with an answer, or the record it makes. -/
def judge (c : SiteController) (io : Moment) (publisher : MemberId) (incarnation : Incarnation)
    (declaration : MemberDomainDeclaration) (attempt : PublishAttempt) :
    Except (Status × Factors) MemberPublicationRecord :=
  if !declaration.domain.valid || declaration.site != c.config.site then .error (.siteMismatch, {})
  else match declaration.sealDeclaration with
    | .error status => .error (status, {})
    | .ok canonical =>
      if !declaration.digest.isZero && declaration.digest != canonical.digest then
        .error (.digestMismatchDeclaration,
          ({} : Factors).add (ascii "recomputed") canonical.digest.shortHex)
      else
        let record := c.recordOf io publisher incarnation declaration canonical attempt
        let fenced := c.authority.fencePublication (offerOf record)
        if !fenced.isOk then .error (fenced, {}) else .ok record

/-- The registry map and the high-water marks take a record. -/
def enter (c : SiteController) (io : Moment) (record : MemberPublicationRecord) : SiteController :=
  { c.reported record.domain with
    acceptanceSequence := record.acceptanceSequence
    publications := c.publications.insert record.domain record
    authority := (c.authority.recordPublication (offerOf record) io.nowMs).1 }

def publish (c : SiteController) (io : Moment) (publisher : MemberId) (incarnation : Incarnation)
    (declaration : MemberDomainDeclaration) (attempt : PublishAttempt) :
    SiteController × PublishResponse :=
  match c.judge io publisher incarnation declaration attempt with
  | .error (status, factors) =>
    (c, { status, site := c.config.site, epoch := c.epoch, factors })
  | .ok record =>
    let entered := (c.enter io record).persist io.record (.publication record)
    let response : PublishResponse :=
      { status := .accepted, site := c.config.site, epoch := c.epoch
        siteGeneration := c.siteGeneration, acceptanceSequence := record.acceptanceSequence
        factors := ({} : Factors).note (ascii "persist_publication") entered.1 }
    if !c.config.composeOnPublish then (entered.2, response)
    else
      let composed := entered.2.recompose io
      if composed.2.status.isOk && composed.2.accepted then
        (composed.1, { response with recomposed := true, siteGeneration := composed.1.siteGeneration })
      else
        (composed.1,
          { response with
            factors := response.factors.note (ascii "recompose") composed.2.status })

def retirementOf (c : SiteController) (io : Moment) (request : RetireRequest) :
    MemberRetirementRecord where
  domain := request.domain
  generation := request.generation
  incarnation := request.incarnation
  receivedAtMs := io.nowMs
  acceptanceSequence := c.acceptanceSequence + 1
  reason := request.reason

/-- The list of retirements takes a record, and the incarnation dies. -/
def withdraw (c : SiteController) (io : Moment) (record : MemberRetirementRecord) : SiteController :=
  { c.reported record.domain with
    acceptanceSequence := record.acceptanceSequence
    retirements := c.retirements ++ [record]
    authority :=
      (c.authority.retireMemberIncarnation record.domain record.incarnation io.nowMs).1 }

def retire (c : SiteController) (io : Moment) (request : RetireRequest) :
    SiteController × RetireResponse :=
  if !request.domain.valid then
    (c, { status := .invalid, site := c.config.site, epoch := c.epoch })
  else if !c.authority.memberIncarnationLive request.domain request.incarnation then
    (c, { status := .fencedIncarnation, site := c.config.site, epoch := c.epoch })
  else
    let record := c.retirementOf io request
    let retired := (c.withdraw io record).persist io.record (.retirement record)
    let buried := retired.2.persist io.tombstone
      (.tombstone (tombstoneText request.domain request.incarnation))
    let response : RetireResponse :=
      { status := .accepted, site := c.config.site, epoch := c.epoch
        acceptanceSequence := record.acceptanceSequence
        factors := (({} : Factors).note (ascii "persist_retirement") retired.1).note
          (ascii "persist_tombstone") buried.1 }
    if !c.config.composeOnPublish then (buried.2, response)
    else
      let composed := buried.2.recompose io
      (composed.1,
        { response with
          factors := response.factors.note (ascii "recompose") composed.2.status })

/-- The list of revoked domains names each once. -/
def listRevoked (c : SiteController) (domain : MemberDomainKey) : SiteController :=
  if domain ∈ c.revoked then c else { c with revoked := c.revoked ++ [domain] }

def revokeMember (c : SiteController) (io : Moment) (domain : MemberDomainKey) :
    SiteController × Status :=
  if !domain.valid then (c, .invalid)
  else
    let composed := (c.listRevoked domain).recompose io
    (composed.1, composed.2.status)

/-- What persisting and recomposing leave alone: everything but the leases, the
chain, the store and what recomposition itself decides. -/
structure Retains (c later : SiteController) : Prop where
  config : later.config = c.config
  states : ∀ domain, later.authority.domainState domain = c.authority.domainState domain
  tombstones : later.authority.tombstones = c.authority.tombstones
  publications : later.publications = c.publications
  retirements : later.retirements = c.retirements
  revoked : later.revoked = c.revoked
  reconstructed : later.reconstructed = c.reconstructed
  acceptanceSequence : later.acceptanceSequence = c.acceptanceSequence
  incarnation : later.incarnation = c.incarnation
  epoch : later.epoch = c.epoch
  running : later.running = c.running

namespace Retains

variable {c later last : SiteController}

omit [StdSort] in
theorem refl (c : SiteController) : c.Retains c :=
  ⟨rfl, fun _ => rfl, rfl, rfl, rfl, rfl, rfl, rfl, rfl, rfl, rfl⟩

omit [StdSort] in
theorem symm (same : c.Retains later) : later.Retains c where
  config := same.config.symm
  states domain := (same.states domain).symm
  tombstones := same.tombstones.symm
  publications := same.publications.symm
  retirements := same.retirements.symm
  revoked := same.revoked.symm
  reconstructed := same.reconstructed.symm
  acceptanceSequence := same.acceptanceSequence.symm
  incarnation := same.incarnation.symm
  epoch := same.epoch.symm
  running := same.running.symm

omit [StdSort] in
theorem trans (first : c.Retains later) (second : later.Retains last) : c.Retains last where
  config := second.config.trans first.config
  states domain := (second.states domain).trans (first.states domain)
  tombstones := second.tombstones.trans first.tombstones
  publications := second.publications.trans first.publications
  retirements := second.retirements.trans first.retirements
  revoked := second.revoked.trans first.revoked
  reconstructed := second.reconstructed.trans first.reconstructed
  acceptanceSequence := second.acceptanceSequence.trans first.acceptanceSequence
  incarnation := second.incarnation.trans first.incarnation
  epoch := second.epoch.trans first.epoch
  running := second.running.trans first.running

omit [StdSort] in
theorem tombstoned (same : c.Retains later) (domain : MemberDomainKey) (i : Incarnation) :
    later.authority.tombstoned domain i = c.authority.tombstoned domain i := by
  rw [Registry.tombstoned, same.tombstones, Registry.tombstoned]

end Retains

omit [StdSort] in
theorem Retains.alike {c later : SiteController} (same : c.Retains later) :
    Registry.Alike c.authority later.authority :=
  ⟨same.states, same.tombstones⟩

omit [StdSort] in
theorem persist_retains (c : SiteController) (io : Answers) (content : Content) :
    c.Retains (c.persist io content).2 := by
  unfold persist
  split
  · exact .refl c
  · exact ⟨rfl, fun _ => rfl, rfl, rfl, rfl, rfl, rfl, rfl, rfl, rfl, rfl⟩

omit [StdSort] in
theorem publishSnapshot_retains (c : SiteController) (io : Moment) (generation : Generation)
    (snapshot : SiteSnapshot) : c.Retains (c.publishSnapshot io generation snapshot).1 := by
  unfold publishSnapshot
  dsimp only
  split
  · exact ⟨rfl, fun _ => rfl, rfl, rfl, rfl, rfl, rfl, rfl, rfl, rfl, rfl⟩
  · refine .trans ?_ (persist_retains _ io.snapshot _)
    exact ⟨rfl, fun _ => rfl, rfl, rfl, rfl, rfl, rfl, rfl, rfl, rfl, rfl⟩

omit [StdSort] in
theorem publishSite_retains (c : SiteController) (io : Moment) (generation : Generation)
    (site : ComposedSite) : c.Retains (c.publishSite io generation site).1 := by
  obtain ⟨domains, tombstones⟩ := (LeaseCall.acquire
    (c.acquireRequest generation io.recomposeMs)).members c.authority
  have states : ∀ domain, (c.authority.acquireSiteAuthority
      (c.acquireRequest generation io.recomposeMs)).registry.domainState domain =
      c.authority.domainState domain := fun domain => by
    rw [Registry.domainState, Registry.domainState]
    exact congrArg (fun domains => (domains[domain]?).getD {}) domains
  unfold publishSite
  dsimp only
  split
  · exact ⟨rfl, states, tombstones, rfl, rfl, rfl, rfl, rfl, rfl, rfl, rfl⟩
  split
  · exact ⟨rfl, states, tombstones, rfl, rfl, rfl, rfl, rfl, rfl, rfl, rfl⟩
  · refine .trans ?_ (publishSnapshot_retains _ io generation _)
    exact ⟨rfl, states, tombstones, rfl, rfl, rfl, rfl, rfl, rfl, rfl, rfl⟩

theorem recompose_retains (c : SiteController) (io : Moment) : c.Retains (c.recompose io).1 := by
  unfold recompose
  split
  · exact ⟨rfl, fun _ => rfl, rfl, rfl, rfl, rfl, rfl, rfl, rfl, rfl, rfl⟩
  · exact .refl c
  · exact publishSite_retains c io _ _

omit [StdSort] in
theorem persist_crashed (c : SiteController) (io : Answers) (content : Content) :
    (c.persist io content).2.crashed = c.crashed := by
  unfold persist
  split <;> rfl

/-- A recomposition takes the process down when the composition crashes. -/
theorem recompose_crashed (c : SiteController) (io : Moment) :
    (c.recompose io).1.crashed =
      (c.crashed || decide (compose (c.compositionInput io.recomposeMs) = .crashed)) := by
  unfold recompose
  split
  · next crash => rw [crash, decide_eq_true rfl, Bool.or_true]
  · next status refused =>
    rw [refused, decide_eq_false (fun clash => by cases clash), Bool.or_false]
  · next site composed =>
    rw [composed, decide_eq_false (fun clash => by cases clash), Bool.or_false]
    unfold publishSite
    dsimp only
    split
    · rfl
    split
    · rfl
    unfold publishSnapshot
    dsimp only
    split
    · rfl
    · exact persist_crashed _ io.snapshot _

/-- What is accepted is decided by what a recomposition leaves alone. -/
theorem Retains.judge {c later : SiteController} (same : c.Retains later) (io : Moment)
    (publisher : MemberId) (incarnation : Incarnation) (declaration : MemberDomainDeclaration)
    (attempt : PublishAttempt) :
    later.judge io publisher incarnation declaration attempt =
      c.judge io publisher incarnation declaration attempt := by
  have records : ∀ canonical, later.recordOf io publisher incarnation declaration canonical attempt =
      c.recordOf io publisher incarnation declaration canonical attempt := fun canonical => by
    rw [recordOf, same.config, same.acceptanceSequence, recordOf]
  unfold SiteController.judge
  simp only [records, same.config, same.alike.fencePublication]

omit [StdSort] in
theorem Retains.enter {c later : SiteController} (same : c.Retains later) (io : Moment)
    (record : MemberPublicationRecord) : (c.enter io record).Retains (later.enter io record) := by
  have alike := same.alike.recordPublication (offerOf record) io.nowMs
  exact {
    config := same.config, states := alike.states, tombstones := alike.tombstones
    publications := congrArg (·.insert record.domain record) same.publications
    retirements := same.retirements, revoked := same.revoked
    reconstructed := congrArg (List.filter (· ≠ record.domain)) same.reconstructed
    acceptanceSequence := rfl, incarnation := same.incarnation, epoch := same.epoch
    running := same.running }

theorem judge_ok {c : SiteController} {io : Moment} {publisher : MemberId}
    {incarnation : Incarnation} {declaration : MemberDomainDeclaration} {attempt : PublishAttempt}
    {record : MemberPublicationRecord}
    (passed : c.judge io publisher incarnation declaration attempt = .ok record) :
    c.authority.fencePublication (offerOf record) = .ok ∧ record.domain = declaration.domain ∧
      record.incarnation = incarnation ∧ record.acceptanceSequence = c.acceptanceSequence + 1 ∧
      record.site = c.config.site := by
  unfold judge at passed
  split at passed
  · cases passed
  next header =>
  split at passed
  · cases passed
  next canonical sealing =>
  split at passed
  · cases passed
  dsimp only at passed
  split at passed
  · cases passed
  next fenced =>
  cases passed
  obtain ⟨domain, site, -⟩ := MemberDomainDeclaration.sealDeclaration_keeps sealing
  have here : declaration.site = c.config.site := by
    simp only [Bool.or_eq_true, bne_iff_ne, not_or, not_not] at header
    exact header.2
  exact ⟨Registry.fencePublication_isOk (by simpa using fenced), domain, rfl, rfl,
    site.trans here⟩

theorem judge_error {c : SiteController} {io : Moment} {publisher : MemberId}
    {incarnation : Incarnation} {declaration : MemberDomainDeclaration} {attempt : PublishAttempt}
    {status : Status} {factors : Factors}
    (refused : c.judge io publisher incarnation declaration attempt = .error (status, factors)) :
    status.isOk = false := by
  unfold judge at refused
  split at refused
  · cases refused
    rfl
  split at refused
  · next failed sealing =>
    cases refused
    exact declaration.sealDeclaration_refuses _ sealing
  split at refused
  · cases refused
    rfl
  dsimp only at refused
  split at refused
  · next fenced =>
    cases refused
    simpa using fenced
  · cases refused

theorem publish_refused {c : SiteController} {io : Moment} {publisher : MemberId}
    {incarnation : Incarnation} {declaration : MemberDomainDeclaration} {attempt : PublishAttempt}
    {against : Status × Factors}
    (refused : c.judge io publisher incarnation declaration attempt = .error against) :
    (c.publish io publisher incarnation declaration attempt).1 = c := by
  rw [publish, refused]

/-- An accepted publication enters the controller; what follows leaves it there. -/
theorem publish_entered {c : SiteController} {io : Moment} {publisher : MemberId}
    {incarnation : Incarnation} {declaration : MemberDomainDeclaration} {attempt : PublishAttempt}
    {record : MemberPublicationRecord}
    (passed : c.judge io publisher incarnation declaration attempt = .ok record) :
    (c.enter io record).Retains (c.publish io publisher incarnation declaration attempt).1 := by
  have persisted := persist_retains (c.enter io record) io.record (.publication record)
  rw [publish, passed]
  dsimp only
  split
  · exact persisted
  split
  · exact persisted.trans (recompose_retains _ io)
  · exact persisted.trans (recompose_retains _ io)

/-- Without composition on publish, nothing follows but the append. -/
theorem publish_quiet {c : SiteController} (quiet : c.config.composeOnPublish = false) {io : Moment}
    {publisher : MemberId} {incarnation : Incarnation} {declaration : MemberDomainDeclaration}
    {attempt : PublishAttempt} {record : MemberPublicationRecord}
    (passed : c.judge io publisher incarnation declaration attempt = .ok record) :
    (c.publish io publisher incarnation declaration attempt).1 =
      ((c.enter io record).persist io.record (.publication record)).2 := by
  rw [publish, passed]
  dsimp only
  rw [if_pos (by rw [quiet, Bool.not_false])]

/-- A publication is answered ACCEPTED exactly when it is entered. -/
theorem publish_accepted_iff (c : SiteController) (io : Moment) (publisher : MemberId)
    (incarnation : Incarnation) (declaration : MemberDomainDeclaration) (attempt : PublishAttempt) :
    (c.publish io publisher incarnation declaration attempt).2.status = .accepted ↔
      ∃ record, c.judge io publisher incarnation declaration attempt = .ok record := by
  rw [publish]
  cases judged : c.judge io publisher incarnation declaration attempt with
  | error against =>
    have bad := judge_error judged
    constructor
    · intro accepted
      have same : against.1 = .accepted := accepted
      rw [same] at bad
      cases bad
    · rintro ⟨record, impossible⟩
      cases impossible
  | ok record =>
    refine ⟨fun _ => ⟨record, rfl⟩, fun _ => ?_⟩
    dsimp only
    split
    · rfl
    split <;> rfl

theorem retire_refused {c : SiteController} {io : Moment} {request : RetireRequest}
    (dead : c.authority.memberIncarnationLive request.domain request.incarnation = false) :
    (c.retire io request).1 = c := by
  rw [retire]
  split
  · rfl
  · rw [if_pos (by simpa using dead)]

omit [StdSort] in
/-- What a retirement comes to: the record it makes, if it is accepted. -/
def judgeRetirement (c : SiteController) (io : Moment) (request : RetireRequest) :
    Option MemberRetirementRecord :=
  if !request.domain.valid then none
  else if !c.authority.memberIncarnationLive request.domain request.incarnation then none
  else some (c.retirementOf io request)

/-- An accepted retirement enters the controller; what follows leaves it there. -/
theorem judgeRetirement_retained {c : SiteController} {io : Moment} {request : RetireRequest} :
    (c.judgeRetirement io request = none ∧ (c.retire io request).1 = c) ∨
      c.judgeRetirement io request = some (c.retirementOf io request) ∧
        (c.withdraw io (c.retirementOf io request)).Retains (c.retire io request).1 := by
  have retired := persist_retains (c.withdraw io (c.retirementOf io request)) io.record
    (.retirement (c.retirementOf io request))
  have buried := retired.trans (persist_retains _ io.tombstone
    (.tombstone (tombstoneText request.domain request.incarnation)))
  rw [retire, judgeRetirement]
  split
  · exact .inl ⟨rfl, rfl⟩
  split
  · exact .inl ⟨rfl, rfl⟩
  dsimp only
  split
  · exact .inr ⟨rfl, buried⟩
  · exact .inr ⟨rfl, buried.trans (recompose_retains _ io)⟩

omit [StdSort] in
theorem listRevoked_keeps (c : SiteController) (domain : MemberDomainKey) :
    (c.listRevoked domain).authority = c.authority ∧
      (c.listRevoked domain).publications = c.publications ∧
      (c.listRevoked domain).reconstructed = c.reconstructed ∧
      (c.listRevoked domain).retirements = c.retirements ∧
      ∀ other ∈ c.revoked, other ∈ (c.listRevoked domain).revoked := by
  unfold listRevoked
  split
  · exact ⟨rfl, rfl, rfl, rfl, fun _ listed => listed⟩
  · exact ⟨rfl, rfl, rfl, rfl, fun _ listed => List.mem_append_left _ listed⟩

theorem revokeMember_entered (c : SiteController) (io : Moment) (domain : MemberDomainKey) :
    (c.revokeMember io domain).1 = c ∨
      (c.listRevoked domain).Retains (c.revokeMember io domain).1 := by
  rw [revokeMember]
  split
  · exact .inl rfl
  · exact .inr (recompose_retains _ io)

end SiteController

end SiteFabric
