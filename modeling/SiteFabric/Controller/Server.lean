import SiteFabric.Controller.Startup
import SiteFabric.Lib.Run

/-! The member protocol.
A connection carries one session: the domain, the incarnation and the publisher
of the last HELLO that was answered OK on it. Frames of all connections and
calls from the controller's own process are handled one at a time. -/

namespace SiteFabric

open Lib Authority Store
open Std (ExtTreeMap)

structure HelloRequest where
  domain : MemberDomainKey := {}
  site : SiteId := {}
  incarnation : Incarnation := {}
  publisher : MemberId := {}
  observedEpoch : Epoch := {}
deriving DecidableEq

structure HelloResponse where
  status : Status := .unknown
  site : SiteId := {}
  epoch : Epoch := {}
  controller : Incarnation := {}
  assignedSequence : UInt64 := 0
  currentGeneration : Generation := {}
  factors : Factors := {}
deriving DecidableEq

/-- A session exists once a HELLO has been answered OK. -/
structure ConnectionSession where
  domain : MemberDomainKey
  incarnation : Incarnation
  publisher : MemberId
deriving DecidableEq

inductive Message where
  | hello (request : HelloRequest)
  | publish (declaration : MemberDomainDeclaration) (attempt : PublishAttempt)
  | retire (request : RetireRequest)

inductive Answer where
  | hello (response : HelloResponse)
  | publish (response : PublishResponse)
  | retire (response : RetireResponse)
  | error (status : Status) (detail : Text)
deriving DecidableEq

structure SiteServer where
  controller : SiteController
  sessions : ExtTreeMap Nat ConnectionSession compare := ∅

namespace SiteServer

/-- The answer to a HELLO, and the session it leaves behind when it is accepted. -/
def greet (c : SiteController) (io : Moment) (request : HelloRequest) :
    SiteController × Option ConnectionSession × HelloResponse :=
  let response : HelloResponse :=
    { site := c.config.site, epoch := c.epoch, controller := c.incarnation }
  if request.site ≠ c.config.site then
    (c, none,
      { response with
        status := .siteMismatch
        factors := response.factors.add (ascii "site") request.site.value })
  else if request.observedEpoch > c.epoch then
    (c, none,
      { response with
        status := .epochMismatch
        factors := response.factors.add (ascii "observed_epoch") request.observedEpoch.toText })
  else
    let admitted :=
      c.authority.admitMemberIncarnation request.domain request.incarnation io.nowMs
    let c := { c with authority := admitted.1 }
    let assigned := admitted.2.2.getD 0
    if !admitted.2.1.isOk && admitted.2.1 != .alreadyExists then
      (c, none, { response with status := admitted.2.1 })
    else
      (c.reported request.domain,
        some ⟨request.domain, { request.incarnation with sequence := assigned },
          request.publisher⟩,
        { response with
          status := .ok, assignedSequence := assigned, currentGeneration := c.siteGeneration })

def respondHello (s : SiteServer) (connection : Nat) (io : Moment) (request : HelloRequest) :
    SiteServer × Answer :=
  let greeted := greet s.controller io request
  ({ controller := greeted.1
     sessions := match greeted.2.1 with
       | none => s.sessions
       | some session => s.sessions.insert connection session },
    .hello greeted.2.2)

variable [StdSort]

def respondPublish (s : SiteServer) (connection : Nat) (io : Moment)
    (declaration : MemberDomainDeclaration) (attempt : PublishAttempt) : SiteServer × Answer :=
  match s.sessions[connection]? with
  | none =>
    (s, .publish
      { status := .unauthorized, site := s.controller.config.site, epoch := s.controller.epoch
        factors := ({} : Factors).add (ascii "hello") (ascii "not_completed") })
  | some session =>
    let applied := s.controller.publish io session.publisher session.incarnation declaration attempt
    ({ s with controller := applied.1 },
      if !applied.2.status.isOk then .error applied.2.status (ascii "publish")
      else .publish applied.2)

def respondRetire (s : SiteServer) (connection : Nat) (io : Moment) (request : RetireRequest) :
    SiteServer × Answer :=
  if (s.sessions[connection]?).any (·.domain == request.domain) then
    let applied := s.controller.retire io request
    ({ s with controller := applied.1 },
      if !applied.2.status.isOk then .error applied.2.status (ascii "retire")
      else .retire applied.2)
  else
    (s, .retire
      { status := .unauthorized, site := s.controller.config.site, epoch := s.controller.epoch
        factors := ({} : Factors).add (ascii "session") (ascii "does_not_match_domain") })

def respond (s : SiteServer) (connection : Nat) (io : Moment) : Message → SiteServer × Answer
  | .hello request => s.respondHello connection io request
  | .publish declaration attempt => s.respondPublish connection io declaration attempt
  | .retire request => s.respondRetire connection io request

/-- The incarnation of a session that ended is dead, and its domain waits to
report again. -/
def dismiss (c : SiteController) (io : Moment) (session : ConnectionSession) : SiteController :=
  { c with
    authority :=
      (c.authority.retireMemberIncarnation session.domain session.incarnation io.nowMs).1
    reconstructed :=
      if session.domain ∈ c.reconstructed then c.reconstructed
      else c.reconstructed ++ [session.domain] }

/-- The end of a session: it is dismissed, the store takes the death record, and
the site is composed again. -/
def endSession (c : SiteController) (io : Moment) (session : ConnectionSession) : SiteController :=
  let buried := (dismiss c io session).persist io.tombstone
    (.tombstone (tombstoneText session.domain session.incarnation))
  (buried.2.recompose io).1

/-- The end of a connection, with or without a session. -/
def closeConnection (s : SiteServer) (connection : Nat) (io : Moment) : SiteServer :=
  match s.sessions[connection]? with
  | none => s
  | some session =>
    { controller := endSession s.controller io session, sessions := s.sessions.erase connection }

/-- What can happen to a running controller: a frame on a connection, the end of
a connection, and calls from its own process. -/
inductive Event where
  | frame (connection : Nat) (io : Moment) (message : Message)
  | closed (connection : Nat) (io : Moment)
  | published (io : Moment) (publisher : MemberId) (incarnation : Incarnation)
      (declaration : MemberDomainDeclaration) (attempt : PublishAttempt)
  | retired (io : Moment) (request : RetireRequest)
  | revoked (io : Moment) (domain : MemberDomainKey)
  | recomposed (io : Moment)

/-- One event. A process that has crashed does nothing any more. -/
def step (s : SiteServer) (event : Event) : SiteServer :=
  if s.controller.crashed then s
  else match event with
    | .frame connection io message => (s.respond connection io message).1
    | .closed connection io => s.closeConnection connection io
    | .published io publisher incarnation declaration attempt =>
      { s with
        controller := (s.controller.publish io publisher incarnation declaration attempt).1 }
    | .retired io request => { s with controller := (s.controller.retire io request).1 }
    | .revoked io domain => { s with controller := (s.controller.revokeMember io domain).1 }
    | .recomposed io => { s with controller := (s.controller.recompose io).1 }

/-- The record an event gets accepted, if any. -/
def accepts (s : SiteServer) (event : Event) : Option MemberPublicationRecord :=
  if s.controller.crashed then none
  else match event with
    | .frame connection io (.publish declaration attempt) =>
      s.sessions[connection]?.bind fun session =>
        (s.controller.judge io session.publisher session.incarnation declaration attempt).toOption
    | .published io publisher incarnation declaration attempt =>
      (s.controller.judge io publisher incarnation declaration attempt).toOption
    | _ => none

/-- The session an event opens, if any, and the connection it opens it on. -/
def opens (s : SiteServer) (event : Event) : Option (Nat × ConnectionSession) :=
  if s.controller.crashed then none
  else match event with
    | .frame connection io (.hello request) =>
      (greet s.controller io request).2.1.map fun session => (connection, session)
    | _ => none

/-- Every way a HELLO can go, by what it leaves behind. -/
inductive GreetStep (c : SiteController) (request : HelloRequest) :
    SiteController × Option ConnectionSession × HelloResponse → Prop
  | refused (later : SiteController) (response : HelloResponse) (no : response.status.isOk = false)
      (same : c.Retains later) : GreetStep c request (later, none, response)
  | known (authority : Registry) (response : HelloResponse) (yes : response.status = .ok)
      (legal : request.domain.valid = true) (boot : request.incarnation.boot.valid = true)
      (live : c.authority.memberIncarnationLive request.domain
        (c.authority.candidate request.domain request.incarnation) = true)
      (states : ∀ other, authority.domainState other = c.authority.domainState other)
      (tombstones : authority.tombstones = c.authority.tombstones) :
      GreetStep c request
        ({ c.reported request.domain with authority },
          some ⟨request.domain, c.authority.candidate request.domain request.incarnation,
            request.publisher⟩, response)
  | admitted (authority : Registry) (response : HelloResponse) (nowMs : Int64)
      (yes : response.status = .ok) (legal : request.domain.valid = true)
      (boot : request.incarnation.boot.valid = true)
      (alive : c.authority.tombstoned request.domain
        (c.authority.candidate request.domain request.incarnation) = false)
      (apart : (c.authority.domainState request.domain).hasLive = true →
        (c.authority.domainState request.domain).live ≠
          c.authority.candidate request.domain request.incarnation)
      (states : ∀ other, authority.domainState other =
        if request.domain = other then
          (c.authority.domainState request.domain).goLive
            (c.authority.candidate request.domain request.incarnation) nowMs
        else c.authority.domainState other)
      (tombstones : ∀ other dead, authority.tombstoned other dead =
        (c.authority.tombstoned other dead ||
          decide ((c.authority.domainState request.domain).hasLive = true ∧
            request.domain = other ∧ (c.authority.domainState request.domain).live = dead))) :
      GreetStep c request
        ({ c.reported request.domain with authority },
          some ⟨request.domain, c.authority.candidate request.domain request.incarnation,
            request.publisher⟩, response)

omit [StdSort] in
theorem greet_step (c : SiteController) (io : Moment) (request : HelloRequest) :
    GreetStep c request (greet c io request) := by
  unfold greet
  dsimp only
  split
  · exact .refused _ _ rfl (.refl c)
  split
  · exact .refused _ _ rfl (.refl c)
  have step := c.authority.admit_step request.domain request.incarnation io.nowMs
  have assigned := c.authority.admit_assigned request.domain request.incarnation io.nowMs
  generalize c.authority.admitMemberIncarnation request.domain request.incarnation io.nowMs =
    reply at step assigned
  cases step with
  | refused later status sequence no states tombstones =>
    dsimp only
    split
    · next bad =>
      refine .refused _ _ (by simpa using (Bool.and_eq_true_iff.mp bad).1) ?_
      exact ⟨rfl, states, tombstones, rfl, rfl, rfl, rfl, rfl, rfl, rfl, rfl⟩
    · next kept =>
      have ok : status.isOk = true := by
        by_contra bad
        rw [Bool.not_eq_true] at bad
        have repeated : status = .alreadyExists := by simpa [bad] using kept
        rw [repeated] at bad
        cases bad
      obtain ⟨there, live⟩ := assigned.known no ok
      obtain ⟨legal, boot⟩ := assigned.legal ok
      have known : sequence = some _ := there
      rw [known, Option.getD_some, ← c.authority.candidate_named]
      exact .known later _ rfl legal boot live states tombstones
  | admitted later sequence legal boot alive apart states tombstones =>
    have known : some sequence = some _ := assigned.admitted rfl
    dsimp only
    rw [if_neg (by simp [Status.isOk]), known, Option.getD_some, ← c.authority.candidate_named]
    exact .admitted later _ _ rfl legal boot alive apart states tombstones

theorem endSession_dismissed (c : SiteController) (io : Moment) (session : ConnectionSession) :
    (dismiss c io session).Retains (endSession c io session) :=
  (SiteController.persist_retains _ io.tombstone _).trans
    (SiteController.recompose_retains _ io)

/-- Every effect an event can have. -/
inductive Effect (s : SiteServer) : Event → SiteServer → Prop
  | kept (event : Event) (later : SiteController) (silent : s.accepts event = none)
      (shut : s.opens event = none) (same : s.controller.Retains later) :
      Effect s event { s with controller := later }
  | greeted (connection : Nat) (io : Moment) (request : HelloRequest) (later : SiteController)
      (session : ConnectionSession) (response : HelloResponse)
      (opened : s.opens (.frame connection io (.hello request)) = some (connection, session))
      (step : GreetStep s.controller request (later, some session, response)) :
      Effect s (.frame connection io (.hello request))
        { controller := later, sessions := s.sessions.insert connection session }
  | entered (event : Event) (io : Moment) (record : MemberPublicationRecord) (later : SiteController)
      (accepted : s.accepts event = some record) (shut : s.opens event = none)
      (passed : s.controller.authority.fencePublication (SiteController.offerOf record) = .ok)
      (same : (s.controller.enter io record).Retains later) :
      Effect s event { s with controller := later }
  | withdrawn (event : Event) (io : Moment) (request : RetireRequest) (later : SiteController)
      (silent : s.accepts event = none) (shut : s.opens event = none)
      (same : (s.controller.withdraw io (s.controller.retirementOf io request)).Retains later) :
      Effect s event { s with controller := later }
  | revoked (event : Event) (domain : MemberDomainKey) (later : SiteController)
      (silent : s.accepts event = none) (shut : s.opens event = none)
      (same : (s.controller.listRevoked domain).Retains later) :
      Effect s event { s with controller := later }
  | ended (connection : Nat) (io : Moment) (session : ConnectionSession) (later : SiteController)
      (opened : s.sessions[connection]? = some session)
      (same : (dismiss s.controller io session).Retains later) :
      Effect s (.closed connection io)
        { controller := later, sessions := s.sessions.erase connection }

theorem publish_effect {s : SiteServer} {event : Event} (io : Moment) (publisher : MemberId)
    (incarnation : Incarnation) (declaration : MemberDomainDeclaration) (attempt : PublishAttempt)
    (judged : s.accepts event =
      (s.controller.judge io publisher incarnation declaration attempt).toOption)
    (shut : s.opens event = none) :
    Effect s event
      { s with
        controller := (s.controller.publish io publisher incarnation declaration attempt).1 } := by
  cases outcome : s.controller.judge io publisher incarnation declaration attempt with
  | error against =>
    rw [outcome] at judged
    rw [SiteController.publish_refused outcome]
    exact .kept event _ judged shut (.refl _)
  | ok record =>
    rw [outcome] at judged
    exact .entered event io record _ judged shut (SiteController.judge_ok outcome).1
      (SiteController.publish_entered outcome)

theorem retire_effect {s : SiteServer} {event : Event} (io : Moment) (request : RetireRequest)
    (silent : s.accepts event = none) (shut : s.opens event = none) :
    Effect s event { s with controller := (s.controller.retire io request).1 } := by
  rcases @SiteController.judgeRetirement_retained _ s.controller io request with
    ⟨_, same⟩ | ⟨_, entered⟩
  · rw [same]
    exact .kept event _ silent shut (.refl _)
  · exact .withdrawn event io request _ silent shut entered

theorem step_effect (s : SiteServer) (event : Event) : Effect s event (s.step event) := by
  unfold step
  split
  · next crashed => exact .kept event _ (if_pos crashed) (if_pos crashed) (.refl _)
  next running =>
  have reads : ∀ read : Option MemberPublicationRecord,
      (if s.controller.crashed = true then none else read) = read := fun _ => if_neg running
  have looks : ∀ look : Option (Nat × ConnectionSession),
      (if s.controller.crashed = true then none else look) = look := fun _ => if_neg running
  cases event with
  | frame connection io message =>
    cases message with
    | hello request =>
      have step := greet_step s.controller io request
      have opens : s.opens (.frame connection io (.hello request)) =
          (greet s.controller io request).2.1.map fun session => (connection, session) := looks _
      dsimp only [respond, respondHello]
      generalize greet s.controller io request = reply at step opens ⊢
      obtain ⟨later, session, response⟩ := reply
      cases session with
      | none =>
        cases step with
        | refused _ _ no same => exact .kept _ later (reads _) opens same
      | some session => exact .greeted connection io request later session response opens step
    | publish declaration attempt =>
      have judged : s.accepts (.frame connection io (.publish declaration attempt)) =
          s.sessions[connection]?.bind fun session => (s.controller.judge io session.publisher
            session.incarnation declaration attempt).toOption := reads _
      dsimp only [respond, respondPublish]
      cases found : s.sessions[connection]? with
      | none =>
        rw [found] at judged
        exact .kept _ _ judged (looks _) (.refl _)
      | some session =>
        rw [found] at judged
        exact publish_effect io _ _ declaration attempt judged (looks _)
    | retire request =>
      dsimp only [respond, respondRetire]
      split
      · exact retire_effect io request (reads _) (looks _)
      · exact .kept _ _ (reads _) (looks _) (.refl _)
  | closed connection io =>
    dsimp only [closeConnection]
    cases found : s.sessions[connection]? with
    | none => exact .kept _ _ (reads _) (looks _) (.refl _)
    | some session => exact .ended connection io session _ found (endSession_dismissed _ io session)
  | published io publisher incarnation declaration attempt =>
    exact publish_effect io publisher incarnation declaration attempt (reads _) (looks _)
  | retired io request => exact retire_effect io request (reads _) (looks _)
  | revoked io domain =>
    dsimp only
    rcases s.controller.revokeMember_entered io domain with same | entered
    · rw [same]
      exact .kept _ _ (reads _) (looks _) (.refl _)
    · exact .revoked _ domain _ (reads _) (looks _) entered
  | recomposed io =>
    exact .kept _ _ (reads _) (looks _) (SiteController.recompose_retains _ io)

/-- Two servers that differ in what recompositions have decided. -/
structure Alike (s later : SiteServer) : Prop where
  sessions : later.sessions = s.sessions
  same : s.controller.Retains later.controller
  crashed : later.controller.crashed = s.controller.crashed

omit [StdSort] in
theorem greet_alike {c later : SiteController} (same : c.Retains later) (io : Moment)
    (request : HelloRequest) :
    (greet later io request).2.1 = (greet c io request).2.1 ∧
      (greet c io request).1.Retains (greet later io request).1 := by
  obtain ⟨replies, alike⟩ :=
    same.alike.admission request.domain request.incarnation io.nowMs
  unfold greet
  simp only [same.config, same.epoch, replies]
  split
  · exact ⟨rfl, same⟩
  split
  · exact ⟨rfl, same⟩
  split
  · exact ⟨rfl, ⟨rfl, alike.states, alike.tombstones, same.publications, same.retirements,
      same.revoked, same.reconstructed, same.acceptanceSequence, same.incarnation, rfl,
      same.running⟩⟩
  · exact ⟨rfl, ⟨rfl, alike.states, alike.tombstones, same.publications, same.retirements,
      same.revoked, congrArg (List.filter (· ≠ request.domain)) same.reconstructed,
      same.acceptanceSequence, same.incarnation, rfl, same.running⟩⟩

omit [StdSort] in
theorem greet_crashed (c : SiteController) (io : Moment) (request : HelloRequest) :
    (greet c io request).1.crashed = c.crashed := by
  unfold greet
  dsimp only
  split
  · rfl
  split
  · rfl
  split <;> rfl

/-- HELLOs and publications. -/
inductive Reports : Event → Prop
  | hello (connection : Nat) (io : Moment) (request : HelloRequest) :
      Reports (.frame connection io (.hello request))
  | publish (connection : Nat) (io : Moment) (declaration : MemberDomainDeclaration)
      (attempt : PublishAttempt) : Reports (.frame connection io (.publish declaration attempt))

/-- Until a publication composes, a recomposition made no difference to what is
accepted, and to what is left. -/
theorem Alike.step {s later : SiteServer} (alike : Alike s later)
    (quiet : s.controller.config.composeOnPublish = false) {event : Event}
    (reports : Reports event) :
    later.accepts event = s.accepts event ∧ later.opens event = s.opens event ∧
      Alike (s.step event) (later.step event) := by
  unfold accepts opens SiteServer.step
  rw [alike.crashed]
  split
  · exact ⟨rfl, rfl, alike⟩
  cases reports with
  | hello connection io request =>
    obtain ⟨session, same⟩ := greet_alike alike.same io request
    dsimp only [respond, respondHello]
    rw [session]
    refine ⟨rfl, rfl, ?_, same, ?_⟩
    · rw [alike.sessions]
    · dsimp only
      rw [greet_crashed, greet_crashed, alike.crashed]
  | publish connection io declaration attempt =>
    dsimp only [respond, respondPublish]
    rw [alike.sessions]
    cases s.sessions[connection]? with
    | none => exact ⟨rfl, rfl, alike⟩
    | some session =>
      have judged := alike.same.judge io session.publisher session.incarnation declaration attempt
      have silent := alike.same.config ▸ quiet
      dsimp only
      cases outcome : s.controller.judge io session.publisher session.incarnation declaration
        attempt with
      | error against =>
        rw [outcome] at judged
        rw [SiteController.publish_refused outcome, SiteController.publish_refused judged]
        exact ⟨congrArg Except.toOption (judged.trans outcome.symm), rfl, rfl, alike.same,
          alike.crashed⟩
      | ok record =>
        rw [outcome] at judged
        rw [SiteController.publish_quiet quiet outcome, SiteController.publish_quiet silent judged]
        refine ⟨congrArg Except.toOption (judged.trans outcome.symm), rfl, rfl, ?_, ?_⟩
        · exact ((SiteController.persist_retains _ _ _).symm.trans
            (alike.same.enter io record)).trans (SiteController.persist_retains _ _ _)
        · dsimp only
          rw [SiteController.persist_crashed, SiteController.persist_crashed]
          exact alike.crashed

theorem step_closed {s : SiteServer} (running : s.controller.crashed = false) {connection : Nat}
    {session : ConnectionSession} (there : s.sessions[connection]? = some session) (io : Moment) :
    s.step (.closed connection io) =
      { controller := endSession s.controller io session
        sessions := s.sessions.erase connection } := by
  unfold step
  rw [if_neg (by simp [running])]
  dsimp only
  rw [closeConnection, there]

theorem step_config (s : SiteServer) (event : Event) :
    (s.step event).controller.config = s.controller.config := by
  have effect := s.step_effect event
  generalize s.step event = later at effect ⊢
  cases effect with
  | kept _ _ _ _ same => exact same.config
  | greeted _ _ _ _ _ _ _ step => cases step <;> rfl
  | entered _ _ _ _ _ _ _ same => exact same.config
  | withdrawn _ _ _ _ _ _ same => exact same.config
  | revoked _ domain _ _ _ same =>
    refine same.config.trans ?_
    unfold SiteController.listRevoked
    split <;> rfl
  | ended _ _ _ _ _ same => exact same.config

theorem Alike.run {s later : SiteServer} (alike : Alike s later)
    (quiet : s.controller.config.composeOnPublish = false) {events : List Event}
    (reports : ∀ event ∈ events, Reports event) :
    Alike (Lib.run SiteServer.step s events) (Lib.run SiteServer.step later events) := by
  induction events generalizing s later with
  | nil => exact alike
  | cons event rest ih =>
    obtain ⟨first, others⟩ := List.forall_mem_cons.mp reports
    obtain ⟨-, -, next⟩ := alike.step quiet first
    exact ih next ((s.step_config event) ▸ quiet) others

/-- The server of a controller that has been started, before the first event. -/
def opened (c : SiteController) (io : Moment) (disk : Option (List UInt8)) : SiteServer :=
  { controller := (c.start io disk).controller }

/-- A controller without a store that has started is one that took its term,
but for what its first composition decided. -/
theorem opened_alike {c : SiteController} {io : Moment} (idle : c.running = false)
    (volatile : c.config.persistent = false) (ok : (c.start io none).status = .ok)
    (sound : compose (c.nextTerm.compositionInput io.recomposeMs) ≠ .crashed) :
    Alike { controller := { c.nextTerm with running := true } } (opened c io none) := by
  have office : c.start io none = ⟨(c.takeOffice io).1, (c.takeOffice io).2, none⟩ := by
    unfold SiteController.start
    rw [if_neg (by simp [idle]), if_pos (by simp [volatile])]
  rw [office] at ok
  obtain ⟨same, crashed⟩ := SiteController.takeOffice_ok ok
  rw [opened, office]
  refine ⟨rfl, same, crashed.trans ?_⟩
  rw [decide_eq_false sound, Bool.or_false]
  rfl

/-- A guard that reads nothing a recomposition decides holds along both runs. -/
theorem Alike.guarded {guard : SiteServer → Event → Prop}
    (carried : ∀ {s later event}, Alike s later → s.controller.config.composeOnPublish = false →
      Reports event → guard s event → guard later event)
    {s later : SiteServer} (alike : Alike s later)
    (quiet : s.controller.config.composeOnPublish = false) {events : List Event}
    (reports : ∀ event ∈ events, Reports event) (guarded : Guarded SiteServer.step guard s events) :
    Guarded SiteServer.step guard later events := by
  induction events generalizing s later with
  | nil => trivial
  | cons event rest ih =>
    obtain ⟨first, others⟩ := List.forall_mem_cons.mp reports
    obtain ⟨-, -, next⟩ := alike.step quiet first
    exact ⟨carried alike quiet first guarded.1,
      ih next ((s.step_config event) ▸ quiet) others guarded.2⟩

end SiteServer

def ControllerConfig.sample : ControllerConfig where
  site := ⟨ascii "site-1"⟩
  expectation := { site := ⟨ascii "site-1"⟩ }
  id := ⟨ascii "controller-1"⟩
  incarnation := ⟨1, ⟨ascii "boot-1"⟩⟩
  composeOnPublish := false

def Moment.sample : Moment := { nowMs := 2000 }

/-- A controller of a site that expects nobody, and composes when it is told to. -/
def SiteController.sample : SiteController := .construct .sample ⟨ascii "boot-1"⟩

theorem SiteController.sample_created :
    SiteController.create .sample ⟨ascii "boot-1"⟩ = .ok .sample :=
  SiteController.create_construct _ (by decide +kernel) (by decide) (by decide) (by decide) (by decide +kernel)
    (by decide +kernel)

namespace SiteServer

/-- The sample controller in its first term. -/
def sample : SiteServer :=
  { controller := { SiteController.sample.nextTerm with running := true } }

theorem sample_started : (SiteController.sample.start .sample none).status = .ok := by
  decide +kernel

theorem sample_alike : Alike sample (opened .sample .sample none) :=
  opened_alike rfl rfl sample_started (by decide +kernel)

def Event.hello (connection : Nat) (rack boot : Text) (sequence : UInt64) : Event :=
  .frame connection .sample (.hello
    { domain := ⟨.rack, rack⟩, site := ⟨ascii "site-1"⟩, incarnation := ⟨sequence, ⟨boot⟩⟩
      publisher := ⟨ascii "member-1"⟩, observedEpoch := ⟨1⟩ })

def Event.report (connection : Nat) (declaration : MemberDomainDeclaration) : Event :=
  .frame connection .sample (.publish declaration ⟨1, 1⟩)

/-- One process of a rack publishes, and a second one takes over and publishes. -/
def takeover (first second : MemberDomainDeclaration) : List Event :=
  [.hello 1 (ascii "rack-1") (ascii "boot-a") 1, .report 1 first,
    .hello 2 (ascii "rack-1") (ascii "boot-b") 2, .report 2 second]

theorem takeover_reports (first second : MemberDomainDeclaration) :
    ∀ event ∈ takeover first second, Reports event := by
  simp only [takeover, List.forall_mem_cons, List.not_mem_nil, false_imp_iff, implies_true,
    and_true]
  exact ⟨.hello _ _ _, .publish _ _ _ _, .hello _ _ _, .publish _ _ _ _⟩

end SiteServer

/-- The sample controller, once a rack has said HELLO. -/
def SiteController.greeted : SiteController :=
  (SiteServer.sample.step (.hello 1 (ascii "rack-1") (ascii "boot-a") 1)).controller

end SiteFabric
