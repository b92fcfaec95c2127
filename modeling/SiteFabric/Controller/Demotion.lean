import SiteFabric.Controller.Currency

/-! The end of a session that was replaced.
The domain of a session that ends is put on the list of those that wait to
report, whoever is live in it by then. A record that only that list can keep
from being believed is demoted with it. -/

namespace SiteFabric

open Lib Authority Store
open Std (ExtTreeMap)

section Judge

variable [StdSort] (input : CompositionInput) (expectation : SiteExpectation)

/-- A record with nothing against it but, perhaps, the list of domains that wait to
report, and with evidence that would make its domain current or reported. -/
structure Exposed (record : MemberPublicationRecord) : Prop where
  notRevoked : record.domain ∉ input.revoked
  notRetired : ∀ retirement ∈ input.retirements, retirement.domain ≠ record.domain
  site : record.site = input.site
  schema : record.schema.compatibleWith SchemaVersion.model = true
  epoch : record.observedEpoch ≤ input.epoch
  declared : ∃ declaration, record.declaration = some declaration ∧
    declaration.digest = record.digest ∧ declaration.computeDigest = record.digest ∧
    objection expectation record declaration = none ∧
    (declaration.evidence.evaluate input.nowMs = .fresh ∨
      declaration.evidence.evaluate input.nowMs = .syntheticOnly)

omit [StdSort] in
theorem judgeEvidence_stale_iff (state : EvidenceState) :
    (judgeEvidence state).lifecycle = .stale ↔ ¬ (state = .fresh ∨ state = .syntheticOnly) := by
  cases state <;> simp [judgeEvidence, Standing.because]

omit [StdSort] in
theorem judgeContent_lifecycle [StdSort] (record : MemberPublicationRecord)
    (declaration : MemberDomainDeclaration) :
    (judgeContent input expectation record declaration).lifecycle =
      (receive input expectation record declaration).lifecycle := by
  simp only [judgeContent]
  split <;> rfl

/-- Putting a domain on the list changes its lifecycle exactly when its record is
exposed. -/
theorem judge_recovered {record : MemberPublicationRecord} {recovered : List MemberDomainKey}
    (generation : Generation) (listed : record.domain ∈ recovered)
    (fresh : record.domain ∉ input.reconstructed) :
    (judge { input with generation, reconstructed := recovered } expectation record).lifecycle =
        (judge input expectation record).lifecycle ↔ ¬ Exposed input expectation record := by
  unfold judge
  split
  · next revoked =>
    exact iff_of_true rfl fun exposed => exposed.notRevoked (by simpa using revoked)
  split
  · next retired =>
    refine iff_of_true rfl fun exposed => ?_
    obtain ⟨retirement, among, here⟩ : ∃ retirement ∈ input.retirements,
        retirement.domain = record.domain := by simpa using retired
    exact exposed.notRetired retirement among here
  split
  · next site => exact iff_of_true rfl fun exposed => site exposed.site
  split
  · next schema =>
    exact iff_of_true rfl fun exposed => absurd exposed.schema (by simpa using schema)
  split
  · next epoch => exact iff_of_true rfl fun exposed => absurd epoch (not_lt.mpr exposed.epoch)
  next notRevoked notRetired site schema epoch =>
  cases declared : record.declaration with
  | none =>
    refine iff_of_true rfl fun exposed => ?_
    obtain ⟨declaration, retained, -⟩ := exposed.declared
    exact absurd (declared.symm.trans retained) nofun
  | some declaration =>
    have only : ∀ other, record.declaration = some other → other = declaration := fun other same =>
      Option.some.inj (same.symm.trans declared)
    dsimp only
    unfold judgeDeclaration
    split
    · next digest =>
      refine iff_of_true rfl fun exposed => ?_
      obtain ⟨other, retained, same, -⟩ := exposed.declared
      exact digest (only other retained ▸ same)
    split
    · next digest =>
      refine iff_of_true rfl fun exposed => ?_
      obtain ⟨other, retained, -, same, -⟩ := exposed.declared
      exact digest (only other retained ▸ same)
    next digest recomputed =>
    rw [judgeContent_lifecycle, judgeContent_lifecycle, receive, receive]
    cases objected : objection expectation record declaration with
    | some against =>
      refine iff_of_true rfl fun exposed => ?_
      obtain ⟨other, retained, -, -, unopposed, -⟩ := exposed.declared
      rw [only other retained, objected] at unopposed
      cases unopposed
    | none =>
      dsimp only
      rw [if_pos (by simpa using listed), if_neg (by simpa using fresh)]
      have stale : (judgeEvidence (declaration.evidence.evaluate input.nowMs)).lifecycle = .stale ↔
          ¬ Exposed input expectation record := by
        rw [judgeEvidence_stale_iff, not_iff_not]
        constructor
        · exact fun timely => ⟨by simpa using notRevoked, by simpa using notRetired, not_not.mp site,
            by simpa using schema, not_lt.mp epoch,
            declaration, declared, not_not.mp digest, not_not.mp recomputed, objected, timely⟩
        · intro exposed
          obtain ⟨other, retained, -, -, -, timely⟩ := exposed.declared
          exact only other retained ▸ timely
      rw [← stale]
      exact eq_comm

end Judge

namespace SiteServer

variable [StdSort]

/-- The input of a composition after a session has ended. -/
theorem endSession_input (c : SiteController) (io : Moment) (session : ConnectionSession)
    (nowMs : Int64) :
    (endSession c io session).compositionInput nowMs =
      { c.compositionInput nowMs with
        generation := (endSession c io session).siteGeneration.next
        reconstructed := (dismiss c io session).reconstructed } :=
  retained_input (endSession_dismissed c io session) nowMs _

/-- What a composition reports of a domain whose record is held. -/
theorem reported_lifecycle {c : SiteController} (named : c.Named) {site : ComposedSite}
    {input : CompositionInput} {expectation : SiteExpectation}
    (parts : input.Composes expectation site)
    (publications : input.publications = c.publications.toList.map Prod.snd)
    {domain : MemberDomainKey} {held : MemberPublicationRecord}
    (found : c.publications[domain]? = some held) (usable : held.usable = true) :
    (site.findMember domain).map MemberDomainState.lifecycle =
      some (judge input expectation held).lifecycle := by
  have here := named domain held found
  have selected : input.Selects held := by
    rw [CompositionInput.Selects, publications, here]
    exact (named.selects found usable).mpr rfl
  rw [← here, parts.findMember selected]
  rfl

omit [StdSort] in
/-- The list of domains that wait does not change for one that waits already. -/
theorem dismiss_listed {c : SiteController} {io : Moment} {session : ConnectionSession}
    (listed : session.domain ∈ c.reconstructed) :
    (dismiss c io session).reconstructed = c.reconstructed :=
  if_pos listed

theorem closed_composes {s later : SiteServer} (alike : Alike s later)
    (running : later.controller.crashed = false) {connection : Nat} {session : ConnectionSession}
    (there : later.sessions[connection]? = some session) (io : Moment) {nowMs : Int64}
    {generation : Generation} (set : generation.isSet = true) {site : ComposedSite}
    (composed : compose { s.controller.compositionInput nowMs with
      generation, reconstructed := (dismiss s.controller io session).reconstructed } =
        .composed site) :
    ∃ site', compose ((later.step (.closed connection io)).controller.compositionInput nowMs) =
        .composed site' ∧ site'.members = site.members := by
  have waiting : (dismiss later.controller io session).reconstructed =
      (dismiss s.controller io session).reconstructed := by
    unfold dismiss
    dsimp only
    rw [alike.same.reconstructed]
  have input : ({ later.controller.compositionInput nowMs with
      generation, reconstructed := (dismiss s.controller io session).reconstructed } :
        CompositionInput) = { s.controller.compositionInput nowMs with
          generation, reconstructed := (dismiss s.controller io session).reconstructed } :=
    congrArg (fun input : CompositionInput => ({ input with
      reconstructed := (dismiss s.controller io session).reconstructed } : CompositionInput))
      (retained_input alike.same nowMs generation)
  rw [← input] at composed
  rw [step_closed running there io, endSession_input, waiting]
  generalize (dismiss s.controller io session).reconstructed = recovered at composed
  exact @compose_generation _ { later.controller.compositionInput nowMs with
    reconstructed := recovered } generation _ set (Generation.next_isSet _) site composed

end SiteServer

/-- The end of a session leaves the lifecycle of its domain as it was, while another
incarnation that published is live in it, exactly when the domain waited to report
already or its record is not exposed. -/
theorem ended_session_spares_successor_iff [StdSort] {config : ControllerConfig}
    {nonce : BootNonce} {c : SiteController} (io : Moment) (disk : Option (List UInt8))
    (events : List SiteServer.Event) (created : SiteController.create config nonce = .ok c)
    (s : SiteServer) (reached : s = run SiteServer.step (.opened c io disk) events)
    (running : s.controller.crashed = false) (connection : Nat) (first : ConnectionSession)
    (session : s.sessions[connection]? = some first) (successor : Incarnation)
    (live : s.lives first.domain successor = true)
    (published : (s.controller.authority.domainState first.domain).published = true)
    (closing : Moment) (nowMs : Int64) (before after : ComposedSite)
    (composed : compose (s.controller.compositionInput nowMs) = .composed before)
    (recomposed : compose ((s.step (.closed connection closing)).controller.compositionInput
      nowMs) = .composed after) :
    ∃ expectation held, (s.controller.compositionInput nowMs).prepare = .ok expectation ∧
      s.controller.publications[first.domain]? = some held ∧ held.incarnation = successor ∧
      ((after.findMember first.domain).map MemberDomainState.lifecycle =
          (before.findMember first.domain).map MemberDomainState.lifecycle ↔
        first.domain ∈ s.controller.reconstructed ∨
          ¬ Exposed (s.controller.compositionInput nowMs) expectation held) := by
  have fresh := SiteController.start_fresh (SiteController.create_fresh created) io disk
  have named : s.controller.Named := by
    rw [reached]
    exact run_stable (fun s : SiteServer => s.controller.Named)
      (fun _ event named => SiteServer.named_step named event) events fresh.named
  have marked : SiteServer.AllMarked s.controller := by
    rw [reached]
    exact run_stable (fun s : SiteServer => SiteServer.AllMarked s.controller)
      (fun _ event marked => marked.step event) events (SiteServer.ordered_fresh fresh).marked
  obtain ⟨-, has, same⟩ := (Registry.memberIncarnationLive_iff _ _ _).mp live
  obtain ⟨held, mark⟩ := marked first.domain has published
  obtain ⟨expectation, parts⟩ := CompositionInput.compose_composes composed
  obtain ⟨expectation', parts'⟩ := CompositionInput.compose_composes recomposed
  rw [SiteServer.step_closed running session closing, SiteServer.endSession_input] at parts'
  obtain ⟨-, -, canonical⟩ := CompositionInput.prepare_ok parts.prepared
  obtain ⟨-, -, canonical'⟩ := CompositionInput.prepare_ok parts'.prepared
  obtain rfl : expectation = expectation' := Except.ok.inj (canonical.symm.trans canonical')
  refine ⟨expectation, held, parts.prepared, mark.there, mark.incarnation.trans same, ?_⟩
  rw [SiteServer.reported_lifecycle named parts rfl mark.there mark.usable,
    SiteServer.reported_lifecycle named parts' rfl mark.there mark.usable, Option.some_inj]
  by_cases waiting : first.domain ∈ s.controller.reconstructed
  · rw [SiteServer.dismiss_listed waiting]
    exact iff_of_true rfl (.inl waiting)
  · have listed : held.domain ∈ (SiteServer.dismiss s.controller closing first).reconstructed := by
      rw [mark.named]
      exact SiteServer.mem_dismissed.mpr (.inr rfl)
    have absent : held.domain ∉ s.controller.reconstructed := mark.named ▸ waiting
    refine (judge_recovered _ expectation _ listed absent).trans ?_
    exact ⟨.inr, fun either => either.resolve_left waiting⟩

/-- Both processes of a takeover publish the same content. -/
def SiteServer.handover : List SiteServer.Event :=
  SiteServer.takeover (.sample (ascii "rack-1")) (.sample (ascii "rack-1"))

/-- The session of the process that was taken over from. -/
def ConnectionSession.sample : ConnectionSession :=
  ⟨⟨.rack, ascii "rack-1"⟩, ⟨1, ⟨ascii "boot-a"⟩⟩, ⟨ascii "member-1"⟩⟩

theorem SiteServer.handover_alike : Alike (run step .sample handover)
    (run step (.opened .sample .sample none) handover) :=
  SiteServer.sample_alike.run rfl (SiteServer.takeover_reports _ _)

theorem SiteServer.handover_session :
    (run step (.opened .sample .sample none) handover).controller.crashed = false ∧
      (run step (.opened .sample .sample none) handover).sessions[1]? = some .sample ∧
      (run step (.opened .sample .sample none) handover).lives ConnectionSession.sample.domain
        ⟨2, ⟨ascii "boot-b"⟩⟩ = true ∧
      ((run step (.opened .sample .sample none) handover).controller.authority.domainState
        ConnectionSession.sample.domain).published = true := by
  rw [handover_alike.crashed, handover_alike.sessions, handover_alike.lives,
    handover_alike.same.states]
  decide +kernel

/-- The rack is CURRENT before the first session ends, and STALE afterwards. -/
theorem SiteServer.handover_composes :
    ∃ before after, compose ((run step (.opened .sample .sample none)
        handover).controller.compositionInput 2000) = .composed before ∧
      compose (((run step (.opened .sample .sample none) handover).step
        (.closed 1 .sample)).controller.compositionInput 2000) = .composed after ∧
      (before.findMember ConnectionSession.sample.domain).map MemberDomainState.lifecycle =
        some .current ∧
      (after.findMember ConnectionSession.sample.domain).map MemberDomainState.lifecycle =
        some .stale := by
  obtain ⟨running, session, -⟩ := handover_session
  have quiet : (compose { (run step .sample handover).controller.compositionInput 2000 with
      generation := ⟨1⟩ }).passes (fun site =>
        (site.findMember ConnectionSession.sample.domain).map MemberDomainState.lifecycle ==
          some .current) = true := by decide +kernel
  have demoted : (compose { (run step .sample handover).controller.compositionInput 2000 with
      generation := ⟨1⟩, reconstructed := (dismiss (run step .sample handover).controller .sample
        .sample).reconstructed }).passes (fun site =>
          (site.findMember ConnectionSession.sample.domain).map MemberDomainState.lifecycle ==
            some .stale) = true := by decide +kernel
  obtain ⟨before, composed, current⟩ := CompositionResult.composed_of_passes quiet
  obtain ⟨after, recomposed, stale⟩ := CompositionResult.composed_of_passes demoted
  rw [← retained_input handover_alike.same] at composed
  obtain ⟨before', composed', same⟩ := compose_due rfl composed
  obtain ⟨after', recomposed', same'⟩ :=
    closed_composes handover_alike running session .sample rfl recomposed
  refine ⟨before', after', composed', recomposed', ?_, ?_⟩
  · rw [ComposedSite.findMember, same]
    exact beq_iff_eq.mp current
  · rw [ComposedSite.findMember, same']
    exact beq_iff_eq.mp stale

theorem ended_session_spares_sample_iff :
    ∃ (before after : ComposedSite) (expectation : SiteExpectation) (held : MemberPublicationRecord),
      compose ((run SiteServer.step (.opened .sample .sample none)
        SiteServer.handover).controller.compositionInput 2000) = .composed before ∧
      ((run SiteServer.step (.opened .sample .sample none)
        SiteServer.handover).controller.compositionInput 2000).prepare = .ok expectation ∧
      ((after.findMember ConnectionSession.sample.domain).map MemberDomainState.lifecycle =
          (before.findMember ConnectionSession.sample.domain).map MemberDomainState.lifecycle ↔
        ConnectionSession.sample.domain ∈ (run SiteServer.step (.opened .sample .sample none)
            SiteServer.handover).controller.reconstructed ∨
          ¬ Exposed ((run SiteServer.step (.opened .sample .sample none)
            SiteServer.handover).controller.compositionInput 2000) expectation held) := by
  obtain ⟨running, session, live, published⟩ := SiteServer.handover_session
  obtain ⟨before, after, composed, recomposed, -⟩ := SiteServer.handover_composes
  obtain ⟨expectation, held, prepared, -, -, spares⟩ := ended_session_spares_successor_iff .sample
    none SiteServer.handover SiteController.sample_created _ rfl running 1 .sample session _ live
    published .sample 2000 before after composed recomposed
  exact ⟨before, after, expectation, held, composed, prepared, spares⟩

/-- A rack process is taken over from and its successor publishes; when the first
connection ends at last, the successor's rack turns STALE. -/
theorem ended_session_demotes_successor :
    SiteController.create .sample ⟨ascii "boot-1"⟩ = .ok .sample ∧
      (SiteController.sample.start .sample none).status = .ok ∧
      (run SiteServer.step (.opened .sample .sample none) SiteServer.handover).sessions[1]? =
        some .sample ∧
      (run SiteServer.step (.opened .sample .sample none) SiteServer.handover).lives
        ConnectionSession.sample.domain ⟨2, ⟨ascii "boot-b"⟩⟩ = true ∧
      ∃ before after, compose ((run SiteServer.step (.opened .sample .sample none)
          SiteServer.handover).controller.compositionInput 2000) = .composed before ∧
        compose (((run SiteServer.step (.opened .sample .sample none) SiteServer.handover).step
          (.closed 1 .sample)).controller.compositionInput 2000) = .composed after ∧
        (before.findMember ConnectionSession.sample.domain).map MemberDomainState.lifecycle =
          some .current ∧
        (after.findMember ConnectionSession.sample.domain).map MemberDomainState.lifecycle =
          some .stale := by
  obtain ⟨-, session, live, -⟩ := SiteServer.handover_session
  exact ⟨SiteController.sample_created, SiteServer.sample_started, session, live,
    SiteServer.handover_composes⟩

end SiteFabric
