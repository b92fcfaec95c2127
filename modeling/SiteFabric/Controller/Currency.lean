import SiteFabric.Compose.Favourable
import SiteFabric.Compose.Totality
import SiteFabric.Controller.Generations
import SiteFabric.Controller.Sessions

/-! Who is current.
Liveness is kept in the registry, and currency is read from the list of domains
that wait to report. A HELLO takes its domain off that list whoever says it, and
the end of a session puts its domain on it whoever holds it since. -/

namespace SiteFabric

open Lib Authority Store
open Std (ExtTreeMap)

namespace SiteController

/-- Every record is held under its own domain. -/
def Named (c : SiteController) : Prop :=
  ∀ (domain : MemberDomainKey) (record : MemberPublicationRecord),
    c.publications[domain]? = some record → record.domain = domain

/-- The record held for a domain is the one that speaks for it, when it is usable. -/
theorem Named.selects {c : SiteController} (named : c.Named) {domain : MemberDomainKey}
    {held record : MemberPublicationRecord} (found : c.publications[domain]? = some held)
    (usable : held.usable = true) :
    (bestRecords (c.publications.toList.map Prod.snd))[domain]? = some record ↔ held = record := by
  have listed : ∀ r, (bestRecords (c.publications.toList.map Prod.snd))[domain]? = some r →
      held = r := fun r selected => by
    obtain ⟨member, -, here⟩ := bestRecords_mem selected
    obtain ⟨⟨other, _⟩, entry, rfl⟩ := List.mem_map.mp member
    have there := mem_toList_iff.mp entry
    have same : other = domain := (named other _ there).symm.trans here
    rw [same] at there
    exact Option.some.inj (found.symm.trans there)
  refine ⟨listed record, ?_⟩
  rintro rfl
  have leads := select_leads MemberPublicationRecord.domain MemberPublicationRecord.standing
    ((c.publications.toList.map Prod.snd).filter (·.usable)) domain
  rw [← bestRecords_eq] at leads
  cases selected : (bestRecords (c.publications.toList.map Prod.snd))[domain]? with
  | none =>
    rw [selected] at leads
    refine absurd (named domain held found) (leads held (List.mem_filter.mpr ⟨?_, usable⟩))
    exact List.mem_map.mpr ⟨(domain, held), mem_toList_iff.mpr found, rfl⟩
  | some r => rw [listed r selected]

theorem Fresh.named {c : SiteController} (fresh : c.Fresh) : c.Named :=
  fun domain record found => (fresh.recovered domain record found).1

end SiteController

namespace SiteServer

variable [StdSort]

theorem named_step {s : SiteServer} (named : s.controller.Named) (event : Event) :
    (s.step event).controller.Named := by
  have effect := s.step_effect event
  generalize s.step event = later at effect ⊢
  have kept : ∀ {c : SiteController}, c.publications = s.controller.publications → c.Named :=
    fun same domain record found => named domain record (same ▸ found)
  cases effect with
  | kept _ _ _ _ same => exact kept same.publications
  | greeted _ _ _ _ _ _ _ step =>
    cases step with
    | known => exact kept rfl
    | admitted => exact kept rfl
  | entered _ io record later _ _ _ same =>
    intro domain other found
    rw [same.publications] at found
    have inserted : (s.controller.publications.insert record.domain record)[domain]? = some other :=
      found
    rw [lookup_insert] at inserted
    split at inserted
    · next here =>
      cases inserted
      exact here
    · exact named domain other inserted
  | withdrawn _ _ _ _ _ _ same => exact kept same.publications
  | revoked _ domain _ _ _ same =>
    exact kept (same.publications.trans (s.controller.listRevoked_keeps domain).2.1)
  | ended _ _ _ _ _ same => exact kept same.publications

/-- Where a record is held whose incarnation is not live, something keeps its
domain from being current: it waits to report, or it is revoked or retired. -/
def Backed (c : SiteController) : Prop :=
  ∀ (domain : MemberDomainKey) (record : MemberPublicationRecord),
    c.publications[domain]? = some record →
      domain ∈ c.reconstructed ∨ domain ∈ c.revoked ∨
        (∃ retirement ∈ c.retirements, retirement.domain = domain) ∨
        c.authority.memberIncarnationLive domain record.incarnation = true

/-- A HELLO is accepted from the incarnation whose record is held, unless the
domain is retired or revoked. -/
def Faithful (s : SiteServer) (event : Event) : Prop :=
  ∀ (connection : Nat) (session : ConnectionSession) (record : MemberPublicationRecord),
    s.opens event = some (connection, session) →
      s.controller.publications[session.domain]? = some record →
      session.incarnation = record.incarnation ∨ session.domain ∈ s.controller.revoked ∨
        ∃ retirement ∈ s.controller.retirements, retirement.domain = session.domain

omit [StdSort] in
theorem Backed.retained {c later : SiteController} (backed : Backed c) (same : c.Retains later) :
    Backed later := by
  intro domain record found
  rw [same.publications] at found
  rw [same.reconstructed, same.revoked, same.retirements, retained_lives same]
  exact backed domain record found

omit [StdSort] in
theorem Backed.enter {c : SiteController} (backed : Backed c) (io : Moment)
    {record : MemberPublicationRecord}
    (passed : c.authority.fencePublication (SiteController.offerOf record) = .ok) :
    Backed (c.enter io record) := by
  have fenced := Registry.fencePublication_live passed
  have live := (Registry.memberIncarnationLive_iff _ _ _).mpr fenced
  have entered : (c.enter io record).publications = c.publications.insert record.domain record ∧
      (c.enter io record).reconstructed = c.reconstructed.filter (· ≠ record.domain) ∧
      (c.enter io record).revoked = c.revoked ∧ (c.enter io record).retirements = c.retirements :=
    ⟨rfl, rfl, rfl, rfl⟩
  obtain ⟨publications, reconstructed, revoked, retirements⟩ := entered
  intro domain other found
  rw [publications, lookup_insert] at found
  rw [enter_lives, reconstructed, revoked, retirements]
  split at found
  · next here =>
    cases found
    rw [← here]
    exact .inr (.inr (.inr live))
  · next apart =>
    refine (backed domain other found).imp_left fun waiting => ?_
    exact List.mem_filter.mpr ⟨waiting, decide_eq_true (Ne.symm apart)⟩

omit [StdSort] in
theorem Backed.greet {c later : SiteController} {request : HelloRequest}
    {session : ConnectionSession} {response : HelloResponse} (backed : Backed c)
    (step : GreetStep c request (later, some session, response))
    (faithful : ∀ record, c.publications[session.domain]? = some record →
      session.incarnation = record.incarnation ∨ session.domain ∈ c.revoked ∨
        ∃ retirement ∈ c.retirements, retirement.domain = session.domain) : Backed later := by
  have admits := step.admits
  have same : later.publications = c.publications ∧ later.revoked = c.revoked ∧
      later.retirements = c.retirements ∧
      later.reconstructed = c.reconstructed.filter (· ≠ session.domain) := by
    cases step <;> exact ⟨rfl, rfl, rfl, rfl⟩
  obtain ⟨publications, revoked, retirements, reconstructed⟩ := same
  intro domain record found
  rw [publications] at found
  rw [revoked, retirements, reconstructed]
  by_cases here : domain = session.domain
  · subst here
    rcases faithful record found with incarnation | ended
    · rw [← incarnation]
      exact .inr (.inr (.inr admits.live))
    · exact .inr (ended.imp_right .inl)
  · rcases backed domain record found with waiting | revoked | retired | live
    · exact .inl (List.mem_filter.mpr ⟨waiting, decide_eq_true here⟩)
    · exact .inr (.inl revoked)
    · exact .inr (.inr (.inl retired))
    · refine .inr (.inr (.inr ?_))
      exact (admits.spared domain _ live).resolve_right fun buried => here buried.1

omit [StdSort] in
theorem mem_dismissed {c : SiteController} {io : Moment} {session : ConnectionSession}
    {domain : MemberDomainKey} :
    domain ∈ (dismiss c io session).reconstructed ↔
      domain ∈ c.reconstructed ∨ domain = session.domain := by
  change domain ∈ (if session.domain ∈ c.reconstructed then c.reconstructed
    else c.reconstructed ++ [session.domain]) ↔ _
  split
  · next listed => exact ⟨.inl, fun either => either.elim id fun here => here ▸ listed⟩
  · rw [List.mem_append, List.mem_singleton]

theorem Backed.step {s : SiteServer} (backed : Backed s.controller) (event : Event)
    (faithful : Faithful s event) : Backed (s.step event).controller := by
  have effect := s.step_effect event
  generalize s.step event = later at effect ⊢
  cases effect with
  | kept _ later _ _ same => exact backed.retained same
  | greeted connection _ _ later session _ opened step =>
    exact backed.greet step fun record => faithful connection session record opened
  | entered _ io record later _ _ passed same => exact (backed.enter io passed).retained same
  | withdrawn _ io request later _ _ same =>
    refine Backed.retained (fun domain record found => ?_) same
    by_cases here : request.domain = domain
    · exact .inr (.inr (.inl ⟨_, List.mem_append_right _ List.mem_cons_self, here⟩))
    · obtain ⟨state, graves⟩ := s.controller.authority.retire_elsewhere request.domain domain
        request.incarnation io.nowMs here
      rcases backed domain record found with waiting | revoked | retired | live
      · exact .inl (List.mem_filter.mpr ⟨waiting, decide_eq_true (Ne.symm here)⟩)
      · exact .inr (.inl revoked)
      · obtain ⟨retirement, listed, named⟩ := retired
        exact .inr (.inr (.inl ⟨retirement, List.mem_append_left _ listed, named⟩))
      · exact .inr (.inr (.inr
          ((Registry.memberIncarnationLive_congr state (graves record.incarnation)).trans live)))
  | revoked _ domain later _ _ same =>
    refine Backed.retained (fun other record found => ?_) same
    obtain ⟨authority, publications, reconstructed, retirements, more⟩ :=
      s.controller.listRevoked_keeps domain
    rw [publications] at found
    rw [authority, reconstructed, retirements]
    exact (backed other record found).imp_right fun rest => rest.imp_left (more other)
  | ended _ io session later _ same =>
    refine Backed.retained (fun domain record found => ?_) same
    by_cases here : session.domain = domain
    · exact .inl (mem_dismissed.mpr (.inr here.symm))
    · obtain ⟨state, graves⟩ := s.controller.authority.retire_elsewhere session.domain domain
        session.incarnation io.nowMs here
      rcases backed domain record found with waiting | revoked | retired | live
      · exact .inl (mem_dismissed.mpr (.inl waiting))
      · exact .inr (.inl revoked)
      · exact .inr (.inr (.inl retired))
      · exact .inr (.inr (.inr
          ((Registry.memberIncarnationLive_congr state (graves record.incarnation)).trans live)))

omit [StdSort] in
theorem retained_input {c later : SiteController} (same : c.Retains later) (nowMs : Int64)
    (generation : Generation) :
    ({ later.compositionInput nowMs with generation } : CompositionInput) =
      { c.compositionInput nowMs with generation } := by
  simp only [SiteController.compositionInput, same.config, same.epoch, same.incarnation,
    same.publications, same.retirements, same.revoked, same.reconstructed]

/-- A composition under any generation lists the members of the one that is due. -/
theorem compose_due {c : SiteController} {nowMs : Int64} {generation : Generation}
    (set : generation.isSet = true) {site : ComposedSite}
    (composed : compose { c.compositionInput nowMs with generation } = .composed site) :
    ∃ site', compose (c.compositionInput nowMs) = .composed site' ∧
      site'.members = site.members :=
  compose_generation set (Generation.next_isSet c.siteGeneration) composed

/-- What a composition calls CURRENT is held, and waits for nothing. -/
theorem current_member {c : SiteController} (named : c.Named) {nowMs : Int64}
    {generation : Generation} {site : ComposedSite}
    (composed : compose { c.compositionInput nowMs with generation } = .composed site)
    {member : MemberDomainState} (listed : member ∈ site.members)
    (current : member.lifecycle = .current) :
    ∃ record, c.publications[member.domain]? = some record ∧
      member.incarnation = record.incarnation ∧ member.domain ∉ c.reconstructed ∧
      member.domain ∉ c.revoked ∧
      ∀ retirement ∈ c.retirements, retirement.domain ≠ member.domain := by
  obtain ⟨expectation, parts⟩ := CompositionInput.compose_composes composed
  obtain ⟨record, selected, rfl⟩ := parts.member listed current
  have earned := (judge_current_iff _ expectation record).mp current
  obtain ⟨among, -, -⟩ := bestRecords_mem selected
  obtain ⟨⟨domain, held⟩, entry, rfl⟩ := List.mem_map.mp among
  have found := mem_toList_iff.mp entry
  obtain rfl := named domain held found
  exact ⟨held, found, rfl, earned.notReconstructed, earned.notRevoked, earned.notRetired⟩

theorem Backed.current {c : SiteController} (backed : Backed c) (named : c.Named) {nowMs : Int64}
    {generation : Generation} {site : ComposedSite}
    (composed : compose { c.compositionInput nowMs with generation } = .composed site)
    {member : MemberDomainState} (listed : member ∈ site.members)
    (current : member.lifecycle = .current) :
    c.authority.memberIncarnationLive member.domain member.incarnation = true := by
  obtain ⟨record, found, incarnation, reported, entitled, active⟩ :=
    current_member named composed listed current
  rw [incarnation]
  rcases backed member.domain record found with waiting | revoked | retired | live
  · exact absurd waiting reported
  · exact absurd revoked entitled
  · obtain ⟨retirement, among, here⟩ := retired
    exact absurd here (active retirement among)
  · exact live

end SiteServer

/-- A machine: the server that runs on it, and the file of the server before. -/
structure Host where
  server : SiteServer
  disk : Option (List UInt8)

namespace Host

variable [StdSort]

/-- The events of a server, and a restart: the process goes, and a new controller
starts over the file it leaves. -/
inductive Turn where
  | handled (event : SiteServer.Event)
  | restarted (config : ControllerConfig) (nonce : BootNonce) (io : Moment)

def boot (c : SiteController) (io : Moment) (disk : Option (List UInt8)) : Host where
  server := .opened c io disk
  disk := (c.start io disk).disk

def file (h : Host) : Option (List UInt8) :=
  match h.server.controller.store with
  | none => h.disk
  | some store => store.file

/-- A configuration that is refused leaves the machine as it was. -/
def turn (h : Host) : Turn → Host
  | .handled event => { h with server := h.server.step event }
  | .restarted config nonce io =>
    match SiteController.create config nonce with
    | .error _ => h
    | .ok c => boot c io h.file

def Faithful (h : Host) : Turn → Prop
  | .handled event => SiteServer.Faithful h.server event
  | .restarted _ _ _ => True

/-- Records are held under their own names, and backed. -/
structure Sound (h : Host) : Prop where
  named : h.server.controller.Named
  backed : SiteServer.Backed h.server.controller

theorem boot_sound {c : SiteController} (fresh : c.Fresh) (io : Moment)
    (disk : Option (List UInt8)) : (boot c io disk).Sound := by
  have started := SiteController.start_fresh fresh io disk
  exact ⟨started.named, fun domain record found => .inl (started.recovered domain record found).2⟩

theorem Sound.turn {h : Host} (sound : h.Sound) (turn : Turn) (faithful : h.Faithful turn) :
    (h.turn turn).Sound := by
  cases turn with
  | handled event =>
    exact ⟨SiteServer.named_step sound.named event, sound.backed.step event faithful⟩
  | restarted config nonce io =>
    unfold Host.turn
    dsimp only
    split
    · exact sound
    · next c created => exact boot_sound (SiteController.create_fresh created) io _

end Host

/-- A domain that is composed CURRENT is composed from the record of its live
incarnation, in every run in which HELLOs are accepted only from the incarnation
whose record is held. -/
theorem current_member_is_live [StdSort] {config : ControllerConfig} {nonce : BootNonce}
    {c : SiteController} (io : Moment) (disk : Option (List UInt8)) (turns : List Host.Turn)
    (created : SiteController.create config nonce = .ok c)
    (faithful : Guarded Host.turn Host.Faithful (.boot c io disk) turns) (nowMs : Int64)
    (generation : Generation) (site : ComposedSite)
    (composed : compose { (run Host.turn (.boot c io disk) turns).server.controller.compositionInput
      nowMs with generation } = .composed site) :
    ∀ member ∈ site.members, member.lifecycle = .current →
      (run Host.turn (.boot c io disk) turns).server.lives member.domain member.incarnation =
        true := by
  have start := Host.boot_sound (SiteController.create_fresh created) io disk
  have sound := run_invariant Host.Sound (fun h turn sound => sound.turn turn) turns start faithful
  exact fun member listed current => sound.backed.current sound.named composed listed current

namespace SiteServer

instance (s : SiteServer) (event : Event) : Decidable (Faithful s event) :=
  decidable_of_iff (∀ pair ∈ s.opens event,
    ∀ record ∈ s.controller.publications[pair.2.domain]?,
      pair.2.incarnation = record.incarnation ∨ pair.2.domain ∈ s.controller.revoked ∨
        ∃ retirement ∈ s.controller.retirements, retirement.domain = pair.2.domain)
    ⟨fun all connection session record opened found => all (connection, session) opened record found,
      fun all pair opened record found => all pair.1 pair.2 record opened found⟩

theorem faithful_alike [StdSort] {s later : SiteServer} {event : Event} (alike : Alike s later)
    (quiet : s.controller.config.composeOnPublish = false) (reports : Reports event)
    (faithful : Faithful s event) : Faithful later event := by
  intro connection session record opened
  rw [(alike.step quiet reports).2.1] at opened
  rw [alike.same.publications, alike.same.revoked, alike.same.retirements]
  exact faithful connection session record opened

end SiteServer

namespace Host

variable [StdSort]

theorem boot_server (c : SiteController) (io : Moment) (disk : Option (List UInt8)) :
    (boot c io disk).server = .opened c io disk := rfl

theorem run_handled (h : Host) (events : List SiteServer.Event) :
    (run turn h (events.map .handled)).server = run SiteServer.step h.server events := by
  induction events generalizing h with
  | nil => rfl
  | cons event rest ih => exact ih { h with server := h.server.step event }

theorem guarded_handled {h : Host} {events : List SiteServer.Event}
    (guarded : Guarded SiteServer.step SiteServer.Faithful h.server events) :
    Guarded turn Faithful h (events.map .handled) := by
  induction events generalizing h with
  | nil => trivial
  | cons event rest ih => exact ⟨guarded.1, ih guarded.2⟩

end Host

/-- A rack process that says HELLO and reports. -/
def SiteServer.reporting : List SiteServer.Event :=
  [.hello 1 (ascii "rack-1") (ascii "boot-a") 1, .report 1 (.sample (ascii "rack-1"))]

theorem SiteServer.reporting_reports : ∀ event ∈ SiteServer.reporting, Reports event := by
  simp only [reporting, List.forall_mem_cons, List.not_mem_nil, false_imp_iff, implies_true,
    and_true]
  exact ⟨.hello _ _ _, .publish _ _ _ _⟩

theorem reporting_member_is_live :
    ∃ site, compose { (run Host.turn (.boot .sample .sample none)
        (SiteServer.reporting.map .handled)).server.controller.compositionInput 2000 with
          generation := ⟨1⟩ } = .composed site ∧
      (∃ member ∈ site.members, member.lifecycle = .current) ∧
      ∀ member ∈ site.members, member.lifecycle = .current →
        (run Host.turn (.boot .sample .sample none)
          (SiteServer.reporting.map .handled)).server.lives member.domain member.incarnation =
            true := by
  have alike := SiteServer.sample_alike.run rfl SiteServer.reporting_reports
  have quiet : (compose { (run SiteServer.step .sample
      SiteServer.reporting).controller.compositionInput 2000 with generation := ⟨1⟩ }).passes
        (fun site => site.members.any fun member => member.lifecycle == .current) = true := by
    decide +kernel
  obtain ⟨site, composed, members⟩ := CompositionResult.composed_of_passes quiet
  simp only [List.any_eq_true, beq_iff_eq] at members
  rw [← SiteServer.retained_input alike.same, ← Host.boot_server, ← Host.run_handled] at composed
  refine ⟨site, composed, members, ?_⟩
  refine current_member_is_live .sample none _ SiteController.sample_created ?_ 2000 ⟨1⟩ site composed
  exact Host.guarded_handled (SiteServer.sample_alike.guarded SiteServer.faithful_alike rfl
    SiteServer.reporting_reports (by decide +kernel))

/-- A rack process reports and is replaced by one that says HELLO and no more. -/
def SiteServer.succession : List SiteServer.Event :=
  SiteServer.reporting ++ [.hello 2 (ascii "rack-1") (ascii "boot-b") 2]

theorem SiteServer.succession_reports : ∀ event ∈ SiteServer.succession, Reports event := by
  refine List.forall_mem_append.mpr ⟨reporting_reports, ?_⟩
  exact List.forall_mem_singleton.mpr (.hello _ _ _)

/-- The record of the process that was replaced is composed CURRENT. -/
theorem replaced_member_stays_current :
    SiteController.create .sample ⟨ascii "boot-1"⟩ = .ok .sample ∧
      (SiteController.sample.start .sample none).status = .ok ∧
      ∃ site, compose ((run Host.turn (.boot .sample .sample none)
          (SiteServer.succession.map .handled)).server.controller.compositionInput 2000) =
            .composed site ∧
        ∃ member ∈ site.members, member.lifecycle = .current ∧
          (run Host.turn (.boot .sample .sample none)
            (SiteServer.succession.map .handled)).server.lives member.domain member.incarnation =
              false := by
  have alike := SiteServer.sample_alike.run rfl SiteServer.succession_reports
  refine ⟨SiteController.sample_created, SiteServer.sample_started, ?_⟩
  rw [Host.run_handled, Host.boot_server]
  have quiet : (compose { (run SiteServer.step .sample
      SiteServer.succession).controller.compositionInput 2000 with generation := ⟨1⟩ }).passes
        (fun site => site.members.any fun member => member.lifecycle == .current &&
          !(run SiteServer.step .sample SiteServer.succession).lives member.domain
            member.incarnation) = true := by decide +kernel
  obtain ⟨site, composed, members⟩ := CompositionResult.composed_of_passes quiet
  rw [← SiteServer.retained_input alike.same] at composed
  obtain ⟨site', composed', same⟩ := SiteServer.compose_due rfl composed
  refine ⟨site', composed', ?_⟩
  rw [same]
  simp only [List.any_eq_true, Bool.and_eq_true, beq_iff_eq, Bool.not_eq_true'] at members
  obtain ⟨member, listed, current, gone⟩ := members
  exact ⟨member, listed, current, (alike.lives _ _).trans gone⟩

end SiteFabric
