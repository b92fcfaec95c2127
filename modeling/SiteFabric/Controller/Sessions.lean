import SiteFabric.Controller.Server
import SiteFabric.Lib.Run

/-! What a session speaks for.
A session carries the last incarnation admitted on its connection. Earlier ones
lose their authority when they are displaced, and the last one when the
connection ends; a HELLO for another domain escapes both. A publication is
held against the session's incarnation alone, not against its domain. -/

namespace SiteFabric

open Lib Authority
open Std (ExtTreeMap)

namespace SiteServer

variable [StdSort]

/-- An incarnation is live in a domain, as the registry sees it. -/
abbrev lives (s : SiteServer) (domain : MemberDomainKey) (incarnation : Incarnation) : Bool :=
  s.controller.authority.memberIncarnationLive domain incarnation

abbrev dead (s : SiteServer) (domain : MemberDomainKey) (incarnation : Incarnation) : Bool :=
  s.controller.authority.tombstoned domain incarnation

omit [StdSort] in
theorem retained_lives {c later : SiteController} (same : c.Retains later) (domain : MemberDomainKey)
    (incarnation : Incarnation) :
    later.authority.memberIncarnationLive domain incarnation =
      c.authority.memberIncarnationLive domain incarnation :=
  Registry.memberIncarnationLive_congr (same.states domain) (same.tombstoned domain incarnation)

omit [StdSort] in
theorem Alike.lives {s later : SiteServer} (alike : Alike s later) (domain : MemberDomainKey)
    (incarnation : Incarnation) : later.lives domain incarnation = s.lives domain incarnation :=
  retained_lives alike.same domain incarnation

omit [StdSort] in
theorem enter_lives (c : SiteController) (io : Moment) (record : MemberPublicationRecord)
    (domain : MemberDomainKey) (incarnation : Incarnation) :
    (c.enter io record).authority.memberIncarnationLive domain incarnation =
      c.authority.memberIncarnationLive domain incarnation := by
  obtain ⟨hasLive, live, tombstones⟩ := c.authority.recordPublication_states
    (SiteController.offerOf record) io.nowMs domain
  have graves := @Registry.tombstoned_of_eq _ _ tombstones domain incarnation
  rw [Bool.eq_iff_iff, Registry.memberIncarnationLive_iff, Registry.memberIncarnationLive_iff]
  change _ = false ∧ ((c.authority.recordPublication _ io.nowMs).1.domainState domain).hasLive = true ∧
    ((c.authority.recordPublication _ io.nowMs).1.domainState domain).live = incarnation ↔ _
  rw [hasLive, live, ← graves]
  rfl

/-- What a session that is opened changes for the incarnations of every domain. -/
structure Admitted (c later : SiteController) (session : ConnectionSession) : Prop where
  legal : session.domain.valid = true
  boot : session.incarnation.boot.valid = true
  live : later.authority.memberIncarnationLive session.domain session.incarnation = true
  spared : ∀ domain incarnation, c.authority.memberIncarnationLive domain incarnation = true →
    later.authority.memberIncarnationLive domain incarnation = true ∨
      domain = session.domain ∧ later.authority.tombstoned domain incarnation = true
  arose : ∀ domain incarnation, later.authority.memberIncarnationLive domain incarnation = true →
    c.authority.memberIncarnationLive domain incarnation = true ∨
      domain = session.domain ∧ incarnation = session.incarnation
  buried : ∀ domain incarnation, c.authority.tombstoned domain incarnation = true →
    later.authority.tombstoned domain incarnation = true

omit [StdSort] in
theorem GreetStep.admits {c later : SiteController} {request : HelloRequest}
    {session : ConnectionSession} {response : HelloResponse}
    (step : GreetStep c request (later, some session, response)) : Admitted c later session := by
  cases step with
  | known authority _ _ legal boot live states tombstones =>
    have same : ∀ domain incarnation, authority.memberIncarnationLive domain incarnation =
        c.authority.memberIncarnationLive domain incarnation := fun domain incarnation =>
      Registry.memberIncarnationLive_congr (states domain) (Registry.tombstoned_of_eq tombstones)
    have named := c.authority.candidate_named request.domain request.incarnation
    refine ⟨legal, by rw [named]; exact boot, (same _ _).trans live,
      fun domain incarnation was => .inl ((same _ _).trans was),
      fun domain incarnation is => .inl ((same _ _).symm.trans is), fun domain incarnation was => ?_⟩
    exact (Registry.tombstoned_of_eq tombstones).trans was
  | admitted authority _ nowMs _ legal boot alive apart states tombstones =>
    have named := c.authority.candidate_named request.domain request.incarnation
    have here := states request.domain
    rw [if_pos rfl] at here
    have spared : authority.tombstoned request.domain
        (c.authority.candidate request.domain request.incarnation) = false := by
      rw [tombstones, alive, Bool.false_or]
      exact decide_eq_false fun both => apart both.1 both.2.2
    refine ⟨legal, by rw [named]; exact boot, ?_, ?_, ?_, ?_⟩
    · refine (Registry.memberIncarnationLive_iff _ _ _).mpr ⟨spared, ?_⟩
      change (authority.domainState request.domain).hasLive = true ∧
        (authority.domainState request.domain).live = _
      rw [here]
      exact ⟨rfl, rfl⟩
    · intro domain incarnation was
      obtain ⟨breathing, has, same⟩ := (Registry.memberIncarnationLive_iff _ _ _).mp was
      by_cases elsewhere : request.domain = domain
      · subst elsewhere
        refine .inr ⟨rfl, ?_⟩
        refine (tombstones _ _).trans ?_
        rw [decide_eq_true ⟨has, rfl, same⟩, Bool.or_true]
      · refine .inl ((Registry.memberIncarnationLive_congr ?_ ?_).trans was)
        · exact (states domain).trans (if_neg elsewhere)
        · refine (tombstones _ _).trans ?_
          rw [decide_eq_false fun all => elsewhere all.2.1, Bool.or_false]
    · intro domain incarnation is
      obtain ⟨breathing, has, same⟩ := (Registry.memberIncarnationLive_iff _ _ _).mp is
      have state := states domain
      by_cases elsewhere : request.domain = domain
      · subst elsewhere
        refine .inr ⟨rfl, same.symm.trans ?_⟩
        exact congrArg DomainState.live here
      · rw [if_neg elsewhere] at state
        refine .inl ((Registry.memberIncarnationLive_iff _ _ _).mpr ⟨?_, ?_, ?_⟩)
        · have graves := (tombstones domain incarnation).symm.trans breathing
          exact (Bool.or_eq_false_iff.mp graves).1
        · rw [← state]
          exact has
        · rw [← state]
          exact same
    · intro domain incarnation was
      refine (tombstones _ _).trans ?_
      rw [was, Bool.true_or]

omit [StdSort] in
theorem retired_dead {r : Registry} {domain : MemberDomainKey} {incarnation : Incarnation}
    (buried : r.tombstoned domain incarnation = true) (other : MemberDomainKey)
    (retired : Incarnation) (nowMs : Int64) :
    (r.retireMemberIncarnation other retired nowMs).1.tombstoned domain incarnation = true :=
  Registry.tombstoned_call buried (.retireMember other retired nowMs)

/-- The dead of a domain stay dead. -/
theorem dead_step {s : SiteServer} {domain : MemberDomainKey} {incarnation : Incarnation}
    (dead : s.dead domain incarnation = true) (event : Event) :
    (s.step event).dead domain incarnation = true := by
  have effect := s.step_effect event
  generalize s.step event = later at effect ⊢
  cases effect with
  | kept _ later _ _ same => exact (same.tombstoned domain incarnation).trans dead
  | greeted _ _ _ later session _ _ step => exact step.admits.buried domain incarnation dead
  | entered _ io record later _ _ _ same =>
    refine (same.tombstoned domain incarnation).trans ?_
    obtain ⟨-, -, tombstones⟩ := s.controller.authority.recordPublication_states
      (SiteController.offerOf record) io.nowMs domain
    exact (Registry.tombstoned_of_eq tombstones).trans dead
  | withdrawn _ io request later _ _ same =>
    exact (same.tombstoned domain incarnation).trans (retired_dead dead _ _ _)
  | revoked _ other later _ _ same =>
    refine (same.tombstoned domain incarnation).trans ?_
    rw [(s.controller.listRevoked_keeps other).1]
    exact dead
  | ended _ io session later _ same =>
    exact (same.tombstoned domain incarnation).trans (retired_dead dead _ _ _)

/-- Who is live was live before, or is what the event opened a session for. -/
theorem lives_of_step {s : SiteServer} {event : Event} {domain : MemberDomainKey}
    {incarnation : Incarnation} (lives : (s.step event).lives domain incarnation = true) :
    s.lives domain incarnation = true ∨ ∃ connection session,
      s.opens event = some (connection, session) ∧ domain = session.domain ∧
        incarnation = session.incarnation := by
  have effect := s.step_effect event
  generalize s.step event = later at effect lives
  cases effect with
  | kept _ later _ _ same => exact .inl ((retained_lives same domain incarnation).symm.trans lives)
  | greeted connection _ _ later session _ opened step =>
    rcases step.admits.arose domain incarnation lives with was | new
    · exact .inl was
    · exact .inr ⟨connection, session, opened, new⟩
  | entered _ io record later _ _ _ same =>
    exact .inl ((enter_lives s.controller io record domain incarnation).symm.trans
      ((retained_lives same domain incarnation).symm.trans lives))
  | withdrawn _ io request later _ _ same =>
    exact .inl (Registry.live_of_retire _ _ _
      ((retained_lives same domain incarnation).symm.trans lives))
  | revoked _ other later _ _ same =>
    have was := (retained_lives same domain incarnation).symm.trans lives
    rw [(s.controller.listRevoked_keeps other).1] at was
    exact .inl was
  | ended _ io session later _ same =>
    exact .inl (Registry.live_of_retire _ _ _
      ((retained_lives same domain incarnation).symm.trans lives))

/-- Who was live is live, or dead for good. -/
theorem lives_step {s : SiteServer} {domain : MemberDomainKey} {incarnation : Incarnation}
    (legal : domain.valid = true) (valid : incarnation.valid = true)
    (lives : s.lives domain incarnation = true) (event : Event) :
    (s.step event).lives domain incarnation = true ∨
      (s.step event).dead domain incarnation = true := by
  have retained : ∀ {c later : SiteController}, c.Retains later →
      (c.authority.memberIncarnationLive domain incarnation = true ∨
        c.authority.tombstoned domain incarnation = true) →
      later.authority.memberIncarnationLive domain incarnation = true ∨
        later.authority.tombstoned domain incarnation = true := fun same => by
    rw [retained_lives same, same.tombstoned]
    exact id
  have effect := s.step_effect event
  generalize s.step event = later at effect ⊢
  cases effect with
  | kept _ later _ _ same => exact retained same (.inl lives)
  | greeted _ _ _ later session _ _ step =>
    exact (step.admits.spared domain incarnation lives).imp id And.right
  | entered _ io record later _ _ _ same =>
    exact retained same (.inl ((enter_lives s.controller io record domain incarnation).trans lives))
  | withdrawn _ io request later _ _ same =>
    exact retained same (Registry.retire_lives _ _ _ legal valid lives _ _)
  | revoked _ other later _ _ same =>
    refine retained same (.inl ?_)
    rw [(s.controller.listRevoked_keeps other).1]
    exact lives
  | ended _ io session later _ same =>
    exact retained same (Registry.retire_lives _ _ _ legal valid lives _ _)

/-- The sessions opened on a connection during a run, in their order. -/
def openedOn (connection : Nat) : SiteServer → List Event → List ConnectionSession
  | _, [] => []
  | s, event :: rest =>
    (((s.opens event).filter (·.1 = connection)).map Prod.snd).toList ++
      openedOn connection (s.step event) rest

/-- A HELLO on a connection whose session still has authority names the domain of
that session, and no HELLO on it is issued the sequence zero. -/
def Single (connection : Nat) (s : SiteServer) (event : Event) : Prop :=
  ∀ next, s.opens event = some (connection, next) → next.incarnation.sequence ≠ 0 ∧
    ∀ session, s.sessions[connection]? = some session →
      s.lives session.domain session.incarnation = true → next.domain = session.domain

theorem openedOn_alike {connection : Nat} {s later : SiteServer} (alike : Alike s later)
    (quiet : s.controller.config.composeOnPublish = false) {events : List Event}
    (reports : ∀ event ∈ events, Reports event) :
    later.openedOn connection events = s.openedOn connection events := by
  induction events generalizing s later with
  | nil => rfl
  | cons event rest ih =>
    obtain ⟨first, others⟩ := List.forall_mem_cons.mp reports
    obtain ⟨-, opens, next⟩ := alike.step quiet first
    rw [openedOn, openedOn, opens, ih next ((s.step_config event) ▸ quiet) others]

instance (connection : Nat) (s : SiteServer) (event : Event) :
    Decidable (Single connection s event) :=
  decidable_of_iff (∀ pair ∈ s.opens event, pair.1 = connection →
    pair.2.incarnation.sequence ≠ 0 ∧ ∀ session ∈ s.sessions[connection]?,
      s.lives session.domain session.incarnation = true → pair.2.domain = session.domain)
    ⟨fun all next opened => all (connection, next) opened rfl,
      fun all pair opened here => all pair.2 (by rw [opened, ← here])⟩

theorem single_alike {connection : Nat} {s later : SiteServer} {event : Event}
    (alike : Alike s later) (quiet : s.controller.config.composeOnPublish = false)
    (reports : Reports event) (single : Single connection s event) :
    Single connection later event := by
  intro next opened
  rw [(alike.step quiet reports).2.1] at opened
  rw [alike.sessions]
  refine ⟨(single next opened).1, fun session there lives => ?_⟩
  exact (single next opened).2 session there ((alike.lives _ _).symm.trans lives)

/-- Every incarnation admitted on a connection is dead, or is the one its session
carries, live and fit to be retired. -/
def Accounted (connection : Nat) (s : SiteServer) (past : List ConnectionSession) : Prop :=
  ∀ a ∈ past, s.dead a.domain a.incarnation = true ∨
    (∃ session, s.sessions[connection]? = some session ∧ session.domain = a.domain ∧
        session.incarnation = a.incarnation) ∧
      a.domain.valid = true ∧ a.incarnation.valid = true ∧
      s.lives a.domain a.incarnation = true

/-- What becomes of the session on a connection. -/
theorem session_step {s : SiteServer} {connection : Nat} {session : ConnectionSession}
    (there : s.sessions[connection]? = some session) (event : Event) :
    (s.step event).sessions[connection]? = some session ∨
      (∃ next, s.opens event = some (connection, next) ∧
        (s.step event).sessions[connection]? = some next) ∨
      (session.domain.valid = true → session.incarnation.valid = true →
        (s.step event).dead session.domain session.incarnation = true) := by
  have effect := s.step_effect event
  generalize s.step event = later at effect ⊢
  cases effect with
  | kept => exact .inl there
  | entered => exact .inl there
  | withdrawn => exact .inl there
  | revoked => exact .inl there
  | greeted other _ _ later next _ opened step =>
    by_cases here : other = connection
    · subst here
      exact .inr (.inl ⟨next, opened, (lookup_insert ..).trans (if_pos rfl)⟩)
    · exact .inl ((lookup_insert ..).trans ((if_neg here).trans there))
  | ended other io ending later found same =>
    by_cases here : other = connection
    · subst here
      obtain rfl : ending = session := Option.some.inj (found.symm.trans there)
      refine .inr (.inr fun legal valid => (same.tombstoned _ _).trans ?_)
      exact Registry.retire_buries _ _ legal valid io.nowMs
    · exact .inl ((lookup_erase ..).trans ((if_neg here).trans there))

/-- The end of a connection buries the incarnation of its session. -/
theorem dismissed_dead {s : SiteServer} {connection : Nat} {session : ConnectionSession}
    (there : s.sessions[connection]? = some session) (io : Moment)
    (running : s.controller.crashed = false) (legal : session.domain.valid = true)
    (valid : session.incarnation.valid = true) :
    (s.step (.closed connection io)).dead session.domain session.incarnation = true := by
  rw [dead, step_closed running there io, (endSession_dismissed s.controller io session).tombstoned]
  exact Registry.retire_buries _ _ legal valid io.nowMs

/-- The end of a connection leaves other domains alone. -/
theorem closed_elsewhere {s : SiteServer} {connection : Nat} {session : ConnectionSession}
    (there : s.sessions[connection]? = some session) (io : Moment)
    (running : s.controller.crashed = false) {domain : MemberDomainKey}
    (apart : session.domain ≠ domain) (incarnation : Incarnation) :
    (s.step (.closed connection io)).lives domain incarnation = s.lives domain incarnation := by
  obtain ⟨state, graves⟩ := s.controller.authority.retire_elsewhere session.domain domain
    session.incarnation io.nowMs apart
  rw [lives, step_closed running there io,
    retained_lives (endSession_dismissed s.controller io session)]
  exact Registry.memberIncarnationLive_congr state (graves incarnation)

/-- A session that is opened is carried by its connection, and is live. -/
theorem opens_step {s : SiteServer} {event : Event} {connection : Nat} {session : ConnectionSession}
    (opened : s.opens event = some (connection, session)) :
    (s.step event).sessions[connection]? = some session ∧
      Admitted s.controller (s.step event).controller session := by
  have effect := s.step_effect event
  generalize s.step event = later at effect ⊢
  cases effect with
  | kept _ _ _ shut => exact absurd (shut.symm.trans opened) nofun
  | entered _ _ _ _ _ shut => exact absurd (shut.symm.trans opened) nofun
  | withdrawn _ _ _ _ _ shut => exact absurd (shut.symm.trans opened) nofun
  | revoked _ _ _ _ shut => exact absurd (shut.symm.trans opened) nofun
  | greeted other _ _ later next _ there step =>
    cases there.symm.trans opened
    exact ⟨(lookup_insert ..).trans (if_pos rfl), step.admits⟩
  | ended =>
    unfold opens at opened
    rw [ite_self] at opened
    cases opened

omit [StdSort] in
/-- One incarnation is live in a domain. -/
theorem one_lives {r : Registry} {domain : MemberDomainKey} {a b : Incarnation}
    (first : r.memberIncarnationLive domain a = true)
    (second : r.memberIncarnationLive domain b = true) : a = b :=
  ((r.memberIncarnationLive_iff domain a).mp first).2.2.symm.trans
    ((r.memberIncarnationLive_iff domain b).mp second).2.2

theorem Accounted.step {connection : Nat} {s : SiteServer} {past : List ConnectionSession}
    (accounted : Accounted connection s past) (event : Event) (single : Single connection s event) :
    Accounted connection (s.step event)
      (past ++ (((s.opens event).filter (·.1 = connection)).map Prod.snd).toList) := by
  intro a member
  rcases List.mem_append.mp member with before | now
  · rcases accounted a before with dead | ⟨⟨session, there, domain, incarnation⟩, legal, valid, lives⟩
    · exact .inl (dead_step dead event)
    rw [← domain] at legal lives ⊢
    rw [← incarnation] at valid lives ⊢
    rcases lives_step legal valid lives event with still | dead
    · rcases session_step there event with carried | ⟨next, opened, carried⟩ | dies
      · exact .inr ⟨⟨session, carried, rfl, rfl⟩, legal, valid, still⟩
      · have same := (single next opened).2 session there lives
        have live := (opens_step opened).2.live
        rw [same] at live
        exact .inr ⟨⟨next, carried, same, one_lives live still⟩, legal, valid, still⟩
      · exact .inl (dies legal valid)
    · exact .inl dead
  · obtain ⟨⟨other, next⟩, filtered, rfl⟩ : ∃ pair,
        (s.opens event).filter (·.1 = connection) = some pair ∧ pair.2 = a := by
      simpa using now
    obtain ⟨opened, here⟩ := Option.filter_eq_some_iff.mp filtered
    obtain rfl : other = connection := by simpa using here
    obtain ⟨carried, admitted⟩ := opens_step opened
    refine .inr ⟨⟨next, carried, rfl, rfl⟩, admitted.legal, ?_, admitted.live⟩
    simp only [Incarnation.valid, Bool.and_eq_true, bne_iff_ne]
    exact ⟨(single next opened).1, admitted.boot⟩

theorem accounted_run {connection : Nat} {s : SiteServer} {past : List ConnectionSession}
    (accounted : Accounted connection s past) (events : List Event)
    (single : Guarded step (Single connection) s events) :
    Accounted connection (run step s events) (past ++ s.openedOn connection events) := by
  induction events generalizing s past with
  | nil =>
    rw [openedOn, List.append_nil]
    exact accounted
  | cons event rest ih =>
    rw [run_cons, openedOn, ← List.append_assoc]
    exact ih (accounted.step event single.1) single.2

omit [StdSort] in
theorem not_lives_of_dead {r : Registry} {domain : MemberDomainKey} {incarnation : Incarnation}
    (dead : r.tombstoned domain incarnation = true) :
    r.memberIncarnationLive domain incarnation = false := by
  rw [Registry.memberIncarnationLive, dead, Bool.not_true, Bool.false_and]

/-- The end of a connection leaves nobody live whom it got admitted. -/
theorem Accounted.closed {connection : Nat} {s : SiteServer} {past : List ConnectionSession}
    (accounted : Accounted connection s past) (io : Moment) (running : s.controller.crashed = false)
    {a : ConnectionSession} (member : a ∈ past) :
    (s.step (.closed connection io)).lives a.domain a.incarnation = false := by
  rcases accounted a member with dead | ⟨⟨session, there, domain, incarnation⟩, legal, valid, -⟩
  · exact not_lives_of_dead (dead_step dead _)
  · have dies := dismissed_dead there io running
    rw [domain, incarnation] at dies
    exact not_lives_of_dead (dies legal valid)

/-- An admitted incarnation is live in no other domain, and no session of another
domain carries it on another connection. -/
def Distinct (s : SiteServer) (event : Event) : Prop :=
  ∀ (connection : Nat) (next : ConnectionSession), s.opens event = some (connection, next) →
    (∀ domain, s.lives domain next.incarnation = true → domain = next.domain) ∧
      ∀ (other : Nat) (session : ConnectionSession), other ≠ connection →
        s.sessions[other]? = some session → session.incarnation = next.incarnation →
        session.domain = next.domain

/-- The incarnation of a session is live in the session's domain at most. -/
def Apart (s : SiteServer) : Prop :=
  ∀ (connection : Nat) (session : ConnectionSession) (domain : MemberDomainKey),
    s.sessions[connection]? = some session → s.lives domain session.incarnation = true →
      domain = session.domain

/-- Whoever comes first to a started controller is the only one. -/
theorem distinct_opened {c : SiteController} (fresh : c.Fresh) (io : Moment)
    (disk : Option (List UInt8)) (event : Event) : Distinct (opened c io disk) event := by
  have start := SiteController.start_fresh fresh io disk
  refine fun connection next _ => ⟨fun domain lives => ?_, fun other session _ there => ?_⟩
  · obtain ⟨-, live, -⟩ := (Registry.memberIncarnationLive_iff _ _ _).mp lives
    have blank : (opened c io disk).controller.authority.domainState domain = {} :=
      start.states domain
    rw [blank] at live
    cases live
  · have none : (∅ : ExtTreeMap Nat ConnectionSession compare)[other]? = none := lookup_empty _
    exact absurd (none.symm.trans there) nofun

/-- A session was there before, unless the event opened it. -/
theorem session_of_step {s : SiteServer} {event : Event} {connection : Nat}
    {session : ConnectionSession} (there : (s.step event).sessions[connection]? = some session) :
    s.opens event = some (connection, session) ∨
      s.sessions[connection]? = some session ∧
        ∀ next, s.opens event ≠ some (connection, next) := by
  have effect := s.step_effect event
  generalize s.step event = later at effect there
  have quiet : s.opens event = none → ∀ next, s.opens event ≠ some (connection, next) :=
    fun shut next opened => by rw [shut] at opened; cases opened
  cases effect with
  | kept _ _ _ shut => exact .inr ⟨there, quiet shut⟩
  | entered _ _ _ _ _ shut => exact .inr ⟨there, quiet shut⟩
  | withdrawn _ _ _ _ _ shut => exact .inr ⟨there, quiet shut⟩
  | revoked _ _ _ _ shut => exact .inr ⟨there, quiet shut⟩
  | greeted other _ _ later next _ opened =>
    by_cases here : other = connection
    · subst here
      obtain rfl : next = session := Option.some.inj
        (((lookup_insert ..).trans (if_pos rfl)).symm.trans there)
      exact .inl opened
    · refine .inr ⟨((lookup_insert ..).trans (if_neg here)).symm.trans there, fun more clash => ?_⟩
      cases opened.symm.trans clash
      exact here rfl
  | ended other io ending later found =>
    have kept : (s.sessions.erase other)[connection]? = some session := there
    rw [lookup_erase] at kept
    split at kept
    · cases kept
    · refine .inr ⟨kept, quiet ?_⟩
      unfold opens
      exact ite_self _

theorem Apart.step {s : SiteServer} (apart : Apart s) (event : Event) (distinct : Distinct s event) :
    Apart (s.step event) := by
  intro connection session domain there lives
  rcases session_of_step there with opened | ⟨was, others⟩
  · rcases lives_of_step lives with before | ⟨other, next, same, domain, -⟩
    · exact (distinct connection session opened).1 domain before
    · cases opened.symm.trans same
      exact domain
  · rcases lives_of_step lives with before | ⟨other, next, opened, domain, incarnation⟩
    · exact apart connection session domain was before
    · rw [domain]
      refine ((distinct other next opened).2 connection session ?_ was incarnation).symm
      rintro rfl
      exact others next opened

/-- Two HELLOs, on connections of their own or on one. -/
def greetings (first second : Nat) (rack boot : Text) (sequence : UInt64) : List Event :=
  [.hello first (ascii "rack-1") (ascii "boot-a") 1, .hello second rack boot sequence]

omit [StdSort] in
theorem greetings_report (first second : Nat) (rack boot : Text) (sequence : UInt64) :
    ∀ event ∈ greetings first second rack boot sequence, Reports event := by
  simp only [greetings, List.forall_mem_cons, List.not_mem_nil, false_imp_iff, implies_true,
    and_true]
  exact ⟨.hello _ _ _, .hello _ _ _⟩

/-- The session on a connection is the last one opened on it. -/
def LastOpened (connection : Nat) (s : SiteServer) (past : List ConnectionSession) : Prop :=
  ∀ session, s.sessions[connection]? = some session → past.getLast? = some session

theorem LastOpened.step {connection : Nat} {s : SiteServer} {past : List ConnectionSession}
    (last : LastOpened connection s past) (event : Event) :
    LastOpened connection (s.step event)
      (past ++ (((s.opens event).filter (·.1 = connection)).map Prod.snd).toList) := by
  intro session there
  rcases session_of_step there with opened | ⟨was, others⟩
  · rw [opened, Option.filter_some, if_pos (by simp)]
    exact List.getLast?_concat
  · have none : (s.opens event).filter (·.1 = connection) = none := by
      refine Option.filter_eq_none_iff.mpr fun pair opened => ?_
      simp only [decide_eq_true_eq]
      rintro rfl
      exact others pair.2 opened
    rw [none, Option.map_none, Option.toList_none, List.append_nil]
    exact last session was

theorem lastOpened_run {connection : Nat} {s : SiteServer} {past : List ConnectionSession}
    (last : LastOpened connection s past) (events : List Event) :
    LastOpened connection (run step s events) (past ++ s.openedOn connection events) := by
  induction events generalizing s past with
  | nil =>
    rw [openedOn, List.append_nil]
    exact last
  | cons event rest ih =>
    rw [run_cons, openedOn, ← List.append_assoc]
    exact ih (last.step event)

/-- A publication accepted on a session is for a domain its incarnation is live in. -/
theorem accepts_lives {s : SiteServer} {connection : Nat} {io : Moment}
    {declaration : MemberDomainDeclaration} {attempt : PublishAttempt}
    {record : MemberPublicationRecord}
    (accepted : s.accepts (.frame connection io (.publish declaration attempt)) = some record) :
    ∃ session, s.sessions[connection]? = some session ∧
      s.lives declaration.domain session.incarnation = true := by
  unfold accepts at accepted
  split at accepted
  · cases accepted
  obtain ⟨session, there, judged⟩ := Option.bind_eq_some_iff.mp accepted
  refine ⟨session, there, ?_⟩
  cases outcome : s.controller.judge io session.publisher session.incarnation declaration attempt with
  | error against =>
    rw [outcome] at judged
    cases judged
  | ok passed =>
    obtain ⟨fenced, domain, incarnation, -⟩ := SiteController.judge_ok outcome
    have live := Registry.fencePublication_live fenced
    simp only [SiteController.offerOf, domain, incarnation] at live
    exact (Registry.memberIncarnationLive_iff _ _ _).mpr live

end SiteServer

section

variable [StdSort] {c : SiteController}

/-- Once a connection has ended, no incarnation that was admitted on it is live,
in every run in which each HELLO on it names the domain of a session that still
has authority. -/
theorem authority_ends_with_session (io : Moment) (disk : Option (List UInt8))
    (events : List SiteServer.Event) (connection : Nat) (last : Moment)
    (single : Guarded SiteServer.step (SiteServer.Single connection) (.opened c io disk) events)
    (running : (run SiteServer.step (.opened c io disk) events).controller.crashed = false) :
    ∀ a ∈ (SiteServer.opened c io disk).openedOn connection events,
      ((run SiteServer.step (.opened c io disk) events).step (.closed connection last)).lives
        a.domain a.incarnation = false := by
  have start : SiteServer.Accounted connection (.opened c io disk) [] :=
    fun a member => absurd member List.not_mem_nil
  have accounted := SiteServer.accounted_run start events single
  rw [List.nil_append] at accounted
  exact fun a member => accounted.closed last running member

end

/-- A rack process that restarts on one connection. -/
theorem authority_ends_with_renewed_session :
    (((SiteServer.opened .sample .sample none).openedOn 1
        (SiteServer.greetings 1 1 (ascii "rack-1") (ascii "boot-b") 2)).all fun a =>
      ((run SiteServer.step (.opened .sample .sample none)
        (SiteServer.greetings 1 1 (ascii "rack-1") (ascii "boot-b") 2)).step
          (.closed 1 .sample)).lives a.domain a.incarnation == false) = true := by
  have reports := SiteServer.greetings_report 1 1 (ascii "rack-1") (ascii "boot-b") 2
  refine List.all_eq_true.mpr fun a opened => beq_iff_eq.mpr ?_
  refine authority_ends_with_session .sample none _ 1 .sample ?_ ?_ a opened
  · exact SiteServer.sample_alike.guarded SiteServer.single_alike rfl reports (by decide +kernel)
  · exact (SiteServer.sample_alike.run rfl reports).crashed.trans (by decide +kernel)

/-- One connection says HELLO for two racks; the first keeps its authority when the
connection ends. -/
theorem authority_outlives_session :
    ∃ a ∈ (SiteServer.opened .sample .sample none).openedOn 1
        (SiteServer.greetings 1 1 (ascii "rack-2") (ascii "boot-b") 1),
      ((run SiteServer.step (.opened .sample .sample none)
        (SiteServer.greetings 1 1 (ascii "rack-2") (ascii "boot-b") 1)).step
          (.closed 1 .sample)).lives a.domain a.incarnation = true := by
  have reports := SiteServer.greetings_report 1 1 (ascii "rack-2") (ascii "boot-b") 1
  have alike := SiteServer.sample_alike.run rfl reports
  have opened := @SiteServer.openedOn_alike _ 1 _ _ SiteServer.sample_alike rfl _ reports
  let first : ConnectionSession :=
    ⟨⟨.rack, ascii "rack-1"⟩, ⟨1, ⟨ascii "boot-a"⟩⟩, ⟨ascii "member-1"⟩⟩
  let second : ConnectionSession :=
    ⟨⟨.rack, ascii "rack-2"⟩, ⟨1, ⟨ascii "boot-b"⟩⟩, ⟨ascii "member-1"⟩⟩
  have carried : (run SiteServer.step (.opened .sample .sample none)
      (SiteServer.greetings 1 1 (ascii "rack-2") (ascii "boot-b") 1)).sessions[1]? =
        some second := by
    rw [alike.sessions]
    decide +kernel
  have running : (run SiteServer.step (.opened .sample .sample none)
      (SiteServer.greetings 1 1 (ascii "rack-2") (ascii "boot-b") 1)).controller.crashed = false :=
    alike.crashed.trans (by decide +kernel)
  refine ⟨first, by rw [opened]; decide +kernel, ?_⟩
  rw [SiteServer.closed_elsewhere carried .sample running (by decide), alike.lives]
  decide +kernel

section

variable [StdSort] {c : SiteController}

/-- An accepted PUBLISH_REQUEST is for the domain of the last HELLO accepted on its
connection, in every run in which no incarnation is admitted that another domain
has live or in session. -/
theorem session_speaks_for_its_domain (io : Moment) (disk : Option (List UInt8))
    (events : List SiteServer.Event)
    (distinct : Guarded SiteServer.step SiteServer.Distinct (.opened c io disk) events)
    (connection : Nat) (now : Moment) (declaration : MemberDomainDeclaration)
    (attempt : PublishAttempt) (record : MemberPublicationRecord)
    (accepted : (run SiteServer.step (.opened c io disk) events).accepts
      (.frame connection now (.publish declaration attempt)) = some record) :
    ∃ session, ((SiteServer.opened c io disk).openedOn connection events).getLast? = some session ∧
      declaration.domain = session.domain := by
  have start : SiteServer.Apart (.opened c io disk) := by
    intro connection session domain there
    have none : (∅ : ExtTreeMap Nat ConnectionSession compare)[connection]? = none := lookup_empty _
    exact absurd (none.symm.trans there) nofun
  have blank : SiteServer.LastOpened connection (.opened c io disk) [] := by
    intro session there
    have none : (∅ : ExtTreeMap Nat ConnectionSession compare)[connection]? = none := lookup_empty _
    exact absurd (none.symm.trans there) nofun
  have apart := run_invariant SiteServer.Apart (fun s event apart => apart.step event) events start
    distinct
  obtain ⟨session, there, lives⟩ := SiteServer.accepts_lives accepted
  exact ⟨session, SiteServer.lastOpened_run blank events session there,
    apart connection session _ there lives⟩

end

/-- A rack process publishes its own rack. -/
theorem session_publishes_its_rack :
    ∃ record, (run SiteServer.step (.opened .sample .sample none)
        [.hello 1 (ascii "rack-1") (ascii "boot-a") 1]).accepts
          (.report 1 (.sample (ascii "rack-1"))) = some record ∧
      ∃ session, ((SiteServer.opened .sample .sample none).openedOn 1
          [.hello 1 (ascii "rack-1") (ascii "boot-a") 1]).getLast? = some session ∧
        (MemberDomainDeclaration.sample (ascii "rack-1")).domain = session.domain := by
  have reports : ∀ event ∈ [SiteServer.Event.hello 1 (ascii "rack-1") (ascii "boot-a") 1],
      SiteServer.Reports event := List.forall_mem_singleton.mpr (.hello _ _ _)
  have alike := SiteServer.sample_alike.run rfl reports
  have accepts := (alike.step rfl (.publish 1 .sample (.sample (ascii "rack-1")) ⟨1, 1⟩)).1
  have accepted : ((run SiteServer.step SiteServer.sample
      [.hello 1 (ascii "rack-1") (ascii "boot-a") 1]).accepts
        (.report 1 (.sample (ascii "rack-1")))).isSome = true := by decide +kernel
  obtain ⟨record, found⟩ := Option.isSome_iff_exists.mp accepted
  have fresh := SiteController.create_fresh SiteController.sample_created
  have distinct : Guarded SiteServer.step SiteServer.Distinct (.opened .sample .sample none)
      [.hello 1 (ascii "rack-1") (ascii "boot-a") 1] :=
    ⟨SiteServer.distinct_opened fresh .sample none _, trivial⟩
  have published := accepts.trans found
  exact ⟨record, published, session_speaks_for_its_domain .sample none
    [.hello 1 (ascii "rack-1") (ascii "boot-a") 1] distinct 1 .sample (.sample (ascii "rack-1"))
    ⟨1, 1⟩ record published⟩

/-- Two processes of different racks present one incarnation; the first publishes
the second's rack. -/
theorem session_publishes_another_rack :
    ∃ record, (run SiteServer.step (.opened .sample .sample none)
        (SiteServer.greetings 1 2 (ascii "rack-2") (ascii "boot-a") 1)).accepts
          (.report 1 (.sample (ascii "rack-2"))) = some record ∧
      ∃ session, ((SiteServer.opened .sample .sample none).openedOn 1
          (SiteServer.greetings 1 2 (ascii "rack-2") (ascii "boot-a") 1)).getLast? =
            some session ∧
        (MemberDomainDeclaration.sample (ascii "rack-2")).domain ≠ session.domain := by
  have reports := SiteServer.greetings_report 1 2 (ascii "rack-2") (ascii "boot-a") 1
  have alike := SiteServer.sample_alike.run rfl reports
  have accepts := (alike.step rfl (.publish 1 .sample (.sample (ascii "rack-2")) ⟨1, 1⟩)).1
  have opened := @SiteServer.openedOn_alike _ 1 _ _ SiteServer.sample_alike rfl _ reports
  have accepted : ((run SiteServer.step SiteServer.sample
      (SiteServer.greetings 1 2 (ascii "rack-2") (ascii "boot-a") 1)).accepts
        (.report 1 (.sample (ascii "rack-2")))).isSome = true := by decide +kernel
  obtain ⟨record, found⟩ := Option.isSome_iff_exists.mp accepted
  refine ⟨record, accepts.trans found, ?_⟩
  rw [opened]
  exact ⟨⟨⟨.rack, ascii "rack-1"⟩, ⟨1, ⟨ascii "boot-a"⟩⟩, ⟨ascii "member-1"⟩⟩,
    by decide +kernel, by decide⟩

end SiteFabric
