import SiteFabric.Authority.Publications
import SiteFabric.Controller.Server
import SiteFabric.Lib.Run

/-! Generations across incarnations.
The fence reads marks that an admission takes away, while the controller keeps
the record they were taken from. A generation stays one content as long as the
first publication of an incarnation is held against that record. -/

namespace SiteFabric

open Lib Authority
open Std (ExtTreeMap)

namespace SiteServer

variable [StdSort]

/-- The marks of a published domain are those of the record that is held. -/
structure Marked (c : SiteController) (domain : MemberDomainKey) (held : MemberPublicationRecord) :
    Prop where
  there : c.publications[domain]? = some held
  named : held.domain = domain
  usable : held.usable = true
  incarnation : held.incarnation = (c.authority.domainState domain).live
  generation : held.generation = (c.authority.domainState domain).generation
  digest : held.digest = (c.authority.domainState domain).digest

/-- Where an incarnation that published is still live, its last record is held. -/
def AllMarked (c : SiteController) : Prop :=
  ∀ domain, (c.authority.domainState domain).hasLive = true →
    (c.authority.domainState domain).published = true → ∃ held, Marked c domain held

omit [StdSort] in
theorem Marked.carried {c later : SiteController} {domain : MemberDomainKey}
    {held : MemberPublicationRecord} (marked : Marked c domain held)
    (state : later.authority.domainState domain = c.authority.domainState domain)
    (publications : later.publications[domain]? = c.publications[domain]?) :
    Marked later domain held where
  there := publications.trans marked.there
  named := marked.named
  usable := marked.usable
  incarnation := by rw [marked.incarnation, state]
  generation := by rw [marked.generation, state]
  digest := by rw [marked.digest, state]

omit [StdSort] in
theorem AllMarked.carried {c later : SiteController} (marked : AllMarked c)
    (states : ∀ domain, (later.authority.domainState domain).hasLive = true →
      (later.authority.domainState domain).published = true →
      later.authority.domainState domain = c.authority.domainState domain)
    (publications : later.publications = c.publications) : AllMarked later := by
  intro domain live published
  have state := states domain live published
  rw [state] at live published
  obtain ⟨held, known⟩ := marked domain live published
  exact ⟨held, known.carried state (by rw [publications])⟩

omit [StdSort] in
theorem fencePublication_usable {r : MemberPublicationRecord} {authority : Registry}
    (passed : authority.fencePublication (SiteController.offerOf r) = .ok) : r.usable = true := by
  unfold Registry.fencePublication at passed
  split at passed
  · cases passed
  next legal =>
  simp only [SiteController.offerOf, Bool.or_eq_true, Bool.not_eq_true', not_or, Bool.not_eq_false,
    Bool.not_eq_true] at legal
  obtain ⟨⟨⟨domain, generation⟩, digest⟩, -⟩ := legal
  simp only [MemberPublicationRecord.usable, domain, digest, Bool.true_and, Bool.not_false,
    Bool.and_true]
  simpa [Generation.isSet, Generation.isUnset] using generation

omit [StdSort] in
/-- The marks after a record has entered are the record's. -/
theorem AllMarked.enter {c : SiteController} (marked : AllMarked c) (io : Moment)
    {record : MemberPublicationRecord}
    (passed : c.authority.fencePublication (SiteController.offerOf record) = .ok) :
    AllMarked (c.enter io record) := by
  obtain ⟨-, live, same⟩ := Registry.fencePublication_live passed
  have states := Registry.recordPublication_state passed io.nowMs
  intro domain alive published
  change ((c.authority.recordPublication _ io.nowMs).1.domainState domain).hasLive = true at alive
  change ((c.authority.recordPublication _ io.nowMs).1.domainState domain).published = true
    at published
  rw [states domain] at alive published
  by_cases here : record.domain = domain
  · subst here
    have marks : (c.enter io record).authority.domainState record.domain = _ :=
      (states record.domain).trans (if_pos rfl)
    refine ⟨record, (lookup_insert ..).trans (if_pos rfl), rfl, fencePublication_usable passed,
      ?_, ?_, ?_⟩
    · rw [marks]
      exact same.symm
    · rw [marks]
      rfl
    · rw [marks]
      rfl
  · have offered : (SiteController.offerOf record).domain ≠ domain := here
    rw [if_neg offered] at alive published
    obtain ⟨held, known⟩ := marked domain alive published
    refine ⟨held, known.carried ((states domain).trans (if_neg offered)) ?_⟩
    exact (lookup_insert ..).trans (if_neg here)

omit [StdSort] in
/-- A retirement changes the state of no domain that is live afterwards. -/
theorem retire_keeps {r : Registry} {domain other : MemberDomainKey} {incarnation : Incarnation}
    {nowMs : Int64}
    (live : ((r.retireMemberIncarnation domain incarnation nowMs).1.domainState other).hasLive =
      true) :
    (r.retireMemberIncarnation domain incarnation nowMs).1.domainState other =
      r.domainState other := by
  have step := r.retire_step domain incarnation nowMs
  generalize r.retireMemberIncarnation domain incarnation nowMs = reply at step live ⊢
  cases step with
  | refused => rfl
  | retired later _ _ states => exact (states other live).1

/-- Every event leaves the marks those of the records held. -/
theorem AllMarked.step {s : SiteServer} (marked : AllMarked s.controller) (event : Event) :
    AllMarked (s.step event).controller := by
  have effect := s.step_effect event
  generalize s.step event = later at effect ⊢
  cases effect with
  | kept _ later _ _ same =>
    exact marked.carried (fun domain _ _ => same.states domain) same.publications
  | greeted connection io request later session response _ step =>
    cases step with
    | known authority _ _ _ _ _ states => exact marked.carried (fun domain _ _ => states domain) rfl
    | admitted authority _ nowMs _ _ _ _ _ states =>
      refine marked.carried (fun domain _ published => ?_) rfl
      have state := states domain
      split at state
      · change (authority.domainState domain).published = true at published
        rw [state] at published
        cases published
      · exact state
  | entered _ io record later _ _ passed same =>
    exact (marked.enter io passed).carried (fun domain _ _ => same.states domain) same.publications
  | withdrawn _ io request later _ _ same =>
    refine marked.carried (fun domain live _ => ?_) same.publications
    rw [same.states] at live ⊢
    exact retire_keeps live
  | revoked _ domain later _ _ same =>
    obtain ⟨authority, publications, -⟩ := s.controller.listRevoked_keeps domain
    refine marked.carried (fun other _ _ => ?_) (same.publications.trans publications)
    rw [same.states, authority]
  | ended connection io session later _ same =>
    refine marked.carried (fun domain live _ => ?_) same.publications
    rw [same.states] at live ⊢
    exact retire_keeps live

/-- The records a run gets accepted, in their order. -/
def acceptedIn : SiteServer → List Event → List MemberPublicationRecord
  | _, [] => []
  | s, event :: rest => (s.accepts event).toList ++ acceptedIn (s.step event) rest

theorem acceptedIn_alike {s later : SiteServer} (alike : Alike s later)
    (quiet : s.controller.config.composeOnPublish = false) {events : List Event}
    (reports : ∀ event ∈ events, Reports event) :
    later.acceptedIn events = s.acceptedIn events := by
  induction events generalizing s later with
  | nil => rfl
  | cons event rest ih =>
    obtain ⟨first, others⟩ := List.forall_mem_cons.mp reports
    obtain ⟨accepts, -, next⟩ := alike.step quiet first
    have config : (s.step event).controller.config = s.controller.config := s.step_config event
    rw [acceptedIn, acceptedIn, accepts, ih next (config ▸ quiet) others]

/-- An earlier content of a domain against a later one: a lower generation, or
the same generation with the same digest. -/
def Behind (a b : MemberPublicationRecord) : Prop :=
  a.generation < b.generation ∨ a.generation = b.generation ∧ a.digest = b.digest

omit [StdSort] in
theorem Behind.trans {a b c : MemberPublicationRecord} (first : Behind a b) (second : Behind b c) :
    Behind a c := by
  rcases first with less | ⟨same, digest⟩
  · rcases second with further | ⟨equal, -⟩
    · exact .inl (less.trans further)
    · exact .inl (equal ▸ less)
  · rcases second with further | ⟨equal, content⟩
    · exact .inl (same ▸ further)
    · exact .inr ⟨same.trans equal, digest.trans content⟩

/-- The first publication of an incarnation stands behind the record held: its
generation is higher, or it is that record's content again. -/
def Climbing (s : SiteServer) (event : Event) : Prop :=
  ∀ record held, s.accepts event = some record →
    (s.controller.authority.domainState record.domain).published = false →
    s.controller.publications[record.domain]? = some held → Behind held record

omit [StdSort] in
instance (a b : MemberPublicationRecord) : Decidable (Behind a b) :=
  inferInstanceAs (Decidable (_ ∨ _))

instance (s : SiteServer) (event : Event) : Decidable (Climbing s event) :=
  decidable_of_iff (∀ record ∈ s.accepts event,
    (s.controller.authority.domainState record.domain).published = false →
      ∀ held ∈ s.controller.publications[record.domain]?, Behind held record)
    ⟨fun all record held accepted blank found => all record accepted blank held found,
      fun all record accepted blank held found => all record held accepted blank found⟩

theorem climbing_alike {s later : SiteServer} {event : Event} (alike : Alike s later)
    (quiet : s.controller.config.composeOnPublish = false) (reports : Reports event)
    (climbing : Climbing s event) : Climbing later event := by
  intro record held accepted
  rw [(alike.step quiet reports).1] at accepted
  rw [alike.same.states, alike.same.publications]
  exact climbing record held accepted

/-- What a run has accepted so far, against the records held. -/
structure Ordered (s : SiteServer) (past : List MemberPublicationRecord) : Prop where
  marked : AllMarked s.controller
  held : ∀ a ∈ past, ∃ r, s.controller.publications[a.domain]? = some r ∧ Behind a r
  agreed : ∀ a ∈ past, ∀ b ∈ past, a.domain = b.domain → a.generation = b.generation →
    a.digest = b.digest

/-- A record that passes the fence stands behind the record held. -/
theorem behind_of_accepted {s : SiteServer} {event : Event} {record held : MemberPublicationRecord}
    (marked : AllMarked s.controller) (climbing : Climbing s event)
    (accepted : s.accepts event = some record)
    (passed : s.controller.authority.fencePublication (SiteController.offerOf record) = .ok)
    (found : s.controller.publications[record.domain]? = some held) : Behind held record := by
  cases published : (s.controller.authority.domainState record.domain).published with
  | false => exact climbing record held accepted published found
  | true =>
    obtain ⟨-, live, -⟩ := Registry.fencePublication_live passed
    obtain ⟨known, marks⟩ := marked record.domain live published
    obtain rfl : known = held := Option.some.inj (marks.there.symm.trans found)
    have precedes := Registry.lastOffer_precedes passed published
    have generation : (s.controller.authority.lastOffer record.domain).generation =
        known.generation := marks.generation.symm
    have digest : (s.controller.authority.lastOffer record.domain).digest = known.digest :=
      marks.digest.symm
    have content := precedes.content
    rw [Behind, ← generation, ← digest]
    rcases precedes.order with less | ⟨same, -⟩
    · exact .inl less
    · exact .inr ⟨same, content same⟩

theorem Ordered.step {s : SiteServer} {past : List MemberPublicationRecord} (ordered : Ordered s past)
    (event : Event) (climbing : Climbing s event) :
    Ordered (s.step event) (past ++ (s.accepts event).toList) := by
  have marked := ordered.marked.step event
  have silently : s.accepts event = none →
      (s.step event).controller.publications = s.controller.publications →
      Ordered (s.step event) (past ++ (s.accepts event).toList) := fun silent same => by
    rw [silent, Option.toList_none, List.append_nil]
    exact ⟨marked, fun a member => same ▸ ordered.held a member, ordered.agreed⟩
  have effect := s.step_effect event
  generalize s.step event = later at effect marked silently ⊢
  cases effect with
  | kept _ later silent _ same => exact silently silent same.publications
  | greeted connection io request later session response _ step =>
    refine silently ?_ ?_
    · unfold accepts
      exact ite_self _
    · cases step <;> rfl
  | withdrawn _ io request later silent _ same => exact silently silent same.publications
  | revoked _ domain later silent _ same =>
    exact silently silent (same.publications.trans (s.controller.listRevoked_keeps domain).2.1)
  | ended connection io session later _ same =>
    refine silently ?_ same.publications
    unfold accepts
    exact ite_self _
  | entered _ io record later accepted _ passed same =>
    have behind : ∀ held, s.controller.publications[record.domain]? = some held →
        Behind held record := fun held found =>
      behind_of_accepted ordered.marked climbing accepted passed found
    have older : ∀ a ∈ past, a.domain = record.domain → Behind a record := fun a member here => by
      obtain ⟨r, found, within⟩ := ordered.held a member
      exact within.trans (behind r (here ▸ found))
    have entered : ∀ domain, later.publications[domain]? =
        if record.domain = domain then some record else s.controller.publications[domain]? :=
      fun domain => by
        rw [same.publications]
        by_cases here : record.domain = domain
        · rw [if_pos here]
          exact (lookup_insert ..).trans (if_pos here)
        · rw [if_neg here]
          exact (lookup_insert ..).trans (if_neg here)
    rw [accepted]
    refine ⟨marked, ?_, ?_⟩
    · intro a member
      rw [entered]
      rcases List.mem_append.mp member with before | now
      · split
        · next here => exact ⟨record, rfl, older a before here.symm⟩
        · exact ordered.held a before
      · obtain rfl := List.mem_singleton.mp now
        exact ⟨a, if_pos rfl, .inr ⟨rfl, rfl⟩⟩
    · have tie : ∀ a ∈ past, a.domain = record.domain → a.generation = record.generation →
          a.digest = record.digest := fun a member here equal => by
        rcases older a member here with less | ⟨-, digest⟩
        · exact absurd equal less.ne
        · exact digest
      intro a memberA b memberB here equal
      rcases List.mem_append.mp memberA with beforeA | nowA
      · rcases List.mem_append.mp memberB with beforeB | nowB
        · exact ordered.agreed a beforeA b beforeB here equal
        · obtain rfl := List.mem_singleton.mp nowB
          exact tie a beforeA here equal
      · obtain rfl := List.mem_singleton.mp nowA
        rcases List.mem_append.mp memberB with beforeB | nowB
        · exact (tie b beforeB here.symm equal.symm).symm
        · obtain rfl := List.mem_singleton.mp nowB
          rfl

theorem ordered_run {s : SiteServer} {past : List MemberPublicationRecord} (ordered : Ordered s past)
    (events : List Event) (climbing : Guarded step Climbing s events) :
    Ordered (run step s events) (past ++ acceptedIn s events) := by
  induction events generalizing s past with
  | nil =>
    rw [acceptedIn, List.append_nil]
    exact ordered
  | cons event rest ih =>
    rw [run_cons, acceptedIn, ← List.append_assoc]
    exact ih (ordered.step event climbing.1) climbing.2

omit [StdSort] in
theorem ordered_fresh {c : SiteController} (fresh : c.Fresh) : Ordered { controller := c } [] := by
  refine ⟨fun domain live => ?_, fun a member => absurd member List.not_mem_nil,
    fun a member => absurd member List.not_mem_nil⟩
  dsimp only at live
  rw [fresh.states domain] at live
  cases live

end SiteServer

/-- Two publications accepted for one domain at one generation have one digest,
whatever incarnations they come from, in every run in which the first
publication of an incarnation stands behind the record held. -/
theorem accepted_generation_is_immutable [StdSort] {config : ControllerConfig} {nonce : BootNonce}
    {c : SiteController} (io : Moment) (disk : Option (List UInt8)) (events : List SiteServer.Event)
    (created : SiteController.create config nonce = .ok c)
    (climbing : Guarded SiteServer.step SiteServer.Climbing (.opened c io disk) events) :
    ∀ a ∈ (SiteServer.opened c io disk).acceptedIn events,
      ∀ b ∈ (SiteServer.opened c io disk).acceptedIn events,
        a.domain = b.domain → a.generation = b.generation → a.digest = b.digest := by
  have fresh := SiteController.start_fresh (SiteController.create_fresh created) io disk
  have ordered := SiteServer.ordered_run (SiteServer.ordered_fresh fresh) events climbing
  rw [List.nil_append] at ordered
  exact ordered.agreed

theorem takeover_climbs :
    SiteController.create .sample ⟨ascii "boot-1"⟩ = .ok .sample ∧
      ∀ a ∈ (SiteServer.opened .sample .sample none).acceptedIn (SiteServer.takeover
          (.sample (ascii "rack-1")) (.sample (ascii "rack-1"))),
        ∀ b ∈ (SiteServer.opened .sample .sample none).acceptedIn (SiteServer.takeover
            (.sample (ascii "rack-1")) (.sample (ascii "rack-1"))),
          a.domain = b.domain → a.generation = b.generation → a.digest = b.digest := by
  refine ⟨SiteController.sample_created, accepted_generation_is_immutable .sample none _
    SiteController.sample_created ?_⟩
  exact SiteServer.sample_alike.guarded SiteServer.climbing_alike rfl
    (SiteServer.takeover_reports _ _) (by decide +kernel)

/-- A process that takes over publishes another content under the same generation. -/
theorem takeover_republishes_generation :
    SiteController.create .sample ⟨ascii "boot-1"⟩ = .ok .sample ∧
      (SiteController.sample.start .sample none).status = .ok ∧
      ∃ a ∈ (SiteServer.opened .sample .sample none).acceptedIn (SiteServer.takeover
          (.sample (ascii "rack-1")) (.uplinked [])),
        ∃ b ∈ (SiteServer.opened .sample .sample none).acceptedIn (SiteServer.takeover
            (.sample (ascii "rack-1")) (.uplinked [])),
          a.domain = b.domain ∧ a.generation = b.generation ∧ a.digest ≠ b.digest := by
  refine ⟨SiteController.sample_created, SiteServer.sample_started, ?_⟩
  rw [SiteServer.acceptedIn_alike SiteServer.sample_alike rfl (SiteServer.takeover_reports _ _)]
  decide +kernel

end SiteFabric
