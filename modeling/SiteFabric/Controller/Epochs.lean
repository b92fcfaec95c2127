import SiteFabric.Controller.Generations

/-! The epochs that publications observe.
The fence holds a publication against the epoch its domain observed last, and
that mark outlives the incarnation that set it. It stays within the controller's
epoch as long as every accepted publication does. -/

namespace SiteFabric

open Lib Authority

namespace Authority.Registry

theorem fencePublished_ne_fencedEpoch (state : DomainState) (o : Offer) :
    fencePublished state o ≠ .fencedEpoch := by
  unfold fencePublished
  repeat' split
  all_goals decide

/-- A publication is fenced for its epoch by a later one its domain has observed. -/
theorem lt_of_fencedEpoch {r : Registry} {o : Offer} (fenced : r.fencePublication o = .fencedEpoch) :
    o.epoch < (r.domainState o.domain).observedEpoch := by
  unfold fencePublication at fenced
  split at fenced
  · cases fenced
  split at fenced
  · cases fenced
  split at fenced
  · cases fenced
  next state found =>
  have here : r.domainState o.domain = state := by rw [domainState, found, Option.getD_some]
  split at fenced
  · cases fenced
  split at fenced
  · cases fenced
  split at fenced
  · next late =>
    rw [here]
    exact late.2
  split at fenced
  · exact absurd fenced (fencePublished_ne_fencedEpoch state o)
  · cases fenced

/-- The epoch a domain observed survives the incarnation that observed it. -/
theorem retire_observedEpoch (r : Registry) (domain other : MemberDomainKey)
    (incarnation : Incarnation) (nowMs : Int64) :
    ((r.retireMemberIncarnation domain incarnation nowMs).1.domainState other).observedEpoch =
      (r.domainState other).observedEpoch := by
  unfold retireMemberIncarnation
  split
  · rfl
  dsimp only
  split
  · rfl
  next state found =>
  split
  · have same : (r.domainState domain).observedEpoch = state.observedEpoch := by
      have there : r.domains[domain]? = some state := found
      rw [domainState, there, Option.getD_some]
    rw [domainState_insert]
    split
    · next here => rw [← here, same]
    · rfl
  · rfl

end Authority.Registry

namespace SiteController

variable [StdSort] {c : SiteController} {io : Moment} {publisher : MemberId}
  {incarnation : Incarnation} {declaration : MemberDomainDeclaration} {attempt : PublishAttempt}

theorem publish_fencedEpoch_iff :
    (c.publish io publisher incarnation declaration attempt).2.status = .fencedEpoch ↔
      ∃ factors, c.judge io publisher incarnation declaration attempt =
        .error (.fencedEpoch, factors) := by
  cases judged : c.judge io publisher incarnation declaration attempt with
  | error against =>
    have status : (c.publish io publisher incarnation declaration attempt).2.status =
        against.1 := by rw [publish, judged]
    rw [status]
    constructor
    · intro fenced
      exact ⟨against.2, by rw [← fenced]⟩
    · rintro ⟨factors, same⟩
      cases same
      rfl
  | ok record =>
    have accepted : (c.publish io publisher incarnation declaration attempt).2.status =
        .accepted := (publish_accepted_iff ..).mpr ⟨record, judged⟩
    rw [accepted]
    constructor
    · intro impossible
      cases impossible
    · rintro ⟨factors, impossible⟩
      cases impossible

/-- Only the fence refuses a publication for its epoch. -/
theorem observed_of_fencedEpoch {factors : Factors}
    (refused : c.judge io publisher incarnation declaration attempt =
      .error (.fencedEpoch, factors)) :
    declaration.observedEpoch < (c.authority.domainState declaration.domain).observedEpoch := by
  unfold judge at refused
  split at refused
  · cases refused
  split at refused
  · next status sealing =>
    cases refused
    exact absurd (declaration.sealDeclaration_defective _ sealing) (by decide)
  next canonical sealing =>
  split at refused
  · cases refused
  dsimp only at refused
  split at refused
  · next fenced =>
    injection refused with same
    have late := Registry.lt_of_fencedEpoch (congrArg Prod.fst same)
    have domain := (MemberDomainDeclaration.sealDeclaration_keeps sealing).1
    change declaration.observedEpoch < (c.authority.domainState canonical.domain).observedEpoch
      at late
    rwa [domain] at late
  · cases refused

/-- No domain has observed an epoch after the controller's. -/
def Sighted (c : SiteController) : Prop :=
  ∀ domain, (c.authority.domainState domain).observedEpoch ≤ c.epoch

/-- A publication by a live incarnation that observes the controller's epoch is
not fenced for it. -/
def Unfenced (c : SiteController) : Prop :=
  ∀ io publisher incarnation declaration attempt,
    c.authority.memberIncarnationLive declaration.domain incarnation = true →
      declaration.observedEpoch = c.epoch →
        (c.publish io publisher incarnation declaration attempt).2.status ≠ .fencedEpoch

theorem Sighted.unfenced (sighted : c.Sighted) : c.Unfenced := by
  intro io publisher incarnation declaration attempt _ current fenced
  obtain ⟨factors, refused⟩ := publish_fencedEpoch_iff.mp fenced
  have late := observed_of_fencedEpoch refused
  rw [current] at late
  exact absurd (late.trans_le (sighted declaration.domain)) (lt_irrefl _)

end SiteController

namespace SiteServer

variable [StdSort]

/-- What a publication that is accepted observes is not after the controller's epoch. -/
def Observing (s : SiteServer) (event : Event) : Prop :=
  ∀ record ∈ s.accepts event, record.observedEpoch ≤ s.controller.epoch

instance (s : SiteServer) (event : Event) : Decidable (s.Observing event) :=
  inferInstanceAs (Decidable (∀ record ∈ s.accepts event, _))

/-- A HELLO, the end of a session, or a publication that is accepted. -/
def Ordinary (s : SiteServer) : Event → Prop
  | .frame _ _ (.hello _) => True
  | .closed _ _ => True
  | event => (s.accepts event).isSome = true

theorem sighted_step {s : SiteServer} (sighted : s.controller.Sighted) (event : Event)
    (observing : s.Observing event) : (s.step event).controller.Sighted := by
  have effect := s.step_effect event
  generalize s.step event = later at effect ⊢
  intro other
  cases effect with
  | kept _ later _ _ same =>
    rw [same.states, same.epoch]
    exact sighted other
  | greeted connection io request later session response _ step =>
    cases step with
    | known authority _ _ _ _ _ states =>
      change (authority.domainState other).observedEpoch ≤ s.controller.epoch
      rw [states]
      exact sighted other
    | admitted authority _ nowMs _ _ _ _ _ states =>
      change (authority.domainState other).observedEpoch ≤ s.controller.epoch
      rw [states]
      split
      · exact sighted request.domain
      · exact sighted other
  | entered _ io record later accepted _ passed same =>
    rw [same.states, same.epoch]
    have entered : (s.controller.enter io record).authority.domainState other = _ :=
      Registry.recordPublication_state passed io.nowMs other
    rw [entered]
    split
    · exact observing record accepted
    · exact sighted other
  | withdrawn _ io request later _ _ same =>
    rw [same.states, same.epoch]
    change ((s.controller.authority.retireMemberIncarnation _ _ _).1.domainState
      other).observedEpoch ≤ s.controller.epoch
    rw [Registry.retire_observedEpoch]
    exact sighted other
  | revoked _ domain later _ _ same =>
    rw [same.states, same.epoch, (s.controller.listRevoked_keeps domain).1]
    unfold SiteController.listRevoked
    split <;> exact sighted other
  | ended connection io session later _ same =>
    rw [same.states, same.epoch]
    change ((s.controller.authority.retireMemberIncarnation _ _ _).1.domainState
      other).observedEpoch ≤ s.controller.epoch
    rw [Registry.retire_observedEpoch]
    exact sighted other

theorem ordinary_alike {s later : SiteServer} {event : Event} (alike : Alike s later)
    (quiet : s.controller.config.composeOnPublish = false) (reports : Reports event)
    (ordinary : s.Ordinary event) : later.Ordinary event := by
  cases reports with
  | hello => trivial
  | publish connection io declaration attempt =>
    have accepts := (alike.step quiet (.publish connection io declaration attempt)).1
    exact (congrArg Option.isSome accepts).trans ordinary

theorem observing_alike {s later : SiteServer} {event : Event} (alike : Alike s later)
    (quiet : s.controller.config.composeOnPublish = false) (reports : Reports event)
    (observing : s.Observing event) : later.Observing event := by
  intro record accepted
  rw [(alike.step quiet reports).1] at accepted
  rw [alike.same.epoch]
  exact observing record accepted

/-- One process of a rack says HELLO and publishes. -/
def debut (declaration : MemberDomainDeclaration) : List Event :=
  [.hello 1 (ascii "rack-1") (ascii "boot-a") 1, .report 1 declaration]

omit [StdSort] in
theorem debut_reports (declaration : MemberDomainDeclaration) :
    ∀ event ∈ debut declaration, Reports event := by
  simp only [debut, List.forall_mem_cons, List.not_mem_nil, false_imp_iff, implies_true, and_true]
  exact ⟨.hello _ _ _, .publish _ _ _ _⟩

end SiteServer

/-- In a run of a started controller whose accepted publications observe no epoch
after the controller's, no live incarnation that observes the controller's own
epoch is fenced for it. -/
theorem current_epoch_is_never_fenced [StdSort] {config : ControllerConfig} {nonce : BootNonce}
    {c : SiteController} (io : Moment) (disk : Option (List UInt8)) (events : List SiteServer.Event)
    (created : SiteController.create config nonce = .ok c)
    (observing : Guarded SiteServer.step SiteServer.Observing (.opened c io disk) events) :
    (run SiteServer.step (.opened c io disk) events).controller.Unfenced := by
  have fresh := SiteController.start_fresh (SiteController.create_fresh created) io disk
  have sighted : (SiteServer.opened c io disk).controller.Sighted := by
    intro domain
    change ((c.start io disk).controller.authority.domainState domain).observedEpoch ≤ _
    rw [fresh.states domain]
    exact Nat.zero_le _
  exact (run_invariant (fun s : SiteServer => s.controller.Sighted)
    (fun s event sighted observing => SiteServer.sighted_step sighted event observing)
    events sighted observing).unfenced

theorem debut_is_never_fenced :
    (run SiteServer.step (.opened .sample .sample none)
      (SiteServer.debut (.sample (ascii "rack-1")))).controller.Unfenced :=
  current_epoch_is_never_fenced .sample none _ SiteController.sample_created
    (SiteServer.sample_alike.guarded SiteServer.observing_alike rfl (SiteServer.debut_reports _)
      (by decide +kernel))

/-- A declaration that observes an epoch the site has not reached. -/
def MemberDomainDeclaration.forged : MemberDomainDeclaration :=
  { MemberDomainDeclaration.sample (ascii "rack-1") with observedEpoch := ⟨9⟩ }

/-- The publication that observes epoch 9 is accepted, and the same incarnation's
next one, which observes the controller's own epoch, is fenced. -/
theorem forged_epoch_locks_out :
    SiteController.create .sample ⟨ascii "boot-1"⟩ = .ok .sample ∧
      (SiteController.sample.start .sample none).status = .ok ∧
      Guarded SiteServer.step SiteServer.Ordinary (.opened .sample .sample none)
        (SiteServer.debut .forged) ∧
      ¬ (run SiteServer.step (.opened .sample .sample none)
          (SiteServer.debut .forged)).controller.Unfenced := by
  have reports := SiteServer.debut_reports .forged
  have accepted : ((SiteServer.sample.step (.hello 1 (ascii "rack-1") (ascii "boot-a") 1)).accepts
      (.report 1 .forged)).isSome = true := by decide +kernel
  refine ⟨SiteController.sample_created, SiteServer.sample_started,
    SiteServer.sample_alike.guarded SiteServer.ordinary_alike rfl reports
      ⟨trivial, accepted, trivial⟩, ?_⟩
  intro unfenced
  have alike := SiteServer.sample_alike.run rfl reports
  let locked := (run SiteServer.step SiteServer.sample (SiteServer.debut .forged)).controller
  let next : MemberDomainDeclaration :=
    { MemberDomainDeclaration.sample (ascii "rack-1") with generation := ⟨2⟩ }
  have live : locked.authority.memberIncarnationLive next.domain ⟨1, ⟨ascii "boot-a"⟩⟩ = true := by
    decide +kernel
  have current : next.observedEpoch = locked.epoch := by decide +kernel
  have refused : (locked.publish .sample ⟨ascii "member-1"⟩ ⟨1, ⟨ascii "boot-a"⟩⟩ next
      ⟨1, 1⟩).2.status = .fencedEpoch := by decide +kernel
  obtain ⟨factors, judged⟩ := SiteController.publish_fencedEpoch_iff.mp refused
  rw [← alike.same.judge] at judged
  refine unfenced .sample ⟨ascii "member-1"⟩ ⟨1, ⟨ascii "boot-a"⟩⟩ next ⟨1, 1⟩ ?_
    (current.trans alike.same.epoch.symm) (SiteController.publish_fencedEpoch_iff.mpr ⟨_, judged⟩)
  rw [Registry.memberIncarnationLive_congr (alike.same.states _) (alike.same.tombstoned _ _)]
  exact live

end SiteFabric
