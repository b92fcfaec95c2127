import SiteFabric.Controller.Server

/-! Deaths that are on disk.
The store keeps the death record of every incarnation that ended, and a start
takes none of them over. What a started controller refuses of a recorded
incarnation is what no controller admits of anybody. -/

namespace SiteFabric

open Lib Authority Store

/-- An admission that is answered OK is of a candidate with a sequence, where the
domain issues one. -/
theorem Authority.Registry.admit_issues {r : Registry} {domain : MemberDomainKey}
    {incarnation : Incarnation} {nowMs : Int64}
    (ok : (r.admitMemberIncarnation domain incarnation nowMs).2.1.isOk = true)
    (vacant : (r.domainState domain).hasLive = false → (r.domainState domain).nextSequence ≠ 0)
    (taken : (r.domainState domain).hasLive = true → (r.domainState domain).live.sequence ≠ 0) :
    (r.candidate domain incarnation).sequence ≠ 0 := by
  intro unset
  have least : ∀ n : UInt64, (0 : UInt64) < n ↔ n ≠ 0 := fun n => UInt64.pos_iff_ne_zero
  unfold admitMemberIncarnation at ok
  dsimp only at ok
  rw [unset] at ok
  split_ifs at ok with malformed dead empty behind same lower equal
  · cases ok
  · cases ok
  · cases ok
  · rw [least, not_not] at behind
    exact vacant (by simpa using empty) behind
  · exact taken (by simpa using empty) (same ▸ unset)
  · cases ok
  · cases ok
  · rw [least, not_not] at lower
    exact equal lower.symm

namespace SiteController

/-- HELLOs, answered one after the other. -/
def greetAll (c : SiteController) (hellos : List (Moment × HelloRequest)) : SiteController :=
  run (fun c hello => (SiteServer.greet c hello.1 hello.2).1) c hellos

/-- Some HELLO is answered OK that opens a session of the incarnation in the domain. -/
def Admits (c : SiteController) (domain : MemberDomainKey) (incarnation : Incarnation) : Prop :=
  ∃ io request session, (SiteServer.greet c io request).2.1 = some session ∧
    session.domain = domain ∧ session.incarnation = incarnation

/-- A domain issues sequences from one, and who is live in it has one. -/
structure Issuing (c : SiteController) (domain : MemberDomainKey) : Prop where
  vacant : (c.authority.domainState domain).hasLive = false →
    (c.authority.domainState domain).nextSequence ≠ 0
  taken : (c.authority.domainState domain).hasLive = true →
    (c.authority.domainState domain).live.sequence ≠ 0

theorem Issuing.congr {c later : SiteController} {domain : MemberDomainKey}
    (issuing : c.Issuing domain)
    (same : later.authority.domainState domain = c.authority.domainState domain) :
    later.Issuing domain := by
  refine ⟨?_, ?_⟩
  · rw [same]
    exact issuing.vacant
  · rw [same]
    exact issuing.taken

end SiteController

namespace SiteServer

theorem greet_isOk {c : SiteController} {io : Moment} {request : HelloRequest}
    {session : ConnectionSession} (opened : (greet c io request).2.1 = some session) :
    (c.authority.admitMemberIncarnation request.domain request.incarnation io.nowMs).2.1.isOk =
      true := by
  unfold greet at opened
  dsimp only at opened
  split at opened
  · cases opened
  split at opened
  · cases opened
  split at opened
  · cases opened
  next kept =>
  by_contra bad
  rw [Bool.not_eq_true] at bad
  have repeated : (c.authority.admitMemberIncarnation request.domain request.incarnation
      io.nowMs).2.1 = .alreadyExists := by simpa [bad] using kept
  rw [repeated] at bad
  cases bad

/-- A session is of a valid domain and a valid incarnation. -/
theorem greet_valid {c : SiteController} {io : Moment} {request : HelloRequest}
    {session : ConnectionSession} (issuing : c.Issuing request.domain)
    (opened : (greet c io request).2.1 = some session) :
    session.domain.valid = true ∧ session.incarnation.valid = true := by
  have issued := Registry.admit_issues (greet_isOk opened) issuing.vacant issuing.taken
  have step := greet_step c io request
  have boots : (c.authority.candidate request.domain request.incarnation).boot =
      request.incarnation.boot := by
    rw [Registry.candidate_named]
  generalize greet c io request = reply at opened step
  have valid : request.incarnation.boot.valid = true →
      (c.authority.candidate request.domain request.incarnation).valid = true := fun boot => by
    rw [Incarnation.valid, boots, boot, Bool.and_true]
    simpa using issued
  cases step with
  | refused => cases opened
  | known _ _ _ legal boot =>
    cases opened
    exact ⟨legal, valid boot⟩
  | admitted _ _ _ _ legal boot =>
    cases opened
    exact ⟨legal, valid boot⟩

theorem greet_issuing {c : SiteController} (issuing : ∀ domain, c.Issuing domain) (io : Moment)
    (request : HelloRequest) (domain : MemberDomainKey) :
    (greet c io request).1.Issuing domain := by
  have valid := fun session => @greet_valid c io request session (issuing request.domain)
  have step := greet_step c io request
  generalize greet c io request = reply at step valid
  cases step with
  | refused later _ _ same => exact (issuing domain).congr (same.states domain)
  | known _ _ _ _ _ _ states => exact (issuing domain).congr (states domain)
  | admitted authority _ nowMs _ _ _ _ _ states =>
    by_cases here : request.domain = domain
    · subst here
      have gone : authority.domainState request.domain = _ := (states _).trans (if_pos rfl)
      refine ⟨fun vacant => ?_, fun _ => ?_⟩
      · rw [show (SiteController.authority _).domainState _ = _ from gone] at vacant
        cases vacant
      · rw [show (SiteController.authority _).domainState _ = _ from gone]
        have issued := (valid _ rfl).2
        rw [Incarnation.valid, Bool.and_eq_true, bne_iff_ne] at issued
        exact issued.1
    · exact (issuing domain).congr ((states domain).trans (if_neg here))

end SiteServer

namespace SiteController

theorem Fresh.issuing {c : SiteController} (fresh : c.Fresh) (domain : MemberDomainKey) :
    c.Issuing domain := by
  refine ⟨fun _ => ?_, fun taken => ?_⟩
  · rw [fresh.states]
    decide
  · rw [fresh.states] at taken
    cases taken

/-- Who greets a controller that has admitted nobody is admitted. -/
theorem Fresh.admits {c : SiteController} (fresh : c.Fresh) {domain : MemberDomainKey}
    {incarnation : Incarnation} (legal : domain.valid = true) (valid : incarnation.valid = true) :
    c.Admits domain incarnation := by
  have sequence : incarnation.sequence ≠ 0 ∧ incarnation.boot.valid = true := by
    rwa [Incarnation.valid, Bool.and_eq_true, bne_iff_ne] at valid
  have chosen : c.authority.candidate domain incarnation = incarnation := if_neg sequence.1
  have alive : ∀ domains,
      ({ c.authority with domains } : Registry).tombstoned domain incarnation = false := by
    intro domains
    rw [Registry.tombstoned]
    dsimp only
    rw [fresh.tombstones]
    rw [lookup_empty]
    rfl
  have least : ¬ incarnation.sequence < 1 := by
    have positive := UInt64.pos_iff_ne_zero.mpr sequence.1
    rw [UInt64.lt_iff_toNat_lt] at positive ⊢
    exact not_lt.mpr positive
  have admitted : (c.authority.admitMemberIncarnation domain incarnation 1).2 =
      (.ok, some incarnation.sequence) := by
    unfold Registry.admitMemberIncarnation
    dsimp only
    rw [if_neg (by simp [legal, sequence.2]), chosen, fresh.states, alive, if_neg (by decide),
      if_pos (by decide), if_neg least]
  refine ⟨{ nowMs := 1 }, { domain, site := c.config.site, incarnation },
    ⟨domain, incarnation, {}⟩, ?_, rfl, rfl⟩
  have earlier : ¬ ({} : Epoch) > c.epoch := not_lt.mpr (Epoch.unset_le c.epoch)
  unfold SiteServer.greet
  dsimp only
  rw [if_neg (not_not.mpr rfl), if_neg earlier, admitted]
  rfl

theorem greetAll_issuing {c : SiteController} (issuing : ∀ domain, c.Issuing domain)
    (hellos : List (Moment × HelloRequest)) (domain : MemberDomainKey) :
    (c.greetAll hellos).Issuing domain :=
  run_stable (fun c : SiteController => ∀ domain, c.Issuing domain)
    (fun _ hello issuing => SiteServer.greet_issuing issuing hello.1 hello.2) hellos issuing domain

end SiteController

/-- The sample controller, with a store. -/
def ControllerConfig.stored : ControllerConfig :=
  { sample with persistent := true, store := sampleConfig }

def SiteController.stored : SiteController := .construct .stored ⟨ascii "boot-1"⟩

theorem SiteController.stored_created :
    SiteController.create .stored ⟨ascii "boot-1"⟩ = .ok .stored :=
  SiteController.create_construct _ (by decide +kernel) (by decide) (by decide) (by decide) (by decide +kernel)
    (by decide +kernel)

/-- After a restart an incarnation whose death the file records is refused, whatever
HELLOs come before, exactly when it could not have been admitted alive. -/
theorem recorded_death_is_refused_iff [StdSort] {config : ControllerConfig} {nonce : BootNonce}
    {c : SiteController} (io : Moment) (image : List UInt8) (domain : MemberDomainKey)
    (incarnation : Incarnation) (created : SiteController.create config nonce = .ok c)
    (_ : (c.start io (some image)).status = .ok)
    (_ : tombstoneText domain incarnation ∈ (scanImage image).1.tombstones) :
    (∀ hellos, ¬ ((c.start io (some image)).controller.greetAll hellos).Admits domain incarnation) ↔
      ¬ (domain.valid = true ∧ incarnation.valid = true) := by
  have fresh := SiteController.start_fresh (SiteController.create_fresh created) io (some image)
  constructor
  · rintro refused ⟨legal, valid⟩
    exact refused [] (fresh.admits legal valid)
  · rintro invalid hellos ⟨io, request, session, opened, rfl, rfl⟩
    exact invalid (SiteServer.greet_valid
      (SiteController.greetAll_issuing fresh.issuing hellos request.domain) opened)

/-- A store that keeps one death record. -/
def graveyard (domain : MemberDomainKey) (incarnation : Incarnation) : List UInt8 :=
  makeFileHeader ++ (Content.tombstone (tombstoneText domain incarnation)).record

theorem unissued_death_is_refused :
    (SiteController.stored.start .sample (some (graveyard ⟨.rack, ascii "rack-1"⟩
        ⟨0, ⟨ascii "boot-a"⟩⟩))).status = .ok ∧
      ∀ hellos, ¬ ((SiteController.stored.start .sample (some (graveyard ⟨.rack, ascii "rack-1"⟩
        ⟨0, ⟨ascii "boot-a"⟩⟩))).controller.greetAll hellos).Admits ⟨.rack, ascii "rack-1"⟩
          ⟨0, ⟨ascii "boot-a"⟩⟩ := by
  have read : (SiteController.stored.start .sample (some (graveyard ⟨.rack, ascii "rack-1"⟩
        ⟨0, ⟨ascii "boot-a"⟩⟩))).status = .ok ∧
      tombstoneText ⟨.rack, ascii "rack-1"⟩ ⟨0, ⟨ascii "boot-a"⟩⟩ ∈
        (scanImage (graveyard ⟨.rack, ascii "rack-1"⟩ ⟨0, ⟨ascii "boot-a"⟩⟩)).1.tombstones := by
    decide +kernel
  obtain ⟨started, buried⟩ := read
  exact ⟨started, (recorded_death_is_refused_iff .sample _ _ _ SiteController.stored_created
    started buried).mpr (by decide +kernel)⟩

/-- A process whose death is on disk restarts after the controller did, and is
admitted again. -/
theorem recorded_death_is_forgotten :
    let image := graveyard ⟨.rack, ascii "rack-1"⟩ ⟨1, ⟨ascii "boot-a"⟩⟩
    (SiteController.stored.start .sample (some image)).status = .ok ∧
      tombstoneText ⟨.rack, ascii "rack-1"⟩ ⟨1, ⟨ascii "boot-a"⟩⟩ ∈ (scanImage image).1.tombstones ∧
      (SiteController.stored.start .sample (some image)).controller.Admits
        ⟨.rack, ascii "rack-1"⟩ ⟨1, ⟨ascii "boot-a"⟩⟩ := by
  have fresh := SiteController.start_fresh
    (SiteController.create_fresh SiteController.stored_created) .sample
    (some (graveyard ⟨.rack, ascii "rack-1"⟩ ⟨1, ⟨ascii "boot-a"⟩⟩))
  have read : (SiteController.stored.start .sample (some (graveyard ⟨.rack, ascii "rack-1"⟩
        ⟨1, ⟨ascii "boot-a"⟩⟩))).status = .ok ∧
      tombstoneText ⟨.rack, ascii "rack-1"⟩ ⟨1, ⟨ascii "boot-a"⟩⟩ ∈
        (scanImage (graveyard ⟨.rack, ascii "rack-1"⟩ ⟨1, ⟨ascii "boot-a"⟩⟩)).1.tombstones := by
    decide +kernel
  exact ⟨read.1, read.2, fresh.admits (by decide +kernel) (by decide +kernel)⟩

end SiteFabric
