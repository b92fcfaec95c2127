import SiteFabric.Controller.Composing
import SiteFabric.Controller.Currency
import SiteFabric.Controller.Generations

/-! Retiring a domain.
A retirement is accepted from whoever is live: the generation it names is put on record
and compared with nothing. Once accepted it is not taken back, so the domain is never
composed CURRENT again by the controller that took it. -/

namespace SiteFabric

open Lib Authority

namespace SiteController

variable [StdSort] {c : SiteController} {io : Moment} {request : RetireRequest}

theorem retire_accepted_iff : (c.retire io request).2.status = .accepted ↔
    request.domain.valid = true ∧
      c.authority.memberIncarnationLive request.domain request.incarnation = true := by
  rw [retire]
  cases request.domain.valid with
  | false => simp
  | true =>
    rw [if_neg (by decide)]
    cases c.authority.memberIncarnationLive request.domain request.incarnation with
    | false => simp
    | true =>
      rw [if_neg (by decide)]
      dsimp only
      split <;> simp

/-- A refused retirement leaves the controller as it was. -/
theorem retire_unaccepted (refused : (c.retire io request).2.status ≠ .accepted) :
    (c.retire io request).1 = c := by
  rw [ne_eq, retire_accepted_iff, not_and, Bool.not_eq_true] at refused
  cases legal : request.domain.valid with
  | false => rw [retire, legal, if_pos (by decide)]
  | true => exact retire_refused (refused legal)

/-- A retirement of the domain is on record. -/
def Retired (c : SiteController) (domain : MemberDomainKey) : Prop :=
  ∃ retirement ∈ c.retirements, retirement.domain = domain

theorem retired_of_accepted (accepted : (c.retire io request).2.status = .accepted) :
    (c.retire io request).1.Retired request.domain := by
  rw [Retired, (retire_accepted accepted).retirements]
  exact ⟨c.retirementOf io request, List.mem_append_right _ List.mem_cons_self, rfl⟩

end SiteController

namespace SiteServer

variable [StdSort]

/-- What is retired stays retired. -/
theorem retired_step {s : SiteServer} {domain : MemberDomainKey}
    (retired : s.controller.Retired domain) (event : Event) :
    (s.step event).controller.Retired domain := by
  have effect := s.step_effect event
  generalize s.step event = later at effect ⊢
  have carry : ∀ {c later : SiteController}, c.Retired domain → c.Retains later →
      later.Retired domain := by
    intro c later retired same
    rw [SiteController.Retired, same.retirements]
    exact retired
  cases effect with
  | kept _ later _ _ same => exact carry retired same
  | greeted _ _ _ later _ _ _ step =>
    cases step with
    | known => exact retired
    | admitted => exact retired
  | entered _ io record later _ _ _ same => exact carry (c := s.controller.enter io record) retired same
  | withdrawn _ io request later _ _ same =>
    obtain ⟨retirement, listed, named⟩ := retired
    exact carry ⟨retirement, List.mem_append_left _ listed, named⟩ same
  | revoked _ other later _ _ same =>
    refine carry ?_ same
    rw [SiteController.Retired, (s.controller.listRevoked_keeps other).2.2.2.1]
    exact retired
  | ended _ io session later _ same => exact carry (c := dismiss s.controller io session) retired same

/-- The last publication of the request's incarnation is of no later generation. -/
def Heeds (past : List MemberPublicationRecord) (request : RetireRequest) : Prop :=
  ∀ record ∈ (past.filter fun record => record.domain = request.domain ∧
    record.incarnation = request.incarnation).getLast?, record.generation ≤ request.generation

instance (past : List MemberPublicationRecord) (request : RetireRequest) :
    Decidable (Heeds past request) :=
  inferInstanceAs (Decidable (∀ record ∈ List.getLast? _, _))

/-- No run from here composes the domain CURRENT. -/
def Rests (s : SiteServer) (domain : MemberDomainKey) : Prop :=
  ∀ (events : List Event) (nowMs : Int64) (generation : Generation) (site : ComposedSite),
    compose { (run step s events).controller.compositionInput nowMs with generation } =
      .composed site →
    ∀ member ∈ site.members, member.domain = domain → member.lifecycle ≠ .current

theorem rests_of_retired {s : SiteServer} (named : s.controller.Named) {domain : MemberDomainKey}
    (retired : s.controller.Retired domain) : s.Rests domain := by
  intro events nowMs generation site composed member listed here current
  have kept := run_stable (fun s : SiteServer => s.controller.Retired domain)
    (fun _ event retired => retired_step retired event) events retired
  have held := run_stable (fun s : SiteServer => s.controller.Named)
    (fun _ event named => named_step named event) events named
  obtain ⟨_, _, _, _, _, active⟩ := current_member held composed listed current
  obtain ⟨retirement, among, named⟩ := kept
  exact active retirement among (named.trans here.symm)

/-- A retirement is fenced as a publication is, a refused one changes nothing, and an
accepted one is for good. -/
structure FencesRetirement (s : SiteServer) (past : List MemberPublicationRecord) (io : Moment)
    (request : RetireRequest) : Prop where
  live : (s.controller.retire io request).2.status = .accepted →
    s.lives request.domain request.incarnation = true
  heeds : (s.controller.retire io request).2.status = .accepted → Heeds past request
  unchanged : (s.controller.retire io request).2.status ≠ .accepted →
    (s.controller.retire io request).1 = s.controller
  final : (s.controller.retire io request).2.status = .accepted →
    Rests { s with controller := (s.controller.retire io request).1 } request.domain

end SiteServer

/-- In every reachable controller a retirement is fenced exactly when it does not come
from a live incarnation, or names no generation below the last that one published. -/
theorem retirement_is_fenced_iff [StdSort] {config : ControllerConfig} {nonce : BootNonce}
    {c : SiteController} (start : Moment) (disk : Option (List UInt8))
    (events : List SiteServer.Event) (created : SiteController.create config nonce = .ok c)
    (io : Moment) (request : RetireRequest) :
    (run SiteServer.step (.opened c start disk) events).FencesRetirement
        ((SiteServer.opened c start disk).acceptedIn events) io request ↔
      (request.domain.valid = true →
        (run SiteServer.step (.opened c start disk) events).lives request.domain
          request.incarnation = true →
        SiteServer.Heeds ((SiteServer.opened c start disk).acceptedIn events) request) := by
  have named : (run SiteServer.step (.opened c start disk) events).controller.Named :=
    run_stable (fun s : SiteServer => s.controller.Named)
      (fun _ event named => SiteServer.named_step named event) events
      (Host.boot_sound (SiteController.create_fresh created) start disk).named
  constructor
  · intro fences legal live
    exact fences.heeds (SiteController.retire_accepted_iff.mpr ⟨legal, live⟩)
  · intro heeds
    refine ⟨fun accepted => ?_, fun accepted => ?_, fun refused => ?_, fun accepted => ?_⟩
    · exact (SiteController.retire_accepted_iff.mp accepted).2
    · obtain ⟨legal, live⟩ := SiteController.retire_accepted_iff.mp accepted
      exact heeds legal live
    · exact SiteController.retire_unaccepted refused
    · refine SiteServer.rests_of_retired ?_ (SiteController.retired_of_accepted accepted)
      intro domain record found
      rw [(SiteController.retire_accepted accepted).publications] at found
      exact named domain record found

/-- A rack process that says HELLO and reports its second generation. -/
def SiteServer.advanced : List SiteServer.Event :=
  [.hello 1 (ascii "rack-1") (ascii "boot-a") 1, .report 1 .second]

theorem SiteServer.advanced_reports : ∀ event ∈ SiteServer.advanced, Reports event := by
  simp only [advanced, List.forall_mem_cons, List.not_mem_nil, false_imp_iff, implies_true,
    and_true]
  exact ⟨.hello _ _ _, .publish _ _ _ _⟩

/-- Its request to retire a generation. -/
def RetireRequest.sample (generation : UInt64) : RetireRequest where
  domain := ⟨.rack, ascii "rack-1"⟩
  generation := ⟨generation⟩
  incarnation := ⟨1, ⟨ascii "boot-a"⟩⟩

theorem current_retirement_is_fenced :
    (run SiteServer.step (.opened .sample .sample none) SiteServer.advanced).FencesRetirement
      ((SiteServer.opened .sample .sample none).acceptedIn SiteServer.advanced) .sample
      (.sample 2) := by
  refine (retirement_is_fenced_iff .sample none SiteServer.advanced SiteController.sample_created
    .sample (.sample 2)).mpr fun _ _ => ?_
  rw [SiteServer.acceptedIn_alike SiteServer.sample_alike rfl SiteServer.advanced_reports]
  decide +kernel

/-- A request to retire the generation before the last is accepted. -/
theorem stale_retirement_is_accepted :
    SiteController.create .sample ⟨ascii "boot-1"⟩ = .ok .sample ∧
      (SiteController.sample.start .sample none).status = .ok ∧
      ¬ (run SiteServer.step (.opened .sample .sample none)
        SiteServer.advanced).FencesRetirement
          ((SiteServer.opened .sample .sample none).acceptedIn SiteServer.advanced) .sample
          (.sample 1) := by
  refine ⟨SiteController.sample_created, SiteServer.sample_started, fun fences => ?_⟩
  have alike := SiteServer.sample_alike.run rfl SiteServer.advanced_reports
  have live : (run SiteServer.step (.opened .sample .sample none) SiteServer.advanced).lives
      (RetireRequest.sample 1).domain (RetireRequest.sample 1).incarnation = true := by
    rw [alike.lives]
    decide +kernel
  have heeds := fences.heeds (SiteController.retire_accepted_iff.mpr ⟨by decide, live⟩)
  rw [SiteServer.acceptedIn_alike SiteServer.sample_alike rfl SiteServer.advanced_reports] at heeds
  have passed : ¬ SiteServer.Heeds (SiteServer.sample.acceptedIn SiteServer.advanced)
      (RetireRequest.sample 1) := by
    decide +kernel
  exact passed heeds

end SiteFabric
