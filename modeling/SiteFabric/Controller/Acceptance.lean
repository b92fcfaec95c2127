import SiteFabric.Controller.Restart

/-! The numbers given to what is accepted.
One counter numbers publications and retirements. A controller that starts sets it to
the highest number among the publications its store returns; retirements are not looked
at, nor is what compaction dropped. -/

namespace SiteFabric

open Lib Authority Store
open Std (ExtTreeMap)

namespace SiteController

variable [StdSort]

/-- An accepted retirement is answered with the number on its record. -/
theorem retire_numbered {c : SiteController} {io : Moment} {request : RetireRequest}
    {record : MemberRetirementRecord} (judged : c.judgeRetirement io request = some record) :
    (c.retire io request).2.status = .accepted ∧
      (c.retire io request).2.acceptanceSequence = record.acceptanceSequence := by
  unfold judgeRetirement at judged
  split at judged
  · cases judged
  next valid =>
  split at judged
  · cases judged
  next live =>
  cases judged
  rw [retire, if_neg valid, if_neg live]
  dsimp only
  split
  · exact ⟨rfl, rfl⟩
  · exact ⟨rfl, rfl⟩

/-- What came later counts one number further, or as far, as a number was given out. -/
structure Numbers (c later : SiteController) (issued : Option UInt64) : Prop where
  counter : later.acceptanceSequence = issued.getD c.acceptanceSequence
  next : ∀ n, issued = some n → n = c.acceptanceSequence + 1

omit [StdSort] in
theorem Retains.numbers {c later : SiteController} (same : c.Retains later) : c.Numbers later none :=
  ⟨same.acceptanceSequence, fun _ none => by cases none⟩

theorem publish_numbers (c : SiteController) (io : Moment) (publisher : MemberId)
    (incarnation : Incarnation) (declaration : MemberDomainDeclaration) (attempt : PublishAttempt) :
    c.Numbers (c.publish io publisher incarnation declaration attempt).1
      ((c.judge io publisher incarnation declaration attempt).toOption.map
        (·.acceptanceSequence)) := by
  cases judged : c.judge io publisher incarnation declaration attempt with
  | error against =>
    rw [publish_refused judged]
    exact (Retains.refl c).numbers
  | ok record =>
    refine ⟨(publish_entered judged).acceptanceSequence, ?_⟩
    rintro n ⟨⟩
    exact (judge_ok judged).2.2.2.1

theorem retire_numbers (c : SiteController) (io : Moment) (request : RetireRequest) :
    c.Numbers (c.retire io request).1
      ((c.judgeRetirement io request).map (·.acceptanceSequence)) := by
  rcases @judgeRetirement_retained _ c io request with ⟨refused, same⟩ | ⟨judged, entered⟩
  · rw [refused, same]
    exact (Retains.refl c).numbers
  · rw [judged]
    exact ⟨entered.acceptanceSequence, by rintro n ⟨⟩; rfl⟩

end SiteController

namespace SiteServer

open SiteController

variable [StdSort]

omit [StdSort] in
/-- The retirement an event gets accepted, if any. -/
def retires (s : SiteServer) (event : Event) : Option MemberRetirementRecord :=
  if s.controller.crashed then none
  else match event with
    | .frame connection io (.retire request) =>
      if (s.sessions[connection]?).any (·.domain == request.domain) then
        s.controller.judgeRetirement io request
      else none
    | .retired io request => s.controller.judgeRetirement io request
    | _ => none

/-- The number an event gives out, if any. -/
def issues (s : SiteServer) (event : Event) : Option UInt64 :=
  ((s.accepts event).map (·.acceptanceSequence)).or
    ((s.retires event).map (·.acceptanceSequence))

theorem step_numbers (s : SiteServer) (event : Event) :
    s.controller.Numbers (s.step event).controller (s.issues event) := by
  by_cases crashed : s.controller.crashed = true
  · have silent : s.issues event = none := by
      have accepted : s.accepts event = none := if_pos crashed
      have retired : s.retires event = none := if_pos crashed
      rw [issues, accepted, retired]
      rfl
    rw [silent, show s.step event = s from if_pos crashed]
    exact (Retains.refl _).numbers
  unfold issues accepts retires step
  rw [if_neg crashed, if_neg crashed, if_neg crashed]
  cases event with
  | frame connection io message =>
    cases message with
    | hello request =>
      have greeted := greet_step s.controller io request
      dsimp only [respond, respondHello]
      generalize greet s.controller io request = reply at greeted
      obtain ⟨later, session, response⟩ := reply
      cases greeted with
      | refused _ _ _ same => exact same.numbers
      | known => exact ⟨rfl, fun _ none => by cases none⟩
      | admitted => exact ⟨rfl, fun _ none => by cases none⟩
    | publish declaration attempt =>
      dsimp only [respond, respondPublish]
      cases s.sessions[connection]? with
      | none => exact (Retains.refl _).numbers
      | some session =>
        have numbers := s.controller.publish_numbers io session.publisher session.incarnation
          declaration attempt
        rw [Option.bind_some, Option.map_none, Option.or_none]
        exact numbers
    | retire request =>
      dsimp only [respond, respondRetire]
      split
      · exact s.controller.retire_numbers io request
      · exact (Retains.refl _).numbers
  | closed connection io =>
    dsimp only [closeConnection]
    cases s.sessions[connection]? with
    | none => exact (Retains.refl _).numbers
    | some session =>
      have dismissed := endSession_dismissed s.controller io session
      exact ⟨dismissed.acceptanceSequence, fun _ none => by cases none⟩
  | published io publisher incarnation declaration attempt =>
    have numbers := s.controller.publish_numbers io publisher incarnation declaration attempt
    rw [Option.map_none, Option.or_none]
    exact numbers
  | retired io request => exact s.controller.retire_numbers io request
  | revoked io domain =>
    change s.controller.Numbers (s.controller.revokeMember io domain).1 none
    rcases s.controller.revokeMember_entered io domain with same | entered
    · rw [same]
      exact (Retains.refl _).numbers
    · refine ⟨entered.acceptanceSequence.trans ?_, fun _ none => by cases none⟩
      unfold SiteController.listRevoked
      split <;> rfl
  | recomposed io => exact (SiteController.recompose_retains _ io).numbers

end SiteServer

namespace SiteController

variable [StdSort]

/-- The publications a start takes over from the file it finds. -/
def returned (c : SiteController) (io : Moment) (disk : Option (List UInt8)) :
    List MemberPublicationRecord :=
  let loaded := (SiteStore.openStore c.storeConfig io.opening disk).2.load
  if recovers loaded.recovery.status then loaded.publications else []

/-- A controller that has started counts on from above every publication it took over. -/
theorem returned_le_counter {c : SiteController} (persistent : c.config.persistent = true)
    {io : Moment} {disk : Option (List UInt8)} (started : (c.start io disk).status = .ok)
    {record : MemberPublicationRecord} (listed : record ∈ c.returned io disk) :
    record.acceptanceSequence ≤ (c.start io disk).controller.acceptanceSequence := by
  rcases start_ok started with ⟨volatile, -⟩ | ⟨-, store, recovered, opened, read, office, same⟩
  · rw [persistent] at volatile
    cases volatile
  obtain ⟨running, retains⟩ := recovered.takeOffice_retains io
  rw [same, retains.acceptanceSequence]
  change _ ≤ recovered.acceptanceSequence
  unfold returned at listed
  rw [opened] at listed
  dsimp only at listed
  split at listed
  · next recovers =>
    unfold SiteController.read recover at read
    dsimp only at read
    rw [if_pos recovers] at read
    split at read
    · next refused =>
      rw [read] at refused
      cases refused
    · cases read
      exact acceptance_le_highest listed
  · cases listed

end SiteController

/-- The controllers of a site, one after another over one store file, and the numbers
they have given out. -/
structure Deployment where
  server : Option SiteServer := none
  disk : Option (List UInt8) := none
  issued : List UInt64 := []

namespace Deployment

/-- What happens to a site: an event at its controller, or the controller ends and
another is created and started. -/
inductive Turn where
  | event (event : SiteServer.Event)
  | restart (config : ControllerConfig) (nonce : BootNonce) (stopping io : Moment)

/-- The file a controller that ends leaves behind. -/
def left (d : Deployment) (stopping : Moment) : Option (List UInt8) :=
  match d.server with
  | none => d.disk
  | some s => (s.controller.stop stopping).store.bind SiteStore.file

variable [StdSort]

def step (d : Deployment) : Turn → Deployment
  | .event event =>
    match d.server with
    | none => d
    | some s =>
      { d with server := some (s.step event), issued := d.issued ++ (s.issues event).toList }
  | .restart config nonce stopping io =>
    match SiteController.create config nonce with
    | .error _ => { d with server := none, disk := d.left stopping }
    | .ok c =>
      let started := c.start io (d.left stopping)
      { d with
        server := if started.status = .ok then some { controller := started.controller } else none
        disk := started.disk }

/-- A number is given out only while there is a next one, and every start is over a
store that returns a publication numbered no lower than the last number given out. -/
def Fit (d : Deployment) : Turn → Prop
  | .event event => ∀ s, d.server = some s → s.issues event ≠ none →
      s.controller.acceptanceSequence.toNat + 1 < 2 ^ 64
  | .restart config nonce stopping io => config.persistent = true ∧
      ∀ c last, SiteController.create config nonce = .ok c → d.issued.getLast? = some last →
        ∃ record ∈ c.returned io (d.left stopping), last ≤ record.acceptanceSequence

/-- The numbers given out increase, and the counter stands at the last one or above. -/
structure Ascending (d : Deployment) : Prop where
  issued : d.issued.Pairwise (· < ·)
  counter : ∀ s, d.server = some s → ∀ n ∈ d.issued, n ≤ s.controller.acceptanceSequence

omit [StdSort] in
theorem le_last {issued : List UInt64} (ascending : issued.Pairwise (· < ·)) {n : UInt64}
    (listed : n ∈ issued) : ∃ last, issued.getLast? = some last ∧ n ≤ last := by
  obtain ⟨last, found⟩ := Option.isSome_iff_exists.mp
    (List.getLast?_isSome.mpr (List.ne_nil_of_mem listed))
  refine ⟨last, found, ?_⟩
  obtain ⟨before, rfl⟩ := List.getLast?_eq_some_iff.mp found
  rcases List.mem_append.mp listed with early | same
  · exact UInt64.le_of_lt ((List.pairwise_append.mp ascending).2.2 n early last
      (List.mem_singleton_self last))
  · rw [List.mem_singleton.mp same]
    exact UInt64.le_refl last

theorem Ascending.step {d : Deployment} (ascending : d.Ascending) {turn : Turn}
    (fit : d.Fit turn) : (d.step turn).Ascending := by
  cases turn with
  | event event =>
    unfold Deployment.step
    cases here : d.server with
    | none => exact ascending
    | some s =>
      have numbers := s.step_numbers event
      dsimp only
      cases given : s.issues event with
      | none =>
        rw [given] at numbers
        rw [Option.toList_none, List.append_nil]
        refine ⟨ascending.issued, ?_⟩
        rintro _ ⟨⟩ n listed
        rw [numbers.counter]
        exact ascending.counter s here n listed
      | some number =>
        rw [given] at numbers
        have room := fit s here (by rw [given]; exact Option.some_ne_none _)
        have next : number.toNat = s.controller.acceptanceSequence.toNat + 1 := by
          rw [numbers.next number rfl, UInt64.toNat_add]
          exact Nat.mod_eq_of_lt room
        have above : ∀ n ∈ d.issued, n < number := by
          intro n listed
          have below := UInt64.le_iff_toNat_le.mp (ascending.counter s here n listed)
          exact UInt64.lt_iff_toNat_lt.mpr (by omega)
        refine ⟨?_, ?_⟩
        · refine List.pairwise_append.mpr ⟨ascending.issued, List.pairwise_singleton _ _, ?_⟩
          intro n listed other same
          rw [Option.toList_some, List.mem_singleton] at same
          rw [same]
          exact above n listed
        · rintro _ ⟨⟩ n listed
          rw [numbers.counter, Option.getD_some]
          rcases List.mem_append.mp listed with early | same
          · exact UInt64.le_of_lt (above n early)
          · rw [Option.toList_some, List.mem_singleton] at same
            rw [same]
            exact UInt64.le_refl number
  | restart config nonce stopping io =>
    obtain ⟨persistent, returns⟩ := fit
    cases created : SiteController.create config nonce with
    | error _ =>
      simp only [Deployment.step, created]
      exact ⟨ascending.issued, fun _ nobody => by cases nobody⟩
    | ok c =>
      simp only [Deployment.step, created]
      refine ⟨ascending.issued, fun s there n listed => ?_⟩
      dsimp only at there listed
      split at there
      · next started =>
        cases there
        obtain ⟨last, found, below⟩ := le_last ascending.issued listed
        obtain ⟨record, held, numbered⟩ := returns c last created found
        have kept : c.config.persistent = true := by
          obtain ⟨expectation, rfl⟩ := SiteController.create_ok created
          exact persistent
        exact UInt64.le_trans (UInt64.le_trans below numbered)
          (SiteController.returned_le_counter kept started held)
      · cases there

/-- The numbers given out in a run of a server. -/
def issuedIn : SiteServer → List SiteServer.Event → List UInt64
  | _, [] => []
  | s, event :: rest => (s.issues event).toList ++ issuedIn (s.step event) rest

theorem run_events {d : Deployment} {s : SiteServer} (there : d.server = some s)
    (events : List SiteServer.Event) :
    run step d (events.map .event) =
      { d with server := some (run SiteServer.step s events), issued := d.issued ++ issuedIn s events } := by
  induction events generalizing d s with
  | nil =>
    obtain ⟨server, disk, issued⟩ := d
    cases there
    simp [issuedIn]
  | cons event rest ih =>
    have next : d.step (.event event) =
        { d with server := some (s.step event), issued := d.issued ++ (s.issues event).toList } := by
      simp only [step, there]
    rw [List.map_cons, run_cons, next, ih rfl, run_cons, issuedIn, List.append_assoc]

omit [StdSort] in
theorem left_of_nobody {d : Deployment} (nobody : d.server = none) (stopping : Moment) :
    d.left stopping = d.disk := by
  rw [left, nobody]

omit [StdSort] in
theorem left_of_server {d : Deployment} {s : SiteServer} (there : d.server = some s)
    (stopping : Moment) : d.left stopping = (s.controller.stop stopping).store.bind SiteStore.file := by
  rw [left, there]

theorem step_restart {d : Deployment} {config : ControllerConfig} {nonce : BootNonce}
    {c : SiteController} (created : SiteController.create config nonce = .ok c)
    {stopping io : Moment} {disk : Option (List UInt8)} (found : d.left stopping = disk)
    (started : (c.start io disk).status = .ok) :
    d.step (.restart config nonce stopping io) =
      ⟨some (.opened c io disk), (c.start io disk).disk, d.issued⟩ := by
  subst found
  simp only [step, created, if_pos started]
  rfl

/-- A run of events is fit as long as the counter cannot run out in it. -/
theorem guarded_events {d : Deployment} {s : SiteServer} (there : d.server = some s)
    {events : List SiteServer.Event}
    (room : s.controller.acceptanceSequence.toNat + events.length < 2 ^ 64) :
    Guarded step Fit d (events.map .event) := by
  induction events generalizing d s with
  | nil => trivial
  | cons event rest ih =>
    rw [List.length_cons] at room
    have numbers := s.step_numbers event
    have next : (s.step event).controller.acceptanceSequence.toNat ≤
        s.controller.acceptanceSequence.toNat + 1 := by
      rw [numbers.counter]
      cases given : s.issues event with
      | none => exact Nat.le_succ _
      | some number =>
        rw [Option.getD_some, numbers.next number given, UInt64.toNat_add]
        exact Nat.mod_le _ _
    refine ⟨fun other same _ => ?_, ih (d := d.step (.event event)) (s := s.step event) ?_ ?_⟩
    · rw [there] at same
      cases same
      omega
    · simp only [step, there]
    · omega

end Deployment

/-- Acceptance numbers increase over every run of a site's controllers in which each start
is over a store that returns a publication numbered no lower than the last number
given out, and the counter does not run out. -/
theorem acceptance_numbers_increase [StdSort] (disk : Option (List UInt8))
    (turns : List Deployment.Turn)
    (fit : Guarded Deployment.step Deployment.Fit { disk } turns) :
    (run Deployment.step { disk } turns).issued.Pairwise (· < ·) :=
  (run_invariant Deployment.Ascending (fun _ _ ascending fits => ascending.step fits) turns
    ⟨List.Pairwise.nil, fun _ nobody => by cases nobody⟩ fit).issued

/-- One term of a site: a controller is created and started, and then sees some events. -/
def term (events : List SiteServer.Event) : List Deployment.Turn :=
  .restart .brief ⟨ascii "boot-1"⟩ .unset .unset :: events.map .event

/-- A controller that has seen some events on an empty store. -/
def firstTerm (events : List SiteServer.Event) : SiteServer :=
  run SiteServer.step (.opened .brief .unset none) events

/-- The file it leaves behind. -/
def betweenTerms (events : List SiteServer.Event) : Option (List UInt8) :=
  ((firstTerm events).controller.stop .unset).store.bind SiteStore.file

/-- The controller after it. -/
def secondTerm (events : List SiteServer.Event) : SiteServer :=
  .opened .brief .unset (betweenTerms events)

theorem brief_started : (SiteController.brief.start .unset none).status = .ok := by decide +kernel

theorem first_restart :
    ({} : Deployment).step (.restart .brief ⟨ascii "boot-1"⟩ .unset .unset) =
      ⟨some (.opened .brief .unset none), (SiteController.brief.start .unset none).disk, []⟩ :=
  Deployment.step_restart SiteController.brief_created (Deployment.left_of_nobody rfl _) brief_started

theorem after_first_term (events : List SiteServer.Event) :
    run Deployment.step {} (term events) =
      ⟨some (firstTerm events), (SiteController.brief.start .unset none).disk,
        Deployment.issuedIn (.opened .brief .unset none) events⟩ := by
  rw [term, run_cons, first_restart, Deployment.run_events rfl, List.nil_append, firstTerm]

theorem second_restart {d : Deployment} {events : List SiteServer.Event}
    (there : d.server = some (firstTerm events))
    (restarted : (SiteController.brief.start .unset (betweenTerms events)).status = .ok) :
    d.step (.restart .brief ⟨ascii "boot-1"⟩ .unset .unset) =
      ⟨some (secondTerm events), (SiteController.brief.start .unset (betweenTerms events)).disk,
        d.issued⟩ :=
  Deployment.step_restart SiteController.brief_created (Deployment.left_of_server there _) restarted

theorem two_terms_issued {first second : List SiteServer.Event}
    (restarted : (SiteController.brief.start .unset (betweenTerms first)).status = .ok) :
    (run Deployment.step {} (term first ++ term second)).issued =
      Deployment.issuedIn (.opened .brief .unset none) first ++
        Deployment.issuedIn (secondTerm first) second := by
  rw [run_append, after_first_term, term, run_cons, second_restart rfl restarted,
    Deployment.run_events rfl]

/-- A rack publishes in the first term. -/
def reportOnce : List SiteServer.Event :=
  [.hello 1 (ascii "rack-1") (ascii "boot-a") 1, .report 1 (.sample (ascii "rack-1"))]

/-- It publishes, and retires. -/
def reportAndRetire : List SiteServer.Event :=
  reportOnce ++ [.frame 1 .unset (.retire { domain := ⟨.rack, ascii "rack-1"⟩, generation := ⟨1⟩
                                            incarnation := ⟨1, ⟨ascii "boot-a"⟩⟩ })]

/-- And publishes a second generation in the second term. -/
def reportAgain : List SiteServer.Event :=
  [.hello 1 (ascii "rack-1") (ascii "boot-b") 2, .report 1 .second]

/-- What a publication leaves for the second term, which has room for more numbers. -/
theorem report_terms :
    Deployment.issuedIn (.opened .brief .unset none) reportOnce = [1] ∧
    (SiteController.brief.start .unset (betweenTerms reportOnce)).status = .ok ∧
    (∃ record ∈ SiteController.brief.returned .unset (betweenTerms reportOnce),
      (1 : UInt64) ≤ record.acceptanceSequence) ∧
    (secondTerm reportOnce).controller.acceptanceSequence.toNat + reportAgain.length < 2 ^ 64 := by
  decide +kernel

/-- What a retirement leaves for it, and the number it then starts with. -/
theorem retirement_terms :
    Deployment.issuedIn (.opened .brief .unset none) reportAndRetire = [1, 2] ∧
    (∀ entry ∈ (firstTerm reportAndRetire).controller.journal, entry.2 = .ok) ∧
    (SiteController.brief.start .unset (betweenTerms reportAndRetire)).status = .ok ∧
    Deployment.issuedIn (secondTerm reportAndRetire) reportAgain = [2] := by
  decide +kernel

theorem two_terms_number_on :
    (run Deployment.step {} (term reportOnce ++ term reportAgain)).issued.Pairwise (· < ·) := by
  obtain ⟨issued, restarted, returned, room⟩ := report_terms
  have first : Guarded Deployment.step Deployment.Fit {} (term reportOnce) := by
    refine ⟨⟨rfl, fun _ _ _ nobody => by cases nobody⟩, ?_⟩
    rw [first_restart]
    exact Deployment.guarded_events rfl (by decide +kernel)
  have second : Guarded Deployment.step Deployment.Fit
      (run Deployment.step {} (term reportOnce)) (term reportAgain) := by
    rw [after_first_term, issued]
    refine ⟨⟨rfl, fun c last created listed => ?_⟩, ?_⟩
    · rw [SiteController.brief_created] at created
      cases created
      cases listed
      rw [Deployment.left_of_server rfl]
      exact returned
    · rw [second_restart rfl restarted]
      exact Deployment.guarded_events rfl room
  exact acceptance_numbers_increase none (term reportOnce ++ term reportAgain) (first.append second)

/-- A rack retires before the restart, and the number of its retirement is given out
again; every append of the first term was OK. -/
theorem retirement_number_is_reissued :
    (run Deployment.step {} (term reportAndRetire ++ term reportAgain)).issued = [1, 2, 2] ∧
      (∀ entry ∈ (firstTerm reportAndRetire).controller.journal, entry.2 = .ok) ∧
      ¬ (run Deployment.step {} (term reportAndRetire ++ term reportAgain)).issued.Pairwise
        (· < ·) := by
  obtain ⟨first, kept, restarted, second⟩ := retirement_terms
  have issued : (run Deployment.step {} (term reportAndRetire ++ term reportAgain)).issued =
      [1, 2, 2] := by
    rw [two_terms_issued restarted, first, second]
    rfl
  rw [issued]
  exact ⟨rfl, kept, by decide⟩

end SiteFabric
