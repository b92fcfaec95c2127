import SiteFabric.Controller.Generations
import SiteFabric.Controller.Compacting

/-! A controller that stops, and the one that starts over its store.
What an event writes is a list of appends; an accepted publication is the only one
among them that is a publication. A running controller holds the last record it
accepted, a starting one the first of the highest generation on file. -/

namespace SiteFabric

open Lib Lib.Reader Authority Store
open Std (ExtTreeMap)

namespace SiteController

/-- The store, and what has been asked of it. -/
abbrev Ledger := Option SiteStore × List (Content × Status)

def ledger (c : SiteController) : Ledger := (c.store, c.journal)

/-- An append to the store, when there is one. -/
def Ledger.write (l : Ledger) (call : Answers × Content) : Ledger :=
  match l.1 with
  | none => l
  | some store =>
    let appended := store.append call.1 call.2
    (some appended.2, l.2 ++ [(call.2, appended.1)])

theorem persist_ledger (c : SiteController) (io : Answers) (content : Content) :
    (c.persist io content).2.ledger = c.ledger.write (io, content) := by
  unfold persist ledger Ledger.write
  cases held : c.store with
  | none => exact congrArg (·, c.journal) held
  | some store => rfl

/-- What has been asked of the store only grows. -/
theorem Ledger.write_prefix (l : Ledger) (call : Answers × Content) : l.2 <+: (l.write call).2 := by
  unfold Ledger.write
  split
  · exact List.prefix_rfl
  · exact List.prefix_append _ _

theorem Ledger.run_prefix (l : Ledger) (calls : List (Answers × Content)) :
    l.2 <+: (run Ledger.write l calls).2 :=
  run_climbs (fun a b : Ledger => a.2 <+: b.2) (fun _ => List.prefix_rfl)
    (fun _ _ _ => List.IsPrefix.trans)
    (fun (l : Ledger) call (_ : True) => ⟨l.write_prefix call, trivial⟩) trivial calls

/-- The publications among what has been asked of the store. -/
def Ledger.reports (l : Ledger) : List MemberPublicationRecord :=
  (l.2.map Prod.fst).filterMap Content.publication?

/-- A store that stands at the end of its file: the base, and a record of everything
asked of it. -/
structure Ledger.Holds (base : List UInt8) (limit : Nat) (l : Ledger) : Prop where
  store : ∃ store, l.1 = some store ∧ store.config.maxBytes = limit ∧
    store.Open (base ++ (l.2.map Prod.fst).flatMap Content.record)
  fits : ∀ entry ∈ l.2, entry.1.payload.length ≤ Limits.maxRecordPayloadBytes
  within : (base ++ (l.2.map Prod.fst).flatMap Content.record).length ≤ limit

theorem Ledger.Holds.write {base : List UInt8} {limit : Nat} {l : Ledger} (holds : l.Holds base limit)
    (call : Answers × Content) (ok : ∀ entry ∈ (l.write call).2, entry.2 = .ok) :
    (l.write call).Holds base limit := by
  obtain ⟨store, there, config, open_⟩ := holds.store
  have written : l.write call =
      (some (store.append call.1 call.2).2, l.2 ++ [(call.2, (store.append call.1 call.2).1)]) := by
    unfold Ledger.write
    rw [there]
  rw [written] at ok ⊢
  obtain ⟨next, same, fits, room⟩ := open_.append
    (ok _ (List.mem_append_right _ (List.mem_singleton_self _)))
  have grown : base ++ ((l.2 ++ [(call.2, (store.append call.1 call.2).1)]).map Prod.fst).flatMap
      Content.record = base ++ (l.2.map Prod.fst).flatMap Content.record ++ call.2.record := by
    rw [List.map_append, List.flatMap_append, ← List.append_assoc]
    simp
  refine ⟨⟨_, rfl, (congrArg _ same).trans config, ?_⟩, fun entry member => ?_, ?_⟩
  · dsimp only
    rw [grown]
    exact next
  · rcases List.mem_append.mp member with early | late
    · exact holds.fits entry early
    · rw [List.mem_singleton.mp late]
      exact fits
  · dsimp only
    rw [grown, ← config]
    exact room

theorem Ledger.Holds.run {base : List UInt8} {limit : Nat} {l : Ledger} (holds : l.Holds base limit)
    (calls : List (Answers × Content)) (ok : ∀ entry ∈ (run Ledger.write l calls).2, entry.2 = .ok) :
    (Lib.run Ledger.write l calls).Holds base limit := by
  induction calls generalizing l with
  | nil => exact holds
  | cons call rest ih =>
    refine ih (holds.write call fun entry member => ok entry ?_) ok
    exact (Ledger.run_prefix (l.write call) rest).subset member

theorem Ledger.reports_run {l : Ledger} {calls : List (Answers × Content)}
    (quiet : ∀ call ∈ calls, call.2.publication? = none) :
    (run Ledger.write l calls).reports = l.reports := by
  induction calls generalizing l with
  | nil => rfl
  | cons call rest ih =>
    obtain ⟨first, others⟩ := List.forall_mem_cons.mp quiet
    rw [run_cons, ih others]
    unfold Ledger.write Ledger.reports
    split
    · rfl
    · simp [first]

theorem Ledger.Holds.reports_write {base : List UInt8} {limit : Nat} {l : Ledger}
    (holds : l.Holds base limit) (io : Answers) (record : MemberPublicationRecord) :
    (l.write (io, .publication record)).reports = l.reports ++ [record] := by
  obtain ⟨store, there, -⟩ := holds.store
  unfold Ledger.write Ledger.reports
  rw [there]
  simp [Content.publication?]

/-- What came later wrote no publication. -/
def Silent (c later : SiteController) : Prop :=
  ∃ calls : List (Answers × Content), (∀ call ∈ calls, call.2.publication? = none) ∧
    later.ledger = run Ledger.write c.ledger calls

theorem Silent.of_eq {c later : SiteController} (same : later.ledger = c.ledger) : c.Silent later :=
  ⟨[], fun _ member => absurd member List.not_mem_nil, same⟩

theorem Silent.trans {c middle later : SiteController} (first : c.Silent middle)
    (second : middle.Silent later) : c.Silent later := by
  obtain ⟨calls, quiet, written⟩ := first
  obtain ⟨more, hushed, rewritten⟩ := second
  refine ⟨calls ++ more, fun call member => ?_, ?_⟩
  · rcases List.mem_append.mp member with early | late
    · exact quiet call early
    · exact hushed call late
  · rw [rewritten, written, run_append]

theorem persist_silent (c : SiteController) (io : Answers) {content : Content}
    (other : content.publication? = none) : c.Silent (c.persist io content).2 := by
  refine ⟨[(io, content)], fun call member => ?_, persist_ledger c io content⟩
  rw [List.mem_singleton.mp member]
  exact other

theorem publishSnapshot_silent (c : SiteController) (io : Moment) (generation : Generation)
    (snapshot : SiteSnapshot) : c.Silent (c.publishSnapshot io generation snapshot).1 := by
  unfold publishSnapshot
  dsimp only
  split
  · exact .of_eq rfl
  · exact .trans (.of_eq rfl) (persist_silent _ io.snapshot rfl)

theorem publishSite_silent (c : SiteController) (io : Moment) (generation : Generation)
    (site : ComposedSite) : c.Silent (c.publishSite io generation site).1 := by
  unfold publishSite
  dsimp only
  split
  · exact .of_eq rfl
  split
  · exact .of_eq rfl
  · exact .trans (.of_eq rfl) (publishSnapshot_silent _ io generation _)

variable [StdSort]

theorem recompose_silent (c : SiteController) (io : Moment) : c.Silent (c.recompose io).1 := by
  unfold recompose
  split
  · exact .of_eq rfl
  · exact .of_eq rfl
  · exact publishSite_silent c io _ _

theorem takeOffice_silent (c : SiteController) (io : Moment) : c.Silent (c.takeOffice io).2 := by
  unfold takeOffice
  dsimp only
  split
  · exact .of_eq rfl
  split
  · exact .of_eq rfl
  · exact .trans (.of_eq rfl) (recompose_silent _ io)

theorem retire_silent (c : SiteController) (io : Moment) (request : RetireRequest) :
    c.Silent (c.retire io request).1 := by
  have retired : c.Silent ((c.withdraw io (c.retirementOf io request)).persist io.record
      (.retirement (c.retirementOf io request))).2 :=
    .trans (.of_eq rfl) (persist_silent _ io.record rfl)
  have grave : (Content.tombstone
      (tombstoneText request.domain request.incarnation)).publication? = none := rfl
  have buried := retired.trans (persist_silent _ io.tombstone grave)
  unfold retire
  split
  · exact .of_eq rfl
  split
  · exact .of_eq rfl
  dsimp only
  split
  · exact buried
  · exact buried.trans (recompose_silent _ io)

theorem revokeMember_silent (c : SiteController) (io : Moment) (domain : MemberDomainKey) :
    c.Silent (c.revokeMember io domain).1 := by
  unfold revokeMember
  split
  · exact .of_eq rfl
  · refine .trans (.of_eq ?_) (recompose_silent _ io)
    unfold listRevoked
    split <;> rfl

/-- An accepted publication is written, and no other one after it. -/
theorem publish_ledger {c : SiteController} {io : Moment} {publisher : MemberId}
    {incarnation : Incarnation} {declaration : MemberDomainDeclaration} {attempt : PublishAttempt}
    {record : MemberPublicationRecord}
    (passed : c.judge io publisher incarnation declaration attempt = .ok record) :
    ∃ middle : SiteController,
      middle.ledger = c.ledger.write (io.record, .publication record) ∧
      middle.Silent (c.publish io publisher incarnation declaration attempt).1 := by
  have written := persist_ledger (c.enter io record) io.record (.publication record)
  refine ⟨_, written, ?_⟩
  rw [publish, passed]
  dsimp only
  split
  · exact .of_eq rfl
  split
  · exact recompose_silent _ io
  · exact recompose_silent _ io

end SiteController

namespace SiteServer

open SiteController

variable [StdSort]

omit [StdSort] in
theorem greet_ledger (c : SiteController) (io : Moment) (request : HelloRequest) :
    (greet c io request).1.ledger = c.ledger := by
  unfold greet
  dsimp only
  split
  · rfl
  split
  · rfl
  split <;> rfl

/-- What an event writes: the publication it gets accepted, and no other. -/
inductive Wrote (s : SiteServer) (event : Event) : Prop
  | silent (accepts : s.accepts event = none)
      (quiet : s.controller.Silent (s.step event).controller)
  | reported (record : MemberPublicationRecord) (io : Answers) (middle : SiteController)
      (accepts : s.accepts event = some record)
      (written : middle.ledger = s.controller.ledger.write (io, .publication record))
      (quiet : middle.Silent (s.step event).controller)

theorem publish_wrote {s : SiteServer} {event : Event} (io : Moment) (publisher : MemberId)
    (incarnation : Incarnation) (declaration : MemberDomainDeclaration) (attempt : PublishAttempt)
    (judged : s.accepts event =
      (s.controller.judge io publisher incarnation declaration attempt).toOption)
    (stepped : (s.step event).controller =
      (s.controller.publish io publisher incarnation declaration attempt).1) : Wrote s event := by
  cases outcome : s.controller.judge io publisher incarnation declaration attempt with
  | error against =>
    rw [outcome] at judged
    rw [publish_refused outcome] at stepped
    exact .silent judged (.of_eq (congrArg ledger stepped))
  | ok record =>
    rw [outcome] at judged
    obtain ⟨middle, written, quiet⟩ := publish_ledger outcome
    exact .reported record io.record middle judged written (stepped ▸ quiet)

theorem step_wrote (s : SiteServer) (event : Event) : Wrote s event := by
  by_cases crashed : s.controller.crashed = true
  · have stays : s.step event = s := if_pos crashed
    exact .silent (if_pos crashed) (.of_eq (by rw [stays]))
  have reads : ∀ read : Option MemberPublicationRecord,
      (if s.controller.crashed = true then none else read) = read := fun _ => if_neg crashed
  have goes : ∀ next : SiteServer, (if s.controller.crashed = true then s else next) = next :=
    fun _ => if_neg crashed
  cases event with
  | frame connection io message =>
    cases message with
    | hello request =>
      have next : s.step (.frame connection io (.hello request)) =
          (s.respondHello connection io request).1 := goes _
      exact .silent (reads _) (.of_eq (by rw [next]; exact greet_ledger s.controller io request))
    | publish declaration attempt =>
      have judged : s.accepts (.frame connection io (.publish declaration attempt)) =
          s.sessions[connection]?.bind fun session => (s.controller.judge io session.publisher
            session.incarnation declaration attempt).toOption := reads _
      have next : s.step (.frame connection io (.publish declaration attempt)) =
          (s.respondPublish connection io declaration attempt).1 := goes _
      rw [respondPublish] at next
      cases found : s.sessions[connection]? with
      | none =>
        rw [found] at judged next
        exact .silent judged (.of_eq (by rw [next]))
      | some session =>
        rw [found] at judged next
        exact publish_wrote io _ _ declaration attempt judged (by rw [next])
    | retire request =>
      have next : s.step (.frame connection io (.retire request)) =
          (s.respondRetire connection io request).1 := goes _
      refine .silent (reads _) ?_
      rw [next]
      unfold respondRetire
      split
      · exact retire_silent s.controller io request
      · exact .of_eq rfl
  | closed connection io =>
    have next : s.step (.closed connection io) = s.closeConnection connection io := goes _
    refine .silent (reads _) ?_
    rw [next, closeConnection]
    cases s.sessions[connection]? with
    | none => exact .of_eq rfl
    | some session =>
      have dismissed : s.controller.Silent (dismiss s.controller io session) := .of_eq rfl
      have grave : (Content.tombstone
        (tombstoneText session.domain session.incarnation)).publication? = none := rfl
      have buried := dismissed.trans (persist_silent _ io.tombstone grave)
      exact buried.trans (recompose_silent _ io)
  | published io publisher incarnation declaration attempt =>
    exact publish_wrote io publisher incarnation declaration attempt (reads _)
      (congrArg controller (goes _))
  | retired io request =>
    have next := goes { s with controller := (s.controller.retire io request).1 }
    exact .silent (reads _) (congrArg controller next ▸ retire_silent s.controller io request)
  | revoked io domain =>
    have next := goes { s with controller := (s.controller.revokeMember io domain).1 }
    exact .silent (reads _) (congrArg controller next ▸ revokeMember_silent s.controller io domain)
  | recomposed io =>
    have next := goes { s with controller := (s.controller.recompose io).1 }
    exact .silent (reads _) (congrArg controller next ▸ recompose_silent s.controller io)

/-- The publications held change by those that are accepted. -/
theorem step_publications (s : SiteServer) (event : Event) :
    (s.step event).controller.publications =
      (s.accepts event).elim s.controller.publications
        fun record => s.controller.publications.insert record.domain record := by
  have effect := s.step_effect event
  generalize s.step event = later at effect ⊢
  cases effect with
  | kept _ _ silent _ same =>
    rw [silent]
    exact same.publications
  | greeted connection io request later session response opened step =>
    have silent : s.accepts (.frame connection io (.hello request)) = none := by
      unfold accepts
      split <;> rfl
    rw [silent]
    cases step <;> rfl
  | entered _ io record _ accepted _ _ same =>
    rw [accepted]
    exact same.publications
  | withdrawn _ _ _ _ silent _ same =>
    rw [silent]
    exact same.publications
  | revoked _ domain _ silent _ same =>
    rw [silent]
    exact same.publications.trans (s.controller.listRevoked_keeps domain).2.1
  | ended connection io _ _ _ same =>
    have silent : s.accepts (.closed connection io) = none := by
      unfold accepts
      split <;> rfl
    rw [silent]
    exact same.publications

/-- A run holds, for each domain, the record it accepted last. -/
theorem run_publications (s : SiteServer) (events : List Event) (domain : MemberDomainKey) :
    (run step s events).controller.publications[domain]? =
      ((s.acceptedIn events).filter (·.domain = domain)).getLast?.or
        s.controller.publications[domain]? := by
  induction events generalizing s with
  | nil => rfl
  | cons event rest ih =>
    rw [run_cons, ih, acceptedIn, List.filter_append, List.getLast?_append, Option.or_assoc]
    congr 1
    rw [step_publications]
    cases s.accepts event with
    | none => rfl
    | some record =>
      simp only [Option.elim_some, Option.toList_some, lookup_insert]
      by_cases here : record.domain = domain
      · simp [here]
      · simp [here]

/-- A publication takes the place of one of a lower generation, and comes back from
its record as it is. -/
def Succeeds (s : SiteServer) (event : Event) : Prop :=
  ∀ record, s.accepts event = some record →
    Codec.publicationRecord.stored record = record ∧
      ∀ held, s.controller.publications[record.domain]? = some held →
        held.generation < record.generation

instance (s : SiteServer) (event : Event) : Decidable (Succeeds s event) :=
  decidable_of_iff (∀ record ∈ s.accepts event, Codec.publicationRecord.stored record = record ∧
    ∀ held ∈ s.controller.publications[record.domain]?, held.generation < record.generation)
    Iff.rfl

/-- What is held is what a start would take of what is on file. -/
structure Synced (base : List UInt8) (limit : Nat) (before : List MemberPublicationRecord)
    (s : SiteServer) : Prop where
  holds : s.controller.ledger.Holds base limit
  publications : s.controller.publications =
    takePublications ∅ (before ++ s.controller.ledger.reports)
  stable : ∀ record ∈ s.controller.ledger.reports, Codec.publicationRecord.stored record = record

omit [StdSort] in
theorem take_snoc (records : List MemberPublicationRecord) (record : MemberPublicationRecord) :
    takePublications ∅ (records ++ [record]) =
      takePublication (takePublications ∅ records) record := by
  rw [takePublications, List.foldl_append]
  rfl

theorem ledger_prefix (s : SiteServer) (event : Event) :
    s.controller.ledger.2 <+: (s.step event).controller.ledger.2 := by
  cases s.step_wrote event with
  | silent _ quiet =>
    obtain ⟨calls, -, written⟩ := quiet
    rw [written]
    exact Ledger.run_prefix _ calls
  | reported record io middle _ first quiet =>
    obtain ⟨calls, -, written⟩ := quiet
    rw [written, first]
    exact (Ledger.write_prefix _ _).trans (Ledger.run_prefix _ calls)

theorem ledger_run (s : SiteServer) (events : List Event) :
    s.controller.ledger.2 <+: (run step s events).controller.ledger.2 :=
  run_climbs (fun a b : SiteServer => a.controller.ledger.2 <+: b.controller.ledger.2)
    (fun _ => List.prefix_rfl) (fun _ _ _ => List.IsPrefix.trans)
    (fun (s : SiteServer) event (_ : True) => ⟨s.ledger_prefix event, trivial⟩) trivial events

theorem Synced.step {base : List UInt8} {limit : Nat} {before : List MemberPublicationRecord}
    {s : SiteServer} (synced : Synced base limit before s) {event : Event}
    (succeeds : s.Succeeds event)
    (ok : ∀ entry ∈ (s.step event).controller.ledger.2, entry.2 = .ok) :
    Synced base limit before (s.step event) := by
  have changed := s.step_publications event
  cases s.step_wrote event with
  | silent silent quiet =>
    obtain ⟨calls, hushed, written⟩ := quiet
    rw [silent, Option.elim_none] at changed
    have reports := Ledger.reports_run (l := s.controller.ledger) hushed
    rw [← written] at reports
    refine ⟨?_, ?_, ?_⟩
    · rw [written] at ok ⊢
      exact synced.holds.run calls ok
    · rw [changed, reports]
      exact synced.publications
    · rw [reports]
      exact synced.stable
  | reported record io middle accepted first quiet =>
    obtain ⟨calls, hushed, written⟩ := quiet
    obtain ⟨stable, above⟩ := succeeds record accepted
    rw [accepted, Option.elim_some] at changed
    have reports := Ledger.reports_run (l := middle.ledger) hushed
    rw [← written, first, synced.holds.reports_write] at reports
    refine ⟨?_, ?_, ?_⟩
    · rw [written, first] at ok ⊢
      refine (synced.holds.write _ fun entry member => ok entry ?_).run calls ok
      exact (Ledger.run_prefix _ calls).subset member
    · rw [changed, reports, ← List.append_assoc, take_snoc, ← synced.publications]
      unfold takePublication
      cases held : s.controller.publications[record.domain]? with
      | none => rfl
      | some found =>
        dsimp only
        rw [if_pos (above found held)]
    · rw [reports]
      intro r member
      rcases List.mem_append.mp member with early | late
      · exact synced.stable r early
      · rw [List.mem_singleton.mp late]
        exact stable

theorem Synced.run {base : List UInt8} {limit : Nat} {before : List MemberPublicationRecord}
    {s : SiteServer} (synced : Synced base limit before s) (events : List Event)
    (succeeds : Guarded SiteServer.step Succeeds s events)
    (ok : ∀ entry ∈ (Lib.run SiteServer.step s events).controller.ledger.2, entry.2 = .ok) :
    Synced base limit before (Lib.run SiteServer.step s events) := by
  induction events generalizing s with
  | nil => exact synced
  | cons event rest ih =>
    refine ih (synced.step succeeds.1 fun entry member => ok entry ?_) succeeds.2 ok
    exact ((s.step event).ledger_run rest).subset member

end SiteServer

namespace Store

variable [StdSort]

/-- A file a store can append to: there is none, its scan ends with its last whole
record, or it is above the bound and is compacted. -/
def Boundary (config : StoreConfig) (disk : Option (List UInt8)) : Prop :=
  ∀ image, disk = some image →
    (scanImage image).1.recovery.status = .ok ∨
      (scanImage image).1.recovery.tailTruncated = true ∨
      config.maxBytes < (cutBack image).length

/-- A store opened over such a file stands behind whole records. -/
theorem openStore_boundary {config : StoreConfig} {io : Answers} {disk : Option (List UInt8)}
    {s : SiteStore} (boundary : Boundary config disk)
    (opened : SiteStore.openStore config io disk = (.ok, s)) :
    ∃ (head : List UInt8) (segments : List Segment), Headed head ∧ s.config = config ∧
      s.Open (head ++ joined segments) ∧ (head ++ joined segments).length ≤ config.maxBytes := by
  have settle : ∀ {head : List UInt8} {segments : List Segment} {image : List UInt8},
      Headed head → Ends head segments image → image.length ≤ Limits.maxMaxStoreBytes →
      s.config = config → config.maxBytes ≤ Limits.maxMaxStoreBytes → s.Opened config image →
      (image.length ≤ config.maxBytes → image = head ++ joined segments) →
      ∃ (head : List UInt8) (segments : List Segment), Headed head ∧ s.config = config ∧
        s.Open (head ++ joined segments) ∧ (head ++ joined segments).length ≤ config.maxBytes := by
    intro head segments image headed ends whole same bounded ways clean
    rcases ways with ⟨room, open_⟩ | ⟨-, -, open_, room⟩
    · rw [clean room] at open_ room
      exact ⟨head, segments, headed, same, open_, room⟩
    · obtain ⟨report, read⟩ := readFile_cutBack headed ends whole
      rw [read] at open_ room
      obtain ⟨more, bytes, -⟩ := SiteStore.scan_compacted config segments report
      rw [bytes] at open_ room
      exact ⟨makeFileHeader, more, makeFileHeader_headed, same, open_, room⟩
  cases disk with
  | none =>
    have header : makeFileHeader = makeFileHeader ++ joined ([] : List Segment) :=
      (List.append_nil _).symm
    have small : makeFileHeader.length ≤ Limits.maxMaxStoreBytes := by
      rw [makeFileHeader_headed.size]
      decide
    obtain ⟨bounded, same, ways⟩ := SiteStore.openStore_none opened
    refine @settle _ [] _ makeFileHeader_headed ?_ small same bounded ways fun _ => header
    have ends : Ends makeFileHeader [] (makeFileHeader ++ joined []) := .boundary
    rwa [← header] at ends
  | some image =>
    obtain ⟨bounded, whole, usable, same, ways⟩ := SiteStore.openStore_ok opened
    obtain ⟨head, segments, recovery, headed, scanned, ends, edge⟩ := cutBack_ends usable
    refine settle headed ends ((length_cutBack_le image).trans whole) same bounded ways fun room => ?_
    refine edge.mpr ?_
    have reported : (scanImage image).1.recovery = recovery := by rw [scanned]; rfl
    rcases boundary image rfl with ok | torn | large
    · exact .inl (reported ▸ ok)
    · exact .inr (reported ▸ torn)
    · omega

end Store

/-- Recovery does not depend on how a load sorts the publications. -/
theorem takePublications_sorted (records : List MemberPublicationRecord) :
    takePublications ∅ (stableSort publicationPrecedes records) = takePublications ∅ records := by
  rw [takePublications_select, takePublications_select]
  refine select_classes (stableSort_perm _ _) fun among tied => filter_stableSort ?_ records
  intro a b first second
  obtain ⟨named, level⟩ := tied b a second first
  rw [publicationPrecedes, if_neg (not_not.mpr named), decide_eq_false_iff_not, level]
  exact lt_irrefl a.generation

namespace SiteController

variable [StdSort]

/-- A controller that reads a store takes the publications the load returns. -/
theorem read_taken {config : ControllerConfig} {nonce : BootNonce} {c : SiteController}
    (created : create config nonce = .ok c) {store : SiteStore}
    (loaded : recovers store.load.recovery.status = true) (ok : (c.read store).1 = .ok) :
    (c.read store).2.publications = takePublications ∅ store.load.publications ∧
      (c.read store).2.ledger = (some store, []) := by
  obtain ⟨expectation, rfl⟩ := create_ok created
  unfold read at ok ⊢
  dsimp only at ok ⊢
  rw [if_pos loaded] at ok ⊢
  unfold recover at ok ⊢
  dsimp only at ok ⊢
  split at ok
  · next refused =>
    rw [ok] at refused
    cases refused
  next taken =>
  rw [if_neg taken]
  unfold takeSnapshot
  dsimp only
  split
  · exact ⟨rfl, rfl⟩
  split
  · exact ⟨rfl, rfl⟩
  · exact ⟨rfl, rfl⟩

/-- A controller that has started over whole records is in step with its file. -/
theorem start_synced {config : ControllerConfig} {nonce : BootNonce} {c : SiteController}
    (created : create config nonce = .ok c) (persistent : config.persistent = true) {io : Moment}
    {disk : Option (List UInt8)} (boundary : Boundary c.storeConfig disk)
    (started : (c.start io disk).status = .ok)
    (ok : ∀ entry ∈ (c.start io disk).controller.ledger.2, entry.2 = .ok) :
    ∃ (head : List UInt8) (segments : List Segment), Headed head ∧
      SiteServer.Synced (head ++ joined segments) c.storeConfig.maxBytes
        ((accepted segments).filterMap Content.publication?) (.opened c io disk) := by
  have kept : c.config.persistent = true := by
    obtain ⟨expectation, rfl⟩ := create_ok created
    exact persistent
  rcases start_ok started with ⟨volatile, -⟩ | ⟨-, store, recovered, opened, read, office, same⟩
  · rw [kept] at volatile
    cases volatile
  obtain ⟨head, segments, headed, config, open_, room⟩ := openStore_boundary boundary opened
  obtain ⟨report, loaded, status⟩ : ∃ report, store.load = collect (accepted segments) report ∧
      report.status = .ok := by
    rw [SiteStore.load_eq open_.file (room.trans (config ▸ open_.bounded)), scanImage_clean headed]
    exact ⟨_, rfl, rfl⟩
  have clean : store.load.recovery.status = .ok := by
    rw [loaded]
    exact status
  have fine : (c.read store).1 = .ok := congrArg Prod.fst read
  obtain ⟨publications, ledger⟩ := read_taken created (by rw [clean]; rfl) fine
  rw [read] at publications ledger
  obtain ⟨running, retains⟩ := recovered.takeOffice_retains io
  obtain ⟨calls, hushed, written⟩ := recovered.takeOffice_silent io
  rw [ledger] at written
  have start : Ledger.Holds (head ++ joined segments) c.storeConfig.maxBytes (some store, []) := by
    refine ⟨⟨store, rfl, congrArg _ config, ?_⟩, fun _ member => absurd member List.not_mem_nil, ?_⟩
    · simpa using open_
    · simpa using room
  have reports := Ledger.reports_run (l := (some store, [])) hushed
  rw [← written] at reports
  have blank : (recovered.takeOffice io).2.ledger.reports = [] := reports
  rw [same, written] at ok
  refine ⟨head, segments, headed, ?_, ?_, ?_⟩
  · rw [SiteServer.opened, same, written]
    exact start.run calls ok
  · rw [SiteServer.opened, same, blank, List.append_nil]
    refine retains.publications.trans (publications.trans ?_)
    rw [loaded]
    exact takePublications_sorted _
  · rw [SiteServer.opened, same, blank]
    exact fun _ member => absurd member List.not_mem_nil

/-- A controller that starts over whole records takes the publications among them. -/
theorem restart_taken {config : ControllerConfig} {nonce : BootNonce} {c : SiteController}
    (created : create config nonce = .ok c) (persistent : config.persistent = true) {io : Moment}
    {head : List UInt8} (headed : Headed head) (segments : List Segment) {contents : List Content}
    (recoverable : ∀ content ∈ contents, content.recoverable = true)
    (fits : ∀ content ∈ contents, content.payload.length ≤ Limits.maxRecordPayloadBytes)
    (room : (head ++ joined segments ++ contents.flatMap Content.record).length ≤
      c.storeConfig.maxBytes)
    (started : (c.start io (some (head ++ joined segments ++
      contents.flatMap Content.record))).status = .ok) :
    (c.start io (some (head ++ joined segments ++
        contents.flatMap Content.record))).controller.publications =
      takePublications ∅ ((accepted segments ++ contents.map Content.stored).filterMap
        Content.publication?) := by
  have kept : c.config.persistent = true := by
    obtain ⟨expectation, rfl⟩ := create_ok created
    exact persistent
  obtain ⟨store, recovered, opened, read, retains⟩ := start_read kept started
  obtain ⟨bounded, -, -, -, ways⟩ := SiteStore.openStore_ok opened
  obtain ⟨recovery, scanned, status, -⟩ := scan_appended headed segments recoverable fits
  have left : cutBack (head ++ joined segments ++ contents.flatMap Content.record) =
      head ++ joined segments ++ contents.flatMap Content.record := by
    rw [cutBack, scanned, if_neg (fun short => Nat.lt_irrefl _ short.1)]
  rw [left] at ways
  have open_ : store.Open (head ++ joined segments ++ contents.flatMap Content.record) := by
    rcases ways with ⟨-, open_⟩ | ⟨large, -⟩
    · exact open_
    · exact absurd room (not_le.mpr large)
  have loaded := SiteStore.load_eq open_.file (room.trans bounded)
  rw [scanned] at loaded
  have clean : store.load.recovery.status = .ok := by
    rw [loaded]
    exact status
  have fine : (c.read store).1 = .ok := congrArg Prod.fst read
  obtain ⟨publications, -⟩ := read_taken created (by rw [clean]; rfl) fine
  rw [read] at publications
  refine retains.publications.trans (publications.trans ?_)
  rw [loaded]
  exact takePublications_sorted _

end SiteController

/-- After a restart every domain has the record accepted last for it, in every run
over whole records in which each publication has a higher generation than the one
before and comes back from its record as it is, and each record written is one the
scan goes past. -/
theorem restart_keeps_last_accepted [StdSort] {config config' : ControllerConfig}
    {nonce nonce' : BootNonce} {c c' : SiteController} (io stopping io' : Moment)
    (disk : Option (List UInt8)) (events : List SiteServer.Event)
    (created : SiteController.create config nonce = .ok c)
    (created' : SiteController.create config' nonce' = .ok c')
    (persistent : config.persistent = true) (persistent' : config'.persistent = true)
    (shared : config'.store = config.store) (started : (c.start io disk).status = .ok)
    (s : SiteServer) (reached : s = run SiteServer.step (.opened c io disk) events)
    (appended : ∀ entry ∈ s.controller.journal, entry.2 = .ok)
    (restarted : (c'.start io'
      ((s.controller.stop stopping).store.bind SiteStore.file)).status = .ok)
    (boundary : Boundary c.storeConfig disk)
    (recoverable : ∀ entry ∈ s.controller.journal, entry.1.recoverable = true)
    (succeeds : Guarded SiteServer.step SiteServer.Succeeds (.opened c io disk) events)
    (domain : MemberDomainKey) :
    (c'.start io'
        ((s.controller.stop stopping).store.bind SiteStore.file)).controller.publications[domain]? =
      (((SiteServer.opened c io disk).acceptedIn events).filter (·.domain = domain)).getLast?.or
        (c.start io disk).controller.publications[domain]? := by
  have early : ∀ entry ∈ (c.start io disk).controller.ledger.2, entry.2 = .ok :=
    fun entry member => appended entry
      (reached ▸ ((SiteServer.opened c io disk).ledger_run events).subset member)
  obtain ⟨head, segments, headed, synced⟩ :=
    SiteController.start_synced created persistent boundary started early
  have last := synced.run events succeeds (reached ▸ appended)
  have held := SiteServer.run_publications (.opened c io disk) events domain
  rw [← reached] at last held
  obtain ⟨store, there, -, open_⟩ := last.holds.store
  have stored : s.controller.store = some store := there
  have disk' : (s.controller.stop stopping).store.bind SiteStore.file =
      some (head ++ joined segments ++ (s.controller.journal.map Prod.fst).flatMap
        Content.record) := by
    have closed : (store.close stopping.record).2.file = store.file := by
      unfold SiteStore.close
      split <;> rfl
    rw [SiteController.stop, stored]
    exact closed.trans open_.file
  have same : c'.storeConfig.maxBytes = c.storeConfig.maxBytes := by
    obtain ⟨_, rfl⟩ := SiteController.create_ok created
    obtain ⟨_, rfl⟩ := SiteController.create_ok created'
    have bound : config'.store.maxBytes = config.store.maxBytes := congrArg _ shared
    exact bound
  have contents : ∀ content ∈ s.controller.journal.map Prod.fst, content.recoverable = true ∧
      content.payload.length ≤ Limits.maxRecordPayloadBytes := by
    intro content member
    obtain ⟨entry, listed, rfl⟩ := List.mem_map.mp member
    exact ⟨recoverable entry listed, last.holds.fits entry listed⟩
  rw [disk'] at restarted ⊢
  rw [SiteController.restart_taken created' persistent' headed segments
    (fun content member => (contents content member).1)
    (fun content member => (contents content member).2) (same ▸ last.holds.within) restarted,
    List.filterMap_append]
  have reports : ((s.controller.journal.map Prod.fst).map Content.stored).filterMap
      Content.publication? = s.controller.ledger.reports := publications_stored last.stable
  rw [reports, ← last.publications]
  exact held

/-- A clock that stands at zero whenever the controller composes. -/
def Moment.unset : Moment := { nowMs := 2000, recomposeMs := 0 }

/-- The sample controller with a store, which keeps no declarations. -/
def ControllerConfig.brief : ControllerConfig := { stored with retainDeclarations := false }

def SiteController.brief : SiteController := .construct .brief ⟨ascii "boot-1"⟩

theorem SiteController.brief_created :
    SiteController.create .brief ⟨ascii "boot-1"⟩ = .ok .brief :=
  SiteController.create_construct _ (by decide +kernel) (by decide) (by decide) (by decide)
    (by decide +kernel) (by decide +kernel)

/-- A rack publishes two declarations, the second one under a second attempt. -/
def reports (first second : MemberDomainDeclaration) : List SiteServer.Event :=
  [.hello 1 (ascii "rack-1") (ascii "boot-a") 1, .report 1 first,
    .frame 1 .unset (.publish second ⟨1, 2⟩)]

/-- A controller that has taken these reports. -/
def reported (first second : MemberDomainDeclaration) : SiteServer :=
  run SiteServer.step (.opened .brief .unset none) (reports first second)

def MemberDomainDeclaration.second : MemberDomainDeclaration :=
  { sample (ascii "rack-1") with generation := ⟨2⟩ }

theorem second_generation_survives_restart :
    (SiteController.brief.start .unset (((reported (.sample (ascii "rack-1")) .second).controller.stop
        .unset).store.bind SiteStore.file)).controller.publications[
          (⟨.rack, ascii "rack-1"⟩ : MemberDomainKey)]? =
      (((SiteServer.opened .brief .unset none).acceptedIn
          (reports (.sample (ascii "rack-1")) .second)).filter
            (·.domain = (⟨.rack, ascii "rack-1"⟩ : MemberDomainKey))).getLast?.or
        (SiteController.brief.start .unset none).controller.publications[
          (⟨.rack, ascii "rack-1"⟩ : MemberDomainKey)]? := by
  have ran : (SiteController.brief.start .unset none).status = .ok ∧
      (∀ entry ∈ (reported (.sample (ascii "rack-1")) .second).controller.journal,
        entry.2 = .ok ∧ entry.1.recoverable = true) ∧
      (SiteController.brief.start .unset
        (((reported (.sample (ascii "rack-1")) .second).controller.stop .unset).store.bind
          SiteStore.file)).status = .ok ∧
      Guarded SiteServer.step SiteServer.Succeeds (.opened .brief .unset none)
        (reports (.sample (ascii "rack-1")) .second) := by decide +kernel
  obtain ⟨started, kept, restarted, succeeds⟩ := ran
  exact restart_keeps_last_accepted .unset .unset .unset none
    (reports (.sample (ascii "rack-1")) .second) SiteController.brief_created
    SiteController.brief_created rfl rfl rfl started (reported (.sample (ascii "rack-1")) .second) rfl
    (fun entry listed => (kept entry listed).1) restarted (fun image none => by cases none)
    (fun entry listed => (kept entry listed).2) succeeds ⟨.rack, ascii "rack-1"⟩

/-- A generation is published again under a second attempt, and after a restart its
domain has the first one. -/
theorem second_attempt_is_lost :
    let rack : MemberDomainKey := ⟨.rack, ascii "rack-1"⟩
    let s := reported (.sample (ascii "rack-1")) (.sample (ascii "rack-1"))
    let restarted := SiteController.brief.start .unset
      ((s.controller.stop .unset).store.bind SiteStore.file)
    (∀ entry ∈ s.controller.journal, entry.2 = .ok) ∧ restarted.status = .ok ∧
      (s.controller.publications[rack]?).map (·.attempt) = some ⟨1, 2⟩ ∧
      (restarted.controller.publications[rack]?).map (·.attempt) = some ⟨1, 1⟩ := by
  decide +kernel

end SiteFabric
