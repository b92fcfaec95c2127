import SiteFabric.Controller.Acceptance
import SiteFabric.Controller.Offers
import SiteFabric.Controller.Sessions
import SiteFabric.Controller.Wire

/-! What readers are told.
The number that an accepted publication or retirement is answered with marks a moment: a
heartbeat with that mark lists the domains that have published since, each once and no
other. The number of a snapshot names one snapshot for as long as the controller lives, and
the latest snapshot never goes back. -/

namespace SiteFabric

open Lib Authority Store Protocol
open Std (ExtTreeMap)

namespace SiteController

variable [StdSort]

end SiteController

namespace SiteServer

open SiteController

theorem heartbeat_sequence (c : SiteController) (session : Option ConnectionSession)
    (request : HeartbeatRequest) :
    (heartbeat c session request).siteSequence =
      (c.chain.current.map SiteSnapshot.sequence).getD 0 := by
  unfold heartbeat
  dsimp only
  split
  · rfl
  split <;> rfl

variable [StdSort]

theorem run_config (s : SiteServer) (events : List Event) :
    (run step s events).controller.config = s.controller.config :=
  run_stable (fun t : SiteServer => t.controller.config = s.controller.config)
    (fun t event same => (t.step_config event).trans same) events rfl

end SiteServer

section

open SiteServer

variable [StdSort] {config : ControllerConfig} {nonce : BootNonce} {c : SiteController}
  {io : Moment} {disk : Option (List UInt8)}

end

namespace SiteServer

variable [StdSort]

theorem Alike.accepts {s later : SiteServer} (alike : Alike s later) (event : Event) :
    later.accepts event = s.accepts event := by
  unfold SiteServer.accepts
  simp only [alike.crashed, alike.sessions, alike.same.judge]

omit [StdSort] in
theorem Alike.heartbeat {s later : SiteServer} (alike : Alike s later) (connection : Nat)
    (request : HeartbeatRequest) :
    (heartbeat later.controller later.sessions[connection]? request).status =
      (heartbeat s.controller s.sessions[connection]? request).status := by
  unfold SiteServer.heartbeat
  rw [alike.sessions]
  cases s.sessions[connection]? with
  | none => rfl
  | some session =>
    dsimp only
    rw [retained_lives alike.same]
    split <;> rfl

end SiteServer

/-- Two racks report, one after the other. -/
def SiteServer.visits : List SiteServer.Event :=
  [.hello 1 (ascii "rack-1") (ascii "boot-a") 1, .report 1 (.sample (ascii "rack-1")),
    .hello 2 (ascii "rack-2") (ascii "boot-b") 1, .report 2 (.sample (ascii "rack-2"))]

def SiteServer.visited : SiteServer := run step (.opened .sample .sample none) visits

namespace SiteController

/-- The chain is offered one snapshot at most. -/
def Edits (c later : SiteController) : Prop :=
  later.chain = c.chain ∨
    ∃ snapshot token nowMs, later.chain = c.chain.edit (.publish snapshot token nowMs)

/-- What happens to the chain after what leaves it alone. -/
theorem Edits.after {c middle later : SiteController} (edits : middle.Edits later)
    (same : middle.chain = c.chain) : c.Edits later := by
  rwa [Edits, ← same]

theorem publishSnapshot_edits (c : SiteController) (io : Moment) (generation : Generation)
    (snapshot : SiteSnapshot) : c.Edits (c.publishSnapshot io generation snapshot).1 := by
  unfold publishSnapshot
  dsimp only
  split
  · exact .inr ⟨snapshot, c.token, io.recomposeMs, rfl⟩
  · exact .inr ⟨snapshot, c.token, io.recomposeMs, persist_chain _ io.snapshot _⟩

theorem publishSite_edits (c : SiteController) (io : Moment) (generation : Generation)
    (site : ComposedSite) : c.Edits (c.publishSite io generation site).1 := by
  unfold publishSite
  dsimp only
  split
  · exact .inl rfl
  split
  · exact .inl rfl
  · exact (publishSnapshot_edits _ io generation _).after rfl

variable [StdSort]

theorem recompose_edits (c : SiteController) (io : Moment) : c.Edits (c.recompose io).1 := by
  unfold recompose
  split
  · exact .inl rfl
  · exact .inl rfl
  · exact c.publishSite_edits io _ _

theorem takeOffice_edits (c : SiteController) (io : Moment) : c.Edits (c.takeOffice io).2 := by
  unfold takeOffice
  dsimp only
  split
  · exact .inl rfl
  split
  · exact .inl rfl
  · exact (recompose_edits _ io).after rfl

theorem publish_edits (c : SiteController) (io : Moment) (publisher : MemberId)
    (incarnation : Incarnation) (declaration : MemberDomainDeclaration) (attempt : PublishAttempt) :
    c.Edits (c.publish io publisher incarnation declaration attempt).1 := by
  unfold publish
  split
  · exact .inl rfl
  next record _ =>
  have entered : ((c.enter io record).persist io.record (.publication record)).2.chain = c.chain :=
    persist_chain (c.enter io record) io.record (.publication record)
  dsimp only
  split
  · exact .inl entered
  split <;> exact (recompose_edits _ io).after entered

theorem retire_edits (c : SiteController) (io : Moment) (request : RetireRequest) :
    c.Edits (c.retire io request).1 := by
  unfold retire
  split
  · exact .inl rfl
  split
  · exact .inl rfl
  dsimp only
  have buried := (persist_chain ((c.withdraw io (c.retirementOf io request)).persist io.record
    (.retirement (c.retirementOf io request))).2 io.tombstone
      (.tombstone (tombstoneText request.domain request.incarnation))).trans (persist_chain _ _ _)
  split
  · exact .inl buried
  · exact (recompose_edits _ io).after buried

theorem revokeMember_edits (c : SiteController) (io : Moment) (domain : MemberDomainKey) :
    c.Edits (c.revokeMember io domain).1 := by
  unfold revokeMember
  split
  · exact .inl rfl
  · refine (recompose_edits _ io).after ?_
    unfold listRevoked
    split <;> rfl

end SiteController

namespace SiteServer

open SiteController

theorem greet_chain (c : SiteController) (io : Moment) (request : HelloRequest) :
    (greet c io request).1.chain = c.chain := by
  unfold greet
  dsimp only
  split
  · rfl
  split
  · rfl
  split <;> rfl

variable [StdSort]

theorem step_edits (s : SiteServer) (event : Event) :
    s.controller.Edits (s.step event).controller := by
  unfold step
  split
  · exact .inl rfl
  cases event with
  | frame connection io message =>
    cases message with
    | hello request => exact .inl (greet_chain s.controller io request)
    | publish declaration attempt =>
      dsimp only [respond, respondPublish]
      split
      · exact .inl rfl
      · exact publish_edits _ io _ _ declaration attempt
    | retire request =>
      dsimp only [respond, respondRetire]
      split
      · exact retire_edits _ io request
      · exact .inl rfl
  | closed connection io =>
    dsimp only [closeConnection]
    split
    · exact .inl rfl
    · exact (recompose_edits _ io).after (persist_chain _ io.tombstone _)
  | published io publisher incarnation declaration attempt =>
    exact publish_edits _ io publisher incarnation declaration attempt
  | retired io request => exact retire_edits _ io request
  | revoked io domain => exact revokeMember_edits _ io domain
  | recomposed io => exact recompose_edits _ io

end SiteServer

namespace SnapshotChain

/-- What comes of a chain: its numbers go up, and name what they named. -/
structure Extends (chain later : SnapshotChain) (steps : Nat) : Prop where
  ordered : later.Ordered
  succeeds : Succeeds number chain.history later.history
  counts : later.lastNumber ≤ chain.lastNumber + steps

theorem Ordered.extends {chain : SnapshotChain} (ordered : chain.Ordered) (steps : Nat) :
    chain.Extends chain steps := ⟨ordered, Succeeds.refl _, Nat.le_add_right _ _⟩

theorem Ordered.publish {chain : SnapshotChain} (ordered : chain.Ordered)
    (room : chain.lastNumber + 1 < 2 ^ 64) (snapshot : SiteSnapshot) (token : AuthorityToken)
    (nowMs : Int64) : chain.Extends (chain.edit (.publish snapshot token nowMs)) 1 := by
  have numberable : chain.Numberable (.publish snapshot token nowMs) := fun last found => by
    rw [lastNumber, found] at room
    exact room
  obtain ⟨accounts, next, succeeds⟩ := edit_step ordered (.publish snapshot token nowMs) numberable
  refine ⟨next, succeeds, ?_⟩
  by_cases published : (chain.publish snapshot token nowMs).2.status = .published
  · obtain ⟨sequence, appends, -, counted⟩ := accounts.1 published
    change lastNumber (chain.publish snapshot token nowMs).1 ≤ _
    rw [lastNumber, appends.last]
    exact counted.le
  · change lastNumber (chain.publish snapshot token nowMs).1 ≤ _
    rw [accounts.2 published]
    exact Nat.le_succ _

end SnapshotChain

open SnapshotChain in
theorem SiteController.Edits.extends {c later : SiteController} (edits : c.Edits later)
    (ordered : c.chain.Ordered) (room : c.chain.lastNumber + 1 < 2 ^ 64) :
    c.chain.Extends later.chain 1 := by
  rcases edits with same | ⟨snapshot, token, nowMs, same⟩
  · exact same ▸ ordered.extends 1
  · exact same ▸ ordered.publish room snapshot token nowMs

namespace SiteServer

open SnapshotChain

variable [StdSort]

theorem run_extends {s : SiteServer} (ordered : s.controller.chain.Ordered) (events : List Event)
    (room : s.controller.chain.lastNumber + events.length < 2 ^ 64) :
    s.controller.chain.Extends (run step s events).controller.chain events.length := by
  induction events generalizing s with
  | nil => exact ordered.extends 0
  | cons event rest ih =>
    rw [List.length_cons] at room ⊢
    have first := (s.step_edits event).extends ordered (by omega)
    have counts := first.counts
    have later := ih first.ordered (by omega)
    exact ⟨later.ordered, first.succeeds.trans later.succeeds, later.counts.trans (by omega)⟩

end SiteServer

namespace SiteController

open SnapshotChain

variable [StdSort]

/-- The number of the snapshot that a start finds in its store. -/
def resumed (c : SiteController) (io : Moment) (disk : Option (List UInt8)) : Nat :=
  number (SiteStore.openStore c.storeConfig io.opening disk).2.load.latestSnapshot

omit [StdSort] in
/-- Of a store's contents, the chain takes the latest snapshot. -/
theorem recover_chain {c : SiteController} (blank : c.chain.history = [])
    (ordered : c.chain.Ordered) (contents : StoreContents) :
    (c.recover contents).2.chain.Ordered ∧
      (c.recover contents).2.chain.lastNumber ≤ number contents.latestSnapshot := by
  have empty : c.chain.lastNumber = 0 := by
    rw [lastNumber, current, blank]
    rfl
  have still : c.chain.Ordered ∧ c.chain.lastNumber ≤ number contents.latestSnapshot :=
    ⟨ordered, empty ▸ Nat.zero_le _⟩
  have taken : (c.takeSnapshot contents).2.chain.Ordered ∧
      (c.takeSnapshot contents).2.chain.lastNumber ≤ number contents.latestSnapshot := by
    obtain ⟨accounts, next, -⟩ := edit_step ordered (.restore contents.latestSnapshot) trivial
    unfold takeSnapshot
    dsimp only
    split
    · exact still
    split
    · exact still
    refine ⟨next, ?_⟩
    change lastNumber (c.chain.restore contents.latestSnapshot).2 ≤ _
    rcases c.chain.restore_cases contents.latestSnapshot with ⟨-, -, same⟩ | ⟨-, -, same⟩
    · rw [lastNumber, (accounts.1 (congrArg Prod.fst same)).1.last]
    · rw [same]
      exact still.2
  unfold recover
  dsimp only
  split <;> exact taken

/-- The chain of a controller that has started. -/
theorem start_chain {config : ControllerConfig} {nonce : BootNonce} {c : SiteController}
    (created : create config nonce = .ok c) {io : Moment} {disk : Option (List UInt8)}
    (started : (c.start io disk).status = .ok) (room : c.resumed io disk + 1 < 2 ^ 64) :
    (c.start io disk).controller.chain.Ordered ∧
      (c.start io disk).controller.chain.lastNumber ≤ c.resumed io disk + 1 := by
  have fresh : c.chain.Ordered ∧ c.chain.history = [] := by
    obtain ⟨expectation, rfl⟩ := create_ok created
    exact ⟨⟨setHistoryLimit_pos {} config.snapshotHistory, List.Pairwise.nil⟩, rfl⟩
  have office {c' : SiteController} (ordered : c'.chain.Ordered)
      (low : c'.chain.lastNumber ≤ c.resumed io disk) :
      (c'.takeOffice io).2.chain.Ordered ∧
        (c'.takeOffice io).2.chain.lastNumber ≤ c.resumed io disk + 1 := by
    have edits := (c'.takeOffice_edits io).extends ordered (by omega)
    exact ⟨edits.ordered, edits.counts.trans (by omega)⟩
  have empty : c.chain.lastNumber = 0 := by
    rw [lastNumber, current, fresh.2]
    rfl
  rcases start_ok started with ⟨-, -, same⟩ | ⟨-, store, recovered, opened, read, -, same⟩
  · rw [same]
    exact office fresh.1 (empty ▸ Nat.zero_le _)
  · rw [same]
    have found : number store.load.latestSnapshot = c.resumed io disk := by
      rw [resumed, opened]
    obtain ⟨ordered, low⟩ : recovered.chain.Ordered ∧
        recovered.chain.lastNumber ≤ c.resumed io disk := by
      have took : recovered = (c.read store).2 := (congrArg Prod.snd read).symm
      rw [took]
      unfold SiteController.read
      dsimp only
      split
      · exact found ▸ recover_chain (c := { c with store := some store, journal := [] }) fresh.2
          fresh.1 store.load
      · exact ⟨fresh.1, empty ▸ Nat.zero_le _⟩
    exact office ordered low

end SiteController

section

open SiteServer SnapshotChain

theorem fetchSite_snapshot (c : SiteController) (request : FetchSiteRequest) :
    (fetchSite c request).snapshot =
      if request.site ≠ c.config.site then none
      else if request.sequence = 0 then c.chain.current
      else c.chain.atSequence request.sequence := by
  unfold fetchSite
  split
  · rfl
  split
  · next found => rw [found]
  · next found => rw [found]

/-- A number up to the latest that names no snapshot any more never does again. -/
theorem SnapshotChain.Extends.forgotten {chain later : SnapshotChain} {steps : Nat}
    (further : chain.Extends later steps) {latest : SiteSnapshot}
    (found : chain.current = some latest) {sequence : UInt64}
    (given : sequence ≤ latest.sequence) (gone : chain.atSequence sequence = none) :
    later.atSequence sequence = none := by
  by_contra again
  obtain ⟨s, again⟩ := Option.ne_none_iff_exists'.mp again
  obtain ⟨held, numbered⟩ := mem_of_atSequence again
  rcases further.succeeds.fresh s held with old | above
  · exact List.find?_eq_none.mp gone s old (by simpa using numbered)
  · have below := above latest (List.mem_of_getLast? found)
    rw [number, number, numbered] at below
    exact absurd (UInt64.le_iff_toNat_le.mp given) (Nat.not_le.mpr below)

/-- The latest snapshot stays, or makes place for one with a higher number. -/
theorem SnapshotChain.Extends.latest {chain later : SnapshotChain} {steps : Nat}
    (further : chain.Extends later steps) (ordered : chain.Ordered) {s : SiteSnapshot}
    (latest : chain.current = some s) :
    ∃ s', later.current = some s' ∧ (s = s' ∨ s.sequence < s'.sequence) := by
  have held := List.mem_of_getLast? latest
  obtain ⟨b, held', reaches⟩ := further.succeeds.reaches s held
  obtain ⟨s', latest'⟩ := Option.isSome_iff_exists.mp
    (List.getLast?_isSome.mpr (List.ne_nil_of_mem held'))
  refine ⟨s', latest', ?_⟩
  have top := further.ordered.le_lastNumber held'
  rw [lastNumber, show later.current = some s' from latest'] at top
  rcases (reaches.trans top).eq_or_lt with same | above
  · exact .inl (further.succeeds.unique ordered.ascending held (List.mem_of_getLast? latest') same)
  · exact .inr (UInt64.lt_iff_toNat_lt.mpr above)

/-- What is answered later goes with what was answered earlier. -/
structure SiteController.Foretells (earlier later : SiteController) : Prop where
  names : ∀ request s s', request.sequence ≠ 0 → (fetchSite earlier request).snapshot = some s →
    (fetchSite later request).snapshot = some s' → s = s'
  dropped : ∀ request latest, earlier.chain.current = some latest →
    request.sequence ≤ latest.sequence → (fetchSite earlier request).snapshot = none →
      (fetchSite later request).snapshot = none
  latest : ∀ request s, request.sequence = 0 → (fetchSite earlier request).snapshot = some s →
    ∃ s', (fetchSite later request).snapshot = some s' ∧ (s = s' ∨ s.sequence < s'.sequence)
  beats : ∀ session session' request request', (heartbeat earlier session request).siteSequence ≤
    (heartbeat later session' request').siteSequence

theorem SnapshotChain.Extends.foretells {earlier later : SiteController} {steps : Nat}
    (further : earlier.chain.Extends later.chain steps) (ordered : earlier.chain.Ordered)
    (config : later.config = earlier.config) : earlier.Foretells later where
  names request s s' numbered found found' := by
    rw [fetchSite_snapshot] at found found'
    split_ifs at found found'
    exact names_of_succeeds ordered further.succeeds request.sequence s s' found found'
  dropped request latest found given gone := by
    rw [fetchSite_snapshot] at gone ⊢
    rw [config]
    split_ifs at gone ⊢
    · rfl
    · rw [found] at gone
      cases gone
    · exact further.forgotten found given gone
  latest request s latest found := by
    rw [fetchSite_snapshot] at found ⊢
    split_ifs at found
    next here =>
    rw [config, if_neg here, if_pos latest]
    exact further.latest ordered found
  beats _ _ _ _ := by
    rw [heartbeat_sequence, heartbeat_sequence]
    cases latest : earlier.chain.current with
    | none => exact UInt64.zero_le
    | some s =>
      obtain ⟨s', latest', same | above⟩ := further.latest ordered latest
      · rw [latest', same]
        exact UInt64.le_refl _
      · rw [latest']
        exact UInt64.le_of_lt above

variable [StdSort] {config : ControllerConfig} {nonce : BootNonce} {c : SiteController}
  {io : Moment} {disk : Option (List UInt8)}

/-- What readers fetch later never contradicts what they have fetched: a number names one
snapshot for good, one that has been dropped does not come back, and the latest snapshot
only makes place for one with a higher number, as the heartbeats say. -/
theorem fetches_never_contradict (created : SiteController.create config nonce = .ok c)
    (started : (c.start io disk).status = .ok) {before after : List SiteServer.Event}
    (room : c.resumed io disk + 1 + (before ++ after).length < 2 ^ 64) :
    (run SiteServer.step (.opened c io disk) before).controller.Foretells
      (run SiteServer.step (.opened c io disk) (before ++ after)).controller := by
  rw [List.length_append] at room
  obtain ⟨start, low⟩ := SiteController.start_chain created started (by omega)
  have first := SiteServer.run_extends (s := .opened c io disk) start before
    (lt_of_le_of_lt (Nat.add_le_add_right low _) (by omega))
  have high := first.counts.trans (Nat.add_le_add_right low before.length)
  have further := SiteServer.run_extends first.ordered after
    (lt_of_le_of_lt (Nat.add_le_add_right high _) (by omega))
  rw [run_append]
  exact further.foretells first.ordered (SiteServer.run_config _ after)

end

/-- After a second composition. -/
def SiteServer.later : SiteServer :=
  run step (.opened .sample .sample none) (visits ++ [.recomposed .sample])

theorem visitors_fetch_consistently :
    SiteServer.visited.controller.Foretells SiteServer.later.controller := by
  have room : SiteController.sample.resumed .sample none + 1 +
      (SiteServer.visits ++ [SiteServer.Event.recomposed .sample]).length < 2 ^ 64 := by
    decide +kernel
  exact fetches_never_contradict SiteController.sample_created SiteServer.sample_started room

end SiteFabric
