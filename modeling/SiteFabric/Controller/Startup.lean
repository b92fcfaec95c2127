import SiteFabric.Controller.Process
import SiteFabric.Store.Opening

/-! Starting and stopping a controller.
What survived on disk decides the epoch a controller takes. The tombstones and
the registry are not restored: a started controller has admitted nobody, and
every domain it recovered waits to report again. -/

namespace SiteFabric

open Lib Authority Store
open Std (ExtTreeMap)

abbrev Publications := ExtTreeMap MemberDomainKey MemberPublicationRecord compare

/-- The epoch of the recovered snapshot, raised by every controller lease above it. -/
def raiseEpoch (epoch : Epoch) (leases : List AuthorityToken) : Epoch :=
  leases.foldl (fun highest lease =>
    if lease.kind = .siteController ∧ highest < lease.epoch then lease.epoch else highest) epoch

/-- A recovered record takes the place of one of a lower generation only. -/
def takePublication (held : Publications) (record : MemberPublicationRecord) : Publications :=
  match held[record.domain]? with
  | none => held.insert record.domain record
  | some found =>
    if found.generation < record.generation then held.insert record.domain record else held

def takePublications (held : Publications) (records : List MemberPublicationRecord) :
    Publications :=
  records.foldl takePublication held

theorem takePublications_mem {records : List MemberPublicationRecord} {held : Publications}
    {domain : MemberDomainKey} {record : MemberPublicationRecord}
    (found : (takePublications held records)[domain]? = some record) :
    held[domain]? = some record ∨ record ∈ records ∧ record.domain = domain := by
  induction records generalizing held with
  | nil => exact .inl found
  | cons first rest ih =>
    rcases ih found with earlier | ⟨listed, named⟩
    · have inserted : (held.insert first.domain first)[domain]? = some record →
          held[domain]? = some record ∨ record ∈ first :: rest ∧ record.domain = domain := by
        rw [lookup_insert]
        split
        · next same =>
          rintro ⟨⟩
          exact .inr ⟨List.mem_cons_self, same⟩
        · exact .inl
      unfold takePublication at earlier
      split at earlier
      · exact inserted earlier
      split at earlier
      · exact inserted earlier
      · exact .inl earlier
    · exact .inr ⟨List.mem_cons_of_mem _ listed, named⟩

/-- The acceptance mark: the highest sequence among recovered publications. -/
def highestAcceptance (records : List MemberPublicationRecord) : UInt64 :=
  records.foldl (fun highest record =>
    if highest < record.acceptanceSequence then record.acceptanceSequence else highest) 0

/-- Load statuses whose contents are taken over. -/
def recovers (loaded : Status) : Bool :=
  loaded.isOk || loaded == .truncated || loaded == .limitExceeded || loaded == .integrityFailure

structure Started where
  status : Status
  controller : SiteController
  disk : Option (List UInt8)

namespace SiteController

def takeSnapshot (c : SiteController) (contents : StoreContents) : Status × SiteController :=
  if !contents.hasSnapshot then (.ok, c)
  else
    let restored := c.chain.restore contents.latestSnapshot
    if !restored.1.isOk then (restored.1, c)
    else
      (.ok,
        { c with
          chain := restored.2, epoch := contents.latestSnapshot.epoch
          siteGeneration := contents.latestSnapshot.generation })

def recover (c : SiteController) (contents : StoreContents) : Status × SiteController :=
  let taken := c.takeSnapshot contents
  if !taken.1.isOk then taken
  else
    (.ok,
      { taken.2 with
        epoch := raiseEpoch taken.2.epoch contents.leases
        publications := takePublications taken.2.publications contents.publications
        reconstructed := taken.2.reconstructed ++ contents.publications.map (·.domain)
        acceptanceSequence := highestAcceptance contents.publications
        retirements := contents.retirements })

/-- A restarted controller takes the next epoch. -/
def nextTerm (c : SiteController) : SiteController :=
  { c with epoch := if c.epoch.isSet then c.epoch.next else Epoch.initial }

/-- The lease a starting controller asks for. -/
def termRequest (c : SiteController) (nowMs : Int64) : AcquireRequest :=
  c.acquireRequest (if c.siteGeneration.isSet then c.siteGeneration else Generation.initial) nowMs

variable [StdSort]

/-- The rest of `start`, once the store has been read: the next epoch, the lease
for it, the listener, and a first recomposition whose failure is not fatal. -/
def takeOffice (c : SiteController) (io : Moment) : Status × SiteController :=
  let c := c.nextTerm
  let acquired := c.authority.acquireSiteAuthority (c.termRequest io.nowMs)
  let c := { c with authority := acquired.registry, token := acquired.token.getD c.token }
  if !acquired.status.isOk then (acquired.status, c)
  else if !io.bound.isOk then (io.bound, c)
  else (.ok, ({ c with running := true }.recompose io).1)

def storeConfig (c : SiteController) : StoreConfig :=
  { c.config.store with
    snapshotHistory :=
      if c.config.store.snapshotHistory = 0 then c.config.snapshotHistory
      else c.config.store.snapshotHistory }

/-- What a controller takes over from a store it has opened. -/
def read (c : SiteController) (store : SiteStore) : Status × SiteController :=
  let c := { c with store := some store, journal := [] }
  if recovers store.load.recovery.status then c.recover store.load else (.ok, c)

/-- `start`, over the file at the configured path. -/
def start (c : SiteController) (io : Moment) (disk : Option (List UInt8)) : Started :=
  if c.running then ⟨.alreadyExists, c, disk⟩
  else if !c.config.persistent then
    let office := c.takeOffice io
    ⟨office.1, office.2, disk⟩
  else if c.storeConfig.path.isEmpty then ⟨.invalid, c, disk⟩
  else
    let opened := SiteStore.openStore c.storeConfig io.opening disk
    if !opened.1.isOk then ⟨opened.1, { c with store := none }, opened.2.file⟩
    else
      let recovered := c.read opened.2
      if !recovered.1.isOk then
        ⟨recovered.1, { recovered.2 with store := none }, opened.2.file⟩
      else
        let office := recovered.2.takeOffice io
        ⟨office.1, office.2, office.2.store.bind SiteStore.file⟩

/-- The end of `stop`, once every session has ended. -/
def stop (c : SiteController) (io : Moment) : SiteController :=
  { c with running := false, store := c.store.map fun store => (store.close io.record).2 }

/-- Taking office changes the epoch, and what a recomposition decides. -/
theorem takeOffice_retains (c : SiteController) (io : Moment) :
    ∃ running, { c.nextTerm with running }.Retains (c.takeOffice io).2 := by
  obtain ⟨domains, tombstones⟩ :=
    (LeaseCall.acquire (c.nextTerm.termRequest io.nowMs)).members c.nextTerm.authority
  have states : ∀ domain, (c.nextTerm.authority.acquireSiteAuthority
      (c.nextTerm.termRequest io.nowMs)).registry.domainState domain =
        c.nextTerm.authority.domainState domain := fun domain => by
    rw [Registry.domainState, Registry.domainState]
    exact congrArg (fun domains => (domains[domain]?).getD {}) domains
  unfold takeOffice
  dsimp only
  split
  · exact ⟨c.running, rfl, states, tombstones, rfl, rfl, rfl, rfl, rfl, rfl, rfl, rfl⟩
  split
  · exact ⟨c.running, rfl, states, tombstones, rfl, rfl, rfl, rfl, rfl, rfl, rfl, rfl⟩
  · refine ⟨true, .trans ?_ (recompose_retains _ io)⟩
    exact ⟨rfl, states, tombstones, rfl, rfl, rfl, rfl, rfl, rfl, rfl, rfl⟩

/-- A controller that took office runs, unless its first composition crashed. -/
theorem takeOffice_ok {c : SiteController} {io : Moment} (ok : (c.takeOffice io).1 = .ok) :
    { c.nextTerm with running := true }.Retains (c.takeOffice io).2 ∧
      (c.takeOffice io).2.crashed =
        (c.crashed || decide (compose (c.nextTerm.compositionInput io.recomposeMs) = .crashed)) := by
  obtain ⟨running, same⟩ := takeOffice_retains c io
  have office : (c.takeOffice io).2.running = true ∧ (c.takeOffice io).2.crashed =
      (c.crashed || decide (compose (c.nextTerm.compositionInput io.recomposeMs) = .crashed)) := by
    unfold takeOffice at ok ⊢
    dsimp only at ok ⊢
    split at ok
    · next refused =>
      have granted : (c.nextTerm.authority.acquireSiteAuthority
        (c.nextTerm.termRequest io.nowMs)).status = .ok := ok
      rw [granted] at refused
      cases refused
    next granted =>
    split at ok
    · next refused =>
      have bound : io.bound = .ok := ok
      rw [bound] at refused
      cases refused
    next bound =>
    rw [if_neg granted, if_neg bound]
    dsimp only
    rw [(recompose_retains _ io).running, recompose_crashed]
    exact ⟨rfl, rfl⟩
  obtain rfl : true = running := office.1.symm.trans same.running
  exact ⟨same, office.2⟩

omit [StdSort] in
theorem recover_isOk {c : SiteController} {contents : StoreContents}
    (recovered : (c.recover contents).1.isOk = true) : (c.recover contents).1 = .ok := by
  unfold recover at recovered ⊢
  dsimp only at recovered ⊢
  split at recovered
  · next refused => exact absurd recovered (by simpa using refused)
  next taken => rw [if_neg taken]

theorem read_isOk {c : SiteController} {store : SiteStore}
    (recovered : (c.read store).1.isOk = true) : (c.read store).1 = .ok := by
  unfold read at recovered ⊢
  dsimp only at recovered ⊢
  split at recovered
  · next loaded =>
    rw [if_pos loaded]
    exact recover_isOk recovered
  next blank => rw [if_neg blank]

/-- A start that returns OK: the store is opened and read when there is one, and
then the controller takes office. -/
theorem start_ok {c : SiteController} {io : Moment} {disk : Option (List UInt8)}
    (ok : (c.start io disk).status = .ok) :
    (c.config.persistent = false ∧ (c.takeOffice io).1 = .ok ∧
        (c.start io disk).controller = (c.takeOffice io).2) ∨
      (c.config.persistent = true ∧ ∃ store recovered,
        SiteStore.openStore c.storeConfig io.opening disk = (.ok, store) ∧
        c.read store = (.ok, recovered) ∧ (recovered.takeOffice io).1 = .ok ∧
        (c.start io disk).controller = (recovered.takeOffice io).2) := by
  unfold start at ok ⊢
  dsimp only at ok ⊢
  split at ok
  · cases ok
  next idle =>
  rw [if_neg idle]
  split at ok
  · next volatile =>
    rw [if_pos volatile]
    exact .inl ⟨by simpa using volatile, ok, rfl⟩
  next persistent =>
  rw [if_neg persistent]
  split at ok
  · cases ok
  next path =>
  rw [if_neg path]
  split at ok
  · next refused =>
    have opened : (SiteStore.openStore c.storeConfig io.opening disk).1 = .ok := ok
    rw [opened] at refused
    cases refused
  next opened =>
  rw [if_neg opened]
  split at ok
  · next refused =>
    have fine : (c.read (SiteStore.openStore c.storeConfig io.opening disk).2).1 = .ok := ok
    rw [fine] at refused
    cases refused
  next fine =>
  rw [if_neg fine]
  refine .inr ⟨by simpa using persistent,
    (SiteStore.openStore c.storeConfig io.opening disk).2,
    (c.read (SiteStore.openStore c.storeConfig io.opening disk).2).2, ?_, ?_, ok, rfl⟩
  · exact Prod.ext (SiteStore.openStore_isOk (by simpa using opened)) rfl
  · exact Prod.ext (read_isOk (by simpa using fine)) rfl

/-- Nobody has been admitted, nothing is revoked, and every record that is held
was recovered from disk. -/
structure Fresh (c : SiteController) : Prop where
  states : ∀ domain, c.authority.domainState domain = {}
  tombstones : c.authority.tombstones = ∅
  revoked : c.revoked = []
  recovered : ∀ domain record, c.publications[domain]? = some record →
    record.domain = domain ∧ domain ∈ c.reconstructed

omit [StdSort] in
theorem Fresh.retained {c later : SiteController} (fresh : c.Fresh) (same : c.Retains later) :
    later.Fresh where
  states domain := (same.states domain).trans (fresh.states domain)
  tombstones := same.tombstones.trans fresh.tombstones
  revoked := same.revoked.trans fresh.revoked
  recovered := by
    rw [same.publications, same.reconstructed]
    exact fresh.recovered

theorem Fresh.takeOffice {c : SiteController} (fresh : c.Fresh) (io : Moment) :
    (c.takeOffice io).2.Fresh := by
  obtain ⟨running, same⟩ := takeOffice_retains c io
  have seated : ({ c.nextTerm with running } : SiteController).Fresh :=
    ⟨fresh.states, fresh.tombstones, fresh.revoked, fresh.recovered⟩
  exact seated.retained same

omit [StdSort] in
theorem takeSnapshot_fresh {c : SiteController} (fresh : c.Fresh) (contents : StoreContents) :
    (c.takeSnapshot contents).2.Fresh ∧
      (c.takeSnapshot contents).2.publications = c.publications := by
  unfold takeSnapshot
  dsimp only
  split
  · exact ⟨fresh, rfl⟩
  split
  · exact ⟨fresh, rfl⟩
  · exact ⟨⟨fresh.states, fresh.tombstones, fresh.revoked, fresh.recovered⟩, rfl⟩

omit [StdSort] in
theorem recover_fresh {c : SiteController} (fresh : c.Fresh) (contents : StoreContents) :
    (c.recover contents).2.Fresh := by
  obtain ⟨taken, -⟩ := c.takeSnapshot_fresh fresh contents
  unfold recover
  dsimp only
  split
  · exact taken
  refine ⟨taken.states, taken.tombstones, taken.revoked, fun domain record found => ?_⟩
  rw [List.mem_append]
  rcases takePublications_mem found with held | ⟨listed, named⟩
  · obtain ⟨named, waiting⟩ := taken.recovered domain record held
    exact ⟨named, .inl waiting⟩
  · exact ⟨named, .inr (List.mem_map.mpr ⟨record, listed, named⟩)⟩

theorem read_fresh {c : SiteController} (fresh : c.Fresh) (store : SiteStore) :
    (c.read store).2.Fresh := by
  have opened : { c with store := some store, journal := [] }.Fresh :=
    ⟨fresh.states, fresh.tombstones, fresh.revoked, fresh.recovered⟩
  unfold read
  dsimp only
  split
  · exact recover_fresh opened _
  · exact opened

theorem start_fresh {c : SiteController} (fresh : c.Fresh) (io : Moment)
    (disk : Option (List UInt8)) : (c.start io disk).controller.Fresh := by
  have closed : ∀ {c : SiteController}, c.Fresh → { c with store := none }.Fresh :=
    fun fresh => ⟨fresh.states, fresh.tombstones, fresh.revoked, fresh.recovered⟩
  unfold start
  dsimp only
  split
  · exact fresh
  split
  · exact fresh.takeOffice io
  split
  · exact fresh
  split
  · exact closed fresh
  split
  · exact closed (read_fresh fresh _)
  · exact (read_fresh fresh _).takeOffice io

omit [StdSort] in
theorem create_ok {config : ControllerConfig} {nonce : BootNonce} {c : SiteController}
    (created : create config nonce = .ok c) :
    ∃ expectation, c = { construct config nonce with config := { config with expectation } } := by
  unfold create at created
  dsimp only at created
  split at created
  · cases created
  split at created
  · cases created
  split at created
  · cases created
  split at created
  · cases created
  split at created
  · cases created
  next expectation _ =>
  cases created
  exact ⟨expectation, rfl⟩

omit [StdSort] in
/-- A sound configuration whose expectation is canonical makes a controller as it is. -/
theorem create_construct {config : ControllerConfig} (nonce : BootNonce)
    (site : config.site.valid = true) (ttl : ¬ config.leaseTtlMs ≤ 0)
    (connections : config.maxConnections ≠ 0 ∧ config.maxConnections ≤ Limits.maxConnections)
    (history : config.snapshotHistory ≤ Limits.maxSnapshotHistory)
    (named : config.expectation.site.isEmpty = false)
    (listed : config.expectation.canonicalize = .ok config.expectation) :
    create config nonce = .ok (construct config nonce) := by
  unfold create
  rw [if_neg (by simp [site]), if_neg ttl, if_neg (by omega), if_neg (by omega)]
  dsimp only
  rw [if_neg (by simp [named]), listed]
  rfl

omit [StdSort] in
theorem create_fresh {config : ControllerConfig} {nonce : BootNonce} {c : SiteController}
    (created : create config nonce = .ok c) : c.Fresh := by
  obtain ⟨expectation, rfl⟩ := create_ok created
  refine ⟨fun domain => ?_, rfl, rfl, fun domain record found => ?_⟩
  · exact congrArg (fun state : Option DomainState => state.getD {}) (lookup_empty domain)
  · have none : (∅ : Publications)[domain]? = none := lookup_empty domain
    rw [construct] at found
    rw [none] at found
    cases found

end SiteController

end SiteFabric
