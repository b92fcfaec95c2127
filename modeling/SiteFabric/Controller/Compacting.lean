import SiteFabric.Controller.Recovery

/-! What a start makes of a store that was compacted.
Recovery and compaction each choose one publication for a domain, by rules of
their own, and the acceptance mark is the highest of those on file. The file that
compaction leaves gives the same state exactly where the two choices agree. -/

namespace SiteFabric

open Lib Lib.Reader Authority Store
open Std (ExtTreeMap)

/-- A record of the highest generation its domain has on file. -/
def Foremost (records : List MemberPublicationRecord) (record : MemberPublicationRecord) : Prop :=
  record ∈ records ∧ ∀ other ∈ records, other.domain = record.domain →
    other.generation ≤ record.generation

/-- In every domain the first record of the highest generation is also the last
accepted of them, and the highest acceptance mark is on a record of the highest
generation of its domain. -/
structure Settled (records : List MemberPublicationRecord) : Prop where
  first : ∀ record first, Foremost records record →
    records.find? (fun other => decide (other.domain = record.domain ∧
      other.generation = record.generation)) = some first →
    record.acceptanceSequence ≤ first.acceptanceSequence
  marked : ∀ record ∈ records, ∃ foremost, Foremost records foremost ∧
    record.acceptanceSequence ≤ foremost.acceptanceSequence

instance (records : List MemberPublicationRecord) (record : MemberPublicationRecord) :
    Decidable (Foremost records record) := inferInstanceAs (Decidable (_ ∧ _))

instance (records : List MemberPublicationRecord) : Decidable (Settled records) :=
  decidable_of_iff
    ((∀ record ∈ records, Foremost records record →
        ∀ first ∈ records.find? (fun other => decide (other.domain = record.domain ∧
          other.generation = record.generation)),
          record.acceptanceSequence ≤ first.acceptanceSequence) ∧
      ∀ record ∈ records, ∃ foremost ∈ records, Foremost records foremost ∧
        record.acceptanceSequence ≤ foremost.acceptanceSequence)
    ⟨fun both => ⟨fun record first foremost found => both.1 record foremost.1 foremost first found,
        fun record listed =>
          have ⟨foremost, _, marked⟩ := both.2 record listed
          ⟨foremost, marked⟩⟩,
      fun settled => ⟨fun record _ foremost first found => settled.first record first foremost found,
        fun record listed =>
          have ⟨foremost, marked⟩ := settled.marked record listed
          ⟨foremost, marked.1.1, marked⟩⟩⟩

/-- The rank by which compaction chooses. -/
def newness (record : MemberPublicationRecord) : Generation ×ₗ Nat :=
  toLex (record.generation, record.acceptanceSequence.toNat)

theorem takePublications_select (records : List MemberPublicationRecord) :
    takePublications ∅ records = select (·.domain) (·.generation) records := by
  unfold takePublications select
  congr 1
  funext held record
  unfold takePublication consider
  cases held[record.domain]? with
  | none => rfl
  | some found => exact if_congr Iff.rfl rfl rfl

theorem newestPublication_select (records : List MemberPublicationRecord) :
    newestPublication records = select (·.domain) newness records := by
  unfold newestPublication select
  congr 1
  funext held record
  unfold consider
  cases held[record.domain]? with
  | none => rfl
  | some found =>
    refine if_congr ?_ rfl rfl
    rw [newness, newness, Prod.Lex.toLex_lt_toLex, UInt64.lt_iff_toNat_lt]

theorem generation_le_of_newness {a b : MemberPublicationRecord} (le : newness a ≤ newness b) :
    a.generation ≤ b.generation ∧
      (a.generation = b.generation → a.acceptanceSequence ≤ b.acceptanceSequence) := by
  rw [newness, newness, Prod.Lex.toLex_le_toLex, ← UInt64.le_iff_toNat_le] at le
  rcases le with below | ⟨same, mark⟩
  · exact ⟨below.le, fun same => absurd same below.ne⟩
  · exact ⟨same.le, fun _ => mark⟩

/-- What compaction keeps for a domain leads it, and was accepted last of those
that do. -/
theorem newest_foremost {records : List MemberPublicationRecord} {domain : MemberDomainKey}
    {record : MemberPublicationRecord}
    (found : (newestPublication records)[domain]? = some record) :
    Foremost records record ∧ record.domain = domain ∧
      ∀ other ∈ records, other.domain = domain → other.generation = record.generation →
        other.acceptanceSequence ≤ record.acceptanceSequence := by
  have leads := select_leads (·.domain) newness records domain
  rw [newestPublication_select] at found
  rw [found] at leads
  obtain ⟨member, named, top⟩ := leads
  refine ⟨⟨member, fun other listed same => ?_⟩, named, fun other listed same level => ?_⟩
  · exact (generation_le_of_newness (top other listed (same.trans named))).1
  · exact (generation_le_of_newness (top other listed same)).2 level

theorem taken_foremost {records : List MemberPublicationRecord} {domain : MemberDomainKey}
    {record : MemberPublicationRecord}
    (found : (takePublications ∅ records)[domain]? = some record) :
    Foremost records record ∧ record.domain = domain := by
  have leads := select_leads (·.domain) (·.generation) records domain
  rw [takePublications_select] at found
  rw [found] at leads
  obtain ⟨member, named, top⟩ := leads
  exact ⟨⟨member, fun other listed same => top other listed (same.trans named)⟩, named⟩

/-- Recovery takes the first record of the highest generation. -/
theorem taken_first {records : List MemberPublicationRecord} {domain : MemberDomainKey}
    {record : MemberPublicationRecord}
    (found : (takePublications ∅ records)[domain]? = some record) :
    records.find? (fun other => decide (other.domain = domain ∧
      other.generation = record.generation)) = some record := by
  rw [takePublications_select] at found
  exact select_first_of found _ fun other => decide_eq_true_iff

theorem Foremost.taken {records : List MemberPublicationRecord} {record : MemberPublicationRecord}
    (foremost : Foremost records record) :
    ∃ first, (takePublications ∅ records)[record.domain]? = some first ∧
      first.generation = record.generation := by
  have leads := select_leads (·.domain) (·.generation) records record.domain
  rw [← takePublications_select] at leads
  cases found : (takePublications ∅ records)[record.domain]? with
  | none =>
    rw [found] at leads
    exact absurd rfl (leads record foremost.1)
  | some first =>
    obtain ⟨top, named⟩ := taken_foremost found
    exact ⟨first, rfl, le_antisymm (foremost.2 first top.1 named) (top.2 record foremost.1 named.symm)⟩

/-- Recovery chooses as compaction does exactly where the first record of each
highest generation was accepted last. -/
theorem taken_eq_newest_iff (records : List MemberPublicationRecord) :
    takePublications ∅ records = newestPublication records ↔
      ∀ record first, Foremost records record →
        records.find? (fun other => decide (other.domain = record.domain ∧
          other.generation = record.generation)) = some first →
        record.acceptanceSequence ≤ first.acceptanceSequence := by
  constructor
  · intro same record first foremost found
    obtain ⟨taken, held, level⟩ := foremost.taken
    have again := taken_first held
    rw [level, found] at again
    cases again
    rw [same] at held
    exact (newest_foremost held).2.2 record foremost.1 rfl level.symm
  · intro first
    refine ext_lookup fun domain => ?_
    have leads := select_leads (·.domain) (·.generation) records domain
    rw [← takePublications_select] at leads
    cases found : (takePublications ∅ records)[domain]? with
    | none =>
      rw [found] at leads
      cases kept : (newestPublication records)[domain]? with
      | none => rfl
      | some record =>
        obtain ⟨foremost, named, -⟩ := newest_foremost kept
        exact absurd named (leads record foremost.1)
    | some taken =>
      obtain ⟨foremost, named⟩ := taken_foremost found
      obtain ⟨newest, kept⟩ := newestPublication_isSome foremost.1
      rw [named] at kept
      obtain ⟨top, here, last⟩ := newest_foremost kept
      have level : newest.generation = taken.generation := le_antisymm
        (foremost.2 newest top.1 (here.trans named.symm)) (top.2 taken foremost.1 (named.trans here.symm))
      have chosen := taken_first found
      have below : newest.acceptanceSequence ≤ taken.acceptanceSequence :=
        first newest taken top (by rw [here, level]; exact chosen)
      have mark : newest.acceptanceSequence = taken.acceptanceSequence :=
        UInt64.le_antisymm below (last taken foremost.1 named level.symm)
      rw [newestPublication_select] at kept ⊢
      have other := select_first_of kept
        (fun record => decide (record.domain = domain ∧ record.generation = taken.generation ∧
          record.acceptanceSequence = taken.acceptanceSequence)) fun record => by
        rw [decide_eq_true_iff, ← mark, ← level, newness, newness, toLex_inj, Prod.mk.injEq,
          UInt64.toNat_inj]
      rw [kept, ← other]
      refine (find?_sharper chosen (fun record passed => ?_) ?_).symm
      · have all := of_decide_eq_true passed
        exact decide_eq_true ⟨all.1, all.2.1⟩
      · exact decide_eq_true ⟨named, rfl, rfl⟩

/-! The acceptance mark. -/

theorem acceptance_le_highest {records : List MemberPublicationRecord}
    {record : MemberPublicationRecord} (listed : record ∈ records) :
    record.acceptanceSequence ≤ highestAcceptance records :=
  @value_le_foldl_highest MemberPublicationRecord UInt64 _ _ _ _ _ _ (fun _ => True) _
    (fun record => record.acceptanceSequence) (fun _ _ => by simp only [true_and]) records record
    trivial listed 0

theorem highestAcceptance_cases (records : List MemberPublicationRecord) :
    highestAcceptance records = 0 ∨
      ∃ record ∈ records, highestAcceptance records = record.acceptanceSequence := by
  have cases := @foldl_highest_cases MemberPublicationRecord UInt64 _ _
    (fun highest record => if highest < record.acceptanceSequence then record.acceptanceSequence
      else highest) (fun _ => True) _ (fun record => record.acceptanceSequence)
    (fun _ _ => by simp only [true_and]) records 0
  exact cases.imp_right fun ⟨record, listed, _, same⟩ => ⟨record, listed, same⟩

/-- The mark survives where a record that leads its domain carries it. -/
theorem highest_eq_newest_iff {records items : List MemberPublicationRecord}
    (perm : items.Perm ((newestPublication records).toList.map Prod.snd)) :
    highestAcceptance records = highestAcceptance items ↔
      ∀ record ∈ records, ∃ foremost, Foremost records foremost ∧
        record.acceptanceSequence ≤ foremost.acceptanceSequence := by
  have kept : ∀ {record}, record ∈ items → Foremost records record := fun {record} listed => by
    obtain ⟨⟨domain, newest⟩, entry, rfl⟩ := List.mem_map.mp (perm.mem_iff.mp listed)
    exact (newest_foremost (mem_toList_iff.mp entry)).1
  have held : ∀ {record}, Foremost records record → ∃ newest ∈ items,
      record.acceptanceSequence ≤ newest.acceptanceSequence := fun {record} foremost => by
    obtain ⟨newest, found⟩ := newestPublication_isSome foremost.1
    obtain ⟨top, named, last⟩ := newest_foremost found
    refine ⟨newest, perm.mem_iff.mpr (List.mem_map.mpr ⟨(_, newest), mem_toList_iff.mpr found, rfl⟩),
      last record foremost.1 rfl ?_⟩
    exact le_antisymm (top.2 record foremost.1 named.symm) (foremost.2 newest top.1 named)
  constructor
  · intro same record listed
    have below := acceptance_le_highest listed
    rw [same] at below
    rcases highestAcceptance_cases items with zero | ⟨newest, member, mark⟩
    · obtain ⟨newest, found⟩ := newestPublication_isSome listed
      have least : record.acceptanceSequence ≤ newest.acceptanceSequence :=
        Std.le_trans (zero ▸ below) (UInt64.zero_le)
      exact ⟨newest, (newest_foremost found).1, least⟩
    · exact ⟨newest, kept member, mark ▸ below⟩
  · intro marked
    refine Std.le_antisymm ?_ ?_
    · rcases highestAcceptance_cases records with zero | ⟨record, listed, mark⟩
      · rw [zero]
        exact UInt64.zero_le
      · obtain ⟨foremost, top, below⟩ := marked record listed
        obtain ⟨newest, member, above⟩ := held top
        rw [mark]
        exact Std.le_trans below (Std.le_trans above (acceptance_le_highest member))
    · rcases highestAcceptance_cases items with zero | ⟨newest, member, mark⟩
      · rw [zero]
        exact UInt64.zero_le
      · rw [mark]
        exact acceptance_le_highest (kept member).1

/-! The snapshot. -/

/-- A snapshot that a chain without one takes from a file. -/
def Restorable (s : SiteSnapshot) : Prop :=
  s.site.valid = true ∧ s.epoch.isSet = true ∧ s.sequence ≠ 0

instance (s : SiteSnapshot) : Decidable (Restorable s) := inferInstanceAs (Decidable (_ ∧ _))

theorem restore_eq {chain : SnapshotChain} {s : SiteSnapshot} (blank : chain.current = none)
    (verified : composedSiteDigest s.state = s.siteDigest)
    (undigested : s.snapshotDigest = Digest.zero) :
    (chain.restore s).1 = if Restorable s then .ok else .invalid := by
  have zero : Digest.zero.isZero = true := by decide
  unfold SnapshotChain.restore
  by_cases good : Restorable s
  · rw [if_pos good, if_neg (by simpa [Restorable, and_assoc] using good), if_neg (not_not.mpr verified),
      if_neg (by rw [undigested, zero]; simp), blank]
  · rw [if_neg good, if_pos]
    unfold Restorable at good
    simp only [not_and_or, not_not] at good
    rcases good with site | epoch | sequence
    · simp [site]
    · simp [epoch]
    · simp [sequence]

namespace Store

variable [StdSort]

/-- The last of the snapshots compaction keeps, once they are sorted again. -/
def lastKept (config : StoreConfig) (contents : StoreContents) : SiteSnapshot :=
  (sort (byKey (·.sequence.toNat))
    ((contents.snapshotHistory.drop (SiteStore.firstKept config contents)).map
      Codec.snapshotBody.stored)).getLast?.getD {}

end Store

namespace SiteController

variable [StdSort]

/-- What a start derives from a store: the outcome, and the state it takes over. -/
def derived (c : SiteController) (store : SiteStore) :
    Status × Epoch × Generation × Publications × UInt64 × List MemberRetirementRecord :=
  let read := c.read store
  (read.1, read.2.epoch, read.2.siteGeneration, read.2.publications, read.2.acceptanceSequence,
    read.2.retirements)

/-- The same of contents, for a controller that holds nothing. -/
def takenOver (contents : StoreContents) :
    Status × Epoch × Generation × Publications × UInt64 × List MemberRetirementRecord :=
  if contents.hasSnapshot = true → Restorable contents.latestSnapshot then
    (.ok, raiseEpoch contents.latestSnapshot.epoch contents.leases,
      contents.latestSnapshot.generation, takePublications ∅ contents.publications,
      highestAcceptance contents.publications, contents.retirements)
  else (.invalid, {}, {}, ∅, 0, [])

theorem derived_eq {config : ControllerConfig} {nonce : BootNonce} {c : SiteController}
    (created : create config nonce = .ok c) {store : SiteStore}
    (loaded : recovers store.load.recovery.status = true) (gathered : store.load.Gathered)
    (verified : ∀ s ∈ store.load.snapshotHistory, composedSiteDigest s.state = s.siteDigest ∧
      s.snapshotDigest = Digest.zero) : c.derived store = takenOver store.load := by
  obtain ⟨expectation, rfl⟩ := create_ok created
  unfold derived read takenOver
  dsimp only
  rw [if_pos loaded]
  unfold recover takeSnapshot
  rcases gathered.latest_cases with ⟨listed, has⟩ | ⟨latest, has⟩
  · obtain ⟨state, undigested⟩ := verified _ listed
    simp only [has, Bool.not_true, Bool.false_eq_true, if_false, true_imp_iff]
    rw [restore_eq (by rfl) state undigested]
    by_cases good : Restorable store.load.latestSnapshot
    · simp only [if_pos good]
      rfl
    · simp only [if_neg good]
      rfl
  · simp only [has, latest, Bool.not_false, if_true, Bool.false_eq_true, false_imp_iff]
    rfl

end SiteController

/-- When compaction leaves what a start derives: the snapshot that comes last once
the history is cut back is taken as the last one is, and gives the same epoch and
generation; and recovery chooses among the publications as compaction does. -/
structure Agrees [StdSort] (config : StoreConfig) (contents : StoreContents) : Prop where
  taken : contents.hasSnapshot = true →
    (Restorable contents.latestSnapshot ↔ Restorable (lastKept config contents))
  same : (contents.hasSnapshot = true → Restorable contents.latestSnapshot) →
    raiseEpoch contents.latestSnapshot.epoch contents.leases =
        raiseEpoch (lastKept config contents).epoch contents.leases ∧
      contents.latestSnapshot.generation = (lastKept config contents).generation ∧
      Settled contents.publications

namespace Store

theorem firstKept_lt {config : StoreConfig} {contents : StoreContents}
    (some : contents.snapshotHistory ≠ []) :
    SiteStore.firstKept config contents < contents.snapshotHistory.length := by
  have positive := List.length_pos_iff.mpr some
  have limit : 0 < SiteStore.historyLimit config := by
    unfold SiteStore.historyLimit
    split
    · decide
    · omega
  have unfolded : SiteStore.firstKept config contents =
      if contents.snapshotHistory.length > SiteStore.historyLimit config then
        contents.snapshotHistory.length - SiteStore.historyLimit config else 0 := rfl
  rw [unfolded]
  split <;> omega

end Store

/-- Contents that a compaction of other contents leaves, as far as a start reads
them. -/
structure Keeps [StdSort] (config : StoreConfig) (contents kept : StoreContents) : Prop where
  has : kept.hasSnapshot = contents.hasSnapshot
  latest : kept.latestSnapshot = lastKept config contents
  publications : kept.publications.Perm
    ((newestPublication contents.publications).toList.map Prod.snd)
  retirements : kept.retirements = contents.retirements
  leases : kept.leases = contents.leases

theorem keeps_collect [StdSort] (config : StoreConfig) {contents : StoreContents}
    (gathered : contents.Gathered) (report : StoreRecoveryReport) :
    Keeps config contents
      (collect (byKind
        ((contents.snapshotHistory.drop (SiteStore.firstKept config contents)).map
          Codec.snapshotBody.stored)
        ((newestPublication contents.publications).toList.map Prod.snd) contents.retirements
        contents.tombstones contents.leases) report) := by
  refine ⟨?_, ?_, ?_, retirements_byKind .., leases_byKind ..⟩
  · unfold collect
    dsimp only
    rw [snapshots_byKind, gathered.has, Bool.not_inj_iff, Bool.eq_iff_iff, List.isEmpty_iff,
      List.isEmpty_iff, ← List.length_eq_zero_iff, (StdSort.perm _ _).length_eq, List.length_map,
      List.length_drop]
    constructor
    · intro none
      by_contra some
      have least : SiteStore.firstKept config contents < contents.snapshotHistory.length :=
        firstKept_lt some
      omega
    · intro none
      rw [none, List.length_nil, Nat.zero_sub]
  · unfold collect lastKept
    dsimp only
    rw [snapshots_byKind]
  · unfold collect
    dsimp only
    rw [publications_byKind]
    exact stableSort_perm _ _

theorem Keeps.takenOver_iff [StdSort] {config : StoreConfig} {contents kept : StoreContents}
    (keeps : Keeps config contents kept) :
    SiteController.takenOver kept = SiteController.takenOver contents ↔ Agrees config contents := by
  have chosen : takePublications ∅ kept.publications = newestPublication contents.publications := by
    rw [takePublications_select]
    exact select_values keeps.publications fun _ _ found => (newestPublication_mem found).2
  have marks := highest_eq_newest_iff keeps.publications
  have records : (takePublications ∅ kept.publications =
        takePublications ∅ contents.publications ∧
      highestAcceptance kept.publications = highestAcceptance contents.publications) ↔
        Settled contents.publications := by
    rw [chosen, eq_comm, taken_eq_newest_iff, eq_comm (a := highestAcceptance kept.publications),
      marks]
    exact ⟨fun both => ⟨both.1, both.2⟩, fun settled => ⟨settled.first, settled.marked⟩⟩
  unfold SiteController.takenOver
  rw [keeps.has, keeps.latest, keeps.leases, keeps.retirements]
  by_cases before : contents.hasSnapshot = true → Restorable contents.latestSnapshot
  · by_cases after : contents.hasSnapshot = true → Restorable (lastKept config contents)
    · rw [if_pos before, if_pos after]
      simp only [Prod.mk.injEq, true_and, and_true]
      constructor
      · rintro ⟨epoch, generation, publications, mark⟩
        exact ⟨fun has => iff_of_true (before has) (after has),
          fun _ => ⟨epoch.symm, generation.symm, records.mp ⟨publications, mark⟩⟩⟩
      · intro agrees
        obtain ⟨epoch, generation, settled⟩ := agrees.same before
        obtain ⟨publications, mark⟩ := records.mpr settled
        exact ⟨epoch.symm, generation.symm, publications, mark⟩
    · rw [if_pos before, if_neg after]
      refine iff_of_false (fun same => ?_) fun agrees => after fun has =>
        (agrees.taken has).mp (before has)
      have clash : Status.invalid = Status.ok := congrArg Prod.fst same
      cases clash
  · by_cases after : contents.hasSnapshot = true → Restorable (lastKept config contents)
    · rw [if_neg before, if_pos after]
      refine iff_of_false (fun same => ?_) fun agrees => before fun has =>
        (agrees.taken has).mpr (after has)
      have clash : Status.ok = Status.invalid := congrArg Prod.fst same
      cases clash
    · rw [if_neg before, if_neg after]
      refine iff_of_true rfl ⟨fun has => iff_of_false ?_ ?_, fun all => absurd all before⟩
      · exact fun good => before fun _ => good
      · exact fun good => after fun _ => good

/-- What a start derives from a store over an intact file, and once it has been
compacted. -/
theorem derived_compact [StdSort] {config : ControllerConfig} {nonce : BootNonce}
    {c : SiteController} {s : SiteStore} {io : Answers} {image : List UInt8}
    (created : SiteController.create config nonce = .ok c) (file : s.file = some image)
    (bounded : s.config.maxBytes ≤ Limits.maxMaxStoreBytes)
    (intact : (scanImage image).1.recovery.status = .ok) (ok : (s.compact io).1 = .ok) :
    ∃ kept, Keeps s.config (scanImage image).1 kept ∧
      c.derived s = SiteController.takenOver (scanImage image).1 ∧
      c.derived (s.compact io).2.1 = SiteController.takenOver kept := by
  obtain ⟨head, segments, headed, split⟩ := ok_layout intact
  rcases SiteStore.compact_cases s io with ⟨failed, -⟩ | ⟨failed, -⟩ | ⟨-, read, room, after⟩
  · rw [ok] at failed
    cases failed
  · rw [ok] at failed
    cases failed
  have loaded : readFile s.file = (scanImage image).1 := by
    rw [file, readFile]
    rw [file, readFile] at read
    split at read
    · rcases read with bad | bad <;> cases bad
    · next within => rw [if_neg within]
  obtain ⟨report, accepts⟩ : ∃ report, (scanImage image).1 = collect (accepted segments) report := by
    rw [split, scanImage_clean headed]
    exact ⟨_, rfl⟩
  have before : s.load = (scanImage image).1 := loaded
  generalize (scanImage image).1 = contents at *
  rw [loaded] at room after
  obtain ⟨clean, scan, status⟩ := SiteStore.scanImage_compacted s.config segments report accepts
  have file' : (s.compact io).2.1.file = some (SiteStore.compactedImage s.config contents) := by
    rw [after]
  have kept := SiteStore.load_eq file' (room.trans bounded)
  rw [scan] at kept
  have gathered : contents.Gathered := by
    rw [accepts]
    exact gathered_collect _ _
  have history : ∀ t ∈ contents.snapshotHistory, Content.snapshot t ∈ accepted segments := by
    intro t listed
    rw [accepts] at listed
    obtain ⟨content, among, made⟩ := List.mem_filterMap.mp (mem_sort.mp listed)
    cases content <;> cases made
    exact among
  have first : c.derived s = SiteController.takenOver s.load := by
    refine SiteController.derived_eq created ?_ (before ▸ gathered) fun t listed => ?_
    · rw [before, intact]
      rfl
    · exact snapshot_accepted (history t (before ▸ listed))
  have second : c.derived (s.compact io).2.1 =
      SiteController.takenOver (s.compact io).2.1.load := by
    refine SiteController.derived_eq created ?_ ?_ fun t listed => ?_
    · rw [kept]
      exact congrArg recovers status
    · rw [kept]
      exact gathered_collect _ _
    · rw [kept] at listed
      have among := mem_sort.mp listed
      rw [snapshots_byKind] at among
      obtain ⟨origin, member, rfl⟩ := List.mem_map.mp among
      have recoverable := (mem_accepted (history origin (List.mem_of_mem_drop member))).recoverable
      have verifies := (Bool.and_eq_true_iff.mp recoverable).2
      exact ⟨by simpa [stateVerifies, Content.stored] using verifies, rfl⟩
  rw [before] at first
  exact ⟨_, keeps_collect s.config gathered clean, first, second.trans (congrArg _ kept)⟩

/-- What a start derives from a store over an intact file is the same before and
after a compaction exactly under the condition above. -/
theorem compaction_keeps_recovery_iff [StdSort] {config : ControllerConfig} {nonce : BootNonce}
    {c : SiteController} (s : SiteStore) (io : Answers) (image : List UInt8)
    (created : SiteController.create config nonce = .ok c) (file : s.file = some image)
    (bounded : s.config.maxBytes ≤ Limits.maxMaxStoreBytes)
    (intact : (scanImage image).1.recovery.status = .ok) (ok : (s.compact io).1 = .ok) :
    c.derived (s.compact io).2.1 = c.derived s ↔ Agrees s.config (scanImage image).1 := by
  obtain ⟨kept, keeps, before, after⟩ := derived_compact created file bounded intact ok
  rw [before, after]
  exact keeps.takenOver_iff

/-- Where no other snapshot of the history has the highest sequence, the last one
stays the last. -/
theorem lastKept_of_distinct [StdSort] (config : StoreConfig) (xs : List Content)
    (report : StoreRecoveryReport) {latest : SiteSnapshot}
    (last : (collect xs report).snapshotHistory.getLast? = some latest)
    (distinct : ∀ s ∈ (collect xs report).snapshotHistory,
      s.sequence = latest.sequence → s = latest) :
    lastKept config (collect xs report) = Codec.snapshotBody.stored latest := by
  have least : SiteStore.firstKept config (collect xs report) <
      (collect xs report).snapshotHistory.length := firstKept_lt (List.ne_nil_of_mem (List.mem_of_getLast? last))
  have kept : latest ∈ (collect xs report).snapshotHistory.drop
      (SiteStore.firstKept config (collect xs report)) := by
    refine List.mem_of_getLast? ?_
    rw [List.getLast?_drop, if_neg (by omega), last]
  have listed := List.mem_map_of_mem (f := Codec.snapshotBody.stored) kept
  unfold lastKept
  cases ends : (sort (byKey (·.sequence.toNat)) (((collect xs report).snapshotHistory.drop
      (SiteStore.firstKept config (collect xs report))).map Codec.snapshotBody.stored)).getLast? with
  | none =>
    rw [List.getLast?_eq_none_iff] at ends
    rw [← mem_sort_byKey (fun s : SiteSnapshot => s.sequence.toNat), ends] at listed
    exact absurd listed List.not_mem_nil
  | some top =>
    have above := le_getLast_sort ends listed
    have among := (mem_sort_byKey _).mp (List.mem_of_getLast? ends)
    obtain ⟨origin, member, rfl⟩ := List.mem_map.mp among
    have here := List.mem_of_mem_drop member
    have below := le_getLast_sort last (mem_sort.mp here)
    have same : origin.sequence = latest.sequence :=
      UInt64.toNat_inj.mp (Nat.le_antisymm below above)
    rw [distinct origin here same]
    rfl

/-- A store that holds the given records, behind its header. -/
def SiteStore.holding (contents : List Content) : SiteStore where
  config := sampleConfig
  handle := true
  file := some (makeFileHeader ++ contents.flatMap Content.record)

theorem scan_holding [StdSort] {contents : List Content}
    (recoverable : ∀ c ∈ contents, c.recoverable = true)
    (fits : ∀ c ∈ contents, c.payload.length ≤ Limits.maxRecordPayloadBytes) :
    ∃ report, (scanImage (makeFileHeader ++ contents.flatMap Content.record)).1 =
      collect (contents.map Content.stored) report ∧ report.status = .ok := by
  obtain ⟨segments, bytes, values, -⟩ := exists_segments recoverable fits
  rw [← bytes, scanImage_clean makeFileHeader_headed, values]
  exact ⟨_, rfl, rfl⟩

/-- A store is compacted when what it keeps fits. -/
theorem compact_holding [StdSort] {contents : List Content}
    (recoverable : ∀ c ∈ contents, c.recoverable = true)
    (fits : ∀ c ∈ contents, c.payload.length ≤ Limits.maxRecordPayloadBytes)
    (short : fileHeaderBytes + (contents.map fun c => recordHeaderBytes + c.payload.length).sum ≤
      Limits.maxMaxStoreBytes)
    (room : fileHeaderBytes +
      ((SiteStore.kept sampleConfig (collect (contents.map Content.stored) {})).map fun c =>
        recordHeaderBytes + c.payload.length).sum ≤ sampleConfig.maxBytes) :
    ((SiteStore.holding contents).compact {}).1 = .ok := by
  obtain ⟨segments, bytes, values, -⟩ := exists_segments recoverable fits
  have size : makeFileHeader.length = fileHeaderBytes := makeFileHeader_headed.size
  obtain ⟨report, loaded, status⟩ : ∃ report, readFile (SiteStore.holding contents).file =
      collect (accepted segments) report ∧ report.status = .ok := by
    rw [SiteStore.holding, readFile, if_neg, ← bytes, scanImage_clean makeFileHeader_headed]
    · exact ⟨_, rfl, rfl⟩
    · rw [List.length_append, length_records fits, size]
      omega
  have among : ∀ c ∈ SiteStore.kept sampleConfig (collect (accepted segments) {}),
      c.payload.length ≤ Limits.maxRecordPayloadBytes := fun c member =>
    (mem_accepted ((held_collect _ _).mem_iff.mp (SiteStore.mem_kept member))).fits
  rw [← values, ← length_records among, ← size, ← List.length_append] at room
  have path : sampleConfig.path.isEmpty = false := by decide
  refine SiteStore.compact_ok path ?_ ?_ rfl
  · rw [loaded]
    exact status
  · rw [loaded]
    exact room

/-- The publication of a rack with the given generation and acceptance mark. -/
def MemberPublicationRecord.sample (generation mark : UInt64) : MemberPublicationRecord where
  domain := ⟨.rack, ascii "rack-1"⟩
  generation := ⟨generation⟩
  site := ⟨ascii "site-1"⟩
  observedEpoch := ⟨1⟩
  incarnation := ⟨1, ⟨ascii "boot-a"⟩⟩
  publisher := ⟨ascii "member-1"⟩
  attempt := ⟨1, mark.toUInt32⟩
  acceptanceSequence := mark

theorem sample_recoverable : ∀ c ∈ [Content.publication (.sample 1 1), .publication (.sample 1 2),
    .publication (.sample 2 2)], c.recoverable = true ∧
      c.payload.length ≤ Limits.maxRecordPayloadBytes := by decide +kernel

/-- Compaction drops the first of two generations, and a start sees no difference. -/
theorem compaction_keeps_later_generation :
    let s := SiteStore.holding [.publication (.sample 1 1), .publication (.sample 2 2)]
    SiteController.stored.derived (s.compact {}).2.1 = SiteController.stored.derived s := by
  have all : ∀ c ∈ [Content.publication (.sample 1 1), .publication (.sample 2 2)],
      c.recoverable = true ∧ c.payload.length ≤ Limits.maxRecordPayloadBytes :=
    fun c member => sample_recoverable c (by simp only [List.mem_cons] at member ⊢; tauto)
  have recoverable := fun c member => (all c member).1
  have fits := fun c member => (all c member).2
  obtain ⟨report, scanned, status⟩ := scan_holding recoverable fits
  refine (compaction_keeps_recovery_iff _ {} _ SiteController.stored_created rfl (by decide +kernel)
    ?_ ?_).mpr ?_
  · rw [scanned]
    exact status
  · exact compact_holding recoverable fits (by decide +kernel) (by decide +kernel)
  · rw [scanned]
    refine ⟨fun has => ?_, fun _ => ⟨rfl, rfl, ?_⟩⟩
    · cases has
    · exact of_decide_eq_true (by rfl)

/-- A generation is published again under a second attempt. A start takes the first
record, and the second one once the file has been compacted. -/
theorem compaction_takes_second_attempt :
    let s := SiteStore.holding [.publication (.sample 1 1), .publication (.sample 1 2)]
    s.load.recovery.status = .ok ∧ (s.compact {}).1 = .ok ∧
      SiteController.stored.derived (s.compact {}).2.1 ≠ SiteController.stored.derived s := by
  have all : ∀ c ∈ [Content.publication (.sample 1 1), .publication (.sample 1 2)],
      c.recoverable = true ∧ c.payload.length ≤ Limits.maxRecordPayloadBytes :=
    fun c member => sample_recoverable c (by simp only [List.mem_cons] at member ⊢; tauto)
  have recoverable := fun c member => (all c member).1
  have fits := fun c member => (all c member).2
  obtain ⟨report, scanned, status⟩ := scan_holding recoverable fits
  have ok := compact_holding recoverable fits (by decide +kernel) (by decide +kernel)
  have intact : (scanImage (makeFileHeader ++ [.publication (.sample 1 1),
      .publication (.sample 1 2)].flatMap Content.record)).1.recovery.status = .ok := by
    rw [scanned]
    exact status
  obtain ⟨kept, keeps, before, after⟩ := derived_compact SiteController.stored_created rfl
    (by decide +kernel) intact ok
  refine ⟨?_, ok, fun same => ?_⟩
  · rw [SiteStore.load_eq rfl, intact]
    rw [List.length_append, length_records fits, makeFileHeader_headed.size]
    decide +kernel
  · rw [before, after, keeps.takenOver_iff, scanned] at same
    exact absurd (same.same nofun).2.2 (of_decide_eq_false (by rfl))

end SiteFabric
