import SiteFabric.Store.Appends

/-! What compaction writes, and what a scan makes of it.
Everything compaction keeps was decoded from the file it replaces, so it is
written in no more room and read again; only a snapshot may come back changed,
in parts that are counted and not written. -/

namespace SiteFabric.Store

open Lib Lib.Reader
open Std (ExtTreeMap)

/-! One publication a domain. -/

/-- The publication that replaces another of its domain when compaction meets it. -/
def supersedes (found record : MemberPublicationRecord) : Prop :=
  found.generation < record.generation ∨
    (found.generation = record.generation ∧ found.acceptanceSequence < record.acceptanceSequence)

instance (found record : MemberPublicationRecord) : Decidable (supersedes found record) :=
  inferInstanceAs (Decidable (_ ∨ _))

theorem newestPublication_snoc (publications : List MemberPublicationRecord)
    (record : MemberPublicationRecord) (domain : MemberDomainKey) :
    (newestPublication (publications ++ [record]))[domain]? =
      if record.domain = domain ∧ ∀ found, (newestPublication publications)[domain]? = some found →
          supersedes found record then some record
      else (newestPublication publications)[domain]? := by
  have fold : newestPublication publications = publications.foldl _ ∅ := rfl
  rw [newestPublication, List.foldl_append, List.foldl_cons, List.foldl_nil, ← fold]
  clear fold
  by_cases here : record.domain = domain
  · subst here
    cases found : (newestPublication publications)[record.domain]? with
    | none => simp
    | some other =>
      change (if supersedes other record then
        (newestPublication publications).insert record.domain record
        else newestPublication publications)[record.domain]? = _
      by_cases newer : supersedes other record
      · simp [newer]
      · simp [newer, found]
  · have apart : ((newestPublication publications).insert record.domain record)[domain]? =
        (newestPublication publications)[domain]? := by
      rw [lookup_insert, if_neg here]
    rw [if_neg (fun both => here both.1)]
    cases found : (newestPublication publications)[record.domain]? with
    | none => exact apart
    | some other =>
      dsimp only
      split
      · exact apart
      · rfl

/-- What is kept for a domain is one of its publications. -/
theorem newestPublication_mem {publications : List MemberPublicationRecord}
    {domain : MemberDomainKey} {record : MemberPublicationRecord}
    (found : (newestPublication publications)[domain]? = some record) :
    record ∈ publications ∧ record.domain = domain := by
  induction publications using List.reverseRecOn with
  | nil =>
    have empty : (newestPublication [])[domain]? = none := lookup_empty domain
    rw [empty] at found
    cases found
  | append_singleton publications last ih =>
    rw [newestPublication_snoc] at found
    split at found
    · next newer =>
      cases found
      exact ⟨List.mem_append_right _ (List.mem_singleton_self _), newer.1⟩
    · obtain ⟨member, same⟩ := ih found
      exact ⟨List.mem_append_left _ member, same⟩

/-- A domain that has published is not forgotten. -/
theorem newestPublication_isSome {publications : List MemberPublicationRecord}
    {record : MemberPublicationRecord} (member : record ∈ publications) :
    ∃ newest, (newestPublication publications)[record.domain]? = some newest := by
  induction publications using List.reverseRecOn with
  | nil => exact absurd member List.not_mem_nil
  | append_singleton publications last ih =>
    rw [newestPublication_snoc]
    split
    · exact ⟨last, rfl⟩
    · next older =>
      rcases List.mem_append.mp member with before | here
      · exact ih before
      · obtain rfl := List.mem_singleton.mp here
        by_contra none
        refine older ⟨rfl, fun found held => absurd ⟨found, held⟩ none⟩

theorem newestPublication_values (publications : List MemberPublicationRecord) :
    ((newestPublication publications).toList.map Prod.snd).map (·.domain) =
      (newestPublication publications).toList.map Prod.fst := by
  rw [List.map_map]
  refine List.map_congr_left fun entry member => ?_
  obtain ⟨domain, record⟩ := entry
  exact (newestPublication_mem (mem_toList_iff.mp member)).2

theorem newestPublication_nodup (publications : List MemberPublicationRecord) :
    (((newestPublication publications).toList.map Prod.snd).map (·.domain)).Nodup := by
  rw [newestPublication_values]
  exact List.pairwise_map.mpr (keys_pairwise _)

/-- Nothing is dropped exactly where no domain published twice. -/
theorem newestPublication_perm_iff (publications : List MemberPublicationRecord) :
    publications.Perm ((newestPublication publications).toList.map Prod.snd) ↔
      (publications.map (·.domain)).Nodup := by
  constructor
  · intro same
    exact (same.map _).nodup_iff.mpr (newestPublication_nodup publications)
  · intro distinct
    have kept : ((newestPublication publications).toList.map Prod.snd).Nodup :=
      (newestPublication_nodup publications).of_map
    refine (List.perm_ext_iff_of_nodup distinct.of_map kept).mpr fun record => ⟨?_, ?_⟩
    · intro member
      obtain ⟨newest, found⟩ := newestPublication_isSome member
      obtain ⟨among, same⟩ := newestPublication_mem found
      have equal : newest = record := List.inj_on_of_nodup_map distinct among member same
      exact List.mem_map.mpr ⟨(record.domain, newest), mem_toList_iff.mpr found, equal⟩
    · intro member
      obtain ⟨⟨domain, newest⟩, entry, rfl⟩ := List.mem_map.mp member
      exact (newestPublication_mem (mem_toList_iff.mp entry)).1

/-! What is kept. -/

namespace SiteStore

theorem mem_kept {config : StoreConfig} {contents : StoreContents} {c : Content}
    (member : c ∈ kept config contents) : c ∈ contents.held := by
  simp only [kept, StoreContents.held, byKind, List.mem_append, List.mem_map] at member ⊢
  rcases member with (((⟨s, among, rfl⟩ | ⟨r, among, rfl⟩) | rest) | rest) | rest
  · exact .inl (.inl (.inl (.inl ⟨s, List.mem_of_mem_drop among, rfl⟩)))
  · obtain ⟨⟨domain, record⟩, entry, rfl⟩ := among
    exact .inl (.inl (.inl (.inr ⟨record, (newestPublication_mem (mem_toList_iff.mp entry)).1,
      rfl⟩)))
  · exact .inl (.inl (.inr rest))
  · exact .inl (.inr rest)
  · exact .inr rest

/-- The image compaction leaves scans to its end, and holds what was kept. -/
theorem scan_compacted [StdSort] (config : StoreConfig) (segments : List Segment)
    (recovery : StoreRecoveryReport) :
    ∃ more : List Segment,
      compactedImage config (collect (accepted segments) recovery) =
        makeFileHeader ++ joined more ∧
      accepted more =
        (kept config (collect (accepted segments) recovery)).map Content.stored ∧
      more.length = (kept config (collect (accepted segments) recovery)).length := by
  have among : ∀ c ∈ kept config (collect (accepted segments) recovery), c.Accepted :=
    fun c member => mem_accepted ((held_collect _ recovery).mem_iff.mp (mem_kept member))
  obtain ⟨more, bytes, values, length⟩ := exists_segments (fun c member => (among c member).recoverable)
    fun c member => (among c member).fits
  exact ⟨more, by rw [compactedImage, bytes], values, length⟩

/-- What a scan makes of the image compaction leaves. -/
theorem scanImage_compacted [StdSort] (config : StoreConfig) (segments : List Segment)
    (recovery : StoreRecoveryReport) {contents : StoreContents}
    (held : contents = collect (accepted segments) recovery) :
    ∃ report, (scanImage (compactedImage config contents)).1 =
        collect (byKind
          ((contents.snapshotHistory.drop (firstKept config contents)).map
            Codec.snapshotBody.stored)
          ((newestPublication contents.publications).toList.map Prod.snd) contents.retirements
          contents.tombstones contents.leases) report ∧
      report.status = .ok := by
  subst held
  obtain ⟨more, bytes, values, -⟩ := scan_compacted config segments recovery
  have among : ∀ c ∈ kept config (collect (accepted segments) recovery), c.Accepted :=
    fun c member => mem_accepted ((held_collect _ recovery).mem_iff.mp (mem_kept member))
  have came : (kept config (collect (accepted segments) recovery)).map Content.stored = _ :=
    stored_byKind _ _ _ _ _ among
  rw [bytes, scanImage_clean makeFileHeader_headed, values, came]
  exact ⟨_, rfl, rfl⟩

theorem readFile_isOk [StdSort] {file : Option (List UInt8)}
    (favourable : (readFile file).recovery.status.isOk = true) :
    (readFile file).recovery.status = .ok := by
  unfold readFile at favourable ⊢
  split at favourable
  · cases favourable
  · split at favourable
    · cases favourable
    · next within =>
      rw [if_neg within]
      exact scan_isOk favourable

/-- Everything a compaction can do: refuse, lose the handle with the old file in
place, or replace the file by what was kept. -/
theorem compact_cases [StdSort] (s : SiteStore) (io : Answers) :
    ((s.compact io).1.isOk = false ∧ (s.compact io).2.1 = s) ∨
    ((s.compact io).1.isOk = false ∧ io.replaced.isOk = false ∧
      (compactedImage s.config (readFile s.file)).length ≤ s.config.maxBytes ∧
      (s.compact io).2.1 = { s with handle := false }) ∨
    ((s.compact io).1 = .ok ∧
      ((readFile s.file).recovery.status = .ok ∨ (readFile s.file).recovery.status = .truncated) ∧
      (compactedImage s.config (readFile s.file)).length ≤ s.config.maxBytes ∧
      (s.compact io).2.1 =
        { s with
          handle := true, file := some (compactedImage s.config (readFile s.file))
          bytes := (compactedImage s.config (readFile s.file)).length
          records := (kept s.config (readFile s.file)).length }) := by
  rw [compact]
  by_cases nowhere : s.config.path.isEmpty = true
  · rw [if_pos nowhere]
    exact .inl ⟨rfl, rfl⟩
  rw [if_neg nowhere]
  dsimp only
  by_cases unread : (!(readFile s.file).recovery.status.isOk &&
      (readFile s.file).recovery.status != .truncated) = true
  · rw [if_pos unread]
    obtain ⟨bad, -⟩ := Bool.and_eq_true_iff.mp unread
    exact .inl ⟨by simpa using bad, rfl⟩
  rw [if_neg unread]
  by_cases large : (compactedImage s.config (readFile s.file)).length > s.config.maxBytes
  · rw [if_pos large]
    exact .inl ⟨rfl, rfl⟩
  rw [if_neg large]
  by_cases failed : (!io.replaced.isOk) = true
  · rw [if_pos failed]
    have bad : io.replaced.isOk = false := by simpa using failed
    exact .inr (.inl ⟨bad, bad, by omega, rfl⟩)
  · rw [if_neg failed]
    refine .inr (.inr ⟨rfl, ?_, by omega, rfl⟩)
    cases favourable : (readFile s.file).recovery.status.isOk with
    | true => exact .inl (readFile_isOk favourable)
    | false => exact .inr (by simpa [favourable] using unread)

/-- A compaction of a file that reads to its end, into a file within the bound. -/
theorem compact_ok [StdSort] {s : SiteStore} {io : Answers} (path : s.config.path.isEmpty = false)
    (read : (readFile s.file).recovery.status = .ok)
    (room : (compactedImage s.config (readFile s.file)).length ≤ s.config.maxBytes)
    (replaced : io.replaced = .ok) : (s.compact io).1 = .ok := by
  have favourable : Status.ok.isOk = true := rfl
  unfold compact
  dsimp only
  rw [path, read, replaced, favourable, if_neg (by decide), if_neg (by decide),
    if_neg (not_lt.mpr room), if_neg (by decide)]

/-- How many snapshots compaction keeps at most. -/
def historyLimit (config : StoreConfig) : Nat :=
  if config.snapshotHistory = 0 then Limits.defaultSnapshotHistory else config.snapshotHistory

/-- Contents that compaction has nothing to drop from and nothing to change in. -/
structure Lossless (config : StoreConfig) (contents : StoreContents) : Prop where
  history : contents.snapshotHistory.length ≤ historyLimit config
  domains : (contents.publications.map (·.domain)).Nodup
  snapshots : ∀ s ∈ contents.snapshotHistory, Codec.snapshotBody.stored s = s

theorem firstKept_eq_zero_iff {config : StoreConfig} {contents : StoreContents} :
    firstKept config contents = 0 ↔ contents.snapshotHistory.length ≤ historyLimit config := by
  have unfolded : firstKept config contents =
      if contents.snapshotHistory.length > historyLimit config then
        contents.snapshotHistory.length - historyLimit config else 0 := rfl
  rw [unfolded]
  split <;> omega

theorem kept_eq (config : StoreConfig) (contents : StoreContents) :
    kept config contents =
      byKind (contents.snapshotHistory.drop (firstKept config contents))
        ((newestPublication contents.publications).toList.map Prod.snd) contents.retirements
        contents.tombstones contents.leases := rfl

/-- What compaction leaves is what the contents held exactly where it had
nothing to drop and nothing to change. -/
theorem held_perm_kept_iff (config : StoreConfig) {contents : StoreContents}
    (all : ∀ c ∈ contents.held, c.Accepted) :
    contents.held.Perm ((kept config contents).map Content.stored) ↔ Lossless config contents := by
  have came : (kept config contents).map Content.stored =
      byKind ((contents.snapshotHistory.drop (firstKept config contents)).map
          Codec.snapshotBody.stored)
        ((newestPublication contents.publications).toList.map Prod.snd) contents.retirements
        contents.tombstones contents.leases :=
    stored_byKind _ _ _ _ _ fun c member => all c (mem_kept member)
  have settled : ∀ s ∈ contents.snapshotHistory,
      Codec.snapshotBody.stored (Codec.snapshotBody.stored s) = Codec.snapshotBody.stored s := by
    intro s member
    have held : Content.snapshot s ∈ contents.held := by simp [StoreContents.held, byKind, member]
    exact Content.snapshot.inj (all _ held).settled
  rw [came]
  constructor
  · intro same
    have snapshots := same.filterMap Content.snapshot?
    have publications := same.filterMap Content.publication?
    rw [StoreContents.held, snapshots_byKind, snapshots_byKind] at snapshots
    rw [StoreContents.held, publications_byKind, publications_byKind] at publications
    have whole : firstKept config contents = 0 := by
      have length := snapshots.length_eq
      rw [List.length_map, List.length_drop] at length
      by_contra some
      have least : firstKept config contents ≤ contents.snapshotHistory.length := by
        have unfolded : firstKept config contents =
            if contents.snapshotHistory.length > historyLimit config then
              contents.snapshotHistory.length - historyLimit config else 0 := rfl
        rw [unfolded]
        split <;> omega
      omega
    refine ⟨firstKept_eq_zero_iff.mp whole, (newestPublication_perm_iff _).mp publications, ?_⟩
    intro s member
    rw [whole, List.drop_zero] at snapshots
    obtain ⟨t, among, rfl⟩ := List.mem_map.mp (snapshots.mem_iff.mp member)
    exact settled t among
  · intro lossless
    have same : contents.snapshotHistory.map Codec.snapshotBody.stored =
        contents.snapshotHistory := by
      conv_rhs => rw [← List.map_id contents.snapshotHistory]
      exact List.map_congr_left lossless.snapshots
    have domains := (newestPublication_perm_iff _).mpr lossless.domains
    rw [firstKept_eq_zero_iff.mpr lossless.history, List.drop_zero, same]
    exact (((domains.map _).append_left _).append_right _ |>.append_right _).append_right _

theorem length_kept_le (config : StoreConfig) (contents : StoreContents) :
    (kept config contents).length ≤ contents.held.length := by
  have publications : ((newestPublication contents.publications).toList.map Prod.snd).length ≤
      contents.publications.length := by
    rw [List.length_map, ← List.length_map (fun r : MemberPublicationRecord => r.domain)]
    refine length_toList_le _ fun domain record found => ?_
    obtain ⟨member, rfl⟩ := newestPublication_mem found
    exact List.mem_map.mpr ⟨record, member, rfl⟩
  simp only [kept_eq, StoreContents.held, byKind, List.length_append, List.length_map,
    List.length_drop] at publications ⊢
  omega

end SiteStore

end SiteFabric.Store
