import SiteFabric.Store.Contents

/-! Appending to an open store.
The handle stands at the end of the file and the counter of bytes is its
length, so an append that returns OK leaves the record behind everything the
file held; what a later load makes of it depends on the records before it. -/

namespace SiteFabric.Store

open Lib Lib.Reader

/-- Values of the five kinds, kind after kind. -/
def byKind (snapshots : List SiteSnapshot) (publications : List MemberPublicationRecord)
    (retirements : List MemberRetirementRecord) (tombstones : List Text)
    (leases : List Authority.AuthorityToken) : List Content :=
  snapshots.map .snapshot ++ publications.map .publication ++ retirements.map .retirement ++
    tombstones.map .tombstone ++ leases.map .lease

section ByKind

variable (snapshots : List SiteSnapshot) (publications : List MemberPublicationRecord)
  (retirements : List MemberRetirementRecord) (tombstones : List Text)
  (leases : List Authority.AuthorityToken)

@[simp] theorem snapshots_byKind :
    (byKind snapshots publications retirements tombstones leases).filterMap Content.snapshot? =
      snapshots := by
  simp [byKind, List.filterMap_map, Function.comp_def, Content.snapshot?]

@[simp] theorem publications_byKind :
    (byKind snapshots publications retirements tombstones leases).filterMap Content.publication? =
      publications := by
  simp [byKind, List.filterMap_map, Function.comp_def, Content.publication?]

@[simp] theorem retirements_byKind :
    (byKind snapshots publications retirements tombstones leases).filterMap Content.retirement? =
      retirements := by
  simp [byKind, List.filterMap_map, Function.comp_def, Content.retirement?]

@[simp] theorem tombstones_byKind :
    (byKind snapshots publications retirements tombstones leases).filterMap Content.tombstone? =
      tombstones := by
  simp [byKind, List.filterMap_map, Function.comp_def, Content.tombstone?]

@[simp] theorem leases_byKind :
    (byKind snapshots publications retirements tombstones leases).filterMap Content.lease? =
      leases := by
  simp [byKind, List.filterMap_map, Function.comp_def, Content.lease?]

/-- Values taken from a list kind by kind are the list in another order. -/
theorem byKind_filterMap (xs : List Content) :
    (byKind (xs.filterMap Content.snapshot?) (xs.filterMap Content.publication?)
      (xs.filterMap Content.retirement?) (xs.filterMap Content.tombstone?)
      (xs.filterMap Content.lease?)).Perm xs := by
  unfold byKind
  induction xs with
  | nil => exact .refl _
  | cons c xs ih =>
    refine .trans ?_ (ih.cons c)
    cases c with
    | snapshot s => exact .refl _
    | publication r =>
      simp only [List.append_assoc]
      exact List.perm_middle
    | retirement r =>
      simp only [List.append_assoc]
      rw [← List.append_assoc, ← List.append_assoc (List.map Content.snapshot _)]
      exact List.perm_middle
    | tombstone t =>
      rw [List.append_assoc]
      exact List.perm_middle.trans (.of_eq (congrArg (List.cons _) (List.append_assoc ..).symm))
    | lease t => exact List.perm_middle

/-- Only a snapshot that was accepted may come back changed. -/
theorem stored_byKind
    (all : ∀ c ∈ byKind snapshots publications retirements tombstones leases, c.Accepted) :
    (byKind snapshots publications retirements tombstones leases).map Content.stored =
      byKind (snapshots.map Codec.snapshotBody.stored) publications retirements tombstones
        leases := by
  have plain {α : Type} {make : α → Content} (other : ∀ a, (make a).snapshot? = none)
      {xs : List α} (among : xs.map make ⊆ byKind snapshots publications retirements tombstones
        leases) : (xs.map make).map Content.stored = xs.map make := by
    conv_rhs => rw [← List.map_id (xs.map make)]
    refine List.map_congr_left fun c member => (all c (among member)).same ?_
    obtain ⟨a, -, rfl⟩ := List.mem_map.mp member
    exact other a
  have first : (snapshots.map Content.snapshot).map Content.stored =
      (snapshots.map Codec.snapshotBody.stored).map Content.snapshot := by
    rw [List.map_map, List.map_map]
    rfl
  simp only [byKind, List.map_append, first]
  rw [plain (fun _ => rfl) (by intro c member; simp [byKind, member]),
    plain (fun _ => rfl) (by intro c member; simp [byKind, member]),
    plain (fun _ => rfl) (by intro c member; simp [byKind, member]),
    plain (fun _ => rfl) (by intro c member; simp [byKind, member])]

end ByKind

/-- Everything a load returns, whatever its kind. -/
def StoreContents.held (c : StoreContents) : List Content :=
  byKind c.snapshotHistory c.publications c.retirements c.tombstones c.leases

/-- Nothing is lost or added when records are sorted into contents. -/
theorem held_collect [StdSort] (xs : List Content) (recovery : StoreRecoveryReport) :
    (collect xs recovery).held.Perm xs := by
  refine .trans ?_ (byKind_filterMap xs)
  have snapshots := (StdSort.perm (byKey (·.sequence.toNat))
    (xs.filterMap Content.snapshot?)).map Content.snapshot
  have publications := (stableSort_perm publicationPrecedes
    (xs.filterMap Content.publication?)).map Content.publication
  exact (((snapshots.append publications).append_right _).append_right _).append_right _

namespace SiteStore

/-- A store whose handle stands at the end of its file. -/
structure Open (s : SiteStore) (image : List UInt8) : Prop where
  handle : s.handle = true
  file : s.file = some image
  bytes : s.bytes = image.length
  bounded : s.config.maxBytes ≤ Limits.maxMaxStoreBytes

theorem append_eq (s : SiteStore) (io : Answers) (c : Content) :
    s.append io c = s.appendRecord io c.type c.payload := by
  cases c <;> rfl

/-- Everything an append can do: refuse, leave a beginning of the record behind
a failure, or commit it. -/
theorem append_cases (s : SiteStore) (io : Answers) (c : Content) :
    ((s.append io c).1 ≠ .ok ∧ (s.append io c).2 = s) ∨
    (s.handle = true ∧ c.payload.length ≤ Limits.maxRecordPayloadBytes ∧
      s.bytes + c.record.length ≤ s.config.maxBytes ∧ s.records + 1 ≤ s.config.maxRecords ∧
      (((s.append io c).1 ≠ .ok ∧
          (s.append io c).2 =
            { s with file := s.file.map (· ++ c.record.take (c.record.length - io.shortfall)) }) ∨
        ((s.append io c).1 = .ok ∧ c.record.length - io.shortfall = c.record.length ∧
          (s.append io c).2 =
            { s with
              file := s.file.map (· ++ c.record), bytes := s.bytes + c.record.length
              records := s.records + 1 }))) := by
  rw [append_eq, appendRecord]
  by_cases closed : (!s.handle) = true
  · rw [if_pos closed]
    exact .inl ⟨nofun, rfl⟩
  rw [if_neg closed]
  by_cases large : c.payload.length > Limits.maxRecordPayloadBytes
  · rw [if_pos large]
    exact .inl ⟨nofun, rfl⟩
  rw [if_neg large]
  dsimp only
  rw [← Content.record]
  by_cases full : s.bytes + c.record.length > s.config.maxBytes
  · rw [if_pos full]
    exact .inl ⟨nofun, rfl⟩
  rw [if_neg full]
  by_cases many : s.records + 1 > s.config.maxRecords
  · rw [if_pos many]
    exact .inl ⟨nofun, rfl⟩
  rw [if_neg many]
  refine .inr ⟨by simpa using closed, by omega, by omega, by omega, ?_⟩
  by_cases short : c.record.length - io.shortfall ≠ c.record.length
  · rw [if_pos short]
    exact .inl ⟨nofun, rfl⟩
  rw [if_neg short]
  by_cases unflushed : (!io.flushed) = true
  · rw [if_pos unflushed]
    exact .inl ⟨nofun, rfl⟩
  rw [if_neg unflushed]
  by_cases unsynced : (s.config.durableCommit && !io.synced.isOk) = true
  · rw [if_pos unsynced]
    refine .inl ⟨fun synced => ?_, rfl⟩
    have fine : io.synced = .ok := synced
    rw [fine] at unsynced
    simp [Status.isOk] at unsynced
  · rw [if_neg unsynced]
    refine .inr ⟨rfl, of_not_not short, ?_⟩
    rw [of_not_not short, List.take_length]

/-- A store with room for a record takes it when the file system does. -/
theorem append_of_room {s : SiteStore} {c : Content} (handle : s.handle = true)
    (fits : c.payload.length ≤ Limits.maxRecordPayloadBytes)
    (room : s.bytes + c.record.length ≤ s.config.maxBytes)
    (records : s.records + 1 ≤ s.config.maxRecords) : (s.append {} c).1 = .ok := by
  have open_ : ¬ (!s.handle) = true := by simp [handle]
  rw [append_eq, appendRecord, if_neg open_, if_neg (by omega)]
  dsimp only
  rw [← Content.record, if_neg (by omega), if_neg (by omega), Nat.sub_zero,
    if_neg (not_not.mpr rfl), if_neg nofun, if_neg (by simp [Status.isOk])]

/-- An append that returns OK commits the whole record at the end of the file. -/
theorem Open.append {s : SiteStore} {image : List UInt8} (open_ : s.Open image) {io : Answers}
    {c : Content} (ok : (s.append io c).1 = .ok) :
    (s.append io c).2.Open (image ++ c.record) ∧ (s.append io c).2.config = s.config ∧
      c.payload.length ≤ Limits.maxRecordPayloadBytes ∧
      (image ++ c.record).length ≤ s.config.maxBytes := by
  rcases append_cases s io c with ⟨failed, -⟩ | ⟨handle, fits, room, -, ⟨failed, -⟩ | ⟨-, -, after⟩⟩
  · exact absurd ok failed
  · exact absurd ok failed
  · have length : s.bytes + c.record.length = (image ++ c.record).length := by
      rw [open_.bytes, List.length_append]
    rw [after]
    refine ⟨⟨handle, ?_, length, open_.bounded⟩, rfl, fits, length ▸ room⟩
    rw [open_.file]
    rfl

/-- A sequence of appends that all return OK. -/
def appends (s : SiteStore) : List (Answers × Content) → Option SiteStore
  | [] => some s
  | (io, c) :: calls => if (s.append io c).1 = .ok then (s.append io c).2.appends calls else none

theorem Open.appends {s s' : SiteStore} {image : List UInt8} (open_ : s.Open image)
    {calls : List (Answers × Content)} (ok : s.appends calls = some s') :
    s'.Open (image ++ (calls.map Prod.snd).flatMap Content.record) ∧ s'.config = s.config ∧
      (∀ c ∈ calls.map Prod.snd, c.payload.length ≤ Limits.maxRecordPayloadBytes) ∧
      (image ++ (calls.map Prod.snd).flatMap Content.record).length ≤
        max image.length s.config.maxBytes := by
  induction calls generalizing s image with
  | nil =>
    cases ok
    exact ⟨by simpa using open_, rfl, by simp, by simp⟩
  | cons call calls ih =>
    obtain ⟨io, c⟩ := call
    rw [SiteStore.appends] at ok
    split at ok
    · next committed =>
      obtain ⟨next, config, fits, room⟩ := open_.append committed
      obtain ⟨later, same, rooms, within⟩ := ih next ok
      rw [List.append_assoc, ← List.flatMap_cons] at later within
      rw [config, max_eq_right room] at within
      exact ⟨later, same.trans config, List.forall_mem_cons.mpr ⟨fits, rooms⟩,
        within.trans (le_max_right _ _)⟩
    · cases ok

end SiteStore

section Scans

variable [StdSort] {head : List UInt8}

/-- Appended records that are all taken back. -/
theorem scan_appended (headed : Headed head) (segments : List Segment) {contents : List Content}
    (recoverable : ∀ c ∈ contents, c.recoverable = true)
    (fits : ∀ c ∈ contents, c.payload.length ≤ Limits.maxRecordPayloadBytes) :
    ∃ recovery, scanImage (head ++ joined segments ++ contents.flatMap Content.record) =
        (collect (accepted segments ++ contents.map Content.stored) recovery,
          (head ++ joined segments ++ contents.flatMap Content.record).length) ∧
      recovery.status = .ok ∧ recovery.usable = true := by
  obtain ⟨more, bytes, values, -⟩ := exists_segments recoverable fits
  rw [List.append_assoc, ← bytes, ← joined_append, scanImage_clean headed, accepted_append, values]
  exact ⟨_, rfl, rfl, rfl⟩

/-- The first record that is not taken back hides everything behind it. -/
theorem scan_poisoned (headed : Headed head) (segments : List Segment)
    (before after : List Content) {c : Content} (recoverable : ∀ c ∈ before, c.recoverable = true)
    (poison : c.recoverable = false)
    (fits : ∀ d ∈ before ++ c :: after, d.payload.length ≤ Limits.maxRecordPayloadBytes) :
    ∃ recovery,
      scanImage (head ++ joined segments ++ (before ++ c :: after).flatMap Content.record) =
        (collect (accepted segments ++ before.map Content.stored) recovery,
          (head ++ joined segments ++ before.flatMap Content.record).length) ∧
      recovery.status ≠ .ok ∧ recovery.tailTruncated = false := by
  obtain ⟨more, bytes, values, -⟩ := exists_segments recoverable fun d member =>
    fits d (List.mem_append_left _ member)
  have room := fits c (List.mem_append_right _ List.mem_cons_self)
  obtain ⟨defect, refused, whole, bad⟩ := Content.accept_unrecoverable poison room
  have stops : readRecord (c.record ++ after.flatMap Content.record) = .error defect := by
    rw [Content.record, readRecord_makeRecord c.type room, refused]
    rfl
  have some : 0 < (c.record ++ after.flatMap Content.record).length := by
    rw [List.length_append, Content.record, length_makeRecord room]
    omega
  obtain ⟨recovery, scanned, -, status, tail⟩ :=
    scanImage_stopped headed (segments ++ more) some stops
  refine ⟨recovery, ?_, status ▸ bad, tail.trans whole⟩
  rw [List.flatMap_append, List.flatMap_cons, ← bytes, List.append_assoc head,
    ← List.append_assoc (joined segments), ← joined_append, scanned, accepted_append, values,
    joined_append, List.append_assoc]

/-- A tail the scan stops on for good hides whatever is written behind it. -/
theorem scan_behind (headed : Headed head) (segments : List Segment) {tail : List UInt8}
    {defect : Defect} (some : 0 < tail.length) (refused : readRecord tail = .error defect)
    (whole : defect.tailTruncated = false) (more : List UInt8) :
    ∃ recovery, scanImage (head ++ (joined segments ++ tail) ++ more) =
        (collect (accepted segments) recovery, (head ++ joined segments).length) ∧
      recovery.status = defect.status := by
  have longer : 0 < (tail ++ more).length := by
    rw [List.length_append]
    omega
  obtain ⟨recovery, scanned, -, status, -⟩ := scanImage_stopped headed segments longer
    (readRecord_refused_append refused whole more)
  refine ⟨recovery, ?_, status⟩
  rw [List.append_assoc, List.append_assoc, scanned]

end Scans

/-- The first of a list that fails a test, with what stands before it. -/
theorem exists_first_unrecoverable {contents : List Content}
    (poisoned : ¬ ∀ c ∈ contents, c.recoverable = true) :
    ∃ before c after, contents = before ++ c :: after ∧
      (∀ d ∈ before, d.recoverable = true) ∧ c.recoverable = false := by
  induction contents with
  | nil => exact absurd (fun c member => absurd member List.not_mem_nil) poisoned
  | cons c contents ih =>
    cases fine : c.recoverable with
    | false => exact ⟨[], c, contents, rfl, fun d member => absurd member List.not_mem_nil, fine⟩
    | true =>
      obtain ⟨before, d, after, split, all, bad⟩ := ih fun all =>
        poisoned (List.forall_mem_cons.mpr ⟨fine, all⟩)
      exact ⟨c :: before, d, after, by rw [split]; rfl, List.forall_mem_cons.mpr ⟨fine, all⟩, bad⟩

namespace SiteStore

section

variable [StdSort]

/-- An open store whose file scans to its end. -/
structure Intact (s : SiteStore) (image : List UInt8) : Prop extends s.Open image where
  clean : s.load.recovery.status = .ok

theorem load_eq {s : SiteStore} {image : List UInt8} (file : s.file = some image)
    (within : image.length ≤ Limits.maxMaxStoreBytes) : s.load = (scanImage image).1 := by
  rw [load, file, readFile, if_neg (by omega)]

theorem Intact.layout {s : SiteStore} {image : List UInt8} (intact : s.Intact image) :
    ∃ (head : List UInt8) (segments : List Segment), Headed head ∧
      image = head ++ joined segments ∧ image.length ≤ Limits.maxMaxStoreBytes := by
  have clean := intact.clean
  rw [load, intact.file, readFile] at clean
  split at clean
  · cases clean
  next within =>
  obtain ⟨head, segments, headed, split⟩ := ok_layout clean
  exact ⟨head, segments, headed, split, by omega⟩

/-- A new store, as `open` leaves it where no file stood. -/
def fresh : SiteStore :=
  { config := { path := ascii "site.store" }, handle := true, bytes := fileHeaderBytes
    file := some makeFileHeader }

theorem openStore_fresh : openStore { path := ascii "site.store" } {} none = (.ok, fresh) := by
  have size : makeFileHeader.length = fileHeaderBytes := makeFileHeader_headed.size
  simp only [openStore, openAtEnd, size]
  rfl

theorem fresh_intact : fresh.Intact makeFileHeader where
  handle := rfl
  file := rfl
  bytes := makeFileHeader_headed.size.symm
  bounded := by decide
  clean := by
    have within : makeFileHeader.length ≤ Limits.maxMaxStoreBytes := by
      rw [makeFileHeader_headed.size]
      decide
    have scanned := scanImage_clean makeFileHeader_headed []
    rw [joined_nil, List.append_nil] at scanned
    rw [load_eq rfl within, scanned]
    rfl

/-- A retirement whose reason is one byte too long to be read back. -/
def longReason : MemberRetirementRecord :=
  { domain := { kind := .cluster, id := ascii "c1" }, generation := ⟨1⟩
    incarnation := { sequence := 1, boot := ⟨ascii "b1"⟩ }, reason := ⟨List.replicate 4097 97⟩ }

/-- The record of a value that an intact store commits is decoded, and scanned
past, exactly when the value is one that reads back. -/
theorem append_reads_back_iff (s : SiteStore) (image : List UInt8) (io : Answers) (c : Content)
    (intact : s.Intact image) (ok : (s.append io c).1 = .ok) :
    ((∃ decoded, decodeRecord c.type c.payload = .ok decoded) ∧
      (s.append io c).2.load.recovery.status = .ok) ↔ c.recoverable = true := by
  obtain ⟨head, segments, headed, split, -⟩ := intact.layout
  obtain ⟨next, -, fits, room⟩ := intact.toOpen.append ok
  have within : (image ++ c.record).length ≤ Limits.maxMaxStoreBytes :=
    room.trans intact.bounded
  have loaded := load_eq next.file within
  rw [split] at loaded
  have one : c.record = [c].flatMap Content.record := (List.flatMap_singleton ..).symm
  have fit : ∀ d ∈ [c], d.payload.length ≤ Limits.maxRecordPayloadBytes := by simpa using fits
  rw [one] at loaded
  constructor
  · rintro ⟨-, clean⟩
    by_contra poison
    have bad : c.recoverable = false := by simpa using poison
    obtain ⟨recovery, scanned, status, -⟩ :=
      scan_poisoned headed segments [] [] (by simp) bad fit
    rw [List.nil_append] at scanned
    rw [loaded, scanned] at clean
    exact status clean
  · intro recoverable
    obtain ⟨recovery, scanned, status, -⟩ :=
      scan_appended headed segments (by simpa using recoverable) fit
    refine ⟨⟨_, Content.decode_readable (Bool.and_eq_true_iff.mp recoverable).1
      (lt_span fits)⟩, ?_⟩
    rw [loaded, scanned]
    exact status

end

theorem append_reads_back_tombstone :
    (∃ decoded, decodeRecord .tombstone (Canonical.text (ascii "t")) = .ok decoded) ∧
      (fresh.append {} (.tombstone (ascii "t"))).2.load.recovery.status = .ok :=
  (append_reads_back_iff fresh makeFileHeader {} (.tombstone (ascii "t")) fresh_intact
    (by decide +kernel)).mpr (by decide +kernel)

theorem append_long_reason :
    fresh.Intact makeFileHeader ∧ (fresh.append {} (.retirement longReason)).1 = .ok ∧
      ¬ ∃ decoded, decodeRecord .retirement longReason.write = .ok decoded := by
  have unreadable : (Content.retirement longReason).readable = false := by decide +kernel
  have fits : (Content.retirement longReason).payload.length ≤ Limits.maxRecordPayloadBytes := by
    decide +kernel
  refine ⟨fresh_intact, by decide +kernel, ?_⟩
  rintro ⟨decoded, accepts⟩
  obtain ⟨fault, refused⟩ := Content.decode_unreadable unreadable (lt_span fits)
  have both : Except.error fault = Except.ok decoded := refused.symm.trans accepts
  cases both

end SiteStore

end SiteFabric.Store
