import SiteFabric.Store.Compaction

/-! Opening a store over an existing file.
A torn tail is cut back, any other tail stays where it is, and a file above its
bound is compacted. Whether what is appended afterwards comes back is decided
by the tail that was left and by the values appended. -/

namespace SiteFabric.Store

open Lib Lib.Reader

theorem decoded_eq {appended decoded : List Content}
    (decodes : List.Forall₂ (fun c d => decodeRecord c.type c.payload = .ok (some d))
      appended decoded)
    (recoverable : ∀ c ∈ appended, c.recoverable = true)
    (fits : ∀ c ∈ appended, c.payload.length ≤ Limits.maxRecordPayloadBytes) :
    decoded = appended.map Content.stored := by
  induction decodes with
  | nil => rfl
  | @cons c d appended decoded one others ih =>
    obtain ⟨now, later⟩ := List.forall_mem_cons.mp recoverable
    obtain ⟨room, rooms⟩ := List.forall_mem_cons.mp fits
    have known := Content.decode_readable (Bool.and_eq_true_iff.mp now).1 (lt_span room)
    rw [one] at known
    rw [List.map_cons, ih later rooms, Option.some.inj (Except.ok.inj known)]

theorem decodes_stored {appended : List Content}
    (recoverable : ∀ c ∈ appended, c.recoverable = true)
    (fits : ∀ c ∈ appended, c.payload.length ≤ Limits.maxRecordPayloadBytes) :
    List.Forall₂ (fun c d => decodeRecord c.type c.payload = .ok (some d)) appended
      (appended.map Content.stored) := by
  rw [List.forall₂_map_right_iff, List.forall₂_same]
  exact fun c member => Content.decode_readable
    (Bool.and_eq_true_iff.mp (recoverable c member)).1 (lt_span (fits c member))

section

variable [StdSort]

/-- The file as `open` leaves it before any compaction. -/
def cutBack (image : List UInt8) : List UInt8 :=
  if (scanImage image).2 < image.length ∧ (scanImage image).1.recovery.tailTruncated = true then
    image.take (scanImage image).2
  else image

/-- A file that ends on a boundary the scan reaches, or on a tail it stops on
for good. -/
inductive Ends (head : List UInt8) (segments : List Segment) : List UInt8 → Prop where
  | boundary : Ends head segments (head ++ joined segments)
  | stopped {tail : List UInt8} {defect : Defect} (some : 0 < tail.length)
      (refused : readRecord tail = .error defect) (whole : defect.tailTruncated = false) :
      Ends head segments (head ++ (joined segments ++ tail))

/-- What cutting a usable image back leaves, and what the scan of it reported. -/
theorem cutBack_ends {image : List UInt8}
    (usable : (scanImage image).1.recovery.usable = true) :
    ∃ (head : List UInt8) (segments : List Segment) (recovery : StoreRecoveryReport),
      Headed head ∧ (scanImage image).1 = collect (accepted segments) recovery ∧
      Ends head segments (cutBack image) ∧
      (cutBack image = head ++ joined segments ↔
        recovery.status = .ok ∨ recovery.tailTruncated = true) := by
  obtain ⟨head, segments, tail, headed, rfl, rfl | ⟨defect, some, refused⟩⟩ := usable_layout usable
  · rw [List.append_nil]
    have scanned := scanImage_clean headed segments
    have cut : cutBack (head ++ joined segments) = head ++ joined segments := by
      rw [cutBack, scanned, if_neg (fun short => Nat.lt_irrefl _ short.1)]
    rw [cut]
    exact ⟨head, segments, _, headed, by rw [scanned], .boundary, by simp⟩
  · obtain ⟨recovery, scanned, -, status, torn⟩ := scanImage_stopped headed segments some refused
    refine ⟨head, segments, recovery, headed, by rw [scanned], ?_⟩
    have short : (head ++ joined segments).length < (head ++ (joined segments ++ tail)).length := by
      simp only [List.length_append]
      omega
    cases whole : defect.tailTruncated with
    | true =>
      have cut : cutBack (head ++ (joined segments ++ tail)) = head ++ joined segments := by
        rw [cutBack, scanned, if_pos ⟨short, torn.trans whole⟩, ← List.append_assoc,
          List.take_left]
      rw [cut]
      exact ⟨.boundary, by simp [torn, whole]⟩
    | false =>
      have left : cutBack (head ++ (joined segments ++ tail)) =
          head ++ (joined segments ++ tail) := by
        rw [cutBack, scanned, if_neg (fun both => ?_)]
        have cut : recovery.tailTruncated = true := both.2
        rw [torn, whole] at cut
        cases cut
      rw [left]
      refine ⟨.stopped some refused whole, ⟨fun same => ?_, fun never => ?_⟩⟩
      · have length := congrArg List.length same
        omega
      · rw [status, torn, whole] at never
        exact absurd never (by simp [defect.status_ne_ok])

namespace SiteStore

/-- The two ways an open ends: within its bound, or after a compaction. -/
def Opened (s : SiteStore) (config : StoreConfig) (image : List UInt8) : Prop :=
  (image.length ≤ config.maxBytes ∧ s.Open image) ∨
    (config.maxBytes < image.length ∧
      ((readFile (some image)).recovery.status = .ok ∨
        (readFile (some image)).recovery.status = .truncated) ∧
      s.Open (compactedImage config (readFile (some image))) ∧
      (compactedImage config (readFile (some image))).length ≤ config.maxBytes)

theorem openAtEnd_ok {s s' : SiteStore} {io : Answers} {image : List UInt8}
    (bounded : s.config.maxBytes ≤ Limits.maxMaxStoreBytes)
    (opened : s.openAtEnd io image = (.ok, s')) :
    s'.config = s.config ∧ s'.Opened s.config image := by
  unfold openAtEnd at opened
  dsimp only at opened
  split at opened
  · next large =>
    generalize before : ({ s with handle := true, bytes := image.length, file := some image } :
      SiteStore) = t at opened
    have fine : (t.compact io).1.isOk = true := by
      by_contra bad
      have status := congrArg Prod.fst opened
      rw [if_pos (by simpa using bad)] at status
      have ok : (t.compact io).1 = .ok := status
      rw [ok] at bad
      exact bad rfl
    rw [if_neg (by simp [fine])] at opened
    cases opened
    rcases compact_cases t io with ⟨failed, -⟩ | ⟨failed, -⟩ | ⟨-, status, room, after⟩
    · rw [fine] at failed
      cases failed
    · rw [fine] at failed
      cases failed
    · subst before
      rw [after]
      exact ⟨rfl, .inr ⟨large, status, ⟨rfl, rfl, rfl, bounded⟩, room⟩⟩
  · next within =>
    cases opened
    exact ⟨rfl, .inl ⟨by omega, ⟨rfl, rfl, rfl, bounded⟩⟩⟩

theorem openAtEnd_isOk {s : SiteStore} {io : Answers} {image : List UInt8}
    (opened : (s.openAtEnd io image).1.isOk = true) : (s.openAtEnd io image).1 = .ok := by
  unfold openAtEnd at opened ⊢
  dsimp only at opened ⊢
  split_ifs at opened ⊢ with large failed
  · rw [Bool.not_eq_true'] at failed
    rw [failed] at opened
    cases opened
  · rfl
  · rfl

/-- An open has no favourable answer but OK. -/
theorem openStore_isOk {config : StoreConfig} {io : Answers} {file : Option (List UInt8)}
    (opened : (openStore config io file).1.isOk = true) : (openStore config io file).1 = .ok := by
  unfold openStore at opened ⊢
  dsimp only at opened ⊢
  by_cases path : config.path.isEmpty = true
  · rw [if_pos path] at opened
    cases opened
  rw [if_neg path] at opened ⊢
  by_cases bytes : config.maxBytes = 0 ∨ config.maxBytes > Limits.maxMaxStoreBytes
  · rw [if_pos bytes] at opened
    cases opened
  rw [if_neg bytes] at opened ⊢
  by_cases records : config.maxRecords = 0 ∨ config.maxRecords > Limits.maxMaxStoreRecords
  · rw [if_pos records] at opened
    cases opened
  rw [if_neg records] at opened ⊢
  by_cases directory : (!io.directory.isOk) = true
  · rw [if_pos directory] at opened
    exact absurd opened (by simpa using directory)
  rw [if_neg directory] at opened ⊢
  cases file with
  | none =>
    dsimp only at opened ⊢
    by_cases replaced : (!io.replaced.isOk) = true
    · rw [if_pos replaced] at opened
      exact absurd opened (by simpa using replaced)
    rw [if_neg replaced] at opened ⊢
    exact openAtEnd_isOk opened
  | some image =>
    dsimp only at opened ⊢
    by_cases large : image.length > Limits.maxMaxStoreBytes
    · rw [if_pos large] at opened
      cases opened
    rw [if_neg large] at opened ⊢
    by_cases unusable : (!(scanImage image).1.recovery.usable) = true
    · rw [if_pos unusable] at opened ⊢
      exact scan_isOk opened
    rw [if_neg unusable] at opened ⊢
    by_cases torn : (scanImage image).2 < image.length ∧
        (scanImage image).1.recovery.tailTruncated = true
    · rw [if_pos torn] at opened ⊢
      by_cases truncated : (!io.truncated.isOk) = true
      · rw [if_pos truncated] at opened
        exact absurd opened (by simpa using truncated)
      rw [if_neg truncated] at opened ⊢
      exact openAtEnd_isOk opened
    · rw [if_neg torn] at opened ⊢
      exact openAtEnd_isOk opened

/-- An open that returns OK: the file is cut back, and compacted when it is
still above the bound. -/
theorem openStore_ok {config : StoreConfig} {io : Answers} {image : List UInt8} {s : SiteStore}
    (opened : openStore config io (some image) = (.ok, s)) :
    config.maxBytes ≤ Limits.maxMaxStoreBytes ∧ image.length ≤ Limits.maxMaxStoreBytes ∧
      (scanImage image).1.recovery.usable = true ∧ s.config = config ∧
      s.Opened config (cutBack image) := by
  unfold openStore at opened
  dsimp only at opened
  split at opened
  · cases opened
  split at opened
  · cases opened
  next sizes =>
  split at opened
  · cases opened
  split at opened
  · next refused =>
    have ok : io.directory = .ok := congrArg Prod.fst opened
    rw [ok] at refused
    cases refused
  split at opened
  · cases opened
  next within =>
  split at opened
  · next unusable =>
    obtain ⟨head, segments, headed, split⟩ := ok_layout (congrArg Prod.fst opened)
    have usable := (usable_iff image).mpr ⟨head, _, split, headed⟩
    rw [usable] at unusable
    cases unusable
  next usable =>
  have bounded : config.maxBytes ≤ Limits.maxMaxStoreBytes := by omega
  refine ⟨bounded, by omega, by simpa using usable, ?_⟩
  split at opened
  · next torn =>
    split at opened
    · next refused =>
      have ok : io.truncated = .ok := congrArg Prod.fst opened
      rw [ok] at refused
      cases refused
    · have cut : cutBack image = image.take (scanImage image).2 := if_pos torn
      rw [cut]
      exact openAtEnd_ok bounded opened
  · next whole =>
    have left : cutBack image = image := if_neg whole
    rw [left]
    exact openAtEnd_ok bounded opened

/-- An open of a missing file writes a header first. -/
theorem openStore_none {config : StoreConfig} {io : Answers} {s : SiteStore}
    (opened : openStore config io none = (.ok, s)) :
    config.maxBytes ≤ Limits.maxMaxStoreBytes ∧ s.config = config ∧
      s.Opened config makeFileHeader := by
  unfold openStore at opened
  dsimp only at opened
  split at opened
  · cases opened
  split at opened
  · cases opened
  split at opened
  · cases opened
  split at opened
  · next refused =>
    have ok : io.directory = .ok := congrArg Prod.fst opened
    rw [ok] at refused
    cases refused
  split at opened
  · next refused =>
    have ok : io.replaced = .ok := congrArg Prod.fst opened
    rw [ok] at refused
    cases refused
  have bounded : config.maxBytes ≤ Limits.maxMaxStoreBytes := by omega
  exact ⟨bounded, openAtEnd_ok bounded opened⟩

/-- An open of a missing file goes on from the header it wrote. -/
theorem openStore_missing {config : StoreConfig} {io : Answers}
    (ok : (openStore config io none).1 = .ok) :
    config.maxBytes ≤ Limits.maxMaxStoreBytes ∧
      openStore config io none = ({ config } : SiteStore).openAtEnd io makeFileHeader := by
  unfold openStore at ok ⊢
  dsimp only at ok ⊢
  split_ifs at ok ⊢ with path sizes counts directory replaced
  · exact absurd ok (by simpa using fun same => by simp [same, Status.isOk] at directory)
  · exact absurd ok (by simpa using fun same => by simp [same, Status.isOk] at replaced)
  · exact ⟨by omega, rfl⟩

/-- An open of a file that scans to its end goes on from the records it counted. -/
theorem openStore_whole {config : StoreConfig} {io : Answers} {image : List UInt8}
    (ok : (openStore config io (some image)).1 = .ok) (whole : (scanImage image).2 = image.length) :
    openStore config io (some image) =
      ({ config, file := some image, report := (scanImage image).1.recovery
         records := (scanImage image).1.recordCount } : SiteStore).openAtEnd io image := by
  obtain ⟨-, size, usable, -⟩ := openStore_ok (Prod.ext ok rfl)
  unfold openStore at ok ⊢
  dsimp only at ok ⊢
  split_ifs at ok ⊢ with path sizes counts directory large unusable torn
  · exact absurd ok (by simpa using fun same => by simp [same, Status.isOk] at directory)
  · rw [usable] at unusable
    cases unusable
  · exact absurd torn.1 (by omega)
  · exact absurd torn.1 (by omega)
  · rfl

end SiteStore

/-- Every value appended decodes, and a later load returns it, in addition to
everything that was held before. -/
def Returned (before : StoreContents) (appended : List Content) (after : StoreContents) : Prop :=
  ∃ decoded, List.Forall₂ (fun c d => decodeRecord c.type c.payload = .ok (some d)) appended decoded ∧
    (before.held ++ decoded).Subperm after.held

/-- Behind a boundary the appended values are returned when they all read back,
in addition to what was held when the file still holds it. -/
theorem returned_boundary_iff {head : List UInt8} (headed : Headed head)
    (segments : List Segment) {before : StoreContents} {appended : List Content}
    (long : (accepted segments).length ≤ before.held.length)
    (fits : ∀ c ∈ appended, c.payload.length ≤ Limits.maxRecordPayloadBytes) :
    Returned before appended
        (scanImage (head ++ joined segments ++ appended.flatMap Content.record)).1 ↔
      before.held.Perm (accepted segments) ∧ ∀ c ∈ appended, c.recoverable = true := by
  constructor
  · rintro ⟨decoded, decodes, within⟩
    have same := decodes.length_eq
    have sizes := within.length_le
    rw [List.length_append] at sizes
    have recoverable : ∀ c ∈ appended, c.recoverable = true := by
      by_contra poisoned
      obtain ⟨first, c, rest, rfl, fine, poison⟩ := exists_first_unrecoverable poisoned
      obtain ⟨recovery, scanned, -⟩ := scan_poisoned headed segments _ _ fine poison fits
      have length := (held_collect (accepted segments ++ first.map Content.stored) recovery).length_eq
      rw [scanned] at sizes
      simp only [List.length_append, List.length_map, List.length_cons] at length same sizes
      omega
    obtain ⟨recovery, scanned, -⟩ := scan_appended headed segments recoverable fits
    rw [scanned, decoded_eq decodes recoverable fits] at within
    have subperm := within.trans (held_collect _ recovery).subperm
    have perm := subperm.perm_of_length_le (by simpa using long)
    exact ⟨(List.perm_append_right_iff _).mp perm, recoverable⟩
  · rintro ⟨perm, recoverable⟩
    obtain ⟨recovery, scanned, -⟩ := scan_appended headed segments recoverable fits
    refine ⟨appended.map Content.stored, decodes_stored recoverable fits, ?_⟩
    rw [scanned]
    exact ((perm.append_right _).trans (held_collect _ recovery).symm).subperm

/-- A committed value that does not read back is not returned. -/
theorem not_returned {s : SiteStore} {head : List UInt8} {segments : List Segment}
    (headed : Headed head) (open_ : s.Open (head ++ joined segments)) {before : StoreContents}
    (long : (accepted segments).length ≤ before.held.length) {io : Answers} {c : Content}
    (ok : (s.append io c).1 = .ok) (poison : c.recoverable = false) :
    ¬ Returned before [c] (s.append io c).2.load := by
  obtain ⟨next, -, fits, room⟩ := open_.append ok
  have one : c.record = [c].flatMap Content.record := (List.flatMap_singleton ..).symm
  rw [SiteStore.load_eq next.file (room.trans open_.bounded), one,
    returned_boundary_iff headed segments long (by simpa using fits)]
  rintro ⟨-, all⟩
  rw [all c List.mem_cons_self] at poison
  cases poison

/-- Behind a tail the scan stops on, nothing that is appended is returned. -/
theorem returned_stopped_iff {head tail : List UInt8} (headed : Headed head)
    (segments : List Segment) {defect : Defect} (some : 0 < tail.length)
    (refused : readRecord tail = .error defect) (whole : defect.tailTruncated = false)
    {before : StoreContents} {appended : List Content} (held : before.held.Perm (accepted segments)) :
    Returned before appended
        (scanImage (head ++ (joined segments ++ tail) ++ appended.flatMap Content.record)).1 ↔
      appended = [] := by
  obtain ⟨recovery, scanned, -⟩ :=
    scan_behind headed segments some refused whole (appended.flatMap Content.record)
  have after := held_collect (accepted segments) recovery
  rw [scanned]
  constructor
  · rintro ⟨decoded, decodes, within⟩
    have sizes := within.length_le
    rw [List.length_append, held.length_eq, after.length_eq, ← decodes.length_eq] at sizes
    exact List.length_eq_zero_iff.mp (by omega)
  · rintro rfl
    refine ⟨[], .nil, ?_⟩
    rw [List.append_nil]
    exact (held.trans after.symm).subperm

/-- When appended values join what the file held: the file is within its bound
and its scan ended on a boundary, or it is above its bound and compaction has
nothing to drop; and every value reads back. -/
def Durable (config : StoreConfig) (image : List UInt8) (appended : List Content) : Prop :=
  if (cutBack image).length ≤ config.maxBytes then
    appended = [] ∨ (((scanImage image).1.recovery.status = .ok ∨
      (scanImage image).1.recovery.tailTruncated = true) ∧ ∀ c ∈ appended, c.recoverable = true)
  else SiteStore.Lossless config (scanImage image).1 ∧ ∀ c ∈ appended, c.recoverable = true

/-- The contents of a file that has been cut back are those of its scan. -/
theorem readFile_cutBack {head : List UInt8} {segments : List Segment} {image : List UInt8}
    (headed : Headed head) (ends : Ends head segments image)
    (within : image.length ≤ Limits.maxMaxStoreBytes) :
    ∃ recovery, readFile (some image) = collect (accepted segments) recovery := by
  rw [readFile, if_neg (by omega)]
  cases ends with
  | boundary => exact ⟨_, by rw [scanImage_clean headed]⟩
  | stopped some refused whole =>
    obtain ⟨recovery, scanned, -⟩ := scanImage_stopped headed segments some refused
    exact ⟨recovery, by rw [scanned]⟩

theorem length_cutBack_le (image : List UInt8) : (cutBack image).length ≤ image.length := by
  unfold cutBack
  split
  · exact List.length_take_le' _ _
  · exact Nat.le_refl _

/-- An acknowledged append is returned by a later load, in addition to what the
scan accepted at open, exactly under the condition above. -/
theorem appended_returned_iff (config : StoreConfig) (io : Answers) (image : List UInt8)
    (calls : List (Answers × Content)) (s s' : SiteStore)
    (opened : SiteStore.openStore config io (some image) = (.ok, s))
    (appended : s.appends calls = some s') :
    Returned (scanImage image).1 (calls.map Prod.snd) s'.load ↔
      Durable config image (calls.map Prod.snd) := by
  obtain ⟨bounded, whole, usable, -, ways⟩ := SiteStore.openStore_ok opened
  obtain ⟨head, segments, recovery, headed, scanned, ends, boundary⟩ := cutBack_ends usable
  have kept : (scanImage image).1.held.Perm (accepted segments) := by
    rw [scanned]
    exact held_collect _ recovery
  have size := (length_cutBack_le image).trans whole
  rcases ways with ⟨room, open_⟩ | ⟨large, -, open_, room⟩
  · have limit := open_.bounded
    obtain ⟨later, -, fits, within⟩ := open_.appends appended
    rw [Durable, if_pos room, SiteStore.load_eq later.file (by omega)]
    generalize cut : cutBack image = base at *
    cases ends with
    | boundary =>
      have fine : (scanImage image).1.recovery.status = .ok ∨
          (scanImage image).1.recovery.tailTruncated = true := by
        rw [scanned]
        exact boundary.mp rfl
      rw [returned_boundary_iff headed segments kept.length_eq.ge fits]
      constructor
      · exact fun ⟨_, recoverable⟩ => .inr ⟨fine, recoverable⟩
      · rintro (none | ⟨-, recoverable⟩)
        · exact ⟨kept, fun c member => absurd (none ▸ member) List.not_mem_nil⟩
        · exact ⟨kept, recoverable⟩
    | @stopped tail defect some refused stays =>
      have bad : ¬ ((scanImage image).1.recovery.status = .ok ∨
          (scanImage image).1.recovery.tailTruncated = true) := by
        rw [scanned]
        intro fine
        have length := congrArg List.length (boundary.mpr fine)
        simp only [List.length_append] at length
        omega
      rw [returned_stopped_iff headed segments some refused stays kept]
      constructor
      · exact .inl
      · rintro (none | ⟨fine, -⟩)
        · exact none
        · exact absurd fine bad
  · obtain ⟨reread, same⟩ := readFile_cutBack headed ends size
    rw [same] at open_ room
    obtain ⟨more, bytes, values, -⟩ := SiteStore.scan_compacted config segments reread
    rw [bytes] at open_ room
    have limit := open_.bounded
    obtain ⟨later, -, fits, within⟩ := open_.appends appended
    have all : ∀ c ∈ (scanImage image).1.held, c.Accepted :=
      fun c member => mem_accepted (kept.mem_iff.mp member)
    have lossless := SiteStore.held_perm_kept_iff config all
    have short : (accepted more).length ≤ (scanImage image).1.held.length := by
      rw [values, List.length_map, scanned]
      exact SiteStore.length_kept_le config (collect (accepted segments) reread)
    rw [Durable, if_neg (by omega), SiteStore.load_eq later.file (by omega),
      returned_boundary_iff makeFileHeader_headed more short fits, values, ← lossless, scanned]
    rfl

end

/-- A file whose only record has lost its magic. -/
def damagedTail : List UInt8 := makeFileHeader ++ List.replicate 80 0

def sampleConfig : StoreConfig := { path := ascii "site.store" }

def sampleTombstone : Content := .tombstone (ascii "CLUSTER:c1/1/b1")

theorem appended_returned_sample :
    Returned (scanImage makeFileHeader).1 [sampleTombstone]
      (((SiteStore.openStore sampleConfig {} (some makeFileHeader)).2.append {}
        sampleTombstone).2.load) := by
  have opened : (SiteStore.openStore sampleConfig {} (some makeFileHeader)).1 = .ok := by
    decide +kernel
  have committed : ((SiteStore.openStore sampleConfig {} (some makeFileHeader)).2.append {}
      sampleTombstone).1 = .ok := by decide +kernel
  generalize opening : SiteStore.openStore sampleConfig {} (some makeFileHeader) = result at *
  obtain ⟨status, s⟩ := result
  cases opened
  refine (appended_returned_iff sampleConfig {} makeFileHeader [({}, sampleTombstone)] s _ opening
    (if_pos committed)).mpr ?_
  rw [Durable, if_pos (by decide +kernel)]
  exact .inr ⟨.inl (by decide +kernel), by decide +kernel⟩

/-- The store opens over a damaged record, acknowledges an append, and never
returns it. -/
theorem append_behind_damage :
    (SiteStore.openStore sampleConfig {} (some damagedTail)).1 = .ok ∧
      ((SiteStore.openStore sampleConfig {} (some damagedTail)).2.append {} sampleTombstone).1 =
        .ok ∧
      ¬ Returned (scanImage damagedTail).1 [sampleTombstone]
        ((SiteStore.openStore sampleConfig {} (some damagedTail)).2.append {}
          sampleTombstone).2.load := by
  refine ⟨by decide +kernel, by decide +kernel, ?_⟩
  rintro ⟨decoded, decodes, within⟩
  have none : ((SiteStore.openStore sampleConfig {} (some damagedTail)).2.append {}
      sampleTombstone).2.load.held = [] := by decide +kernel
  have one := decodes.length_eq
  have sizes := within.length_le
  rw [none, List.length_append, ← one] at sizes
  exact absurd sizes (by simp)

end SiteFabric.Store
