import SiteFabric.Store.Opening
import SiteFabric.Lib.Run

/-! The bounds of a store over its whole life.
The two counters come from the file when it is opened, from the records that are
appended, and from what a compaction keeps. As long as the file system does what
it is asked and every record reads back, they are the length of the file and the
number of records in it. -/

namespace SiteFabric.Store

open Lib Lib.Reader

inductive StoreCall where
  | opened (config : StoreConfig)
  | append (content : Content)
  | compact
  | close

/-- One bound on the bytes of a file and one on its records, at one path. -/
structure Bounds where
  path : Text
  maxBytes : Nat
  maxRecords : Nat

namespace SiteStore

section

variable [StdSort]

/-- A call on a store whose file operations succeed. -/
def step (s : SiteStore) : StoreCall → SiteStore
  | .opened config => (openStore config {} s.file).2
  | .append content => (s.append {} content).2
  | .compact => (s.compact {}).2.1
  | .close => (s.close {}).2

/-- An open returns OK under the bounds, and a record that is appended reads back. -/
def Proper (b : Bounds) (s : SiteStore) : StoreCall → Prop
  | .opened config => config.path = b.path ∧ config.maxBytes = b.maxBytes ∧
      config.maxRecords = b.maxRecords ∧ (openStore config {} s.file).1 = .ok
  | .append content => content.recoverable = true
  | .compact => True
  | .close => True

instance (b : Bounds) (s : SiteStore) : ∀ call, Decidable (Proper b s call)
  | .opened _ => inferInstanceAs (Decidable (_ ∧ _))
  | .append _ => inferInstanceAs (Decidable (_ = _))
  | .compact => instDecidableTrue
  | .close => instDecidableTrue

/-- A file of whole records within the bounds. -/
structure Within (b : Bounds) (image : List UInt8) (segments : List Segment) : Prop where
  layout : image = makeFileHeader ++ joined segments
  counted : (accepted segments).length = segments.length
  bytes : image.length ≤ b.maxBytes
  records : segments.length ≤ b.maxRecords

/-- A store that has been opened: its file is within the bounds, and its counters
are right while it is open. -/
structure Exact (b : Bounds) (s : SiteStore) (image : List UInt8) (segments : List Segment) :
    Prop where
  file : s.file = some image
  within : Within b image segments
  maxBytes : s.config.maxBytes = b.maxBytes
  maxRecords : s.config.maxRecords = b.maxRecords
  limit : b.maxBytes ≤ Limits.maxMaxStoreBytes
  counters : s.handle = true → s.bytes = image.length ∧ s.records = segments.length

/-- No call but an open makes anything of a store that was never opened. -/
def Sound (b : Bounds) (s : SiteStore) : Prop :=
  s = {} ∨ ∃ image segments, s.Exact b image segments

theorem Within.scan {b : Bounds} {image : List UInt8} {segments : List Segment}
    (within : Within b image segments) :
    ∃ report, scanImage image = (collect (accepted segments) report, image.length) ∧
      report.status = .ok ∧ report.usable = true ∧ report.recordsAccepted = segments.length := by
  obtain ⟨rfl, -, -, -⟩ := within
  rw [scanImage_clean makeFileHeader_headed]
  exact ⟨_, rfl, rfl, rfl, rfl⟩

theorem recordCount_collect (xs : List Content) (report : StoreRecoveryReport) :
    (collect xs report).recordCount = xs.length := by
  have held := (held_collect xs report).length_eq
  simpa [StoreContents.held, byKind, StoreContents.recordCount, Nat.add_assoc] using held

omit [StdSort] in
theorem Exact.append {b : Bounds} {s : SiteStore} {image : List UInt8} {segments : List Segment}
    (exact_ : s.Exact b image segments) {content : Content} (recoverable : content.recoverable = true) :
    (s.append {} content).2.Sound b := by
  rcases append_cases s {} content with ⟨-, same⟩ | ⟨handle, fits, room, many, outcome⟩
  · rw [same]
    exact .inr ⟨image, segments, exact_⟩
  have ok := append_of_room handle fits room many
  rcases outcome with ⟨failed, -⟩ | ⟨-, -, after⟩
  · exact absurd ok failed
  obtain ⟨bytes, records⟩ := exact_.counters handle
  have record : joined (segments ++ [content.segment recoverable fits]) =
      joined segments ++ content.record := by
    rw [joined_append]
    exact congrArg _ (List.append_nil _)
  refine .inr ⟨image ++ content.record, segments ++ [content.segment recoverable fits], ?_⟩
  rw [after]
  refine ⟨?_, ⟨?_, ?_, ?_, ?_⟩, exact_.maxBytes, exact_.maxRecords, exact_.limit, fun _ => ⟨?_, ?_⟩⟩
  · dsimp only
    rw [exact_.file]
    rfl
  · rw [record, exact_.within.layout, List.append_assoc]
  · rw [accepted_append, List.length_append, List.length_append, exact_.within.counted]
    rfl
  · rw [List.length_append, ← bytes, ← exact_.maxBytes]
    exact room
  · rw [List.length_append, ← records, ← exact_.maxRecords]
    exact many
  · rw [List.length_append, ← bytes]
  · rw [List.length_append, ← records]
    rfl

/-- A compaction keeps no more records than it read. -/
theorem exact_compact {b : Bounds} {s : SiteStore} {segments : List Segment}
    {report : StoreRecoveryReport}
    (read : readFile s.file = collect (accepted segments) report)
    (many : segments.length ≤ b.maxRecords) (maxBytes : s.config.maxBytes = b.maxBytes)
    (maxRecords : s.config.maxRecords = b.maxRecords) (limit : b.maxBytes ≤ Limits.maxMaxStoreBytes)
    (ok : (s.compact {}).1.isOk = true) :
    ∃ left parts, (s.compact {}).2.1.Exact b left parts := by
  rcases compact_cases s {} with ⟨failed, -⟩ | ⟨failed, -⟩ | ⟨-, -, room, after⟩
  · rw [ok] at failed
    cases failed
  · rw [ok] at failed
    cases failed
  rw [read] at room after
  obtain ⟨more, bytes, values, length⟩ := scan_compacted s.config segments report
  have fewer : more.length ≤ segments.length :=
    calc more.length = (kept s.config (collect (accepted segments) report)).length := length
      _ ≤ (collect (accepted segments) report).held.length := length_kept_le _ _
      _ = (accepted segments).length := (held_collect _ report).length_eq
      _ ≤ segments.length := (List.reduceOption_length_le _).trans_eq (List.length_map _)
  refine ⟨compactedImage s.config (collect (accepted segments) report), more, ?_⟩
  rw [after]
  exact {
    file := rfl
    within := {
      layout := bytes
      counted := by rw [values, List.length_map, length]
      bytes := maxBytes ▸ room
      records := fewer.trans many }
    maxBytes, maxRecords, limit
    counters := fun _ => ⟨rfl, length.symm⟩ }

/-- The end of an open whose records have been counted. -/
theorem exact_openAtEnd {b : Bounds} {s : SiteStore} {image : List UInt8} {segments : List Segment}
    (layout : image = makeFileHeader ++ joined segments)
    (counted : (accepted segments).length = segments.length)
    (records : s.records = segments.length) (many : segments.length ≤ b.maxRecords)
    (size : image.length ≤ Limits.maxMaxStoreBytes) (maxBytes : s.config.maxBytes = b.maxBytes)
    (maxRecords : s.config.maxRecords = b.maxRecords) (limit : b.maxBytes ≤ Limits.maxMaxStoreBytes)
    (ok : (s.openAtEnd {} image).1 = .ok) :
    ∃ left parts, (s.openAtEnd {} image).2.Exact b left parts := by
  unfold openAtEnd at ok ⊢
  dsimp only at ok ⊢
  by_cases large : image.length > s.config.maxBytes
  · rw [if_pos large] at ok ⊢
    generalize begun : ({ s with handle := true, bytes := image.length, file := some image } :
      SiteStore) = t at ok ⊢
    have read : ∃ report, readFile t.file = collect (accepted segments) report := by
      rw [← begun]
      exact ⟨_, by rw [readFile, if_neg (by omega), layout, scanImage_clean makeFileHeader_headed]⟩
    obtain ⟨report, read⟩ := read
    have same : t.config = s.config := by rw [← begun]
    by_cases failed : (!(t.compact {}).1.isOk) = true
    · rw [if_pos failed] at ok
      rw [show (t.compact {}).1 = .ok from ok] at failed
      cases failed
    · rw [if_neg failed]
      exact exact_compact read many (same ▸ maxBytes) (same ▸ maxRecords) limit
        (by simpa using failed)
  · rw [if_neg large]
    exact ⟨image, segments, {
      file := rfl
      within := ⟨layout, counted, by omega, many⟩
      maxBytes, maxRecords, limit
      counters := fun _ => ⟨rfl, records⟩ }⟩

theorem exact_opened {b : Bounds} {s : SiteStore} {config : StoreConfig} (sound : s.Sound b)
    (maxBytes : config.maxBytes = b.maxBytes) (maxRecords : config.maxRecords = b.maxRecords)
    (ok : (openStore config {} s.file).1 = .ok) :
    ∃ image segments, (openStore config {} s.file).2.Exact b image segments := by
  rcases sound with rfl | ⟨image, segments, exact_⟩
  · obtain ⟨limit, opened⟩ := openStore_missing ok
    rw [maxBytes] at limit
    have empty : makeFileHeader = makeFileHeader ++ joined ([] : List Segment) := by
      rw [joined_nil, List.append_nil]
    have size : makeFileHeader.length ≤ Limits.maxMaxStoreBytes := by
      rw [makeFileHeader_headed.size]
      decide
    rw [opened] at ok ⊢
    exact exact_openAtEnd empty rfl rfl (Nat.zero_le _) size maxBytes maxRecords limit ok
  · obtain ⟨report, scanned, -, -, -⟩ := exact_.within.scan
    rw [exact_.file] at ok ⊢
    have opened := openStore_whole ok (by rw [scanned])
    have counted : (scanImage image).1.recordCount = segments.length := by
      rw [scanned, recordCount_collect, exact_.within.counted]
    rw [opened] at ok ⊢
    exact exact_openAtEnd exact_.within.layout exact_.within.counted counted
      exact_.within.records (exact_.within.bytes.trans exact_.limit) maxBytes maxRecords
      exact_.limit ok

theorem Sound.step {b : Bounds} {s : SiteStore} (sound : s.Sound b) (call : StoreCall)
    (proper : s.Proper b call) : (s.step call).Sound b := by
  cases call with
  | opened config =>
    obtain ⟨-, maxBytes, maxRecords, ok⟩ := proper
    exact .inr (exact_opened sound maxBytes maxRecords ok)
  | append content =>
    rcases sound with rfl | ⟨image, segments, exact_⟩
    · exact .inl (by rw [SiteStore.step, append_eq]; rfl)
    · exact exact_.append proper
  | compact =>
    rcases sound with rfl | ⟨image, segments, exact_⟩
    · exact .inl rfl
    obtain ⟨report, scanned, -, -, -⟩ := exact_.within.scan
    have read : readFile s.file = collect (accepted segments) report := by
      rw [exact_.file, readFile, if_neg (Nat.not_lt.mpr (exact_.within.bytes.trans exact_.limit)),
        scanned]
    rcases compact_cases s {} with ⟨-, same⟩ | ⟨-, failed, -⟩ | ⟨ok, -⟩
    · exact .inr ⟨image, segments, by rw [SiteStore.step, same]; exact exact_⟩
    · cases failed
    · exact .inr (exact_compact read exact_.within.records exact_.maxBytes exact_.maxRecords
        exact_.limit (by rw [ok]; rfl))
  | close =>
    rcases sound with rfl | ⟨image, segments, exact_⟩
    · exact .inl rfl
    · refine .inr ⟨image, segments, ?_⟩
      rw [SiteStore.step, close]
      split
      · exact exact_
      · exact { exact_ with counters := fun open_ => by cases open_ }

theorem step_sound {b : Bounds} (calls : List StoreCall)
    (proper : Guarded step (Proper b) {} calls) : (run step {} calls).Sound b :=
  run_invariant (Sound b) (fun _ call sound ok => sound.step call ok) calls (.inl rfl) proper

omit [StdSort] in
/-- A refused append commits nothing. -/
theorem append_refused {s : SiteStore} {c : Content} (refused : (s.append {} c).1 = .limitExceeded) :
    (s.append {} c).2 = s := by
  rcases append_cases s {} c with ⟨-, same⟩ | ⟨handle, fits, room, many, -⟩
  · exact same
  · rw [append_of_room handle fits room many] at refused
    cases refused

/-- After every run of proper calls from a missing file the file and its records
are within the bounds, and the counters of an open store are right. -/
theorem store_within_bounds (b : Bounds) (calls : List StoreCall)
    (proper : Guarded step (Proper b) {} calls) :
    (∀ image, (run step {} calls).file = some image →
      image.length ≤ b.maxBytes ∧ (scanImage image).1.recovery.recordsAccepted ≤ b.maxRecords ∧
      (scanImage image).1.recovery.status = .ok) ∧
    ((run step {} calls).handle = true → ∃ image, (run step {} calls).file = some image ∧
      (run step {} calls).bytes = image.length ∧
      (run step {} calls).records = (scanImage image).1.recovery.recordsAccepted) ∧
    ∀ content, ((run step {} calls).append {} content).1 = .limitExceeded →
      ((run step {} calls).append {} content).2.file = (run step {} calls).file := by
  refine ⟨?_, ?_, fun content refused => by rw [append_refused refused]⟩
  · intro image file
    rcases step_sound calls proper with never | ⟨other, segments, exact_⟩
    · rw [never] at file
      cases file
    · obtain rfl := Option.some.inj (exact_.file.symm.trans file)
      obtain ⟨report, scanned, clean, -, count⟩ := exact_.within.scan
      have read : (scanImage other).1.recovery = report := by rw [scanned]; rfl
      rw [read, count]
      exact ⟨exact_.within.bytes, exact_.within.records, clean⟩
  · intro handle
    rcases step_sound calls proper with never | ⟨image, segments, exact_⟩
    · rw [never] at handle
      cases handle
    · obtain ⟨report, scanned, -, -, count⟩ := exact_.within.scan
      have read : (scanImage image).1.recovery = report := by rw [scanned]; rfl
      obtain ⟨bytes, records⟩ := exact_.counters handle
      exact ⟨image, exact_.file, bytes, by rw [read, count, records]⟩

end

/-- Room for one record, which is what a store is left with after it was filled,
compacted and opened again. -/
def oneRecord : Bounds := { path := ascii "site.store", maxBytes := 4096, maxRecords := 1 }

def oneRecordConfig : StoreConfig := { sampleConfig with maxBytes := 4096, maxRecords := 1 }

def oneRecordCalls : List StoreCall :=
  [.opened oneRecordConfig, .append sampleTombstone, .append sampleTombstone, .compact, .close,
    .opened oneRecordConfig]

theorem second_record_is_refused :
    ((run step {} oneRecordCalls).append {} sampleTombstone).1 = .limitExceeded ∧
      ((run step {} oneRecordCalls).append {} sampleTombstone).2.file =
        (run step {} oneRecordCalls).file := by
  have ran : Guarded step (Proper oneRecord) {} oneRecordCalls ∧
      ((run step {} oneRecordCalls).append {} sampleTombstone).1 = .limitExceeded := by
    decide +kernel
  obtain ⟨proper, refused⟩ := ran
  exact ⟨refused, (store_within_bounds oneRecord oneRecordCalls proper).2.2 _ refused⟩

end SiteStore

end SiteFabric.Store
