import SiteFabric.Store.Format
import SiteFabric.Lib.Maps

/-! The append-only store.
The store object holds a handle, its counters and the file at its path. The
file system answers for itself: a write may leave any beginning of a record in
the file, a flush or a sync may fail after the bytes are written, and an atomic
replacement may fail and leave the old file. Opening, seeking and reading an
existing file succeed. -/

namespace SiteFabric.Store

open Lib Authority
open Std (ExtTreeMap)

structure StoreConfig where
  path : Text := Text.empty
  maxBytes : Nat := Limits.defaultMaxStoreBytes
  maxRecords : Nat := Limits.defaultMaxStoreRecords
  snapshotHistory : Nat := Limits.defaultSnapshotHistory
  durableCommit : Bool := false
deriving DecidableEq

/-- What the file system answers during one call. -/
structure Answers where
  /-- `ensure_directory` -/
  directory : Status := .ok
  /-- `write_file_atomic`; the old file stays when it fails -/
  replaced : Status := .ok
  /-- `truncate_file` -/
  truncated : Status := .ok
  /-- bytes of a record that `fwrite` fell short of -/
  shortfall : Nat := 0
  /-- `fflush`, after the bytes are written -/
  flushed : Bool := true
  /-- `sync_path`, after the bytes are written -/
  synced : Status := .ok
deriving DecidableEq

structure SiteStore where
  config : StoreConfig := {}
  handle : Bool := false
  bytes : Nat := 0
  records : Nat := 0
  report : StoreRecoveryReport := {}
  file : Option (List UInt8) := none
deriving DecidableEq

namespace Content

def type : Content → RecordType
  | .snapshot _ => .snapshot
  | .publication _ => .publication
  | .retirement _ => .retirement
  | .tombstone _ => .tombstone
  | .lease _ => .lease

def payload : Content → List UInt8
  | .snapshot s => s.write
  | .publication r => r.write
  | .retirement r => r.write
  | .tombstone t => Canonical.text t
  | .lease t => t.write

def record (c : Content) : List UInt8 := makeRecord c.type c.payload

end Content

/-- `SiteStore::read_file`; the status it returns is the one of the report. -/
def readFile [StdSort] : Option (List UInt8) → StoreContents
  | none => { recovery := { status := .notFound } }
  | some image =>
    if image.length > Limits.maxMaxStoreBytes then { recovery := { status := .limitExceeded } }
    else (scanImage image).1

/-- The newest publication of each domain: the highest generation, then the
highest acceptance sequence. -/
def newestPublication (publications : List MemberPublicationRecord) :
    ExtTreeMap MemberDomainKey MemberPublicationRecord compare :=
  publications.foldl (fun newest record =>
    match newest[record.domain]? with
    | none => newest.insert record.domain record
    | some found =>
      if found.generation < record.generation ∨ (found.generation = record.generation ∧
          found.acceptanceSequence < record.acceptanceSequence) then
        newest.insert record.domain record
      else newest) ∅

namespace SiteStore

/-- Commits one encoded record, enforcing both bounds. -/
def appendRecord (s : SiteStore) (io : Answers) (type : RecordType) (payload : List UInt8) :
    Status × SiteStore :=
  if !s.handle then (.stopped, s)
  else if payload.length > Limits.maxRecordPayloadBytes then (.limitExceeded, s)
  else
    let record := makeRecord type payload
    if s.bytes + record.length > s.config.maxBytes then (.limitExceeded, s)
    else if s.records + 1 > s.config.maxRecords then (.limitExceeded, s)
    else
      let written := record.length - io.shortfall
      let wrote := { s with file := s.file.map (· ++ record.take written) }
      if written ≠ record.length then (.truncated, wrote)
      else if !io.flushed then (.invalid, wrote)
      else if s.config.durableCommit && !io.synced.isOk then (io.synced, wrote)
      else (.ok, { wrote with bytes := s.bytes + record.length, records := s.records + 1 })

def appendSnapshot (s : SiteStore) (io : Answers) (snapshot : SiteSnapshot) : Status × SiteStore :=
  s.appendRecord io .snapshot snapshot.write

def appendPublication (s : SiteStore) (io : Answers) (record : MemberPublicationRecord) :
    Status × SiteStore :=
  s.appendRecord io .publication record.write

def appendRetirement (s : SiteStore) (io : Answers) (record : MemberRetirementRecord) :
    Status × SiteStore :=
  s.appendRecord io .retirement record.write

def appendTombstone (s : SiteStore) (io : Answers) (tombstone : Text) : Status × SiteStore :=
  s.appendRecord io .tombstone (Canonical.text tombstone)

def appendLease (s : SiteStore) (io : Answers) (token : AuthorityToken) : Status × SiteStore :=
  s.appendRecord io .lease token.write

/-- The append of a value, whatever its kind. -/
def append (s : SiteStore) (io : Answers) : Content → Status × SiteStore
  | .snapshot snapshot => s.appendSnapshot io snapshot
  | .publication record => s.appendPublication io record
  | .retirement record => s.appendRetirement io record
  | .tombstone tombstone => s.appendTombstone io tombstone
  | .lease token => s.appendLease io token

def load [StdSort] (s : SiteStore) : StoreContents := readFile s.file

/-- How many of the oldest snapshots compaction drops. -/
def firstKept (config : StoreConfig) (contents : StoreContents) : Nat :=
  let limit :=
    if config.snapshotHistory = 0 then Limits.defaultSnapshotHistory else config.snapshotHistory
  if contents.snapshotHistory.length > limit then contents.snapshotHistory.length - limit else 0

/-- What compaction writes back, in the order it writes it. -/
def kept (config : StoreConfig) (contents : StoreContents) : List Content :=
  (contents.snapshotHistory.drop (firstKept config contents)).map .snapshot ++
    ((newestPublication contents.publications).toList.map Prod.snd).map .publication ++
    contents.retirements.map .retirement ++ contents.tombstones.map .tombstone ++
    contents.leases.map .lease

def compactedImage (config : StoreConfig) (contents : StoreContents) : List UInt8 :=
  makeFileHeader ++ (kept config contents).flatMap Content.record

/-- `compact_locked`: the status, the store, and the number of records dropped. -/
def compact [StdSort] (s : SiteStore) (io : Answers) : Status × SiteStore × Nat :=
  if s.config.path.isEmpty then (.invalid, s, 0)
  else
    let contents := readFile s.file
    let loaded := contents.recovery.status
    if !loaded.isOk && loaded != .truncated then (loaded, s, 0)
    else
      let newest := newestPublication contents.publications
      let dropped := firstKept s.config contents + (contents.publications.length - newest.size)
      let image := compactedImage s.config contents
      if image.length > s.config.maxBytes then (.limitExceeded, s, dropped)
      else if !io.replaced.isOk then (io.replaced, { s with handle := false }, dropped)
      else
        (.ok,
          { s with
            handle := true, file := some image, bytes := image.length
            records := (kept s.config contents).length },
          dropped)

/-- The end of `open`: the handle stands at the end of the file, and a file
above the bound is compacted. -/
def openAtEnd [StdSort] (s : SiteStore) (io : Answers) (image : List UInt8) : Status × SiteStore :=
  let s := { s with handle := true, bytes := image.length, file := some image }
  if s.bytes > s.config.maxBytes then
    let (status, s, _) := s.compact io
    if !status.isOk then (status, s) else (.ok, s)
  else (.ok, s)

/-- `SiteStore::open` on the file at the configured path. -/
def openStore [StdSort] (config : StoreConfig) (io : Answers) (file : Option (List UInt8)) :
    Status × SiteStore :=
  let s : SiteStore := { config, file }
  if config.path.isEmpty then (.invalid, s)
  else if config.maxBytes = 0 ∨ config.maxBytes > Limits.maxMaxStoreBytes then (.invalid, s)
  else if config.maxRecords = 0 ∨ config.maxRecords > Limits.maxMaxStoreRecords then (.invalid, s)
  else if !io.directory.isOk then (io.directory, s)
  else match file with
    | none =>
      if !io.replaced.isOk then (io.replaced, s) else s.openAtEnd io makeFileHeader
    | some image =>
      if image.length > Limits.maxMaxStoreBytes then
        (.limitExceeded, { s with report := { status := .limitExceeded } })
      else
        let (contents, consumed) := scanImage image
        let s := { s with report := contents.recovery }
        if !contents.recovery.usable then (contents.recovery.status, s)
        else if consumed < image.length ∧ contents.recovery.tailTruncated then
          -- a torn tail is cut back so that the next append starts on a boundary
          if !io.truncated.isOk then (io.truncated, s)
          else { s with records := contents.recordCount }.openAtEnd io (image.take consumed)
        else { s with records := contents.recordCount }.openAtEnd io image

/-- `SiteStore::close`: the bytes are in the file already. -/
def close (s : SiteStore) (io : Answers) : Status × SiteStore :=
  if !s.handle then (.ok, s)
  else (if io.flushed then .ok else .invalid, { s with handle := false })

end SiteStore

end SiteFabric.Store
