import SiteFabric.Codec.Records
import SiteFabric.Codec.Sites
import SiteFabric.Lib.StdSort
import SiteFabric.Lib.Stream

/-! The store's file format and its scanner.
A file is a header of 48 bytes and then records, each a header of 80 bytes that
carries two digests, and a payload. The scanner reads forward and stops at the
first record that does not verify; what it stopped on decides the report. -/

namespace SiteFabric

namespace Limits

def maxRecordPayloadBytes : Nat := 8 * 1024 * 1024
def maxMaxStoreBytes : Nat := 4 * 1024 * 1024 * 1024
def defaultMaxStoreBytes : Nat := 64 * 1024 * 1024
def maxMaxStoreRecords : Nat := 4 * 1024 * 1024
def defaultMaxStoreRecords : Nat := 65536
def defaultSnapshotHistory : Nat := 256

end Limits

namespace Store

open Lib Lib.Reader Authority

inductive RecordType where
  | unknown | storeHeader | snapshot | publication | retirement | tombstone | lease | checkpoint
deriving DecidableEq

/-- `kPersistenceFormatVersion`. -/
def persistenceFormatVersion : UInt32 := 1

/-- The letters SFABSTOR. -/
def fileMagic : List UInt8 := [0x53, 0x46, 0x41, 0x42, 0x53, 0x54, 0x4f, 0x52]

/-- The letters SFRC, little-endian. -/
def recordMagic : UInt32 := 0x43524653

def fileHeaderBytes : Nat := 48
def recordHeaderBytes : Nat := 80

def getU16 (data : List UInt8) : UInt16 :=
  (data.getD 0 0).toUInt16 ||| (data.getD 1 0).toUInt16 <<< 8

def getU32 (data : List UInt8) : UInt32 :=
  (data.getD 0 0).toUInt32 ||| (data.getD 1 0).toUInt32 <<< 8 |||
    (data.getD 2 0).toUInt32 <<< 16 ||| (data.getD 3 0).toUInt32 <<< 24

def putU16 (n : UInt16) : List UInt8 := [n.toUInt8, (n >>> 8).toUInt8]

def digestOf (data : List UInt8) : List UInt8 := (Sha256.digestBytes data).bytes

/-- The hashed part of a file header: magic, version and reserved bytes. -/
def fileFront : List UInt8 := fileMagic ++ Canonical.u32 persistenceFormatVersion ++ [0, 0, 0, 0]

def makeFileHeader : List UInt8 := fileFront ++ digestOf fileFront

/-- The version of a header that verifies. -/
def verifyFileHeader (data : List UInt8) : Option UInt32 :=
  if data.length < fileHeaderBytes then none
  else if data.take 8 ≠ fileMagic then none
  else if digestOf (data.take 16) ≠ (data.drop 16).take 32 then none
  else some (getU32 (data.drop 8))

/-- The hashed part of a record header: magic, type, flags, payload length,
reserved bytes and the digest of the payload. -/
def recordFront (type : RecordType) (payload : List UInt8) : List UInt8 :=
  Canonical.u32 recordMagic ++ putU16 (UInt16.ofNat type.ctorIdx) ++ [0, 0] ++
    Canonical.u32 (UInt32.ofNat payload.length) ++ Canonical.u32 0 ++ digestOf payload

def makeRecord (type : RecordType) (payload : List UInt8) : List UInt8 :=
  if payload.length > Limits.maxRecordPayloadBytes ∨ payload.length > 0xFFFFFFFF then []
  else recordFront type payload ++ digestOf (recordFront type payload) ++ payload

/-- What a record contributes to the contents of a store. -/
inductive Content where
  | snapshot (s : SiteSnapshot)
  | publication (r : MemberPublicationRecord)
  | retirement (r : MemberRetirementRecord)
  | tombstone (t : Text)
  | lease (t : AuthorityToken)
deriving DecidableEq

/-- A payload read to its end. -/
def decodeWhole {α : Type} (read : Decoder α) (payload : List UInt8) : Except Fault α :=
  match (do let a ← read; CanonicalReader.finish; return a : Decoder α) payload with
  | .ok (a, _) => .ok a
  | .error fault => .error fault

/-- A checkpoint verifies and contributes nothing. -/
def decodeRecord (type : RecordType) (payload : List UInt8) : Except Fault (Option Content) :=
  match type with
  | .snapshot => (decodeWhole Codec.snapshotBody.read payload).map (some ∘ .snapshot)
  | .publication => (decodeWhole Codec.publicationRecord.read payload).map (some ∘ .publication)
  | .retirement => (decodeWhole Codec.retirementRecord.read payload).map (some ∘ .retirement)
  | .lease => (decodeWhole Codec.authorityToken.read payload).map (some ∘ .lease)
  | .tombstone =>
    (decodeWhole (CanonicalReader.text Limits.maxTextBytes) payload).map (some ∘ .tombstone)
  | .checkpoint => decodeWhole (pure none) payload
  | .unknown | .storeHeader => .error .unsupported

/-- A snapshot carries the digest of its state; other records have nothing to check. -/
def stateVerifies : Option Content → Bool
  | some (.snapshot s) => composedSiteDigest s.state == s.siteDigest
  | _ => true

/-- What the scanner stops on. -/
inductive Defect where
  | headerTruncated
  | magicMismatch
  | headerDigestMismatch
  | unknownType
  | payloadAboveBound
  | payloadTruncated
  | payloadDigestMismatch
  | decodeFailed (fault : Fault)
  | stateDigestMismatch
deriving DecidableEq

namespace Defect

def status : Defect → Status
  | .headerTruncated | .payloadTruncated => .truncated
  | .magicMismatch | .headerDigestMismatch | .unknownType => .corrupt
  | .payloadAboveBound => .limitExceeded
  | .payloadDigestMismatch | .stateDigestMismatch => .integrityFailure
  | .decodeFailed fault => fault.status

/-- A tail that ends before its record does. -/
def tailTruncated : Defect → Bool
  | .headerTruncated | .payloadTruncated => true
  | _ => false

def digestMismatch : Defect → Bool
  | .headerDigestMismatch | .payloadDigestMismatch | .stateDigestMismatch => true
  | _ => false

/-- Whether the record was counted as scanned before the scan stopped on it. -/
def scanned : Defect → Bool
  | .payloadTruncated | .payloadDigestMismatch | .decodeFailed _ | .stateDigestMismatch => true
  | _ => false

def diagnostic (offset : Nat) : Defect → Text
  | .headerTruncated => ascii "record header truncated at offset " ++ decimal offset
  | .magicMismatch => ascii "record magic mismatch at offset " ++ decimal offset
  | .headerDigestMismatch => ascii "record header digest mismatch at offset " ++ decimal offset
  | .unknownType => ascii "unknown record type at offset " ++ decimal offset
  | .payloadAboveBound => ascii "record payload above the bound at offset " ++ decimal offset
  | .payloadTruncated => ascii "record payload truncated at offset " ++ decimal offset
  | .payloadDigestMismatch => ascii "record payload digest mismatch at offset " ++ decimal offset
  | .decodeFailed fault =>
    ascii "record decode failed at offset " ++ decimal offset ++ ascii ": " ++
      fault.status.token
  | .stateDigestMismatch => ascii "snapshot state digest mismatch at offset " ++ decimal offset

end Defect

/-- The last two checks on a record: it decodes, and a snapshot's state verifies. -/
def acceptPayload (type : RecordType) (payload : List UInt8) : Except Defect (Option Content) :=
  match decodeRecord type payload with
  | .error fault => .error (.decodeFailed fault)
  | .ok decoded =>
    if stateVerifies decoded then .ok decoded else .error .stateDigestMismatch

/-- The checks on a record header: the type and the payload length it declares. -/
def verifyRecordHeader (header : List UInt8) : Except Defect (RecordType × Nat) :=
  if getU32 header ≠ recordMagic then .error .magicMismatch
  else if digestOf (header.take 48) ≠ (header.drop 48).take 32 then .error .headerDigestMismatch
  else if (getU16 (header.drop 4)).toNat > RecordType.checkpoint.ctorIdx then .error .unknownType
  else if (getU32 (header.drop 8)).toNat > Limits.maxRecordPayloadBytes then
    .error .payloadAboveBound
  else .ok (RecordType.ofNat (getU16 (header.drop 4)).toNat, (getU32 (header.drop 8)).toNat)

/-- One round of the scan: the record at the front of the rest of the image. -/
def readRecord : Reader Defect (Option Content) := fun rest =>
  if rest.length < recordHeaderBytes then .error .headerTruncated
  else match verifyRecordHeader rest with
    | .error defect => .error defect
    | .ok (type, payloadBytes) =>
      if rest.length - recordHeaderBytes < payloadBytes then .error .payloadTruncated
      else
        let payload := (rest.drop recordHeaderBytes).take payloadBytes
        if digestOf payload ≠ (rest.drop 16).take 32 then .error .payloadDigestMismatch
        else match acceptPayload type payload with
          | .error defect => .error defect
          | .ok decoded => .ok (decoded, rest.drop (recordHeaderBytes + payloadBytes))

structure StoreRecoveryReport where
  status : Status := .unknown
  recordsScanned : Nat := 0
  recordsAccepted : Nat := 0
  recordsRejected : Nat := 0
  bytesConsumed : Nat := 0
  bytesTruncated : Nat := 0
  headerPresent : Bool := false
  tailTruncated : Bool := false
  versionIncompatible : Bool := false
  digestMismatch : Bool := false
  diagnostics : List Text := []
deriving DecidableEq

def StoreRecoveryReport.usable (r : StoreRecoveryReport) : Bool :=
  r.headerPresent && !r.versionIncompatible

structure StoreContents where
  hasSnapshot : Bool := false
  latestSnapshot : SiteSnapshot := {}
  snapshotHistory : List SiteSnapshot := []
  publications : List MemberPublicationRecord := []
  retirements : List MemberRetirementRecord := []
  tombstones : List Text := []
  leases : List AuthorityToken := []
  recovery : StoreRecoveryReport := {}
deriving DecidableEq

def StoreContents.recordCount (c : StoreContents) : Nat :=
  c.snapshotHistory.length + c.publications.length + c.retirements.length +
    c.tombstones.length + c.leases.length

def publicationPrecedes (left right : MemberPublicationRecord) : Bool :=
  if left.domain ≠ right.domain then left.domain < right.domain
  else left.generation < right.generation

namespace Content

def snapshot? : Content → Option SiteSnapshot
  | .snapshot s => some s
  | _ => none

def publication? : Content → Option MemberPublicationRecord
  | .publication r => some r
  | _ => none

def retirement? : Content → Option MemberRetirementRecord
  | .retirement r => some r
  | _ => none

def tombstone? : Content → Option Text
  | .tombstone t => some t
  | _ => none

def lease? : Content → Option AuthorityToken
  | .lease t => some t
  | _ => none

end Content

/-- What a scan leaves: the records it accepted in file order, what stopped it,
and where. -/
abbrev Scan := Framing Defect (Option Content)

def Scan.contents (s : Scan) : List Content := s.frames.reduceOption

/-- The report of a scan that got past the file header. -/
def Scan.report (s : Scan) (imageBytes : Nat) : StoreRecoveryReport :=
  let offset := imageBytes - s.tail.length
  { headerPresent := true
    status := (s.stop.map Defect.status).getD .ok
    recordsAccepted := s.frames.length
    recordsScanned := s.frames.length + if s.stop.any Defect.scanned then 1 else 0
    recordsRejected :=
      if s.stop.any fun d => !d.status.isOk && d.status != .truncated then 1 else 0
    bytesConsumed := offset
    bytesTruncated :=
      if s.stop.any fun d => d.tailTruncated || !d.status.isOk then imageBytes - offset else 0
    tailTruncated := s.stop.any Defect.tailTruncated
    digestMismatch := s.stop.any Defect.digestMismatch
    diagnostics := s.stop.toList.map (Defect.diagnostic offset) }

/-- The contents of accepted records: snapshots by sequence, publications by
domain and generation with ties as they were written. -/
def collect [StdSort] (accepted : List Content) (recovery : StoreRecoveryReport) :
    StoreContents :=
  let snapshotHistory := sort (byKey (·.sequence.toNat)) (accepted.filterMap Content.snapshot?)
  { hasSnapshot := !snapshotHistory.isEmpty
    latestSnapshot := snapshotHistory.getLast?.getD {}
    snapshotHistory
    publications := stableSort publicationPrecedes (accepted.filterMap Content.publication?)
    retirements := accepted.filterMap Content.retirement?
    tombstones := accepted.filterMap Content.tombstone?
    leases := accepted.filterMap Content.lease?
    recovery }

/-- The record loop of the scan, on what follows the file header. -/
def scanRecords (image : List UInt8) : Scan := stream readRecord (image.drop fileHeaderBytes)

/-- `scan_image`: the contents, and the offset the scan consumed up to. -/
def scanImage [StdSort] (image : List UInt8) : StoreContents × Nat :=
  if image.length < fileHeaderBytes then
    ({ recovery :=
        { status := .notFound, diagnostics := [ascii "file smaller than the store header"] } }, 0)
  else match verifyFileHeader image with
    | none =>
      ({ recovery :=
          { status := .corrupt
            diagnostics := [ascii "store header magic or digest mismatch"] } }, 0)
    | some version =>
      if version ≠ persistenceFormatVersion then
        ({ recovery :=
            { headerPresent := true, bytesConsumed := fileHeaderBytes
              versionIncompatible := true, status := .unsupportedFormat
              diagnostics := [ascii "store format version " ++ decimal version.toNat ++
                ascii " is not " ++ decimal persistenceFormatVersion.toNat] } }, 0)
      else
        let scan := scanRecords image
        (collect (Scan.contents scan) (Scan.report scan image.length),
          image.length - scan.tail.length)

end Store

end SiteFabric
