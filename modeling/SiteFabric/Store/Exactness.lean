import SiteFabric.Codec.Exactness
import SiteFabric.Store.Damage

/-! The bytes the scanner skips.
A file header has four reserved bytes, and a record header two bytes of flags and
four reserved bytes. The digests cover them and nothing else looks at them: the
store writes zeros, and the scanner takes any. -/

namespace SiteFabric.Store

open Lib Lib.Reader CanonicalReader

/-- A record as the scanner takes it. -/
structure Frame where
  record : ValidRecord
  flags : UInt16 := 0
  reserved : UInt32 := 0

namespace Frame

def header (f : Frame) : List UInt8 := headerOf f.flags f.reserved f.record.type f.record.payload

def bytes (f : Frame) : List UInt8 := f.header ++ f.record.payload

theorem length_header (f : Frame) : f.header.length = 80 := length_headerOf ..

def segment (f : Frame) : Segment where
  bytes := f.bytes
  frame := f.record.decoded
  solid := by
    rw [bytes, List.length_append, length_header]
    omega
  whole rest := by
    have accepts : acceptPayload f.record.type f.record.payload = .ok f.record.decoded := by
      rw [acceptPayload, f.record.decodes]
      simp only [f.record.verifies, if_true]
    rw [bytes, header, readRecord_headerOf _ _ _ f.record.fits, accepts]
    rfl

/-- The flags and the reserved bytes stand where the scanner finds them. -/
theorem skipped (f : Frame) : getU16 (f.bytes.drop 6) = f.flags ∧
    getU32 (f.bytes.drop 12) = f.reserved := by
  constructor
  · simp only [bytes, header, headerOf, frontOf, List.append_assoc]
    exact getU16_putU16 _ _
  · simp only [bytes, header, headerOf, frontOf, List.append_assoc]
    exact getU32_u32 _ _

theorem bytes_record (r : ValidRecord) : bytes { record := r } = r.bytes := by
  rw [ValidRecord.bytes, makeRecord_eq r.fits, recordHeader_eq, bytes, header]

end Frame

/-- The image of some frames behind a file header. -/
def framed (reserved : UInt32) (frames : List Frame) : List UInt8 :=
  fileHeaderOf reserved ++ frames.flatMap Frame.bytes

theorem framed_eq (reserved : UInt32) (frames : List Frame) :
    framed reserved frames = fileHeaderOf reserved ++ joined (frames.map Frame.segment) := by
  rw [framed, joined, List.flatMap_map]
  rfl

theorem framed_records (records : List ValidRecord) :
    framed 0 (records.map fun r => { record := r }) = ValidRecord.image records := by
  rw [framed, List.flatMap_map, ValidRecord.image, List.flatMap_congr fun r _ => Frame.bytes_record r]
  rfl

/-! What the scanner reads is spelled by what it found there. -/

theorem u32_getU32 {data : List UInt8} (four : 4 ≤ data.length) :
    Canonical.u32 (getU32 data) = data.take 4 := by
  match data with
  | [] | [_] | [_, _] | [_, _, _] => simp at four
  | b0 :: b1 :: b2 :: b3 :: _ => exact bytes_u32 b0 b1 b2 b3

theorem putU16_getU16 {data : List UInt8} (two : 2 ≤ data.length) :
    putU16 (getU16 data) = data.take 2 := by
  match data with
  | [] | [_] => simp at two
  | b0 :: b1 :: _ =>
    simp only [putU16, getU16, List.getD_cons_zero, List.getD_cons_succ, List.take_succ_cons,
      List.take_zero, List.cons.injEq, and_true]
    constructor <;>
    · apply UInt8.eq_of_toBitVec_eq
      ext i bounded
      simp <;> grind

theorem ofNat_known {raw : UInt16} (known : ¬ raw.toNat > RecordType.checkpoint.ctorIdx) :
    UInt16.ofNat (RecordType.ofNat raw.toNat).ctorIdx = raw := by
  have bound : raw.toNat < 8 := by
    have seven : RecordType.checkpoint.ctorIdx = 7 := rfl
    omega
  have index : (RecordType.ofNat raw.toNat).ctorIdx = raw.toNat := by
    generalize raw.toNat = n at bound
    interval_cases n <;> rfl
  rw [index, UInt16.ofNat_toNat]

/-- A header that verifies is spelled by what it declares, its flags and its reserved
bytes. -/
theorem headerOf_verified {header payload : List UInt8} {type : RecordType}
    (size : header.length = recordHeaderBytes)
    (verified : verifyRecordHeader header = .ok (type, payload.length))
    (digest : digestOf payload = (header.drop 16).take 32) :
    header = headerOf (getU16 (header.drop 6)) (getU32 (header.drop 12)) type payload := by
  have long : header.length = 80 := size
  unfold verifyRecordHeader at verified
  split_ifs at verified with magic sealed known bound
  simp only [Except.ok.injEq, Prod.mk.injEq] at verified
  obtain ⟨rfl, length⟩ := verified
  have magic : header.take 4 = Canonical.u32 recordMagic := by
    rw [← of_not_not magic, u32_getU32 (by omega)]
  have raw : (header.drop 4).take 2 =
      putU16 (UInt16.ofNat (RecordType.ofNat (getU16 (header.drop 4)).toNat).ctorIdx) := by
    rw [ofNat_known known, putU16_getU16 (by rw [List.length_drop]; omega)]
  have word : (header.drop 8).take 4 = Canonical.u32 (UInt32.ofNat payload.length) := by
    rw [← length, UInt32.ofNat_toNat, u32_getU32 (by rw [List.length_drop]; omega)]
  have front : header.take 48 = frontOf (getU16 (header.drop 6)) (getU32 (header.drop 12))
      (RecordType.ofNat (getU16 (header.drop 4)).toNat) payload := by
    rw [frontOf, ← magic, ← raw, ← word, putU16_getU16 (by rw [List.length_drop]; omega),
      u32_getU32 (by rw [List.length_drop]; omega), digest]
    simp only [← List.take_add]
  rw [headerOf, ← front, of_not_not sealed, ← List.take_add, List.take_of_length_le (by omega)]

/-- Every record the scan takes is a frame. -/
theorem exists_frame (p : Segment) : ∃ f : Frame, p.bytes = f.bytes := by
  obtain ⟨header, payload, type, size, split, verified, digest, accepted⟩ :=
    readRecord_ok (p.whole [])
  rw [List.append_nil, List.append_nil] at split
  obtain ⟨decodes, verifies⟩ := acceptPayload_ok accepted
  refine ⟨{ record := ⟨type, payload, p.frame, verifyRecordHeader_bound verified, decodes, verifies⟩
            flags := getU16 (header.drop 6)
            reserved := getU32 (header.drop 12) }, ?_⟩
  rw [split, Frame.bytes, Frame.header, ← headerOf_verified size verified digest]

theorem exists_frames (pieces : List Segment) :
    ∃ frames : List Frame, joined pieces = frames.flatMap Frame.bytes := by
  induction pieces with
  | nil => exact ⟨[], rfl⟩
  | cons p pieces ih =>
    obtain ⟨f, first⟩ := exists_frame p
    obtain ⟨frames, rest⟩ := ih
    exact ⟨f :: frames, by rw [joined_cons, first, rest, List.flatMap_cons]⟩

theorem exists_fileHeader {head : List UInt8} (headed : Headed head) :
    ∃ reserved, head = fileHeaderOf reserved := by
  have long : head.length = 48 := headed.size
  have verifies := headed.verifies
  unfold verifyFileHeader at verifies
  split_ifs at verifies with short magic sealed
  rw [Option.some.injEq] at verifies
  refine ⟨getU32 (head.drop 12), ?_⟩
  have version : (head.drop 8).take 4 = Canonical.u32 persistenceFormatVersion := by
    rw [← verifies, u32_getU32 (by rw [List.length_drop]; omega)]
  have front : head.take 16 = fileFrontOf (getU32 (head.drop 12)) := by
    rw [fileFrontOf, ← of_not_not magic, ← version, u32_getU32 (by rw [List.length_drop]; omega)]
    simp only [← List.take_add]
  rw [fileHeaderOf, ← front, of_not_not sealed, ← List.take_add,
    List.take_of_length_le (by omega)]

/-- What an image is made of is read off it. -/
theorem framed_injective {reserved reserved' : UInt32} {frames frames' : List Frame}
    (same : framed reserved frames = framed reserved' frames') :
    reserved = reserved' ∧ frames.map Frame.bytes = frames'.map Frame.bytes := by
  have sizes : (fileHeaderOf reserved).length = (fileHeaderOf reserved').length := by
    rw [(fileHeaderOf_headed reserved).size, (fileHeaderOf_headed reserved').size]
  rw [framed_eq, framed_eq] at same
  obtain ⟨heads, bodies⟩ := List.append_inj same sizes
  constructor
  · have words := congrArg (fun head => getU32 (head.drop 12)) heads
    simp only [fileHeaderOf, fileFrontOf, List.append_assoc] at words
    exact (getU32_u32 _ _).symm.trans (words.trans (getU32_u32 _ _))
  · have pieces := joined_injective bodies
    rw [List.map_map, List.map_map] at pieces
    exact pieces

section

variable [StdSort]

/-- The scanner takes exactly the file headers and the frames. -/
theorem scan_ok_iff (image : List UInt8) : (scanImage image).1.recovery.status = .ok ↔
    ∃ reserved frames, image = framed reserved frames := by
  constructor
  · intro ok
    obtain ⟨head, pieces, headed, rfl⟩ := ok_layout ok
    obtain ⟨reserved, rfl⟩ := exists_fileHeader headed
    obtain ⟨frames, same⟩ := exists_frames pieces
    exact ⟨reserved, frames, by rw [framed, same]⟩
  · rintro ⟨reserved, frames, rfl⟩
    rw [framed_eq, scanImage_clean (fileHeaderOf_headed reserved)]
    rfl

/-- The scanner takes an image that the store could not have written exactly when
a byte it skips is not zero. -/
theorem scanner_exact_iff (image : List UInt8) :
    ((scanImage image).1.recovery.status = .ok ↔
        ∃ records : List ValidRecord, image = ValidRecord.image records) ↔
      ∀ reserved frames, image = framed reserved frames →
        reserved = 0 ∧ ∀ f ∈ frames, f.flags = 0 ∧ f.reserved = 0 := by
  constructor
  · rintro exact reserved frames rfl
    obtain ⟨records, written⟩ := exact.mp ((scan_ok_iff _).mpr ⟨reserved, frames, rfl⟩)
    rw [← framed_records] at written
    obtain ⟨zero, frames_eq⟩ := framed_injective written
    refine ⟨zero, ?_⟩
    intro f listed
    obtain ⟨f', listed', same⟩ := List.mem_map.mp (frames_eq ▸ List.mem_map_of_mem listed)
    obtain ⟨r, -, rfl⟩ := List.mem_map.mp listed'
    rw [← f.skipped.1, ← f.skipped.2, ← same]
    exact Frame.skipped _
  · intro zeros
    rw [scan_ok_iff]
    constructor
    · rintro ⟨reserved, frames, rfl⟩
      obtain ⟨rfl, plain⟩ := zeros reserved frames rfl
      have same : (frames.map Frame.record).map (fun r => ({ record := r } : Frame)) = frames := by
        rw [List.map_map]
        refine (List.map_congr_left fun f listed => ?_).trans (List.map_id frames)
        obtain ⟨flags, reserved⟩ := plain f listed
        cases f
        cases flags
        cases reserved
        rfl
      exact ⟨frames.map Frame.record, by rw [← framed_records, same]⟩
    · rintro ⟨records, rfl⟩
      exact ⟨0, _, (framed_records records).symm⟩

end

/-- A file header with reserved bytes that are not zero. -/
theorem reserved_bytes_are_skipped :
    ¬ ((scanImage (fileHeaderOf 1)).1.recovery.status = .ok ↔
        ∃ records : List ValidRecord, fileHeaderOf 1 = ValidRecord.image records) := by
  intro exact
  have zero := (scanner_exact_iff _).mp exact 1 [] (List.append_nil _).symm
  exact absurd zero.1 (by decide)

end SiteFabric.Store
