import SiteFabric.Store.Format

/-! What one round of the scan makes of a record.
The checks on a header look at its 80 bytes and the checks on a payload at the
bytes it declares, so a record reads the same whatever follows, a cut record is
a torn tail, and any other defect stays where it is when the file grows. -/

namespace SiteFabric.Store

open Lib Lib.Reader

@[simp] theorem length_digestOf (data : List UInt8) : (digestOf data).length = 32 :=
  (Sha256.digestBytes data).size

theorem getU32_append {data : List UInt8} (more : List UInt8) (four : 4 ≤ data.length) :
    getU32 (data ++ more) = getU32 data := by
  simp only [getU32]
  rw [List.getD_append _ _ _ _ (by omega), List.getD_append _ _ _ _ (by omega),
    List.getD_append _ _ _ _ (by omega), List.getD_append _ _ _ _ (by omega)]

theorem getU16_append {data : List UInt8} (more : List UInt8) (two : 2 ≤ data.length) :
    getU16 (data ++ more) = getU16 data := by
  simp only [getU16]
  rw [List.getD_append _ _ _ _ (by omega), List.getD_append _ _ _ _ (by omega)]

theorem getU32_u32 (n : UInt32) (more : List UInt8) : getU32 (Canonical.u32 n ++ more) = n :=
  CanonicalReader.u32_bytes n

theorem getU16_putU16 (n : UInt16) (more : List UInt8) : getU16 (putU16 n ++ more) = n := by
  change n.toUInt8.toUInt16 ||| (n >>> 8).toUInt8.toUInt16 <<< 8 = n
  apply UInt16.eq_of_toBitVec_eq
  ext i bounded
  simp only [UInt16.toBitVec_or, UInt16.toBitVec_shiftLeft, UInt8.toBitVec_toUInt16,
    UInt16.toBitVec_toUInt8, UInt16.toBitVec_shiftRight]
  simp
  grind

/-- Only the 80 bytes of a header are looked at. -/
theorem verifyRecordHeader_append {header : List UInt8} (more : List UInt8)
    (full : recordHeaderBytes ≤ header.length) :
    verifyRecordHeader (header ++ more) = verifyRecordHeader header := by
  have size : 80 ≤ header.length := full
  unfold verifyRecordHeader
  rw [getU32_append more (by omega), List.take_append_of_le_length (by omega),
    List.drop_append_of_le_length (by omega : 48 ≤ header.length),
    List.drop_append_of_le_length (by omega : 4 ≤ header.length),
    List.drop_append_of_le_length (by omega : 8 ≤ header.length),
    List.take_append_of_le_length (by rw [List.length_drop]; omega),
    getU16_append more (by rw [List.length_drop]; omega),
    getU32_append more (by rw [List.length_drop]; omega)]

theorem verifyRecordHeader_bound {header : List UInt8} {type : RecordType} {payloadBytes : Nat}
    (verified : verifyRecordHeader header = .ok (type, payloadBytes)) :
    payloadBytes ≤ Limits.maxRecordPayloadBytes := by
  unfold verifyRecordHeader at verified
  split_ifs at verified with magic digest known bound
  cases verified
  omega

/-- A record whose header verifies, read with what follows it. -/
theorem readRecord_verified {header payload : List UInt8} {type : RecordType}
    (size : header.length = recordHeaderBytes)
    (verified : verifyRecordHeader header = .ok (type, payload.length)) (more : List UInt8) :
    readRecord (header ++ payload ++ more) =
      if digestOf payload ≠ (header.drop 16).take 32 then .error .payloadDigestMismatch
      else (acceptPayload type payload).map (·, more) := by
  have header_eq : header.length = 80 := size
  have long : ¬ (header ++ payload ++ more).length < recordHeaderBytes := by
    simp only [List.length_append, size]
    omega
  have fits : ¬ (header ++ payload ++ more).length - recordHeaderBytes < payload.length := by
    simp only [List.length_append, size]
    omega
  have cut : ((header ++ payload ++ more).drop recordHeaderBytes).take payload.length =
      payload := by
    rw [List.append_assoc, ← size, List.drop_left, List.take_left]
  have stored : ((header ++ payload ++ more).drop 16).take 32 = (header.drop 16).take 32 := by
    rw [List.append_assoc, List.drop_append_of_le_length (by omega),
      List.take_append_of_le_length (by rw [List.length_drop]; omega)]
  have left : (header ++ payload ++ more).drop (recordHeaderBytes + payload.length) = more := by
    rw [← size, ← List.length_append, List.drop_left]
  have checked : verifyRecordHeader (header ++ payload ++ more) = .ok (type, payload.length) := by
    rw [List.append_assoc, verifyRecordHeader_append _ size.ge, verified]
  rw [readRecord, if_neg long, checked]
  simp only [if_neg fits, cut, stored, left]
  by_cases same : digestOf payload ≠ (header.drop 16).take 32
  · rw [if_pos same, if_pos same]
  · rw [if_neg same, if_neg same]
    cases acceptPayload type payload <;> rfl

/-- A record that was taken: a header that verifies, and its payload. -/
theorem readRecord_ok {input rest : List UInt8} {decoded : Option Content}
    (read : readRecord input = .ok (decoded, rest)) :
    ∃ header payload type, header.length = recordHeaderBytes ∧ input = header ++ payload ++ rest ∧
      verifyRecordHeader header = .ok (type, payload.length) ∧
      digestOf payload = (header.drop 16).take 32 ∧ acceptPayload type payload = .ok decoded := by
  unfold readRecord at read
  split at read
  · cases read
  next long =>
  have size : (input.take recordHeaderBytes).length = recordHeaderBytes := by
    rw [List.length_take]
    omega
  have same : verifyRecordHeader input = verifyRecordHeader (input.take recordHeaderBytes) := by
    conv_lhs => rw [← List.take_append_drop recordHeaderBytes input]
    exact verifyRecordHeader_append _ size.ge
  rw [same] at read
  cases verified : verifyRecordHeader (input.take recordHeaderBytes) with
  | error defect =>
    rw [verified] at read
    cases read
  | ok declared =>
    obtain ⟨type, payloadBytes⟩ := declared
    simp only [verified] at read
    split at read
    · cases read
    next fits =>
    have length : ((input.drop recordHeaderBytes).take payloadBytes).length = payloadBytes := by
      rw [List.length_take, List.length_drop]
      omega
    have stored : ((input.take recordHeaderBytes).drop 16).take 32 = (input.drop 16).take 32 := by
      rw [List.drop_take, List.take_take]
      rfl
    split at read
    · cases read
    next digest =>
    cases accepted : acceptPayload type ((input.drop recordHeaderBytes).take payloadBytes) with
    | error defect =>
      rw [accepted] at read
      cases read
    | ok decoded' =>
      rw [accepted] at read
      cases read
      refine ⟨_, _, type, size, ?_, by rw [length, verified], ?_, accepted⟩
      · rw [List.append_assoc, ← List.drop_drop, List.take_append_drop, List.take_append_drop]
      · rw [stored]
        exact of_not_not digest

theorem readRecord_framed : Framed readRecord := by
  intro input decoded rest read
  obtain ⟨header, payload, type, size, split, verified, digest, accepted⟩ := readRecord_ok read
  refine ⟨⟨header ++ payload, decoded, ?_, fun more => ?_⟩, rfl, split⟩
  · rw [List.length_append, size]
    exact Nat.lt_of_lt_of_le (by decide) (Nat.le_add_right _ _)
  · rw [readRecord_verified size verified, if_neg (not_not.mpr digest), accepted]
    rfl

/-- Whatever is not a torn tail stays what it is when more is written behind it. -/
theorem readRecord_refused_append {input : List UInt8} {defect : Defect}
    (refused : readRecord input = .error defect) (whole : defect.tailTruncated = false)
    (more : List UInt8) : readRecord (input ++ more) = .error defect := by
  unfold readRecord at refused
  split at refused
  · cases refused
    cases whole
  next long =>
  have full : recordHeaderBytes ≤ input.length := by omega
  have long' : ¬ (input ++ more).length < recordHeaderBytes := by
    rw [List.length_append]
    omega
  rw [readRecord, if_neg long', verifyRecordHeader_append more full]
  cases verified : verifyRecordHeader input with
  | error d =>
    rw [verified] at refused
    exact refused
  | ok declared =>
    obtain ⟨type, payloadBytes⟩ := declared
    simp only [verified] at refused ⊢
    split at refused
    · cases refused
      cases whole
    next fits =>
    have room : 80 ≤ input.length := full
    have fits' : ¬ (input ++ more).length - recordHeaderBytes < payloadBytes := by
      rw [List.length_append]
      omega
    rw [if_neg fits', List.drop_append_of_le_length full,
      List.take_append_of_le_length (by rw [List.length_drop]; omega),
      List.drop_append_of_le_length (by omega : 16 ≤ input.length),
      List.take_append_of_le_length (by rw [List.length_drop]; omega)]
    split at refused
    · next wrong =>
      rw [if_pos wrong]
      exact refused
    next digest =>
    rw [if_neg digest]
    cases accepted : acceptPayload type ((input.drop recordHeaderBytes).take payloadBytes) with
    | error d =>
      rw [accepted] at refused
      exact refused
    | ok decoded =>
      rw [accepted] at refused
      cases refused

/-- A record cut anywhere inside is a torn tail. -/
theorem readRecord_torn {header payload : List UInt8} {type : RecordType}
    (size : header.length = recordHeaderBytes)
    (verified : verifyRecordHeader header = .ok (type, payload.length)) {cut : Nat}
    (inside : cut < (header ++ payload).length) :
    ∃ defect, readRecord ((header ++ payload).take cut) = .error defect ∧
      defect.tailTruncated = true ∧ defect.status = .truncated := by
  rw [List.length_append] at inside
  by_cases short : cut < recordHeaderBytes
  · refine ⟨.headerTruncated, ?_, rfl, rfl⟩
    rw [readRecord, if_pos]
    rw [List.length_take, List.length_append]
    omega
  · refine ⟨.payloadTruncated, ?_, rfl, rfl⟩
    have kept : (header ++ payload).take cut = header ++ payload.take (cut - header.length) := by
      rw [List.take_append, List.take_of_length_le (by omega)]
    have long : ¬ (header ++ payload.take (cut - header.length)).length < recordHeaderBytes := by
      rw [List.length_append]
      omega
    have torn : (header ++ payload.take (cut - header.length)).length - recordHeaderBytes <
        payload.length := by
      rw [List.length_append, List.length_take]
      omega
    rw [kept, readRecord, if_neg long, verifyRecordHeader_append _ size.ge, verified]
    simp only [if_pos torn]

/-! Records with their flags and reserved bytes, and those the store writes. -/

/-- The hashed part of a record header with any flags and reserved bytes. -/
def frontOf (flags : UInt16) (reserved : UInt32) (type : RecordType) (payload : List UInt8) :
    List UInt8 :=
  Canonical.u32 recordMagic ++ putU16 (UInt16.ofNat type.ctorIdx) ++ putU16 flags ++
    Canonical.u32 (UInt32.ofNat payload.length) ++ Canonical.u32 reserved ++ digestOf payload

def headerOf (flags : UInt16) (reserved : UInt32) (type : RecordType) (payload : List UInt8) :
    List UInt8 :=
  frontOf flags reserved type payload ++ digestOf (frontOf flags reserved type payload)

section

variable (flags : UInt16) (reserved : UInt32) (type : RecordType) (payload : List UInt8)

@[simp] theorem length_frontOf : (frontOf flags reserved type payload).length = 48 := by
  simp only [frontOf, List.length_append, Canonical.length_u32, length_digestOf]
  rfl

theorem length_headerOf : (headerOf flags reserved type payload).length = recordHeaderBytes := by
  rw [headerOf, List.length_append, length_frontOf, length_digestOf]
  rfl

variable {payload} (fits : payload.length ≤ Limits.maxRecordPayloadBytes)

include fits

theorem verify_headerOf :
    verifyRecordHeader (headerOf flags reserved type payload) = .ok (type, payload.length) := by
  have magic : getU32 (headerOf flags reserved type payload) = recordMagic := by
    simp only [headerOf, frontOf, List.append_assoc]
    exact getU32_u32 _ _
  have raw : getU16 ((headerOf flags reserved type payload).drop 4) =
      UInt16.ofNat type.ctorIdx := by
    simp only [headerOf, frontOf, List.append_assoc]
    exact getU16_putU16 _ _
  have word : getU32 ((headerOf flags reserved type payload).drop 8) =
      UInt32.ofNat payload.length := by
    simp only [headerOf, frontOf, List.append_assoc]
    exact getU32_u32 _ _
  have index : (UInt16.ofNat type.ctorIdx).toNat = type.ctorIdx := by cases type <;> rfl
  have known : ¬ type.ctorIdx > RecordType.checkpoint.ctorIdx := by cases type <;> decide
  have length : (UInt32.ofNat payload.length).toNat = payload.length :=
    UInt32.toNat_ofNat_of_lt' (Nat.lt_of_le_of_lt fits (by decide))
  have front : (headerOf flags reserved type payload).take 48 =
      frontOf flags reserved type payload := by
    rw [headerOf, List.take_append_of_le_length (by simp), List.take_of_length_le (by simp)]
  have sealed : ((headerOf flags reserved type payload).drop 48).take 32 =
      digestOf (frontOf flags reserved type payload) := by
    have skip : (headerOf flags reserved type payload).drop 48 =
        digestOf (frontOf flags reserved type payload) := by
      rw [headerOf, ← length_frontOf flags reserved type payload, List.drop_left]
    rw [skip, List.take_of_length_le (by simp)]
  rw [verifyRecordHeader, magic, front, sealed, raw, word, index, length]
  rw [if_neg (not_not.mpr rfl), if_neg (not_not.mpr rfl), if_neg known, if_neg (by omega),
    RecordType.ofNat_ctorIdx]

/-- The scan reads a record as far as its payload is accepted, whatever its flags
and its reserved bytes. -/
theorem readRecord_headerOf (more : List UInt8) :
    readRecord (headerOf flags reserved type payload ++ payload ++ more) =
      (acceptPayload type payload).map (·, more) := by
  have digest : digestOf payload = ((headerOf flags reserved type payload).drop 16).take 32 := by
    have skip : (frontOf flags reserved type payload).drop 16 = digestOf payload := by
      simp only [frontOf, List.append_assoc]
      rfl
    rw [headerOf, List.drop_append_of_le_length (by simp), skip,
      List.take_append_of_le_length (by simp), List.take_of_length_le (by simp)]
  rw [readRecord_verified (length_headerOf flags reserved type payload)
    (verify_headerOf flags reserved type fits), if_neg (not_not.mpr digest)]

end

def recordHeader (type : RecordType) (payload : List UInt8) : List UInt8 :=
  recordFront type payload ++ digestOf (recordFront type payload)

theorem recordHeader_eq (type : RecordType) (payload : List UInt8) :
    recordHeader type payload = headerOf 0 0 type payload := rfl

theorem makeRecord_eq {type : RecordType} {payload : List UInt8}
    (fits : payload.length ≤ Limits.maxRecordPayloadBytes) :
    makeRecord type payload = recordHeader type payload ++ payload := by
  have bound : Limits.maxRecordPayloadBytes ≤ 0xFFFFFFFF := by decide
  rw [makeRecord, if_neg (by omega)]
  rfl

theorem length_makeRecord {type : RecordType} {payload : List UInt8}
    (fits : payload.length ≤ Limits.maxRecordPayloadBytes) :
    (makeRecord type payload).length = 80 + payload.length := by
  rw [makeRecord_eq fits, List.length_append, recordHeader_eq, length_headerOf]
  rfl

/-- The scan reads a written record as far as its payload is accepted. -/
theorem readRecord_makeRecord (type : RecordType) {payload : List UInt8}
    (fits : payload.length ≤ Limits.maxRecordPayloadBytes) (more : List UInt8) :
    readRecord (makeRecord type payload ++ more) = (acceptPayload type payload).map (·, more) := by
  rw [makeRecord_eq fits, recordHeader_eq, readRecord_headerOf 0 0 type fits]

theorem Defect.status_isOk (defect : Defect) : defect.status.isOk = false := by
  cases defect with
  | decodeFailed fault => cases fault <;> rfl
  | _ => rfl

theorem Defect.status_ne_ok (defect : Defect) : defect.status ≠ .ok := by
  intro ok
  have bad := defect.status_isOk
  rw [ok] at bad
  cases bad

/-! Images: a file header that verifies, and what follows it. -/

/-- A file header this build accepts. -/
structure Headed (head : List UInt8) : Prop where
  size : head.length = fileHeaderBytes
  verifies : verifyFileHeader head = some persistenceFormatVersion

theorem verifyFileHeader_append {head : List UInt8} (more : List UInt8)
    (full : fileHeaderBytes ≤ head.length) :
    verifyFileHeader (head ++ more) = verifyFileHeader head := by
  have size : 48 ≤ head.length := full
  unfold verifyFileHeader
  rw [List.take_append_of_le_length (by omega : 8 ≤ head.length),
    List.take_append_of_le_length (by omega : 16 ≤ head.length),
    List.drop_append_of_le_length (by omega : 16 ≤ head.length),
    List.drop_append_of_le_length (by omega : 8 ≤ head.length),
    List.take_append_of_le_length (by rw [List.length_drop]; omega),
    getU32_append more (by rw [List.length_drop]; omega),
    if_neg (by rw [List.length_append]; omega : ¬ (head ++ more).length < fileHeaderBytes),
    if_neg (by omega : ¬ head.length < fileHeaderBytes)]

/-- The hashed part of a file header with any reserved bytes. -/
def fileFrontOf (reserved : UInt32) : List UInt8 :=
  fileMagic ++ Canonical.u32 persistenceFormatVersion ++ Canonical.u32 reserved

def fileHeaderOf (reserved : UInt32) : List UInt8 :=
  fileFrontOf reserved ++ digestOf (fileFrontOf reserved)

theorem fileHeaderOf_headed (reserved : UInt32) : Headed (fileHeaderOf reserved) := by
  have size : (fileHeaderOf reserved).length = 48 := by
    rw [fileHeaderOf, List.length_append, length_digestOf]
    rfl
  have front : (fileHeaderOf reserved).take 16 = fileFrontOf reserved := List.take_left' rfl
  have sealed : ((fileHeaderOf reserved).drop 16).take 32 = digestOf (fileFrontOf reserved) := by
    have skip : (fileHeaderOf reserved).drop 16 = digestOf (fileFrontOf reserved) :=
      List.drop_left' rfl
    rw [skip, List.take_of_length_le (by simp)]
  refine ⟨size, ?_⟩
  rw [verifyFileHeader, if_neg (by rw [size]; decide), if_neg, front, sealed,
    if_neg (not_not.mpr rfl)]
  · exact congrArg some (getU32_u32 persistenceFormatVersion _)
  · exact not_not.mpr rfl

theorem makeFileHeader_headed : Headed makeFileHeader := fileHeaderOf_headed 0

/-- The bytes of a record the scan accepts. -/
abbrev Segment := Piece readRecord

/-- The contents of the records in a run of segments. -/
def accepted (pieces : List Segment) : List Content :=
  (pieces.map Piece.frame).reduceOption

theorem accepted_append (one other : List Segment) :
    accepted (one ++ other) = accepted one ++ accepted other := by
  rw [accepted, List.map_append, List.reduceOption_append]
  rfl

variable [StdSort]

theorem scanImage_headed {head : List UInt8} (headed : Headed head) (body : List UInt8) :
    scanImage (head ++ body) =
      (collect (Scan.contents (stream readRecord body))
        (Scan.report (stream readRecord body) (head ++ body).length),
        (head ++ body).length - (stream readRecord body).tail.length) := by
  have long : ¬ (head ++ body).length < fileHeaderBytes := by
    rw [List.length_append, headed.size]
    omega
  have rest : (head ++ body).drop fileHeaderBytes = body := by
    rw [← headed.size, List.drop_left]
  rw [scanImage, if_neg long, verifyFileHeader_append body headed.size.ge, headed.verifies]
  simp only [scanRecords, rest, ne_eq, not_true_eq_false, if_false]

/-- A store is used exactly when its file header verifies. -/
theorem usable_iff (image : List UInt8) :
    (scanImage image).1.recovery.usable = true ↔
      ∃ head body, image = head ++ body ∧ Headed head := by
  constructor
  · intro usable
    unfold scanImage at usable
    split at usable
    · cases usable
    next long =>
    have size : (image.take fileHeaderBytes).length = fileHeaderBytes := by
      rw [List.length_take]
      omega
    have same : verifyFileHeader image = verifyFileHeader (image.take fileHeaderBytes) := by
      conv_lhs => rw [← List.take_append_drop fileHeaderBytes image]
      exact verifyFileHeader_append _ size.ge
    cases verified : verifyFileHeader image with
    | none =>
      rw [verified] at usable
      cases usable
    | some version =>
      simp only [verified] at usable
      split at usable
      · cases usable
      next current =>
      refine ⟨_, _, (List.take_append_drop fileHeaderBytes image).symm, size, ?_⟩
      rw [← same, verified, of_not_not current]
  · rintro ⟨head, body, rfl, headed⟩
    rw [scanImage_headed headed]
    rfl

/-- The scan of an image that ends with its last record. -/
theorem scanImage_clean {head : List UInt8} (headed : Headed head)
    (pieces : List Segment) :
    scanImage (head ++ joined pieces) =
      (collect (accepted pieces)
        { headerPresent := true, status := .ok, recordsAccepted := pieces.length
          recordsScanned := pieces.length, bytesConsumed := (head ++ joined pieces).length },
        (head ++ joined pieces).length) := by
  have whole : stream readRecord (joined pieces) = { frames := pieces.map Piece.frame } := by
    have read := stream_joined readRecord_framed pieces []
    rw [List.append_nil, stream_nil, List.append_nil] at read
    exact read
  rw [scanImage_headed headed, whole]
  simp [Scan.contents, Scan.report, accepted]

/-- The scan of an image whose records are followed by a tail it stops on. -/
theorem scanImage_stopped {head : List UInt8} (headed : Headed head)
    (pieces : List Segment) {tail : List UInt8} {defect : Defect}
    (some : 0 < tail.length) (refused : readRecord tail = .error defect) :
    ∃ recovery, scanImage (head ++ (joined pieces ++ tail)) =
        (collect (accepted pieces) recovery, (head ++ joined pieces).length) ∧
      recovery.usable = true ∧ recovery.status = defect.status ∧
      recovery.tailTruncated = defect.tailTruncated := by
  have whole : stream readRecord (joined pieces ++ tail) =
      { frames := pieces.map Piece.frame, tail := tail, stop := .some defect } := by
    rw [stream_joined readRecord_framed, stream_refused some refused, List.append_nil]
  have offset : (head ++ (joined pieces ++ tail)).length - tail.length =
      (head ++ joined pieces).length := by
    simp only [List.length_append]
    omega
  refine ⟨Scan.report { frames := pieces.map Piece.frame, tail := tail, stop := .some defect }
    (head ++ (joined pieces ++ tail)).length, ?_, rfl, rfl, rfl⟩
  rw [scanImage_headed headed, whole, offset]
  rfl

/-- Where the scan of a usable image ends: after its last record, or on a tail. -/
theorem usable_layout {image : List UInt8}
    (usable : (scanImage image).1.recovery.usable = true) :
    ∃ (head : List UInt8) (pieces : List Segment) (tail : List UInt8), Headed head ∧
      image = head ++ (joined pieces ++ tail) ∧
      (tail = [] ∨ ∃ defect, 0 < tail.length ∧ readRecord tail = .error defect) := by
  obtain ⟨head, body, rfl, headed⟩ := (usable_iff image).mp usable
  obtain ⟨pieces, tail, rfl, ended⟩ := stream_split readRecord_framed body
  exact ⟨head, pieces, tail, headed, rfl, ended⟩

/-- OK is the only favourable status of a scan. -/
theorem scan_isOk {image : List UInt8}
    (favourable : (scanImage image).1.recovery.status.isOk = true) :
    (scanImage image).1.recovery.status = .ok := by
  unfold scanImage at favourable ⊢
  split at favourable
  · cases favourable
  next long =>
  rw [if_neg long]
  cases verified : verifyFileHeader image with
  | none =>
    rw [verified] at favourable
    cases favourable
  | some version =>
    simp only [verified] at favourable
    dsimp only
    split at favourable
    · cases favourable
    next current =>
    rw [if_neg current]
    cases stopped : (scanRecords image).stop with
    | none =>
      change ((scanRecords image).stop.map Defect.status).getD .ok = .ok
      rw [stopped]
      rfl
    | some defect =>
      change (((scanRecords image).stop.map Defect.status).getD .ok).isOk = true at favourable
      rw [stopped] at favourable
      exact absurd favourable (by simp [defect.status_isOk])

/-- A scan that returns OK has read a file header and then records to the end. -/
theorem ok_layout {image : List UInt8} (ok : (scanImage image).1.recovery.status = .ok) :
    ∃ (head : List UInt8) (pieces : List Segment), Headed head ∧ image = head ++ joined pieces := by
  have usable : (scanImage image).1.recovery.usable = true := by
    unfold scanImage at ok ⊢
    split at ok
    · cases ok
    next long =>
    rw [if_neg long]
    cases verified : verifyFileHeader image with
    | none =>
      rw [verified] at ok
      cases ok
    | some version =>
      simp only [verified] at ok
      split at ok
      · cases ok
      next current =>
      dsimp only
      rw [if_neg current]
      rfl
  obtain ⟨head, pieces, tail, headed, rfl, rfl | ⟨defect, some, refused⟩⟩ := usable_layout usable
  · exact ⟨head, pieces, headed, by rw [List.append_nil]⟩
  · obtain ⟨recovery, scanned, -, status, -⟩ := scanImage_stopped headed pieces some refused
    rw [scanned] at ok
    exact absurd (status.symm.trans ok) defect.status_ne_ok

end SiteFabric.Store
