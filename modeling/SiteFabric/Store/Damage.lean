import SiteFabric.Store.Opening

/-! Torn tails and damaged bytes.
An image cut anywhere behind its file header loses the record the cut falls in
and nothing before it. A byte changed anywhere is caught before the field that
holds it is used, as long as the hash tells the two versions apart. -/

namespace SiteFabric.Store

open Lib Lib.Reader

/-- A record that `make_record` wrote from a payload that decodes, a snapshot
with the digest of its own state. -/
structure ValidRecord where
  type : RecordType
  payload : List UInt8
  decoded : Option Content
  fits : payload.length ≤ Limits.maxRecordPayloadBytes
  decodes : decodeRecord type payload = .ok decoded
  verifies : stateVerifies decoded = true

namespace ValidRecord

def bytes (r : ValidRecord) : List UInt8 := makeRecord r.type r.payload

def segment (r : ValidRecord) : Segment where
  bytes := r.bytes
  frame := r.decoded
  solid := by
    rw [bytes, length_makeRecord r.fits]
    omega
  whole rest := by
    have accepts : acceptPayload r.type r.payload = .ok r.decoded := by
      rw [acceptPayload, r.decodes]
      simp only [r.verifies, if_true]
    rw [bytes, readRecord_makeRecord r.type r.fits, accepts]
    rfl

/-- The image of some records: the file header, then each of them. -/
def image (records : List ValidRecord) : List UInt8 := makeFileHeader ++ records.flatMap bytes

/-- What some records contribute, in the order they were written. -/
def contents (records : List ValidRecord) : List Content := records.filterMap decoded

theorem image_eq (records : List ValidRecord) :
    image records = makeFileHeader ++ joined (records.map segment) := by
  rw [image, joined, List.flatMap_map]
  rfl

theorem contents_eq (records : List ValidRecord) :
    contents records = accepted (records.map segment) := by
  rw [contents, accepted, List.map_map, List.reduceOption, List.filterMap_map]
  rfl

theorem image_snoc (before : List ValidRecord) (r : ValidRecord) :
    image (before ++ [r]) = image before ++ r.bytes := by
  simp only [image, List.flatMap_append, List.flatMap_cons, List.flatMap_nil, List.append_nil,
    List.append_assoc]

end ValidRecord

/-- A record cut inside is a torn tail. -/
theorem Segment.torn (s : Segment) {cut : Nat} (inside : cut < s.bytes.length) :
    ∃ defect, readRecord (s.bytes.take cut) = .error defect ∧ defect.tailTruncated = true ∧
      defect.status = .truncated := by
  obtain ⟨header, payload, type, size, split, verified, -, -⟩ := readRecord_ok (s.whole [])
  rw [List.append_nil, List.append_nil] at split
  rw [split] at inside ⊢
  exact readRecord_torn size verified inside

/-- The records that lie wholly before an offset, and the one it falls in. -/
theorem exists_cut (records : List ValidRecord) {cut : Nat} (header : fileHeaderBytes ≤ cut)
    (inside : cut ≤ (ValidRecord.image records).length) :
    ∃ before after, records = before ++ after ∧ (ValidRecord.image before).length ≤ cut ∧
      ∀ r rest, after = r :: rest → cut < (ValidRecord.image (before ++ [r])).length := by
  induction records using List.reverseRecOn with
  | nil =>
    refine ⟨[], [], rfl, ?_, fun r rest never => by cases never⟩
    rw [ValidRecord.image, List.flatMap_nil, List.append_nil, makeFileHeader_headed.size]
    exact header
  | append_singleton records last ih =>
    by_cases earlier : cut < (ValidRecord.image (records ++ [last])).length
    · by_cases whole : cut ≤ (ValidRecord.image records).length
      · obtain ⟨before, after, rfl, starts, ends⟩ := ih whole
        refine ⟨before, after ++ [last], (List.append_assoc ..), starts, ?_⟩
        intro r rest split
        cases after with
        | nil =>
          cases split
          simpa using earlier
        | cons r' rest' =>
          cases split
          exact ends r rest' rfl
      · refine ⟨records, [last], rfl, by omega, ?_⟩
        rintro r rest ⟨⟩
        exact earlier
    · exact ⟨records ++ [last], [], (List.append_nil _).symm, by omega,
        fun r rest never => by cases never⟩

/-- What is left of an image that is cut: the records wholly before the cut, and
what remains of the next. -/
theorem take_image {before after : List ValidRecord} {cut : Nat}
    (starts : (ValidRecord.image before).length ≤ cut)
    (inside : cut ≤ (ValidRecord.image (before ++ after)).length)
    (ends : ∀ r rest, after = r :: rest → cut < (ValidRecord.image (before ++ [r])).length) :
    cut = (ValidRecord.image before).length ∨
      ∃ r ∈ after, ∃ rest, 0 < rest ∧ rest < r.bytes.length ∧
        cut = (ValidRecord.image before).length + rest ∧
        (ValidRecord.image (before ++ after)).take cut =
          ValidRecord.image before ++ r.bytes.take rest := by
  have whole : ValidRecord.image (before ++ after) =
      ValidRecord.image before ++ after.flatMap ValidRecord.bytes := by
    rw [ValidRecord.image, ValidRecord.image, List.flatMap_append, List.append_assoc]
  cases after with
  | nil =>
    rw [List.append_nil] at inside
    exact .inl (by omega)
  | cons r rest =>
    have next := ends r rest rfl
    rw [ValidRecord.image_snoc, List.length_append] at next
    by_cases here : cut = (ValidRecord.image before).length
    · exact .inl here
    · refine .inr ⟨r, List.mem_cons_self, cut - (ValidRecord.image before).length, by omega,
        by omega, by omega, ?_⟩
      rw [whole, List.take_append, List.take_of_length_le starts, List.flatMap_cons,
        List.take_append_of_le_length (by omega)]

section

variable [StdSort]

/-- The scan of an image that was cut, and the file that cutting it back leaves. -/
theorem scan_cut (before after : List ValidRecord) {cut : Nat}
    (starts : (ValidRecord.image before).length ≤ cut)
    (inside : cut ≤ (ValidRecord.image (before ++ after)).length)
    (ends : ∀ r rest, after = r :: rest → cut < (ValidRecord.image (before ++ [r])).length) :
    ∃ recovery,
      scanImage ((ValidRecord.image (before ++ after)).take cut) =
        (collect (ValidRecord.contents before) recovery, (ValidRecord.image before).length) ∧
      recovery.status = (if cut = (ValidRecord.image before).length then .ok else .truncated) ∧
      cutBack ((ValidRecord.image (before ++ after)).take cut) = ValidRecord.image before := by
  rw [ValidRecord.contents_eq]
  rcases take_image starts inside ends with here | ⟨r, -, rest, some, short, offset, taken⟩
  · have taken : (ValidRecord.image (before ++ after)).take cut = ValidRecord.image before := by
      rw [here, ValidRecord.image, ValidRecord.image, List.flatMap_append, ← List.append_assoc,
        List.take_left]
    have scanned := scanImage_clean makeFileHeader_headed (before.map ValidRecord.segment)
    rw [← ValidRecord.image_eq] at scanned
    rw [taken, if_pos here]
    refine ⟨_, scanned, rfl, ?_⟩
    rw [cutBack, scanned, if_neg (fun both => Nat.lt_irrefl _ both.1)]
  · obtain ⟨defect, refused, torn, status⟩ := r.segment.torn short
    have solid : 0 < (r.bytes.take rest).length := by
      rw [List.length_take]
      omega
    obtain ⟨recovery, scanned, -, reported, tail⟩ := scanImage_stopped makeFileHeader_headed
      (before.map ValidRecord.segment) solid refused
    rw [← List.append_assoc, ← ValidRecord.image_eq] at scanned
    rw [taken, if_neg (by omega)]
    refine ⟨recovery, scanned, reported.trans status, ?_⟩
    rw [cutBack, scanned, if_pos, List.take_left]
    refine ⟨?_, tail.trans torn⟩
    simp only [List.length_append]
    omega

/-- A cut loses the record it falls in and nothing before it. The store then
opens with the rest of the file, and what is appended joins what was kept
exactly when the rest is within its bound and every value reads back. -/
theorem torn_tail_iff (records : List ValidRecord) (cut : Nat) (header : fileHeaderBytes ≤ cut)
    (inside : cut ≤ (ValidRecord.image records).length) :
    ∃ before after recovery, records = before ++ after ∧
      (ValidRecord.image before).length ≤ cut ∧
      (∀ r rest, after = r :: rest → cut < (ValidRecord.image (before ++ [r])).length) ∧
      scanImage ((ValidRecord.image records).take cut) =
        (collect (ValidRecord.contents before) recovery, (ValidRecord.image before).length) ∧
      recovery.status = (if cut = (ValidRecord.image before).length then .ok else .truncated) ∧
      ∀ config io s calls s',
        SiteStore.openStore config io (some ((ValidRecord.image records).take cut)) = (.ok, s) →
        s.appends calls = some s' →
        ((s.file = some (((ValidRecord.image records).take cut).take
              (scanImage ((ValidRecord.image records).take cut)).2) ∧
            Returned (scanImage ((ValidRecord.image records).take cut)).1 (calls.map Prod.snd)
              s'.load) ↔
          (ValidRecord.image before).length ≤ config.maxBytes ∧
            ∀ c ∈ calls.map Prod.snd, c.recoverable = true) := by
  obtain ⟨before, after, rfl, starts, ends⟩ := exists_cut records header inside
  obtain ⟨recovery, scanned, status, cutback⟩ := scan_cut before after starts inside ends
  refine ⟨before, after, recovery, rfl, starts, ends, scanned, status, ?_⟩
  intro config io s calls s' opened appended
  have prefixed : ((ValidRecord.image (before ++ after)).take cut).take
      (ValidRecord.image before).length = ValidRecord.image before := by
    rw [List.take_take, min_eq_left starts, ValidRecord.image, ValidRecord.image,
      List.flatMap_append, ← List.append_assoc, List.take_left]
  obtain ⟨bounded, whole, -, -, ways⟩ := SiteStore.openStore_ok opened
  rw [cutback] at ways
  rw [scanned]
  dsimp only
  rw [prefixed]
  rcases ways with ⟨room, open_⟩ | ⟨large, -, open_, room⟩
  · obtain ⟨later, -, fits, within⟩ := open_.appends appended
    have limit := open_.bounded
    have held : (collect (ValidRecord.contents before) recovery).held.Perm
        (accepted (before.map ValidRecord.segment)) := by
      rw [← ValidRecord.contents_eq]
      exact held_collect _ recovery
    rw [SiteStore.load_eq later.file (by omega), ValidRecord.image_eq before,
      returned_boundary_iff makeFileHeader_headed _ held.length_eq.ge fits,
      ← ValidRecord.image_eq before]
    exact ⟨fun both => ⟨room, both.2.2⟩, fun both => ⟨open_.file, held, both.2⟩⟩
  · constructor
    · rintro ⟨file, -⟩
      rw [open_.file] at file
      have same := congrArg List.length (Option.some.inj file)
      omega
    · rintro ⟨fits, -⟩
      omega

end

def sampleRecord : ValidRecord where
  type := .tombstone
  payload := Canonical.text (ascii "t")
  decoded := some (.tombstone (ascii "t"))
  fits := by decide
  decodes := rfl
  verifies := rfl

theorem torn_tail_sample :
    ∃ before after, [sampleRecord] = before ++ after ∧ (ValidRecord.image before).length ≤ 100 ∧
      (scanImage ((ValidRecord.image [sampleRecord]).take 100)).2 =
        (ValidRecord.image before).length := by
  obtain ⟨before, after, recovery, split, starts, -, scanned, -⟩ :=
    torn_tail_iff [sampleRecord] 100 (by decide) (by decide +kernel)
  exact ⟨before, after, split, starts, congrArg Prod.snd scanned⟩

/-- A cut right behind the file header, and an append that hides itself. -/
theorem torn_tail_long_reason :
    ∃ s s', SiteStore.openStore sampleConfig {} (some ((ValidRecord.image []).take 48)) = (.ok, s) ∧
      s.appends [({}, .retirement SiteStore.longReason)] = some s' ∧
      ¬ Returned (scanImage ((ValidRecord.image []).take 48)).1
        [.retirement SiteStore.longReason] s'.load := by
  have ok : (SiteStore.openStore sampleConfig {} (some ((ValidRecord.image []).take 48))).1 =
      .ok := by decide +kernel
  have committed : ((SiteStore.openStore sampleConfig {}
      (some ((ValidRecord.image []).take 48))).2.append {} (.retirement SiteStore.longReason)).1 =
      .ok := by decide +kernel
  have poison : (Content.retirement SiteStore.longReason).recoverable = false := by decide +kernel
  have size : (ValidRecord.image []).length = 48 := by decide +kernel
  obtain ⟨recovery, scanned, -, cutback⟩ := scan_cut [] [] size.le size.ge
    fun r rest never => by cases never
  rw [List.append_nil] at scanned cutback
  generalize opening : SiteStore.openStore sampleConfig {}
    (some ((ValidRecord.image []).take 48)) = result at *
  obtain ⟨status, s⟩ := result
  cases ok
  obtain ⟨-, -, -, -, ways⟩ := SiteStore.openStore_ok opening
  rw [cutback] at ways
  rcases ways with ⟨room, open_⟩ | ⟨large, -⟩
  · rw [ValidRecord.image_eq] at open_
    have held : (accepted (([] : List ValidRecord).map ValidRecord.segment)).length ≤
        (collect (ValidRecord.contents []) recovery).held.length := Nat.zero_le _
    refine ⟨s, _, rfl, if_pos committed, ?_⟩
    rw [scanned]
    exact not_returned makeFileHeader_headed open_ held committed poison
  · rw [size] at large
    exact absurd large (by decide)

/-! One damaged byte. -/

/-- A region of an image: where it starts and how long it is. -/
def slice (image : List UInt8) (region : Nat × Nat) : List UInt8 :=
  (image.drop region.1).take region.2

def regionsFrom (offset : Nat) : List Segment → List (Nat × Nat)
  | [] => []
  | s :: rest =>
    (offset, 48) :: (offset + recordHeaderBytes, s.bytes.length - recordHeaderBytes) ::
      regionsFrom (offset + s.bytes.length) rest

/-- The hashed regions of an image: the front of its file header, and of each
record the front of its header and its payload. -/
def hashedRegions (segments : List Segment) : List (Nat × Nat) :=
  (0, 16) :: regionsFrom fileHeaderBytes segments

/-- The hash tells the two versions of every hashed region apart. -/
def Separated (segments : List Segment) (image damaged : List UInt8) : Prop :=
  ∀ region ∈ hashedRegions segments, slice damaged region ≠ slice image region →
    digestOf (slice damaged region) ≠ digestOf (slice image region)

instance (segments : List Segment) (image damaged : List UInt8) :
    Decidable (Separated segments image damaged) :=
  inferInstanceAs (Decidable (∀ region ∈ hashedRegions segments, _))

theorem mem_regionsFrom (before : List Segment) (s : Segment) (after : List Segment)
    (offset : Nat) :
    (offset + (joined before).length, 48) ∈ regionsFrom offset (before ++ s :: after) ∧
      (offset + (joined before).length + recordHeaderBytes, s.bytes.length - recordHeaderBytes) ∈
        regionsFrom offset (before ++ s :: after) := by
  induction before generalizing offset with
  | nil => exact ⟨List.mem_cons_self, List.mem_cons_of_mem _ List.mem_cons_self⟩
  | cons first before ih =>
    obtain ⟨front, payload⟩ := ih (offset + first.bytes.length)
    rw [joined_cons, List.length_append, ← Nat.add_assoc]
    exact ⟨List.mem_cons_of_mem _ (List.mem_cons_of_mem _ front),
      List.mem_cons_of_mem _ (List.mem_cons_of_mem _ payload)⟩

theorem slice_middle {left middle right : List UInt8} {start length : Nat}
    (fits : start + length ≤ middle.length) :
    slice (left ++ (middle ++ right)) (left.length + start, length) =
      (middle.drop start).take length := by
  rw [slice, ← List.drop_drop, List.drop_left, List.drop_append_of_le_length (by omega),
    List.take_append_of_le_length (by rw [List.length_drop]; omega)]

theorem set_ne {data : List UInt8} {position : Nat} {byte : UInt8}
    (inside : position < data.length) (changed : data[position]? ≠ some byte) :
    data.set position byte ≠ data := by
  intro same
  have here : (data.set position byte)[position]? = some byte := by
    rw [List.getElem?_set_self inside]
  rw [same] at here
  exact changed here

/-- A block that ends with the digest of its front, with one byte changed: the
front and the digest no longer agree. -/
theorem unsealed_set {block : List UInt8} {front position : Nat} {byte : UInt8}
    (size : block.length = front + 32)
    (sealed : digestOf (block.take front) = (block.drop front).take 32)
    (inside : position < block.length) (changed : block[position]? ≠ some byte)
    (separated : (block.set position byte).take front ≠ block.take front →
      digestOf ((block.set position byte).take front) ≠ digestOf (block.take front)) :
    digestOf ((block.set position byte).take front) ≠
      ((block.set position byte).drop front).take 32 := by
  have differs := set_ne inside changed
  by_cases early : position < front
  · have tail : (block.set position byte).drop front = block.drop front :=
      List.drop_set_of_lt early
    rw [tail, ← sealed]
    refine separated fun same => differs ?_
    rw [← List.take_append_drop front (block.set position byte), same, tail,
      List.take_append_drop]
  · have kept : (block.set position byte).take front = block.take front :=
      List.take_set_of_le (by omega)
    rw [kept, sealed, List.take_of_length_le (by simp [size]),
      List.take_of_length_le (by simp [size])]
    refine fun same => differs ?_
    rw [← List.take_append_drop front (block.set position byte), kept, ← same,
      List.take_append_drop]

/-- A header whose digest does not match its front is refused. -/
theorem verifyRecordHeader_unsealed {header : List UInt8}
    (unsealed : digestOf (header.take 48) ≠ (header.drop 48).take 32) :
    ∃ defect, verifyRecordHeader header = .error defect := by
  unfold verifyRecordHeader
  by_cases magic : getU32 header ≠ recordMagic
  · exact ⟨_, if_pos magic⟩
  · exact ⟨_, by rw [if_neg magic, if_pos unsealed]⟩

theorem verifyRecordHeader_sealed {header : List UInt8} {declared : RecordType × Nat}
    (verified : verifyRecordHeader header = .ok declared) :
    digestOf (header.take 48) = (header.drop 48).take 32 := by
  by_contra unsealed
  obtain ⟨defect, refused⟩ := verifyRecordHeader_unsealed unsealed
  rw [verified] at refused
  cases refused

theorem readRecord_unverified {header : List UInt8} (full : recordHeaderBytes ≤ header.length)
    {defect : Defect} (refused : verifyRecordHeader header = .error defect) (more : List UInt8) :
    readRecord (header ++ more) = .error defect := by
  have long : ¬ (header ++ more).length < recordHeaderBytes := by
    rw [List.length_append]
    omega
  rw [readRecord, if_neg long, verifyRecordHeader_append more full, refused]

theorem Segment.long (s : Segment) : recordHeaderBytes ≤ s.bytes.length := by
  obtain ⟨header, payload, type, size, split, -⟩ := readRecord_ok (s.whole [])
  rw [List.append_nil, List.append_nil] at split
  rw [split, List.length_append, size]
  exact Nat.le_add_right _ _

/-- A record with one byte changed is refused, whatever follows it. -/
theorem Segment.damaged (s : Segment) {position : Nat} {byte : UInt8}
    (inside : position < s.bytes.length) (changed : s.bytes[position]? ≠ some byte)
    (front : (s.bytes.set position byte).take 48 ≠ s.bytes.take 48 →
      digestOf ((s.bytes.set position byte).take 48) ≠ digestOf (s.bytes.take 48))
    (payload : (s.bytes.set position byte).drop recordHeaderBytes ≠ s.bytes.drop recordHeaderBytes →
      digestOf ((s.bytes.set position byte).drop recordHeaderBytes) ≠
        digestOf (s.bytes.drop recordHeaderBytes)) (more : List UInt8) :
    ∃ defect, readRecord (s.bytes.set position byte ++ more) = .error defect := by
  obtain ⟨header, body, type, size, split, verified, digest, -⟩ := readRecord_ok (s.whole [])
  rw [List.append_nil, List.append_nil] at split
  have eighty : header.length = 80 := size
  rw [split] at inside changed front payload ⊢
  by_cases early : position < header.length
  · -- the front no longer matches the digest behind it
    rw [List.set_append_left _ _ early, List.append_assoc]
    rw [List.getElem?_append_left early] at changed
    rw [List.set_append_left _ _ early, List.take_append_of_le_length (by simp; omega),
      List.take_append_of_le_length (by omega)] at front
    have unsealed := unsealed_set eighty (verifyRecordHeader_sealed verified) early changed front
    obtain ⟨defect, refused⟩ := verifyRecordHeader_unsealed unsealed
    exact ⟨defect, readRecord_unverified (by simp [size]) refused _⟩
  · -- the header still verifies, the payload no longer has its digest
    have late : header.length ≤ position := by omega
    rw [List.set_append_right _ _ late]
    rw [List.getElem?_append_right late] at changed
    rw [List.length_append] at inside
    have differs := set_ne (by omega) changed
    rw [List.set_append_right _ _ late, ← size, List.drop_left, List.drop_left] at payload
    have wrong := payload differs
    rw [digest] at wrong
    refine ⟨.payloadDigestMismatch, ?_⟩
    rw [readRecord_verified size (by rw [List.length_set, verified]), if_pos wrong]

theorem verifyFileHeader_sealed {head : List UInt8} {version : UInt32}
    (verified : verifyFileHeader head = some version) :
    digestOf (head.take 16) = (head.drop 16).take 32 := by
  unfold verifyFileHeader at verified
  split_ifs at verified with short magic unsealed
  exact of_not_not unsealed

theorem verifyFileHeader_unsealed {data : List UInt8}
    (unsealed : digestOf (data.take 16) ≠ (data.drop 16).take 32) :
    verifyFileHeader data = none := by
  unfold verifyFileHeader
  split_ifs <;> rfl

/-- The record a byte behind the file header lies in. -/
theorem exists_segment_at (segments : List Segment) (position : Nat)
    (inside : position < (joined segments).length) :
    ∃ before s after, segments = before ++ s :: after ∧ (joined before).length ≤ position ∧
      position < (joined before).length + s.bytes.length := by
  induction segments generalizing position with
  | nil => exact absurd inside (by simp)
  | cons first segments ih =>
    rw [joined_cons, List.length_append] at inside
    by_cases here : position < first.bytes.length
    · exact ⟨[], first, segments, rfl, by simp, by simpa using here⟩
    · obtain ⟨before, s, after, split, starts, ends⟩ :=
        ih (position - first.bytes.length) (by omega)
      refine ⟨first :: before, s, after, by rw [split]; rfl, ?_, ?_⟩
      · rw [joined_cons, List.length_append]
        omega
      · rw [joined_cons, List.length_append]
        omega

section

variable [StdSort]

/-- An image whose file header does not verify is refused, by the scan and by
the store. -/
theorem refused_of_unsealed {image : List UInt8} (long : fileHeaderBytes ≤ image.length)
    (unsealed : digestOf (image.take 16) ≠ (image.drop 16).take 32) :
    (scanImage image).1.recovery.status = .corrupt ∧
      ∀ config io, (SiteStore.openStore config io (some image)).1.isOk = false := by
  have scanned : scanImage image =
      ({ recovery :=
          { status := .corrupt
            diagnostics := [ascii "store header magic or digest mismatch"] } }, 0) := by
    rw [scanImage, if_neg (by omega), verifyFileHeader_unsealed unsealed]
  refine ⟨by rw [scanned], fun config io => ?_⟩
  unfold SiteStore.openStore
  simp only [scanned, StoreRecoveryReport.usable, Bool.false_and, Bool.not_false, if_true]
  split_ifs with _ _ _ directory
  · rfl
  · rfl
  · rfl
  · simpa using directory
  · rfl
  · rfl

/-- Any single damaged byte is caught. In the file header the store is refused;
behind it the scan stops at the record that holds the byte, with the records
before it. -/
theorem damage_caught (head : List UInt8) (segments : List Segment) (headed : Headed head)
    (position : Nat) (byte : UInt8) (inside : position < (head ++ joined segments).length)
    (changed : (head ++ joined segments)[position]? ≠ some byte)
    (separated : Separated segments (head ++ joined segments)
      ((head ++ joined segments).set position byte)) :
    (scanImage ((head ++ joined segments).set position byte)).1.recovery.status ≠ .ok ∧
      (position < fileHeaderBytes → ∀ config io,
        (SiteStore.openStore config io
          (some ((head ++ joined segments).set position byte))).1.isOk = false) ∧
      (fileHeaderBytes ≤ position → ∃ before s after recovery, segments = before ++ s :: after ∧
        (head ++ joined before).length ≤ position ∧
        position < (head ++ joined before).length + s.bytes.length ∧
        scanImage ((head ++ joined segments).set position byte) =
          (collect (accepted before) recovery, (head ++ joined before).length)) := by
  have size : head.length = 48 := headed.size
  by_cases early : position < head.length
  · have front : digestOf ((head.set position byte).take 16) ≠
        ((head.set position byte).drop 16).take 32 := by
      refine unsealed_set size (verifyFileHeader_sealed headed.verifies) early ?_ fun apart => ?_
      · rwa [List.getElem?_append_left early] at changed
      · have region := separated (0, 16) List.mem_cons_self
        simp only [slice, List.drop_zero, List.set_append_left _ _ early] at region
        rw [List.take_append_of_le_length (by simp [size]),
          List.take_append_of_le_length (by omega)] at region
        exact region apart
    have unsealed : digestOf ((head.set position byte ++ joined segments).take 16) ≠
        ((head.set position byte ++ joined segments).drop 16).take 32 := by
      rwa [List.take_append_of_le_length (by simp [size]),
        List.drop_append_of_le_length (by simp [size]),
        List.take_append_of_le_length (by simp [size])]
    rw [List.set_append_left _ _ early]
    obtain ⟨status, refused⟩ := refused_of_unsealed
      (by rw [List.length_append, List.length_set, headed.size]; omega) unsealed
    exact ⟨status ▸ nofun, fun _ => refused, fun late => by
      have bound : fileHeaderBytes = 48 := rfl
      omega⟩
  · have late : head.length ≤ position := by omega
    rw [List.length_append] at inside
    obtain ⟨before, s, after, rfl, starts, ends⟩ :=
      exists_segment_at segments (position - head.length) (by omega)
    have whole : head ++ joined (before ++ s :: after) =
        (head ++ joined before) ++ (s.bytes ++ joined after) := by
      rw [joined_append, joined_cons, List.append_assoc]
    have left : (head ++ joined before).length = head.length + (joined before).length :=
      List.length_append
    obtain ⟨k, offset⟩ : ∃ k, position = (head ++ joined before).length + k :=
      ⟨position - (head ++ joined before).length, by omega⟩
    have within : k < s.bytes.length := by omega
    have damaged : (head ++ joined (before ++ s :: after)).set position byte =
        (head ++ joined before) ++ (s.bytes.set k byte ++ joined after) := by
      rw [whole, List.set_append_right _ _ (by omega), offset, Nat.add_sub_cancel_left,
        List.set_append_left _ _ within]
    have here : s.bytes[k]? ≠ some byte := by
      rwa [whole, offset, List.getElem?_append_right (by omega), Nat.add_sub_cancel_left,
        List.getElem?_append_left within] at changed
    obtain ⟨frontRegion, payloadRegion⟩ := mem_regionsFrom before s after fileHeaderBytes
    rw [← headed.size, ← left] at frontRegion payloadRegion
    have long := Segment.long s
    have eighty : recordHeaderBytes = 80 := rfl
    have front := separated _ (List.mem_cons_of_mem _ (headed.size ▸ frontRegion))
    have payload := separated _ (List.mem_cons_of_mem _ (headed.size ▸ payloadRegion))
    rw [damaged, whole] at front payload
    rw [← Nat.add_zero (head ++ joined before).length, slice_middle (by simp; omega),
      slice_middle (by omega), List.drop_zero, List.drop_zero] at front
    rw [slice_middle (by simp; omega), slice_middle (by omega),
      List.take_of_length_le (by simp), List.take_of_length_le (by simp)] at payload
    obtain ⟨defect, refused⟩ := Segment.damaged s within here front payload (joined after)
    have solid : 0 < (s.bytes.set k byte ++ joined after).length := by
      rw [List.length_append, List.length_set]
      omega
    obtain ⟨recovery, scanned, -, status, -⟩ := scanImage_stopped headed before solid refused
    rw [damaged, List.append_assoc, scanned]
    refine ⟨status ▸ defect.status_ne_ok, fun before => absurd before ?_, fun _ => ?_⟩
    · have bound : fileHeaderBytes = 48 := rfl
      omega
    · exact ⟨before, s, after, recovery, rfl, by omega, by omega, rfl⟩

end

def sampleSegments : List Segment := [sampleRecord.segment]

theorem damage_caught_sample :
    (scanImage ((makeFileHeader ++ joined sampleSegments).set 132 0)).1.recovery.status ≠ .ok :=
  (damage_caught makeFileHeader sampleSegments makeFileHeader_headed 132 0 (by decide +kernel)
    (by decide +kernel) (by decide +kernel)).1

end SiteFabric.Store
