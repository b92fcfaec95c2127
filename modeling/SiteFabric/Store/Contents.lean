import SiteFabric.Store.Files
import SiteFabric.Store.Scanning

/-! What becomes of a value that is appended.
Writing is total and reading is not: the scan takes a record back exactly when
its codec reads the value and, for a snapshot, when the state that comes back
has the digest the snapshot carries. What a scan has yielded once, it yields
again from what is written of it. -/

namespace SiteFabric.Store

open Lib Lib.Reader

theorem decodeWhole_readable {α : Type} (c : Codec α) {a : α} (readable : c.readable a = true)
    (short : (c.write a).length < span) : decodeWhole c.read (c.write a) = .ok (c.stored a) := by
  have read := (c.reads a []).yields (by rwa [List.append_nil]) readable
  rw [List.append_nil] at read
  rw [decodeWhole, run_bind read]
  rfl

theorem decodeWhole_unreadable {α : Type} (c : Codec α) {a : α} (unreadable : c.readable a = false)
    (short : (c.write a).length < span) :
    ∃ fault, decodeWhole c.read (c.write a) = .error fault := by
  obtain ⟨fault, refused⟩ := (c.reads a []).refuses (by rwa [List.append_nil]) unreadable
  rw [List.append_nil] at refused
  refine ⟨fault, ?_⟩
  rw [decodeWhole, refuse_bind refused]

theorem decodeWhole_ok {α : Type} {read : Decoder α} {payload : List UInt8} {a : α}
    (decoded : decodeWhole read payload = .ok a) : ∃ rest, read payload = .ok (a, rest) := by
  unfold decodeWhole at decoded
  split at decoded
  · next b rest whole =>
    cases decoded
    obtain ⟨b, middle, taken, finished⟩ := Reader.bind_ok whole
    obtain ⟨u, left, _, returned⟩ := Reader.bind_ok finished
    cases returned
    exact ⟨middle, taken⟩
  · cases decoded

namespace Content

/-- Whether the codec of a value reads back what is written of it. -/
def readable : Content → Bool
  | .snapshot s => Codec.snapshotBody.readable s
  | .publication r => Codec.publicationRecord.readable r
  | .retirement r => Codec.retirementRecord.readable r
  | .tombstone t => (Codec.text Limits.maxTextBytes).readable t
  | .lease t => Codec.authorityToken.readable t

/-- What comes back of a value. -/
def stored : Content → Content
  | .snapshot s => .snapshot (Codec.snapshotBody.stored s)
  | .publication r => .publication (Codec.publicationRecord.stored r)
  | .retirement r => .retirement (Codec.retirementRecord.stored r)
  | .tombstone t => .tombstone ((Codec.text Limits.maxTextBytes).stored t)
  | .lease t => .lease (Codec.authorityToken.stored t)

/-- Whether the scan goes past the record of a value. -/
def recoverable (c : Content) : Bool := c.readable && stateVerifies (some c.stored)

theorem decode_readable {c : Content} (readable : c.readable = true)
    (short : c.payload.length < span) :
    decodeRecord c.type c.payload = .ok (some c.stored) := by
  cases c with
  | snapshot s =>
    exact congrArg (Except.map _) (decodeWhole_readable Codec.snapshotBody readable short)
  | publication r =>
    exact congrArg (Except.map _) (decodeWhole_readable Codec.publicationRecord readable short)
  | retirement r =>
    exact congrArg (Except.map _) (decodeWhole_readable Codec.retirementRecord readable short)
  | tombstone t =>
    exact congrArg (Except.map _)
      (decodeWhole_readable (Codec.text Limits.maxTextBytes) readable short)
  | lease t =>
    exact congrArg (Except.map _) (decodeWhole_readable Codec.authorityToken readable short)

private theorem map_error {α β : Type} {e : Except Fault α} (f : α → β)
    (failed : ∃ fault, e = .error fault) : ∃ fault, e.map f = .error fault := by
  obtain ⟨fault, rfl⟩ := failed
  exact ⟨fault, rfl⟩

theorem decode_unreadable {c : Content} (unreadable : c.readable = false)
    (short : c.payload.length < span) :
    ∃ fault, decodeRecord c.type c.payload = .error fault := by
  cases c with
  | snapshot s => exact map_error _ (decodeWhole_unreadable Codec.snapshotBody unreadable short)
  | publication r =>
    exact map_error _ (decodeWhole_unreadable Codec.publicationRecord unreadable short)
  | retirement r =>
    exact map_error _ (decodeWhole_unreadable Codec.retirementRecord unreadable short)
  | tombstone t =>
    exact map_error _ (decodeWhole_unreadable (Codec.text Limits.maxTextBytes) unreadable short)
  | lease t => exact map_error _ (decodeWhole_unreadable Codec.authorityToken unreadable short)

end Content

/-- A payload fits the word its lengths are written in. -/
theorem lt_span {n : Nat} (fits : n ≤ Limits.maxRecordPayloadBytes) : n < span :=
  Nat.lt_of_le_of_lt fits (by decide)

theorem acceptPayload_ok {type : RecordType} {payload : List UInt8} {decoded : Option Content}
    (accepted : acceptPayload type payload = .ok decoded) :
    decodeRecord type payload = .ok decoded ∧ stateVerifies decoded = true := by
  unfold acceptPayload at accepted
  cases decodes : decodeRecord type payload with
  | error fault =>
    rw [decodes] at accepted
    cases accepted
  | ok decoded' =>
    simp only [decodes] at accepted
    split_ifs at accepted with verifies
    cases accepted
    exact ⟨rfl, verifies⟩

namespace Content

theorem accept_recoverable {c : Content} (recoverable : c.recoverable = true)
    (fits : c.payload.length ≤ Limits.maxRecordPayloadBytes) :
    acceptPayload c.type c.payload = .ok (some c.stored) := by
  obtain ⟨readable, verifies⟩ := Bool.and_eq_true_iff.mp recoverable
  rw [acceptPayload, decode_readable readable (lt_span fits)]
  simp only [verifies, if_true]

/-- A value that is not taken back is a defect that no later write mends. -/
theorem accept_unrecoverable {c : Content} (unrecoverable : c.recoverable = false)
    (fits : c.payload.length ≤ Limits.maxRecordPayloadBytes) :
    ∃ defect, acceptPayload c.type c.payload = .error defect ∧ defect.tailTruncated = false ∧
      defect.status ≠ .ok := by
  cases readable : c.readable with
  | false =>
    obtain ⟨fault, failed⟩ := decode_unreadable readable (lt_span fits)
    refine ⟨.decodeFailed fault, ?_, rfl, by cases fault <;> decide⟩
    rw [acceptPayload, failed]
  | true =>
    have verifies : stateVerifies (some c.stored) = false := by
      rw [recoverable, readable, Bool.true_and] at unrecoverable
      exact unrecoverable
    refine ⟨.stateDigestMismatch, ?_, rfl, by decide⟩
    rw [acceptPayload, decode_readable readable (lt_span fits)]
    simp only [verifies, if_false, Bool.false_eq_true]

private theorem map_ok {α β : Type} {e : Except Fault α} {f : α → β} {b : β}
    (decoded : e.map f = .ok b) : ∃ a, e = .ok a ∧ f a = b := by
  cases e with
  | error fault => cases decoded
  | ok a =>
    cases decoded
    exact ⟨a, rfl, rfl⟩

/-- A value that was decoded from a payload is of the payload's type, would be
read again, is written again as it was, and takes no more room. -/
structure Decoded (c : Content) (type : RecordType) (room : Nat) : Prop where
  type_eq : c.type = type
  readable : c.readable = true
  rewritten : c.stored.payload = c.payload
  fits : c.payload.length ≤ room
  verifies : stateVerifies (some c) = true → stateVerifies (some c.stored) = true
  same : c.snapshot? = none → c.stored = c

theorem decode_ok {type : RecordType} {payload : List UInt8} {c : Content}
    (decoded : decodeRecord type payload = .ok (some c)) : Decoded c type payload.length := by
  cases type with
  | unknown | storeHeader => cases decoded
  | checkpoint =>
    obtain ⟨rest, read⟩ := decodeWhole_ok decoded
    cases read
  | snapshot =>
    obtain ⟨s, whole, made⟩ := map_ok decoded
    cases made
    obtain ⟨rest, read⟩ := decodeWhole_ok whole
    obtain ⟨readable, rewritten, fits⟩ := Codec.snapshotBody.yielded read
    obtain ⟨used, length, state⟩ := Codec.snapshotBody_state payload s rest read
    refine ⟨rfl, readable, rewritten, fits, fun verifies => ?_, fun never => by cases never⟩
    change (Sha256.digestBytes (Codec.composedSite.stored s.state).write == s.siteDigest) = true
    rw [state]
    exact verifies
  | publication =>
    obtain ⟨r, whole, made⟩ := map_ok decoded
    cases made
    obtain ⟨rest, read⟩ := decodeWhole_ok whole
    obtain ⟨readable, rewritten, fits⟩ := Codec.publicationRecord.yielded read
    exact ⟨rfl, readable, rewritten, fits, fun _ => rfl,
      fun _ => congrArg Content.publication (Codec.publicationRecord_plain.yielded read)⟩
  | retirement =>
    obtain ⟨r, whole, made⟩ := map_ok decoded
    cases made
    obtain ⟨rest, read⟩ := decodeWhole_ok whole
    obtain ⟨readable, rewritten, fits⟩ := Codec.retirementRecord.yielded read
    exact ⟨rfl, readable, rewritten, fits, fun _ => rfl, fun _ => rfl⟩
  | tombstone =>
    obtain ⟨t, whole, made⟩ := map_ok decoded
    cases made
    obtain ⟨rest, read⟩ := decodeWhole_ok whole
    obtain ⟨readable, rewritten, fits⟩ := (Codec.text Limits.maxTextBytes).yielded read
    exact ⟨rfl, readable, rewritten, fits, fun _ => rfl, fun _ => rfl⟩
  | lease =>
    obtain ⟨t, whole, made⟩ := map_ok decoded
    cases made
    obtain ⟨rest, read⟩ := decodeWhole_ok whole
    obtain ⟨readable, rewritten, fits⟩ := Codec.authorityToken.yielded read
    exact ⟨rfl, readable, rewritten, fits, fun _ => rfl, fun _ => rfl⟩

/-- What comes back of a decoded value comes back as it is. -/
theorem Decoded.settled {c : Content} {type : RecordType} {room : Nat} (law : Decoded c type room)
    (short : c.payload.length < span) : c.stored.stored = c.stored := by
  have kind : c.stored.type = c.type := by cases c <;> rfl
  have first := decode_readable law.readable short
  have second := decode_readable (decode_ok first).readable (law.rewritten ▸ short)
  rw [kind, law.rewritten, first] at second
  exact (Option.some.inj (Except.ok.inj second)).symm

/-- A value the scan has accepted is accepted again from what is written of it. -/
structure Accepted (c : Content) : Prop where
  recoverable : c.recoverable = true
  fits : c.payload.length ≤ Limits.maxRecordPayloadBytes
  same : c.snapshot? = none → c.stored = c
  settled : c.stored.stored = c.stored

theorem accept_ok {type : RecordType} {payload : List UInt8} {c : Content}
    (accepted : acceptPayload type payload = .ok (some c))
    (fits : payload.length ≤ Limits.maxRecordPayloadBytes) : Accepted c := by
  obtain ⟨decoded, verifies⟩ := acceptPayload_ok accepted
  have law := decode_ok decoded
  have room := law.fits.trans fits
  exact ⟨Bool.and_eq_true_iff.mpr ⟨law.readable, law.verifies verifies⟩, room, law.same,
    law.settled (lt_span room)⟩

end Content

/-- A value whose record the scan takes back, as a segment of the file. -/
def Content.segment (c : Content) (recoverable : c.recoverable = true)
    (fits : c.payload.length ≤ Limits.maxRecordPayloadBytes) : Segment where
  bytes := c.record
  frame := some c.stored
  solid := by
    rw [record, length_makeRecord fits]
    omega
  whole rest := by
    rw [record, readRecord_makeRecord c.type fits, accept_recoverable recoverable fits]
    rfl

/-- The room records take: what their headers take, and their payloads. -/
theorem length_records {contents : List Content}
    (fits : ∀ c ∈ contents, c.payload.length ≤ Limits.maxRecordPayloadBytes) :
    (contents.flatMap Content.record).length =
      (contents.map fun c => recordHeaderBytes + c.payload.length).sum := by
  rw [List.length_flatMap]
  refine congrArg List.sum (List.map_congr_left fun c member => ?_)
  exact length_makeRecord (fits c member)

/-- The records of values the scan takes back, as segments of the file. -/
theorem exists_segments {contents : List Content}
    (recoverable : ∀ c ∈ contents, c.recoverable = true)
    (fits : ∀ c ∈ contents, c.payload.length ≤ Limits.maxRecordPayloadBytes) :
    ∃ segments : List Segment, joined segments = contents.flatMap Content.record ∧
      accepted segments = contents.map Content.stored ∧ segments.length = contents.length := by
  induction contents with
  | nil => exact ⟨[], rfl, rfl, rfl⟩
  | cons c contents ih =>
    obtain ⟨now, later⟩ := List.forall_mem_cons.mp recoverable
    obtain ⟨room, rooms⟩ := List.forall_mem_cons.mp fits
    obtain ⟨segments, bytes, values, length⟩ := ih later rooms
    refine ⟨c.segment now room :: segments, ?_, ?_, congrArg (· + 1) length⟩
    · rw [joined_cons, bytes, List.flatMap_cons]
      rfl
    · rw [List.map_cons, ← values]
      rfl

/-- A value a scan yields was accepted from the payload of some record. -/
theorem exists_payload {segments : List Segment} {c : Content} (member : c ∈ accepted segments) :
    ∃ type payload, payload.length ≤ Limits.maxRecordPayloadBytes ∧
      acceptPayload type payload = .ok (some c) := by
  rw [accepted, List.reduceOption_mem_iff, List.mem_map] at member
  obtain ⟨segment, -, frame⟩ := member
  have read := segment.whole []
  rw [frame] at read
  obtain ⟨header, payload, type, -, -, verified, -, accepts⟩ := readRecord_ok read
  exact ⟨type, payload, verifyRecordHeader_bound verified, accepts⟩

theorem mem_accepted {segments : List Segment} {c : Content} (member : c ∈ accepted segments) :
    c.Accepted := by
  obtain ⟨type, payload, fits, accepts⟩ := exists_payload member
  exact Content.accept_ok accepts fits

/-- Publications that come back as they are come back among the rest. -/
theorem publications_stored {contents : List Content}
    (stable : ∀ record ∈ contents.filterMap Content.publication?,
      Codec.publicationRecord.stored record = record) :
    (contents.map Content.stored).filterMap Content.publication? =
      contents.filterMap Content.publication? := by
  induction contents with
  | nil => rfl
  | cons content rest ih =>
    cases content with
    | publication record =>
      obtain ⟨first, others⟩ := List.forall_mem_cons.mp stable
      have same := ih others
      simp only [List.map_cons, List.filterMap_cons, Content.stored, Content.publication?, first,
        same]
    | snapshot | retirement | tombstone | lease => exact ih stable

/-- A snapshot the scan accepts has the digest of its state, and not yet its own. -/
theorem snapshot_accepted {segments : List Segment} {s : SiteSnapshot}
    (member : Content.snapshot s ∈ accepted segments) :
    composedSiteDigest s.state = s.siteDigest ∧ s.snapshotDigest = Digest.zero := by
  obtain ⟨type, payload, -, accepts⟩ := exists_payload member
  obtain ⟨decoded, verifies⟩ := acceptPayload_ok accepts
  obtain rfl : RecordType.snapshot = type := (Content.decode_ok decoded).type_eq
  obtain ⟨t, whole, made⟩ := Content.map_ok decoded
  cases made
  obtain ⟨rest, taken⟩ := decodeWhole_ok whole
  obtain ⟨used, length, undigested⟩ := Codec.snapshotBody_undigested payload s rest taken
  exact ⟨eq_of_beq verifies, undigested⟩

end SiteFabric.Store
