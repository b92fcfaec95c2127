import SiteFabric.Codec.Payloads
import SiteFabric.Core.KeyText
import SiteFabric.Store.Compaction

/-! The digest of what a store holds.
It is taken over a mark of every record, and the marks are read back from the bytes
that are hashed. The mark of a publication hashes all of it; that of a snapshot is its
sequence and a digest the codec leaves at zero, and that of a retirement its domain and
generation. -/

namespace SiteFabric

open Lib Lib.Reader

def publicationDigest (r : MemberPublicationRecord) : Digest := Sha256.digestBytes r.write

namespace Store

open Canonical

/-- The bytes `content_digest` hashes. -/
def StoreContents.contentEncoding (c : StoreContents) : List UInt8 :=
  c.snapshotHistory.flatMap (fun snapshot =>
    tag RecordType.snapshot.ctorIdx ++ u64 snapshot.sequence ++ digest snapshot.snapshotDigest) ++
  c.publications.flatMap (fun record =>
    tag RecordType.publication.ctorIdx ++ u64 record.acceptanceSequence ++
      digest (publicationDigest record)) ++
  c.retirements.flatMap (fun record =>
    tag RecordType.retirement.ctorIdx ++ text record.domain.toText ++
      generation record.generation) ++
  c.tombstones.flatMap (fun tombstone => tag RecordType.tombstone.ctorIdx ++ text tombstone) ++
  c.leases.flatMap (fun lease => tag RecordType.lease.ctorIdx ++ lease.write)

def StoreContents.contentDigest (c : StoreContents) : Digest :=
  Sha256.digestBytes c.contentEncoding

/-- Everything that is hashed for the digest of a store. -/
def StoreContents.hashed (c : StoreContents) : List (List UInt8) :=
  c.contentEncoding :: c.publications.map MemberPublicationRecord.write

/-- The payloads of two stores, list by list. -/
structure SameRecords (one other : StoreContents) : Prop where
  snapshots : one.snapshotHistory.map SiteSnapshot.write =
    other.snapshotHistory.map SiteSnapshot.write
  publications : one.publications.map MemberPublicationRecord.write =
    other.publications.map MemberPublicationRecord.write
  retirements : one.retirements.map MemberRetirementRecord.write =
    other.retirements.map MemberRetirementRecord.write
  tombstones : one.tombstones.map text = other.tombstones.map text
  leases : one.leases.map Authority.AuthorityToken.write =
    other.leases.map Authority.AuthorityToken.write

/-! What the digest takes of a record. -/

inductive Mark where
  | snapshot (sequence : UInt64) (snapshotDigest : Digest)
  | publication (sequence : UInt64) (record : Digest)
  | retirement (domain : Text) (generation : Generation)
  | tombstone (t : Text)
  | lease (t : Authority.AuthorityToken)
deriving DecidableEq

namespace Mark

def write : Mark → List UInt8
  | .snapshot sequence snapshotDigest =>
    tag RecordType.snapshot.ctorIdx ++ (u64 sequence ++ digest snapshotDigest)
  | .publication sequence record =>
    tag RecordType.publication.ctorIdx ++ (u64 sequence ++ digest record)
  | .retirement domain generation =>
    tag RecordType.retirement.ctorIdx ++ (text domain ++ Canonical.generation generation)
  | .tombstone t => tag RecordType.tombstone.ctorIdx ++ text t
  | .lease t => tag RecordType.lease.ctorIdx ++ t.write

/-- The mark of a record of the type, without its tag. -/
def body : RecordType → Decoder Mark
  | .snapshot => do return .snapshot (← CanonicalReader.u64) (← CanonicalReader.digest)
  | .publication => do return .publication (← CanonicalReader.u64) (← CanonicalReader.digest)
  | .retirement => do
    return .retirement (← CanonicalReader.text Limits.maxTextBytes) (← CanonicalReader.generation)
  | .tombstone => do return .tombstone (← CanonicalReader.text Limits.maxTextBytes)
  | .lease => do return .lease (← Codec.authorityToken.read)
  | _ => refuse .unsupported

def read : Decoder Mark := do body (RecordType.ofNat (← CanonicalReader.u8).toNat)

theorem read_tag (type : RecordType) (rest : List UInt8) :
    read (tag type.ctorIdx ++ rest) = body type rest := by
  cases type <;> rfl

theorem write_pos (m : Mark) : 0 < m.write.length := by
  cases m <;> simp [write]

def snapshot? : Mark → Option (UInt64 × Digest)
  | .snapshot sequence snapshotDigest => some (sequence, snapshotDigest)
  | _ => none

def publication? : Mark → Option (UInt64 × Digest)
  | .publication sequence record => some (sequence, record)
  | _ => none

def retirement? : Mark → Option (Text × Generation)
  | .retirement domain generation => some (domain, generation)
  | _ => none

def tombstone? : Mark → Option Text
  | .tombstone t => some t
  | _ => none

def lease? : Mark → Option Authority.AuthorityToken
  | .lease t => some t
  | _ => none

end Mark

def Content.mark : Content → Mark
  | .snapshot s => .snapshot s.sequence s.snapshotDigest
  | .publication r => .publication r.acceptanceSequence (publicationDigest r)
  | .retirement r => .retirement r.domain.toText r.generation
  | .tombstone t => .tombstone t
  | .lease t => .lease t

theorem contentEncoding_eq (c : StoreContents) :
    c.contentEncoding = c.held.flatMap fun content => content.mark.write := by
  simp only [StoreContents.contentEncoding, StoreContents.held, byKind, List.flatMap_append,
    List.flatMap_map, Content.mark, Mark.write, List.append_assoc]

theorem toText_size {key : MemberDomainKey} (readable : key.readable = true) :
    key.toText.size ≤ Limits.maxTextBytes := by
  have whole := Codec.memberDomainKey_size readable
  simp only [memberDomainKey, List.length_append, length_tag, length_text] at whole
  have token : key.kind.token.size ≤ 15 := by
    cases key.kind <;> decide
  have joined : key.toText.size = key.kind.token.size + 1 + key.id.size := by
    simp only [MemberDomainKey.toText, Text.size, Text.bytes_append, List.length_append]
    rfl
  have bound : Limits.maxTextBytes = 4096 := rfl
  omega

theorem authorityToken_returns : Codec.authorityToken.Returns :=
  .record <| Codec.enum_returns.and <| (Codec.text_returns (by decide)).and <|
    Codec.strongId_returns.and <| Codec.epoch_returns.and <| Codec.incarnation_returns.and <|
    Codec.generation_returns.and <| Codec.u64_returns.and <|
    Codec.i64_returns.and Codec.i64_returns

/-- The mark of an accepted record is read back, whatever follows it. -/
theorem read_mark {content : Content} (accepted : content.Accepted) (rest : List UInt8) :
    Mark.read (content.mark.write ++ rest) = .ok (content.mark, rest) := by
  have readable := (Bool.and_eq_true_iff.mp accepted.recoverable).1
  have words (t : Text) (short : t.size ≤ Limits.maxTextBytes) (rest : List UInt8) :
      CanonicalReader.text Limits.maxTextBytes (text t ++ rest) = .ok (t, rest) :=
    Codec.text_returns (Nat.le_refl 4096) t rest (decide_eq_true short)
  cases content with
  | snapshot s =>
    rw [Content.mark, Mark.write, List.append_assoc, Mark.read_tag, Mark.body, List.append_assoc,
      run_bind (CanonicalReader.run_u64 _ _), run_bind (CanonicalReader.run_digest _ _)]
    rfl
  | publication r =>
    rw [Content.mark, Mark.write, List.append_assoc, Mark.read_tag, Mark.body, List.append_assoc,
      run_bind (CanonicalReader.run_u64 _ _), run_bind (CanonicalReader.run_digest _ _)]
    rfl
  | retirement r =>
    have domain : r.domain.readable = true := (Bool.and_eq_true_iff.mp readable).1
    have number : CanonicalReader.generation (generation r.generation ++ rest) =
        .ok (r.generation, rest) := Codec.generation_returns r.generation rest rfl
    rw [Content.mark, Mark.write, List.append_assoc, Mark.read_tag, Mark.body, List.append_assoc,
      run_bind (words _ (toText_size domain) _), run_bind number]
    rfl
  | tombstone t =>
    rw [Content.mark, Mark.write, List.append_assoc, Mark.read_tag, Mark.body,
      run_bind (words t (of_decide_eq_true readable) rest)]
    rfl
  | lease t =>
    have token : Codec.authorityToken.read (t.write ++ rest) = .ok (t, rest) :=
      authorityToken_returns t rest readable
    rw [Content.mark, Mark.write, List.append_assoc, Mark.read_tag, Mark.body, run_bind token]
    rfl

/-- What a scan leaves: records that were accepted, and snapshots whose own digest was
not carried. -/
structure Scanned (c : StoreContents) : Prop where
  accepted : ∀ content ∈ c.held, content.Accepted
  undigested : ∀ s ∈ c.snapshotHistory, s.snapshotDigest = Digest.zero

theorem scanned_of_ok [StdSort] {image : List UInt8}
    (ok : (scanImage image).1.recovery.status = .ok) : Scanned (scanImage image).1 := by
  obtain ⟨head, pieces, headed, rfl⟩ := ok_layout ok
  rw [scanImage_clean headed]
  constructor
  · intro content held
    exact mem_accepted ((held_collect _ _).mem_iff.mp held)
  · intro s kept
    have held : Content.snapshot s ∈ (collect (accepted pieces) _).held :=
      List.mem_append_left _ (List.mem_append_left _ (List.mem_append_left _
        (List.mem_append_left _ (List.mem_map_of_mem kept))))
    exact (snapshot_accepted ((held_collect _ _).mem_iff.mp held)).2

theorem snapshot?_none_iff {content : Content} :
    content.snapshot? = none ↔ content.type ≠ .snapshot := by
  cases content <;> simp [Content.snapshot?, Content.type]

/-- An accepted record other than a snapshot is known by its payload. -/
theorem eq_of_payload {content content' : Content} (accepted : content.Accepted)
    (accepted' : content'.Accepted) (kept : content.snapshot? = none)
    (kinds : content.type = content'.type) (same : content.payload = content'.payload) :
    content = content' := by
  have kept' : content'.snapshot? = none := by
    rw [snapshot?_none_iff, ← kinds]
    exact snapshot?_none_iff.mp kept
  have first := Content.decode_readable (Bool.and_eq_true_iff.mp accepted.recoverable).1
    (lt_span accepted.fits)
  have second := Content.decode_readable (Bool.and_eq_true_iff.mp accepted'.recoverable).1
    (lt_span accepted'.fits)
  rw [kinds, same, second] at first
  rw [← accepted.same kept, ← accepted'.same kept']
  exact (Option.some.inj (Except.ok.inj first)).symm

/-- Two stores of whose records the digest takes the same. -/
structure Alike (one other : StoreContents) : Prop where
  sequences : one.snapshotHistory.map SiteSnapshot.sequence =
    other.snapshotHistory.map SiteSnapshot.sequence
  publications : one.publications = other.publications
  retired : one.retirements.map (fun r => (r.domain, r.generation)) =
    other.retirements.map fun r => (r.domain, r.generation)
  tombstones : one.tombstones = other.tombstones
  leases : one.leases = other.leases

theorem map_eq_of_map {α β γ : Type} {f : α → β} {g : α → γ} {one other : List α}
    (follows : ∀ a ∈ one, ∀ b ∈ other, f a = f b → g a = g b)
    (same : one.map f = other.map f) : one.map g = other.map g := by
  induction one generalizing other with
  | nil => rw [List.map_eq_nil_iff.mp same.symm]
  | cons a one ih =>
    cases other with
    | nil => cases same
    | cons b other =>
      obtain ⟨first, rest⟩ := List.cons.inj same
      have others : one.map g = other.map g :=
        ih (fun c member d member' => follows c (.tail a member) d (.tail b member')) rest
      rw [List.map_cons, List.map_cons, follows a (.head one) b (.head other) first, others]

section

variable {one other : StoreContents}

/-- What is picked from the marks is what the marks of the picked records say. -/
theorem map_eq_of_marks {α β : Type} (pick : Content → Option α) (said : α → β)
    (marked : Mark → Option β) (agree : ∀ content, marked content.mark = (pick content).map said)
    (same : one.held.map Content.mark = other.held.map Content.mark) :
    (one.held.filterMap pick).map said = (other.held.filterMap pick).map said := by
  have picked (c : StoreContents) :
      (c.held.filterMap pick).map said = (c.held.map Content.mark).filterMap marked := by
    rw [List.map_filterMap, List.filterMap_map]
    exact List.filterMap_congr fun content _ => (agree content).symm
  rw [picked, picked, same]

/-- No two of the byte strings that are hashed for one store or the other collide. -/
def NoCollision (one other : StoreContents) : Prop :=
  ∀ bytes ∈ one.hashed ++ other.hashed, ∀ bytes' ∈ one.hashed ++ other.hashed,
    Sha256.digestBytes bytes = Sha256.digestBytes bytes' → bytes = bytes'

instance : Decidable (NoCollision one other) := List.decidableBAll ..

theorem held_publication {c : StoreContents} {r : MemberPublicationRecord}
    (kept : r ∈ c.publications) : Content.publication r ∈ c.held := by
  simp [StoreContents.held, byKind, kept]

theorem marks_eq_iff (scanned : Scanned one) (scanned' : Scanned other)
    (distinct : NoCollision one other) :
    one.held.map Content.mark = other.held.map Content.mark ↔ Alike one other := by
  constructor
  · intro same
    have sequences := map_eq_of_marks Content.snapshot?
      (fun s => (s.sequence, s.snapshotDigest)) Mark.snapshot? (by rintro ⟨⟩ <;> rfl) same
    have publications := map_eq_of_marks Content.publication?
      (fun r => (r.acceptanceSequence, publicationDigest r)) Mark.publication?
      (by rintro ⟨⟩ <;> rfl) same
    have retired := map_eq_of_marks Content.retirement?
      (fun r => (r.domain.toText, r.generation)) Mark.retirement? (by rintro ⟨⟩ <;> rfl) same
    have tombstones := map_eq_of_marks Content.tombstone? id Mark.tombstone?
      (by rintro ⟨⟩ <;> rfl) same
    have leases := map_eq_of_marks Content.lease? id Mark.lease? (by rintro ⟨⟩ <;> rfl) same
    simp only [StoreContents.held, snapshots_byKind, publications_byKind, retirements_byKind,
      tombstones_byKind, leases_byKind, List.map_id] at sequences publications retired tombstones leases
    refine ⟨?_, ?_, ?_, tombstones, leases⟩
    · exact map_eq_of_map (fun s _ s' _ marked => congrArg Prod.fst marked) sequences
    · rw [← List.map_id one.publications, ← List.map_id other.publications]
      refine map_eq_of_map (fun r kept r' kept' marked => ?_) publications
      have written : r.write = r'.write := by
        refine distinct _ ?_ _ ?_ (congrArg Prod.snd marked)
        · exact List.mem_append_left _ (.tail _ (List.mem_map_of_mem kept))
        · exact List.mem_append_right _ (.tail _ (List.mem_map_of_mem kept'))
      have records := eq_of_payload (scanned.accepted _ (held_publication kept))
        (scanned'.accepted _ (held_publication kept')) rfl rfl written
      exact Content.publication.inj records
    · refine map_eq_of_map (fun r _ r' _ marked => ?_) retired
      obtain ⟨domains, generations⟩ := Prod.mk.inj marked
      rw [MemberDomainKey.unambiguous.apart domains, generations]
  · intro alike
    have snapshots : one.snapshotHistory.map (Content.mark ∘ .snapshot) =
        other.snapshotHistory.map (Content.mark ∘ .snapshot) := by
      refine map_eq_of_map (fun s kept s' kept' sequence => ?_) alike.sequences
      simp only [Function.comp_apply, Content.mark, scanned.undigested s kept,
        scanned'.undigested s' kept', sequence]
    have retirements : one.retirements.map (Content.mark ∘ .retirement) =
        other.retirements.map (Content.mark ∘ .retirement) := by
      refine map_eq_of_map (fun r _ r' _ retired => ?_) alike.retired
      obtain ⟨domains, generations⟩ := Prod.mk.inj retired
      simp only [Function.comp_apply, Content.mark, domains, generations]
    simp only [StoreContents.held, byKind, List.map_append, List.map_map]
    rw [snapshots, retirements, alike.publications, alike.tombstones, alike.leases]

/-- The digest sees as much of two stores as makes them alike. -/
theorem contentDigest_eq_iff (scanned : Scanned one) (scanned' : Scanned other)
    (distinct : NoCollision one other) :
    one.contentDigest = other.contentDigest ↔ Alike one other := by
  rw [← marks_eq_iff scanned scanned' distinct]
  constructor
  · intro digests
    have encodings := distinct _ (by simp [StoreContents.hashed]) _
      (by simp [StoreContents.hashed]) digests
    rw [contentEncoding_eq, contentEncoding_eq] at encodings
    refine (written_injective (r := Mark.read) (fun content => content.mark.write_pos) ?_ encodings).1
    intro content member
    rcases List.mem_append.mp member with held | held
    · exact read_mark (scanned.accepted content held)
    · exact read_mark (scanned'.accepted content held)
  · intro same
    have encodings := congrArg (List.flatMap Mark.write) same
    rw [List.flatMap_map, List.flatMap_map, ← contentEncoding_eq, ← contentEncoding_eq] at encodings
    rw [StoreContents.contentDigest, encodings]
    rfl

/-- Two stores that differ where the digest does not look. -/
def Overlooked (one other : StoreContents) : Prop :=
  Alike one other ∧
    ¬ (one.snapshotHistory.map SiteSnapshot.write = other.snapshotHistory.map SiteSnapshot.write ∧
      one.retirements.map MemberRetirementRecord.write =
        other.retirements.map MemberRetirementRecord.write)

end

/-- Stores of one digest hold the same records exactly when they do not differ in what
the digest takes no account of. -/
theorem digest_covers_iff [StdSort] (image image' : List UInt8)
    (ok : (scanImage image).1.recovery.status = .ok)
    (ok' : (scanImage image').1.recovery.status = .ok)
    (distinct : NoCollision (scanImage image).1 (scanImage image').1) :
    ((scanImage image).1.contentDigest = (scanImage image').1.contentDigest →
        SameRecords (scanImage image).1 (scanImage image').1) ↔
      ¬ Overlooked (scanImage image).1 (scanImage image').1 := by
  have digests := contentDigest_eq_iff (scanned_of_ok ok) (scanned_of_ok ok') distinct
  rw [digests]
  constructor
  · rintro covers ⟨alike, differ⟩
    have same := covers alike
    exact differ ⟨same.snapshots, same.retirements⟩
  · intro seen alike
    obtain ⟨snapshots, retirements⟩ := of_not_not fun differ => seen ⟨alike, differ⟩
    exact ⟨snapshots, by rw [alike.publications], retirements, by rw [alike.tombstones],
      by rw [alike.leases]⟩

/-- A store of one record. -/
def soleImage (content : Content) : List UInt8 := makeFileHeader ++ content.record

theorem scanImage_sole [StdSort] (content : Content) (recoverable : content.recoverable = true)
    (fits : content.payload.length ≤ Limits.maxRecordPayloadBytes) :
    ∃ recovery : StoreRecoveryReport, recovery.status = .ok ∧
      (scanImage (soleImage content)).1 = collect [content.stored] recovery := by
  have clean := scanImage_clean makeFileHeader_headed [content.segment recoverable fits]
  rw [joined_cons, joined_nil, List.append_nil] at clean
  exact ⟨_, rfl, congrArg Prod.fst clean⟩

theorem tombstones_are_covered :
    (scanImage (soleImage (.tombstone (ascii "CLUSTER:c1/1/b1")))).1.recovery.status = .ok ∧
      (scanImage (soleImage (.tombstone (ascii "CLUSTER:c1/2/b1")))).1.recovery.status = .ok ∧
      ((scanImage (soleImage (.tombstone (ascii "CLUSTER:c1/1/b1")))).1.contentDigest =
          (scanImage (soleImage (.tombstone (ascii "CLUSTER:c1/2/b1")))).1.contentDigest →
        SameRecords (scanImage (soleImage (.tombstone (ascii "CLUSTER:c1/1/b1")))).1
          (scanImage (soleImage (.tombstone (ascii "CLUSTER:c1/2/b1")))).1) := by
  obtain ⟨recovery, ok, scan⟩ := scanImage_sole (.tombstone (ascii "CLUSTER:c1/1/b1"))
    (by decide) (by decide)
  obtain ⟨recovery', ok', scan'⟩ := scanImage_sole (.tombstone (ascii "CLUSTER:c1/2/b1"))
    (by decide) (by decide)
  have accepted : (scanImage (soleImage (.tombstone
      (ascii "CLUSTER:c1/1/b1")))).1.recovery.status = .ok := by rw [scan]; exact ok
  have accepted' : (scanImage (soleImage (.tombstone
      (ascii "CLUSTER:c1/2/b1")))).1.recovery.status = .ok := by rw [scan']; exact ok'
  refine ⟨accepted, accepted', (digest_covers_iff _ _ accepted accepted' ?_).mpr ?_⟩
  · rw [scan, scan']
    change NoCollision (collect [.tombstone (ascii "CLUSTER:c1/1/b1")] {})
      (collect [.tombstone (ascii "CLUSTER:c1/2/b1")] {})
    decide +kernel
  · rw [scan, scan']
    rintro ⟨alike, -⟩
    have same : [ascii "CLUSTER:c1/1/b1"] = [ascii "CLUSTER:c1/2/b1"] := alike.tombstones
    exact absurd same (by decide)

def movedRetirement : MemberRetirementRecord where
  domain := { kind := .cluster, id := ascii "c1" }
  generation := ⟨1⟩
  incarnation := { sequence := 1, boot := ⟨ascii "b1"⟩ }
  acceptanceSequence := 1
  reason := ascii "moved"

def failedRetirement : MemberRetirementRecord :=
  { movedRetirement with reason := ascii "failed" }

/-- Two stores that retired a member for different reasons have one digest. -/
theorem retirement_reason_is_overlooked :
    (scanImage (soleImage (.retirement movedRetirement))).1.recovery.status = .ok ∧
      (scanImage (soleImage (.retirement failedRetirement))).1.recovery.status = .ok ∧
      NoCollision (scanImage (soleImage (.retirement movedRetirement))).1
        (scanImage (soleImage (.retirement failedRetirement))).1 ∧
      ¬ ((scanImage (soleImage (.retirement movedRetirement))).1.contentDigest =
          (scanImage (soleImage (.retirement failedRetirement))).1.contentDigest →
        SameRecords (scanImage (soleImage (.retirement movedRetirement))).1
          (scanImage (soleImage (.retirement failedRetirement))).1) := by
  obtain ⟨recovery, ok, scan⟩ := scanImage_sole (.retirement movedRetirement)
    (by decide) (by decide)
  obtain ⟨recovery', ok', scan'⟩ := scanImage_sole (.retirement failedRetirement)
    (by decide) (by decide)
  rw [scan, scan']
  refine ⟨ok, ok', ?_, ?_⟩
  · change NoCollision (collect [.retirement movedRetirement] {})
      (collect [.retirement failedRetirement] {})
    decide +kernel
  · intro covers
    have same := (covers rfl).retirements
    replace same : [movedRetirement.write] = [failedRetirement.write] := same
    exact absurd same (by decide)

end Store

end SiteFabric
