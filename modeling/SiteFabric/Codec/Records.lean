import SiteFabric.Codec.Claims
import SiteFabric.Authority.Registry

/-! The codecs of the records the controller keeps: publications, retirements
and authority tokens. A publication's declaration takes the digest of its
record when it is read, whatever the content hashes to. -/

namespace SiteFabric

open Canonical Authority

def MemberPublicationRecord.write (r : MemberPublicationRecord) : List UInt8 :=
  memberDomainKey r.domain ++ Canonical.generation r.generation ++ Canonical.digest r.digest ++
    Canonical.schema r.schema ++ text r.site.value ++ epoch r.observedEpoch ++
    Canonical.incarnation r.incarnation ++ text r.publisher.value ++ u64 r.attempt.sequence ++
    u32 r.attempt.attempt ++ i64 r.receivedAtMs ++ u64 r.acceptanceSequence ++
    optional MemberDomainDeclaration.write r.declaration

def MemberRetirementRecord.write (r : MemberRetirementRecord) : List UInt8 :=
  memberDomainKey r.domain ++ Canonical.generation r.generation ++
    Canonical.incarnation r.incarnation ++ i64 r.receivedAtMs ++ u64 r.acceptanceSequence ++
    text r.reason

def Authority.AuthorityToken.write (t : AuthorityToken) : List UInt8 :=
  tag t.kind.ctorIdx ++ text t.holder ++ text t.site.value ++ Canonical.epoch t.epoch ++
    Canonical.incarnation t.incarnation ++ Canonical.generation t.generation ++ u64 t.leaseId ++
    i64 t.issuedAtMs ++ i64 t.expiresAtMs

instance : Enumeration AuthorityKind :=
  ⟨AuthorityKind.ctorIdx, AuthorityKind.ofNat, AuthorityKind.observer.ctorIdx,
    AuthorityKind.ofNat_ctorIdx, by rintro ⟨⟩ <;> decide, by decide⟩

/-- The digest a stored publication gives its declaration. -/
def MemberPublicationRecord.carryDigest (r : MemberPublicationRecord) : MemberPublicationRecord :=
  { r with declaration := r.declaration.map fun d => { d with digest := r.digest } }

namespace Codec

open Lib.Codec

def publicationFields : Codec MemberPublicationRecord :=
  (memberDomainKey.and <| generation.and <| digest.and <| schema.and <| (strongId .site).and <|
    epoch.and <| incarnation.and <| (strongId .member).and <| u64.and <| u32.and <| i64.and <|
    u64.and (optional declaration)).record
    (fun (domain, generation, digest, schema, site, observedEpoch, incarnation, publisher,
        sequence, attempt, receivedAtMs, acceptanceSequence, declaration) =>
      { domain, generation, digest, schema, site, observedEpoch, incarnation, publisher
        attempt := { sequence, attempt }, receivedAtMs, acceptanceSequence, declaration })
    (fun r => (r.domain, r.generation, r.digest, r.schema, r.site, r.observedEpoch,
      r.incarnation, r.publisher, r.attempt.sequence, r.attempt.attempt, r.receivedAtMs,
      r.acceptanceSequence, r.declaration))
    MemberPublicationRecord.write (fun _ => rfl) fun _ => by
      unfold MemberPublicationRecord.write
      simp only [List.append_assoc]
      rfl

theorem carryDigest_unread (r : MemberPublicationRecord) :
    publicationFields.readable r.carryDigest = publicationFields.readable r := by
  have same : (optional declaration).readable r.carryDigest.declaration =
      (optional declaration).readable r.declaration := by
    cases declared : r.declaration with
    | none => rw [MemberPublicationRecord.carryDigest, declared, Option.map_none]
    | some d =>
      rw [MemberPublicationRecord.carryDigest, declared, Option.map_some]
      rfl
  simp only [publicationFields, readable_record, readable_and, same]
  rfl

/-- What comes back of a declaration does not depend on the digest it carries. -/
theorem carryDigest_settled (r : MemberPublicationRecord) :
    publicationFields.stored r.carryDigest = publicationFields.stored r := by
  have same : (r.declaration.map fun d => { d with digest := r.digest }).map declaration.stored =
      r.declaration.map declaration.stored := by
    rw [Option.map_map]
    rfl
  exact congrArg (fun stored => { publicationFields.stored r with declaration := stored }) same

def publicationRecord : Codec MemberPublicationRecord :=
  publicationFields.amend MemberPublicationRecord.carryDigest
    (fun ⟨_, _, _, _, _, _, _, _, _, _, _, declaration⟩ => by cases declaration <;> rfl)
    carryDigest_unread fun r => congrArg _ (carryDigest_settled r)

def retirementRecord : Codec MemberRetirementRecord :=
  (memberDomainKey.and <| generation.and <| incarnation.and <| i64.and <| u64.and
    (text Limits.maxTextBytes)).record
    (fun (domain, generation, incarnation, receivedAtMs, acceptanceSequence, reason) =>
      { domain, generation, incarnation, receivedAtMs, acceptanceSequence, reason })
    (fun r => (r.domain, r.generation, r.incarnation, r.receivedAtMs, r.acceptanceSequence,
      r.reason))
    MemberRetirementRecord.write (fun _ => rfl) fun _ => by
      unfold MemberRetirementRecord.write
      simp only [List.append_assoc]
      rfl

def authorityToken : Codec AuthorityToken :=
  ((enum AuthorityKind).and <| (text Limits.maxIdentifierBytes).and <| (strongId .site).and <|
    epoch.and <| incarnation.and <| generation.and <| u64.and <| i64.and i64).record
    (fun (kind, holder, site, epoch, incarnation, generation, leaseId, issuedAtMs, expiresAtMs) =>
      { kind, holder, site, epoch, incarnation, generation, leaseId, issuedAtMs, expiresAtMs })
    (fun t => (t.kind, t.holder, t.site, t.epoch, t.incarnation, t.generation, t.leaseId,
      t.issuedAtMs, t.expiresAtMs))
    AuthorityToken.write (fun _ => rfl) fun _ => by
      unfold AuthorityToken.write
      simp only [List.append_assoc]
      rfl

theorem publicationRecord_plain : publicationRecord.Plain :=
  .amend <| .record <| .and (.same fun _ => rfl) <| .and (.same fun _ => rfl) <|
    .and (.same fun _ => rfl) <| .and (.same fun _ => rfl) <| .and (.same fun _ => rfl) <|
    .and (.same fun _ => rfl) <| .and (.same fun _ => rfl) <| .and (.same fun _ => rfl) <|
    .and (.same fun _ => rfl) <| .and (.same fun _ => rfl) <| .and (.same fun _ => rfl) <|
    .and (.same fun _ => rfl) <| optional_plain declaration_plain

end Codec

end SiteFabric
