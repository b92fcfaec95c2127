import SiteFabric.Compose.Attribution

/-! What a resource record holds, in terms of the declarations it came from.
`resources_slot` reads a slot back as the last claim of its kind on the key, and
`resources_resolved` the attestations as the first claim each admission makes
there. A record is attributed exactly when those first claims are all
authoritative and have one digest. -/

namespace SiteFabric

open Lib
open Std (ExtTreeMap)

namespace ResourceRecord

theorem attest_frame (r : ResourceRecord) (attestation : Attestation) :
    ∃ attestations factors, r.attest attestation = { r with attestations, factors } := by
  unfold attest
  split
  · exact ⟨r.attestations, r.factors, rfl⟩
  split
  · exact ⟨r.attestations, _, rfl⟩
  · exact ⟨_, r.factors, rfl⟩

theorem resolve_frame [StdSort] (r : ResourceRecord) :
    ∃ distinctContents consensus status factors allAuthoritative,
      r.resolve = { r with distinctContents, consensus, status, factors, allAuthoritative } := by
  unfold resolve
  dsimp only
  split
  · exact ⟨_, _, _, _, _, rfl⟩
  split
  · exact ⟨_, _, _, _, _, rfl⟩
  split
  · exact ⟨_, _, _, _, _, rfl⟩
  · exact ⟨_, _, _, _, _, rfl⟩

theorem attestations_resolve [StdSort] (r : ResourceRecord) :
    r.resolve.attestations = r.attestations := by
  obtain ⟨_, _, _, _, _, resolved⟩ := r.resolve_frame
  rw [resolved]

/-- A slot of the record, and the claims that are kept in it. -/
structure Slot {γ : Type} (slot : ResourceRecord → Option γ) (read : Claim → Option γ) : Prop where
  blank : slot default = none
  kept : ∀ r claim, slot (r.keep claim) = (read claim).or (slot r)
  attested : ∀ r key attestations factors, slot { r with key, attestations, factors } = slot r
  resolved : ∀ r distinctContents consensus status factors allAuthoritative,
    slot { r with distinctContents, consensus, status, factors, allAuthoritative } = slot r

theorem rackSlot : Slot rack Claim.rack? :=
  ⟨rfl, fun _ claim => by cases claim <;> rfl, fun _ _ _ _ => rfl, fun _ _ _ _ _ _ => rfl⟩

theorem linkSlot : Slot link Claim.link? :=
  ⟨rfl, fun _ claim => by cases claim <;> rfl, fun _ _ _ _ => rfl, fun _ _ _ _ _ _ => rfl⟩

theorem gatewaySlot : Slot gateway Claim.gateway? :=
  ⟨rfl, fun _ claim => by cases claim <;> rfl, fun _ _ _ _ => rfl, fun _ _ _ _ _ _ => rfl⟩

theorem poolSlot : Slot pool Claim.pool? :=
  ⟨rfl, fun _ claim => by cases claim <;> rfl, fun _ _ _ _ => rfl, fun _ _ _ _ _ _ => rfl⟩

theorem zoneSlot : Slot zone Claim.zone? :=
  ⟨rfl, fun _ claim => by cases claim <;> rfl, fun _ _ _ _ => rfl, fun _ _ _ _ _ _ => rfl⟩

theorem obligationSlot : Slot obligation Claim.obligation? :=
  ⟨rfl, fun _ claim => by cases claim <;> rfl, fun _ _ _ _ => rfl, fun _ _ _ _ _ _ => rfl⟩

section Slot

variable {γ : Type} {slot : ResourceRecord → Option γ} {read : Claim → Option γ}
  (of : Slot slot read)

include of

theorem Slot.place (m : Admission × Claim) (r : ResourceRecord) :
    slot (r.place m) = (read m.2).or (slot r) := by
  obtain ⟨_, _, attested⟩ := { r with key := m.2.key }.attest_frame (m.1.attestation m.2)
  rw [ResourceRecord.place, attested, of.kept]
  exact congrArg _ (of.attested r _ _ _)

theorem Slot.resolve [StdSort] (r : ResourceRecord) : slot r.resolve = slot r := by
  obtain ⟨_, _, _, _, _, resolved⟩ := r.resolve_frame
  rw [resolved, of.resolved]

end Slot

theorem attestations_place (m : Admission × Claim) (r : ResourceRecord) :
    (r.place m).attestations = (r.attest (m.1.attestation m.2)).attestations := by
  have opened : ({ r with key := m.2.key }.attest (m.1.attestation m.2)).attestations =
      (r.attest (m.1.attestation m.2)).attestations := by
    simp only [attest]
    split
    · rfl
    · split <;> rfl
  rw [← opened, place]
  cases m.2 <;> rfl

theorem attest_known {r : ResourceRecord} {attestation : Attestation}
    (known : ∃ a ∈ r.attestations, a.source = attestation.source) :
    (r.attest attestation).attestations = r.attestations := by
  obtain ⟨a, member, same⟩ := known
  have seen : r.attestations.any (·.source = attestation.source) = true :=
    List.any_eq_true.mpr ⟨a, member, decide_eq_true same⟩
  rw [attest, if_pos seen]

theorem attest_new {r : ResourceRecord} {attestation : Attestation}
    (new : ∀ a ∈ r.attestations, a.source ≠ attestation.source)
    (room : r.attestations.length < Limits.maxAttestorsPerResource) :
    (r.attest attestation).attestations = r.attestations ++ [attestation] := by
  have unseen : ¬ r.attestations.any (·.source = attestation.source) = true := by
    simpa using new
  rw [attest, if_neg unseen, if_neg (Nat.not_le.mpr room)]

section Status

variable [StdSort]

theorem distinct_le_one_iff (contents : List Digest) :
    (sort (byKey id) contents.dedup).length ≤ 1 ↔ ∀ a ∈ contents, ∀ b ∈ contents, a = b := by
  rw [(StdSort.perm _ _).length_eq]
  constructor
  · intro short a memberA b memberB
    obtain ⟨single, only⟩ | empty : (∃ c, contents.dedup = [c]) ∨ contents.dedup = [] := by
      match same : contents.dedup with
      | [] => exact .inr rfl
      | [c] => exact .inl ⟨c, rfl⟩
      | c :: d :: rest => simp [same] at short
    · rw [← List.mem_dedup, only, List.mem_singleton] at memberA memberB
      rw [memberA, memberB]
    · rw [← List.mem_dedup, empty] at memberA
      exact absurd memberA List.not_mem_nil
  · intro agree
    match same : contents.dedup with
    | [] => simp
    | [c] => simp
    | c :: d :: rest =>
      have nodup := contents.nodup_dedup
      have memberC : c ∈ contents := List.mem_dedup.mp (same ▸ List.mem_cons_self)
      have memberD : d ∈ contents :=
        List.mem_dedup.mp (same ▸ List.mem_cons_of_mem _ List.mem_cons_self)
      rw [same, agree c memberC d memberD] at nodup
      exact absurd List.mem_cons_self (List.nodup_cons.mp nodup).1

/-- All attestations of a record carry one content. -/
def Agreed (r : ResourceRecord) : Prop :=
  ∀ a ∈ r.attestations, ∀ b ∈ r.attestations, a.content = b.content

omit [StdSort] in
theorem agreed_iff (r : ResourceRecord) :
    r.Agreed ↔ ∀ a ∈ r.attestations.map (·.content), ∀ b ∈ r.attestations.map (·.content), a = b := by
  simp only [Agreed, List.mem_map, forall_exists_index, and_imp, forall_apply_eq_imp_iff₂]

/-- The four statuses a resolved record can have, and when it has each. -/
theorem resolve_status (r : ResourceRecord) :
    r.resolve.status =
      if r.attestations.isEmpty then .noAuthoritativeSource
      else if (sort (byKey id) (r.attestations.map (·.content)).dedup).length > 1 then
        if r.key.kind.exclusive then .ownershipOverlap else .accountingConflict
      else if !r.attestations.all (·.authoritative) then .noAuthoritativeSource
      else .ok := by
  unfold resolve
  dsimp only
  split
  · rfl
  split
  · rfl
  split <;> rfl

theorem resolve_ok_iff (r : ResourceRecord) :
    r.resolve.status = .ok ↔
      r.attestations ≠ [] ∧ r.Agreed ∧ ∀ a ∈ r.attestations, a.authoritative = true := by
  have agreed : r.Agreed ↔
      ¬ (sort (byKey id) (r.attestations.map (·.content)).dedup).length > 1 := by
    rw [agreed_iff, ← distinct_le_one_iff, Nat.not_lt]
  rw [resolve_status, agreed]
  split
  · next empty => simp [List.isEmpty_iff.mp empty]
  next full =>
  have full : r.attestations ≠ [] := by simpa using full
  split
  · next several => split <;> simp [several]
  · next one => simp [full, one]

/-- The consensus of an attributed record is the one content attested. -/
theorem resolve_consensus {r : ResourceRecord} (ok : r.resolve.status = .ok)
    {a : Attestation} (attested : a ∈ r.attestations) : r.resolve.consensus = a.content := by
  obtain ⟨full, agreed, authoritative⟩ := r.resolve_ok_iff.mp ok
  rw [agreed_iff, ← distinct_le_one_iff] at agreed
  have listed : a.content ∈ sort (byKey id) (r.attestations.map (·.content)).dedup := by
    rw [mem_sort, List.mem_dedup]
    exact List.mem_map_of_mem attested
  have trusted : r.attestations.all (·.authoritative) = true := List.all_eq_true.mpr authoritative
  have some : ¬ r.attestations.isEmpty = true := by simpa using full
  unfold resolve
  dsimp only
  rw [if_neg some, if_neg (Nat.not_lt.mpr agreed), trusted]
  generalize sort (byKey id) (r.attestations.map (·.content)).dedup = distinct at agreed listed
  match distinct with
  | [] => cases listed
  | [content] => exact (List.mem_singleton.mp listed).symm
  | _ :: _ :: _ => simp at agreed

/-- A record that is neither overlapping nor in conflict has agreed. -/
theorem resolve_agreed {r : ResourceRecord} (quiet : r.resolve.status ≠ .ownershipOverlap ∧
    r.resolve.status ≠ .accountingConflict) : r.Agreed := by
  rw [resolve_status] at quiet
  rw [agreed_iff, ← distinct_le_one_iff, ← Nat.not_lt]
  intro several
  rw [if_pos several] at quiet
  split at quiet
  · next empty =>
    rw [List.isEmpty_iff.mp empty, (StdSort.perm _ _).length_eq] at several
    exact absurd several (by simp)
  · split at quiet
    · exact quiet.1 rfl
    · exact quiet.2 rfl

end Status

end ResourceRecord

/-- The mentions of one key. -/
def mentionsOf (admissions : Admissions) (key : ResourceKey) : List (Admission × Claim) :=
  (mentions admissions).filter (·.2.key = key)

theorem mem_mentionsOf {admissions : Admissions} {key : ResourceKey} {m : Admission × Claim} :
    m ∈ mentionsOf admissions key ↔
      (∃ domain : MemberDomainKey, admissions[domain]? = some m.1) ∧ m.2 ∈ m.1.claims ∧ m.2.key = key := by
  simp only [mentionsOf, mentions, List.mem_filter, List.mem_flatMap, List.mem_map, Prod.exists,
    decide_eq_true_eq]
  constructor
  · rintro ⟨⟨domain, admission, listed, claim, claimed, rfl⟩, named⟩
    exact ⟨⟨domain, mem_toList_iff.mp listed⟩, claimed, named⟩
  · rintro ⟨⟨domain, found⟩, claimed, named⟩
    exact ⟨⟨domain, m.1, mem_toList_iff.mpr found, m.2, claimed, rfl⟩, named⟩

/-- The first claim a record makes on a key. -/
def MemberPublicationRecord.firstClaim (r : MemberPublicationRecord) (key : ResourceKey) :
    Option Claim :=
  r.claims.find? (·.key = key)

def Admission.firstClaim (a : Admission) (key : ResourceKey) : Option Claim :=
  a.record.firstClaim key

/-- What each admission attests for a key. -/
def attestationsFor (entries : List (MemberDomainKey × Admission)) (key : ResourceKey) :
    List Attestation :=
  entries.filterMap fun entry => (entry.2.firstClaim key).map entry.2.attestation

/-- Puts a list of mentions on a record. -/
def placeAll (r : ResourceRecord) (ms : List (Admission × Claim)) : ResourceRecord :=
  ms.foldl (fun r m => r.place m) r

theorem placeAll_append (r : ResourceRecord) (first second : List (Admission × Claim)) :
    placeAll r (first ++ second) = placeAll (placeAll r first) second :=
  List.foldl_append

theorem placeAll_known {a : Admission} (claims : List Claim) {r : ResourceRecord}
    (known : ∃ x ∈ r.attestations, x.source = a.source) :
    (placeAll r (claims.map (a, ·))).attestations = r.attestations := by
  induction claims generalizing r with
  | nil => rfl
  | cons claim rest ih =>
    have same : (r.place (a, claim)).attestations = r.attestations := by
      rw [ResourceRecord.attestations_place, ResourceRecord.attest_known known]
    have later := ih (by rw [same]; exact known)
    rw [same] at later
    exact later

theorem placeAll_block {a : Admission} (claims : List Claim) {r : ResourceRecord}
    (new : ∀ x ∈ r.attestations, x.source ≠ a.source)
    (room : r.attestations.length < Limits.maxAttestorsPerResource) :
    (placeAll r (claims.map (a, ·))).attestations =
      r.attestations ++ (claims.head?.map a.attestation).toList := by
  cases claims with
  | nil => exact (List.append_nil _).symm
  | cons claim rest =>
    have first : (r.place (a, claim)).attestations = r.attestations ++ [a.attestation claim] := by
      rw [ResourceRecord.attestations_place, ResourceRecord.attest_new new room]
    have known : ∃ x ∈ (r.place (a, claim)).attestations, x.source = a.source :=
      ⟨a.attestation claim, by simp [first], rfl⟩
    have rest := placeAll_known rest known
    rw [first] at rest
    exact rest

theorem placeAll_attestations (key : ResourceKey) (entries : List (MemberDomainKey × Admission))
    {r : ResourceRecord} (distinct : entries.Pairwise fun a b => a.2.source ≠ b.2.source)
    (new : ∀ x ∈ r.attestations, ∀ entry ∈ entries, x.source ≠ entry.2.source)
    (room : r.attestations.length + entries.length ≤ Limits.maxAttestorsPerResource) :
    (placeAll r (entries.flatMap fun entry =>
      (entry.2.claims.filter (·.key = key)).map (entry.2, ·))).attestations =
      r.attestations ++ attestationsFor entries key := by
  induction entries generalizing r with
  | nil => exact (List.append_nil _).symm
  | cons entry rest ih =>
    obtain ⟨apart, distinct⟩ := List.pairwise_cons.mp distinct
    rw [List.length_cons] at room
    have block := placeAll_block (entry.2.claims.filter (·.key = key))
      (fun x member => new x member entry List.mem_cons_self) (by omega)
    rw [List.head?_filter] at block
    have opened : attestationsFor (entry :: rest) key =
        ((entry.2.firstClaim key).map entry.2.attestation).toList ++ attestationsFor rest key := by
      unfold attestationsFor
      rw [List.filterMap_cons]
      cases (entry.2.firstClaim key).map entry.2.attestation <;> rfl
    rw [List.flatMap_cons, placeAll_append, opened, ← List.append_assoc, ih distinct ?_ ?_, block]
    · rfl
    · intro x member other listed
      rw [block] at member
      rcases List.mem_append.mp member with old | added
      · exact new x old other (List.mem_cons_of_mem _ listed)
      · obtain ⟨claim, _, rfl⟩ := Option.map_eq_some_iff.mp (Option.mem_toList.mp added)
        exact apart other listed
    · rw [block, List.length_append]
      have one : ((entry.2.claims.find? (·.key = key)).map entry.2.attestation).toList.length ≤ 1 :=
        Option.length_toList_le
      omega

section Resources

variable [StdSort]

theorem resources_lookup (admissions : Admissions) (key : ResourceKey) :
    (gatherResources admissions)[key]? =
      if mentionsOf admissions key = [] then none
      else some ((mentionsOf admissions key).foldl
        (fun r m => ResourceRecord.place m r) default).resolve := by
  have placed := lookup_gather (fun m : Admission × Claim => m.2.key) ResourceRecord.place
    (mentions admissions) key (fun m => decide (m.2.key = key)) fun _ => decide_eq_true_iff
  rw [gatherResources, lookup_map, placed]
  change Option.map _ (if mentionsOf admissions key = [] then _ else _) = _
  split <;> rfl

theorem resources_some_iff (admissions : Admissions) (key : ResourceKey) :
    ((gatherResources admissions)[key]?).isSome = true ↔ mentionsOf admissions key ≠ [] := by
  rw [resources_lookup]
  split
  · next none => simp [none]
  · next some => simp [some]

/-- A slot holds the last claim of its kind on the key. -/
theorem resources_slot {γ : Type} {slot : ResourceRecord → Option γ} {read : Claim → Option γ}
    (of : ResourceRecord.Slot slot read) {admissions : Admissions} {key : ResourceKey}
    {record : ResourceRecord} (found : (gatherResources admissions)[key]? = some record) :
    slot record = ((mentionsOf admissions key).filterMap fun m => read m.2).getLast? := by
  rw [resources_lookup] at found
  split at found
  · cases found
  · injection found with same
    rw [← same, of.resolve, foldl_last slot (fun m => read m.2) (fun r m => of.place m r), of.blank,
      Option.or_none]

/-- Admissions are listed under their own domain, and there are no more of them
than a record has room for attestors. -/
structure Admissions.Orderly (admissions : Admissions) : Prop where
  keyed : ∀ (domain : MemberDomainKey) a, admissions[domain]? = some a → a.record.domain = domain
  few : admissions.toList.length ≤ Limits.maxAttestorsPerResource

omit [StdSort] in
theorem mentionsOf_eq (admissions : Admissions) (key : ResourceKey) :
    mentionsOf admissions key = admissions.toList.flatMap fun entry =>
      (entry.2.claims.filter (·.key = key)).map (entry.2, ·) := by
  rw [mentionsOf, mentions, List.filter_flatMap]
  refine congrArg (fun f => List.flatMap f admissions.toList) (funext fun entry => ?_)
  rw [List.filter_map]
  rfl

omit [StdSort] in
theorem Admissions.Orderly.sources {admissions : Admissions} (orderly : admissions.Orderly) :
    admissions.toList.Pairwise fun a b => a.2.source ≠ b.2.source := by
  refine (keys_pairwise admissions).imp_of_mem fun {a b} memberA memberB apart same => apart ?_
  rw [← orderly.keyed a.1 a.2 (mem_toList_iff.mp memberA),
    ← orderly.keyed b.1 b.2 (mem_toList_iff.mp memberB)]
  exact congrArg SourceRef.domain same

/-- A record is resolved from the first claim each admission makes on its key. -/
theorem resources_resolved {admissions : Admissions} (orderly : admissions.Orderly)
    {key : ResourceKey} {record : ResourceRecord}
    (found : (gatherResources admissions)[key]? = some record) :
    ∃ raw : ResourceRecord, record = raw.resolve ∧
      raw.attestations = attestationsFor admissions.toList key := by
  rw [resources_lookup] at found
  split at found
  · cases found
  refine ⟨_, (Option.some.inj found).symm, ?_⟩
  rw [mentionsOf_eq]
  have room : (default : ResourceRecord).attestations.length + admissions.toList.length ≤
      Limits.maxAttestorsPerResource := by
    rw [show (default : ResourceRecord).attestations.length = 0 from rfl, Nat.zero_add]
    exact orderly.few
  exact placeAll_attestations key admissions.toList orderly.sources
    (fun x member => absurd member List.not_mem_nil) room

omit [StdSort] in
theorem mem_attestationsFor {admissions : Admissions} {key : ResourceKey} {a : Attestation} :
    a ∈ attestationsFor admissions.toList key ↔
      ∃ (domain : MemberDomainKey) (admission : Admission) (claim : Claim),
        admissions[domain]? = some admission ∧ admission.firstClaim key = some claim ∧
          admission.attestation claim = a := by
  simp only [attestationsFor, List.mem_filterMap, Prod.exists, Option.map_eq_some_iff,
    mem_toList_iff]
  constructor
  · rintro ⟨domain, admission, found, claim, first, same⟩
    exact ⟨domain, admission, claim, found, first, same⟩
  · rintro ⟨domain, admission, claim, found, first, same⟩
    exact ⟨domain, admission, found, claim, first, same⟩

omit [StdSort] in
/-- A record that mentions a key makes a first claim on it. -/
theorem firstClaim_of_mem {r : MemberPublicationRecord} {claim : Claim}
    (claimed : claim ∈ r.claims) : ∃ first, r.firstClaim claim.key = some first := by
  cases found : r.firstClaim claim.key with
  | some first => exact ⟨first, rfl⟩
  | none => exact absurd (List.find?_eq_none.mp found claim claimed) (by simp)

omit [StdSort] in
theorem firstClaim_mem {r : MemberPublicationRecord} {key : ResourceKey} {first : Claim}
    (found : r.firstClaim key = some first) : first ∈ r.claims ∧ first.key = key :=
  ⟨List.mem_of_find?_eq_some found, by simpa using List.find?_some found⟩

/-- What attribution asks of the admissions that name a key: all are
authoritative, and their first claims on it have one digest. -/
structure Attributed (admissions : Admissions) (key : ResourceKey) : Prop where
  named : ∃ (domain : MemberDomainKey) (a : Admission) (claim : Claim),
    admissions[domain]? = some a ∧ a.firstClaim key = some claim
  authoritative : ∀ (domain : MemberDomainKey) (a : Admission) (claim : Claim),
    admissions[domain]? = some a → a.firstClaim key = some claim → a.authoritative = true
  agreed : ∀ (domain domain' : MemberDomainKey) (a a' : Admission) (claim claim' : Claim),
    admissions[domain]? = some a → a.firstClaim key = some claim →
    admissions[domain']? = some a' → a'.firstClaim key = some claim' →
    claim.digest = claim'.digest

theorem resources_status_ok_iff {admissions : Admissions} (orderly : admissions.Orderly)
    {key : ResourceKey} {record : ResourceRecord}
    (found : (gatherResources admissions)[key]? = some record) :
    record.status = .ok ↔ Attributed admissions key := by
  obtain ⟨raw, resolved, same⟩ := resources_resolved orderly found
  rw [resolved, raw.resolve_ok_iff, ResourceRecord.Agreed, same]
  constructor
  · rintro ⟨some, agreed, authoritative⟩
    refine ⟨?_, ?_, ?_⟩
    · obtain ⟨a, member⟩ := List.exists_mem_of_ne_nil _ some
      obtain ⟨domain, admission, claim, listed, first, _⟩ := mem_attestationsFor.mp member
      exact ⟨domain, admission, claim, listed, first⟩
    · intro domain a claim listed first
      exact authoritative _ (mem_attestationsFor.mpr ⟨domain, a, claim, listed, first, rfl⟩)
    · intro domain domain' a a' claim claim' listed first listed' first'
      exact agreed _ (mem_attestationsFor.mpr ⟨domain, a, claim, listed, first, rfl⟩) _
        (mem_attestationsFor.mpr ⟨domain', a', claim', listed', first', rfl⟩)
  · intro attributed
    refine ⟨?_, ?_, ?_⟩
    · obtain ⟨domain, a, claim, listed, first⟩ := attributed.named
      exact List.ne_nil_of_mem (mem_attestationsFor.mpr ⟨domain, a, claim, listed, first, rfl⟩)
    · intro x memberX y memberY
      obtain ⟨domain, a, claim, listed, first, rfl⟩ := mem_attestationsFor.mp memberX
      obtain ⟨domain', a', claim', listed', first', rfl⟩ := mem_attestationsFor.mp memberY
      exact attributed.agreed domain domain' a a' claim claim' listed first listed' first'
    · intro x member
      obtain ⟨domain, a, claim, listed, first, rfl⟩ := mem_attestationsFor.mp member
      exact attributed.authoritative domain a claim listed first

theorem resources_status {admissions : Admissions} {key : ResourceKey} {record : ResourceRecord}
    (found : (gatherResources admissions)[key]? = some record) :
    record.status = .ok ∨ record.status = .noAuthoritativeSource ∨
      record.status = .ownershipOverlap ∨ record.status = .accountingConflict := by
  rw [resources_lookup] at found
  split at found
  · cases found
  rw [← Option.some.inj found, ResourceRecord.resolve_status]
  split
  · exact .inr (.inl rfl)
  split
  · split
    · exact .inr (.inr (.inl rfl))
    · exact .inr (.inr (.inr rfl))
  split
  · exact .inr (.inl rfl)
  · exact .inl rfl

/-- Under authoritative admissions, a record that disagrees with nobody is
attributed. -/
theorem resources_ok_of_quiet {admissions : Admissions} (orderly : admissions.Orderly)
    (authoritative : ∀ (domain : MemberDomainKey) a, admissions[domain]? = some a →
      a.authoritative = true)
    {key : ResourceKey} {record : ResourceRecord}
    (found : (gatherResources admissions)[key]? = some record)
    (quiet : record.status ≠ .ownershipOverlap ∧ record.status ≠ .accountingConflict) :
    record.status = .ok := by
  obtain ⟨raw, resolved, same⟩ := resources_resolved orderly found
  have mentioned : mentionsOf admissions key ≠ [] := by
    rw [← resources_some_iff, found]
    rfl
  obtain ⟨m, member⟩ := List.exists_mem_of_ne_nil _ mentioned
  obtain ⟨⟨domain, listed⟩, claimed, named⟩ := mem_mentionsOf.mp member
  obtain ⟨first, first_eq⟩ := firstClaim_of_mem claimed
  rw [resolved] at quiet
  rw [resolved, raw.resolve_ok_iff]
  refine ⟨?_, ResourceRecord.resolve_agreed quiet, ?_⟩
  · rw [same]
    exact List.ne_nil_of_mem
      (mem_attestationsFor.mpr ⟨domain, m.1, first, listed, by rw [← named]; exact first_eq, rfl⟩)
  · intro a attested
    rw [same] at attested
    obtain ⟨domain, admission, claim, listed, _, rfl⟩ := mem_attestationsFor.mp attested
    exact authoritative domain admission listed

omit [StdSort] in
/-- Attribution raises every disagreement. -/
theorem attributeResources_quiet {resources : Resources} {out : ComposedSite}
    (empty : (attributeResources resources out).conflicts = []) :
    out.conflicts = [] ∧ ∀ (key : ResourceKey) record, resources[key]? = some record →
      record.status ≠ .ownershipOverlap ∧ record.status ≠ .accountingConflict := by
  obtain ⟨start, quiet⟩ := ComposedSite.conflicts_foldl_eq_nil
    (fun entry : ResourceKey × ResourceRecord =>
      entry.2.status = .ownershipOverlap ∨ entry.2.status = .accountingConflict)
    (fun s i silent => by
      rw [not_or] at silent
      rw [raiseDisagreement, if_neg silent.1, if_neg silent.2])
    (fun s i loud => by
      unfold raiseDisagreement
      split
      · exact ComposedSite.conflicts_addConflict_ne_nil _ _ _ _ _
      · next other =>
        rw [if_pos (loud.resolve_left other)]
        exact ComposedSite.conflicts_addConflict_ne_nil _ _ _ _ _) empty
  refine ⟨start, fun key record found => ?_⟩
  exact not_or.mp (quiet (key, record) (mem_toList_iff.mpr found))

end Resources

end SiteFabric
