import SiteFabric.Codec.Primitives
import SiteFabric.Compose.Site
import SiteFabric.Core.Sources

/-! The decoders of identities, keys, capacities, evidence and bounded sets.
Beside each decoder stands what it asks of a value, what it gives back of it,
and that what it yields can be written again. -/

namespace SiteFabric

open Lib Lib.Reader CanonicalReader

/-- An enumeration as the codec sees it: `last` is the bound its readers pass,
and a value within it is cast back. -/
class Enumeration (α : Type) where
  index : α → Nat
  ofIndex : Nat → α
  last : Nat
  ofIndex_index (a : α) : ofIndex (index a) = a
  index_le (a : α) : index a ≤ last
  last_lt : last < 256

instance : Enumeration MemberDomainKind :=
  ⟨MemberDomainKind.ctorIdx, MemberDomainKind.ofNat, MemberDomainKind.sharedResource.ctorIdx,
    MemberDomainKind.ofNat_ctorIdx, by rintro ⟨⟩ <;> decide, by decide⟩

instance : Enumeration ResourceKind :=
  ⟨ResourceKind.ctorIdx, ResourceKind.ofNat, ResourceKind.obligation.ctorIdx,
    ResourceKind.ofNat_ctorIdx, by rintro ⟨⟩ <;> decide, by decide⟩

instance : Enumeration Provenance :=
  ⟨Provenance.ctorIdx, Provenance.ofNat, Provenance.reconstructed.ctorIdx,
    Provenance.ofNat_ctorIdx, by rintro ⟨⟩ <;> decide, by decide⟩

instance : Enumeration ConnectivityState :=
  ⟨ConnectivityState.ctorIdx, ConnectivityState.ofNat, ConnectivityState.degraded.ctorIdx,
    ConnectivityState.ofNat_ctorIdx, by rintro ⟨⟩ <;> decide, by decide⟩

instance : Enumeration CapacityScope :=
  ⟨CapacityScope.ctorIdx, CapacityScope.ofNat, CapacityScope.gateway.ctorIdx,
    CapacityScope.ofNat_ctorIdx, by rintro ⟨⟩ <;> decide, by decide⟩

instance : Enumeration FailureDomainClass :=
  ⟨FailureDomainClass.ctorIdx, FailureDomainClass.ofNat, FailureDomainClass.administrative.ctorIdx,
    FailureDomainClass.ofNat_ctorIdx, by rintro ⟨⟩ <;> decide, by decide⟩

instance : Enumeration MaintenanceState :=
  ⟨MaintenanceState.ctorIdx, MaintenanceState.ofNat, MaintenanceState.cancelled.ctorIdx,
    MaintenanceState.ofNat_ctorIdx, by rintro ⟨⟩ <;> decide, by decide⟩

instance : Enumeration ObligationKind :=
  ⟨ObligationKind.ctorIdx, ObligationKind.ofNat, ObligationKind.domainSurvivability.ctorIdx,
    ObligationKind.ofNat_ctorIdx, by rintro ⟨⟩ <;> decide, by decide⟩

instance : Enumeration MemberLifecycle :=
  ⟨MemberLifecycle.ctorIdx, MemberLifecycle.ofNat, MemberLifecycle.revoked.ctorIdx,
    MemberLifecycle.ofNat_ctorIdx, by rintro ⟨⟩ <;> decide, by decide⟩

instance : Enumeration EvidenceState :=
  ⟨EvidenceState.ctorIdx, EvidenceState.ofNat, EvidenceState.reconstructedNeedsRevalidation.ctorIdx,
    EvidenceState.ofNat_ctorIdx, by rintro ⟨⟩ <;> decide, by decide⟩

instance : Enumeration SiteLifecycle :=
  ⟨SiteLifecycle.ctorIdx, SiteLifecycle.ofNat, SiteLifecycle.stopped.ctorIdx,
    SiteLifecycle.ofNat_ctorIdx, by rintro ⟨⟩ <;> decide, by decide⟩

instance : Enumeration DecisionKind :=
  ⟨DecisionKind.ctorIdx, DecisionKind.ofNat, DecisionKind.siteLifecycle.ctorIdx,
    DecisionKind.ofNat_ctorIdx, by rintro ⟨⟩ <;> decide, by decide⟩

instance : Enumeration Status :=
  ⟨Status.ctorIdx, Status.ofNat, Status.noAuthoritativeSource.ctorIdx,
    Status.ofNat_ctorIdx, by rintro ⟨⟩ <;> decide, by decide⟩

def readEnum (α : Type) [Enumeration α] : Decoder α := do
  let value ← u8
  check (decide (value.toNat ≤ Enumeration.last α)) .malformed
  return Enumeration.ofIndex value.toNat

def readIdentifier : Decoder Text := do
  let out ← text Limits.maxIdentifierBytes
  check (isValidIdentifier out) .malformed
  return out

/-- An identity that may be absent. -/
def readOptionalIdentifier : Decoder Text := do
  let out ← text Limits.maxIdentifierBytes
  check (out.isEmpty || isValidIdentifier out) .malformed
  return out

def readStrongId (tag : IdTag) : Decoder (StrongId tag) := do return ⟨← readIdentifier⟩

/-- The text of a key that says nothing. -/
def readAbsence : Decoder Unit := do
  let id ← text Limits.maxIdentifierBytes
  check id.isEmpty .malformed

/-- A key of either sort: a kind, then an identity unless the kind is UNKNOWN. -/
def readKey {κ ρ : Type} [Enumeration κ] (absent : ρ) (make : κ → Text → ρ) : Decoder ρ := do
  let kind ← u8
  if kind = 0 then
    readAbsence
    return absent
  else
    check (decide (kind.toNat ≤ Enumeration.last κ)) .malformed
    let id ← readIdentifier
    return make (Enumeration.ofIndex kind.toNat) id

def readMemberDomainKey : Decoder MemberDomainKey := readKey {} MemberDomainKey.mk

def readResourceKey : Decoder ResourceKey := readKey {} ResourceKey.mk

/-- An absent edge still spells its generation and digest, and they are dropped. -/
def readSourceRef : Decoder SourceRef := do
  let kind ← u8
  check (decide (kind.toNat ≤ Enumeration.last MemberDomainKind)) .malformed
  let id ← text Limits.maxIdentifierBytes
  check (if kind = 0 then id.isEmpty else isValidIdentifier id) .malformed
  let generation ← generation
  let digest ← digest
  if kind = 0 then return {}
  else return { domain := { kind := Enumeration.ofIndex kind.toNat, id }, generation, digest }

def readCapacityValue : Decoder CapacityValue := do
  let known ← flag
  let value ← u64
  check (!(known && decide (value > Limits.maxCapacityBps))) .limitExceeded
  check (known || value == 0) .malformed
  return { known, bps := value }

def readCapacity : Decoder CapacityVector := do
  let ingress ← readCapacityValue
  let egress ← readCapacityValue
  let internal ← readCapacityValue
  return { ingress, egress, internal }

def readEvidence : Decoder Evidence := do
  let provenance ← readEnum Provenance
  let observedAtMs ← i64
  let ttlMs ← u64
  check (decide (ttlMs ≤ Limits.maxEvidenceTtlMs)) .limitExceeded
  let payloadDigest ← digest
  return { provenance, observedAtMs, ttlMs, payloadDigest }

/-- Factors are added one by one, so those past the bound are counted, not kept. -/
def readFactors : Decoder Factors := do
  let items ← list (Limits.maxFactors + 1) (text Limits.maxTextBytes)
  return items.foldl Factors.push {}

/-- Edges are inserted one by one, so they come back in order and bounded. -/
def readSourceSet : Decoder SourceSet := do
  let refs ← list (Limits.maxDecisionSources + 1) readSourceRef
  return refs.foldl SourceSet.insert {}

theorem enum_byte {α : Type} [Enumeration α] (a : α) :
    (UInt8.ofNat (Enumeration.index a)).toNat = Enumeration.index a :=
  UInt8.toNat_ofNat_of_lt' (Nat.lt_of_le_of_lt (Enumeration.index_le a) Enumeration.last_lt)

theorem u8_reads : Reads span u8 (fun b => [b]) (fun _ => true) fun b => b :=
  fun _ _ => .of_eq rfl

theorem readEnum_reads {α : Type} [Enumeration α] :
    Reads span (readEnum α) (fun a => Canonical.tag (Enumeration.index a)) (fun _ => true)
      fun a => a := by
  intro a rest
  have runs : Runs span (readEnum α) (Canonical.tag (Enumeration.index a) ++ rest)
      (true && (decide ((UInt8.ofNat (Enumeration.index a)).toNat ≤ Enumeration.last α) && true))
      (Enumeration.ofIndex (UInt8.ofNat (Enumeration.index a)).toNat) rest :=
    .bind (u8_reads _ _) (.check (.pure _ rest))
  simpa only [enum_byte, Enumeration.ofIndex_index, decide_eq_true (Enumeration.index_le a),
    Bool.and_true] using runs

theorem size_of_valid {t : Text} (valid : isValidIdentifier t = true) :
    t.size ≤ Limits.maxIdentifierBytes := by
  unfold isValidIdentifier at valid
  split at valid
  · cases valid
  · next first rest bytes =>
    split at valid
    · cases valid
    · next within => exact Nat.le_of_not_gt within

theorem size_of_isEmpty {t : Text} (empty : t.isEmpty = true) : t = Text.empty ∧ t.size = 0 := by
  obtain ⟨bytes⟩ := t
  cases bytes with
  | nil => exact ⟨rfl, rfl⟩
  | cons b bytes => cases empty

theorem readIdentifier_reads :
    Reads span readIdentifier Canonical.text isValidIdentifier fun a => a := by
  intro t rest
  refine Runs.congr (.bind (text_reads _ t rest) (.check (.pure _ rest))) ?_
  cases valid : isValidIdentifier t with
  | false => simp
  | true => simp [size_of_valid valid]

theorem readOptionalIdentifier_reads :
    Reads span readOptionalIdentifier Canonical.text
      (fun t => t.isEmpty || isValidIdentifier t) fun a => a := by
  intro t rest
  refine Runs.congr (.bind (text_reads _ t rest) (.check (.pure _ rest))) ?_
  cases empty : t.isEmpty with
  | true => simp [empty, (size_of_isEmpty empty).2]
  | false =>
    cases valid : isValidIdentifier t with
    | false => simp [empty, valid]
    | true => simp [empty, valid, size_of_valid valid]

theorem readAbsence_runs (t : Text) (rest : List UInt8) :
    Runs span readAbsence (Canonical.text t ++ rest) t.isEmpty () rest := by
  refine Runs.congr (.bind (text_reads _ t rest) (.test _ _ rest)) ?_
  cases empty : t.isEmpty with
  | false => simp
  | true => simp [(size_of_isEmpty empty).2]

theorem readStrongId_reads {tag : IdTag} :
    Reads span (readStrongId tag) (fun id => Canonical.text id.value) StrongId.valid
      fun a => a := by
  intro id rest
  exact Runs.congr (.bind (readIdentifier_reads id.value rest) (.pure _ rest)) (Bool.and_true _)

theorem readKey_runs {κ ρ : Type} [Enumeration κ] (absent : ρ) (make : κ → Text → ρ) (kind : κ)
    (id : Text) (rest : List UInt8) :
    Runs span (readKey absent make)
      (Canonical.tag (Enumeration.index kind) ++ (Canonical.text id ++ rest))
      (if Enumeration.index kind = 0 then id.isEmpty else isValidIdentifier id)
      (if Enumeration.index kind = 0 then absent else make kind id) rest := by
  have byte := enum_byte kind
  by_cases zero : Enumeration.index kind = 0
  · have none : UInt8.ofNat (Enumeration.index kind) = 0 := by rw [zero]; rfl
    rw [if_pos zero, if_pos zero]
    have next : Runs span (readKey absent make)
        (Canonical.tag (Enumeration.index kind) ++ (Canonical.text id ++ rest))
        (true && (id.isEmpty && true)) absent rest := by
      refine .bind (u8_reads (UInt8.ofNat (Enumeration.index kind)) _) ?_
      rw [if_pos none]
      exact .bind (readAbsence_runs id rest) (.pure _ rest)
    exact next.congr (by simp)
  · have some : UInt8.ofNat (Enumeration.index kind) ≠ 0 := by
      intro none
      rw [none] at byte
      exact zero byte.symm
    rw [if_neg zero, if_neg zero]
    have within := decide_eq_true (Enumeration.index_le kind)
    have next : Runs span (readKey absent make)
        (Canonical.tag (Enumeration.index kind) ++ (Canonical.text id ++ rest))
        (true && (decide (Enumeration.index kind ≤ Enumeration.last κ) &&
          (isValidIdentifier id && true))) (make kind id) rest := by
      refine .bind (u8_reads (UInt8.ofNat (Enumeration.index kind)) _) ?_
      rw [if_neg some, byte, Enumeration.ofIndex_index]
      exact .check (.bind (readIdentifier_reads id rest) (.pure _ rest))
    exact next.congr (by simp [within])

def MemberDomainKey.readable (key : MemberDomainKey) : Bool :=
  if key.kind = .unknown then key.id.isEmpty else isValidIdentifier key.id

def ResourceKey.readable (key : ResourceKey) : Bool :=
  if key.kind = .unknown then key.id.isEmpty else isValidIdentifier key.id

/-- Records that are a kind and an identity, the absent one of the kind numbered zero. -/
structure Keyed {κ ρ : Type} [Enumeration κ] [DecidableEq κ] (unknown : κ) (absent : ρ)
    (make : κ → Text → ρ) (write : ρ → List UInt8) (readable : ρ → Bool) : Prop where
  zero : ∀ kind : κ, Enumeration.index kind = 0 ↔ kind = unknown
  known : ∀ n ≤ Enumeration.last κ, n ≠ 0 → (Enumeration.ofIndex n : κ) ≠ unknown
  made : ∀ r, ∃ kind id, r = make kind id
  silent : make unknown Text.empty = absent
  written : ∀ kind id, write (make kind id) =
    Canonical.tag (Enumeration.index kind) ++ Canonical.text id
  readable_make : ∀ kind id, readable (make kind id) =
    if kind = unknown then id.isEmpty else isValidIdentifier id

theorem memberDomainKey_keyed : Keyed .unknown {} MemberDomainKey.mk Canonical.memberDomainKey
    MemberDomainKey.readable where
  zero kind := by cases kind <;> decide
  known := by decide
  made key := ⟨key.kind, key.id, rfl⟩
  silent := rfl
  written _ _ := rfl
  readable_make _ _ := rfl

theorem resourceKey_keyed : Keyed .unknown {} ResourceKey.mk Canonical.resourceKey
    ResourceKey.readable where
  zero kind := by cases kind <;> decide
  known := by decide
  made key := ⟨key.kind, key.id, rfl⟩
  silent := rfl
  written _ _ := rfl
  readable_make _ _ := rfl

section Keyed

variable {κ ρ : Type} [Enumeration κ] [DecidableEq κ] {unknown : κ} {absent : ρ}
  {make : κ → Text → ρ} {write : ρ → List UInt8} {readable : ρ → Bool}

theorem Keyed.reads (keyed : Keyed unknown absent make write readable) :
    Reads span (readKey absent make) write readable fun a => a := by
  intro r rest
  obtain ⟨kind, id, rfl⟩ := keyed.made r
  have runs := readKey_runs absent make kind id rest
  simp only [keyed.zero, ← keyed.readable_make] at runs
  rw [keyed.written, List.append_assoc]
  refine Runs.congr_out runs fun fine => ?_
  by_cases none : kind = unknown
  · rw [keyed.readable_make, if_pos none] at fine
    have empty : id = Text.empty := (size_of_isEmpty fine).1
    rw [if_pos none, none, empty, keyed.silent]
  · rw [if_neg none]

end Keyed

theorem readMemberDomainKey_reads :
    Reads span readMemberDomainKey Canonical.memberDomainKey MemberDomainKey.readable
      fun a => a := memberDomainKey_keyed.reads

theorem readResourceKey_reads :
    Reads span readResourceKey Canonical.resourceKey ResourceKey.readable fun a => a :=
  resourceKey_keyed.reads

def SourceRef.readable (ref : SourceRef) : Bool := ref.domain.readable

/-- An edge of no domain comes back without its generation and digest. -/
def SourceRef.stored (ref : SourceRef) : SourceRef := if ref.domain.kind = .unknown then {} else ref

theorem readSourceRef_reads :
    Reads span readSourceRef Canonical.sourceRef SourceRef.readable SourceRef.stored := by
  intro ⟨⟨kind, id⟩, generation, digest⟩ rest
  have byte := enum_byte kind
  have within := decide_eq_true (Enumeration.index_le kind)
  have absence : UInt8.ofNat (Enumeration.index kind) = 0 ↔ kind = .unknown := by
    cases kind <;> decide
  have runs : Runs span readSourceRef
      (Canonical.tag (Enumeration.index kind) ++ (Canonical.text id ++
        (Canonical.generation generation ++ (Canonical.digest digest ++ rest))))
      (true && (decide (Enumeration.index kind ≤ Enumeration.last MemberDomainKind) &&
        (decide (id.size ≤ Limits.maxIdentifierBytes) &&
          ((if kind = .unknown then id.isEmpty else isValidIdentifier id) &&
            (true && (true && true))))))
      (if kind = .unknown then {} else ⟨⟨kind, id⟩, generation, digest⟩) rest := by
    refine .bind (u8_reads (UInt8.ofNat (Enumeration.index kind)) _) ?_
    simp only [byte, Enumeration.ofIndex_index, absence]
    refine .check (.bind (text_reads _ id _) (.check (.bind (generation_reads generation _)
      (.bind (digest_reads digest rest) ?_))))
    split
    · exact .pure _ rest
    · exact .pure _ rest
  simp only [Canonical.sourceRef, Canonical.memberDomainKey, List.append_assoc]
  refine Runs.congr runs ?_
  simp only [within, Bool.true_and, Bool.and_true, SourceRef.readable, MemberDomainKey.readable]
  by_cases unknown : kind = .unknown
  · simp only [unknown, if_true]
    cases empty : id.isEmpty with
    | false => rw [Bool.and_false]
    | true => simp [(size_of_isEmpty empty).2]
  · simp only [unknown, if_false]
    cases valid : isValidIdentifier id with
    | false => rw [Bool.and_false]
    | true => simp [size_of_valid valid]

def CapacityValue.readable (v : CapacityValue) : Bool :=
  !v.known || decide (v.bps ≤ Limits.maxCapacityBps)

/-- An unknown channel carries no figure. -/
def CapacityValue.stored (v : CapacityValue) : CapacityValue := if v.known then v else {}

theorem readCapacityValue_reads :
    Reads span readCapacityValue CapacityValue.write CapacityValue.readable
      CapacityValue.stored := by
  intro ⟨known, bps⟩ rest
  rw [CapacityValue.write, List.append_assoc]
  cases known with
  | false => exact .bind (flag_reads false _) (.bind (u64_reads 0 rest) (.check (.check (.pure _ rest))))
  | true =>
    refine Runs.congr (.bind (flag_reads true _)
      (.bind (u64_reads bps rest) (.check (.check (.pure _ rest))))) ?_
    simp [CapacityValue.readable, ← UInt64.not_le]

def CapacityVector.readable (v : CapacityVector) : Bool :=
  v.ingress.readable && v.egress.readable && v.internal.readable

def CapacityVector.stored (v : CapacityVector) : CapacityVector :=
  ⟨v.ingress.stored, v.egress.stored, v.internal.stored⟩

theorem readCapacity_reads :
    Reads span readCapacity CapacityVector.write CapacityVector.readable
      CapacityVector.stored := by
  intro v rest
  simp only [CapacityVector.write, List.append_assoc]
  refine Runs.congr (.bind (readCapacityValue_reads v.ingress _)
    (.bind (readCapacityValue_reads v.egress _)
      (.bind (readCapacityValue_reads v.internal rest) (.pure _ rest)))) ?_
  simp [CapacityVector.readable, Bool.and_assoc]

def Evidence.readable (e : Evidence) : Bool := decide (e.ttlMs ≤ Limits.maxEvidenceTtlMs)

/-- The source an evidence describes is not written. -/
def Evidence.stored (e : Evidence) : Evidence := { e with source := {} }

theorem readEvidence_reads :
    Reads span readEvidence Evidence.write Evidence.readable Evidence.stored := by
  intro e rest
  simp only [Evidence.write, List.append_assoc]
  refine Runs.congr (.bind (readEnum_reads e.provenance _) (.bind (i64_reads e.observedAtMs _)
    (.bind (u64_reads e.ttlMs _) (.check (.bind (digest_reads e.payloadDigest rest)
      (.pure _ rest)))))) ?_
  simp [Evidence.readable]

def Factors.readable (f : Factors) : Bool :=
  decide (f.items.length ≤ Limits.maxFactors + 1) &&
    f.items.all fun t => decide (t.size ≤ Limits.maxTextBytes)

def Factors.stored (f : Factors) : Factors := f.items.foldl Factors.push {}

theorem readFactors_reads :
    Reads span readFactors Canonical.factors Factors.readable Factors.stored := by
  intro f rest
  have texts : Runs span (list (Limits.maxFactors + 1) (text Limits.maxTextBytes))
      (Canonical.factors f ++ rest) f.readable f.items rest :=
    (list_reads (Limits.maxFactors + 1) (text_reads Limits.maxTextBytes) (by simp) f.items
      rest).congr_out fun _ => List.map_id' f.items
  exact Runs.congr (.bind texts (.pure _ rest)) (Bool.and_true _)

def SourceSet.readable (s : SourceSet) : Bool :=
  decide (s.items.length ≤ Limits.maxDecisionSources + 1) && s.items.all SourceRef.readable

def SourceSet.stored (s : SourceSet) : SourceSet :=
  (s.items.map SourceRef.stored).foldl SourceSet.insert {}

theorem readSourceSet_reads :
    Reads span readSourceSet Canonical.sourceSet SourceSet.readable SourceSet.stored := by
  intro s rest
  have refs := list_reads (Limits.maxDecisionSources + 1) readSourceRef_reads
    (by simp [Canonical.sourceRef])
  exact Runs.congr (.bind (refs s.items rest) (.pure _ rest)) (Bool.and_true _)

/-! What these decoders yield can be written again. -/

theorem readEnum_keeps {α : Type} [Enumeration α] : Ensures (readEnum α) fun _ used => 1 ≤ used :=
  u8_keeps.bind fun _ _ one => .check fun _ => .pure one

theorem readIdentifier_keeps :
    Keeps readIdentifier Canonical.text isValidIdentifier fun _ => True :=
  (text_keeps _).bind fun _ _ kept => .check fun valid => .pure ⟨valid, trivial, kept.fits⟩

theorem readOptionalIdentifier_keeps :
    Keeps readOptionalIdentifier Canonical.text (fun t => t.isEmpty || isValidIdentifier t)
      fun _ => True :=
  (text_keeps _).bind fun _ _ kept => .check fun valid => .pure ⟨valid, trivial, kept.fits⟩

theorem readAbsence_keeps : Ensures readAbsence fun _ used => 4 ≤ used := by
  intro input a rest run
  obtain ⟨id, middle, read, checked⟩ := bind_ok run
  obtain ⟨used, length, kept⟩ := text_keeps _ input id middle read
  have fits := kept.fits
  rw [Canonical.length_text] at fits
  cases empty : id.isEmpty with
  | false =>
    rw [empty] at checked
    cases checked
  | true =>
    rw [empty] at checked
    cases checked
    exact ⟨used, length, by omega⟩

theorem readStrongId_keeps {tag : IdTag} :
    Keeps (readStrongId tag) (fun id => Canonical.text id.value) StrongId.valid fun _ => True :=
  Ensures.bind readIdentifier_keeps fun _ _ kept => .pure ⟨kept.readable, trivial, kept.fits⟩

theorem readKey_ensures {κ ρ : Type} [Enumeration κ] {absent : ρ} {make : κ → Text → ρ}
    {post : ρ → Nat → Prop} (none : ∀ used, 5 ≤ used → post absent used)
    (some : ∀ n id used, n ≠ 0 → n ≤ Enumeration.last κ → isValidIdentifier id = true →
      5 + id.size ≤ used → post (make (Enumeration.ofIndex n) id) used) :
    Ensures (readKey absent make) post := by
  refine u8_keeps.bind fun kind used one => ?_
  by_cases zero : kind = 0
  · rw [if_pos zero]
    exact readAbsence_keeps.bind fun _ more four => .pure (none _ (by omega))
  · rw [if_neg zero]
    refine .check fun within => ?_
    refine Ensures.bind readIdentifier_keeps fun id more kept => .pure ?_
    have nonzero : kind.toNat ≠ 0 := fun same => zero (UInt8.toNat_inj.mp same)
    have fits := kept.fits
    rw [Canonical.length_text] at fits
    exact some _ _ _ nonzero (of_decide_eq_true within) kept.readable (by omega)

theorem Keyed.keeps {κ ρ : Type} [Enumeration κ] [DecidableEq κ] {unknown : κ} {absent : ρ}
    {make : κ → Text → ρ} {write : ρ → List UInt8} {readable : ρ → Bool}
    (keyed : Keyed unknown absent make write readable) :
    Keeps (readKey absent make) write readable fun _ => True := by
  refine readKey_ensures (fun used five => ?_) fun n id used nonzero within valid fits => ?_
  · rw [← keyed.silent]
    refine ⟨?_, trivial, ?_⟩
    · rw [keyed.readable_make, if_pos rfl]
      rfl
    · rw [keyed.written, List.length_append, Canonical.length_tag, Canonical.length_text]
      exact five
  · refine ⟨?_, trivial, ?_⟩
    · rw [keyed.readable_make, if_neg (keyed.known n within nonzero)]
      exact valid
    · rw [keyed.written, List.length_append, Canonical.length_tag, Canonical.length_text]
      omega

theorem readMemberDomainKey_keeps :
    Keeps readMemberDomainKey Canonical.memberDomainKey MemberDomainKey.readable
      fun _ => True := memberDomainKey_keyed.keeps

theorem readResourceKey_keeps :
    Keeps readResourceKey Canonical.resourceKey ResourceKey.readable fun _ => True :=
  resourceKey_keyed.keeps

theorem readSourceRef_keeps :
    Keeps readSourceRef Canonical.sourceRef SourceRef.readable fun ref => ref.stored = ref := by
  refine u8_keeps.bind fun kind used one => .check fun within => ?_
  refine Ensures.bind (text_keeps _) fun id more kept => .check fun spelt => ?_
  refine generation_keeps.bind fun generation more' eight => ?_
  refine digest_keeps.bind fun digest more'' wide => ?_
  have fits := kept.fits
  rw [Canonical.length_text] at fits
  by_cases zero : kind = 0
  · rw [if_pos zero]
    refine .pure ⟨rfl, rfl, ?_⟩
    change 45 ≤ _
    omega
  · rw [if_neg zero] at spelt ⊢
    have known : ∀ n ≤ Enumeration.last MemberDomainKind, n ≠ 0 →
        (Enumeration.ofIndex n : MemberDomainKind) ≠ .unknown := by decide
    have nonzero : kind.toNat ≠ 0 := fun same => zero (UInt8.toNat_inj.mp same)
    have listed := known kind.toNat (of_decide_eq_true within) nonzero
    refine .pure ⟨?_, if_neg listed, ?_⟩
    · rw [SourceRef.readable, MemberDomainKey.readable, if_neg listed]
      exact spelt
    · simp only [Canonical.sourceRef, Canonical.memberDomainKey, List.length_append,
        Canonical.length_tag, Canonical.length_text, Canonical.length_generation,
        Canonical.length_digest]
      omega

theorem readCapacityValue_keeps :
    Keeps readCapacityValue CapacityValue.write CapacityValue.readable fun v => v.stored = v := by
  refine flag_keeps.bind fun known used one => ?_
  refine u64_keeps.bind fun value more eight => .check fun bounded => .check fun spelt => .pure ?_
  refine ⟨?_, ?_, ?_⟩
  · simpa [CapacityValue.readable] using bounded
  · cases known with
    | true => rfl
    | false => simp_all [CapacityValue.stored]
  · simp only [CapacityValue.write, List.length_append, Canonical.length_flag,
      Canonical.length_u64]
    omega

theorem readCapacity_keeps :
    Keeps readCapacity CapacityVector.write CapacityVector.readable fun v => v.stored = v := by
  refine Ensures.bind readCapacityValue_keeps fun ingress used i => ?_
  refine Ensures.bind readCapacityValue_keeps fun egress more e => ?_
  refine Ensures.bind readCapacityValue_keeps fun internal more' n => .pure ⟨?_, ?_, ?_⟩
  · simp [CapacityVector.readable, i.readable, e.readable, n.readable]
  · simp [CapacityVector.stored, i.stable, e.stable, n.stable]
  · have sizes := And.intro i.fits (And.intro e.fits n.fits)
    simp only [CapacityVector.write, List.length_append]
    omega

theorem readEvidence_keeps :
    Keeps readEvidence Evidence.write Evidence.readable fun e => e.stored = e := by
  refine readEnum_keeps.bind fun provenance used one => ?_
  refine i64_keeps.bind fun observed more eight => ?_
  refine u64_keeps.bind fun ttl more' eight' => .check fun bounded => ?_
  refine digest_keeps.bind fun payload more'' wide => .pure ⟨bounded, rfl, ?_⟩
  simp only [Evidence.write, List.length_append, Canonical.length_tag, Canonical.length_i64,
    Canonical.length_u64, Canonical.length_digest]
  omega

/-! Bounded lists and sets that were filled one item at a time. -/

theorem Factors.items_foldl_push (texts : List Text) (f : Factors)
    (room : f.items.length ≤ Limits.maxFactors) :
    (texts.foldl Factors.push f).items = (f.items ++ texts).take Limits.maxFactors := by
  induction texts generalizing f with
  | nil => rw [List.foldl_nil, List.append_nil, List.take_of_length_le room]
  | cons t texts ih =>
    rw [List.foldl_cons]
    by_cases full : f.items.length ≥ Limits.maxFactors
    · have pushed : f.push t = { f with dropped := f.dropped + 1 } := if_pos full
      rw [pushed, ih { f with dropped := f.dropped + 1 } room,
        List.take_append_of_le_length full, List.take_append_of_le_length full]
    · have pushed : f.push t = { f with items := f.items ++ [t] } := if_neg full
      have room' : (f.items ++ [t]).length ≤ Limits.maxFactors := by
        rw [List.length_append, List.length_singleton]
        omega
      rw [pushed, ih { f with items := f.items ++ [t] } room', List.append_assoc,
        List.singleton_append]

theorem readFactors_keeps :
    Keeps readFactors Canonical.factors Factors.readable fun f =>
      Canonical.factors f.stored = Canonical.factors f := by
  have texts := list_keeps (Limits.maxFactors + 1) (text_keeps Limits.maxTextBytes)
  refine Ensures.bind texts fun items used kept => .pure ?_
  have filled : (items.foldl Factors.push {}).items = items.take Limits.maxFactors :=
    Factors.items_foldl_push items {} (Nat.zero_le _)
  obtain ⟨bounded, each⟩ := Bool.and_eq_true_iff.mp kept.readable
  refine ⟨?_, ?_, ?_⟩
  · refine Bool.and_eq_true_iff.mpr ⟨decide_eq_true ?_, List.all_eq_true.mpr fun t member => ?_⟩
    · rw [filled, List.length_take]
      omega
    · rw [filled] at member
      exact List.all_eq_true.mp each t (List.mem_of_mem_take member)
  · rw [Canonical.factors, Canonical.factors, Factors.stored,
      Factors.items_foldl_push _ {} (Nat.zero_le _), filled, List.nil_append, List.take_take,
      Nat.min_self]
  · have fits := kept.fits
    have part : ((items.take Limits.maxFactors).flatMap Canonical.text).length ≤
        (items.flatMap Canonical.text).length := by
      conv_rhs => rw [← List.take_append_drop Limits.maxFactors items]
      rw [List.flatMap_append, List.length_append]
      omega
    rw [Canonical.length_list] at fits
    rw [Canonical.factors, filled, Canonical.length_list]
    omega

theorem readSourceSet_keeps :
    Keeps readSourceSet Canonical.sourceSet SourceSet.readable fun s =>
      Canonical.sourceSet s.stored = Canonical.sourceSet s := by
  have edges := list_keeps (Limits.maxDecisionSources + 1) readSourceRef_keeps
  refine Ensures.bind edges fun refs used kept => .pure ?_
  obtain ⟨-, each⟩ := Bool.and_eq_true_iff.mp kept.readable
  have ordered : SourceSet.Ordered (refs.foldl SourceSet.insert {}).items :=
    SourceSet.foldl_insert_ordered refs ⟨List.Pairwise.nil, Nat.zero_le _⟩
  have held : ∀ r ∈ refs, r.readable = true ∧ r.stored = r := fun r member =>
    ⟨List.all_eq_true.mp each r member, kept.stable r member⟩
  obtain ⟨holds, total⟩ := SourceSet.foldl_insert_items (fun r => (Canonical.sourceRef r).length)
    refs (s := {}) (fun r member => absurd member List.not_mem_nil) held
  refine ⟨?_, ?_, ?_⟩
  · refine Bool.and_eq_true_iff.mpr ⟨decide_eq_true ?_, List.all_eq_true.mpr fun r member => ?_⟩
    · exact ordered.2.trans (Nat.le_succ _)
    · exact (holds r member).1
  · have same : (refs.foldl SourceSet.insert {}).items.map SourceRef.stored =
        (refs.foldl SourceSet.insert {}).items := by
      conv_rhs => rw [← List.map_id (refs.foldl SourceSet.insert {}).items]
      exact List.map_congr_left fun r member => (holds r member).2
    rw [Canonical.sourceSet, Canonical.sourceSet, SourceSet.stored, same,
      SourceSet.foldl_insert_of_ordered _ [] false 0 ordered, List.nil_append]
  · have fits := kept.fits
    rw [Canonical.length_list, List.length_flatMap] at fits
    rw [Canonical.sourceSet, Canonical.length_list, List.length_flatMap]
    simp only [List.map_nil, List.sum_nil, Nat.zero_add] at total
    omega

namespace Codec

open Lib.Codec

def enum (α : Type) [Enumeration α] : Codec α :=
  fixed 1 (readEnum α) (fun a => Canonical.tag (Enumeration.index a)) readEnum_reads
    readEnum_keeps (fun _ => rfl) Nat.zero_lt_one

def strongId (tag : IdTag) : Codec (StrongId tag) :=
  exactly (readStrongId tag) (fun id => Canonical.text id.value) StrongId.valid
    readStrongId_reads readStrongId_keeps (by simp)

def optionalIdentifier : Codec Text :=
  exactly readOptionalIdentifier Canonical.text (fun t => t.isEmpty || isValidIdentifier t)
    readOptionalIdentifier_reads readOptionalIdentifier_keeps Canonical.length_text_pos

def memberDomainKey : Codec MemberDomainKey :=
  exactly readMemberDomainKey Canonical.memberDomainKey MemberDomainKey.readable
    readMemberDomainKey_reads readMemberDomainKey_keeps (by simp [Canonical.memberDomainKey])

def resourceKey : Codec ResourceKey :=
  exactly readResourceKey Canonical.resourceKey ResourceKey.readable readResourceKey_reads
    readResourceKey_keeps (by simp [Canonical.resourceKey])

def sourceRef : Codec SourceRef where
  read := readSourceRef
  write := Canonical.sourceRef
  readable := SourceRef.readable
  stored := SourceRef.stored
  reads := readSourceRef_reads
  keeps := Ensures.mono readSourceRef_keeps fun _ _ kept =>
    ⟨kept.readable, by rw [kept.stable], kept.fits⟩
  solid := by simp [Canonical.sourceRef]

def capacity : Codec CapacityVector where
  read := readCapacity
  write := CapacityVector.write
  readable := CapacityVector.readable
  stored := CapacityVector.stored
  reads := readCapacity_reads
  keeps := Ensures.mono readCapacity_keeps fun _ _ kept =>
    ⟨kept.readable, by rw [kept.stable], kept.fits⟩
  solid := by simp [CapacityVector.write, CapacityValue.write]

def evidence : Codec Evidence where
  read := readEvidence
  write := Evidence.write
  readable := Evidence.readable
  stored := Evidence.stored
  reads := readEvidence_reads
  keeps := Ensures.mono readEvidence_keeps fun _ _ kept =>
    ⟨kept.readable, by rw [kept.stable], kept.fits⟩
  solid := by simp [Evidence.write]

def factors : Codec Factors where
  read := readFactors
  write := Canonical.factors
  readable := Factors.readable
  stored := Factors.stored
  reads := readFactors_reads
  keeps := readFactors_keeps
  solid := by simp [Canonical.factors]

def sourceSet : Codec SourceSet where
  read := readSourceSet
  write := Canonical.sourceSet
  readable := SourceSet.readable
  stored := SourceSet.stored
  reads := readSourceSet_reads
  keeps := readSourceSet_keeps
  solid := by simp [Canonical.sourceSet]

theorem capacity_plain : capacity.Plain := Ensures.mono readCapacity_keeps fun _ _ kept => kept.stable

theorem evidence_plain : evidence.Plain := Ensures.mono readEvidence_keeps fun _ _ kept => kept.stable

end Codec

end SiteFabric
