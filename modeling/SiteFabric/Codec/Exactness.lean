import SiteFabric.Codec.Payloads

/-! Decoders that accept one string of bytes for each value.
A flag is zero or one, an absent key has an empty identity and an unknown
capacity no figure, so claims and declarations are never spelled twice. Factors
and source sets are not among these: they are filled item by item. -/

namespace SiteFabric

open Lib Lib.Reader

namespace CanonicalReader

theorem bytes_u32 (b0 b1 b2 b3 : UInt8) :
    Canonical.u32 (b0.toUInt32 ||| b1.toUInt32 <<< 8 ||| b2.toUInt32 <<< 16 |||
      b3.toUInt32 <<< 24) = [b0, b1, b2, b3] := by
  simp only [Canonical.u32, List.cons.injEq, and_true]
  refine ⟨?_, ?_, ?_, ?_⟩ <;>
  · apply UInt8.eq_of_toBitVec_eq
    ext i bounded
    simp only [UInt32.toBitVec_or, UInt32.toBitVec_shiftLeft, UInt8.toBitVec_toUInt32,
      UInt32.toBitVec_toUInt8, UInt32.toBitVec_shiftRight]
    simp <;> grind

theorem words_u64 (low high : UInt32) :
    Canonical.u64 (low.toUInt64 ||| high.toUInt64 <<< 32) =
      Canonical.u32 low ++ Canonical.u32 high := by
  have first : (low.toUInt64 ||| high.toUInt64 <<< 32).toUInt32 = low := by
    apply UInt32.eq_of_toBitVec_eq
    ext i bounded
    simp
  have second : ((low.toUInt64 ||| high.toUInt64 <<< 32) >>> 32).toUInt32 = high := by
    apply UInt32.eq_of_toBitVec_eq
    ext i bounded
    simp
    grind
  rw [Canonical.u64, first, second]

theorem u8_spells : Spells u8 fun b => [b] := by
  intro input b rest run
  cases input with
  | nil => cases run
  | cons first input =>
    cases run
    exact ⟨[b], rfl, rfl⟩

theorem u32_spells : Spells u32 Canonical.u32 := by
  intro input n rest run
  match input with
  | [] | [_] | [_, _] | [_, _, _] => cases run
  | b0 :: b1 :: b2 :: b3 :: input =>
    cases run
    exact ⟨[b0, b1, b2, b3], rfl, (bytes_u32 b0 b1 b2 b3).symm⟩

theorem take_spells (n : Nat) : Takes (take n) fun bytes used => bytes.length = n ∧ used = bytes := by
  intro input bytes rest run
  unfold take at run
  split at run
  · cases run
  · next enough =>
    cases run
    exact ⟨_, (List.take_append_drop n input).symm, by rw [List.length_take]; omega, rfl⟩

theorem digest_spells : Spells digest Canonical.digest := by
  intro input d rest run
  unfold digest at run
  split at run
  · cases run
    exact ⟨_, (List.take_append_drop 32 input).symm, rfl⟩
  · cases run

theorem u64_spells : Spells u64 Canonical.u64 := by
  refine Takes.bind u32_spells fun low used here =>
    Takes.bind u32_spells fun high more there => .pure ?_
  rw [here, there, words_u64, List.append_nil]

theorem i64_spells : Spells i64 Canonical.i64 := by
  refine Takes.bind u64_spells fun raw used here => .pure ?_
  rw [here, List.append_nil, Canonical.i64, UInt64.toUInt64_toInt64]

theorem flag_spells : Spells flag Canonical.flag := by
  refine Takes.bind u8_spells fun value used here => .check fun within => .pure ?_
  have small : value.toNat ≤ 1 := UInt8.le_iff_toNat_le.mp (of_decide_eq_true within)
  rw [here, List.append_nil, Canonical.flag]
  obtain zero | one : value.toNat = 0 ∨ value.toNat = 1 := by omega
  · obtain rfl : value = 0 := UInt8.toNat_inj.mp zero
    rfl
  · obtain rfl : value = 1 := UInt8.toNat_inj.mp one
    rfl

theorem generation_spells : Spells generation Canonical.generation :=
  Takes.bind u64_spells fun _ _ here => .pure (by rw [here, List.append_nil]; rfl)

theorem epoch_spells : Spells epoch Canonical.epoch :=
  Takes.bind u64_spells fun _ _ here => .pure (by rw [here, List.append_nil]; rfl)

theorem schema_spells : Spells schema Canonical.schema :=
  Takes.bind u32_spells fun _ _ here => Takes.bind u32_spells fun _ _ there =>
    .pure (by rw [here, there, List.append_nil]; rfl)

theorem text_spells (maxBytes : Nat) : Spells (text maxBytes) Canonical.text := by
  refine Takes.bind u32_spells fun length used here => .check fun _ => ?_
  refine Takes.bind (take_spells length.toNat) fun bytes more ⟨size, there⟩ => .pure ?_
  rw [here, there, List.append_nil, Canonical.text, Canonical.count, size, UInt32.ofNat_toNat]

theorem incarnation_spells : Spells incarnation Canonical.incarnation :=
  Takes.bind u64_spells fun _ _ here => Takes.bind (text_spells _) fun _ _ there =>
    .pure (by rw [here, there, List.append_nil]; rfl)

theorem list_spells {α : Type} {read : Decoder α} {write : α → List UInt8} (bound : Nat)
    (spells : Spells read write) : Spells (list bound read) (Canonical.list write) := by
  have counted : Takes (count bound) fun n used => used = Canonical.count n := by
    refine Takes.bind u32_spells fun n used here => .check fun _ => .pure ?_
    rw [here, List.append_nil, Canonical.count, UInt32.ofNat_toNat]
  refine counted.bind fun n used here => (Spells.many spells n).mono fun items more there => ?_
  rw [here, there.2, Canonical.list, there.1]

theorem optional_spells {α : Type} {read : Decoder α} {write : α → List UInt8}
    (spells : Spells read write) : Spells (optional read) (Canonical.optional write) := by
  refine Takes.bind flag_spells fun present used here => ?_
  cases present with
  | false => exact .pure (by rw [here]; rfl)
  | true => exact Takes.bind spells fun a more there => .pure (by rw [here, there, List.append_nil]; rfl)

end CanonicalReader

open CanonicalReader

/-- Every number up to the last one is that of a value. -/
def Enumeration.Named (α : Type) [Enumeration α] : Prop :=
  ∀ n ≤ last α, index (ofIndex n : α) = n

instance (α : Type) [Enumeration α] : Decidable (Enumeration.Named α) :=
  inferInstanceAs (Decidable (∀ n ≤ Enumeration.last α, _))

theorem readEnum_spells {α : Type} [Enumeration α] (named : Enumeration.Named α) :
    Spells (readEnum α) fun a => Canonical.tag (Enumeration.index a) := by
  refine Takes.bind u8_spells fun value used here => .check fun within => .pure ?_
  dsimp only at here ⊢
  rw [here, List.append_nil, named _ (of_decide_eq_true within), Canonical.tag, UInt8.ofNat_toNat]

theorem readIdentifier_spells : Spells readIdentifier Canonical.text :=
  Takes.bind (text_spells _) fun _ _ here => .check fun _ => .pure (by rw [here, List.append_nil])

theorem readStrongId_spells {tag : IdTag} :
    Spells (readStrongId tag) fun id => Canonical.text id.value :=
  Takes.bind readIdentifier_spells fun _ _ here => .pure (by rw [here, List.append_nil])

theorem readAbsence_spells : Takes readAbsence fun _ used => used = Canonical.text Text.empty := by
  refine Takes.bind (text_spells _) fun id used here => ?_
  intro input nothing rest run
  unfold Reader.check at run
  split at run
  · next empty =>
    cases run
    exact ⟨[], rfl, by simp [here, (size_of_isEmpty empty).1]⟩
  · cases run

/-- A key is spelled by its kind and its identity; the absent one by its kind alone. -/
theorem readKey_spells {κ ρ : Type} [Enumeration κ] (named : Enumeration.Named κ) {absent : ρ}
    {make : κ → Text → ρ} {write : ρ → List UInt8}
    (silent : write absent = Canonical.tag 0 ++ Canonical.text Text.empty)
    (written : ∀ kind id, write (make kind id) =
      Canonical.tag (Enumeration.index kind) ++ Canonical.text id) :
    Spells (readKey absent make) write := by
  refine Takes.bind u8_spells fun kind used here => ?_
  dsimp only at here
  split
  · next zero =>
    refine Takes.bind readAbsence_spells fun _ more there => .pure ?_
    rw [here, there, silent, zero, List.append_nil]
    rfl
  · refine .check fun within => Takes.bind readIdentifier_spells fun id more there => .pure ?_
    rw [here, there, written, named _ (of_decide_eq_true within), Canonical.tag,
      UInt8.ofNat_toNat, List.append_nil]

theorem readMemberDomainKey_spells : Spells readMemberDomainKey Canonical.memberDomainKey :=
  readKey_spells (by decide) rfl fun _ _ => rfl

theorem readResourceKey_spells : Spells readResourceKey Canonical.resourceKey :=
  readKey_spells (by decide) rfl fun _ _ => rfl

theorem readCapacityValue_spells : Spells readCapacityValue CapacityValue.write := by
  refine Takes.bind flag_spells fun known used here => Takes.bind u64_spells fun value more there =>
    .check fun _ => .check fun silent => .pure ?_
  rw [here, there, List.append_nil, CapacityValue.write]
  cases known with
  | true => rfl
  | false =>
    obtain rfl : value = 0 := by simpa using silent
    rfl

theorem readCapacity_spells : Spells readCapacity CapacityVector.write := by
  refine Takes.bind readCapacityValue_spells fun _ _ one => Takes.bind readCapacityValue_spells
    fun _ _ two => Takes.bind readCapacityValue_spells fun _ _ three => .pure ?_
  rw [one, two, three, List.append_nil, CapacityVector.write, List.append_assoc]

theorem readEvidence_spells : Spells readEvidence Evidence.write := by
  refine Takes.bind (readEnum_spells (by decide)) fun _ _ one => Takes.bind i64_spells
    fun _ _ two => Takes.bind u64_spells fun _ _ three => .check fun _ =>
      Takes.bind digest_spells fun _ _ four => .pure ?_
  rw [one, two, three, four, List.append_nil, Evidence.write]
  simp only [List.append_assoc]
  rfl

namespace Codec

open Lib.Codec

theorem list_exact {α : Type} {bound : Nat} {c : Codec α} (exact : c.Exact) : (list bound c).Exact :=
  list_spells bound exact

theorem optional_exact {α : Type} {c : Codec α} (exact : c.Exact) : (optional c).Exact :=
  optional_spells exact

theorem enum_exact {α : Type} [Enumeration α] (named : Enumeration.Named α) : (enum α).Exact :=
  readEnum_spells named

theorem strongId_exact {tag : IdTag} : (strongId tag).Exact := readStrongId_spells

theorem resourceKey_exact : resourceKey.Exact := readResourceKey_spells

theorem generation_exact : generation.Exact := generation_spells

theorem capacity_exact : capacity.Exact := readCapacity_spells

theorem evidence_exact : evidence.Exact := readEvidence_spells

theorem rackClaim_exact : rackClaim.Exact :=
  .record <| strongId_exact.and <| generation_exact.and <| capacity_exact.and <|
    (enum_exact (by decide)).and evidence_exact

theorem podClaim_exact : podClaim.Exact :=
  .record <| strongId_exact.and <| generation_exact.and <| (list_exact strongId_exact).and
    evidence_exact

theorem clusterClaim_exact : clusterClaim.Exact :=
  .record <| strongId_exact.and <| generation_exact.and <| (list_exact strongId_exact).and <|
    (list_exact strongId_exact).and evidence_exact

theorem sharedLinkClaim_exact : sharedLinkClaim.Exact :=
  .record <| strongId_exact.and <| Exact.and flag_spells <| generation_exact.and <|
    capacity_exact.and <| (enum_exact (by decide)).and evidence_exact

theorem gatewayClaim_exact : gatewayClaim.Exact :=
  .record <| strongId_exact.and <| generation_exact.and <| capacity_exact.and <|
    (enum_exact (by decide)).and evidence_exact

theorem capacityContribution_exact : capacityContribution.Exact :=
  .record <| resourceKey_exact.and <| (enum_exact (by decide)).and <| generation_exact.and <|
    capacity_exact.and evidence_exact

theorem failureDomainClaim_exact : failureDomainClaim.Exact :=
  .record <| strongId_exact.and <| (enum_exact (by decide)).and <|
    (optional_exact strongId_exact).and <| (list_exact resourceKey_exact).and <|
    generation_exact.and evidence_exact

theorem maintenanceZone_exact : maintenanceZone.Exact :=
  .record <| strongId_exact.and <| (enum_exact (by decide)).and <| Exact.and i64_spells <|
    Exact.and i64_spells <| (list_exact strongId_exact).and <| (list_exact resourceKey_exact).and <|
    generation_exact.and evidence_exact

theorem protectedObligation_exact : protectedObligation.Exact :=
  .record <| strongId_exact.and <| (enum_exact (by decide)).and <|
    (optional_exact strongId_exact).and <| (optional_exact resourceKey_exact).and <|
    Exact.and u64_spells <| Exact.and flag_spells <| generation_exact.and evidence_exact

theorem declaration_exact : declaration.Exact :=
  .record <| Exact.and readMemberDomainKey_spells <| strongId_exact.and <| generation_exact.and <|
    Exact.and schema_spells <| Exact.and epoch_spells <| evidence_exact.and <|
    (list_exact clusterClaim_exact).and <| (list_exact podClaim_exact).and <|
    (list_exact rackClaim_exact).and <| (list_exact sharedLinkClaim_exact).and <|
    (list_exact gatewayClaim_exact).and <| (list_exact capacityContribution_exact).and <|
    (list_exact failureDomainClaim_exact).and <| (list_exact maintenanceZone_exact).and <|
    list_exact protectedObligation_exact

/-- The digest of a declaration that is read is that of the bytes it was read from. -/
theorem digest_of_read {input rest : List UInt8} {d : MemberDomainDeclaration}
    (read : declaration.read input = .ok (d, rest)) :
    ∃ used, input = used ++ rest ∧ d.digest = Sha256.digestBytes used := by
  refine ⟨d.write, declaration_exact.write_of_read read, ?_⟩
  obtain ⟨fields, middle, -, made⟩ := Reader.bind_ok read
  cases made
  rfl

end Codec

end SiteFabric
