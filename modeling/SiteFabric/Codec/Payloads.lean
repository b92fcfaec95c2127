import SiteFabric.Codec.Claims

/-! Reading back without a bound on the payload.
A codec answers for bytes below the span of a length word. The values a decoder
accepts are bounded one by one, so what is written of them is read back however
long the payload around them is. -/

namespace SiteFabric

open Lib Lib.Reader

namespace CanonicalReader

theorem take_local (n : Nat) : Local (take n) := by
  intro input more bytes rest run
  unfold take at run ⊢
  split at run
  · cases run
  · next enough =>
    cases run
    rw [if_neg (by rw [List.length_append]; omega),
      List.take_append_of_le_length (Nat.le_of_not_lt enough),
      List.drop_append_of_le_length (Nat.le_of_not_lt enough)]

theorem u8_local : Local u8 := by
  intro input more b rest run
  cases input with
  | nil => cases run
  | cons first input =>
    cases run
    rfl

theorem u32_local : Local u32 := by
  intro input more n rest run
  match input, run with
  | _ :: _ :: _ :: _ :: _, run =>
    cases run
    rfl

theorem digest_local : Local digest := by
  intro input more d rest run
  unfold digest at run ⊢
  split at run
  · next enough =>
    cases run
    rw [dif_pos (by rw [List.length_append]; omega)]
    simp only [List.take_append_of_le_length enough, List.drop_append_of_le_length enough]
  · cases run

theorem u64_local : Local u64 := u32_local.bind fun _ => u32_local.bind fun _ => .pure _

theorem i64_local : Local i64 := u64_local.bind fun _ => .pure _

theorem flag_local : Local flag := u8_local.bind fun _ => .check (.pure _)

theorem text_local (maxBytes : Nat) : Local (text maxBytes) :=
  u32_local.bind fun _ => .check ((take_local _).bind fun _ => .pure _)

theorem generation_local : Local generation := u64_local.bind fun _ => .pure _

theorem epoch_local : Local epoch := u64_local.bind fun _ => .pure _

theorem schema_local : Local schema := u32_local.bind fun _ => u32_local.bind fun _ => .pure _

theorem incarnation_local : Local incarnation :=
  u64_local.bind fun _ => (text_local _).bind fun _ => .pure _

theorem run_count {bound n : Nat} (within : n ≤ bound) (bounded : bound < span)
    (rest : List UInt8) : count bound (Canonical.count n ++ rest) = .ok (n, rest) := by
  have word : (UInt32.ofNat n).toNat = n :=
    UInt32.toNat_ofNat_of_lt' (Nat.lt_of_le_of_lt within bounded)
  rw [count, Canonical.count, run_bind (run_u32 _ _), word, decide_eq_true within]
  rfl

end CanonicalReader

open CanonicalReader

theorem readEnum_local {α : Type} [Enumeration α] : Local (readEnum α) :=
  u8_local.bind fun _ => .check (.pure _)

theorem readIdentifier_local : Local readIdentifier :=
  (text_local _).bind fun _ => .check (.pure _)

theorem readStrongId_local {tag : IdTag} : Local (readStrongId tag) :=
  readIdentifier_local.bind fun _ => .pure _

theorem readAbsence_local : Local readAbsence := by
  refine (text_local _).bind fun id => ?_
  intro input more _ rest run
  cases empty : id.isEmpty with
  | false =>
    rw [empty] at run
    cases run
  | true =>
    rw [empty] at run
    cases run
    rfl

theorem readKey_local {κ ρ : Type} [Enumeration κ] {absent : ρ} {make : κ → Text → ρ} :
    Local (readKey absent make) :=
  u8_local.bind fun _ => .ite (readAbsence_local.bind fun _ => .pure _)
    (.check (readIdentifier_local.bind fun _ => .pure _))

theorem readSourceRef_local : Local readSourceRef :=
  u8_local.bind fun _ => .check <| (text_local _).bind fun _ => .check <|
    generation_local.bind fun _ => digest_local.bind fun _ => .ite (.pure _) (.pure _)

theorem readCapacityValue_local : Local readCapacityValue :=
  flag_local.bind fun _ => u64_local.bind fun _ => .check <| .check <| .pure _

theorem readCapacity_local : Local readCapacity :=
  readCapacityValue_local.bind fun _ => readCapacityValue_local.bind fun _ =>
    readCapacityValue_local.bind fun _ => .pure _

theorem readEvidence_local : Local readEvidence :=
  readEnum_local.bind fun _ => i64_local.bind fun _ => u64_local.bind fun _ => .check <|
    digest_local.bind fun _ => .pure _

namespace Codec

open Lib.Codec

theorem lt_span_of_le {n : Nat} (small : n ≤ 8192) : n < span :=
  Nat.lt_of_le_of_lt small (by decide)

theorem identifier_small {n : Nat} (size : n ≤ Limits.maxIdentifierBytes) : n ≤ 255 :=
  size.trans (by decide)

theorem u32_returns : u32.Returns := fun n rest _ => run_u32 n rest

theorem u64_returns : u64.Returns := fun n rest _ => run_u64 n rest

theorem i64_returns : i64.Returns :=
  .of_local i64_local fun n _ => lt_span_of_le (by simp [i64, fixed, exactly])

theorem flag_returns : flag.Returns :=
  .of_local flag_local fun b _ => lt_span_of_le (by simp [flag, fixed, exactly])

theorem generation_returns : generation.Returns :=
  .of_local generation_local fun g _ => lt_span_of_le (by simp [generation, fixed, exactly])

theorem epoch_returns : epoch.Returns :=
  .of_local epoch_local fun e _ => lt_span_of_le (by simp [epoch, fixed, exactly])

theorem schema_returns : schema.Returns :=
  .of_local schema_local fun v _ => lt_span_of_le (by simp [schema, fixed, exactly])

theorem enum_returns {α : Type} [Enumeration α] : (enum α).Returns :=
  .of_local readEnum_local fun a _ => lt_span_of_le (by simp [enum, fixed, exactly])

theorem text_returns {maxBytes : Nat} (bounded : maxBytes ≤ 4096) : (text maxBytes).Returns := by
  refine .of_local (text_local maxBytes) fun t readable => lt_span_of_le ?_
  have size : t.size ≤ maxBytes := of_decide_eq_true readable
  change (Canonical.text t).length ≤ _
  rw [Canonical.length_text]
  omega

theorem strongId_returns {tag : IdTag} : (strongId tag).Returns := by
  refine .of_local readStrongId_local fun id readable => lt_span_of_le ?_
  have size := identifier_small (size_of_valid (t := id.value) readable)
  change (Canonical.text id.value).length ≤ _
  rw [Canonical.length_text]
  omega

theorem incarnation_returns : incarnation.Returns := by
  refine .of_local incarnation_local fun i readable => lt_span_of_le ?_
  have size : i.boot.value.size ≤ Limits.maxIdentifierBytes := of_decide_eq_true readable
  replace size := identifier_small size
  change (Canonical.incarnation i).length ≤ _
  simp only [Canonical.incarnation, List.length_append, Canonical.length_u64,
    Canonical.length_text]
  omega

theorem memberDomainKey_size {key : MemberDomainKey} (readable : key.readable = true) :
    (Canonical.memberDomainKey key).length ≤ 260 := by
  have size : key.id.size ≤ Limits.maxIdentifierBytes := by
    unfold MemberDomainKey.readable at readable
    split at readable
    · rw [(size_of_isEmpty readable).2]
      exact Nat.zero_le _
    · exact size_of_valid readable
  replace size := identifier_small size
  simp only [Canonical.memberDomainKey, List.length_append, Canonical.length_tag,
    Canonical.length_text]
  omega

theorem memberDomainKey_returns : memberDomainKey.Returns :=
  .of_local readKey_local fun _ readable =>
    lt_span_of_le ((memberDomainKey_size readable).trans (by decide))

theorem resourceKey_returns : resourceKey.Returns := by
  refine .of_local readKey_local fun key readable => lt_span_of_le ?_
  have size : key.id.size ≤ Limits.maxIdentifierBytes := by
    replace readable : key.readable = true := readable
    unfold ResourceKey.readable at readable
    split at readable
    · rw [(size_of_isEmpty readable).2]
      exact Nat.zero_le _
    · exact size_of_valid readable
  replace size := identifier_small size
  change (Canonical.resourceKey key).length ≤ _
  simp only [Canonical.resourceKey, List.length_append, Canonical.length_tag,
    Canonical.length_text]
  omega

theorem sourceRef_returns : sourceRef.Returns := by
  refine .of_local readSourceRef_local fun ref readable => lt_span_of_le ?_
  have size := @memberDomainKey_size ref.domain readable
  change (Canonical.sourceRef ref).length ≤ _
  simp only [Canonical.sourceRef, List.length_append, Canonical.length_generation,
    Canonical.length_digest]
  omega

theorem capacity_returns : capacity.Returns :=
  .of_local readCapacity_local fun v _ => lt_span_of_le (by
    change v.write.length ≤ _
    simp only [CapacityVector.write, CapacityValue.write, List.length_append,
      Canonical.length_flag, Canonical.length_u64]
    decide)

theorem evidence_returns : evidence.Returns :=
  .of_local readEvidence_local fun e _ => lt_span_of_le (by
    change e.write.length ≤ _
    simp only [Evidence.write, List.length_append, Canonical.length_tag, Canonical.length_i64,
      Canonical.length_u64, Canonical.length_digest]
    decide)

theorem many_returns {α : Type} {c : Codec α} (returns : c.Returns) (items : List α)
    (rest : List UInt8) (readable : items.all c.readable = true) :
    many c.read items.length (items.flatMap c.write ++ rest) =
      .ok (items.map c.stored, rest) := by
  induction items with
  | nil => rfl
  | cons a items ih =>
    obtain ⟨first, others⟩ := Bool.and_eq_true_iff.mp readable
    rw [List.flatMap_cons, List.append_assoc, List.length_cons, many,
      run_bind (returns a _ first), run_bind (ih others)]
    rfl

theorem list_returns {α : Type} {bound : Nat} {c : Codec α} (returns : c.Returns)
    (bounded : bound < span) : (list bound c).Returns := by
  intro items rest readable
  obtain ⟨within, each⟩ := Bool.and_eq_true_iff.mp readable
  change CanonicalReader.list bound c.read (Canonical.list c.write items ++ rest) = _
  rw [Canonical.list, List.append_assoc, CanonicalReader.list,
    run_bind (run_count (of_decide_eq_true within) bounded _)]
  exact many_returns returns items rest each

theorem optional_returns {α : Type} {c : Codec α} (returns : c.Returns) :
    (optional c).Returns := by
  intro value rest readable
  cases value with
  | none => rfl
  | some a =>
    have present : CanonicalReader.flag (Canonical.flag true ++ (c.write a ++ rest)) =
        .ok (true, c.write a ++ rest) := flag_returns true _ rfl
    change CanonicalReader.optional c.read (Canonical.flag true ++ c.write a ++ rest) = _
    rw [List.append_assoc, CanonicalReader.optional, run_bind present, if_pos rfl,
      run_bind (returns a rest readable)]
    rfl

theorem factors_returns : factors.Returns := by
  intro f rest readable
  have texts : f.items.map (text Limits.maxTextBytes).stored = f.items := List.map_id' _
  have read : CanonicalReader.list (Limits.maxFactors + 1) (CanonicalReader.text Limits.maxTextBytes)
      (Canonical.factors f ++ rest) = .ok (f.items.map (text Limits.maxTextBytes).stored, rest) :=
    list_returns (text_returns (Nat.le_refl _)) (by decide) f.items rest readable
  change readFactors (Canonical.factors f ++ rest) = _
  rw [readFactors, run_bind read, texts]
  rfl

theorem sourceSet_returns : sourceSet.Returns := by
  intro s rest readable
  have read : CanonicalReader.list (Limits.maxDecisionSources + 1) readSourceRef
      (Canonical.sourceSet s ++ rest) = .ok (s.items.map SourceRef.stored, rest) :=
    list_returns sourceRef_returns (by decide) s.items rest readable
  change readSourceSet (Canonical.sourceSet s ++ rest) = _
  rw [readSourceSet, run_bind read]
  rfl

theorem rackClaim_returns : rackClaim.Returns :=
  .record <| strongId_returns.and <| generation_returns.and <| capacity_returns.and <|
    enum_returns.and evidence_returns

theorem podClaim_returns : podClaim.Returns :=
  .record <| strongId_returns.and <| generation_returns.and <|
    (list_returns strongId_returns (by decide)).and evidence_returns

theorem clusterClaim_returns : clusterClaim.Returns :=
  .record <| strongId_returns.and <| generation_returns.and <|
    (list_returns strongId_returns (by decide)).and <|
    (list_returns strongId_returns (by decide)).and evidence_returns

theorem sharedLinkClaim_returns : sharedLinkClaim.Returns :=
  .record <| strongId_returns.and <| flag_returns.and <| generation_returns.and <|
    capacity_returns.and <| enum_returns.and evidence_returns

theorem gatewayClaim_returns : gatewayClaim.Returns :=
  .record <| strongId_returns.and <| generation_returns.and <| capacity_returns.and <|
    enum_returns.and evidence_returns

theorem capacityContribution_returns : capacityContribution.Returns :=
  .record <| resourceKey_returns.and <| enum_returns.and <| generation_returns.and <|
    capacity_returns.and evidence_returns

theorem failureDomainClaim_returns : failureDomainClaim.Returns :=
  .record <| strongId_returns.and <| enum_returns.and <| (optional_returns strongId_returns).and <|
    (list_returns resourceKey_returns (by decide)).and <| generation_returns.and evidence_returns

theorem maintenanceZone_returns : maintenanceZone.Returns :=
  .record <| strongId_returns.and <| enum_returns.and <| i64_returns.and <| i64_returns.and <|
    (list_returns strongId_returns (by decide)).and <|
    (list_returns resourceKey_returns (by decide)).and <| generation_returns.and evidence_returns

theorem protectedObligation_returns : protectedObligation.Returns :=
  .record <| strongId_returns.and <| enum_returns.and <| (optional_returns strongId_returns).and <|
    (optional_returns resourceKey_returns).and <| u64_returns.and <| flag_returns.and <|
    generation_returns.and evidence_returns

theorem declaration_returns : declaration.Returns :=
  .record <| memberDomainKey_returns.and <| strongId_returns.and <| generation_returns.and <|
    schema_returns.and <| epoch_returns.and <| evidence_returns.and <|
    (list_returns clusterClaim_returns (by decide)).and <|
    (list_returns podClaim_returns (by decide)).and <|
    (list_returns rackClaim_returns (by decide)).and <|
    (list_returns sharedLinkClaim_returns (by decide)).and <|
    (list_returns gatewayClaim_returns (by decide)).and <|
    (list_returns capacityContribution_returns (by decide)).and <|
    (list_returns failureDomainClaim_returns (by decide)).and <|
    (list_returns maintenanceZone_returns (by decide)).and
    (list_returns protectedObligation_returns (by decide))

end Codec

end SiteFabric
