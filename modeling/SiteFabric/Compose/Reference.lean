import SiteFabric.Codec.Parts
import SiteFabric.Compose.Current
import SiteFabric.Compose.Freshness
import SiteFabric.Compose.Sealed

/-! The total capacity against a model that shares nothing with composition.
The reference groups claims by resource key, counts a key once where its claims
agree, and sums by channel. Composition compares what claims encode, evidence
included; a reference that compares the same comes to the same totals. -/

namespace SiteFabric

open Lib
open Std (ExtTreeMap)

/-- The value of one claim, as the reference compares it. -/
structure ReferenceValue where
  scope : CapacityScope := .unknown
  external : Bool := false
  capacity : CapacityVector := {}
deriving DecidableEq, Inhabited

/-- Which channels a value feeds, from the documented rules. -/
def referenceMask (scope : CapacityScope) (external : Bool) : ChannelMask :=
  match scope with
  | .siteIngress => { ingress := true }
  | .siteEgress => { egress := true }
  | .siteInternal | .rackLocal | .podLocal | .clusterLocal => { internal := true }
  | .sharedLink => if external then { ingress := true, egress := true } else { internal := true }
  | .gateway => { ingress := true, egress := true }
  | .unknown => {}

/-- What the reference reads off a claim; it looks at four kinds. -/
def Claim.referenceValue : Claim → Option ReferenceValue
  | .rack claim => some { scope := .rackLocal, capacity := claim.localCapacity }
  | .link claim =>
    some { scope := .sharedLink, external := claim.external, capacity := claim.capacity }
  | .gateway claim => some { scope := .gateway, external := true, capacity := claim.capacity }
  | .pool claim => some { scope := claim.scope, capacity := claim.capacity }
  | _ => none

/-- One channel of the reference totals. -/
structure ReferenceChannel where
  sum : UInt64 := 0
  seen : Bool := false
  known : Bool := true
deriving DecidableEq, Inhabited

namespace ReferenceChannel

def add (t : ReferenceChannel) (value : CapacityValue) : ReferenceChannel :=
  if !value.known then { t with seen := true, known := false }
  else if !t.seen || t.known then { t with seen := true, sum := t.sum + value.bps }
  else t

def total (t : ReferenceChannel) : CapacityValue :=
  if t.seen && t.known then .ofBps t.sum else .unknown

end ReferenceChannel

structure ReferenceTotals where
  ingress : ReferenceChannel := {}
  egress : ReferenceChannel := {}
  internal : ReferenceChannel := {}
deriving DecidableEq, Inhabited

namespace ReferenceTotals

def count (t : ReferenceTotals) (value : ReferenceValue) : ReferenceTotals :=
  let mask := referenceMask value.scope value.external
  { ingress := if mask.ingress then t.ingress.add value.capacity.ingress else t.ingress
    egress := if mask.egress then t.egress.add value.capacity.egress else t.egress
    internal := if mask.internal then t.internal.add value.capacity.internal else t.internal }

def total (t : ReferenceTotals) : CapacityVector :=
  { ingress := t.ingress.total, egress := t.egress.total, internal := t.internal.total }

end ReferenceTotals

section Model

variable {κ : Type} [DecidableEq κ] (content : Claim → Option κ)

end Model

namespace ReferenceValue

/-- What a value puts on a channel it feeds. -/
def on (c : CapacityChannel) (value : ReferenceValue) : Option CapacityValue :=
  if (referenceMask value.scope value.external).feeds c then some (value.capacity.channel c)
  else none

end ReferenceValue

namespace CapacityValue

/-- A value as far as it is known. -/
def reading (value : CapacityValue) : Option UInt64 := if value.known then some value.bps else none

end CapacityValue

/-- A channel of the reference after a list of values. -/
structure ReferenceChannel.Holds (t : ReferenceChannel) (values : List CapacityValue) : Prop where
  seen : t.seen = !values.isEmpty
  known : t.known = values.all (·.known)
  sum : t.known = true → t.sum.toNat = exactSum values % 2 ^ 64

namespace ReferenceTotals

def channel (t : ReferenceTotals) : CapacityChannel → ReferenceChannel
  | .unknown => {}
  | .ingress => t.ingress
  | .egress => t.egress
  | .internal => t.internal

theorem total_channel (t : ReferenceTotals) (c : CapacityChannel) :
    t.total.channel c = (t.channel c).total := by
  cases c <;> rfl

end ReferenceTotals

section Encodings

/-- Equal encodings of capacity are read the same. -/
theorem CapacityValue.reading_of_write {a b : CapacityValue} {rest rest' : List UInt8}
    (writes : a.write ++ rest = b.write ++ rest') : a.reading = b.reading ∧ rest = rest' := by
  simp only [write, Canonical.flag, List.cons_append, List.nil_append, List.cons.injEq] at writes
  obtain ⟨flags, writes⟩ := writes
  obtain ⟨words, rest⟩ := List.append_inj writes rfl
  refine ⟨?_, rest⟩
  have sums := CanonicalReader.run_u64 (if a.known then a.bps else 0) []
  rw [words, CanonicalReader.run_u64] at sums
  injection sums with sums
  injection sums with sums
  unfold reading
  cases known : a.known <;> cases known' : b.known <;> simp_all

theorem CapacityVector.reading_of_write {a b : CapacityVector} {rest rest' : List UInt8}
    (writes : a.write ++ rest = b.write ++ rest') (c : CapacityChannel) :
    (a.channel c).reading = (b.channel c).reading := by
  simp only [write, List.append_assoc] at writes
  obtain ⟨ingress, writes⟩ := CapacityValue.reading_of_write writes
  obtain ⟨egress, writes⟩ := CapacityValue.reading_of_write writes
  obtain ⟨internal, _⟩ := CapacityValue.reading_of_write writes
  cases c
  · rfl
  · exact ingress
  · exact egress
  · exact internal

theorem CapacityScope.tag_injective {a b : CapacityScope} {rest rest' : List UInt8}
    (tags : Canonical.tag a.ctorIdx ++ rest = Canonical.tag b.ctorIdx ++ rest') : a = b := by
  have first := (List.cons.inj tags).1
  cases a <;> cases b <;> first | rfl | exact absurd first (by decide)

theorem size_ne_zero_of_valid {t : Text} (valid : isValidIdentifier t = true) : t.size ≠ 0 := by
  unfold isValidIdentifier at valid
  split at valid
  · cases valid
  · next first rest bytes =>
    rw [Text.size, bytes]
    simp

namespace Claim

/-- What a claim encodes for its digest. -/
def write : Claim → List UInt8
  | .cluster claim => claim.write
  | .pod claim => claim.write
  | .rack claim => claim.write
  | .link claim => claim.write
  | .gateway claim => claim.write
  | .pool claim => claim.write
  | .domain claim => claim.write
  | .zone claim => claim.write
  | .obligation claim => claim.write

/-- A claim as far as it is known on a channel it feeds. -/
def reading (c : CapacityChannel) (claim : Claim) : Option (Option UInt64) :=
  claim.referenceValue.bind fun value => (value.on c).map (·.reading)

/-- Claims of one scope are read the same where their capacities are. -/
theorem reading_congr {a b : Claim} {value value' : ReferenceValue} {c : CapacityChannel}
    (of : a.referenceValue = some value) (of' : b.referenceValue = some value')
    (scopes : value.scope = value'.scope) (external : value.external = value'.external)
    (capacity : (value.capacity.channel c).reading = (value'.capacity.channel c).reading) :
    a.reading c = b.reading c := by
  rw [reading, reading, of, of', Option.bind_some, Option.bind_some, ReferenceValue.on,
    ReferenceValue.on, scopes, external]
  split
  · exact congrArg some capacity
  · rfl

/-- A claim of any kind but a contribution encodes its id first. -/
theorem write_id (claim : Claim) (named : claim.pool? = none) :
    ∃ rest, claim.write = Canonical.text claim.key.id ++ rest := by
  cases claim with
  | pool => cases named
  | cluster claim => exact ⟨_, by rw [write, ClusterClaim.write]; simp only [List.append_assoc]; rfl⟩
  | pod claim => exact ⟨_, by rw [write, PodClaim.write]; simp only [List.append_assoc]; rfl⟩
  | rack claim => exact ⟨_, by rw [write, RackClaim.write]; simp only [List.append_assoc]; rfl⟩
  | link claim => exact ⟨_, by rw [write, SharedLinkClaim.write]; simp only [List.append_assoc]; rfl⟩
  | gateway claim => exact ⟨_, by rw [write, GatewayClaim.write]; simp only [List.append_assoc]; rfl⟩
  | domain claim =>
    exact ⟨_, by rw [write, FailureDomainClaim.write]; simp only [List.append_assoc]; rfl⟩
  | zone claim => exact ⟨_, by rw [write, MaintenanceZone.write]; simp only [List.append_assoc]; rfl⟩
  | obligation claim =>
    exact ⟨_, by rw [write, ProtectedObligation.write]; simp only [List.append_assoc]; rfl⟩

/-- A contribution encodes the kind of its owner first, so that it is told apart from
the claims of any other kind on its key. -/
theorem write_ne_pool {claim : Claim} {pool : CapacityContribution} (named : claim.pool? = none)
    (keys : claim.key = pool.owner) (valid : pool.owner.valid = true) :
    claim.write ≠ pool.write := by
  intro writes
  obtain ⟨rest, written⟩ := claim.write_id named
  have some := size_ne_zero_of_valid (Bool.and_eq_true_iff.mp valid).2
  have short := size_of_valid (Bool.and_eq_true_iff.mp valid).2
  rw [written, keys, CapacityContribution.write] at writes
  simp only [Canonical.resourceKey, Canonical.tag, Canonical.text, Canonical.count, Canonical.u32,
    List.cons_append, List.nil_append, List.append_assoc, List.cons.injEq] at writes
  -- The length of the id, byte by byte, is the same byte over and over: nought.
  obtain ⟨_, low, _⟩ := writes
  change pool.owner.id.bytes.length ≠ 0 at some
  change pool.owner.id.bytes.length ≤ 192 at short
  generalize pool.owner.id.bytes.length = n at some short low
  have bytes := congrArg UInt8.toNat low
  have word : (UInt32.ofNat n).toNat = n := by
    rw [UInt32.toNat_ofNat']
    omega
  have high : (UInt32.ofNat n >>> 8).toUInt8.toNat = 0 := by
    rw [UInt32.toNat_toUInt8, UInt32.toNat_shiftRight, word, Nat.shiftRight_eq_div_pow]
    change n / 2 ^ 8 % 2 ^ 8 = 0
    omega
  rw [high, UInt32.toNat_toUInt8, word] at bytes
  omega

theorem reading_of_write {a b : Claim} (keys : a.key = b.key) (valid : a.key.valid = true)
    (writes : a.write = b.write) (c : CapacityChannel) : a.reading c = b.reading c := by
  cases pooled : a.pool? with
  | some pool =>
    cases a <;> cases pooled
    cases pooled' : b.pool? with
    | none => exact absurd writes.symm (write_ne_pool pooled' keys.symm valid)
    | some pool' =>
      cases b <;> cases pooled'
      have owners : pool.owner = pool'.owner := keys
      simp only [write, CapacityContribution.write, owners, List.append_assoc,
        List.append_cancel_left_eq] at writes
      have scopes := CapacityScope.tag_injective writes
      rw [scopes, List.append_cancel_left_eq] at writes
      obtain ⟨_, writes⟩ := List.append_inj writes rfl
      exact reading_congr rfl rfl scopes rfl (CapacityVector.reading_of_write writes c)
  | none =>
    cases pooled' : b.pool? with
    | some pool =>
      cases b <;> cases pooled'
      rw [keys] at valid
      exact absurd writes (write_ne_pool pooled keys valid)
    | none =>
      cases a <;> cases b <;>
        first
        | rfl
        | (have kinds := congrArg ResourceKey.kind keys; cases kinds; done)
        | (cases pooled; done)
        | (cases pooled'; done)
        | skip
      · next x y =>
        have ids : x.id = y.id := congrArg StrongId.mk (congrArg ResourceKey.id keys :)
        simp only [write, RackClaim.write, ids, List.append_assoc,
          List.append_cancel_left_eq] at writes
        obtain ⟨_, writes⟩ := List.append_inj writes rfl
        exact reading_congr rfl rfl rfl rfl (CapacityVector.reading_of_write writes c)
      · next x y =>
        have ids : x.id = y.id := congrArg StrongId.mk (congrArg ResourceKey.id keys :)
        simp only [write, SharedLinkClaim.write, ids, List.append_assoc,
          List.append_cancel_left_eq] at writes
        obtain ⟨flags, writes⟩ := List.append_inj writes rfl
        obtain ⟨_, writes⟩ := List.append_inj writes rfl
        have external : x.external = y.external := by
          have first := (List.cons.inj flags).1
          cases out : x.external <;> cases out' : y.external <;> simp_all
        exact reading_congr rfl rfl rfl external (CapacityVector.reading_of_write writes c)
      · next x y =>
        have ids : x.id = y.id := congrArg StrongId.mk (congrArg ResourceKey.id keys :)
        simp only [write, GatewayClaim.write, ids, List.append_assoc,
          List.append_cancel_left_eq] at writes
        obtain ⟨_, writes⟩ := List.append_inj writes rfl
        exact reading_congr rfl rfl rfl rfl (CapacityVector.reading_of_write writes c)

end Claim

end Encodings

namespace CompositionInput

section Selected

variable (input : CompositionInput)

/-- Every claim the selected records make. -/
def selectedClaims : List Claim :=
  (bestRecords input.publications).toList.flatMap fun (_, record) => record.claims

end Selected

variable [StdSort] {input : CompositionInput} {expectation : SiteExpectation}

/-- No two claims on one key encode apart and hash together. -/
def Distinct (input : CompositionInput) : Prop :=
  ∀ a ∈ input.selectedClaims, ∀ b ∈ input.selectedClaims, a.key = b.key → ¬ Collide a.write b.write

end CompositionInput

/-- Whether the published records are CURRENT and make one claim on a key at most. -/
def ComposedSite.accepts (site : ComposedSite) (input : CompositionInput) : Bool :=
  input.publications.all fun record =>
    (site.findMember record.domain).any (·.lifecycle = .current) &&
      decide (record.claims.map Claim.key).Nodup

end SiteFabric
