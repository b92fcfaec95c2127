import SiteFabric.Core.Identity

/-! Generations, epochs, incarnations, digests and provenance edges.
Counters are the source's fixed-width words: `UInt64` addition wraps, and
comparisons are unsigned. -/

namespace SiteFabric

/-- A monotonic per-record version; zero means never set. -/
structure Generation where
  value : UInt64 := 0
deriving DecidableEq, Inhabited

namespace Generation

def unset : Generation := ⟨0⟩

def isSet (g : Generation) : Bool := g.value != 0

def isUnset (g : Generation) : Bool := g.value == 0

def initial : Generation := ⟨1⟩

/-- The last generation is its own successor. -/
def next (g : Generation) : Generation := if g.value = 0xFFFFFFFFFFFFFFFF then g else ⟨g.value + 1⟩

theorem next_isSet (g : Generation) : g.next.isSet = true := by
  unfold next
  split
  · next last => simp [isSet, last]
  · next below =>
    simp only [isSet, bne_iff_ne]
    intro wraps
    exact below (by rw [← UInt64.add_sub_cancel g.value 1, wraps]; rfl)

def toText (g : Generation) : Text := decimal g.value.toNat

def rank (g : Generation) : Nat := g.value.toNat

theorem rank_injective : Function.Injective rank := by
  intro a b same
  cases a
  cases b
  simpa [rank, UInt64.toNat_inj] using same

instance : LinearOrder Generation := LinearOrder.lift' rank rank_injective

end Generation

/-- A site term; zero means never set. -/
structure Epoch where
  value : UInt64 := 0
deriving DecidableEq, Inhabited

namespace Epoch

def unset : Epoch := ⟨0⟩

def isSet (e : Epoch) : Bool := e.value != 0

def initial : Epoch := ⟨1⟩

/-- The last epoch is its own successor. -/
def next (e : Epoch) : Epoch := if e.value = 0xFFFFFFFFFFFFFFFF then e else ⟨e.value + 1⟩

def toText (e : Epoch) : Text := decimal e.value.toNat

def rank (e : Epoch) : Nat := e.value.toNat

theorem rank_injective : Function.Injective rank := by
  intro a b same
  cases a
  cases b
  simpa [rank, UInt64.toNat_inj] using same

instance : LinearOrder Epoch := LinearOrder.lift' rank rank_injective

theorem unset_le (e : Epoch) : unset ≤ e := Nat.zero_le e.rank

theorem unset_lt_of_isSet {e : Epoch} (set : e.isSet = true) : unset < e := by
  change (0 : Nat) < e.value.toNat
  have nonzero : e.value ≠ 0 := by simpa [isSet] using set
  have rank : e.value.toNat ≠ 0 := fun zero => nonzero (UInt64.toNat_inj.mp zero)
  omega

theorem isSet_of_unset_lt {e : Epoch} (above : unset < e) : e.isSet = true := by
  have rank : (0 : Nat) < e.value.toNat := above
  simp only [isSet, bne_iff_ne, ne_eq]
  intro zero
  simp [zero] at rank

end Epoch

/-- One process lifetime: an issued sequence and the process's own nonce. -/
structure Incarnation where
  sequence : UInt64 := 0
  boot : BootNonce := {}
deriving DecidableEq, Inhabited

namespace Incarnation

def valid (i : Incarnation) : Bool := i.sequence != 0 && i.boot.valid

def toText (i : Incarnation) : Text := decimal i.sequence.toNat ++ ⟨[slash]⟩ ++ i.boot.value

/-- The rendering is faithful: a sequence has no slash, so the first one ends it. -/
theorem toText_injective : Function.Injective toText := by
  intro a b same
  have bytes := congrArg Text.bytes same
  simp only [toText, Text.bytes_append, List.append_assoc, List.singleton_append] at bytes
  obtain ⟨sequences, boots⟩ := append_slash_inj (slash_notMem_decimal _)
    (slash_notMem_decimal _) bytes
  have sequence : a.sequence = b.sequence := by
    have ranks : a.sequence.toNat = b.sequence.toNat :=
      decimal_injective (by simpa [decimal] using sequences)
    exact UInt64.toNat_inj.mp ranks
  obtain ⟨sa, ⟨⟨ba⟩⟩⟩ := a
  obtain ⟨sb, ⟨⟨bb⟩⟩⟩ := b
  simp_all

end Incarnation

/-- A 256-bit content digest. -/
structure Digest where
  bytes : List UInt8
  size : bytes.length = 32
deriving DecidableEq

namespace Digest

def zero : Digest := ⟨List.replicate 32 0, List.length_replicate⟩

instance : Inhabited Digest := ⟨zero⟩

def isZero (d : Digest) : Bool := d.bytes.all (· == 0)

def hexDigit (n : UInt8) : UInt8 := if n < 10 then 48 + n else 87 + n

def toHex (bytes : List UInt8) : Text :=
  ⟨bytes.flatMap fun (b : UInt8) => [hexDigit (b >>> 4), hexDigit (b &&& 15)]⟩

def toText (d : Digest) : Text := toHex d.bytes

def shortHex (d : Digest) : Text := ⟨d.toText.bytes.take 16⟩

def rank (d : Digest) : List Nat := d.bytes.map UInt8.toNat

theorem rank_injective : Function.Injective rank := by
  intro a b same
  have bytes : a.bytes = b.bytes :=
    List.map_injective_iff.mpr (fun _ _ equal => UInt8.toNat_inj.mp equal) same
  cases a
  cases b
  simpa using bytes

instance : LinearOrder Digest := LinearOrder.lift' rank rank_injective

end Digest

structure SchemaVersion where
  major : UInt32 := 0
  minor : UInt32 := 0
deriving DecidableEq, Inhabited

namespace SchemaVersion

/-- The schema this build writes: `kModelSchemaMajor`, `kModelSchemaMinor`. -/
def model : SchemaVersion := ⟨1, 0⟩

def compatibleWith (v supported : SchemaVersion) : Bool :=
  v.major == supported.major && decide (v.minor ≤ supported.minor)

def toText (v : SchemaVersion) : Text := decimal v.major.toNat ++ ascii "." ++ decimal v.minor.toNat

end SchemaVersion

/-- A publisher's delivery counter: a sequence, and the attempt within it. -/
structure PublishAttempt where
  sequence : UInt64 := 0
  attempt : UInt32 := 0
deriving DecidableEq, Inhabited

namespace PublishAttempt

def valid (a : PublishAttempt) : Bool := a.sequence != 0

def rank (a : PublishAttempt) : Nat ×ₗ Nat := toLex (a.sequence.toNat, a.attempt.toNat)

theorem rank_injective : Function.Injective rank := by
  intro a b same
  cases a
  cases b
  simpa [rank, UInt64.toNat_inj, UInt32.toNat_inj] using same

instance : LinearOrder PublishAttempt := LinearOrder.lift' rank rank_injective

end PublishAttempt

/-- An exact provenance edge: this domain, at this generation, with this digest. -/
structure SourceRef where
  domain : MemberDomainKey := {}
  generation : Generation := {}
  digest : Digest := Digest.zero
deriving DecidableEq, Inhabited

namespace SourceRef

def valid (r : SourceRef) : Bool := r.domain.valid && r.generation.isSet && !r.digest.isZero

def rank (r : SourceRef) : MemberDomainKey ×ₗ (Generation ×ₗ Digest) :=
  toLex (r.domain, toLex (r.generation, r.digest))

theorem rank_injective : Function.Injective rank := by
  intro a b same
  cases a
  cases b
  simpa [rank] using same

instance : LinearOrder SourceRef := LinearOrder.lift' rank rank_injective

end SourceRef

namespace Limits

def maxDecisionSources : Nat := 4096

end Limits

/-- A sorted, de-duplicated, bounded set of provenance edges. -/
structure SourceSet where
  items : List SourceRef := []
  truncated : Bool := false
  dropped : Nat := 0
deriving DecidableEq, Inhabited

namespace SourceSet

/-- The position is the one `std::lower_bound` returns on a sorted list. -/
def insert (s : SourceSet) (ref : SourceRef) : SourceSet :=
  let before := s.items.takeWhile (· < ref)
  let after := s.items.dropWhile (· < ref)
  if after.head? = some ref then s
  else if s.items.length ≥ Limits.maxDecisionSources then
    { s with truncated := true, dropped := s.dropped + 1 }
  else { s with items := before ++ ref :: after }

def insertSet (s other : SourceSet) : SourceSet :=
  let merged := other.items.foldl insert s
  if other.truncated then
    { merged with truncated := true, dropped := merged.dropped + other.dropped }
  else merged

def size (s : SourceSet) : Nat := s.items.length

end SourceSet

end SiteFabric
