import SiteFabric.Core.Sha256

/-! The canonical encoding.
A writer appends bytes to a buffer, so an encoder is the bytes it appends and a
sequence of writes is their concatenation. Integers are little-endian, text and
collections carry a 32-bit length. -/

namespace SiteFabric.Canonical

def u32 (n : UInt32) : List UInt8 :=
  [n.toUInt8, (n >>> 8).toUInt8, (n >>> 16).toUInt8, (n >>> 24).toUInt8]

def u64 (n : UInt64) : List UInt8 := u32 n.toUInt32 ++ u32 (n >>> 32).toUInt32

def i64 (n : Int64) : List UInt8 := u64 n.toUInt64

def flag (b : Bool) : List UInt8 := [if b then 1 else 0]

/-- The value of an enumeration, cast to one byte. -/
def tag (n : Nat) : List UInt8 := [UInt8.ofNat n]

def count (n : Nat) : List UInt8 := u32 (UInt32.ofNat n)

def text (t : Text) : List UInt8 := count t.bytes.length ++ t.bytes

def digest (d : Digest) : List UInt8 := d.bytes

def generation (g : Generation) : List UInt8 := u64 g.value

def epoch (e : Epoch) : List UInt8 := u64 e.value

def schema (v : SchemaVersion) : List UInt8 := u32 v.major ++ u32 v.minor

def incarnation (i : Incarnation) : List UInt8 := u64 i.sequence ++ text i.boot.value

/-- A collection: its size, then its members. -/
def list {α : Type} (write : α → List UInt8) (items : List α) : List UInt8 :=
  count items.length ++ items.flatMap write

def optional {α : Type} (write : α → List UInt8) : Option α → List UInt8
  | none => flag false
  | some a => flag true ++ write a

def memberDomainKey (key : MemberDomainKey) : List UInt8 := tag key.kind.ctorIdx ++ text key.id

def resourceKey (key : ResourceKey) : List UInt8 := tag key.kind.ctorIdx ++ text key.id

def sourceRef (r : SourceRef) : List UInt8 :=
  memberDomainKey r.domain ++ generation r.generation ++ digest r.digest

def sourceSet (s : SourceSet) : List UInt8 := list sourceRef s.items

def factors (f : Factors) : List UInt8 := list text f.items

@[simp] theorem length_u32 (n : UInt32) : (u32 n).length = 4 := rfl

@[simp] theorem length_u64 (n : UInt64) : (u64 n).length = 8 := rfl

@[simp] theorem length_i64 (n : Int64) : (i64 n).length = 8 := rfl

@[simp] theorem length_flag (b : Bool) : (flag b).length = 1 := rfl

@[simp] theorem length_tag (n : Nat) : (tag n).length = 1 := rfl

@[simp] theorem length_count (n : Nat) : (count n).length = 4 := rfl

@[simp] theorem length_digest (d : Digest) : (digest d).length = 32 := d.size

@[simp] theorem length_generation (g : Generation) : (generation g).length = 8 := rfl

@[simp] theorem length_epoch (e : Epoch) : (epoch e).length = 8 := rfl

@[simp] theorem length_schema (v : SchemaVersion) : (schema v).length = 8 := rfl

@[simp] theorem length_text (t : Text) : (text t).length = 4 + t.size := by
  simp [text, Text.size]

theorem length_text_pos (t : Text) : 0 < (text t).length := by
  rw [length_text]
  omega

@[simp] theorem length_list {α : Type} (write : α → List UInt8) (items : List α) :
    (list write items).length = 4 + (items.flatMap write).length := by
  rw [list, List.length_append, length_count]

end SiteFabric.Canonical
