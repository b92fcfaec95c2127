import SiteFabric.Core.Claims
import SiteFabric.Lib.Codec

/-! The canonical reader, and the primitives every decoder shares.
A short buffer is TRUNCATED, a length above its bound LIMIT_EXCEEDED, and an
unknown enumeration value or an illegal identity MALFORMED. A length is written
in 32 bits, so reading back is about payloads below that span. -/

namespace SiteFabric

open Lib Lib.Reader

namespace Limits

def maxTextBytes : Nat := 4096

end Limits

/-- The statuses a decoder refuses with. -/
inductive Fault where
  | truncated | limitExceeded | malformed | unsupported
deriving DecidableEq

def Fault.status : Fault → Status
  | .truncated => .truncated
  | .limitExceeded => .limitExceeded
  | .malformed => .malformed
  | .unsupported => .unsupported

abbrev Decoder (α : Type) := Reader Fault α

/-- What a 32-bit length can count. -/
def span : Nat := 2 ^ 32

namespace CanonicalReader

def take (n : Nat) : Decoder (List UInt8) := fun input =>
  if input.length < n then .error .truncated else .ok (input.take n, input.drop n)

def u8 : Decoder UInt8
  | b :: rest => .ok (b, rest)
  | [] => .error .truncated

def u32 : Decoder UInt32
  | b0 :: b1 :: b2 :: b3 :: rest =>
    .ok (b0.toUInt32 ||| b1.toUInt32 <<< 8 ||| b2.toUInt32 <<< 16 ||| b3.toUInt32 <<< 24, rest)
  | _ => .error .truncated

/-- Eight bytes are asked for at once, so a short buffer is left as it was. -/
def u64 : Decoder UInt64 := do
  let low ← u32
  let high ← u32
  return low.toUInt64 ||| high.toUInt64 <<< 32

def i64 : Decoder Int64 := do
  let raw ← u64
  return raw.toInt64

def flag : Decoder Bool := do
  let value ← u8
  check (decide (value ≤ 1)) .malformed
  return value == 1

def text (maxBytes : Nat) : Decoder Text := do
  let length ← u32
  check (decide (length.toNat ≤ maxBytes)) .limitExceeded
  let bytes ← take length.toNat
  return ⟨bytes⟩

def digest : Decoder Digest := fun input =>
  if fits : 32 ≤ input.length then
    .ok (⟨input.take 32, by rw [List.length_take]; omega⟩, input.drop 32)
  else .error .truncated

def generation : Decoder Generation := do return ⟨← u64⟩

def epoch : Decoder Epoch := do return ⟨← u64⟩

def schema : Decoder SchemaVersion := do
  let major ← u32
  let minor ← u32
  return { major, minor }

def incarnation : Decoder Incarnation := do
  let sequence ← u64
  let boot ← text Limits.maxIdentifierBytes
  return { sequence, boot := ⟨boot⟩ }

def count (bound : Nat) : Decoder Nat := do
  let value ← u32
  check (decide (value.toNat ≤ bound)) .limitExceeded
  return value.toNat

/-- A count, then that many values. -/
def list {α : Type} (bound : Nat) (read : Decoder α) : Decoder (List α) := do
  let n ← count bound
  many read n

def optional {α : Type} (read : Decoder α) : Decoder (Option α) := do
  let present ← flag
  if present then return some (← read) else return none

/-- Nothing may follow the last field. -/
def finish : Decoder Unit := fun input =>
  if input.isEmpty then .ok ((), input) else .error .malformed

theorem u32_bytes (n : UInt32) :
    n.toUInt8.toUInt32 ||| (n >>> 8).toUInt8.toUInt32 <<< 8 |||
      (n >>> 16).toUInt8.toUInt32 <<< 16 ||| (n >>> 24).toUInt8.toUInt32 <<< 24 = n := by
  apply UInt32.eq_of_toBitVec_eq
  ext i bounded
  simp only [UInt32.toBitVec_or, UInt32.toBitVec_shiftLeft, UInt8.toBitVec_toUInt32,
    UInt32.toBitVec_toUInt8, UInt32.toBitVec_shiftRight]
  simp
  grind

theorem u64_words (n : UInt64) :
    n.toUInt32.toUInt64 ||| (n >>> 32).toUInt32.toUInt64 <<< 32 = n := by
  apply UInt64.toNat_inj.mp
  have bound := n.toNat_lt
  have low : n.toUInt32.toNat = n.toNat % 2 ^ 32 := UInt64.toNat_toUInt32 n
  have high : (n >>> 32).toUInt32.toNat = n.toNat / 2 ^ 32 := by
    rw [UInt64.toNat_toUInt32, UInt64.toNat_shiftRight, Nat.shiftRight_eq_div_pow]
    change n.toNat / 2 ^ 32 % 2 ^ 32 = _
    omega
  rw [UInt64.toNat_or, UInt64.toNat_shiftLeft, UInt32.toNat_toUInt64, UInt32.toNat_toUInt64,
    low, high]
  change n.toNat % 2 ^ 32 ||| (n.toNat / 2 ^ 32) <<< 32 % 2 ^ 64 = _
  have shifted : (n.toNat / 2 ^ 32) <<< 32 % 2 ^ 64 = (n.toNat / 2 ^ 32) <<< 32 := by
    rw [Nat.shiftLeft_eq]
    omega
  rw [shifted, Nat.or_comm, ← Nat.shiftLeft_add_eq_or_of_lt (by omega), Nat.shiftLeft_eq]
  omega

@[simp] theorem run_u32 (n : UInt32) (rest : List UInt8) :
    u32 (Canonical.u32 n ++ rest) = .ok (n, rest) := by
  simp only [Canonical.u32, List.cons_append, List.nil_append, u32, u32_bytes]

@[simp] theorem run_u64 (n : UInt64) (rest : List UInt8) :
    u64 (Canonical.u64 n ++ rest) = .ok (n, rest) := by
  rw [Canonical.u64, List.append_assoc, u64, run_bind (run_u32 _ _), run_bind (run_u32 _ _),
    u64_words]
  rfl

theorem run_take (bytes rest : List UInt8) :
    take bytes.length (bytes ++ rest) = .ok (bytes, rest) := by
  simp [take]

@[simp] theorem run_digest (d : Digest) (rest : List UInt8) :
    digest (Canonical.digest d ++ rest) = .ok (d, rest) := by
  have size := d.size
  have fits : 32 ≤ (Canonical.digest d ++ rest).length := by
    simp [Canonical.digest, size]
  rw [digest, dif_pos fits]
  simp only [Canonical.digest, ← size, List.take_left, List.drop_left]

theorem u64_reads : Reads span u64 Canonical.u64 (fun _ => true) fun a => a :=
  fun n rest => .of_eq (run_u64 n rest)

theorem u32_reads : Reads span u32 Canonical.u32 (fun _ => true) fun a => a :=
  fun n rest => .of_eq (run_u32 n rest)

theorem digest_reads : Reads span digest Canonical.digest (fun _ => true) fun a => a :=
  fun d rest => .of_eq (run_digest d rest)

theorem i64_reads : Reads span i64 Canonical.i64 (fun _ => true) fun a => a := by
  intro n rest
  refine .of_eq ?_
  rw [i64, Canonical.i64, run_bind (run_u64 _ _), Int64.toInt64_toUInt64]
  rfl

theorem flag_reads : Reads span flag Canonical.flag (fun _ => true) fun a => a := by
  intro b rest
  refine .of_eq ?_
  cases b <;> rfl

theorem generation_reads :
    Reads span generation Canonical.generation (fun _ => true) fun a => a := by
  intro g rest
  refine .of_eq ?_
  rw [generation, Canonical.generation, run_bind (run_u64 _ _)]
  rfl

theorem epoch_reads : Reads span epoch Canonical.epoch (fun _ => true) fun a => a := by
  intro e rest
  refine .of_eq ?_
  rw [epoch, Canonical.epoch, run_bind (run_u64 _ _)]
  rfl

theorem schema_reads : Reads span schema Canonical.schema (fun _ => true) fun a => a := by
  intro v rest
  refine .of_eq ?_
  rw [schema, Canonical.schema, List.append_assoc, run_bind (run_u32 _ _),
    run_bind (run_u32 _ _)]
  rfl

/-- A count that fits its word is read back unless it is above the bound. -/
theorem count_runs (bound n : Nat) (rest : List UInt8) (short : n < span) :
    Runs span (count bound) (Canonical.count n ++ rest) (decide (n ≤ bound)) n rest := by
  have word : (UInt32.ofNat n).toNat = n := UInt32.toNat_ofNat_of_lt' short
  have runs : Runs span (count bound) (Canonical.count n ++ rest)
      (true && (decide ((UInt32.ofNat n).toNat ≤ bound) && true)) (UInt32.ofNat n).toNat rest :=
    .bind (u32_reads (UInt32.ofNat n) rest) (.check (.pure _ rest))
  simpa only [word, Bool.true_and, Bool.and_true] using runs

theorem text_reads (maxBytes : Nat) :
    Reads span (text maxBytes) Canonical.text (fun t => decide (t.size ≤ maxBytes))
      fun a => a := by
  intro t rest
  refine Runs.of_short fun short => ?_
  have fits : t.bytes.length < span := by
    simp only [Canonical.text, List.length_append] at short
    omega
  have word : (UInt32.ofNat t.bytes.length).toNat = t.size := UInt32.toNat_ofNat_of_lt' fits
  have runs : Runs span (text maxBytes) (Canonical.count t.bytes.length ++ (t.bytes ++ rest))
      (true && (decide ((UInt32.ofNat t.bytes.length).toNat ≤ maxBytes) && (true && true)))
      t rest := by
    refine .bind (u32_reads (UInt32.ofNat t.bytes.length) _) (.check (.bind ?_ (.pure _ rest)))
    rw [word]
    exact .of_eq (run_take t.bytes rest)
  rw [Canonical.text, List.append_assoc]
  simpa only [word, Bool.true_and, Bool.and_true] using runs

theorem incarnation_reads :
    Reads span incarnation Canonical.incarnation
      (fun i => decide (i.boot.value.size ≤ Limits.maxIdentifierBytes)) fun a => a := by
  intro i rest
  simp only [Canonical.incarnation, List.append_assoc]
  refine Runs.congr (.bind (u64_reads _ _) (.bind (text_reads _ _ _) (.pure _ _))) ?_
  simp only [Bool.true_and, Bool.and_true]

theorem length_le_flatMap {α : Type} {write : α → List UInt8} (solid : ∀ a, 0 < (write a).length)
    (items : List α) : items.length ≤ (items.flatMap write).length := by
  induction items with
  | nil => exact Nat.zero_le _
  | cons a items ih =>
    have one := solid a
    simp only [List.length_cons, List.flatMap_cons, List.length_append]
    omega

theorem list_reads {α : Type} {read : Decoder α} {write : α → List UInt8} {readable : α → Bool}
    {stored : α → α} (bound : Nat) (reads : Reads span read write readable stored)
    (solid : ∀ a, 0 < (write a).length) :
    Reads span (list bound read) (Canonical.list write)
      (fun items => decide (items.length ≤ bound) && items.all readable)
      (List.map stored) := by
  intro items rest
  refine Runs.of_short fun short => ?_
  have fits : items.length < span := by
    have most := length_le_flatMap solid items
    simp only [Canonical.list, List.length_append] at short
    omega
  rw [Canonical.list, List.append_assoc]
  exact .bind (count_runs bound items.length _ fits) (reads.many items rest)

theorem optional_reads {α : Type} {read : Decoder α} {write : α → List UInt8}
    {readable : α → Bool} {stored : α → α} (reads : Reads span read write readable stored) :
    Reads span (optional read) (Canonical.optional write) (Option.all readable)
      (Option.map stored) := by
  intro value rest
  cases value with
  | none => exact .bind (flag_reads false rest) (.pure _ rest)
  | some a =>
    rw [Canonical.optional, List.append_assoc]
    refine Runs.congr (.bind (flag_reads true _) (.bind (reads a rest) (.pure _ rest))) ?_
    simp only [Bool.true_and, Bool.and_true, Option.all_some]

/-! What the primitives yield can be written again. -/

/-- The primitives that read a fixed number of bytes whatever they hold. -/
theorem u8_keeps : Ensures u8 fun _ used => 1 ≤ used := by
  intro input a rest run
  cases input with
  | nil => cases run
  | cons b input =>
    cases run
    exact ⟨1, by simp [Nat.add_comm], Nat.le_refl 1⟩

theorem u32_keeps : Ensures u32 fun _ used => 4 ≤ used := by
  intro input a rest run
  match input with
  | [] | [_] | [_, _] | [_, _, _] => cases run
  | b0 :: b1 :: b2 :: b3 :: input =>
    cases run
    refine ⟨4, ?_, Nat.le_refl 4⟩
    simp only [List.length_cons]
    omega

theorem u64_keeps : Ensures u64 fun _ used => 8 ≤ used :=
  u32_keeps.bind fun _ _ low => u32_keeps.bind fun _ _ high => .pure (by omega)

theorem take_keeps (n : Nat) : Ensures (take n) fun bytes used => bytes.length = n ∧ used = n := by
  intro input a rest run
  unfold take at run
  split at run
  · cases run
  · next enough =>
    cases run
    refine ⟨n, ?_, ?_, rfl⟩
    · rw [List.length_drop]
      omega
    · rw [List.length_take]
      omega

theorem i64_keeps : Ensures i64 fun _ used => 8 ≤ used :=
  u64_keeps.bind fun _ _ raw => .pure raw

theorem generation_keeps : Ensures generation fun _ used => 8 ≤ used :=
  u64_keeps.bind fun _ _ raw => .pure raw

theorem epoch_keeps : Ensures epoch fun _ used => 8 ≤ used :=
  u64_keeps.bind fun _ _ raw => .pure raw

theorem schema_keeps : Ensures schema fun _ used => 8 ≤ used :=
  u32_keeps.bind fun _ _ major => u32_keeps.bind fun _ _ minor => .pure (by omega)

theorem flag_keeps : Ensures flag fun _ used => 1 ≤ used :=
  u8_keeps.bind fun _ _ value => .check fun _ => .pure value

theorem digest_keeps : Ensures digest fun _ used => 32 ≤ used := by
  intro input a rest run
  unfold digest at run
  split at run
  · next fits =>
    cases run
    refine ⟨32, ?_, Nat.le_refl 32⟩
    rw [List.length_drop]
    omega
  · cases run

theorem text_keeps (maxBytes : Nat) :
    Keeps (text maxBytes) Canonical.text (fun t => decide (t.size ≤ maxBytes)) fun _ => True := by
  refine u32_keeps.bind fun length used four => .check fun within => ?_
  refine (take_keeps length.toNat).bind fun bytes more ⟨size, took⟩ => .pure ⟨?_, trivial, ?_⟩
  · exact decide_eq_true (size.trans_le (of_decide_eq_true within))
  · simp only [Canonical.length_text, Text.size]
    omega

theorem incarnation_keeps :
    Keeps incarnation Canonical.incarnation
      (fun i => decide (i.boot.value.size ≤ Limits.maxIdentifierBytes)) fun _ => True := by
  refine u64_keeps.bind fun sequence used eight => ?_
  refine (text_keeps _).bind fun boot more kept => .pure ⟨kept.readable, trivial, ?_⟩
  have fits := kept.fits
  simp only [Canonical.incarnation, List.length_append, Canonical.length_u64]
  omega

theorem count_keeps (bound : Nat) : Ensures (count bound) fun n used => n ≤ bound ∧ 4 ≤ used :=
  u32_keeps.bind fun _ _ four => .check fun within => .pure ⟨of_decide_eq_true within, four⟩

theorem list_keeps {α : Type} {read : Decoder α} {write : α → List UInt8} {readable : α → Bool}
    {stable : α → Prop} (bound : Nat) (keeps : Keeps read write readable stable) :
    Keeps (list bound read) (Canonical.list write)
      (fun items => decide (items.length ≤ bound) && items.all readable)
      fun items => ∀ a ∈ items, stable a := by
  refine (count_keeps bound).bind fun n used ⟨within, four⟩ => ?_
  refine (keeps.many n).mono fun items more ⟨length, kept⟩ => ⟨?_, kept.stable, ?_⟩
  · rw [length, kept.readable, Bool.and_true]
    exact decide_eq_true within
  · have fits := kept.fits
    simp only [Canonical.length_list]
    omega

theorem optional_keeps {α : Type} {read : Decoder α} {write : α → List UInt8}
    {readable : α → Bool} {stable : α → Prop} (keeps : Keeps read write readable stable) :
    Keeps (optional read) (Canonical.optional write) (Option.all readable)
      fun value => ∀ a ∈ value, stable a := by
  refine flag_keeps.bind fun present used one => ?_
  cases present with
  | false => exact .pure ⟨rfl, by simp, one⟩
  | true =>
    refine Ensures.bind keeps fun a more kept => .pure ⟨kept.readable, ?_, ?_⟩
    · simpa using kept.stable
    · have fits := kept.fits
      simp only [Canonical.optional, List.length_append, Canonical.length_flag]
      omega

end CanonicalReader

abbrev Codec (α : Type) := Lib.Codec Fault span α

namespace Codec

open Lib.Codec

/-- A value of fixed width that any bytes spell. -/
def fixed {α : Type} (size : Nat) (read : Decoder α) (write : α → List UInt8)
    (reads : Reads span read write (fun _ => true) fun a => a)
    (takes : Ensures read fun _ used => size ≤ used) (length : ∀ a, (write a).length = size)
    (solid : 0 < size) : Codec α :=
  exactly read write (fun _ => true) reads
    (Ensures.mono takes fun a _ size => ⟨rfl, trivial, (length a).trans_le size⟩)
    fun a => (length a).symm ▸ solid

def u32 : Codec UInt32 :=
  fixed 4 CanonicalReader.u32 Canonical.u32 CanonicalReader.u32_reads CanonicalReader.u32_keeps
    Canonical.length_u32 (by decide)

def u64 : Codec UInt64 :=
  fixed 8 CanonicalReader.u64 Canonical.u64 CanonicalReader.u64_reads CanonicalReader.u64_keeps
    Canonical.length_u64 (by decide)

def i64 : Codec Int64 :=
  fixed 8 CanonicalReader.i64 Canonical.i64 CanonicalReader.i64_reads CanonicalReader.i64_keeps
    Canonical.length_i64 (by decide)

def flag : Codec Bool :=
  fixed 1 CanonicalReader.flag Canonical.flag CanonicalReader.flag_reads
    CanonicalReader.flag_keeps Canonical.length_flag (by decide)

def digest : Codec Digest :=
  fixed 32 CanonicalReader.digest Canonical.digest CanonicalReader.digest_reads
    CanonicalReader.digest_keeps Canonical.length_digest (by decide)

def generation : Codec Generation :=
  fixed 8 CanonicalReader.generation Canonical.generation CanonicalReader.generation_reads
    CanonicalReader.generation_keeps Canonical.length_generation (by decide)

def epoch : Codec Epoch :=
  fixed 8 CanonicalReader.epoch Canonical.epoch CanonicalReader.epoch_reads
    CanonicalReader.epoch_keeps Canonical.length_epoch (by decide)

def schema : Codec SchemaVersion :=
  fixed 8 CanonicalReader.schema Canonical.schema CanonicalReader.schema_reads
    CanonicalReader.schema_keeps Canonical.length_schema (by decide)

def text (maxBytes : Nat) : Codec Text :=
  exactly (CanonicalReader.text maxBytes) Canonical.text (fun t => decide (t.size ≤ maxBytes))
    (CanonicalReader.text_reads maxBytes) (CanonicalReader.text_keeps maxBytes)
    Canonical.length_text_pos

def incarnation : Codec Incarnation :=
  exactly CanonicalReader.incarnation Canonical.incarnation
    (fun i => decide (i.boot.value.size ≤ Limits.maxIdentifierBytes))
    CanonicalReader.incarnation_reads CanonicalReader.incarnation_keeps
    (by simp [Canonical.incarnation])

def list {α : Type} (bound : Nat) (c : Codec α) : Codec (List α) where
  read := CanonicalReader.list bound c.read
  write := Canonical.list c.write
  readable items := decide (items.length ≤ bound) && items.all c.readable
  stored := List.map c.stored
  reads := CanonicalReader.list_reads bound c.reads c.solid
  keeps := Ensures.mono (CanonicalReader.list_keeps bound c.keeps) fun items _ kept =>
    ⟨kept.readable, by
      rw [Canonical.list, Canonical.list, List.length_map, List.flatMap_map,
        List.flatMap_congr fun a member => kept.stable a member], kept.fits⟩
  solid := by simp

def optional {α : Type} (c : Codec α) : Codec (Option α) where
  read := CanonicalReader.optional c.read
  write := Canonical.optional c.write
  readable := Option.all c.readable
  stored := Option.map c.stored
  reads := CanonicalReader.optional_reads c.reads
  keeps := Ensures.mono (CanonicalReader.optional_keeps c.keeps) fun value _ kept =>
    ⟨kept.readable, by
      cases value with
      | none => rfl
      | some a =>
        rw [Option.map_some, Canonical.optional, Canonical.optional, kept.stable a rfl], kept.fits⟩
  solid value := by cases value <;> simp [Canonical.optional]

theorem list_plain {α : Type} {bound : Nat} {c : Codec α} (plain : c.Plain) :
    (list bound c).Plain := by
  refine (CanonicalReader.count_keeps bound).bind fun n used _ => ?_
  have each : Ensures c.read fun a used => c.stored a = a ∧ 0 ≤ used :=
    Ensures.mono plain fun a used same => ⟨same, Nat.zero_le used⟩
  refine (each.many n).mono fun items more ⟨_, same, _⟩ => ?_
  conv_rhs => rw [← List.map_id items]
  exact List.map_congr_left same

theorem optional_plain {α : Type} {c : Codec α} (plain : c.Plain) : (optional c).Plain := by
  refine CanonicalReader.flag_keeps.bind fun present used _ => ?_
  cases present with
  | false => exact .pure rfl
  | true => exact Ensures.bind plain fun a more same => .pure (congrArg some same)

end Codec

end SiteFabric
