import SiteFabric.Core.Streaming

/-! The streaming hasher as the class keeps it.
The unfinished block is the front of a buffer of 64 bytes whose rest is left over from
earlier blocks. An update first fills a block that is begun, then compresses whole blocks
where they lie, then keeps the tail; `view` forgets what the buffer holds beyond its mark. -/

namespace SiteFabric.Internal

open SiteFabric.Sha256

structure Sha256 where
  state : Words := initialWords
  buffer : List UInt8 := List.replicate 64 0
  buffered : Nat := 0
  totalBytes : UInt64 := 0
  finished : Bool := false

def memcpy (target : List UInt8) (start : Nat) (data : List UInt8) : List UInt8 :=
  target.take start ++ data ++ target.drop (start + data.length)

namespace Sha256

def compress (s : Sha256) (block : List UInt8) : Sha256 :=
  { s with state := SiteFabric.Sha256.compress s.state block }

/-- The first part of an update, with the offset it leaves. -/
def fill (s : Sha256) (data : List UInt8) : Sha256 × Nat :=
  if s.buffered ≠ 0 then
    let want := 64 - s.buffered
    let take := if data.length < want then data.length else want
    let s := { s with
      buffer := memcpy s.buffer s.buffered (data.take take)
      buffered := s.buffered + take }
    if s.buffered = 64 then ({ s.compress s.buffer with buffered := 0 }, take) else (s, take)
  else (s, 0)

def compressWhole (s : Sha256) (data : List UInt8) (offset : Nat) : Sha256 × Nat :=
  if offset + 64 ≤ data.length then
    compressWhole (s.compress ((data.drop offset).take 64)) data (offset + 64)
  else (s, offset)
termination_by data.length - offset

def keepTail (s : Sha256) (data : List UInt8) (offset : Nat) : Sha256 :=
  if offset < data.length then
    { s with
      buffer := memcpy s.buffer 0 (data.drop offset)
      buffered := data.length - offset }
  else s

def update (s : Sha256) (data : List UInt8) : Sha256 :=
  if s.finished then s
  else
    let (s, offset) := fill { s with totalBytes := s.totalBytes + UInt64.ofNat data.length } data
    let (s, offset) := s.compressWhole data offset
    s.keepTail data offset

/-- The loop of the padding; nothing when it has not ended within the fuel. -/
def padZeros : Nat → Sha256 → Option Sha256
  | 0, s => if s.buffered ≠ 56 then none else some s
  | fuel + 1, s => if s.buffered ≠ 56 then padZeros fuel (s.update [0]) else some s

def bigEndian (value : UInt32) : UInt32 :=
  ((value &&& 0x000000FF) <<< 24) ||| ((value &&& 0x0000FF00) <<< 8) |||
    ((value &&& 0x00FF0000) >>> 8) ||| ((value &&& 0xFF000000) >>> 24)

/-- The bytes of a word in memory, the lowest first. -/
def memoryBytes (word : UInt32) : List UInt8 :=
  [word.toUInt8, (word >>> 8).toUInt8, (word >>> 16).toUInt8, (word >>> 24).toUInt8]

def stateBytes (w : Words) : List UInt8 :=
  [w.a, w.b, w.c, w.d, w.e, w.f, w.g, w.h].flatMap fun word => memoryBytes (bigEndian word)

def digestOf (w : Words) : Digest := ⟨stateBytes w, by simp [stateBytes, memoryBytes]⟩

/-- The digest and the object after it; a second call gets the empty digest. -/
def finish (fuel : Nat) (s : Sha256) : Option (Digest × Sha256) :=
  if s.finished then some (Digest.zero, s)
  else
    let bitLength := s.totalBytes * 8
    match padZeros fuel (s.update [0x80]) with
    | none => none
    | some s =>
      let s := { s.update (bigEndian64 bitLength) with finished := true }
      some (digestOf s.state, s)

end Sha256

def digestBytes (fuel : Nat) (data : List UInt8) : Option Digest :=
  ((({} : Sha256).update data).finish fuel).map Prod.fst

namespace Sha256

/-- Between calls a block is never full. -/
structure Sound (s : Sha256) : Prop where
  size : s.buffer.length = 64
  room : s.buffered < 64

theorem sound_fresh : ({} : Sha256).Sound := ⟨List.length_replicate, by decide⟩

/-- What the object has seen, without the leftovers in its buffer. -/
def view (s : Sha256) : Hasher := ⟨s.state, s.buffer.take s.buffered, s.totalBytes⟩

theorem view_count (s : Sha256) (room : s.Sound) : s.view.buffer.length = s.buffered := by
  rw [view, List.length_take, room.size]
  exact Nat.min_eq_left (Nat.le_of_lt room.room)

theorem memcpy_length {target data : List UInt8} {start : Nat}
    (fits : start + data.length ≤ target.length) :
    (memcpy target start data).length = target.length := by
  simp only [memcpy, List.length_append, List.length_take, List.length_drop]
  omega

theorem take_memcpy {target data : List UInt8} {start : Nat}
    (fits : start + data.length ≤ target.length) :
    (memcpy target start data).take (start + data.length) = target.take start ++ data := by
  have front : (target.take start ++ data).length = start + data.length := by
    rw [List.length_append, List.length_take]
    omega
  rw [memcpy, List.take_append_of_le_length (Nat.le_of_eq front.symm),
    List.take_of_length_le (Nat.le_of_eq front)]

theorem memcpy_full {target data : List UInt8} {start : Nat}
    (fits : start + data.length = target.length) :
    memcpy target start data = target.take start ++ data := by
  rw [memcpy, fits, List.drop_length, List.append_nil]

theorem absorb_block (w : Words) {block : List UInt8} (size : block.length = 64)
    (rest : List UInt8) :
    absorb ((block ++ rest).length / 64) w (block ++ rest) =
      absorb (rest.length / 64) (SiteFabric.Sha256.compress w block) rest := by
  have count : (block ++ rest).length / 64 = rest.length / 64 + 1 := by
    rw [List.length_append, size]
    omega
  rw [count, absorb, List.take_append_of_le_length (Nat.le_of_eq size.symm),
    List.take_of_length_le (Nat.le_of_eq size), List.drop_left' size]

/-- What the first part of an update leaves: the block begun is full and compressed, or all
of the data is in it. -/
structure Filled (s : Sha256) (data : List UInt8) (after : Sha256 × Nat) : Prop where
  sound : after.1.Sound
  offset_le : after.2 ≤ data.length
  empty_or_end : after.1.buffered = 0 ∨ after.2 = data.length
  totalBytes : after.1.totalBytes = s.totalBytes
  finished : after.1.finished = s.finished
  absorbs : absorb ((s.view.buffer ++ data).length / 64) s.state (s.view.buffer ++ data) =
    absorb ((after.1.view.buffer ++ data.drop after.2).length / 64) after.1.state
      (after.1.view.buffer ++ data.drop after.2)

theorem fill_filled {s : Sha256} (sound : s.Sound) (data : List UInt8) :
    Filled s data (s.fill data) := by
  have count := s.view_count sound
  have room := sound.room
  unfold fill
  by_cases begun : s.buffered ≠ 0
  · rw [if_pos begun]
    dsimp only
    by_cases short : data.length < 64 - s.buffered
    · have fits : s.buffered + data.length ≤ s.buffer.length := by rw [sound.size]; omega
      rw [if_pos short, List.take_length, if_neg (by omega)]
      refine ⟨⟨?_, ?_⟩, Nat.le_refl _, Or.inr rfl, rfl, rfl, ?_⟩
      · exact (memcpy_length fits).trans sound.size
      · dsimp only
        omega
      · dsimp only [view]
        rw [take_memcpy fits, List.drop_length, List.append_nil]
    · have taken : (data.take (64 - s.buffered)).length = 64 - s.buffered := by
        rw [List.length_take]
        omega
      have block : memcpy s.buffer s.buffered (data.take (64 - s.buffered)) =
          s.view.buffer ++ data.take (64 - s.buffered) :=
        memcpy_full (by rw [taken, sound.size, Nat.add_sub_cancel' (Nat.le_of_lt room)])
      have size : (s.view.buffer ++ data.take (64 - s.buffered)).length = 64 := by
        rw [List.length_append, count, taken, Nat.add_sub_cancel' (Nat.le_of_lt room)]
      rw [if_neg short, if_pos (Nat.add_sub_cancel' (Nat.le_of_lt room)), block]
      refine ⟨⟨size, Nat.zero_lt_succ _⟩, Nat.le_of_not_lt short, Or.inl rfl, rfl, rfl, ?_⟩
      calc absorb ((s.view.buffer ++ data).length / 64) s.state (s.view.buffer ++ data)
        _ = absorb ((s.view.buffer ++ data.take (64 - s.buffered) ++
              data.drop (64 - s.buffered)).length / 64) s.state
              (s.view.buffer ++ data.take (64 - s.buffered) ++ data.drop (64 - s.buffered)) := by
          rw [List.append_assoc, List.take_append_drop]
        _ = _ := absorb_block s.state size _
  · rw [if_neg begun]
    exact ⟨sound, Nat.zero_le _, Or.inl (not_not.mp begun), rfl, rfl, rfl⟩

theorem compressWhole_eq (s : Sha256) (data : List UInt8) {offset : Nat}
    (within : offset ≤ data.length) :
    s.compressWhole data offset =
      ({ s with state := (absorb ((data.length - offset) / 64) s.state (data.drop offset)).1 },
        offset + 64 * ((data.length - offset) / 64)) := by
  fun_induction compressWhole s data offset with
  | case1 s offset more ih =>
    have count : (data.length - offset) / 64 = (data.length - (offset + 64)) / 64 + 1 := by omega
    rw [ih more, count, absorb, List.drop_drop]
    apply Prod.ext
    · rfl
    · dsimp only
      omega
  | case2 s offset less =>
    have none : (data.length - offset) / 64 = 0 := by omega
    rw [none]
    rfl

theorem keepTail_view {s : Sha256} (size : s.buffer.length = 64) (empty : s.buffered = 0)
    {data : List UInt8} {offset : Nat} (less : (data.drop offset).length < 64) :
    (s.keepTail data offset).Sound ∧ (s.keepTail data offset).finished = s.finished ∧
      (s.keepTail data offset).view = ⟨s.state, data.drop offset, s.totalBytes⟩ := by
  unfold keepTail
  split
  · have fits : 0 + (data.drop offset).length ≤ s.buffer.length := by omega
    have kept := take_memcpy fits
    rw [Nat.zero_add, List.take_zero, List.nil_append, List.length_drop] at kept
    rw [List.length_drop] at less
    refine ⟨⟨(memcpy_length fits).trans size, less⟩, rfl, ?_⟩
    rw [view, kept]
  · next ended =>
    refine ⟨⟨size, by rw [empty]; decide⟩, rfl, ?_⟩
    rw [view, empty, List.take_zero, List.drop_eq_nil_of_le (Nat.le_of_not_lt ended)]

/-- The rest of an update, once no block is begun or no data is left. -/
theorem view_rest {s : Sha256} (sound : s.Sound) {data : List UInt8} {offset : Nat}
    (within : offset ≤ data.length) (ready : s.buffered = 0 ∨ offset = data.length) :
    let rest := s.view.buffer ++ data.drop offset
    let whole := s.compressWhole data offset
    (whole.1.keepTail data whole.2).Sound ∧
      (whole.1.keepTail data whole.2).finished = s.finished ∧
      (whole.1.keepTail data whole.2).view =
        ⟨(absorb (rest.length / 64) s.state rest).1, (absorb (rest.length / 64) s.state rest).2,
          s.totalBytes⟩ := by
  dsimp only
  rw [compressWhole_eq s data within, absorb_snd]
  rcases ready with empty | ended
  · have nothing : s.view.buffer = [] := by rw [view, empty, List.take_zero]
    have less : (data.drop (offset + 64 * ((data.length - offset) / 64))).length < 64 := by
      rw [List.length_drop]
      omega
    rw [nothing, List.nil_append, List.length_drop, List.drop_drop]
    generalize (absorb ((data.length - offset) / 64) s.state (data.drop offset)).1 = w
    exact keepTail_view (s := { s with state := w }) sound.size empty less
  · have few : s.view.buffer.length / 64 = 0 := by
      rw [s.view_count sound]
      exact Nat.div_eq_of_lt sound.room
    have done : (data.length - offset) / 64 = 0 := by rw [ended, Nat.sub_self]
    have nothing : data.drop offset = [] := List.drop_eq_nil_of_le (Nat.le_of_eq ended.symm)
    rw [done, nothing, List.append_nil, few, keepTail, if_neg (by omega)]
    exact ⟨⟨sound.size, sound.room⟩, rfl, rfl⟩

/-- An update of the object is one of what it has seen. -/
theorem update_view {s : Sha256} (sound : s.Sound) (going : s.finished = false)
    (data : List UInt8) :
    (s.update data).Sound ∧ (s.update data).finished = false ∧
      (s.update data).view = s.view.update data := by
  have filled := fill_filled (s := { s with
    totalBytes := s.totalBytes + UInt64.ofNat data.length }) ⟨sound.size, sound.room⟩ data
  obtain ⟨rest, still, view⟩ := view_rest filled.sound filled.offset_le filled.empty_or_end
  rw [update, if_neg (by rw [going]; decide)]
  refine ⟨rest, still.trans (filled.finished.trans going), view.trans ?_⟩
  rw [← filled.absorbs, filled.totalBytes]
  rfl

/-- An object that was updated with a message, in whatever pieces. -/
structure Streamed (s : Sha256) (message : List UInt8) : Prop where
  sound : s.Sound
  going : s.finished = false
  saw : s.view.Saw message

theorem streamed_fresh : ({} : Sha256).Streamed [] := ⟨sound_fresh, rfl, Hasher.saw_fresh⟩

theorem Streamed.update {s : Sha256} {message : List UInt8} (streamed : s.Streamed message)
    (data : List UInt8) : (s.update data).Streamed (message ++ data) := by
  obtain ⟨sound, going, view⟩ := update_view streamed.sound streamed.going data
  exact ⟨sound, going, view ▸ streamed.saw.update data⟩

theorem Streamed.updates {s : Sha256} {message : List UInt8} (streamed : s.Streamed message)
    (chunks : List (List UInt8)) :
    (chunks.foldl Sha256.update s).Streamed (message ++ chunks.flatten) := by
  induction chunks generalizing s message with
  | nil => rwa [List.flatten_nil, List.append_nil]
  | cons chunk chunks ih =>
    rw [List.foldl_cons, List.flatten_cons, ← List.append_assoc]
    exact ih (streamed.update chunk)

theorem Streamed.buffered {s : Sha256} {message : List UInt8} (streamed : s.Streamed message) :
    s.buffered = message.length % 64 := by
  rw [← s.view_count streamed.sound, streamed.saw.buffer, List.length_drop]
  omega

/-- The loop ends, and has added the zeros that were missing to byte 56 of a block. -/
theorem Streamed.padZeros {s : Sha256} {message : List UInt8} (streamed : s.Streamed message)
    {fuel : Nat} (enough : (120 - message.length % 64) % 64 ≤ fuel) :
    ∃ s', Sha256.padZeros fuel s = some s' ∧
      s'.Streamed (message ++ List.replicate ((120 - message.length % 64) % 64) 0) := by
  induction fuel generalizing s message with
  | zero =>
    have there : s.buffered = 56 := by rw [streamed.buffered]; omega
    rw [Nat.le_zero.mp enough, List.replicate_zero, List.append_nil, Sha256.padZeros,
      if_neg (not_not.mpr there)]
    exact ⟨s, rfl, streamed⟩
  | succ fuel ih =>
    rw [Sha256.padZeros]
    by_cases there : s.buffered = 56
    · have none : (120 - message.length % 64) % 64 = 0 := by rw [← streamed.buffered, there]
      rw [if_neg (not_not.mpr there), none, List.replicate_zero, List.append_nil]
      exact ⟨s, rfl, streamed⟩
    · rw [streamed.buffered] at there
      have next : (120 - message.length % 64) % 64 =
          (120 - (message ++ [0]).length % 64) % 64 + 1 := by
        rw [List.length_append, List.length_singleton]
        omega
      rw [if_pos (by rwa [streamed.buffered]), next, Nat.add_comm, List.replicate_add,
        List.replicate_one, ← List.append_assoc]
      exact ih (streamed.update [0]) (by omega)

theorem memoryBytes_bigEndian (word : UInt32) :
    memoryBytes (bigEndian word) = bigEndian32 word := by
  simp only [memoryBytes, bigEndian32, List.cons.injEq, and_true]
  refine ⟨?_, ?_, ?_, ?_⟩ <;> apply UInt8.eq_of_toBitVec_eq <;> ext i below <;>
    simp [bigEndian] <;> interval_cases i <;> simp

theorem digestOf_eq (w : Words) : digestOf w = w.toDigest := by
  simp only [digestOf, Words.toDigest, stateBytes, List.flatMap_cons, List.flatMap_nil,
    memoryBytes_bigEndian, List.append_assoc, List.append_nil]

/-- The padding loop runs fewer than 64 times. -/
theorem Streamed.finish {s : Sha256} {message : List UInt8} (streamed : s.Streamed message)
    {fuel : Nat} (enough : 64 ≤ fuel) :
    (s.finish fuel).map Prod.fst =
      some (absorb ((padded message).length / 64) initialWords (padded message)).1.toDigest := by
  obtain ⟨s', ended, zeros⟩ := (streamed.update [0x80]).padZeros
    (Nat.le_trans (Nat.le_of_lt (Nat.mod_lt _ (by decide))) enough)
  have closed := (zeros.update (bigEndian64 (s.totalBytes * 8))).saw
  have count : s.totalBytes = UInt64.ofNat message.length := streamed.saw.totalBytes
  have whole : message ++ [0x80] ++
      List.replicate ((120 - (message ++ [0x80]).length % 64) % 64) 0 ++
      bigEndian64 (s.totalBytes * 8) = padded message := by
    rw [padded, List.length_append, List.length_singleton, count]
  rw [whole] at closed
  rw [Sha256.finish, if_neg (by rw [streamed.going]; decide)]
  dsimp only
  rw [ended]
  exact congrArg some ((digestOf_eq _).trans (congrArg Words.toDigest closed.words))

end Sha256

end SiteFabric.Internal
