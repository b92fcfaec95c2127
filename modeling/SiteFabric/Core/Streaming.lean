import SiteFabric.Core.Sha256

/-! What streaming computes.
A hasher that has seen a message holds the fold of its whole blocks and the bytes left
over, however the message was cut into updates; a digest is the fold of the padded
message. -/

namespace SiteFabric.Sha256

theorem absorb_add (m n : Nat) (words : Words) (data : List UInt8) :
    absorb (m + n) words data = absorb n (absorb m words data).1 (absorb m words data).2 := by
  induction m generalizing words data with
  | zero => rw [Nat.zero_add, absorb]
  | succ m ih => rw [Nat.succ_add, absorb, absorb, ih]

/-- Whole blocks are absorbed without a look at what follows them. -/
theorem absorb_append {n : Nat} (words : Words) {data : List UInt8} (more : List UInt8)
    (enough : 64 * n ≤ data.length) :
    absorb n words (data ++ more) = ((absorb n words data).1, (absorb n words data).2 ++ more) := by
  induction n generalizing words data with
  | zero => rfl
  | succ n ih =>
    have left : 64 * n ≤ (data.drop 64).length := by rw [List.length_drop]; omega
    rw [absorb, absorb, List.take_append_of_le_length (by omega),
      List.drop_append_of_le_length (by omega), ih _ left]

theorem absorb_snd (n : Nat) (words : Words) (data : List UInt8) :
    (absorb n words data).2 = data.drop (64 * n) := by
  induction n generalizing words data with
  | zero => rfl
  | succ n ih => rw [absorb, ih, List.drop_drop, Nat.mul_succ, Nat.add_comm]

/-- A hasher after a message. -/
structure Hasher.Saw (s : Hasher) (message : List UInt8) : Prop where
  words : s.words = (absorb (message.length / 64) initialWords message).1
  buffer : s.buffer = message.drop (64 * (message.length / 64))
  totalBytes : s.totalBytes = UInt64.ofNat message.length

theorem Hasher.saw_fresh : ({} : Hasher).Saw [] := ⟨rfl, rfl, rfl⟩

/-- An update adds its bytes to the message. -/
theorem Hasher.Saw.update {s : Hasher} {message : List UInt8} (saw : s.Saw message)
    (data : List UInt8) : (s.update data).Saw (message ++ data) := by
  have pending : (s.buffer ++ data).length + 64 * (message.length / 64) =
      (message ++ data).length := by
    rw [saw.buffer, List.length_append, List.length_append, List.length_drop]
    omega
  have blocks : (message ++ data).length / 64 =
      message.length / 64 + (s.buffer ++ data).length / 64 := by omega
  have whole : 64 * (message.length / 64) ≤ message.length := by omega
  have absorbed : absorb ((message ++ data).length / 64) initialWords (message ++ data) =
      absorb ((s.buffer ++ data).length / 64) s.words (s.buffer ++ data) := by
    rw [blocks, absorb_add, absorb_append _ _ whole, absorb_snd, saw.words, saw.buffer]
  refine ⟨?_, ?_, ?_⟩
  · rw [absorbed]
    rfl
  · rw [← absorb_snd _ initialWords, absorbed]
    rfl
  · rw [List.length_append, UInt64.ofNat_add, ← saw.totalBytes]
    rfl

/-- A message with its padding: one marker, zeros, and its length in bits. -/
def padded (message : List UInt8) : List UInt8 :=
  message ++ [0x80] ++ List.replicate ((120 - (message.length + 1) % 64) % 64) 0 ++
    bigEndian64 (UInt64.ofNat message.length * 8)

theorem Hasher.Saw.finish {s : Hasher} {message : List UInt8} (saw : s.Saw message) :
    s.finish =
      (absorb ((padded message).length / 64) initialWords (padded message)).1.toDigest := by
  have marked := saw.update [0x80]
  have left : (s.update [0x80]).buffer.length = (message.length + 1) % 64 := by
    rw [marked.buffer, List.length_drop, List.length_append, List.length_singleton]
    omega
  have closed := (marked.update (List.replicate ((120 - (message.length + 1) % 64) % 64) 0)).update
    (bigEndian64 (UInt64.ofNat message.length * 8))
  unfold Hasher.finish
  dsimp only
  rw [left, saw.totalBytes, closed.words]
  rfl

theorem digestBytes_eq (message : List UInt8) :
    digestBytes message =
      (absorb ((padded message).length / 64) initialWords (padded message)).1.toDigest :=
  (Hasher.saw_fresh.update message).finish

end SiteFabric.Sha256
