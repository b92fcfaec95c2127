import SiteFabric.Core.Streaming

/-! The rounds on natural numbers.
A word is a number below `2 ^ 32`, and every operation of the rounds is then one of
arithmetic. `digestFold` takes a digest so, without a machine word in between. -/

namespace SiteFabric.Sha256

def rotrNat (value bits : Nat) : Nat := (value >>> bits) ||| (value <<< (32 - bits)) % 4294967296

theorem rotr_toNat (value : UInt32) {bits : UInt32} (some : 0 < bits.toNat)
    (few : bits.toNat < 32) : (rotr value bits).toNat = rotrNat value.toNat bits.toNat := by
  have back : (32 - bits).toNat = 32 - bits.toNat :=
    UInt32.toNat_sub_of_le _ _ (UInt32.le_iff_toNat_le.mpr (Nat.le_of_lt few))
  rw [rotr, UInt32.toNat_or, UInt32.toNat_shiftRight, UInt32.toNat_shiftLeft, back,
    Nat.mod_eq_of_lt few, Nat.mod_eq_of_lt (Nat.sub_lt (by decide) some)]
  rfl

/-- The chaining words as numbers. -/
structure NatWords where
  a : Nat
  b : Nat
  c : Nat
  d : Nat
  e : Nat
  f : Nat
  g : Nat
  h : Nat

def Words.toNat (s : Words) : NatWords :=
  ⟨s.a.toNat, s.b.toNat, s.c.toNat, s.d.toNat, s.e.toNat, s.f.toNat, s.g.toNat, s.h.toNat⟩

def NatWords.toWords (s : NatWords) : Words :=
  ⟨.ofNat s.a, .ofNat s.b, .ofNat s.c, .ofNat s.d, .ofNat s.e, .ofNat s.f, .ofNat s.g, .ofNat s.h⟩

theorem Words.toNat_toWords (s : Words) : s.toNat.toWords = s := by
  simp only [toNat, NatWords.toWords, UInt32.ofNat_toNat]

def blockNat : List UInt8 → List Nat
  | b0 :: b1 :: b2 :: b3 :: rest =>
    ((b0.toNat <<< 24) ||| (b1.toNat <<< 16) ||| (b2.toNat <<< 8) ||| b3.toNat) :: blockNat rest
  | _ => []

theorem blockWords_toNat (block : List UInt8) :
    (blockWords block).map (·.toNat) = blockNat block := by
  have shifted (b : UInt8) (n : UInt32) (few : n.toNat ≤ 24) :
      (b.toUInt32 <<< n).toNat = b.toNat <<< n.toNat := by
    have byte := b.toNat_lt
    have bound : b.toNat * 2 ^ n.toNat < 2 ^ 32 :=
      calc b.toNat * 2 ^ n.toNat
        _ < 2 ^ 8 * 2 ^ n.toNat := Nat.mul_lt_mul_of_pos_right byte (Nat.two_pow_pos _)
        _ ≤ 2 ^ 8 * 2 ^ 24 := Nat.mul_le_mul_left _ (Nat.pow_le_pow_right (by decide) few)
    rw [UInt32.toNat_shiftLeft, UInt8.toNat_toUInt32, Nat.mod_eq_of_lt (by omega : n.toNat < 32),
      Nat.shiftLeft_eq, Nat.mod_eq_of_lt bound]
  fun_induction blockWords block with
  | case1 b0 b1 b2 b3 rest ih =>
    rw [List.map_cons, ih, blockNat, UInt32.toNat_or, UInt32.toNat_or, UInt32.toNat_or,
      shifted _ 24 (by decide), shifted _ 16 (by decide), shifted _ 8 (by decide),
      UInt8.toNat_toUInt32]
    rfl
  | case2 block short =>
    rw [blockNat.eq_def]
    split
    · next b0 b1 b2 b3 rest => exact absurd rfl (short b0 b1 b2 b3 rest)
    · rfl

/-- The later words of the schedule, from the last sixteen by name. -/
def expandNat : Nat → Nat → Nat → Nat → Nat → Nat → Nat → Nat → Nat → Nat → Nat → Nat → Nat →
    Nat → Nat → Nat → Nat → List Nat
  | 0, _, _, _, _, _, _, _, _, _, _, _, _, _, _, _, _ => []
  | n + 1, a, b, c, d, e, f, g, h, i, j, k, l, m, o, p, q =>
    let s0 := rotrNat b 7 ^^^ rotrNat b 18 ^^^ (b >>> 3)
    let s1 := rotrNat p 17 ^^^ rotrNat p 19 ^^^ (p >>> 10)
    let next := (a + s0 + j + s1) % 4294967296
    next :: expandNat n b c d e f g h i j k l m o p q next
termination_by structural n => n

theorem expand_toNat (n : Nat) (a b c d e f g h i j k l m o p q : UInt32) :
    (expand n [a, b, c, d, e, f, g, h, i, j, k, l, m, o, p, q]).map (·.toNat) =
      expandNat n a.toNat b.toNat c.toNat d.toNat e.toNat f.toNat g.toNat h.toNat i.toNat j.toNat
        k.toNat l.toNat m.toNat o.toNat p.toNat q.toNat := by
  induction n generalizing a b c d e f g h i j k l m o p q with
  | zero => rfl
  | succ n ih =>
    have next : (a + (rotr b 7 ^^^ rotr b 18 ^^^ (b >>> 3)) + j +
        (rotr p 17 ^^^ rotr p 19 ^^^ (p >>> 10))).toNat =
        (a.toNat + (rotrNat b.toNat 7 ^^^ rotrNat b.toNat 18 ^^^ (b.toNat >>> 3)) + j.toNat +
          (rotrNat p.toNat 17 ^^^ rotrNat p.toNat 19 ^^^ (p.toNat >>> 10))) % 4294967296 := by
      simp [rotr_toNat, Nat.add_mod]
    rw [expandNat, ← next, ← ih]
    rfl

def laterNat : List Nat → List Nat
  | [a, b, c, d, e, f, g, h, i, j, k, l, m, o, p, q] => expandNat 48 a b c d e f g h i j k l m o p q
  | _ => []

def stepNat (s : NatWords) (k w : Nat) : NatWords :=
  let s1 := rotrNat s.e 6 ^^^ rotrNat s.e 11 ^^^ rotrNat s.e 25
  let choose := (s.e &&& s.f) ^^^ ((4294967295 - s.e) &&& s.g)
  let temp1 := s.h + s1 + choose + k + w
  let s0 := rotrNat s.a 2 ^^^ rotrNat s.a 13 ^^^ rotrNat s.a 22
  let majority := (s.a &&& s.b) ^^^ (s.a &&& s.c) ^^^ (s.b &&& s.c)
  let temp2 := s0 + majority
  ⟨(temp1 + temp2) % 4294967296, s.a, s.b, s.c, (s.d + temp1) % 4294967296, s.e, s.f, s.g⟩

theorem step_toNat (s : Words) (k w : UInt32) :
    (step s (k, w)).toNat = stepNat s.toNat k.toNat w.toNat := by
  simp [step, stepNat, Words.toNat, rotr_toNat, Nat.add_mod]

/-- The rounds of one block, constant by constant and word by word. -/
def roundsNat : List UInt32 → List Nat → NatWords → NatWords
  | k :: constants, w :: schedule, s => roundsNat constants schedule (stepNat s k.toNat w)
  | _, _, s => s

theorem rounds_toNat (constants schedule : List UInt32) (s : Words) :
    ((constants.zip schedule).foldl step s).toNat =
      roundsNat constants (schedule.map (·.toNat)) s.toNat := by
  induction constants generalizing schedule s with
  | nil => rfl
  | cons k constants ih =>
    cases schedule with
    | nil => rfl
    | cons w schedule =>
      rw [List.zip_cons_cons, List.foldl_cons, ih, step_toNat]
      rfl

def compressNat (s : NatWords) (block : List UInt8) : NatWords :=
  let input := blockNat block
  let r := roundsNat roundConstants (input ++ laterNat input) s
  ⟨(s.a + r.a) % 4294967296, (s.b + r.b) % 4294967296, (s.c + r.c) % 4294967296,
    (s.d + r.d) % 4294967296, (s.e + r.e) % 4294967296, (s.f + r.f) % 4294967296,
    (s.g + r.g) % 4294967296, (s.h + r.h) % 4294967296⟩

theorem blockWords_length (block : List UInt8) : (blockWords block).length = block.length / 4 := by
  fun_induction blockWords block with
  | case1 b0 b1 b2 b3 rest ih => simp only [List.length_cons, ih]; omega
  | case2 block short =>
    match block, short with
    | [], _ => rfl
    | [_], _ => simp
    | [_, _], _ => simp
    | [_, _, _], _ => simp
    | b0 :: b1 :: b2 :: b3 :: rest, short => exact absurd rfl (short b0 b1 b2 b3 rest)

theorem compress_toNat (s : Words) {block : List UInt8} (whole : block.length = 64) :
    (compress s block).toNat = compressNat s.toNat block := by
  have sixteen : (blockWords block).length = 16 := by rw [blockWords_length, whole]
  have later : (expand 48 (blockWords block)).map (·.toNat) = laterNat (blockNat block) := by
    rw [← blockWords_toNat]
    match blockWords block, sixteen with
    | [a, b, c, d, e, f, g, h, i, j, k, l, m, o, p, q], _ => exact expand_toNat 48 ..
  have rounds := rounds_toNat roundConstants (blockWords block ++ expand 48 (blockWords block)) s
  rw [List.map_append, blockWords_toNat, later] at rounds
  rw [compressNat, ← rounds]
  simp only [compress, Words.toNat, UInt32.toNat_add]

def foldNat : Nat → NatWords → List UInt8 → NatWords
  | 0, words, _ => words
  | n + 1, words, data => foldNat n (compressNat words (data.take 64)) (data.drop 64)

theorem absorb_toNat {n : Nat} (words : Words) {data : List UInt8}
    (enough : 64 * n ≤ data.length) :
    (absorb n words data).1.toNat = foldNat n words.toNat data := by
  induction n generalizing words data with
  | zero => rfl
  | succ n ih =>
    have left : 64 * n ≤ (data.drop 64).length := by rw [List.length_drop]; omega
    have whole : (data.take 64).length = 64 := List.length_take_of_le (by omega)
    rw [absorb, ih _ left, foldNat, compress_toNat _ whole]

/-- The digest of a message by one fold over its padding. -/
def digestFold (message : List UInt8) : Digest :=
  (foldNat ((padded message).length / 64) initialWords.toNat (padded message)).toWords.toDigest

theorem digestFold_eq (message : List UInt8) : digestFold message = digestBytes message := by
  rw [digestFold, ← absorb_toNat _ (Nat.mul_div_le _ _), Words.toNat_toWords, digestBytes_eq]

end SiteFabric.Sha256
