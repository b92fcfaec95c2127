import SiteFabric.Core.Hashing
import SiteFabric.Core.Rounds
import SiteFabric.Lib.SecureHash

/-! The streamed digest against the standard.
The tables are the roots of the primes, the words of a block and the rounds are those of the
standard, and the bytes added at the end are its padding. Bytes are read as bits, the highest
first. -/

namespace SiteFabric.Internal

open SiteFabric.Sha256
open SiteFabric.Lib

/-- The first sixty-four primes. -/
def primes : List Nat :=
  [2, 3, 5, 7, 11, 13, 17, 19, 23, 29, 31, 37, 41, 43, 47, 53, 59, 61, 67, 71, 73, 79, 83, 89, 97,
   101, 103, 107, 109, 113, 127, 131, 137, 139, 149, 151, 157, 163, 167, 173, 179, 181, 191, 193,
   197, 199, 211, 223, 227, 229, 233, 239, 241, 251, 257, 263, 269, 271, 277, 281, 283, 293, 307,
   311]

theorem nth_prime {t : Nat} (few : t < 64) : Nat.nth Nat.Prime t = primes.getD t 0 := by
  have all : (List.range 312).filter Nat.Prime = primes :=
    calc (List.range 312).filter Nat.Prime
      _ = (List.range 312).filter fun n => 2 ≤ n ∧ ∀ m < 18, 2 ≤ m → m < n → ¬m ∣ n :=
        List.filter_congr fun n below => decide_eq_decide.mpr
          (SecureHash.prime_iff_trial (Nat.lt_trans (List.mem_range.mp below) (by decide)))
      _ = primes := by decide +kernel
  rw [← all]
  exact SecureHash.nth_filter_range Nat.Prime 312 (by rw [all]; exact few)

theorem roundConstants_eq {t : Nat} (few : t < 64) :
    SecureHash.roundConstant t = (roundConstants.getD t 0).toBitVec := by
  have cubes : ∀ t < 64, ∃ whole < 7,
      (whole * 2 ^ 32 + (roundConstants.getD t 0).toNat) ^ 3 ≤ primes.getD t 0 * 2 ^ (32 * 3) ∧
        primes.getD t 0 * 2 ^ (32 * 3) <
          (whole * 2 ^ 32 + (roundConstants.getD t 0).toNat + 1) ^ 3 := by decide +kernel
  obtain ⟨whole, -, below, above⟩ := cubes t few
  rw [SecureHash.roundConstant, nth_prime few]
  exact SecureHash.rootFraction_eq whole (roundConstants.getD t 0).toBitVec below above

/-- The chaining words as those of the standard. -/
def stateOf (w : Words) : SecureHash.State :=
  ⟨w.a.toBitVec, w.b.toBitVec, w.c.toBitVec, w.d.toBitVec, w.e.toBitVec, w.f.toBitVec,
    w.g.toBitVec, w.h.toBitVec⟩

theorem initialWords_eq : stateOf initialWords = SecureHash.initial := by
  have root (t whole : Nat) (k : UInt32) (few : t < 64)
      (below : (whole * 2 ^ 32 + k.toNat) ^ 2 ≤ primes.getD t 0 * 2 ^ (32 * 2))
      (above : primes.getD t 0 * 2 ^ (32 * 2) < (whole * 2 ^ 32 + k.toNat + 1) ^ 2) :
      k.toBitVec = SecureHash.rootFraction 2 (Nat.nth Nat.Prime t) := by
    rw [nth_prime few]
    exact (SecureHash.rootFraction_eq whole k.toBitVec below above).symm
  rw [stateOf, SecureHash.initial, SecureHash.State.mk.injEq]
  refine ⟨root 0 1 _ ?_ ?_ ?_, root 1 1 _ ?_ ?_ ?_, root 2 2 _ ?_ ?_ ?_, root 3 2 _ ?_ ?_ ?_,
    root 4 3 _ ?_ ?_ ?_, root 5 3 _ ?_ ?_ ?_, root 6 4 _ ?_ ?_ ?_, root 7 4 _ ?_ ?_ ?_⟩
  all_goals decide +kernel

theorem rotr_toBitVec (value : UInt32) {bits : UInt32} (some : 0 < bits.toNat)
    (few : bits.toNat < 32) :
    (rotr value bits).toBitVec = value.toBitVec.rotateRight bits.toNat := by
  have back : (32 - bits).toBitVec.toNat = 32 - bits.toNat :=
    UInt32.toNat_sub_of_le _ _ (UInt32.le_iff_toNat_le.mpr (Nat.le_of_lt few))
  have width : (32 : BitVec 32).toNat = 32 := rfl
  rw [rotr, UInt32.toBitVec_or, UInt32.toBitVec_shiftRight, UInt32.toBitVec_shiftLeft,
    BitVec.rotateRight_def, BitVec.ushiftRight_eq', BitVec.shiftLeft_eq', BitVec.toNat_umod,
    BitVec.toNat_umod, width, back, UInt32.toNat_toBitVec, Nat.mod_eq_of_lt few,
    Nat.mod_eq_of_lt (Nat.sub_lt (by decide) some)]

theorem step_stateOf (s : Words) (k w : UInt32) :
    stateOf (step s (k, w)) = SecureHash.round (stateOf s) k.toBitVec w.toBitVec := by
  simp [step, stateOf, SecureHash.round, rotr_toBitVec, SecureHash.upperSigma0,
    SecureHash.upperSigma1, SecureHash.choose, SecureHash.majority]

/-- The later words of the schedule, as long as the window holds the sixteen before them. -/
theorem expand_eq (block : Nat → SecureHash.Word) (n k : Nat) :
    expand n ((List.range 16).map fun i => UInt32.ofBitVec (SecureHash.schedule block (k + i))) =
      (List.range n).map fun i => UInt32.ofBitVec (SecureHash.schedule block (k + 16 + i)) := by
  induction n generalizing k with
  | zero => rfl
  | succ n ih =>
    let w (t : Nat) : UInt32 := UInt32.ofBitVec (SecureHash.schedule block t)
    have next : w k + (rotr (w (k + 1)) 7 ^^^ rotr (w (k + 1)) 18 ^^^ (w (k + 1) >>> 3)) +
        w (k + 9) + (rotr (w (k + 14)) 17 ^^^ rotr (w (k + 14)) 19 ^^^ (w (k + 14) >>> 10)) =
          w (k + 16) := by
      have same (t : Nat) : (w t).toBitVec = SecureHash.schedule block t := rfl
      apply UInt32.eq_of_toBitVec_eq
      rw [same, SecureHash.schedule_add, ← same, ← same, ← same, ← same]
      simp [rotr_toBitVec, SecureHash.lowerSigma0, SecureHash.lowerSigma1]
      ac_rfl
    have shifted : ((List.range 16).map fun i => w (k + i)).tail ++ [w (k + 16)] =
        (List.range 16).map fun i => w (k + 1 + i) := by
      simp only [Nat.add_right_comm k 1, Nat.add_assoc k]
      rfl
    calc expand (n + 1) ((List.range 16).map fun i => w (k + i))
      _ = w (k + 16) :: expand n (((List.range 16).map fun i => w (k + i)).tail ++
            [w (k + 16)]) := by
        rw [← next]
        rfl
      _ = w (k + 16) :: (List.range n).map fun i => w (k + 1 + 16 + i) := by rw [shifted, ih]
      _ = (List.range (n + 1)).map fun i => w (k + 16 + i) := by
        rw [List.range_succ_eq_map, List.map_cons, List.map_map]
        exact congrArg _ (List.map_congr_left fun i _ => congrArg w (by simp; omega))

/-- The words of a block as the standard counts them. -/
def wordsOf (input : List UInt32) (t : Nat) : SecureHash.Word := (input.getD t 0).toBitVec

theorem schedule_eq {input : List UInt32} (sixteen : input.length = 16) :
    input ++ expand 48 input =
      (List.range 64).map fun t => UInt32.ofBitVec (SecureHash.schedule (wordsOf input) t) := by
  have first : input = (List.range 16).map fun i =>
      UInt32.ofBitVec (SecureHash.schedule (wordsOf input) (0 + i)) := by
    apply List.ext_getElem
    · rw [sixteen, List.length_map, List.length_range]
    · intro t within _
      rw [List.getElem_map, List.getElem_range, Nat.zero_add,
        SecureHash.schedule_of_lt _ (sixteen ▸ within), wordsOf, List.getD_eq_getElem _ _ within]
  have later := expand_eq (wordsOf input) 48 0
  rw [← first] at later
  rw [later, show 64 = 16 + 48 from rfl, List.range_add, List.map_append, List.map_map]
  simp only [Nat.zero_add] at first ⊢
  rw [← first]
  rfl

theorem compress_stateOf (s : Words) {block : List UInt8} (whole : (blockWords block).length = 16) :
    stateOf (SiteFabric.Sha256.compress s block) =
      SecureHash.compress (stateOf s) (wordsOf (blockWords block)) := by
  have table : roundConstants = (List.range 64).map fun t => roundConstants.getD t 0 := by
    decide +kernel
  have rounds (n : Nat) (few : n ≤ 64) :
      stateOf ((List.range n).foldl (fun r t => step r (roundConstants.getD t 0,
        UInt32.ofBitVec (SecureHash.schedule (wordsOf (blockWords block)) t))) s) =
      (List.range n).foldl (fun r t => SecureHash.round r (SecureHash.roundConstant t)
        (SecureHash.schedule (wordsOf (blockWords block)) t)) (stateOf s) := by
    induction n with
    | zero => rfl
    | succ n ih =>
      rw [List.range_succ, List.foldl_append, List.foldl_append, List.foldl_cons, List.foldl_nil,
        List.foldl_cons, List.foldl_nil, step_stateOf, ih (Nat.le_of_succ_le few),
        roundConstants_eq few]
  rw [SecureHash.compress, ← rounds 64 (Nat.le_refl _), ← List.foldl_map (g := step),
    ← List.zip_map', ← table, ← schedule_eq whole]
  rfl

/-- The bits of a string of bytes, those of a byte from the highest. -/
def bits (bytes : List UInt8) : List Bool := bytes.flatMap fun b => SecureHash.digits b.toBitVec

theorem bits_append (front rest : List UInt8) : bits (front ++ rest) = bits front ++ bits rest :=
  List.flatMap_append

theorem bits_length (bytes : List UInt8) : (bits bytes).length = 8 * bytes.length := by
  induction bytes with
  | nil => rfl
  | cons b bytes ih =>
    rw [← List.singleton_append, bits_append, List.length_append, ih, List.length_append,
      Nat.mul_add]
    rfl

theorem wordAt_append (front rest : List Bool) (start : Nat) :
    SecureHash.wordAt (front ++ rest) (front.length + start) = SecureHash.wordAt rest start := by
  apply congrArg BitVec.ofFnBE
  funext j
  rw [Nat.add_assoc, List.getD_append_right _ _ _ _ (Nat.le_add_right _ _), Nat.add_sub_cancel_left]

theorem digits_byte (b : BitVec 8) : SecureHash.digits b =
    [b.getLsbD 7, b.getLsbD 6, b.getLsbD 5, b.getLsbD 4, b.getLsbD 3, b.getLsbD 2, b.getLsbD 1,
      b.getLsbD 0] := rfl

theorem wordAt_bytes (b0 b1 b2 b3 : UInt8) (rest : List UInt8) :
    SecureHash.wordAt (bits (b0 :: b1 :: b2 :: b3 :: rest)) 0 =
      ((b0.toUInt32 <<< 24) ||| (b1.toUInt32 <<< 16) ||| (b2.toUInt32 <<< 8) |||
        b3.toUInt32).toBitVec := by
  ext i below
  rw [SecureHash.wordAt, BitVec.getElem_ofFnBE]
  simp only [bits, List.flatMap_cons, digits_byte]
  simp
  interval_cases i <;> simp

theorem blockWords_getD (bytes : List UInt8) {t : Nat} (within : 4 * t + 4 ≤ bytes.length) :
    ((blockWords bytes).getD t 0).toBitVec = SecureHash.wordAt (bits bytes) (32 * t) := by
  fun_induction blockWords bytes generalizing t with
  | case1 b0 b1 b2 b3 rest ih =>
    cases t with
    | zero => exact (wordAt_bytes b0 b1 b2 b3 rest).symm
    | succ t =>
      have left : 4 * t + 4 ≤ rest.length := by
        simp only [List.length_cons] at within
        omega
      have later : 32 * (t + 1) = (bits [b0, b1, b2, b3]).length + 32 * t := by
        rw [bits_length]
        simp only [List.length_cons, List.length_nil]
        omega
      rw [List.getD_cons_succ, ih left, later, ← wordAt_append (bits [b0, b1, b2, b3]),
        ← bits_append]
      rfl
  | case2 bytes short =>
    -- four bytes are at hand, so the last case is the one just left out
    obtain _ | ⟨b0, _ | ⟨b1, _ | ⟨b2, _ | ⟨b3, rest⟩⟩⟩⟩ := bytes
    iterate 4 simp at within
    exact absurd rfl (short b0 b1 b2 b3 rest)

theorem wordAt_append_left {front rest : List Bool} {start : Nat}
    (within : start + 32 ≤ front.length) :
    SecureHash.wordAt (front ++ rest) start = SecureHash.wordAt front start := by
  apply congrArg BitVec.ofFnBE
  funext j
  exact List.getD_append _ _ _ _ (by omega)

/-- A block that lies in a longer string of bytes. -/
theorem wordAt_block {data : List UInt8} {n t : Nat} (within : 64 * (n + 1) ≤ data.length)
    (few : t < 16) :
    wordsOf (blockWords ((data.drop (64 * n)).take 64)) t =
      SecureHash.wordAt (bits data) (512 * n + 32 * t) := by
  have front : (bits (data.take (64 * n))).length = 512 * n := by
    rw [bits_length, List.length_take]
    omega
  have size : ((data.drop (64 * n)).take 64).length = 64 := by
    rw [List.length_take, List.length_drop]
    omega
  calc wordsOf (blockWords ((data.drop (64 * n)).take 64)) t
    _ = SecureHash.wordAt (bits ((data.drop (64 * n)).take 64)) (32 * t) :=
      blockWords_getD _ (by omega)
    _ = SecureHash.wordAt (bits (data.drop (64 * n))) (32 * t) := by
      rw [← wordAt_append_left (by rw [bits_length, size]; omega), ← bits_append,
        List.take_append_drop]
    _ = SecureHash.wordAt (bits data) (512 * n + 32 * t) := by
      rw [← wordAt_append, front, ← bits_append, List.take_append_drop]

theorem absorb_stateOf {n : Nat} (words : Words) {data : List UInt8}
    (within : 64 * n ≤ data.length) :
    stateOf (absorb n words data).1 =
      (List.range n).foldl (fun s i => SecureHash.compress s fun t =>
        SecureHash.wordAt (bits data) (512 * i + 32 * t)) (stateOf words) := by
  induction n with
  | zero => rfl
  | succ n ih =>
    have sixteen : (blockWords ((data.drop (64 * n)).take 64)).length = 16 := by
      rw [blockWords_length, List.length_take, List.length_drop]
      omega
    have last : (absorb (n + 1) words data).1 =
        SiteFabric.Sha256.compress (absorb n words data).1 ((data.drop (64 * n)).take 64) := by
      rw [absorb_add, absorb_snd]
      rfl
    rw [last, compress_stateOf _ sixteen, ih (by omega), List.range_succ, List.foldl_append,
      List.foldl_cons, List.foldl_nil]
    exact SecureHash.compress_congr _ fun t few => wordAt_block within few

theorem bits_bigEndian32 (n : UInt32) :
    bits (bigEndian32 n) = SecureHash.digits n.toBitVec := by
  simp [bits, bigEndian32, digits_byte]
  rfl

theorem bits_bigEndian64 (n : UInt64) :
    bits (bigEndian64 n) = SecureHash.digits n.toBitVec := by
  simp [bits, bigEndian64, digits_byte]
  rfl

/-- A string of bytes as a message of the standard. -/
def message (data : List UInt8) (short : data.length < 2 ^ 61) : SecureHash.Message where
  bits := bits data
  short := by rw [bits_length]; omega

theorem bits_zeros (n : Nat) : bits (List.replicate n 0) = List.replicate (8 * n) false := by
  induction n with
  | zero => rfl
  | succ n ih =>
    rw [List.replicate_succ, ← List.singleton_append, bits_append, ih, Nat.mul_succ, Nat.add_comm,
      List.replicate_add]
    rfl

/-- The bytes added to a message are the padding of the standard. -/
theorem bits_padded {data : List UInt8} (short : data.length < 2 ^ 61) :
    bits (padded data) = (message data short).pad := by
  have count : (message data short).bits.length = 8 * data.length := bits_length data
  have zeros : SecureHash.zeros (8 * data.length) =
      7 + 8 * ((120 - (data.length + 1) % 64) % 64) :=
    SecureHash.zeros_eq (by omega) (by omega)
  have length : (UInt64.ofNat data.length * 8).toBitVec =
      BitVec.ofNatLT (8 * data.length) (by omega) := by
    apply BitVec.eq_of_toNat_eq
    rw [BitVec.toNat_ofNatLT, UInt64.toNat_toBitVec, UInt64.toNat_mul, UInt64.toNat_ofNat']
    change data.length % 2 ^ 64 * 8 % 2 ^ 64 = _
    omega
  have marker : bits [0x80] = true :: List.replicate 7 false := by decide
  rw [padded, bits_append, bits_append, bits_append, bits_zeros, bits_bigEndian64, marker, length]
  simp only [SecureHash.Message.pad, count, zeros, List.replicate_add, List.append_assoc,
    List.cons_append]
  rfl

theorem toDigest_bits (w : Words) : bits w.toDigest.bytes = (stateOf w).digits := by
  simp only [Words.toDigest, bits_append, bits_bigEndian32, SecureHash.State.digits, stateOf]

theorem fold_padded {data : List UInt8} (short : data.length < 2 ^ 61) :
    bits (absorb ((padded data).length / 64) initialWords (padded data)).1.toDigest.bytes =
      (message data short).hash := by
  have blocks : (bits (padded data)).length / 512 = (padded data).length / 64 := by
    rw [bits_length]
    omega
  rw [toDigest_bits, absorb_stateOf _ (Nat.mul_div_le _ _), initialWords_eq,
    SecureHash.Message.hash, ← bits_padded short, SecureHash.fold, blocks]

/-- However a string is cut into updates, and with empty ones among them, its digest is that of
the whole string and of the standard; the padding loop runs fewer than 64 times. -/
theorem streamed_digest (chunks : List (List UInt8)) (short : chunks.flatten.length < 2 ^ 61) :
    (∀ fuel ≥ 64,
      ((chunks.foldl Sha256.update {}).finish fuel).map Prod.fst =
          some (SiteFabric.Sha256.digestBytes chunks.flatten) ∧
        digestBytes fuel chunks.flatten =
          some (SiteFabric.Sha256.digestBytes chunks.flatten)) ∧
      bits (SiteFabric.Sha256.digestBytes chunks.flatten).bytes =
        (message chunks.flatten short).hash := by
  rw [digestBytes_eq]
  refine ⟨fun fuel enough => ⟨?_, ?_⟩, fold_padded short⟩
  · exact (Sha256.streamed_fresh.updates chunks).finish enough
  · exact (Sha256.streamed_fresh.update chunks.flatten).finish enough

/-- The standard's digest of three letters. -/
theorem streamed_digest_abc :
    (message [0x61, 0x62, 0x63] (by decide)).hash =
      bits [0xba, 0x78, 0x16, 0xbf, 0x8f, 0x01, 0xcf, 0xea, 0x41, 0x41, 0x40, 0xde, 0x5d, 0xae,
        0x22, 0x23, 0xb0, 0x03, 0x61, 0xa3, 0x96, 0x17, 0x7a, 0x9c, 0xb4, 0x10, 0xff, 0x61, 0xf2,
        0x00, 0x15, 0xad] :=
  (streamed_digest [[0x61], [], [0x62, 0x63]] (by decide)).2.symm.trans
    (congrArg bits (by decide +kernel))

end SiteFabric.Internal
