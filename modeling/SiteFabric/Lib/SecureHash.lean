import Mathlib

/-! The secure hash with 256-bit digests, on messages of bits.
The constants are fractional parts of roots of primes, padding is the least that fills the
last block, the schedule is a recurrence, and a digest is the fold of the rounds over the
blocks of the padded message. -/

namespace SiteFabric.Lib.SecureHash

abbrev Word := BitVec 32

def choose (x y z : Word) : Word := (x &&& y) ^^^ (~~~x &&& z)

def majority (x y z : Word) : Word := (x &&& y) ^^^ (x &&& z) ^^^ (y &&& z)

def upperSigma0 (x : Word) : Word := x.rotateRight 2 ^^^ x.rotateRight 13 ^^^ x.rotateRight 22

def upperSigma1 (x : Word) : Word := x.rotateRight 6 ^^^ x.rotateRight 11 ^^^ x.rotateRight 25

def lowerSigma0 (x : Word) : Word := x.rotateRight 7 ^^^ x.rotateRight 18 ^^^ x >>> 3

def lowerSigma1 (x : Word) : Word := x.rotateRight 17 ^^^ x.rotateRight 19 ^^^ x >>> 10

/-- The first 32 bits of the fractional part of the `n`-th root of `a`. -/
def rootFraction (n a : Nat) : Word := BitVec.ofNat 32 (Nat.nthRoot n (a * 2 ^ (32 * n)))

theorem rootFraction_eq {n a : Nat} (whole : Nat) (fraction : Word)
    (below : (whole * 2 ^ 32 + fraction.toNat) ^ n ≤ a * 2 ^ (32 * n))
    (above : a * 2 ^ (32 * n) < (whole * 2 ^ 32 + fraction.toNat + 1) ^ n) :
    rootFraction n a = fraction := by
  rw [rootFraction, Nat.nthRoot_eq_of_le_of_lt below above]
  apply BitVec.eq_of_toNat_eq
  rw [BitVec.toNat_ofNat, Nat.add_mod, Nat.mul_mod_left, Nat.zero_add, Nat.mod_mod,
    Nat.mod_eq_of_lt fraction.isLt]

/-- The members below a bound, in order, are the first of the predicate. -/
theorem nth_filter_range (p : Nat → Prop) [DecidablePred p] (bound : Nat) {t : Nat}
    (found : t < ((List.range bound).filter p).length) :
    Nat.nth p t = ((List.range bound).filter p).getD t 0 := by
  induction bound with
  | zero => exact absurd found (Nat.not_lt_zero t)
  | succ bound ih =>
    rw [List.range_succ, List.filter_append] at found ⊢
    by_cases early : t < ((List.range bound).filter p).length
    · rw [ih early, List.getD_append _ _ _ _ early]
    · by_cases holds : p bound
      · have single : [bound].filter (p ·) = [bound] :=
          List.filter_cons_of_pos (decide_eq_true holds)
        rw [single, List.length_append, List.length_singleton] at found
        have last : t = ((List.range bound).filter p).length := by omega
        have count : Nat.count p bound = t := by
          rw [Nat.count, List.countP_eq_length_filter, last]
        rw [single, last, List.getD_append_right _ _ _ _ (Nat.le_refl _), Nat.sub_self, ← last,
          ← count, Nat.nth_count holds]
        rfl
      · have none : [bound].filter (p ·) = [] :=
          List.filter_cons_of_neg (by simpa using holds)
        rw [none, List.append_nil] at found
        exact absurd found early

/-- A number below a square is prime when nothing below the root divides it. -/
theorem prime_iff_trial {n b : Nat} (below : n < b * b) :
    n.Prime ↔ 2 ≤ n ∧ ∀ m < b, 2 ≤ m → m < n → ¬m ∣ n := by
  rw [Nat.prime_def_le_sqrt]
  refine and_congr_right fun two => ⟨fun least m _ large small divides => ?_,
    fun trial m large small => ?_⟩
  · obtain ⟨k, rfl⟩ := divides
    have factor : 2 ≤ k := by
      by_contra few
      have one : k ≤ 1 := by omega
      have : m * k ≤ m * 1 := Nat.mul_le_mul_left m one
      omega
    rcases Nat.le_total m k with first | second
    · exact least m large (Nat.le_sqrt.mpr (Nat.mul_le_mul_left m first)) ⟨k, rfl⟩
    · exact least k factor (Nat.le_sqrt.mpr (Nat.mul_le_mul_right k second)) ⟨m, Nat.mul_comm m k⟩
  · have square : m * m ≤ n := Nat.le_sqrt.mp small
    have root : m < b := Nat.mul_self_lt_mul_self_iff.mp (Nat.lt_of_le_of_lt square below)
    have proper : m < n := Nat.lt_of_lt_of_le (Nat.lt_mul_self_iff.mpr large) square
    exact trial m root large proper

/-- The constant of a round, from the cube root of a prime. -/
noncomputable def roundConstant (t : Nat) : Word := rootFraction 3 (Nat.nth Nat.Prime t)

structure State where
  a : Word
  b : Word
  c : Word
  d : Word
  e : Word
  f : Word
  g : Word
  h : Word

/-- The initial value, from the square roots of the first eight primes. -/
noncomputable def initial : State where
  a := rootFraction 2 (Nat.nth Nat.Prime 0)
  b := rootFraction 2 (Nat.nth Nat.Prime 1)
  c := rootFraction 2 (Nat.nth Nat.Prime 2)
  d := rootFraction 2 (Nat.nth Nat.Prime 3)
  e := rootFraction 2 (Nat.nth Nat.Prime 4)
  f := rootFraction 2 (Nat.nth Nat.Prime 5)
  g := rootFraction 2 (Nat.nth Nat.Prime 6)
  h := rootFraction 2 (Nat.nth Nat.Prime 7)

/-- The schedule of a block whose first sixteen words are given. -/
def schedule (block : Nat → Word) (t : Nat) : Word :=
  if t < 16 then block t
  else lowerSigma1 (schedule block (t - 2)) + schedule block (t - 7) +
    lowerSigma0 (schedule block (t - 15)) + schedule block (t - 16)

theorem schedule_of_lt (block : Nat → Word) {t : Nat} (early : t < 16) :
    schedule block t = block t := by
  rw [schedule, if_pos early]

theorem schedule_add (block : Nat → Word) (t : Nat) :
    schedule block (t + 16) = lowerSigma1 (schedule block (t + 14)) + schedule block (t + 9) +
      lowerSigma0 (schedule block (t + 1)) + schedule block t := by
  rw [schedule, if_neg (by omega)]
  rfl

/-- One round with a constant and a word of the schedule. -/
def round (s : State) (k w : Word) : State :=
  let t1 := s.h + upperSigma1 s.e + choose s.e s.f s.g + k + w
  let t2 := upperSigma0 s.a + majority s.a s.b s.c
  ⟨t1 + t2, s.a, s.b, s.c, s.d + t1, s.e, s.f, s.g⟩

def State.add (s r : State) : State :=
  ⟨s.a + r.a, s.b + r.b, s.c + r.c, s.d + r.d, s.e + r.e, s.f + r.f, s.g + r.g, s.h + r.h⟩

/-- The sixty-four rounds of a block, added to the value before them. -/
noncomputable def compress (s : State) (block : Nat → Word) : State :=
  s.add ((List.range 64).foldl (fun r t => round r (roundConstant t) (schedule block t)) s)

theorem schedule_congr {block block' : Nat → Word} (same : ∀ t < 16, block t = block' t) :
    schedule block = schedule block' := by
  funext t
  induction t using Nat.strong_induction_on with
  | h t ih =>
    by_cases early : t < 16
    · rw [schedule_of_lt _ early, schedule_of_lt _ early, same t early]
    · obtain ⟨i, rfl⟩ := Nat.exists_eq_add_of_le' (Nat.le_of_not_lt early)
      rw [schedule_add, schedule_add, ih (i + 14) (by omega), ih (i + 9) (by omega),
        ih (i + 1) (by omega), ih i (by omega)]

theorem compress_congr (s : State) {block block' : Nat → Word}
    (same : ∀ t < 16, block t = block' t) : compress s block = compress s block' := by
  rw [compress, compress, schedule_congr same]

/-- The bits of a word, the highest first. -/
def digits {w : Nat} (x : BitVec w) : List Bool := List.ofFn x.getMsb

/-- The word that starts at a position, the highest bit first. -/
def wordAt (bits : List Bool) (start : Nat) : Word :=
  BitVec.ofFnBE fun j : Fin 32 => bits.getD (start + j) false

/-- Some count of zeros brings a marked message to 64 bits short of a block. -/
theorem exists_zeros (l : Nat) : ∃ k, (l + 1 + k) % 512 = 448 :=
  ⟨(448 + 512 - (l + 1) % 512) % 512, by omega⟩

/-- The least such count. -/
def zeros (l : Nat) : Nat := Nat.find (exists_zeros l)

theorem zeros_eq {l k : Nat} (fits : (l + 1 + k) % 512 = 448) (few : k < 512) : zeros l = k := by
  apply (Nat.find_eq_iff _).mpr
  refine ⟨fits, fun fewer below => ?_⟩
  omega

/-- A message whose length can be written in 64 bits. -/
structure Message where
  bits : List Bool
  short : bits.length < 2 ^ 64

def Message.pad (m : Message) : List Bool :=
  m.bits ++ true :: List.replicate (zeros m.bits.length) false ++
    digits (BitVec.ofNatLT m.bits.length m.short)

/-- The fold of the compression over the blocks of 512 bits. -/
noncomputable def fold (padded : List Bool) : State :=
  (List.range (padded.length / 512)).foldl
    (fun s i => compress s fun t => wordAt padded (512 * i + 32 * t)) initial

def State.digits (s : State) : List Bool :=
  SecureHash.digits s.a ++ SecureHash.digits s.b ++ SecureHash.digits s.c ++
    SecureHash.digits s.d ++ SecureHash.digits s.e ++ SecureHash.digits s.f ++
    SecureHash.digits s.g ++ SecureHash.digits s.h

noncomputable def Message.hash (m : Message) : List Bool := (fold m.pad).digits

end SiteFabric.Lib.SecureHash
