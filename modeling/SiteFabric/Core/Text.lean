import Mathlib

/-! Byte strings and legal identities.
A `std::string` is an arbitrary byte sequence, so a text here is a list of
bytes and not a Lean string: nothing below assumes that a text read from a peer
is well-formed Unicode. Texts compare byte by byte, unsigned, as
`std::char_traits<char>::compare` does. -/

namespace SiteFabric

structure Text where
  bytes : List UInt8
deriving DecidableEq

namespace Text

def empty : Text := ⟨[]⟩

def isEmpty (t : Text) : Bool := t.bytes.isEmpty

def size (t : Text) : Nat := t.bytes.length

instance : Inhabited Text := ⟨empty⟩

instance : Append Text := ⟨fun a b => ⟨a.bytes ++ b.bytes⟩⟩

@[simp] theorem bytes_append (a b : Text) : (a ++ b).bytes = a.bytes ++ b.bytes := rfl

/-- The rank under which texts are compared: their bytes, as numbers. -/
def rank (t : Text) : List Nat := t.bytes.map UInt8.toNat

theorem rank_injective : Function.Injective rank := by
  intro a b same
  have bytes : a.bytes = b.bytes :=
    List.map_injective_iff.mpr (fun _ _ equal => UInt8.toNat_inj.mp equal) same
  cases a
  cases b
  simpa using bytes

instance : LinearOrder Text := LinearOrder.lift' rank rank_injective

end Text

/-- A literal of the source. Every literal used below is ASCII. -/
def ascii (s : String) : Text := ⟨s.toList.map fun c => UInt8.ofNat c.toNat⟩

/-- `std::to_string` of an unsigned value. -/
def decimal (n : Nat) : Text := ⟨(Nat.toDigits 10 n).map fun c => UInt8.ofNat c.toNat⟩

/-- `std::to_string` of a signed 64-bit value. -/
def signedDecimal (z : Int64) : Text :=
  if z < 0 then ⟨[45]⟩ ++ decimal z.toInt.natAbs else decimal z.toInt.natAbs

def slash : UInt8 := 47

private theorem digit_bounds {n : Nat} {c : Char} (member : c ∈ Nat.toDigits 10 n) :
    48 ≤ c.toNat ∧ c.toNat ≤ 57 := by
  have digit := Nat.isDigit_of_mem_toDigits (by omega) (by omega) member
  simp only [Char.isDigit, Bool.and_eq_true, decide_eq_true_eq, ge_iff_le,
    UInt32.le_iff_toNat_le] at digit
  exact digit

private theorem digit_byte {n : Nat} {c : Char} (member : c ∈ Nat.toDigits 10 n) :
    (UInt8.ofNat c.toNat).toNat = c.toNat := by
  have bounds := digit_bounds member
  rw [UInt8.toNat_ofNat', Nat.mod_eq_of_lt (by omega)]

theorem slash_notMem_decimal (n : Nat) : slash ∉ (decimal n).bytes := by
  intro member
  obtain ⟨c, digit, equal⟩ := List.mem_map.mp member
  have bounds := digit_bounds digit
  have value := congrArg UInt8.toNat equal
  rw [digit_byte digit] at value
  have code : slash.toNat = 47 := rfl
  omega

/-- The digits are read back from their bytes, so no two values render alike. -/
private theorem decimal_digits (n : Nat) :
    (decimal n).bytes.map (fun b => Char.ofNat b.toNat) = Nat.toDigits 10 n := by
  rw [decimal, List.map_map]
  conv_rhs => rw [← List.map_id (Nat.toDigits 10 n)]
  refine List.map_congr_left fun c member => ?_
  simp only [Function.comp_apply, digit_byte member, id_eq]
  exact Char.ofNat_toNat c

theorem decimal_injective : Function.Injective decimal := by
  intro a b same
  have digits : Nat.toDigits 10 a = Nat.toDigits 10 b := by
    rw [← decimal_digits, ← decimal_digits, same]
  rw [← Nat.ofDigitChars_ten_toDigits (n := a), digits, Nat.ofDigitChars_ten_toDigits]

/-- Bytes an identity may begin with: letters and digits. -/
def isLead (c : UInt8) : Bool :=
  (65 ≤ c && c ≤ 90) || (97 ≤ c && c ≤ 122) || (48 ≤ c && c ≤ 57)

/-- Bytes an identity may continue with: the lead bytes and `.`, `_`, `-`, `:`. -/
def isTail (c : UInt8) : Bool :=
  isLead c || c == 46 || c == 95 || c == 45 || c == 58

namespace Limits

def maxIdentifierBytes : Nat := 192

end Limits

/-- `is_valid_identifier`: non-empty, bounded, a lead byte first, tail bytes
throughout, and no trailing separator. -/
def isValidIdentifier (t : Text) : Bool :=
  match t.bytes with
  | [] => false
  | first :: rest =>
    if t.size > Limits.maxIdentifierBytes then false
    else if !isLead first then false
    else if !(first :: rest).all isTail then false
    else
      let last := (first :: rest).getLast (by simp)
      last != 58 && last != 46 && last != 95 && last != 45

theorem tail_of_valid {t : Text} (valid : isValidIdentifier t = true) :
    ∀ c ∈ t.bytes, isTail c = true := by
  unfold isValidIdentifier at valid
  split at valid
  · simp at valid
  · rename_i first rest bytes
    have all : (first :: rest).all isTail = true := by grind
    rw [bytes]
    exact List.all_eq_true.mp all

theorem slash_notMem_of_valid {t : Text} (valid : isValidIdentifier t = true) :
    slash ∉ t.bytes := fun member => absurd (tail_of_valid valid slash member) (by decide)

/-- Two texts joined at the first slash are told apart on both sides of it. -/
theorem append_slash_inj {a b x y : List UInt8} (left : slash ∉ a) (right : slash ∉ b)
    (same : a ++ slash :: x = b ++ slash :: y) : a = b ∧ x = y := by
  induction a generalizing b with
  | nil =>
    cases b with
    | nil => exact ⟨rfl, by simpa using same⟩
    | cons c b =>
      simp only [List.nil_append, List.cons_append, List.cons.injEq] at same
      exact absurd (same.1 ▸ List.mem_cons_self) right
  | cons d a ih =>
    cases b with
    | nil =>
      simp only [List.nil_append, List.cons_append, List.cons.injEq] at same
      exact absurd (same.1 ▸ List.mem_cons_self) left
    | cons c b =>
      simp only [List.cons_append, List.cons.injEq] at same
      obtain ⟨rfl, rest⟩ := same
      have step := ih (List.not_mem_of_not_mem_cons left)
        (List.not_mem_of_not_mem_cons right) rest
      exact ⟨by rw [step.1], step.2⟩

end SiteFabric
