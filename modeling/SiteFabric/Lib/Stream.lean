import SiteFabric.Lib.Reader

/-! Streams of frames.
A stream is read frame by frame until its input ends or a frame is refused. A
piece is a run of bytes that reads as one frame whatever follows it; where every
frame taken is a piece, an input falls into pieces and the tail that stopped the
reading, and reading goes on across anything that replaces the tail. -/

namespace SiteFabric.Lib.Reader

variable {ε α : Type}

/-- The frames taken, the input left, and what refused it. -/
structure Framing (ε α : Type) where
  frames : List α := []
  tail : List UInt8 := []
  stop : Option ε := none

def Framing.push (a : α) (s : Framing ε α) : Framing ε α := { s with frames := a :: s.frames }

def streamFrom (r : Reader ε α) : Nat → List UInt8 → Framing ε α
  | 0, input => { tail := input }
  | fuel + 1, input =>
    if input.isEmpty then {}
    else match r input with
      | .error e => { tail := input, stop := some e }
      | .ok (a, rest) => (streamFrom r fuel rest).push a

/-- No frame is empty, so the rounds are no more than the bytes. -/
def stream (r : Reader ε α) (input : List UInt8) : Framing ε α := streamFrom r input.length input

/-- Bytes that read as one frame whatever follows them. -/
structure Piece (r : Reader ε α) where
  bytes : List UInt8
  frame : α
  solid : 0 < bytes.length
  whole : ∀ rest, r (bytes ++ rest) = .ok (frame, rest)

def joined {r : Reader ε α} (pieces : List (Piece r)) : List UInt8 := pieces.flatMap Piece.bytes

@[simp] theorem joined_nil {r : Reader ε α} : joined ([] : List (Piece r)) = [] := rfl

@[simp] theorem joined_cons {r : Reader ε α} (p : Piece r) (pieces : List (Piece r)) :
    joined (p :: pieces) = p.bytes ++ joined pieces := rfl

@[simp] theorem joined_append {r : Reader ε α} (one other : List (Piece r)) :
    joined (one ++ other) = joined one ++ joined other :=
  List.flatMap_append

/-- What is written item by item is read in one way: the same values, off the same bytes. -/
theorem written_injective {β : Type} {r : Reader ε α} {write : β → List UInt8} {value : β → α}
    (solid : ∀ b, 0 < (write b).length) {one other : List β}
    (reads : ∀ b ∈ one ++ other, ∀ rest, r (write b ++ rest) = .ok (value b, rest))
    (same : one.flatMap write = other.flatMap write) :
    one.map value = other.map value ∧ one.map write = other.map write := by
  have nothing (b : β) (items : List β) : (b :: items).flatMap write ≠ [] := by
    have size := solid b
    rw [List.flatMap_cons, ne_eq, ← List.length_eq_zero_iff, List.length_append]
    omega
  induction one generalizing other with
  | nil =>
    cases other with
    | nil => exact ⟨rfl, rfl⟩
    | cons b other => exact absurd same.symm (nothing b other)
  | cons a one ih =>
    cases other with
    | nil => exact absurd same (nothing a one)
    | cons b other =>
      rw [List.flatMap_cons, List.flatMap_cons] at same
      have first := reads a (by simp) (one.flatMap write)
      rw [same, reads b (by simp)] at first
      obtain ⟨values, rests⟩ := Prod.mk.inj (Except.ok.inj first)
      have bytes : write a = write b := List.append_cancel_right (same.trans (by rw [rests]))
      obtain ⟨values', bytes'⟩ :=
        ih (fun c member => reads c (by simp at member ⊢; tauto)) rests.symm
      simp only [List.map_cons, values, values', bytes, bytes', and_self]

/-- An input falls into pieces in one way at most. -/
theorem joined_injective {r : Reader ε α} {one other : List (Piece r)}
    (same : joined one = joined other) : one.map Piece.bytes = other.map Piece.bytes :=
  (written_injective Piece.solid (fun p _ => p.whole) same).2

/-- Every frame taken off an input is a piece of it. -/
def Framed (r : Reader ε α) : Prop :=
  ∀ input a rest, r input = .ok (a, rest) → ∃ p : Piece r, p.frame = a ∧ input = p.bytes ++ rest

section

variable {r : Reader ε α}

theorem streamFrom_nil (fuel : Nat) : streamFrom r fuel [] = {} := by cases fuel <;> rfl

theorem streamFrom_cons {fuel : Nat} {input : List UInt8} (some : 0 < input.length) :
    streamFrom r (fuel + 1) input = match r input with
      | .error e => { tail := input, stop := .some e }
      | .ok (a, rest) => (streamFrom r fuel rest).push a := by
  have solid : ¬ input.isEmpty = true := by
    rw [List.isEmpty_iff_length_eq_zero]
    omega
  rw [streamFrom, if_neg solid]

/-- More rounds than bytes change nothing. -/
theorem streamFrom_enough (framed : Framed r) {fuel : Nat} {input : List UInt8}
    (enough : input.length ≤ fuel) : streamFrom r fuel input = stream r input := by
  suffices same : ∀ n m, input.length ≤ n → input.length ≤ m →
      streamFrom r n input = streamFrom r m input from same _ _ enough (Nat.le_refl _)
  clear enough
  induction length : input.length using Nat.strong_induction_on generalizing input with
  | _ size ih =>
    subst length
    intro n m long long'
    rcases Nat.eq_zero_or_pos input.length with none | some
    · rw [List.length_eq_zero_iff.mp none, streamFrom_nil, streamFrom_nil]
    · obtain ⟨n, rfl⟩ : ∃ k, n = k + 1 := ⟨n - 1, by omega⟩
      obtain ⟨m, rfl⟩ : ∃ k, m = k + 1 := ⟨m - 1, by omega⟩
      rw [streamFrom_cons some, streamFrom_cons some]
      cases read : r input with
      | error e => rfl
      | ok taken =>
        obtain ⟨a, rest⟩ := taken
        obtain ⟨p, -, split⟩ := framed input a rest read
        have shorter : rest.length < input.length := by
          have solid := p.solid
          rw [split, List.length_append]
          omega
        exact congrArg (Framing.push a) (ih _ shorter rfl n m (by omega) (by omega))

@[simp] theorem stream_nil : stream r [] = {} := rfl

theorem stream_refused {input : List UInt8} {e : ε} (some : 0 < input.length)
    (refused : r input = .error e) : stream r input = { tail := input, stop := .some e } := by
  obtain ⟨n, size⟩ : ∃ n, input.length = n + 1 := ⟨input.length - 1, by omega⟩
  rw [stream, size, streamFrom_cons some, refused]

theorem stream_piece (framed : Framed r) (p : Piece r) (rest : List UInt8) :
    stream r (p.bytes ++ rest) = (stream r rest).push p.frame := by
  have solid := p.solid
  have size : (p.bytes ++ rest).length = p.bytes.length + rest.length := List.length_append
  obtain ⟨n, length⟩ : ∃ n, (p.bytes ++ rest).length = n + 1 :=
    ⟨(p.bytes ++ rest).length - 1, by omega⟩
  rw [stream, length, streamFrom_cons (by omega), p.whole]
  exact congrArg (Framing.push p.frame) (streamFrom_enough framed (by omega))

theorem stream_joined (framed : Framed r) (pieces : List (Piece r)) (rest : List UInt8) :
    stream r (joined pieces ++ rest) =
      { stream r rest with frames := pieces.map Piece.frame ++ (stream r rest).frames } := by
  induction pieces with
  | nil => rfl
  | cons p pieces ih =>
    rw [joined_cons, List.append_assoc, stream_piece framed, ih]
    rfl

/-- An input falls into the pieces taken and the tail that stopped the reading. -/
theorem stream_split (framed : Framed r) (input : List UInt8) :
    ∃ (pieces : List (Piece r)) (tail : List UInt8), input = joined pieces ++ tail ∧
      (tail = [] ∨ ∃ e, 0 < tail.length ∧ r tail = .error e) := by
  induction length : input.length using Nat.strong_induction_on generalizing input with
  | _ size ih =>
    subst length
    rcases Nat.eq_zero_or_pos input.length with none | some
    · exact ⟨[], [], List.length_eq_zero_iff.mp none, .inl rfl⟩
    · cases read : r input with
      | error e => exact ⟨[], input, rfl, .inr ⟨e, some, read⟩⟩
      | ok taken =>
        obtain ⟨a, rest⟩ := taken
        obtain ⟨p, -, split⟩ := framed input a rest read
        have shorter : rest.length < input.length := by
          have solid := p.solid
          rw [split, List.length_append]
          omega
        obtain ⟨pieces, tail, whole, ended⟩ := ih _ shorter rest rfl
        refine ⟨p :: pieces, tail, ?_, ended⟩
        rw [joined_cons, List.append_assoc, ← whole, ← split]

end

end SiteFabric.Lib.Reader
