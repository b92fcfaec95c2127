import Mathlib

/-! Elements that arrive in pieces.
A reader looks again and again at a source: a look brings a piece, nothing, or a
break. Elements between two breaks are one burst. Reading an exact count sees the
bursts only, not how they were cut into pieces. -/

namespace SiteFabric.Lib

inductive Arrival (α β : Type) where
  | data (piece : List α)
  | again
  | stop (why : β)

/-- The first burst, and each break with the burst behind it. -/
structure Bursts (α β : Type) where
  first : List α := []
  later : List (β × List α) := []

namespace Bursts

variable {α β : Type}

def prepend (piece : List α) (s : Bursts α β) : Bursts α β := { s with first := piece ++ s.first }

/-- The bursts behind the first break, if there is one. -/
def next (s : Bursts α β) : Option β × Bursts α β :=
  match s.later with
  | [] => (none, {})
  | (why, burst) :: rest => (some why, { first := burst, later := rest })

/-- An exact count off the first burst, or all of it when it is too short. -/
def take (n : Nat) (s : Bursts α β) : List α × Option (Option β) × Bursts α β :=
  if n ≤ s.first.length then (s.first.take n, none, { s with first := s.first.drop n })
  else (s.first, some s.next.1, s.next.2)

@[simp] theorem prepend_nil (s : Bursts α β) : s.prepend [] = s := rfl

@[simp] theorem prepend_append (one two : List α) (s : Bursts α β) :
    s.prepend (one ++ two) = (s.prepend two).prepend one := by
  simp only [prepend, List.append_assoc]

@[simp] theorem first_prepend (piece : List α) (s : Bursts α β) :
    (s.prepend piece).first = piece ++ s.first := rfl

@[simp] theorem next_prepend (piece : List α) (s : Bursts α β) : (s.prepend piece).next = s.next := rfl

/-- A piece that is not too long is taken first. -/
theorem take_prepend {n : Nat} {piece : List α} (fits : piece.length ≤ n) (s : Bursts α β) :
    (s.prepend piece).take n =
      (piece ++ (s.take (n - piece.length)).1, (s.take (n - piece.length)).2) := by
  have drops : piece.drop n = [] := List.drop_eq_nil_of_le fits
  have takes : piece.take n = piece := List.take_of_length_le fits
  unfold take
  simp only [first_prepend, next_prepend, List.length_append]
  by_cases enough : n ≤ piece.length + s.first.length
  · rw [if_pos enough, if_pos (by omega), List.take_append, takes, List.drop_append, drops]
    rfl
  · rw [if_neg enough, if_neg (by omega)]

theorem take_of_le {n : Nat} {s : Bursts α β} (enough : n ≤ s.first.length) :
    s.take n = (s.first.take n, none, { s with first := s.first.drop n }) :=
  if_pos enough

theorem take_of_lt {n : Nat} {s : Bursts α β} (short : s.first.length < n) :
    s.take n = (s.first, some s.next.1, s.next.2) :=
  if_neg (Nat.not_le.mpr short)

/-- The elements and the breaks. -/
def weight (s : Bursts α β) : Nat :=
  s.first.length + (s.later.map fun broken => broken.2.length + 1).sum

theorem weight_next {s : Bursts α β} {why : β} {rest : Bursts α β} (broken : s.next = (some why, rest)) :
    rest.weight < s.weight := by
  obtain ⟨first, later⟩ := s
  cases later with
  | nil => cases broken
  | cons head more =>
    obtain ⟨-, rfl⟩ := Prod.mk.inj broken
    simp only [weight, List.map_cons, List.sum_cons]
    omega

end Bursts

namespace Arrival

variable {α β : Type}

def bursts : List (Arrival α β) → Bursts α β
  | [] => {}
  | .data piece :: rest => (bursts rest).prepend piece
  | .again :: rest => bursts rest
  | .stop why :: rest => { later := (why, (bursts rest).first) :: (bursts rest).later }

/-- Every look uses some of this up. -/
def load : List (Arrival α β) → Nat
  | [] => 0
  | .data piece :: rest => piece.length + 1 + load rest
  | .again :: rest => 1 + load rest
  | .stop _ :: rest => 1 + load rest

@[simp] theorem bursts_nil : bursts ([] : List (Arrival α β)) = {} := rfl

@[simp] theorem bursts_data (piece : List α) (rest : List (Arrival α β)) :
    bursts (.data piece :: rest) = (bursts rest).prepend piece := rfl

@[simp] theorem bursts_again (rest : List (Arrival α β)) : bursts (.again :: rest) = bursts rest := rfl

@[simp] theorem next_stop (why : β) (rest : List (Arrival α β)) :
    (bursts (.stop why :: rest)).next = (some why, bursts rest) := rfl

@[simp] theorem first_stop (why : β) (rest : List (Arrival α β)) :
    (bursts (.stop why :: rest)).first = [] := rfl

end Arrival

end SiteFabric.Lib
