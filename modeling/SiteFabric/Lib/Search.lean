import Mathlib.Data.Finset.Sort

/-! Bisection on a sorted list. The loop halves a window of positions; where a predicate
splits the window, it ends at the split, whatever the length. -/

namespace SiteFabric.Lib

/-- The halving loop, with the start of the window and its length. -/
def lowerBound (below : Nat → Bool) (first len : Nat) : Nat :=
  if len = 0 then first
  else
    let half := len / 2
    let middle := first + half
    if below middle then lowerBound below (middle + 1) (len - half - 1)
    else lowerBound below first half
termination_by len

/-- A window holds the split and the predicate is cut there. -/
structure Window (below : Nat → Bool) (first len split : Nat) : Prop where
  low : first ≤ split
  high : split ≤ first + len
  cut : ∀ i, first ≤ i → i < first + len → (below i = true ↔ i < split)

theorem lowerBound_eq {below : Nat → Bool} {first len split : Nat}
    (window : Window below first len split) : lowerBound below first len = split := by
  fun_induction lowerBound below first len with
  | case1 first =>
    have low := window.low
    have high := window.high
    omega
  | case2 first len some half middle smaller ih =>
    have inside : middle < first + len := by omega
    have right : middle < split := (window.cut middle (Nat.le_add_right _ _) inside).mp smaller
    have high := window.high
    exact ih ⟨right, by omega, fun i low high => window.cut i (by omega) (by omega)⟩
  | case3 first len some half middle larger ih =>
    have inside : middle < first + len := by omega
    have left : split ≤ middle := Nat.le_of_not_lt fun right =>
      larger ((window.cut middle (Nat.le_add_right _ _) inside).mpr right)
    exact ih ⟨window.low, left, fun i low high => window.cut i low (by omega)⟩

section Sorted

variable {α : Type} [LinearOrder α]

/-- Where the elements below `x` end. -/
def position (items : List α) (x : α) : Nat :=
  lowerBound (fun i => items[i]?.any (· < x)) 0 items.length

/-- Whether the element at that position is `x`. -/
def search (items : List α) (x : α) : Bool :=
  items[position items x]?.any fun found => !(x < found)

variable {items : List α} (increasing : items.Pairwise (· < ·)) (x : α)

include increasing

theorem below_iff (i : Nat) :
    items[i]?.any (· < x) = true ↔ i < (items.takeWhile (· < x)).length := by
  induction items generalizing i with
  | nil => simp
  | cons a items ih =>
    obtain ⟨first, rest⟩ := List.pairwise_cons.mp increasing
    by_cases smaller : a < x
    · rw [List.takeWhile_cons_of_pos (p := (· < x)) (decide_eq_true smaller), List.length_cons]
      cases i with
      | zero => simpa using smaller
      | succ i => rw [List.getElem?_cons_succ, ih rest, Nat.succ_lt_succ_iff]
    · rw [List.takeWhile_cons_of_neg (p := (· < x)) (by simpa using smaller)]
      refine iff_of_false (fun found => ?_) (Nat.not_lt_zero i)
      obtain ⟨b, held, below⟩ := (Option.any_eq_true _ _).mp found
      have least : a ≤ b := by
        rcases List.mem_cons.mp (List.mem_of_getElem? held) with rfl | later
        · exact le_refl b
        · exact (first b later).le
      exact smaller (lt_of_le_of_lt least (of_decide_eq_true below))

theorem position_eq : position items x = (items.takeWhile (· < x)).length := by
  apply lowerBound_eq
  refine ⟨Nat.zero_le _, ?_, fun i _ _ => below_iff increasing x i⟩
  rw [Nat.zero_add]
  exact (List.takeWhile_prefix _).length_le

theorem take_position : items.take (position items x) = items.takeWhile (· < x) := by
  rw [position_eq increasing]
  exact (List.prefix_iff_eq_take.mp (List.takeWhile_prefix _)).symm

theorem drop_position : items.drop (position items x) = items.dropWhile (· < x) := by
  have whole : items.take (position items x) ++ items.drop (position items x) =
      items.takeWhile (· < x) ++ items.dropWhile (· < x) :=
    (List.take_append_drop _ _).trans List.takeWhile_append_dropWhile.symm
  rw [take_position increasing] at whole
  exact List.append_cancel_left whole

/-- What is in the list is where it is looked for. -/
theorem dropWhile_of_mem {x : α} (known : x ∈ items) :
    ∃ after, items.dropWhile (· < x) = x :: after := by
  obtain ⟨before, after, split⟩ := List.append_of_mem known
  rw [split] at increasing
  obtain ⟨_, _, across⟩ := List.pairwise_append.mp increasing
  refine ⟨after, ?_⟩
  rw [split, List.dropWhile_append_of_pos fun r member =>
    decide_eq_true (across r member x List.mem_cons_self)]
  exact List.dropWhile_cons_of_neg (by simp)

theorem getElem?_position : items[position items x]? = (items.dropWhile (· < x)).head? := by
  rw [← drop_position increasing, List.head?_drop]

theorem search_iff : search items x = true ↔ x ∈ items := by
  rw [search, getElem?_position increasing]
  constructor
  · intro found
    obtain ⟨y, head, larger⟩ := (Option.any_eq_true _ _).mp found
    have stops := List.head?_dropWhile_not (fun r => decide (r < x)) items
    rw [head] at stops
    have same : y = x := le_antisymm (by simpa using larger) (not_lt.mp (of_decide_eq_false stops))
    exact (List.dropWhile_sublist _).subset (List.mem_of_head? (same ▸ head))
  · intro known
    obtain ⟨after, there⟩ := dropWhile_of_mem increasing known
    rw [there]
    simp

end Sorted

end SiteFabric.Lib
