import Mathlib

/-! Sorting as the C++ library specifies it.
`std::sort` promises a permutation ordered by its comparator and nothing about
ties, so it is a parameter with those two laws. `std::stable_sort` keeps ties
in place and is an insertion sort, which also serves as one lawful `sort`. -/

namespace SiteFabric.Lib

/-- What the library asks of a comparator. -/
structure StrictWeakOrder {α : Type} (less : α → α → Bool) : Prop where
  asymm : ∀ a b, less a b = true → less b a = false
  cotrans : ∀ a b c, less a c = true → less a b = true ∨ less b c = true

class StdSort where
  sort : {α : Type} → (α → α → Bool) → List α → List α
  perm : ∀ {α : Type} (less : α → α → Bool) (xs : List α), (sort less xs).Perm xs
  sorted : ∀ {α : Type} (less : α → α → Bool), StrictWeakOrder less → ∀ xs : List α,
    (sort less xs).Pairwise fun a b => less b a = false

def stableSort {α : Type} (less : α → α → Bool) (xs : List α) : List α :=
  xs.insertionSort fun a b => less b a = false

theorem stableSort_perm {α : Type} (less : α → α → Bool) (xs : List α) :
    (stableSort less xs).Perm xs :=
  List.perm_insertionSort _ xs

theorem stableSort_sorted {α : Type} {less : α → α → Bool} (order : StrictWeakOrder less)
    (xs : List α) : (stableSort less xs).Pairwise fun a b => less b a = false := by
  have total : Std.Total fun a b : α => less b a = false := by
    refine ⟨fun a b => ?_⟩
    cases forward : less a b with
    | false => exact .inr rfl
    | true => exact .inl (order.asymm a b forward)
  have trans : IsTrans α fun a b => less b a = false := by
    refine ⟨fun a b c first second => ?_⟩
    by_contra backward
    rw [Bool.not_eq_false] at backward
    rcases order.cotrans c b a backward with upper | lower
    · rw [second] at upper
      cases upper
    · rw [first] at lower
      cases lower
  exact List.pairwise_insertionSort _ xs

/-- A stable sort leaves items that tie with each other in their order. -/
theorem filter_stableSort {α : Type} {less : α → α → Bool} {among : α → Bool}
    (tied : ∀ a b, among a = true → among b = true → less b a = false) (xs : List α) :
    (stableSort less xs).filter among = xs.filter among := by
  have insert : ∀ (a : α) (xs : List α),
      (xs.orderedInsert (fun a b => less b a = false) a).filter among = (a :: xs).filter among := by
    intro a xs
    induction xs with
    | nil => rfl
    | cons b xs ih =>
      rw [List.orderedInsert]
      split
      · rfl
      · next skipped =>
        rw [List.filter_cons, ih, List.filter_cons, List.filter_cons, List.filter_cons]
        cases first : among a with
        | false => rfl
        | true =>
          cases second : among b with
          | false => rfl
          | true => exact absurd (tied a b first second) skipped
  induction xs with
  | nil => rfl
  | cons a xs ih =>
    have sorted : stableSort less (a :: xs) =
        (stableSort less xs).orderedInsert (fun a b => less b a = false) a := rfl
    rw [sorted, insert, List.filter_cons, ih, ← List.filter_cons]

instance insertion : StdSort where
  sort := stableSort
  perm := stableSort_perm
  sorted _ order := stableSort_sorted order

export StdSort (sort)

theorem mem_sort [StdSort] {α : Type} {less : α → α → Bool} {xs : List α} {x : α} :
    x ∈ sort less xs ↔ x ∈ xs :=
  (StdSort.perm less xs).mem_iff

/-- The comparator of a key. -/
def byKey {α κ : Type} [LinearOrder κ] (key : α → κ) (a b : α) : Bool := key a < key b

theorem byKey_strictWeak {α κ : Type} [LinearOrder κ] (key : α → κ) :
    StrictWeakOrder (byKey key) where
  asymm a b less := by
    rw [byKey, decide_eq_true_eq] at less
    rw [byKey, decide_eq_false_iff_not]
    exact less.le.not_gt
  cotrans a b c less := by
    rw [byKey, decide_eq_true_eq] at less
    rw [byKey, byKey, decide_eq_true_eq, decide_eq_true_eq]
    by_contra neither
    rw [not_or, not_lt, not_lt] at neither
    exact (neither.2.trans neither.1).not_gt less

theorem mem_sort_byKey [StdSort] {α κ : Type} [LinearOrder κ] (key : α → κ) {xs : List α} {x : α} :
    x ∈ sort (byKey key) xs ↔ x ∈ xs := mem_sort

section Values

variable [StdSort] {α : Type} [LinearOrder α]

theorem sort_ordered (xs : List α) : (sort (byKey id) xs).Pairwise (· ≤ ·) := by
  refine (StdSort.sorted (byKey id) (byKey_strictWeak id) xs).imp fun {a b} kept => ?_
  rw [byKey, decide_eq_false_iff_not, not_lt] at kept
  exact kept

/-- Values in their own order stay where they are. -/
theorem sort_of_ordered {xs : List α} (ordered : xs.Pairwise (· ≤ ·)) : sort (byKey id) xs = xs :=
  List.Perm.eq_of_pairwise' (sort_ordered xs) ordered (StdSort.perm _ xs)

theorem sort_strict {xs : List α} (nodup : xs.Nodup) : (sort (byKey id) xs).Pairwise (· < ·) := by
  have distinct : (sort (byKey id) xs).Nodup := (StdSort.perm _ xs).nodup_iff.mpr nodup
  exact (sort_ordered xs).imp₂ (fun _ _ le ne => lt_of_le_of_ne le ne) distinct

end Values

/-- The last of a sorted list has the highest key. -/
theorem le_getLast_sort [StdSort] {α κ : Type} [LinearOrder κ] {key : α → κ} {xs : List α} {last : α}
    (ends : (sort (byKey key) xs).getLast? = some last) {x : α} (member : x ∈ xs) :
    key x ≤ key last := by
  obtain ⟨before, split⟩ := List.getLast?_eq_some_iff.mp ends
  have sorted := StdSort.sorted (byKey key) (byKey_strictWeak key) xs
  rw [← mem_sort_byKey key, split, List.mem_append, List.mem_singleton] at member
  rw [split, List.pairwise_append] at sorted
  rcases member with earlier | rfl
  · have kept := sorted.2.2 x earlier last (List.mem_singleton_self last)
    rw [byKey, decide_eq_false_iff_not, not_lt] at kept
    exact kept
  · exact le_rfl

end SiteFabric.Lib
