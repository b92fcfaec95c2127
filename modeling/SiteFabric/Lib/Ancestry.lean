import Mathlib

/-! Walks up declared parents.
A parent function may lead anywhere: to a root, to an item nobody knows, far up, or
around in a cycle. A walk runs out of parents within a bound exactly when it can neither
return nor pass the bound. -/

namespace SiteFabric.Lib

open Relation

section Walks

variable {α : Type} (parent : α → Option α)

/-- An item declares another one its parent. -/
def Declares (a b : α) : Prop := parent a = some b

/-- The parents a walk meets, at most so many of them. -/
def follow : Nat → Option α → List α
  | _, none => []
  | 0, some _ => []
  | n + 1, some a => a :: follow n (parent a)

/-- A walk runs out of parents after at most so many. -/
def Ends : Nat → Option α → Prop
  | _, none => True
  | 0, some _ => False
  | n + 1, some a => Ends n (parent a)

instance decidableEnds : ∀ n o, Decidable (Ends parent n o)
  | 0, none | _ + 1, none => isTrue trivial
  | 0, some _ => isFalse id
  | n + 1, some a => decidableEnds n (parent a)

variable {parent}

@[simp] theorem follow_none (n : Nat) : follow parent n none = [] := by cases n <;> rfl

@[simp] theorem ends_none (n : Nat) : Ends parent n none := by cases n <;> trivial

theorem ends_succ {n : Nat} {a : α} : Ends parent (n + 1) (some a) ↔ Ends parent n (parent a) :=
  Iff.rfl

/-- Every step up leaves fewer parents to meet. -/
theorem Ends.above {n : Nat} {a b : α} (ends : Ends parent n (some a))
    (up : TransGen (Declares parent) a b) : ∃ m < n, Ends parent m (some b) := by
  have step : ∀ {n : Nat} {a b : α}, Ends parent n (some a) → Declares parent a b →
      ∃ m < n, Ends parent m (some b) := by
    intro n a b ends declares
    cases n with
    | zero => exact ends.elim
    | succ n =>
      rw [ends_succ, declares] at ends
      exact ⟨n, n.lt_succ_self, ends⟩
  induction up with
  | single declares => exact step ends declares
  | tail _ declares ih =>
    obtain ⟨m, less, ends⟩ := ih
    obtain ⟨k, fewer, ends⟩ := step ends declares
    exact ⟨k, fewer.trans less, ends⟩

/-- A walk that can return to where it is never ends. -/
theorem not_ends_of_loop {a : α} (loop : TransGen (Declares parent) a a) (n : Nat) :
    ¬ Ends parent n (some a) := by
  induction n using Nat.strong_induction_on with
  | h n ih =>
    intro ends
    obtain ⟨m, less, ends⟩ := ends.above loop
    exact ih m less ends

theorem mem_follow {n : Nat} {o : Option α} (ends : Ends parent n o) {b : α} :
    b ∈ follow parent n o ↔ ∃ a, o = some a ∧ ReflTransGen (Declares parent) a b := by
  induction n generalizing o with
  | zero =>
    cases o with
    | none => simp
    | some a => exact ends.elim
  | succ n ih =>
    cases o with
    | none => simp
    | some a =>
      rw [follow, List.mem_cons, ih (ends_succ.mp ends)]
      constructor
      · rintro (rfl | ⟨c, declares, up⟩)
        · exact ⟨b, rfl, .refl⟩
        · exact ⟨a, rfl, .head declares up⟩
      · rintro ⟨a', same, up⟩
        cases same
        rcases up.cases_head with rfl | ⟨c, declares, up⟩
        · exact .inl rfl
        · exact .inr ⟨c, declares, up⟩

/-- The parents an item's walk meets are what is above it. -/
theorem mem_follow_parent {n : Nat} {a b : α} (ends : Ends parent n (parent a)) :
    b ∈ follow parent n (parent a) ↔ TransGen (Declares parent) a b := by
  rw [mem_follow ends, TransGen.head'_iff]
  exact Iff.rfl

theorem not_mem_follow_parent {n : Nat} {a : α} (ends : Ends parent n (parent a)) :
    a ∉ follow parent n (parent a) := fun member =>
  not_ends_of_loop ((mem_follow_parent ends).mp member) (n + 1) ends

theorem nodup_follow {n : Nat} {o : Option α} (ends : Ends parent n o) :
    (follow parent n o).Nodup := by
  induction n generalizing o with
  | zero =>
    cases o with
    | none => simp
    | some a => exact ends.elim
  | succ n ih =>
    cases o with
    | none => simp
    | some a => exact List.nodup_cons.mpr ⟨not_mem_follow_parent ends, ih ends⟩

/-- A walk that ends meets no more than the bound, however far it is followed. -/
theorem Ends.length_le {m : Nat} {o : Option α} (ends : Ends parent m o) (n : Nat) :
    (follow parent n o).length ≤ m := by
  induction n generalizing m o with
  | zero => cases o <;> simp [follow]
  | succ n ih =>
    cases o with
    | none => simp
    | some a =>
      cases m with
      | zero => exact ends.elim
      | succ m => exact Nat.succ_le_succ (ih ends)

/-- A walk ends exactly when it has no parent beyond the bound. -/
theorem ends_iff_length {n : Nat} {o : Option α} :
    Ends parent n o ↔ (follow parent (n + 1) o).length ≤ n := by
  induction n generalizing o with
  | zero =>
    cases o with
    | none => simp
    | some a => exact iff_of_false id (by simp [follow])
  | succ n ih =>
    cases o with
    | none => simp
    | some a =>
      rw [ends_succ, ih, follow, List.length_cons]
      exact Nat.succ_le_succ_iff.symm

theorem follow_prefix {m n : Nat} (le : m ≤ n) (o : Option α) :
    follow parent m o <+: follow parent n o := by
  induction m generalizing n o with
  | zero => cases o <;> simp [follow]
  | succ m ih =>
    cases n with
    | zero => omega
    | succ n =>
      cases o with
      | none => simp
      | some a => exact (List.prefix_cons_inj a).mpr (ih (Nat.succ_le_succ_iff.mp le) _)

/-- A walk that ends meets nothing more beyond the bound. -/
theorem Ends.follow_eq {m n : Nat} {o : Option α} (ends : Ends parent m o) (le : m ≤ n) :
    follow parent n o = follow parent m o := by
  induction m generalizing n o with
  | zero =>
    cases o with
    | none => simp
    | some a => exact ends.elim
  | succ m ih =>
    cases n with
    | zero => omega
    | succ n =>
      cases o with
      | none => rfl
      | some a => exact congrArg (a :: ·) (ih ends (Nat.succ_le_succ_iff.mp le))

variable (parent) in
/-- A walk returns to its start or to something it has met, or has more parents than a
bound. -/
def Loops (bound : Nat) (start : α) (o : Option α) : Prop :=
  ∃ n, ¬ (start :: follow parent n o).Nodup ∨ bound < (follow parent n o).length

/-- A walk loops unless it ends within the bound, away from its start. -/
theorem loops_iff {bound : Nat} {start : α} {o : Option α} :
    Loops parent bound start o ↔ ¬ (Ends parent bound o ∧ start ∉ follow parent bound o) := by
  constructor
  · rintro ⟨n, back | deep⟩ ⟨ends, away⟩
    · have longer : follow parent n o <+: follow parent bound o := by
        rw [← ends.follow_eq (le_max_right n bound)]
        exact follow_prefix (le_max_left n bound) o
      have fresh := List.nodup_cons.mpr ⟨away, nodup_follow ends⟩
      exact back (fresh.sublist ((List.prefix_cons_inj start).mpr longer).sublist)
    · exact absurd (ends.length_le n) (Nat.not_le.mpr deep)
  · intro stuck
    by_contra straight
    refine stuck ⟨ends_iff_length.mpr (Nat.not_lt.mp fun deep => ?_), fun back => ?_⟩
    · exact straight ⟨_, .inr deep⟩
    · exact straight ⟨_, .inl fun nodup => (List.nodup_cons.mp nodup).1 back⟩

/-- The walk from an item loops unless it ends within the bound. -/
theorem loops_parent_iff {bound : Nat} {a : α} :
    Loops parent bound a (parent a) ↔ ¬ Ends parent bound (parent a) := by
  rw [loops_iff, not_and_not_right]
  exact ⟨fun back ends => not_mem_follow_parent ends (back ends), fun stuck ends => (stuck ends).elim⟩

end Walks

section Climbs

variable {α : Type} [DecidableEq α] (parent : α → Option α) (known : α → Bool) (start : α)

/-- A climb collects the known parents it meets. It stops at an item that is not
known, and has no result when it returns or passes the bound. -/
def climb : Nat → Option α → List α → Option (List α)
  | _, none, met => some met
  | 0, some _, _ => none
  | n + 1, some a, met =>
    if met.contains a || a = start then none
    else if known a then climb n (parent a) (met ++ [a])
    else some met

variable {parent known start}

/-- A climb that has come from what it met has a result exactly when the walk ends
away from the start: the known parents the walk meets. -/
theorem climb_eq (unknown : ∀ a, known a = false → parent a = none) {n : Nat} {o : Option α}
    {met : List α} (below : ∀ a ∈ met, ∀ b, o = some b → TransGen (Declares parent) a b) :
    climb parent known start n o met =
      if Ends parent n o ∧ start ∉ follow parent n o then
        some (met ++ (follow parent n o).filter known)
      else none := by
  induction n generalizing o met with
  | zero =>
    cases o with
    | none => simp [climb]
    | some a => exact (if_neg fun both => both.1).symm
  | succ n ih =>
    cases o with
    | none => simp [climb]
    | some a =>
      simp only [climb, ends_succ, follow]
      split
      · next back =>
        refine (if_neg ?_).symm
        rintro ⟨ends, away⟩
        rcases Bool.or_eq_true _ _ ▸ back with returned | here
        · exact not_ends_of_loop (below a (by simpa using returned) a rfl) (n + 1) ends
        · exact away (of_decide_eq_true here ▸ List.mem_cons_self)
      next fresh =>
      have away : start ≠ a := fun same => by simp [same] at fresh
      simp only [List.mem_cons, or_iff_right away]
      split
      · next known =>
        rw [ih, List.filter_cons_of_pos known, List.append_assoc]
        · rfl
        · intro b member c declares
          rcases List.mem_append.mp member with old | new
          · exact (below b old a rfl).tail declares
          · rw [List.mem_singleton.mp new]
            exact .single declares
      · next missing =>
        have root := unknown a (by simpa using missing)
        simp [root, missing]

end Climbs

end SiteFabric.Lib
