import SiteFabric.Lib.Run

/-! Threads that take turns over a shared state.
Each thread stands somewhere of its own, and a turn moves one of them and the
shared state with it. A schedule is the list of the threads that have the turns,
so a run of a schedule is one interleaving of all of them. -/

namespace SiteFabric.Lib

/-- A shared state, and where each thread stands. -/
structure Pool (ι σ ℓ : Type) where
  shared : σ
  place : ι → ℓ

namespace Pool

variable {ι σ ℓ : Type} [DecidableEq ι] (advance : σ → ℓ → σ × ℓ) (p : Pool ι σ ℓ) (i : ι)

def turn : Pool ι σ ℓ where
  shared := (advance p.shared (p.place i)).1
  place := Function.update p.place i (advance p.shared (p.place i)).2

@[simp] theorem turn_shared : (p.turn advance i).shared = (advance p.shared (p.place i)).1 := rfl

@[simp] theorem turn_place : (p.turn advance i).place i = (advance p.shared (p.place i)).2 :=
  Function.update_self ..

/-- The pool once thread `i` and the shared state are as `later` says. -/
def moved (later : σ × ℓ) : Pool ι σ ℓ where
  shared := later.1
  place := Function.update p.place i later.2

theorem turn_eq_moved : p.turn advance i = p.moved i (advance p.shared (p.place i)) := rfl

section Moved

variable {p i} {later : σ × ℓ}

@[simp] theorem moved_shared : (p.moved i later).shared = later.1 := rfl

@[simp] theorem moved_place : (p.moved i later).place i = later.2 := Function.update_self ..

theorem moved_place_of_ne {j : ι} (other : j ≠ i) : (p.moved i later).place j = p.place j :=
  Function.update_of_ne other ..

/-- What holds of every place after a move, from the mover and from the others. -/
theorem forall_moved {P : ι → ℓ → Prop} (mover : P i later.2)
    (others : ∀ j, j ≠ i → P j (p.place j)) (j : ι) : P j ((p.moved i later).place j) := by
  by_cases here : j = i
  · subst here
    rw [moved_place]
    exact mover
  · rw [moved_place_of_ne here]
    exact others j here

end Moved

end Pool

end SiteFabric.Lib
