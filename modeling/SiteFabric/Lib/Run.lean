import Mathlib

/-! Runs of a deterministic step function over lists of calls, and the two
rules that carry a fact along a run: an invariant under a guard that every call
meets, and a preorder that every step climbs. -/

namespace SiteFabric.Lib

variable {σ ι : Type} (step : σ → ι → σ)

def run (s : σ) (calls : List ι) : σ := calls.foldl step s

/-- Every call is made in a state that meets the guard with it. -/
def Guarded (guard : σ → ι → Prop) : σ → List ι → Prop
  | _, [] => True
  | s, call :: rest => guard s call ∧ Guarded guard (step s call) rest

instance decidableGuarded (guard : σ → ι → Prop) [∀ s i, Decidable (guard s i)] :
    ∀ s calls, Decidable (Guarded step guard s calls)
  | _, [] => isTrue trivial
  | s, call :: rest =>
    have := decidableGuarded guard (step s call) rest
    inferInstanceAs (Decidable (guard s call ∧ Guarded step guard (step s call) rest))

@[simp] theorem run_nil (s : σ) : run step s [] = s := rfl

@[simp] theorem run_cons (s : σ) (call : ι) (rest : List ι) :
    run step s (call :: rest) = run step (step s call) rest := rfl

theorem run_append (s : σ) (first second : List ι) :
    run step s (first ++ second) = run step (run step s first) second :=
  List.foldl_append

variable {step}

theorem Guarded.append_left {guard : σ → ι → Prop} {s : σ} {first second : List ι}
    (guarded : Guarded step guard s (first ++ second)) : Guarded step guard s first := by
  induction first generalizing s with
  | nil => trivial
  | cons call rest ih => exact ⟨guarded.1, ih guarded.2⟩

theorem Guarded.append_right {guard : σ → ι → Prop} {s : σ} {first second : List ι}
    (guarded : Guarded step guard s (first ++ second)) :
    Guarded step guard (run step s first) second := by
  induction first generalizing s with
  | nil => exact guarded
  | cons call rest ih => exact ih guarded.2

theorem Guarded.append {guard : σ → ι → Prop} {s : σ} {first second : List ι}
    (guarded : Guarded step guard s first) (later : Guarded step guard (run step s first) second) :
    Guarded step guard s (first ++ second) := by
  induction first generalizing s with
  | nil => exact later
  | cons call rest ih => exact ⟨guarded.1, ih guarded.2 later⟩

theorem Guarded.and {guard other : σ → ι → Prop} {s : σ} {calls : List ι}
    (one : Guarded step guard s calls) (two : Guarded step other s calls) :
    Guarded step (fun s call => guard s call ∧ other s call) s calls := by
  induction calls generalizing s with
  | nil => trivial
  | cons call rest ih => exact ⟨⟨one.1, two.1⟩, ih one.2 two.2⟩

theorem run_invariant {guard : σ → ι → Prop} (invariant : σ → Prop)
    (preserved : ∀ s call, invariant s → guard s call → invariant (step s call))
    {s : σ} (calls : List ι) (start : invariant s) (guarded : Guarded step guard s calls) :
    invariant (run step s calls) := by
  induction calls generalizing s with
  | nil => exact start
  | cons call rest ih => exact ih (preserved s call start guarded.1) guarded.2

/-- A step that agrees with another one in every state of a run runs as it does. -/
theorem run_congr {step step' : σ → ι → σ} {invariant : σ → Prop}
    (kept : ∀ s call, invariant s → invariant (step s call))
    (agree : ∀ s call, invariant s → step s call = step' s call)
    {s : σ} (start : invariant s) (calls : List ι) : run step s calls = run step' s calls := by
  induction calls generalizing s with
  | nil => rfl
  | cons call rest ih => rw [run_cons, run_cons, ih (kept s call start), agree s call start]

theorem Guarded.congr {step step' : σ → ι → σ} {invariant : σ → Prop} {guard : σ → ι → Prop}
    (kept : ∀ s call, invariant s → invariant (step s call))
    (agree : ∀ s call, invariant s → step s call = step' s call)
    {s : σ} {calls : List ι} (start : invariant s) (guarded : Guarded step' guard s calls) :
    Guarded step guard s calls := by
  induction calls generalizing s with
  | nil => trivial
  | cons call rest ih =>
    refine ⟨guarded.1, ih (kept s call start) ?_⟩
    rw [agree s call start]
    exact guarded.2

theorem Guarded.imp {guard other : σ → ι → Prop} (implies : ∀ s call, guard s call → other s call)
    {s : σ} {calls : List ι} (guarded : Guarded step guard s calls) :
    Guarded step other s calls := by
  induction calls generalizing s with
  | nil => trivial
  | cons call rest ih => exact ⟨implies s call guarded.1, ih guarded.2⟩

theorem run_stable (invariant : σ → Prop)
    (preserved : ∀ s call, invariant s → invariant (step s call))
    {s : σ} (calls : List ι) (start : invariant s) : invariant (run step s calls) := by
  induction calls generalizing s with
  | nil => exact start
  | cons call rest ih => exact ih (preserved s call start)

theorem guarded_of_stable {invariant : σ → Prop}
    (preserved : ∀ s call, invariant s → invariant (step s call)) {s : σ} (start : invariant s)
    (calls : List ι) : Guarded step (fun s _ => invariant s) s calls := by
  induction calls generalizing s with
  | nil => trivial
  | cons call rest ih => exact ⟨start, ih (preserved s call start)⟩

/-- What does not hold at first and holds at last begins to hold with one call. -/
theorem run_turns {holds : σ → Prop} {s : σ} {calls : List ι} (first : ¬ holds s)
    (last : holds (run step s calls)) :
    ∃ before call rest, calls = before ++ call :: rest ∧ ¬ holds (run step s before) ∧
      holds (step (run step s before) call) := by
  induction calls generalizing s with
  | nil => exact absurd last first
  | cons call rest ih =>
    by_cases turned : holds (step s call)
    · exact ⟨[], call, rest, rfl, first, turned⟩
    · obtain ⟨before, other, later, rfl, stays, turns⟩ := ih turned last
      exact ⟨call :: before, other, later, rfl, stays, turns⟩

/-- A state only climbs a preorder that every step from an invariant state climbs. -/
theorem run_climbs {invariant : σ → Prop} (le : σ → σ → Prop) (refl : ∀ s, le s s)
    (trans : ∀ a b c, le a b → le b c → le a c)
    (climb : ∀ s call, invariant s → le s (step s call) ∧ invariant (step s call))
    {s : σ} (start : invariant s) (calls : List ι) : le s (run step s calls) := by
  induction calls generalizing s with
  | nil => exact refl s
  | cons call rest ih =>
    obtain ⟨rise, kept⟩ := climb s call start
    exact trans _ _ _ rise (ih kept)

/-- Where a step climbs a preorder exactly under its guard, the moments of a run
climb it exactly when every call meets the guard. -/
theorem guarded_iff_climbs {guard : σ → ι → Prop} {invariant : σ → Prop} {r : σ → σ → Prop}
    (refl : ∀ s, r s s) (trans : ∀ a b c, r a b → r b c → r a c)
    (kept : ∀ s call, invariant s → guard s call → invariant (step s call))
    (climb : ∀ s call, invariant s → (guard s call ↔ r s (step s call)))
    {s : σ} (start : invariant s) (calls : List ι) :
    Guarded step guard s calls ↔ ∀ before later, before <+: later → later <+: calls →
      r (run step s before) (run step s later) := by
  induction calls generalizing s with
  | nil =>
    refine iff_of_true trivial fun before later inside none => ?_
    obtain rfl := List.prefix_nil.mp none
    rw [List.prefix_nil.mp inside]
    exact refl _
  | cons call rest ih =>
    constructor
    · rintro ⟨met, further⟩ before later inside inside'
      have next := ih (kept s call start met)
      rcases List.prefix_cons_iff.mp inside' with rfl | ⟨later, rfl, more⟩
      · rw [List.prefix_nil.mp inside]
        exact refl _
      rcases List.prefix_cons_iff.mp inside with rfl | ⟨before, rfl, less⟩
      · exact trans _ _ _ ((climb s call start).mp met)
          (next.mp further [] later List.nil_prefix more)
      · exact next.mp further before later less more
    · intro all
      have met := (climb s call start).mpr (all [] [call] List.nil_prefix ⟨rest, rfl⟩)
      refine ⟨met, (ih (kept s call start met)).mpr ?_⟩
      intro before later inside more
      exact all (call :: before) (call :: later) ((List.prefix_cons_inj call).mpr inside)
        ((List.prefix_cons_inj call).mpr more)

/-- Where a call from a good state leads to a good one exactly under its guard, a run
is good throughout exactly when it starts so and every call meets the guard. -/
theorem guarded_iff_throughout {guard assumed : σ → ι → Prop} {good : σ → Prop}
    (leads : ∀ s call, good s → assumed s call → (guard s call ↔ good (step s call)))
    {s : σ} {calls : List ι} (met : Guarded step assumed s calls) :
    good s ∧ Guarded step guard s calls ↔
      ∀ before, before <+: calls → good (run step s before) := by
  induction calls generalizing s with
  | nil =>
    constructor
    · rintro ⟨start, -⟩ before none
      rwa [List.prefix_nil.mp none]
    · exact fun all => ⟨all [] List.nil_prefix, trivial⟩
  | cons call rest ih =>
    have next := ih met.2
    constructor
    · rintro ⟨start, first, further⟩ before inside
      rcases List.prefix_cons_iff.mp inside with rfl | ⟨before, rfl, less⟩
      · exact start
      · exact next.mp ⟨(leads s call start met.1).mp first, further⟩ before less
    · intro all
      have start : good s := all [] List.nil_prefix
      have later := next.mpr fun before less =>
        all (call :: before) ((List.prefix_cons_inj call).mpr less)
      exact ⟨start, (leads s call start met.1).mpr later.1, later.2⟩

/-- A partial pass stops exactly at an item that stops every state. -/
theorem foldlM_eq_none_iff {pass : σ → ι → Option σ} {stops : ι → Prop}
    (stop : ∀ s i, pass s i = none ↔ stops i) (items : List ι) (s : σ) :
    items.foldlM pass s = none ↔ ∃ i ∈ items, stops i := by
  induction items generalizing s with
  | nil => simp
  | cons i rest ih =>
    rw [List.foldlM_cons]
    cases next : pass s i with
    | none => simp [(stop s i).mp next]
    | some s' =>
      have goes : ¬ stops i := fun stuck => by rw [(stop s i).mpr stuck] at next; cases next
      simp [goes, ih s']

theorem mapM_eq_none_iff {α β : Type} (f : α → Option β) (items : List α) :
    items.mapM f = none ↔ ∃ a ∈ items, f a = none := by
  induction items with
  | nil => simp
  | cons a rest ih =>
    rw [List.mapM_cons]
    cases first : f a with
    | none => simp [first]
    | some b =>
      cases later : rest.mapM f with
      | none => simpa [first, later] using ih.mp later
      | some bs =>
        rw [later] at ih
        simpa [first, later] using ih

/-- Whatever a partial map yields comes from one of its items. -/
theorem mem_of_mapM {α β : Type} {f : α → Option β} {items : List α} {out : List β}
    (mapped : items.mapM f = some out) {b : β} (member : b ∈ out) : ∃ a ∈ items, f a = some b := by
  induction items generalizing out with
  | nil =>
    cases mapped
    cases member
  | cons a rest ih =>
    rw [List.mapM_cons] at mapped
    cases first : f a with
    | none => simp [first] at mapped
    | some head =>
      cases later : rest.mapM f with
      | none => simp [first, later] at mapped
      | some tail =>
        obtain rfl : head :: tail = out := by simpa [first, later] using mapped
        rcases List.mem_cons.mp member with rfl | member
        · exact ⟨a, List.mem_cons_self, first⟩
        · obtain ⟨a', listed, yields⟩ := ih later member
          exact ⟨a', List.mem_cons_of_mem _ listed, yields⟩

/-- Every item of a partial map that went through has its yield in the outcome. -/
theorem mapM_yields {α β : Type} {f : α → Option β} {items : List α} {out : List β}
    (mapped : items.mapM f = some out) {a : α} (member : a ∈ items) : ∃ b ∈ out, f a = some b := by
  induction items generalizing out with
  | nil => cases member
  | cons first rest ih =>
    rw [List.mapM_cons] at mapped
    cases head : f first with
    | none => simp [head] at mapped
    | some b =>
      cases later : rest.mapM f with
      | none => simp [head, later] at mapped
      | some tail =>
        obtain rfl : b :: tail = out := by simpa [head, later] using mapped
        rcases List.mem_cons.mp member with rfl | member
        · exact ⟨b, List.mem_cons_self, head⟩
        · obtain ⟨b', listed, yields⟩ := ih later member
          exact ⟨b', List.mem_cons_of_mem _ listed, yields⟩

end SiteFabric.Lib
