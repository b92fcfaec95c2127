import SiteFabric.Core.Generation
import SiteFabric.Lib.Search

/-! Source sets as sets. The list a set keeps is strictly increasing, so what is
drawn from a pool that fits is never dropped, and membership is what was put in. -/

namespace SiteFabric

namespace SourceSet

/-- The list a set keeps is strictly increasing and bounded. -/
def Ordered (items : List SourceRef) : Prop :=
  items.Pairwise (· < ·) ∧ items.length ≤ Limits.maxDecisionSources

theorem insert_items (s : SourceSet) (ref : SourceRef) :
    (s.insert ref).items = s.items ∨
      ∃ before after, s.items = before ++ after ∧ (s.insert ref).items = before ++ ref :: after := by
  unfold SourceSet.insert
  dsimp only
  split
  · exact .inl rfl
  · split
    · exact .inl rfl
    · exact .inr ⟨_, _, List.takeWhile_append_dropWhile.symm, rfl⟩

/-- What is left after the smaller edges lies above a fresh one. -/
theorem above_of_fresh {items : List SourceRef} {ref : SourceRef}
    (increasing : items.Pairwise (· < ·)) (fresh : items.head? ≠ some ref)
    (stops : ∀ head ∈ items.head?, ¬ head < ref) : ∀ r ∈ items, ref < r := by
  cases items with
  | nil => exact fun r member => absurd member List.not_mem_nil
  | cons head items =>
    have first : ref < head := by
      refine lt_of_le_of_ne (not_lt.mp (stops head rfl)) fun same => fresh ?_
      rw [same]
      rfl
    refine List.forall_mem_cons.mpr ⟨first, fun r member => ?_⟩
    exact first.trans ((List.pairwise_cons.mp increasing).1 r member)

theorem insert_ordered {s : SourceSet} (ordered : Ordered s.items) (ref : SourceRef) :
    Ordered (s.insert ref).items := by
  unfold SourceSet.insert
  dsimp only
  split
  · exact ordered
  · next fresh =>
    split
    · exact ordered
    · next room =>
      obtain ⟨increasing, bounded⟩ := ordered
      have whole : s.items.takeWhile (· < ref) ++ s.items.dropWhile (· < ref) = s.items :=
        List.takeWhile_append_dropWhile
      refine ⟨?_, ?_⟩
      · rw [← whole] at increasing
        obtain ⟨first, second, across⟩ := List.pairwise_append.mp increasing
        have below : ∀ r ∈ s.items.takeWhile (· < ref), r < ref := by
          intro r member
          have passes := List.mem_takeWhile_imp member
          exact of_decide_eq_true passes
        have above : ∀ r ∈ s.items.dropWhile (· < ref), ref < r := by
          refine above_of_fresh second fresh fun head first => ?_
          have stops := List.head?_dropWhile_not (fun r => decide (r < ref)) s.items
          rw [Option.mem_def.mp first] at stops
          exact of_decide_eq_false stops
        refine List.pairwise_append.mpr
          ⟨first, List.pairwise_cons.mpr ⟨above, second⟩, fun r member r' member' => ?_⟩
        rcases List.mem_cons.mp member' with rfl | later
        · exact below r member
        · exact across r member r' later
      · have length := congrArg List.length whole
        simp only [List.length_append, List.length_cons] at length ⊢
        omega

/-- Inserting what comes after everything puts it at the end. -/
theorem insert_last {s : SourceSet} {ref : SourceRef} (above : ∀ r ∈ s.items, r < ref)
    (room : s.items.length < Limits.maxDecisionSources) :
    s.insert ref = { s with items := s.items ++ [ref] } := by
  have all : s.items.takeWhile (· < ref) = s.items :=
    List.takeWhile_eq_self_iff.mpr fun r member => decide_eq_true (above r member)
  have none : s.items.dropWhile (· < ref) = [] :=
    List.dropWhile_eq_nil_iff.mpr fun r member => decide_eq_true (above r member)
  unfold SourceSet.insert
  dsimp only
  rw [all, none, if_neg (by simp), if_neg (by omega)]

theorem foldl_insert_ordered (refs : List SourceRef) {s : SourceSet} (ordered : Ordered s.items) :
    Ordered (refs.foldl insert s).items := by
  induction refs generalizing s with
  | nil => exact ordered
  | cons ref refs ih => exact ih (insert_ordered ordered ref)

/-- What a property of the parts says of the inserted edges and of their sum. -/
theorem foldl_insert_items {post : SourceRef → Prop} (size : SourceRef → Nat)
    (refs : List SourceRef) {s : SourceSet} (before : ∀ r ∈ s.items, post r)
    (holds : ∀ r ∈ refs, post r) :
    (∀ r ∈ (refs.foldl insert s).items, post r) ∧
      ((refs.foldl insert s).items.map size).sum ≤ (s.items.map size).sum + (refs.map size).sum := by
  induction refs generalizing s with
  | nil => exact ⟨before, Nat.le_refl _⟩
  | cons ref refs ih =>
    obtain ⟨now, later⟩ := List.forall_mem_cons.mp holds
    rw [List.foldl_cons, List.map_cons, List.sum_cons]
    rcases insert_items s ref with same | ⟨first, second, split, grown⟩
    · obtain ⟨each, total⟩ := ih (s := s.insert ref) (by rw [same]; exact before) later
      rw [same] at total
      exact ⟨each, by omega⟩
    · rw [split] at before
      have inserted : ∀ r ∈ (s.insert ref).items, post r := by
        rw [grown]
        intro r member
        rcases List.mem_append.mp member with old | rest
        · exact before r (List.mem_append_left _ old)
        · rcases List.mem_cons.mp rest with rfl | old
          · exact now
          · exact before r (List.mem_append_right _ old)
      obtain ⟨each, total⟩ := ih inserted later
      rw [grown] at total
      rw [split]
      simp only [List.map_append, List.map_cons, List.sum_append, List.sum_cons] at total ⊢
      exact ⟨each, by omega⟩

/-- An ordered list goes in as it is. -/
theorem foldl_insert_of_ordered (refs before : List SourceRef) (truncated : Bool) (dropped : Nat)
    (ordered : Ordered (before ++ refs)) :
    refs.foldl insert ⟨before, truncated, dropped⟩ = ⟨before ++ refs, truncated, dropped⟩ := by
  induction refs generalizing before with
  | nil => rw [List.foldl_nil, List.append_nil]
  | cons ref refs ih =>
    obtain ⟨increasing, bounded⟩ := ordered
    have above : ∀ r ∈ before, r < ref := fun r member =>
      (List.pairwise_append.mp increasing).2.2 r member ref List.mem_cons_self
    have room : before.length < Limits.maxDecisionSources := by
      rw [List.length_append, List.length_cons] at bounded
      omega
    rw [List.foldl_cons, insert_last (s := ⟨before, truncated, dropped⟩) above room]
    have ordered : Ordered (before ++ [ref] ++ refs) := by
      rw [List.append_assoc]
      exact ⟨increasing, bounded⟩
    rw [ih (before ++ [ref]) ordered, List.append_assoc, List.singleton_append]

theorem mem_of_foldl_insert {refs : List SourceRef} {s : SourceSet} {r : SourceRef}
    (held : r ∈ (refs.foldl insert s).items) : r ∈ s.items ∨ r ∈ refs :=
  (@foldl_insert_items (fun r => r ∈ s.items ∨ r ∈ refs) (fun _ => 0) refs s
    (fun _ member => .inl member) fun _ member => .inr member).1 r held

theorem mem_of_insertSet {s other : SourceSet} {r : SourceRef}
    (held : r ∈ (s.insertSet other).items) : r ∈ s.items ∨ r ∈ other.items := by
  unfold insertSet at held
  dsimp only at held
  split at held
  · exact mem_of_foldl_insert held
  · exact mem_of_foldl_insert held

/-- A set whose sources all come from one list. -/
structure Drawn (pool : List SourceRef) (s : SourceSet) : Prop where
  ordered : Ordered s.items
  drawn : ∀ r ∈ s.items, r ∈ pool
  whole : s.truncated = false ∧ s.dropped = 0

theorem drawn_empty (pool : List SourceRef) : Drawn pool {} where
  ordered := ⟨List.Pairwise.nil, Nat.zero_le _⟩
  drawn _ member := absurd member List.not_mem_nil
  whole := ⟨rfl, rfl⟩

theorem insert_known {s : SourceSet} {ref : SourceRef} (increasing : s.items.Pairwise (· < ·))
    (known : ref ∈ s.items) : s.insert ref = s := by
  obtain ⟨after, skipped⟩ := Lib.dropWhile_of_mem increasing known
  unfold insert
  dsimp only
  rw [skipped]
  exact if_pos rfl

section Pool

variable {pool : List SourceRef} (fits : pool.length ≤ Limits.maxDecisionSources)

include fits

/-- Room for one more: a set drawn from a pool that fits is full only when the
pool is spent. -/
theorem Drawn.insert_eq {s : SourceSet} (drawn : Drawn pool s) {ref : SourceRef}
    (listed : ref ∈ pool) (fresh : ref ∉ s.items) :
    s.insert ref =
      { s with items := s.items.takeWhile (· < ref) ++ ref :: s.items.dropWhile (· < ref) } := by
  have apart : (ref :: s.items).Nodup :=
    List.nodup_cons.mpr ⟨fresh, drawn.ordered.1.imp fun {a b} below => below.ne⟩
  have short := (apart.subperm (List.cons_subset.mpr ⟨listed, drawn.drawn⟩)).length_le
  rw [List.length_cons] at short
  have new : (s.items.dropWhile (· < ref)).head? ≠ some ref := fun head =>
    fresh ((List.dropWhile_sublist _).subset (List.mem_of_head? head))
  unfold insert
  dsimp only
  rw [if_neg new, if_neg (by omega)]

theorem Drawn.mem_insert {s : SourceSet} (drawn : Drawn pool s) {ref : SourceRef}
    (listed : ref ∈ pool) {r : SourceRef} : r ∈ (s.insert ref).items ↔ r ∈ s.items ∨ r = ref := by
  by_cases known : ref ∈ s.items
  · rw [insert_known drawn.ordered.1 known]
    exact ⟨.inl, fun held => held.elim id fun same => same ▸ known⟩
  · have whole : s.items.takeWhile (· < ref) ++ s.items.dropWhile (· < ref) = s.items :=
      List.takeWhile_append_dropWhile
    rw [drawn.insert_eq fits listed known]
    conv_rhs => rw [← whole]
    simp only [List.mem_append, List.mem_cons]
    tauto

theorem Drawn.insert {s : SourceSet} (drawn : Drawn pool s) {ref : SourceRef}
    (listed : ref ∈ pool) : Drawn pool (s.insert ref) where
  ordered := insert_ordered drawn.ordered ref
  drawn r member := by
    rcases (drawn.mem_insert fits listed).mp member with old | rfl
    · exact drawn.drawn r old
    · exact listed
  whole := by
    by_cases known : ref ∈ s.items
    · rw [insert_known drawn.ordered.1 known]
      exact drawn.whole
    · rw [drawn.insert_eq fits listed known]
      exact drawn.whole

theorem Drawn.foldl {refs : List SourceRef} (listed : ∀ ref ∈ refs, ref ∈ pool) {s : SourceSet}
    (drawn : Drawn pool s) :
    Drawn pool (refs.foldl SourceSet.insert s) ∧
      ∀ r, r ∈ (refs.foldl SourceSet.insert s).items ↔ r ∈ s.items ∨ r ∈ refs := by
  induction refs generalizing s with
  | nil => exact ⟨drawn, fun r => by simp⟩
  | cons ref refs ih =>
    obtain ⟨now, later⟩ := List.forall_mem_cons.mp listed
    obtain ⟨within, held⟩ := ih later (drawn.insert fits now)
    refine ⟨within, fun r => ?_⟩
    rw [List.foldl_cons, held, drawn.mem_insert fits now, List.mem_cons, or_assoc]

theorem Drawn.insertSet {s other : SourceSet} (drawn : Drawn pool s) (from_pool : Drawn pool other) :
    Drawn pool (s.insertSet other) ∧
      ∀ r, r ∈ (s.insertSet other).items ↔ r ∈ s.items ∨ r ∈ other.items := by
  have merged := drawn.foldl fits from_pool.drawn
  have plain : s.insertSet other = other.items.foldl SourceSet.insert s := by
    rw [SourceSet.insertSet, from_pool.whole.1]
    exact if_neg Bool.false_ne_true
  rw [plain]
  exact merged

end Pool

end SourceSet

end SiteFabric
