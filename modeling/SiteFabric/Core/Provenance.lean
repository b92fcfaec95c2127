import SiteFabric.Core.Sources

/-! Source sets as their inserts make them.
An insert bisects the vector for its place; a set is the empty one after inserts of edges and
of other such sets. Up to the bound it is the sorted list of the edges that went in, whatever
the order and the grouping. -/

namespace SiteFabric

namespace SourceSet

/-- `insert`, with the search for the position. -/
def insertAt (s : SourceSet) (ref : SourceRef) : SourceSet :=
  let position := Lib.position s.items ref
  if s.items[position]? = some ref then s
  else if s.items.length ≥ Limits.maxDecisionSources then
    { s with truncated := true, dropped := s.dropped + 1 }
  else { s with items := s.items.take position ++ ref :: s.items.drop position }

def insertAll (s other : SourceSet) : SourceSet :=
  let merged := other.items.foldl insertAt s
  if other.truncated then
    { merged with truncated := true, dropped := merged.dropped + other.dropped }
  else merged

def contains (s : SourceSet) (ref : SourceRef) : Bool := Lib.search s.items ref

def containsDomain (s : SourceSet) (key : MemberDomainKey) : Bool := s.items.any (·.domain = key)

def intersectsDifference (s other : SourceSet) : Bool := s.items.any fun ref => !other.contains ref

theorem insertAt_eq {s : SourceSet} (ordered : Ordered s.items) (ref : SourceRef) :
    s.insertAt ref = s.insert ref := by
  have increasing := ordered.1
  rw [insertAt, insert, Lib.getElem?_position increasing, Lib.take_position increasing,
    Lib.drop_position increasing]

theorem foldl_insertAt {s : SourceSet} (ordered : Ordered s.items) (refs : List SourceRef) :
    refs.foldl insertAt s = refs.foldl insert s := by
  induction refs generalizing s with
  | nil => rfl
  | cons ref refs ih =>
    rw [List.foldl_cons, List.foldl_cons, insertAt_eq ordered, ih (insert_ordered ordered ref)]

theorem insertAll_eq {s : SourceSet} (ordered : Ordered s.items) (other : SourceSet) :
    s.insertAll other = s.insertSet other := by
  rw [insertAll, insertSet, foldl_insertAt ordered]

theorem contains_iff {s : SourceSet} (ordered : Ordered s.items) (ref : SourceRef) :
    s.contains ref = true ↔ ref ∈ s.items := Lib.search_iff ordered.1 ref

theorem containsDomain_iff {s : SourceSet} {key : MemberDomainKey} :
    s.containsDomain key = true ↔ ∃ ref ∈ s.items, ref.domain = key := by
  simp only [containsDomain, List.any_eq_true, decide_eq_true_eq]

theorem intersectsDifference_iff {s other : SourceSet} (ordered : Ordered other.items) :
    s.intersectsDifference other = true ↔ ∃ ref ∈ s.items, ref ∉ other.items := by
  simp only [intersectsDifference, List.any_eq_true, Bool.not_eq_true', ← Bool.not_eq_true,
    contains_iff ordered]

theorem mem_insert_of_mem {s : SourceSet} {r : SourceRef} (held : r ∈ s.items) (ref : SourceRef) :
    r ∈ (s.insert ref).items := by
  rcases insert_items s ref with same | ⟨before, after, split, grown⟩
  · rwa [same]
  · rw [split] at held
    rw [grown]
    rcases List.mem_append.mp held with first | second
    · exact List.mem_append_left _ first
    · exact List.mem_append_right _ (List.mem_cons_of_mem _ second)

theorem mem_foldl_of_mem {s : SourceSet} {r : SourceRef} (held : r ∈ s.items)
    (refs : List SourceRef) : r ∈ (refs.foldl insert s).items := by
  induction refs generalizing s with
  | nil => exact held
  | cons ref refs ih => exact ih (mem_insert_of_mem held ref)

/-- What an insert does: nothing new, one reference more, or a full set that drops it. -/
theorem insert_outcome {s : SourceSet} (ordered : Ordered s.items) (ref : SourceRef) :
    (ref ∈ s.items ∧ s.insert ref = s) ∨
      (ref ∉ s.items ∧ s.items.length < Limits.maxDecisionSources ∧
        ref ∈ (s.insert ref).items ∧ (s.insert ref).truncated = s.truncated ∧
        (s.insert ref).dropped = s.dropped) ∨
      (ref ∉ s.items ∧ Limits.maxDecisionSources ≤ s.items.length ∧
        s.insert ref = { s with truncated := true, dropped := s.dropped + 1 }) := by
  by_cases known : ref ∈ s.items
  · exact Or.inl ⟨known, insert_known ordered.1 known⟩
  · have new : (s.items.dropWhile (· < ref)).head? ≠ some ref := fun head =>
      known ((List.dropWhile_sublist _).subset (List.mem_of_head? head))
    refine Or.inr ?_
    by_cases full : Limits.maxDecisionSources ≤ s.items.length
    · refine Or.inr ⟨known, full, ?_⟩
      rw [insert, if_neg new, if_pos full]
    · refine Or.inl ⟨known, Nat.lt_of_not_le full, ?_⟩
      rw [insert, if_neg new, if_neg full]
      exact ⟨List.mem_append_right _ List.mem_cons_self, rfl, rfl⟩

theorem mem_insertSet_of_mem {s : SourceSet} {r : SourceRef} (held : r ∈ s.items)
    (other : SourceSet) : r ∈ (s.insertSet other).items := by
  have kept := mem_foldl_of_mem held other.items
  unfold insertSet
  dsimp only
  split <;> exact kept

theorem insert_full {s : SourceSet} (ordered : Ordered s.items)
    (full : Limits.maxDecisionSources ≤ s.items.length) (ref : SourceRef) :
    (s.insert ref).items = s.items := by
  rcases insert_outcome ordered ref with ⟨_, same⟩ | ⟨_, room, _⟩ | ⟨_, _, dropped⟩
  · rw [same]
  · exact absurd full (Nat.not_le_of_lt room)
  · rw [dropped]

theorem foldl_full {s : SourceSet} (ordered : Ordered s.items)
    (full : Limits.maxDecisionSources ≤ s.items.length) (refs : List SourceRef) :
    (refs.foldl insert s).items = s.items := by
  induction refs generalizing s with
  | nil => rfl
  | cons ref refs ih =>
    have same := insert_full ordered full ref
    rw [List.foldl_cons, ih (insert_ordered ordered ref) (same ▸ full), same]

/-- A reference that an insert drops is never in the set again. -/
theorem mem_foldl_iff {s : SourceSet} (ordered : Ordered s.items) (ref : SourceRef)
    (refs : List SourceRef) :
    ref ∈ (refs.foldl insert (s.insert ref)).items ↔ ref ∈ (s.insert ref).items := by
  refine ⟨fun held => ?_, fun held => mem_foldl_of_mem held refs⟩
  rcases insert_outcome ordered ref with ⟨known, same⟩ | ⟨_, _, added, _⟩ | ⟨_, full, dropped⟩
  · rwa [same]
  · exact added
  · have same : (s.insert ref).items = s.items := by rw [dropped]
    rwa [foldl_full (insert_ordered ordered ref) (same ▸ full)] at held

theorem insert_truncated {s : SourceSet} (ordered : Ordered s.items) (ref : SourceRef) :
    (s.insert ref).truncated = true ↔ s.truncated = true ∨ ref ∉ (s.insert ref).items := by
  rcases insert_outcome ordered ref with ⟨known, same⟩ | ⟨_, _, added, flag, _⟩ |
    ⟨new, _, dropped⟩
  · rw [same]
    exact ⟨Or.inl, fun either => either.resolve_right (not_not_intro known)⟩
  · rw [flag]
    exact ⟨Or.inl, fun either => either.resolve_right (not_not_intro added)⟩
  · rw [dropped]
    exact ⟨fun _ => Or.inr new, fun _ => rfl⟩

/-- A loop of inserts marks the set when one of its references is not there afterwards. -/
theorem foldl_truncated {s : SourceSet} (ordered : Ordered s.items) (refs : List SourceRef) :
    (refs.foldl insert s).truncated = true ↔
      s.truncated = true ∨ ∃ ref ∈ refs, ref ∉ (refs.foldl insert s).items := by
  induction refs generalizing s with
  | nil => simp
  | cons ref refs ih =>
    rw [List.foldl_cons, ih (insert_ordered ordered ref), insert_truncated ordered ref,
      ← mem_foldl_iff ordered ref refs, or_assoc, List.exists_mem_cons_iff]

theorem insertSet_truncated {s : SourceSet} (ordered : Ordered s.items) (other : SourceSet) :
    (s.insertSet other).truncated = true ↔
      s.truncated = true ∨ other.truncated = true ∨
        ∃ ref ∈ other.items, ref ∉ (s.insertSet other).items := by
  have loop := foldl_truncated ordered other.items
  unfold insertSet
  dsimp only
  by_cases cut : other.truncated = true
  · rw [if_pos cut]
    exact ⟨fun _ => Or.inr (Or.inl cut), fun _ => rfl⟩
  · rw [if_neg cut, loop]
    tauto

/-- A set whose edges are among some, and which is cut only when there are too many of them. -/
structure Kept (pool : Finset SourceRef) (s : SourceSet) : Prop where
  ordered : Ordered s.items
  drawn : ∀ ref ∈ s.items, ref ∈ pool
  cut : s.truncated = true → Limits.maxDecisionSources < pool.card
  uncut : s.truncated = false → s.dropped = 0

theorem kept_empty : Kept ∅ {} where
  ordered := ⟨List.Pairwise.nil, Nat.zero_le _⟩
  drawn _ held := absurd held List.not_mem_nil
  cut marked := absurd marked Bool.false_ne_true
  uncut _ := rfl

theorem Kept.mono {pool wider : Finset SourceRef} {s : SourceSet} (kept : Kept pool s)
    (within : pool ⊆ wider) : Kept wider s where
  ordered := kept.ordered
  drawn ref held := within (kept.drawn ref held)
  cut marked := Nat.lt_of_lt_of_le (kept.cut marked) (Finset.card_le_card within)
  uncut := kept.uncut

theorem Kept.insert {pool : Finset SourceRef} {s : SourceSet} (kept : Kept pool s)
    {ref : SourceRef} (listed : ref ∈ pool) : Kept pool (s.insert ref) := by
  have drawn : ∀ r ∈ (s.insert ref).items, r ∈ pool := by
    intro r held
    have either : r ∈ s.items ∨ r ∈ [ref] := mem_of_foldl_insert held
    rcases either with old | new
    · exact kept.drawn r old
    · rwa [List.mem_singleton.mp new]
  rcases insert_outcome kept.ordered ref with ⟨_, same⟩ | ⟨_, _, _, flag, count⟩ |
    ⟨new, full, dropped⟩
  · rwa [same]
  · exact ⟨insert_ordered kept.ordered ref, drawn, fun marked => kept.cut (flag ▸ marked),
      fun unmarked => count.trans (kept.uncut (flag ▸ unmarked))⟩
  · refine ⟨insert_ordered kept.ordered ref, drawn, fun _ => ?_, fun unmarked => ?_⟩
    · have apart : (ref :: s.items).Nodup :=
        List.nodup_cons.mpr ⟨new, kept.ordered.1.imp fun {a b} below => below.ne⟩
      calc Limits.maxDecisionSources
        _ < (ref :: s.items).length := Nat.lt_succ_of_le full
        _ = (ref :: s.items).toFinset.card := (List.toFinset_card_of_nodup apart).symm
        _ ≤ pool.card := Finset.card_le_card fun r member =>
          List.forall_mem_cons.mpr ⟨listed, kept.drawn⟩ r (List.mem_toFinset.mp member)
    · rw [dropped] at unmarked
      exact absurd unmarked Bool.false_ne_true.symm

theorem Kept.foldl {pool : Finset SourceRef} {s : SourceSet} (kept : Kept pool s)
    {refs : List SourceRef} (listed : ∀ ref ∈ refs, ref ∈ pool) :
    Kept pool (refs.foldl SourceSet.insert s) := by
  induction refs generalizing s with
  | nil => exact kept
  | cons ref refs ih =>
    obtain ⟨now, later⟩ := List.forall_mem_cons.mp listed
    exact ih (kept.insert now) later

theorem Kept.insertSet {pool : Finset SourceRef} {s other : SourceSet} (kept : Kept pool s)
    (merged : Kept pool other) : Kept pool (s.insertSet other) := by
  have loop := kept.foldl merged.drawn
  unfold SourceSet.insertSet
  dsimp only
  split
  · next marked =>
    exact ⟨loop.ordered, loop.drawn, fun _ => merged.cut marked,
      fun unmarked => absurd unmarked Bool.false_ne_true.symm⟩
  · exact loop

end SourceSet

/-- The inserts that made a set; the set of an insert was made by its own. -/
inductive Inserts
  | empty
  | insert (earlier : Inserts) (ref : SourceRef)
  | insertSet (earlier other : Inserts)

namespace Inserts

/-- The distinct references that were given, here or to a set put in. -/
def refs : Inserts → Finset SourceRef
  | .empty => ∅
  | .insert earlier ref => Insert.insert ref earlier.refs
  | .insertSet earlier other => earlier.refs ∪ other.refs

def build : Inserts → SourceSet
  | .empty => {}
  | .insert earlier ref => earlier.build.insertAt ref
  | .insertSet earlier other => earlier.build.insertAll other.build

/-- Some reference was not in the set after its insert, here or in a set put in. -/
def Dropped : Inserts → Prop
  | .empty => False
  | .insert earlier ref => earlier.Dropped ∨ ref ∉ (earlier.insert ref).build.items
  | .insertSet earlier other =>
    earlier.Dropped ∨ other.Dropped ∨
      ∃ ref ∈ other.build.items, ref ∉ (earlier.insertSet other).build.items

theorem kept (t : Inserts) : SourceSet.Kept t.refs t.build := by
  induction t with
  | empty => exact SourceSet.kept_empty
  | insert earlier ref ih =>
    rw [build, SourceSet.insertAt_eq ih.ordered]
    exact (ih.mono (Finset.subset_insert _ _)).insert (Finset.mem_insert_self _ _)
  | insertSet earlier other ih ih' =>
    rw [build, SourceSet.insertAll_eq ih.ordered]
    exact (ih.mono Finset.subset_union_left).insertSet (ih'.mono Finset.subset_union_right)

theorem build_insert (earlier : Inserts) (ref : SourceRef) :
    (earlier.insert ref).build = earlier.build.insert ref :=
  SourceSet.insertAt_eq earlier.kept.ordered ref

theorem build_insertSet (earlier other : Inserts) :
    (earlier.insertSet other).build = earlier.build.insertSet other.build :=
  SourceSet.insertAll_eq earlier.kept.ordered other.build

theorem truncated_iff (t : Inserts) : t.build.truncated = true ↔ t.Dropped := by
  induction t with
  | empty => exact iff_of_false Bool.false_ne_true id
  | insert earlier ref ih =>
    rw [Dropped, build_insert, SourceSet.insert_truncated earlier.kept.ordered, ih]
  | insertSet earlier other ih ih' =>
    rw [Dropped, build_insertSet, SourceSet.insertSet_truncated earlier.kept.ordered, ih, ih']

/-- A set from which nothing was dropped holds everything it was given. -/
theorem mem_of_not_dropped {t : Inserts} (whole : ¬t.Dropped) :
    ∀ ref ∈ t.refs, ref ∈ t.build.items := by
  induction t with
  | empty => exact fun ref given => absurd given (Finset.notMem_empty ref)
  | insert earlier ref ih =>
    obtain ⟨before, now⟩ := not_or.mp whole
    intro r given
    rcases Finset.mem_insert.mp given with rfl | old
    · exact not_not.mp now
    · rw [build_insert]
      exact SourceSet.mem_insert_of_mem (ih before r old) ref
  | insertSet earlier other ih ih' =>
    obtain ⟨before, rest⟩ := not_or.mp whole
    obtain ⟨inside, now⟩ := not_or.mp rest
    intro r given
    rcases Finset.mem_union.mp given with old | new
    · rw [build_insertSet]
      exact SourceSet.mem_insertSet_of_mem (ih before r old) other.build
    · by_contra absent
      exact now ⟨r, ih' inside r new, absent⟩

theorem not_dropped {t : Inserts} (few : t.refs.card ≤ Limits.maxDecisionSources) :
    ¬t.Dropped := fun dropped =>
  Nat.not_lt_of_le few (t.kept.cut (t.truncated_iff.mpr dropped))

/-- Sets of sources are canonical as long as the references fit. -/
theorem build_eq {t : Inserts} (few : t.refs.card ≤ Limits.maxDecisionSources) :
    t.build = ⟨t.refs.sort, false, 0⟩ := by
  have whole : t.build.truncated = false :=
    Bool.eq_false_iff.mpr (mt t.truncated_iff.mp (not_dropped few))
  have members : t.build.items.toFinset = t.refs := by
    ext ref
    rw [List.mem_toFinset]
    exact ⟨t.kept.drawn ref, mem_of_not_dropped (not_dropped few) ref⟩
  have sorted : t.build.items = t.refs.sort := by
    rw [← members]
    refine ((List.toFinset_sort _ ?_).mpr ?_).symm
    · exact t.kept.ordered.1.imp fun {a b} below => below.ne
    · exact t.kept.ordered.1.imp fun {a b} below => below.le
  rw [← sorted, ← whole, ← t.kept.uncut whole]

/-- More references than fit are exactly what is cut. -/
theorem truncated_iff_card (t : Inserts) :
    t.build.truncated = true ↔ Limits.maxDecisionSources < t.refs.card := by
  refine ⟨t.kept.cut, fun many => t.truncated_iff.mpr (by_contra fun whole => ?_)⟩
  have all : t.refs ⊆ t.build.items.toFinset := fun ref given =>
    List.mem_toFinset.mpr (mem_of_not_dropped whole ref given)
  have few : t.refs.card ≤ Limits.maxDecisionSources :=
    calc t.refs.card
      _ ≤ t.build.items.toFinset.card := Finset.card_le_card all
      _ ≤ t.build.items.length := List.toFinset_card_le _
      _ ≤ Limits.maxDecisionSources := t.kept.ordered.2
  exact Nat.not_lt_of_le few many

theorem intersectsDifference_refs {t t' : Inserts}
    (few : t.refs.card ≤ Limits.maxDecisionSources)
    (few' : t'.refs.card ≤ Limits.maxDecisionSources) :
    t.build.intersectsDifference t'.build = true ↔ ¬t.refs ⊆ t'.refs := by
  rw [SourceSet.intersectsDifference_iff t'.kept.ordered, build_eq few, build_eq few']
  simp only [Finset.mem_sort, Finset.not_subset]

/-- Up to the bound the set is the sorted list of what was given, in whatever order and
grouping; beyond it the set stays within and says that it is cut. -/
theorem source_set_canonical (t : Inserts) :
    (t.refs.card ≤ Limits.maxDecisionSources →
      t.build.items = t.refs.sort ∧
        (∀ ref, t.build.contains ref = true ↔ ref ∈ t.refs) ∧
        t.build.truncated = false ∧
        ∀ t' : Inserts, t'.refs = t.refs → t'.build = t.build) ∧
      t.build.items.Pairwise (· < ·) ∧
      t.build.items.length ≤ Limits.maxDecisionSources ∧
      (t.build.truncated = true ↔ t.Dropped) ∧
      (t.build.truncated = true ↔ Limits.maxDecisionSources < t.refs.card) := by
  refine ⟨fun few => ⟨?_, fun ref => ?_, ?_, fun t' same => ?_⟩, t.kept.ordered.1,
    t.kept.ordered.2, t.truncated_iff, t.truncated_iff_card⟩
  · rw [build_eq few]
  · rw [SourceSet.contains_iff t.kept.ordered, build_eq few, Finset.mem_sort]
  · rw [build_eq few]
  · rw [build_eq few, build_eq (same ▸ few), same]

/-- Two edges one by one, and as two sets put together in the other order. -/
theorem source_set_canonical_pair :
    ((empty.insert { generation := ⟨1⟩ }).insertSet (empty.insert {})).build =
      ((empty.insert {}).insert { generation := ⟨1⟩ }).build :=
  ((source_set_canonical _).1 (by decide +kernel)).2.2.2 _ (by decide +kernel)

end Inserts

end SiteFabric
