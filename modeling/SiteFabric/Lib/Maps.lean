import Mathlib

/-! Ordered maps, and folds that feed them one entry at a time.
`std::map` is an extensional tree map over a linear order: iteration is by
increasing key, and two maps with the same lookups are the same map. -/

namespace SiteFabric.Lib

open Std (ExtTreeMap ExtTreeSet)

/-- The one proof that keys compare transitively: every map operation names it. -/
instance (priority := high) instTransCmp (κ : Type) [LinearOrder κ] :
    Std.TransCmp (compare : κ → κ → Ordering) := inferInstance

variable {κ α β : Type} [LinearOrder κ]

@[simp] theorem lookup_insert (m : ExtTreeMap κ α compare) (k a : κ) (v : α) :
    (m.insert k v)[a]? = if k = a then some v else m[a]? := by
  simp only [ExtTreeMap.getElem?_insert, Std.LawfulEqCmp.compare_eq_iff_eq]

@[simp] theorem lookup_erase (m : ExtTreeMap κ α compare) (k a : κ) :
    (m.erase k)[a]? = if k = a then none else m[a]? := by
  simp only [ExtTreeMap.getElem?_erase, Std.LawfulEqCmp.compare_eq_iff_eq]

theorem ext_lookup {m m' : ExtTreeMap κ α compare} (same : ∀ k : κ, m[k]? = m'[k]?) : m = m' :=
  ExtTreeMap.ext_getElem? fun {k} => same k

theorem lookup_map (m : ExtTreeMap κ α compare) (f : κ → α → β) (k : κ) :
    (m.map f)[k]? = (m[k]?).map (f k) := by
  rw [ExtTreeMap.getElem?_map]

/-- Iterating a map meets exactly its lookups. -/
theorem mem_toList_iff {m : ExtTreeMap κ α compare} {k : κ} {v : α} :
    (k, v) ∈ m.toList ↔ m[k]? = some v :=
  ExtTreeMap.mem_toList_iff_getElem?_eq_some

theorem keys_pairwise (m : ExtTreeMap κ α compare) :
    m.toList.Pairwise fun a b => a.1 ≠ b.1 := by
  refine m.distinct_keys_toList.imp fun {a b} apart same => apart ?_
  rw [same]
  exact Std.ReflCmp.compare_self

/-- A map whose keys all come from a list is no longer than that list. -/
theorem length_toList_le {m : ExtTreeMap κ α compare} (keys : List κ)
    (listed : ∀ k v, m[k]? = some v → k ∈ keys) : m.toList.length ≤ keys.length := by
  have nodup : (m.toList.map Prod.fst).Nodup :=
    List.pairwise_map.mpr (keys_pairwise m)
  have subset : m.toList.map Prod.fst ⊆ keys := by
    intro k member
    obtain ⟨⟨k, v⟩, entry, rfl⟩ := List.mem_map.mp member
    exact listed k v (mem_toList_iff.mp entry)
  have short := (nodup.subperm subset).length_le
  rwa [List.length_map] at short

@[simp] theorem insert_insert (m : ExtTreeMap κ α compare) (k : κ) (a b : α) :
    (m.insert k a).insert k b = m.insert k b := by
  refine ext_lookup fun key => ?_
  simp only [lookup_insert]
  split <;> rfl

theorem insert_lookup_self {m : ExtTreeMap κ α compare} {k : κ} {v : α} (found : m[k]? = some v) :
    m.insert k v = m := by
  refine ext_lookup fun key => ?_
  rw [lookup_insert]
  split
  · next same => rw [← same, found]
  · rfl

theorem lookup_empty (a : κ) : (∅ : ExtTreeMap κ α compare)[a]? = none :=
  ExtTreeMap.getElem?_empty

@[simp] theorem contains_insert_iff (s : ExtTreeSet κ compare) (k a : κ) :
    (s.insert k).contains a = (decide (k = a) || s.contains a) := by
  rw [ExtTreeSet.contains_insert]
  congr 1
  rw [Bool.eq_iff_iff, beq_iff_eq, Std.LawfulEqCmp.compare_eq_iff_eq, decide_eq_true_eq]

/-- Maps that agree on some keys list the same entries under them. -/
theorem toList_filter_agree {m m' : ExtTreeMap κ α compare} {p : κ → Bool}
    (agree : ∀ k, p k = true → m'[k]? = m[k]?) :
    m'.toList.filter (fun entry => p entry.1) = m.toList.filter fun entry => p entry.1 := by
  have same : m'.filter (fun k _ => p k) = m.filter fun k _ => p k := by
    refine ext_lookup fun k => ?_
    rw [ExtTreeMap.getElem?_filter', ExtTreeMap.getElem?_filter']
    cases counted : p k with
    | false => simp
    | true => rw [agree k counted]
  have spared : ∀ map : ExtTreeMap κ α compare,
      map.toList.filter (fun entry => p entry.1) = (map.filter fun k _ => p k).toList :=
    fun map => (ExtTreeMap.toList_filter (f := fun k _ => p k)).symm
  rw [spared, spared, same]

theorem flatMap_filter_of_silent {ι : Type} {items : List ι} {p : ι → Bool} {f : ι → List β}
    (silent : ∀ i ∈ items, p i = false → f i = []) :
    (items.filter p).flatMap f = items.flatMap f := by
  induction items with
  | nil => rfl
  | cons i rest ih =>
    have later := ih fun j member => silent j (List.mem_cons_of_mem i member)
    rw [List.flatMap_cons, ← later]
    cases counted : p i with
    | false => rw [List.filter_cons_of_neg (by simp [counted]), silent i List.mem_cons_self counted,
        List.nil_append]
    | true => rw [List.filter_cons_of_pos counted, List.flatMap_cons]

/-- Maps that agree but for one key, under which a collection finds nothing in
either, are collected alike. -/
theorem flatMap_toList_agree {m m' : ExtTreeMap κ α compare} {k : κ} {f : κ × α → List β}
    (agree : ∀ other, other ≠ k → m'[other]? = m[other]?)
    (silent : ∀ v, m[k]? = some v → f (k, v) = [])
    (silent' : ∀ v, m'[k]? = some v → f (k, v) = []) :
    m'.toList.flatMap f = m.toList.flatMap f := by
  have spared : ∀ {map : ExtTreeMap κ α compare}, (∀ v, map[k]? = some v → f (k, v) = []) →
      (map.toList.filter fun entry => decide (entry.1 ≠ k)).flatMap f = map.toList.flatMap f := by
    intro map quiet
    refine flatMap_filter_of_silent fun entry member here => ?_
    obtain rfl : entry.1 = k := by simpa using here
    exact quiet entry.2 (mem_toList_iff.mp member)
  rw [← spared silent, ← spared silent',
    toList_filter_agree (p := fun key => decide (key ≠ k)) fun other apart =>
      agree other (of_decide_eq_true apart)]

/-- `map[key]` followed by a mutation of the value it names. -/
def touch [Inhabited α] (m : ExtTreeMap κ α compare) (k : κ) (f : α → α) :
    ExtTreeMap κ α compare :=
  m.insert k (f ((m[k]?).getD default))

theorem lookup_touch [Inhabited α] (m : ExtTreeMap κ α compare) (k a : κ) (f : α → α) :
    (touch m k f)[a]? = if k = a then some (f ((m[a]?).getD default)) else m[a]? := by
  rw [touch, lookup_insert]
  split
  · next same => rw [same]
  · rfl

section Gather

variable {ι : Type} [Inhabited α] (key : ι → κ) (f : ι → α → α)

/-- A pass over items that mutates, for each, the value its key names. -/
def gather (items : List ι) : ExtTreeMap κ α compare :=
  items.foldl (fun m i => touch m (key i) (f i)) ∅

/-- A gathered value has been through the items of its key, in order. -/
theorem lookup_gather (items : List ι) (k : κ) (named : ι → Bool)
    (names : ∀ i, named i = true ↔ key i = k) :
    (gather key f items)[k]? =
      if items.filter named = [] then none
      else some ((items.filter named).foldl (fun a i => f i a) default) := by
  induction items using List.reverseRecOn with
  | nil => simp [gather]
  | append_singleton items i ih =>
    rw [gather, List.foldl_append] at *
    simp only [List.foldl_cons, List.foldl_nil, lookup_touch, ih, List.filter_append]
    by_cases here : key i = k
    · rw [if_pos here]
      by_cases none : items.filter named = []
      · simp [(names i).mpr here, none]
      · simp [(names i).mpr here, none]
    · have other : ¬ named i = true := mt (names i).mp here
      simp [here, other]

end Gather

/-- A projection that no step changes is the same after a fold. -/
theorem foldl_frame {σ ι γ : Type} {step : σ → ι → σ} (proj : σ → γ)
    (kept : ∀ s i, proj (step s i) = proj s) (items : List ι) (s : σ) :
    proj (items.foldl step s) = proj s := by
  induction items generalizing s with
  | nil => rfl
  | cons i rest ih => rw [List.foldl_cons, ih, kept]

/-- A slot that each item may overwrite holds what the last such item wrote. -/
theorem foldl_last {σ ι γ : Type} {step : σ → ι → σ} (slot : σ → Option γ) (write : ι → Option γ)
    (writes : ∀ s i, slot (step s i) = (write i).or (slot s)) (items : List ι) (s : σ) :
    slot (items.foldl step s) = ((items.filterMap write).getLast?).or (slot s) := by
  induction items using List.reverseRecOn with
  | nil => rfl
  | append_singleton items i ih =>
    rw [List.foldl_append, List.foldl_cons, List.foldl_nil, writes, ih, List.filterMap_append]
    cases written : write i with
    | none => simp [written]
    | some value => simp [written]

/-- Maps that are read alike under every key list the same readings. -/
theorem filterMap_toList_congr {κ α β : Type} [LinearOrder κ] {m m' : ExtTreeMap κ α compare}
    {f g : κ → α → Option β} (same : ∀ k : κ, (m'[k]?).bind (g k) = (m[k]?).bind (f k)) :
    (m'.toList.filterMap fun entry => g entry.1 entry.2) =
      m.toList.filterMap fun entry => f entry.1 entry.2 := by
  have read : m'.filterMap g = m.filterMap f := by
    refine ext_lookup fun k => ?_
    rw [ExtTreeMap.getElem?_filterMap', ExtTreeMap.getElem?_filterMap', same]
  have listed : ∀ (map : ExtTreeMap κ α compare) (f : κ → α → Option β),
      (map.toList.filterMap fun entry => f entry.1 entry.2) =
        (map.filterMap f).toList.map Prod.snd := by
    intro map f
    rw [ExtTreeMap.toList_filterMap, List.map_filterMap]
    refine List.filterMap_congr fun entry _ => ?_
    rw [Option.map_map]
    exact (congrFun Option.map_id _).symm
  rw [listed, listed, read]

theorem find?_of_only {α : Type} {items : List α} {p : α → Bool} {a : α} (listed : a ∈ items)
    (holds : p a = true) (only : ∀ b ∈ items, p b = true → b = a) : items.find? p = some a := by
  cases found : items.find? p with
  | none => exact absurd holds (List.find?_eq_none.mp found a listed)
  | some b => rw [only b (List.mem_of_find?_eq_some found) (List.find?_some found)]

end SiteFabric.Lib
