import SiteFabric.Lib.Maps

/-! One item per key: a pass over a list that keeps, under each key, the first
item no later one outranks. When ranks tell the items of a key apart, the choice
does not depend on the order of the list. -/

namespace SiteFabric.Lib

open Std (ExtTreeMap)

variable {κ ρ α : Type} [LinearOrder κ] [LinearOrder ρ] (key : α → κ) (rank : α → ρ)

def consider (m : ExtTreeMap κ α compare) (a : α) : ExtTreeMap κ α compare :=
  match m[key a]? with
  | none => m.insert (key a) a
  | some incumbent => if rank incumbent < rank a then m.insert (key a) a else m

def select (items : List α) : ExtTreeMap κ α compare := items.foldl (consider key rank) ∅

/-- What a lookup says about the items seen so far. -/
def Leads (items : List α) (k : κ) : Option α → Prop
  | none => ∀ b ∈ items, key b ≠ k
  | some a => a ∈ items ∧ key a = k ∧ ∀ b ∈ items, key b = k → rank b ≤ rank a

variable {key rank}

omit [LinearOrder κ] in
theorem Leads.grow {items : List α} {k : κ} {found : Option α} (leads : Leads key rank items k found)
    {a : α} (other : key a ≠ k) : Leads key rank (items ++ [a]) k found := by
  cases found with
  | none =>
    intro b member
    rcases List.mem_append.mp member with old | new
    · exact leads b old
    · exact List.mem_singleton.mp new ▸ other
  | some best =>
    obtain ⟨member, named, top⟩ := leads
    refine ⟨List.mem_append_left _ member, named, fun b seen same => ?_⟩
    rcases List.mem_append.mp seen with old | new
    · exact top b old same
    · exact absurd (List.mem_singleton.mp new ▸ same) other

theorem leads_consider {m : ExtTreeMap κ α compare} {items : List α}
    (leads : ∀ k : κ, Leads key rank items k m[k]?) (a : α) (k : κ) :
    Leads key rank (items ++ [a]) k (consider key rank m a)[k]? := by
  have here := leads (key a)
  have last : a ∈ items ++ [a] := List.mem_append_right _ List.mem_cons_self
  unfold consider
  cases found : m[key a]? with
  | none =>
    rw [found] at here
    simp only [lookup_insert]
    split
    · next same =>
      refine ⟨last, same, fun b seen named => ?_⟩
      rcases List.mem_append.mp seen with old | new
      · exact absurd (named.trans same.symm) (here b old)
      · rw [List.mem_singleton.mp new]
    · next other => exact (leads k).grow other
  | some incumbent =>
    rw [found] at here
    obtain ⟨member, named, top⟩ := here
    by_cases outranked : rank incumbent < rank a
    · simp only [if_pos outranked, lookup_insert]
      split
      · next same =>
        refine ⟨last, same, fun b seen under => ?_⟩
        rcases List.mem_append.mp seen with old | new
        · exact (top b old (under.trans same.symm)).trans outranked.le
        · rw [List.mem_singleton.mp new]
      · next other => exact (leads k).grow other
    · simp only [if_neg outranked]
      by_cases same : key a = k
      · rw [← same, found]
        refine ⟨List.mem_append_left _ member, named, fun b seen under => ?_⟩
        rcases List.mem_append.mp seen with old | new
        · exact top b old under
        · rw [List.mem_singleton.mp new]
          exact not_lt.mp outranked
      · exact (leads k).grow same

variable (key rank) in
theorem select_leads (items : List α) (k : κ) : Leads key rank items k (select key rank items)[k]? := by
  induction items using List.reverseRecOn generalizing k with
  | nil =>
    rw [select, List.foldl_nil, lookup_empty]
    exact fun b member => absurd member List.not_mem_nil
  | append_singleton items a ih =>
    rw [select, List.foldl_append]
    exact leads_consider ih a k

theorem select_mem {items : List α} {k : κ} {a : α} (found : (select key rank items)[k]? = some a) :
    a ∈ items ∧ key a = k := by
  have leads := select_leads key rank items k
  rw [found] at leads
  exact ⟨leads.1, leads.2.1⟩

theorem lookup_consider (m : ExtTreeMap κ α compare) (a : α) (k : κ) :
    (consider key rank m a)[k]? =
      if key a = k ∧ ∀ b, m[k]? = some b → rank b < rank a then some a else m[k]? := by
  by_cases here : key a = k
  · subst here
    unfold consider
    cases found : m[key a]? with
    | none => simp
    | some b =>
      by_cases outranked : rank b < rank a
      · simp [outranked]
      · simp [outranked, found]
  · rw [if_neg fun both => here both.1]
    unfold consider
    split
    · rw [lookup_insert, if_neg here]
    split
    · rw [lookup_insert, if_neg here]
    · rfl

theorem select_append (items : List α) (a : α) :
    select key rank (items ++ [a]) = consider key rank (select key rank items) a := by
  rw [select, List.foldl_append]
  rfl

/-- A change of the items that neither key nor rank shows changes what is
selected alike. -/
theorem select_map {f : α → α} (keyed : ∀ a, key (f a) = key a)
    (ranked : ∀ a, rank (f a) = rank a) (items : List α) :
    select key rank (items.map f) = (select key rank items).map fun _ => f := by
  refine ext_lookup fun k => ?_
  rw [lookup_map]
  induction items using List.reverseRecOn with
  | nil => simp [select]
  | append_singleton items a ih =>
    rw [List.map_append, List.map_singleton, select_append, select_append, lookup_consider,
      lookup_consider, ih, keyed, ranked]
    simp only [Option.map_eq_some_iff, forall_exists_index, and_imp, forall_apply_eq_imp_iff₂,
      ranked]
    split
    · rfl
    · rfl

/-- Without the items of a key, nothing is selected under it. -/
theorem select_without (k : κ) (items : List α) :
    select key rank (items.filter fun a => decide (key a ≠ k)) =
      (select key rank items).erase k := by
  refine ext_lookup fun other => ?_
  rw [lookup_erase]
  induction items using List.reverseRecOn with
  | nil => simp [select]
  | append_singleton items a ih =>
    rw [select_append, List.filter_append, lookup_consider]
    by_cases here : key a = k
    · have dropped : [a].filter (fun a => decide (key a ≠ k)) = [] :=
        List.filter_eq_nil_iff.mpr (by simpa using here)
      rw [dropped, List.append_nil, ih]
      by_cases asked : k = other
      · rw [if_pos asked, if_pos asked]
      · rw [if_neg asked, if_neg asked, if_neg fun both => asked (here.symm.trans both.1)]
    · have stays : [a].filter (fun a => decide (key a ≠ k)) = [a] :=
        List.filter_eq_self.mpr (by simpa using here)
      rw [stays, select_append, lookup_consider, ih]
      by_cases asked : k = other
      · rw [if_pos asked, if_pos asked, if_neg fun both => here (both.1.trans asked.symm)]
      · rw [if_neg asked, if_neg asked]

/-- What is selected is the first of its rank under its key. -/
theorem select_first {items : List α} {k : κ} {a : α}
    (found : (select key rank items)[k]? = some a) :
    items.find? (fun b => decide (key b = k ∧ rank b = rank a)) = some a := by
  induction items using List.reverseRecOn generalizing a with
  | nil =>
    rw [select, List.foldl_nil, lookup_empty] at found
    cases found
  | append_singleton items last ih =>
    have leads := select_leads key rank items k
    have split : select key rank (items ++ [last]) = consider key rank (select key rank items) last := by
      rw [select, List.foldl_append]
      rfl
    rw [split, lookup_consider] at found
    rw [List.find?_append]
    split at found
    · next chosen =>
      cases found
      have none : items.find? (fun b => decide (key b = k ∧ rank b = rank last)) = none := by
        rw [List.find?_eq_none]
        intro b member same
        obtain ⟨named, level⟩ := of_decide_eq_true same
        cases held : (select key rank items)[k]? with
        | none =>
          rw [held] at leads
          exact leads b member named
        | some best =>
          rw [held] at leads
          exact absurd ((leads.2.2 b member named).trans_lt (chosen.2 best held)) (level ▸ lt_irrefl _)
      rw [none, Option.none_or]
      exact List.find?_cons_of_pos (decide_eq_true ⟨chosen.1, rfl⟩)
    · rw [ih found]
      rfl

/-- An item at the head of the list that nothing outranks is chosen. -/
theorem select_head {a : α} {rest : List α} {k : κ} (leads : Leads key rank (a :: rest) k (some a)) :
    (select key rank (a :: rest))[k]? = some a := by
  have chosen := select_leads key rank (a :: rest) k
  cases found : (select key rank (a :: rest))[k]? with
  | none =>
    rw [found] at chosen
    exact absurd leads.2.1 (chosen a List.mem_cons_self)
  | some best =>
    rw [found] at chosen
    have level : rank a = rank best :=
      le_antisymm (chosen.2.2 a List.mem_cons_self leads.2.1) (leads.2.2 best chosen.1 chosen.2.1)
    have head : decide (key a = k ∧ rank a = rank best) = true :=
      decide_eq_true ⟨leads.2.1, level⟩
    exact (select_first found).symm.trans (List.find?_cons_of_pos head)

omit [LinearOrder κ] in
/-- Two lookups agree when the items under the key are the same and two finds are one. -/
theorem Leads.lookup_eq {items items' : List α} {k : κ} {found found' : Option α}
    (here : Leads key rank items k found) (there : Leads key rank items' k found')
    (same : ∀ a, key a = k → (a ∈ items' ↔ a ∈ items))
    (one : ∀ a b, found = some a → found' = some b → b = a) : found' = found := by
  cases found with
  | none =>
    cases found' with
    | none => rfl
    | some b => exact absurd there.2.1 (here b ((same b there.2.1).mp there.1))
  | some a =>
    cases found' with
    | none => exact absurd here.2.1 (there a ((same a here.2.1).mpr here.1))
    | some b => exact congrArg some (one a b rfl rfl)

/-- A selection from the same items under a key, where one of them leads alone. -/
theorem select_alone {items items' : List α} {k : κ}
    (same : ∀ a, key a = k → (a ∈ items' ↔ a ∈ items))
    (alone : ∀ a b, Leads key rank items k (some a) → Leads key rank items k (some b) → a = b) :
    (select key rank items')[k]? = (select key rank items)[k]? := by
  have here := select_leads key rank items k
  have there := select_leads key rank items' k
  refine here.lookup_eq there same fun a b found found' => ?_
  rw [found] at here
  rw [found'] at there
  obtain ⟨member, named, top⟩ := there
  refine alone b a ⟨(same b named).mp member, named, fun c listed under => ?_⟩ here
  exact top c ((same c under).mpr listed) under

/-- The same, whatever decides the equalities. -/
theorem select_first_of {items : List α} {k : κ} {a : α}
    (found : (select key rank items)[k]? = some a) (decides : α → Bool)
    (meaning : ∀ b, decides b = true ↔ key b = k ∧ rank b = rank a) :
    items.find? decides = some a := by
  have same : decides = fun b => decide (key b = k ∧ rank b = rank a) := by
    funext b
    rw [Bool.eq_iff_iff, meaning, decide_eq_true_iff]
  rw [same]
  exact select_first found

omit [LinearOrder κ] [LinearOrder ρ] in
/-- The first item that passes a test is the first that passes a sharper one, if it
passes that too. -/
theorem find?_sharper {items : List α} {a : α} {test sharper : α → Bool}
    (found : items.find? test = some a) (sharp : ∀ b, sharper b = true → test b = true)
    (passes : sharper a = true) : items.find? sharper = some a := by
  obtain ⟨-, before, after, split, earlier⟩ := List.find?_eq_some_iff_append.mp found
  refine List.find?_eq_some_iff_append.mpr ⟨passes, before, after, split, fun b member => ?_⟩
  have failed := earlier b member
  rw [Bool.not_eq_true'] at failed ⊢
  by_contra pass
  rw [sharp b (by simpa using pass)] at failed
  cases failed

/-- Selection depends on the items, and on the order of those of one rank under
one key only. -/
theorem select_classes {items items' : List α} (perm : items'.Perm items)
    (classes : ∀ among : α → Bool,
      (∀ a b, among a = true → among b = true → key a = key b ∧ rank a = rank b) →
        items'.filter among = items.filter among) :
    select key rank items' = select key rank items := by
  refine ext_lookup fun k => ?_
  have here := select_leads key rank items k
  have there := select_leads key rank items' k
  refine here.lookup_eq there (fun a _ => perm.mem_iff) fun a b found found' => ?_
  rw [found] at here
  rw [found'] at there
  obtain ⟨member, named, top⟩ := here
  obtain ⟨member', named', top'⟩ := there
  have level : rank b = rank a := le_antisymm (top b (perm.mem_iff.mp member') named')
    (top' a (perm.mem_iff.mpr member) named)
  have one := select_first found
  have other := select_first found'
  have tied : ∀ c d, decide (key c = k ∧ rank c = rank a) = true →
      decide (key d = k ∧ rank d = rank a) = true → key c = key d ∧ rank c = rank d := by
    intro c d first second
    rw [decide_eq_true_iff] at first second
    exact ⟨first.1.trans second.1.symm, first.2.trans second.2.symm⟩
  rw [level, ← List.head?_filter, classes _ tied] at other
  rw [← List.head?_filter] at one
  exact Option.some.inj (other.symm.trans one)

/-- Of the values of a map, each under its own key, the selection is the map. -/
theorem select_values {m : ExtTreeMap κ α compare} {items : List α}
    (perm : items.Perm (m.toList.map Prod.snd)) (named : ∀ k a, m[k]? = some a → key a = k) :
    select key rank items = m := by
  have among : ∀ a, a ∈ items ↔ m[key a]? = some a := fun a => by
    rw [perm.mem_iff, List.mem_map]
    constructor
    · rintro ⟨⟨k, b⟩, entry, rfl⟩
      have found := mem_toList_iff.mp entry
      dsimp only
      rw [named k b found]
      exact found
    · exact fun found => ⟨(key a, a), mem_toList_iff.mpr found, rfl⟩
  refine ext_lookup fun k => ?_
  have leads := select_leads key rank items k
  cases found : (select key rank items)[k]? with
  | none =>
    rw [found] at leads
    cases held : m[k]? with
    | none => rfl
    | some a =>
      have here := named k a held
      exact absurd here (leads a ((among a).mpr (here ▸ held)))
  | some a =>
    rw [found] at leads
    obtain ⟨member, here, -⟩ := leads
    rw [← here]
    exact ((among a).mp member).symm

/-- Selection depends on the items and their ranks, not on their order. -/
theorem select_perm {items items' : List α} (perm : items'.Perm items)
    (distinct : ∀ a ∈ items, ∀ b ∈ items, key a = key b → rank a = rank b → a = b) :
    select key rank items' = select key rank items := by
  refine ext_lookup fun k => select_alone (fun a _ => perm.mem_iff) fun a b first second => ?_
  refine distinct a first.1 b second.1 (first.2.1.trans second.2.1.symm) (le_antisymm ?_ ?_)
  · exact second.2.2 a first.1 first.2.1
  · exact first.2.2 b second.1 second.2.1

/-! The highest value a pass over a list has seen. -/

section

variable {α β : Type} [LE β] [LT β] [DecidableLT β] [Std.IsLinearOrder β] [Std.LawfulOrderLT β]
  {step : β → α → β} {counts : α → Prop} [DecidablePred counts] {value : α → β}
  (raises : ∀ highest a, step highest a =
    if counts a ∧ highest < value a then value a else highest)

include raises

theorem le_foldl_highest (items : List α) (start : β) : start ≤ items.foldl step start := by
  induction items generalizing start with
  | nil => exact Std.le_refl _
  | cons a rest ih =>
    refine Std.le_trans ?_ (ih _)
    rw [raises]
    split
    · next above => exact Std.le_of_lt above.2
    · exact Std.le_refl _

theorem value_le_foldl_highest {items : List α} {a : α} (counted : counts a) (listed : a ∈ items)
    (start : β) : value a ≤ items.foldl step start := by
  induction items generalizing start with
  | nil => exact absurd listed List.not_mem_nil
  | cons first rest ih =>
    rcases List.mem_cons.mp listed with rfl | later
    · refine Std.le_trans ?_ (le_foldl_highest raises rest _)
      rw [raises]
      split
      · exact Std.le_refl _
      · next below => exact Std.not_lt.mp fun above => below ⟨counted, above⟩
    · exact ih later _

omit [LE β] [Std.IsLinearOrder β] [Std.LawfulOrderLT β] in
theorem foldl_highest_cases (items : List α) (start : β) :
    items.foldl step start = start ∨
      ∃ a ∈ items, counts a ∧ items.foldl step start = value a := by
  induction items generalizing start with
  | nil => exact .inl rfl
  | cons first rest ih =>
    rw [List.foldl_cons]
    rcases ih (step start first) with same | ⟨a, listed, counted, same⟩
    · rw [same, raises]
      split
      · next above => exact .inr ⟨first, List.mem_cons_self, above.1, rfl⟩
      · exact .inl rfl
    · exact .inr ⟨a, List.mem_cons_of_mem _ listed, counted, same⟩

end

end SiteFabric.Lib
