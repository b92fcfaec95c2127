import Mathlib.Data.List.Nodup

/-! Texts that begin with the token of a kind. A separator ends the token at its first
occurrence; a table gives each kind its token. What follows the separator may hold the
separator again. -/

namespace SiteFabric.Lib

variable {κ α : Type}

section Separator

variable [DecidableEq α]

/-- The two sides of the first separator. -/
def splitAtFirst (separator : α) (text : List α) : Option (List α × List α) :=
  (text.findIdx? (· = separator)).map fun i => (text.take i, text.drop (i + 1))

theorem splitAtFirst_iff {separator : α} {text before after : List α} :
    splitAtFirst separator text = some (before, after) ↔
      text = before ++ separator :: after ∧ separator ∉ before := by
  constructor
  · intro split
    obtain ⟨i, found, sides⟩ := Option.map_eq_some_iff.mp split
    obtain ⟨front, rest⟩ := Prod.mk.inj sides
    obtain ⟨within, here, none⟩ := List.findIdx?_eq_some_iff_getElem.mp found
    refine ⟨?_, fun held => ?_⟩
    · rw [← front, ← rest, ← of_decide_eq_true here, ← List.drop_eq_getElem_cons within,
        List.take_append_drop]
    · rw [← front] at held
      obtain ⟨j, small, there⟩ := List.getElem_of_mem held
      rw [List.length_take] at small
      rw [List.getElem_take] at there
      exact none j (by omega) (decide_eq_true there)
  · rintro ⟨rfl, absent⟩
    have found : (before ++ separator :: after).findIdx? (· = separator) = some before.length := by
      refine List.findIdx?_eq_some_iff_getElem.mpr ⟨by simp, by simp, fun j small here => ?_⟩
      rw [List.getElem_append_left small] at here
      exact absent (of_decide_eq_true here ▸ List.getElem_mem small)
    rw [splitAtFirst, found]
    simp

end Separator

/-- One token for each kind that is listed, and one kind for each token. -/
structure TokenTable (κ α : Type) where
  entries : List (κ × List α)
  kinds : (entries.map Prod.fst).Nodup
  tokens : (entries.map Prod.snd).Nodup

namespace TokenTable

variable (table : TokenTable κ α)

def lookup [DecidableEq κ] (unknown : List α) (kind : κ) : List α :=
  ((table.entries.find? (·.1 = kind)).map Prod.snd).getD unknown

def reverseLookup [DecidableEq α] (token : List α) : Option κ :=
  (table.entries.find? (·.2 = token)).map Prod.fst

theorem find?_of_mem {ε β : Type} [DecidableEq β] {f : ε → β} {entries : List ε}
    (distinct : (entries.map f).Nodup) {entry : ε} (listed : entry ∈ entries) :
    entries.find? (f · = f entry) = some entry := by
  cases found : entries.find? (f · = f entry) with
  | none => exact absurd (decide_eq_true rfl) (List.find?_eq_none.mp found entry listed)
  | some other =>
    have same : f other = f entry :=
      of_decide_eq_true (List.find?_some (p := fun e => f e = f entry) found)
    rw [List.inj_on_of_nodup_map distinct (List.mem_of_find?_eq_some found) listed same]

variable {table}

theorem reverseLookup_iff [DecidableEq α] {token : List α} {kind : κ} :
    table.reverseLookup token = some kind ↔ (kind, token) ∈ table.entries := by
  constructor
  · intro known
    obtain ⟨⟨k, t⟩, found, rfl⟩ := Option.map_eq_some_iff.mp known
    have same : t = token :=
      of_decide_eq_true (List.find?_some (p := fun e : κ × List α => e.2 = token) found)
    exact same ▸ List.mem_of_find?_eq_some found
  · intro listed
    rw [reverseLookup, find?_of_mem table.tokens listed]
    rfl

theorem lookup_eq [DecidableEq κ] {unknown token : List α} {kind : κ}
    (listed : (kind, token) ∈ table.entries) :
    table.lookup unknown kind = token := by
  rw [lookup, find?_of_mem table.kinds listed]
  rfl

end TokenTable

end SiteFabric.Lib
