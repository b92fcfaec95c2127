import Mathlib

/-! Bounded logs of numbered entries.
An entry is appended under a number above all there are, and the oldest entries
are dropped. What a number once named it names for good: a later log either
still holds that entry or holds nothing under its number. -/

namespace SiteFabric.Lib

variable {α : Type} (number : α → Nat)

/-- The entries stand in the order of their numbers. -/
def Ascending (log : List α) : Prop := log.Pairwise fun a b => number a < number b

/-- A log that came of another: it reaches as far, and an entry that is new is
above all the old ones. -/
structure Succeeds (old new : List α) : Prop where
  reaches : ∀ a ∈ old, ∃ b ∈ new, number a ≤ number b
  fresh : ∀ b ∈ new, b ∈ old ∨ ∀ a ∈ old, number a < number b

/-- The last `limit` entries. -/
def keepLast (limit : Nat) (log : List α) : List α := log.drop (log.length - limit)

variable {number}

theorem Succeeds.refl (log : List α) : Succeeds number log log :=
  ⟨fun a held => ⟨a, held, le_rfl⟩, fun _ held => .inl held⟩

theorem Succeeds.trans {a b c : List α} (first : Succeeds number a b)
    (second : Succeeds number b c) : Succeeds number a c where
  reaches x held := by
    obtain ⟨y, later, rise⟩ := first.reaches x held
    obtain ⟨z, last, rise'⟩ := second.reaches y later
    exact ⟨z, last, rise.trans rise'⟩
  fresh z held := by
    rcases second.fresh z held with old | above
    · exact first.fresh z old
    · refine .inr fun x earlier => ?_
      obtain ⟨y, later, rise⟩ := first.reaches x earlier
      exact rise.trans_lt (above y later)

theorem Ascending.unique {log : List α} (ascending : Ascending number log) {a b : α}
    (held : a ∈ log) (held' : b ∈ log) (same : number a = number b) : a = b := by
  have once : (log.map number).Nodup := List.pairwise_map.mpr (ascending.imp fun less => less.ne)
  exact List.inj_on_of_nodup_map once held held' same

/-- A number names one entry in all the logs that come of each other. -/
theorem Succeeds.unique {old new : List α} (ascending : Ascending number old)
    (succeeds : Succeeds number old new) {a b : α} (held : a ∈ old) (held' : b ∈ new)
    (same : number a = number b) : a = b := by
  rcases succeeds.fresh b held' with still | above
  · exact ascending.unique held still same
  · exact absurd same (above a held).ne

theorem length_keepLast (limit : Nat) (log : List α) : (keepLast limit log).length ≤ limit := by
  rw [keepLast, List.length_drop]
  omega

/-- What is dropped comes first, and a full log is what remains. -/
theorem keepLast_split (limit : Nat) (log : List α) :
    ∃ dropped, log = dropped ++ keepLast limit log ∧
      (dropped = [] ∨ (keepLast limit log).length = limit) := by
  refine ⟨log.take (log.length - limit), (List.take_append_drop ..).symm, ?_⟩
  rw [keepLast, List.length_drop, List.take_eq_nil_iff]
  omega

theorem keepLast_concat {limit : Nat} (room : 0 < limit) (log : List α) (a : α) :
    ∃ kept, kept <:+ log ∧ keepLast limit (log ++ [a]) = kept ++ [a] := by
  refine ⟨log.drop (log.length + 1 - limit), List.drop_suffix .., ?_⟩
  rw [keepLast, List.length_append, List.length_singleton,
    List.drop_append_of_le_length (by omega)]

section Append

variable {limit : Nat} (room : 0 < limit) {log : List α} {a : α}

include room

theorem getLast?_keepLast : (keepLast limit (log ++ [a])).getLast? = some a := by
  obtain ⟨kept, _, same⟩ := keepLast_concat room log a
  rw [same, List.getLast?_concat]

variable (above : ∀ b ∈ log, number b < number a)

include above

theorem Ascending.keepLast (ascending : Ascending number log) :
    Ascending number (keepLast limit (log ++ [a])) := by
  obtain ⟨kept, inside, same⟩ := keepLast_concat room log a
  rw [same, Ascending, List.pairwise_append]
  refine ⟨ascending.sublist inside.sublist, List.pairwise_singleton .., fun b held c last => ?_⟩
  rw [List.mem_singleton.mp last]
  exact above b (inside.subset held)

theorem Succeeds.keepLast : Succeeds number log (keepLast limit (log ++ [a])) := by
  obtain ⟨kept, inside, same⟩ := keepLast_concat room log a
  rw [same]
  refine ⟨fun b held => ⟨a, by simp, (above b held).le⟩, fun b held => ?_⟩
  rcases List.mem_append.mp held with old | last
  · exact .inl (inside.subset old)
  · rw [List.mem_singleton.mp last]
    exact .inr above

end Append

end SiteFabric.Lib
