import SiteFabric.Lib.Reader

/-! Codecs: a reader and a writer that answer to each other.
Writing is total and reading is not, so a codec says which values are read back
at all and what of them comes back. A codec for a record is built from the
codecs of its fields, in the order they are written. -/

namespace SiteFabric.Lib

open Reader

structure Codec (ε : Type) (limit : Nat) (α : Type) where
  read : Reader ε α
  write : α → List UInt8
  readable : α → Bool
  stored : α → α
  reads : Reads limit read write readable stored
  keeps : Keeps read write readable fun a => write (stored a) = write a
  solid : ∀ a, 0 < (write a).length

namespace Codec

variable {ε α β ρ : Type} {limit : Nat}

/-- A codec that gives back exactly what was written. -/
def exactly (read : Reader ε α) (write : α → List UInt8) (readable : α → Bool)
    (reads : Reads limit read write readable fun a => a)
    (keeps : Keeps read write readable fun _ => True) (solid : ∀ a, 0 < (write a).length) :
    Codec ε limit α where
  read := read
  write := write
  readable := readable
  stored a := a
  reads := reads
  keeps := Ensures.mono keeps fun _ _ kept => ⟨kept.readable, rfl, kept.fits⟩
  solid := solid

/-- One value, then another. -/
def and (c : Codec ε limit α) (d : Codec ε limit β) : Codec ε limit (α × β) where
  read := do
    let a ← c.read
    let b ← d.read
    return (a, b)
  write p := c.write p.1 ++ d.write p.2
  readable p := c.readable p.1 && d.readable p.2
  stored p := (c.stored p.1, d.stored p.2)
  reads p rest := by
    rw [List.append_assoc]
    refine Runs.congr (.bind (c.reads p.1 _) (.bind (d.reads p.2 rest) (.pure _ rest))) ?_
    rw [Bool.and_true]
  keeps := by
    refine Ensures.bind c.keeps fun a used one => Ensures.bind d.keeps fun b more other => .pure ?_
    refine ⟨Bool.and_eq_true_iff.mpr ⟨one.readable, other.readable⟩, ?_, ?_⟩
    · rw [one.stable, other.stable]
    · have fits := one.fits
      have fits' := other.fits
      simp only [List.length_append]
      omega
  solid p := by
    have first := c.solid p.1
    rw [List.length_append]
    omega

/-- A record, read and written as the tuple of its fields. Fields that are not
written come back as `make` sets them. -/
def record {τ : Type} (inner : Codec ε limit τ) (make : τ → ρ) (fields : ρ → τ)
    (write : ρ → List UInt8) (back : ∀ t, fields (make t) = t)
    (written : ∀ a, write a = inner.write (fields a)) : Codec ε limit ρ where
  read := do return make (← inner.read)
  write := write
  readable a := inner.readable (fields a)
  stored a := make (inner.stored (fields a))
  reads a rest := by
    rw [written]
    exact Runs.congr (.bind (inner.reads (fields a) rest) (.pure _ rest)) (Bool.and_true _)
  keeps := by
    refine Ensures.bind inner.keeps fun t used kept => .pure ⟨?_, ?_, ?_⟩
    · rw [back]
      exact kept.readable
    · rw [written, written, back, back]
      exact kept.stable
    · rw [written, back]
      exact kept.fits
  solid a := by
    rw [written]
    exact inner.solid _

/-- Values that pass a test; the test is made right after the read. -/
def ensure (c : Codec ε limit α) (ok : α → Bool) (e : ε) (same : ∀ a, ok (c.stored a) = ok a) :
    Codec ε limit α where
  read := do
    let a ← c.read
    check (ok a) e
    return a
  write := c.write
  readable a := c.readable a && ok a
  stored := c.stored
  reads a rest := by
    refine Runs.congr (.bind (c.reads a rest) (.check (.pure _ rest))) ?_
    rw [same, Bool.and_true]
  keeps := by
    refine Ensures.bind c.keeps fun a used kept => .check fun passed => .pure ?_
    exact ⟨Bool.and_eq_true_iff.mpr ⟨kept.readable, passed⟩, kept.stable, kept.fits⟩
  solid := c.solid

/-- A value set right after it is read, in parts that are not written. -/
def amend (c : Codec ε limit α) (f : α → α) (unwritten : ∀ a, c.write (f a) = c.write a)
    (unread : ∀ a, c.readable (f a) = c.readable a)
    (settled : ∀ a, f (c.stored (f a)) = f (c.stored a)) : Codec ε limit α where
  read := do return f (← c.read)
  write := c.write
  readable := c.readable
  stored a := f (c.stored a)
  reads a rest := Runs.congr (.bind (c.reads a rest) (.pure _ rest)) (Bool.and_true _)
  keeps := by
    refine Ensures.bind c.keeps fun a used kept => .pure ⟨?_, ?_, ?_⟩
    · rw [unread]
      exact kept.readable
    · rw [settled, unwritten, unwritten]
      exact kept.stable
    · rw [unwritten]
      exact kept.fits
  solid := c.solid

@[simp] theorem readable_and (c : Codec ε limit α) (d : Codec ε limit β) (p : α × β) :
    (c.and d).readable p = (c.readable p.1 && d.readable p.2) := rfl

@[simp] theorem readable_record {τ : Type} (inner : Codec ε limit τ) (make : τ → ρ)
    (fields : ρ → τ) (write : ρ → List UInt8) (back : ∀ t, fields (make t) = t)
    (written : ∀ a, write a = inner.write (fields a)) (a : ρ) :
    (inner.record make fields write back written).readable a = inner.readable (fields a) := rfl

/-- A codec whose values come back as they were read. -/
def Plain (c : Codec ε limit α) : Prop := Ensures c.read fun a _ => c.stored a = a

theorem Plain.same {c : Codec ε limit α} (same : ∀ a, c.stored a = a) : c.Plain :=
  Ensures.mono c.keeps fun a _ _ => same a

theorem Plain.and {c : Codec ε limit α} {d : Codec ε limit β} (one : c.Plain) (other : d.Plain) :
    (c.and d).Plain :=
  Ensures.bind one fun _ _ first => Ensures.bind other fun _ _ second =>
    .pure (Prod.ext first second)

theorem Plain.record {τ : Type} {inner : Codec ε limit τ} {make : τ → ρ} {fields : ρ → τ}
    {write : ρ → List UInt8} {back : ∀ t, fields (make t) = t}
    {written : ∀ a, write a = inner.write (fields a)} (plain : inner.Plain) :
    (inner.record make fields write back written).Plain :=
  Ensures.bind plain fun t _ same => .pure <| by
    change make (inner.stored (fields (make t))) = make t
    rw [back, same]

theorem Plain.ensure {c : Codec ε limit α} {ok : α → Bool} {e : ε}
    {same : ∀ a, ok (c.stored a) = ok a} (plain : c.Plain) : (c.ensure ok e same).Plain :=
  Ensures.bind plain fun _ _ same => .check fun _ => .pure same

theorem Plain.amend {c : Codec ε limit α} {f : α → α} {unwritten : ∀ a, c.write (f a) = c.write a}
    {unread : ∀ a, c.readable (f a) = c.readable a}
    {settled : ∀ a, f (c.stored (f a)) = f (c.stored a)} (plain : c.Plain) :
    (c.amend f unwritten unread settled).Plain :=
  Ensures.bind plain fun a _ same => .pure <| by
    change f (c.stored (f a)) = f a
    rw [settled, same]

/-- What a codec yields can be written again, in no more room. -/
theorem yielded (c : Codec ε limit α) {input rest : List UInt8} {a : α}
    (read : c.read input = .ok (a, rest)) :
    c.readable a = true ∧ c.write (c.stored a) = c.write a ∧
      (c.write a).length ≤ input.length := by
  obtain ⟨used, length, kept⟩ := c.keeps input a rest read
  have fits := kept.fits
  exact ⟨kept.readable, kept.stable, by omega⟩

theorem Plain.yielded {c : Codec ε limit α} (plain : c.Plain) {input rest : List UInt8} {a : α}
    (read : c.read input = .ok (a, rest)) : c.stored a = a := by
  obtain ⟨used, length, same⟩ := plain input a rest read
  exact same

/-- What the second of two codecs ensures. -/
theorem ensures_and {c : Codec ε limit α} {d : Codec ε limit β} {post : β → Prop}
    (ensures : Ensures d.read fun b _ => post b) :
    Ensures (c.and d).read fun p _ => post p.2 :=
  Ensures.bind c.keeps fun _ _ _ => Ensures.bind ensures fun _ _ holds => .pure holds

/-- A readable value comes back whatever the length of what is read. -/
def Returns (c : Codec ε limit α) : Prop :=
  ∀ a rest, c.readable a = true → c.read (c.write a ++ rest) = .ok (c.stored a, rest)

/-- What stays below the limit comes back below it, and a reader that looks no
further does the same before any other bytes. -/
theorem Returns.of_local {c : Codec ε limit α} (nearby : Local c.read)
    (small : ∀ a, c.readable a = true → (c.write a).length < limit) : c.Returns := by
  intro a rest readable
  have alone := (c.reads a []).yields (by rw [List.append_nil]; exact small a readable) readable
  rw [List.append_nil] at alone
  exact nearby _ rest _ _ alone

theorem Returns.and {c : Codec ε limit α} {d : Codec ε limit β} (one : c.Returns)
    (other : d.Returns) : (c.and d).Returns := by
  intro p rest readable
  obtain ⟨first, second⟩ := Bool.and_eq_true_iff.mp readable
  change (c.and d).read (c.write p.1 ++ d.write p.2 ++ rest) = _
  rw [List.append_assoc]
  change (c.read >>= _) _ = _
  rw [run_bind (one p.1 _ first), run_bind (other p.2 rest second)]
  rfl

theorem Returns.record {τ : Type} {inner : Codec ε limit τ} {make : τ → ρ} {fields : ρ → τ}
    {write : ρ → List UInt8} {back : ∀ t, fields (make t) = t}
    {written : ∀ a, write a = inner.write (fields a)} (returns : inner.Returns) :
    (inner.record make fields write back written).Returns := by
  intro a rest readable
  change (inner.read >>= _) (write a ++ rest) = _
  rw [written, run_bind (returns (fields a) rest readable)]
  rfl

/-- A codec that takes each value from one string of bytes only. -/
def Exact (c : Codec ε limit α) : Prop := Spells c.read c.write

theorem Exact.and {c : Codec ε limit α} {d : Codec ε limit β} (one : c.Exact) (other : d.Exact) :
    (c.and d).Exact := by
  refine Takes.bind one fun a used here => Takes.bind other fun b more there => .pure ?_
  rw [here, there, List.append_nil]
  rfl

theorem Exact.record {τ : Type} {inner : Codec ε limit τ} {make : τ → ρ} {fields : ρ → τ}
    {write : ρ → List UInt8} {back : ∀ t, fields (make t) = t}
    {written : ∀ a, write a = inner.write (fields a)} (exact : inner.Exact) :
    (inner.record make fields write back written).Exact := by
  refine Takes.bind exact fun t used here => .pure ?_
  change used ++ [] = write (make t)
  rw [here, List.append_nil, written, back]

/-- What is read is written as it was. -/
theorem Exact.write_of_read {c : Codec ε limit α} (exact : c.Exact) {input rest : List UInt8}
    {a : α} (read : c.read input = .ok (a, rest)) : input = c.write a ++ rest := by
  obtain ⟨used, split, here⟩ := exact input a rest read
  rw [split, here]

end Codec

end SiteFabric.Lib
