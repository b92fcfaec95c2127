import Mathlib

/-! Readers of byte strings.
A reader takes a value off the front of its input or refuses. Two judgements
compose along a sequence of reads: what a reader makes of the bytes a writer
produced, and what every value it yields is like. -/

namespace SiteFabric.Lib

def Reader (ε α : Type) : Type := List UInt8 → Except ε (α × List UInt8)

namespace Reader

variable {ε α β : Type}

protected def bind (r : Reader ε α) (f : α → Reader ε β) : Reader ε β := fun input =>
  match r input with
  | .ok (a, rest) => f a rest
  | .error e => .error e

instance : Monad (Reader ε) where
  pure a := fun input => .ok (a, input)
  bind := Reader.bind

def refuse (e : ε) : Reader ε α := fun _ => .error e

/-- Goes on where the test passes. -/
def check (ok : Bool) (e : ε) : Reader ε Unit := if ok then pure () else refuse e

/-- One value after another, a given number of times. -/
def many (r : Reader ε α) : Nat → Reader ε (List α)
  | 0 => pure []
  | n + 1 => do
    let a ← r
    let others ← many r n
    return a :: others

theorem run_bind {r : Reader ε α} {f : α → Reader ε β} {input middle : List UInt8} {a : α}
    (read : r input = .ok (a, middle)) : (r >>= f) input = f a middle := by
  change Reader.bind r f input = _
  rw [Reader.bind, read]

theorem refuse_bind {r : Reader ε α} {f : α → Reader ε β} {input : List UInt8} {e : ε}
    (refused : r input = .error e) : (r >>= f) input = .error e := by
  change Reader.bind r f input = _
  rw [Reader.bind, refused]

theorem bind_ok {r : Reader ε α} {f : α → Reader ε β} {input rest : List UInt8} {b : β}
    (run : (r >>= f) input = .ok (b, rest)) :
    ∃ a middle, r input = .ok (a, middle) ∧ f a middle = .ok (b, rest) := by
  have unfolded : Reader.bind r f input = .ok (b, rest) := run
  unfold Reader.bind at unfolded
  split at unfolded
  · next a middle read => exact ⟨a, middle, read, unfolded⟩
  · cases unfolded

/-! What a reader makes of written bytes. Lengths are written in a word of
bounded width, so the judgement is about inputs below a limit. -/

section Runs

variable {limit : Nat}

/-- The reader takes `out` off the input and leaves `rest`, or refuses where
`ok` is false. -/
structure Runs (limit : Nat) (r : Reader ε α) (input : List UInt8) (ok : Bool) (out : α)
    (rest : List UInt8) : Prop where
  yields : input.length < limit → ok = true → r input = .ok (out, rest)
  refuses : input.length < limit → ok = false → ∃ e, r input = .error e

theorem Runs.congr {r : Reader ε α} {input rest : List UInt8} {ok ok' : Bool} {out : α}
    (runs : Runs limit r input ok out rest) (same : ok = ok') : Runs limit r input ok' out rest :=
  same ▸ runs

/-- What comes back matters only where something does. -/
theorem Runs.congr_out {r : Reader ε α} {input rest : List UInt8} {ok : Bool} {out out' : α}
    (runs : Runs limit r input ok out rest) (same : ok = true → out = out') :
    Runs limit r input ok out' rest :=
  ⟨fun short fine => same fine ▸ runs.yields short fine, runs.refuses⟩

theorem Runs.of_eq {r : Reader ε α} {input rest : List UInt8} {out : α}
    (run : r input = .ok (out, rest)) : Runs limit r input true out rest :=
  ⟨fun _ _ => run, fun _ never => by cases never⟩

theorem Runs.of_short {r : Reader ε α} {input rest : List UInt8} {ok : Bool} {out : α}
    (runs : input.length < limit → Runs limit r input ok out rest) :
    Runs limit r input ok out rest :=
  ⟨fun short => (runs short).yields short, fun short => (runs short).refuses short⟩

theorem Runs.pure (a : α) (rest : List UInt8) :
    Runs limit (pure a : Reader ε α) rest true a rest :=
  .of_eq rfl

theorem Runs.bind {r : Reader ε α} {f : α → Reader ε β} {written middle rest : List UInt8}
    {ok ok' : Bool} {a : α} {b : β} (first : Runs limit r (written ++ middle) ok a middle)
    (next : Runs limit (f a) middle ok' b rest) :
    Runs limit (r >>= f) (written ++ middle) (ok && ok') b rest := by
  have shorter (short : (written ++ middle).length < limit) : middle.length < limit := by
    rw [List.length_append] at short
    omega
  have goes (short : (written ++ middle).length < limit) (fine : ok = true) :
      (r >>= f) (written ++ middle) = f a middle :=
    run_bind (first.yields short fine)
  constructor
  · intro short fine
    obtain ⟨one, other⟩ := Bool.and_eq_true_iff.mp fine
    rw [goes short one]
    exact next.yields (shorter short) other
  · intro short bad
    cases one : ok with
    | true =>
      rw [goes short one]
      rw [one, Bool.true_and] at bad
      exact next.refuses (shorter short) bad
    | false =>
      obtain ⟨e, failed⟩ := first.refuses short one
      exact ⟨e, refuse_bind failed⟩

theorem Runs.test (ok : Bool) (e : ε) (rest : List UInt8) :
    Runs limit (Reader.check ok e) rest ok () rest := by
  cases ok with
  | false => exact ⟨fun _ never => (by cases never), fun _ _ => ⟨e, rfl⟩⟩
  | true => exact .pure () rest

theorem Runs.check {f : Unit → Reader ε β} {input rest : List UInt8} {ok ok' : Bool} {e : ε}
    {b : β} (next : Runs limit (f ()) input ok' b rest) :
    Runs limit (Reader.check ok e >>= f) input (ok && ok') b rest := by
  cases ok with
  | false => exact ⟨fun _ never => (by cases never), fun _ _ => ⟨e, rfl⟩⟩
  | true => exact ⟨next.yields, next.refuses⟩

/-- The reader reads back what the writer wrote: `stored` of a value is what
comes back, where `readable` says that anything does. -/
def Reads (limit : Nat) (r : Reader ε α) (write : α → List UInt8) (readable : α → Bool)
    (stored : α → α) : Prop :=
  ∀ a rest, Runs limit r (write a ++ rest) (readable a) (stored a) rest

theorem Reads.many {r : Reader ε α} {write : α → List UInt8} {readable : α → Bool}
    {stored : α → α} (reads : Reads limit r write readable stored) (items : List α)
    (rest : List UInt8) :
    Runs limit (many r items.length) (items.flatMap write ++ rest) (items.all readable)
      (items.map stored) rest := by
  induction items with
  | nil => exact Runs.pure [] rest
  | cons a items ih =>
    rw [List.flatMap_cons, List.append_assoc]
    refine Runs.congr (.bind (reads a _) (.bind ih (.pure _ rest))) ?_
    rw [Bool.and_true, List.all_cons]

end Runs

/-! What every value a reader yields is like. -/

/-- A value the reader yields, and the number of bytes it took, are as `post` says. -/
def Ensures (r : Reader ε α) (post : α → Nat → Prop) : Prop :=
  ∀ input a rest, r input = .ok (a, rest) →
    ∃ used, input.length = used + rest.length ∧ post a used

theorem Ensures.mono {r : Reader ε α} {post post' : α → Nat → Prop} (ensures : Ensures r post)
    (weaker : ∀ a used, post a used → post' a used) : Ensures r post' := by
  intro input a rest run
  obtain ⟨used, length, holds⟩ := ensures input a rest run
  exact ⟨used, length, weaker a used holds⟩

theorem Ensures.pure {a : α} {post : α → Nat → Prop} (holds : post a 0) :
    Ensures (pure a : Reader ε α) post := by
  intro input b rest run
  cases run
  exact ⟨0, (Nat.zero_add _).symm, holds⟩

theorem Ensures.bind {r : Reader ε α} {f : α → Reader ε β} {post : α → Nat → Prop}
    {post' : β → Nat → Prop} (first : Ensures r post)
    (next : ∀ a used, post a used → Ensures (f a) fun b more => post' b (used + more)) :
    Ensures (r >>= f) post' := by
  intro input b rest run
  obtain ⟨a, middle, read, reads⟩ := bind_ok run
  obtain ⟨used, length, holds⟩ := first input a middle read
  obtain ⟨more, length', holds'⟩ := next a used holds middle b rest reads
  exact ⟨used + more, by omega, holds'⟩

theorem Ensures.check {ok : Bool} {e : ε} {f : Unit → Reader ε β} {post : β → Nat → Prop}
    (next : ok = true → Ensures (f ()) post) : Ensures (Reader.check ok e >>= f) post := by
  intro input b rest run
  cases fine : ok with
  | false =>
    rw [fine] at run
    cases run
  | true =>
    rw [fine] at run
    exact next fine input b rest run

theorem Ensures.many {r : Reader ε α} {post : α → Prop} {size : α → Nat}
    (ensures : Ensures r fun a used => post a ∧ size a ≤ used) (n : Nat) :
    Ensures (many r n) fun items used =>
      items.length = n ∧ (∀ a ∈ items, post a) ∧ (items.map size).sum ≤ used := by
  induction n with
  | zero => exact .pure ⟨rfl, by simp, Nat.le_refl 0⟩
  | succ n ih =>
    refine ensures.bind fun a used ⟨holds, fits⟩ => ?_
    refine ih.bind fun items more ⟨length, others, sizes⟩ => ?_
    refine .pure ⟨by simp [length], List.forall_mem_cons.mpr ⟨holds, others⟩, ?_⟩
    simp only [List.map_cons, List.sum_cons]
    omega

/-- A value that can be written again: it would be read back, it is `stable`
under that, and it takes no more room than it was read from. -/
structure Kept (write : α → List UInt8) (readable : α → Bool) (stable : α → Prop) (a : α)
    (used : Nat) : Prop where
  readable : readable a = true
  stable : stable a
  fits : (write a).length ≤ used

/-- Every value the reader yields can be written again. -/
def Keeps (r : Reader ε α) (write : α → List UInt8) (readable : α → Bool)
    (stable : α → Prop) : Prop :=
  Ensures r (Kept write readable stable)

theorem Keeps.many {r : Reader ε α} {write : α → List UInt8} {readable : α → Bool}
    {stable : α → Prop} (keeps : Keeps r write readable stable) (n : Nat) :
    Ensures (many r n) fun items used => items.length = n ∧
      Kept (List.flatMap write) (List.all · readable) (∀ a ∈ ·, stable a) items used := by
  have each : Ensures r fun a used =>
      (readable a = true ∧ stable a) ∧ (write a).length ≤ used :=
    Ensures.mono keeps fun a used kept => ⟨⟨kept.readable, kept.stable⟩, kept.fits⟩
  refine (each.many n).mono fun items used ⟨length, holds, sizes⟩ => ⟨length, ?_, ?_, ?_⟩
  · exact List.all_eq_true.mpr fun a member => (holds a member).1
  · exact fun a member => (holds a member).2
  · rw [List.length_flatMap]
    exact sizes

/-! Readers whose values tell the bytes they took. -/

/-- The bytes the reader takes are as `post` says of the value. -/
def Takes (r : Reader ε α) (post : α → List UInt8 → Prop) : Prop :=
  ∀ input a rest, r input = .ok (a, rest) → ∃ used, input = used ++ rest ∧ post a used

theorem Takes.mono {r : Reader ε α} {post post' : α → List UInt8 → Prop} (takes : Takes r post)
    (weaker : ∀ a used, post a used → post' a used) : Takes r post' := by
  intro input a rest run
  obtain ⟨used, split, holds⟩ := takes input a rest run
  exact ⟨used, split, weaker a used holds⟩

theorem Takes.pure {a : α} {post : α → List UInt8 → Prop} (holds : post a []) :
    Takes (pure a : Reader ε α) post := by
  intro input b rest run
  cases run
  exact ⟨[], rfl, holds⟩

theorem Takes.bind {r : Reader ε α} {f : α → Reader ε β} {post : α → List UInt8 → Prop}
    {post' : β → List UInt8 → Prop} (first : Takes r post)
    (next : ∀ a used, post a used → Takes (f a) fun b more => post' b (used ++ more)) :
    Takes (r >>= f) post' := by
  intro input b rest run
  obtain ⟨a, middle, read, reads⟩ := bind_ok run
  obtain ⟨used, split, holds⟩ := first input a middle read
  obtain ⟨more, split', holds'⟩ := next a used holds middle b rest reads
  exact ⟨used ++ more, by rw [split, split', List.append_assoc], holds'⟩

theorem Takes.check {ok : Bool} {e : ε} {f : Unit → Reader ε β} {post : β → List UInt8 → Prop}
    (next : ok = true → Takes (f ()) post) : Takes (Reader.check ok e >>= f) post := by
  intro input b rest run
  cases fine : ok with
  | false =>
    rw [fine] at run
    cases run
  | true =>
    rw [fine] at run
    exact next fine input b rest run

/-- The reader takes no other bytes for a value than its writer writes. -/
def Spells (r : Reader ε α) (write : α → List UInt8) : Prop :=
  Takes r fun a used => used = write a

theorem Spells.many {r : Reader ε α} {write : α → List UInt8} (spells : Spells r write) (n : Nat) :
    Takes (many r n) fun items used => items.length = n ∧ used = items.flatMap write := by
  induction n with
  | zero => exact .pure ⟨rfl, rfl⟩
  | succ n ih =>
    refine Takes.bind spells fun a used here => ih.bind fun items more ⟨length, there⟩ => .pure ?_
    refine ⟨by rw [List.length_cons, length], ?_⟩
    rw [here, there, List.append_nil, List.flatMap_cons]

/-! Readers that look no further than what they take. -/

def Local (r : Reader ε α) : Prop :=
  ∀ input more a rest, r input = .ok (a, rest) → r (input ++ more) = .ok (a, rest ++ more)

theorem Local.pure (a : α) : Local (pure a : Reader ε α) := by
  rintro input more b rest ⟨⟩
  rfl

theorem Local.bind {r : Reader ε α} {f : α → Reader ε β} (first : Local r)
    (next : ∀ a, Local (f a)) : Local (r >>= f) := by
  intro input more b rest run
  obtain ⟨a, middle, read, reads⟩ := bind_ok run
  rw [run_bind (first input more a middle read)]
  exact next a middle more b rest reads

theorem Local.check {ok : Bool} {e : ε} {f : Unit → Reader ε β} (next : Local (f ())) :
    Local (Reader.check ok e >>= f) := by
  intro input more b rest run
  cases fine : ok with
  | false =>
    rw [fine] at run
    cases run
  | true =>
    rw [fine] at run
    exact next input more b rest run

theorem Local.ite {condition : Prop} [Decidable condition] {yes no : Reader ε α}
    (first : Local yes) (second : Local no) : Local (if condition then yes else no) := by
  split
  · exact first
  · exact second

end Reader

end SiteFabric.Lib
