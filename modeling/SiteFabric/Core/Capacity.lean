import SiteFabric.Core.Canonical

/-! Capacity values and checked aggregation.
A channel is known or unknown, and a running total remembers what it has seen:
nothing yet, something unknown, or more than the plausibility bound. The exact
meaning of a total is given by `Tally.tallyOf_known_iff`. -/

namespace SiteFabric

namespace Limits

def maxCapacityBps : UInt64 := 1000000000000000

end Limits

structure CapacityValue where
  known : Bool := false
  bps : UInt64 := 0
deriving DecidableEq, Inhabited

namespace CapacityValue

def unknown : CapacityValue := {}

def ofBps (bps : UInt64) : CapacityValue := ⟨true, bps⟩

def write (v : CapacityValue) : List UInt8 :=
  Canonical.flag v.known ++ Canonical.u64 (if v.known then v.bps else 0)

end CapacityValue

structure CapacityVector where
  ingress : CapacityValue := {}
  egress : CapacityValue := {}
  internal : CapacityValue := {}
deriving DecidableEq, Inhabited

inductive CapacityChannel where
  | unknown | ingress | egress | internal
deriving DecidableEq, Inhabited

def CapacityChannel.token : CapacityChannel → Text
  | .unknown => ascii "UNKNOWN"
  | .ingress => ascii "INGRESS"
  | .egress => ascii "EGRESS"
  | .internal => ascii "INTERNAL"

namespace CapacityVector

def allUnknown : CapacityVector := {}

def channel (v : CapacityVector) : CapacityChannel → CapacityValue
  | .unknown => .unknown
  | .ingress => v.ingress
  | .egress => v.egress
  | .internal => v.internal

def write (v : CapacityVector) : List UInt8 :=
  v.ingress.write ++ v.egress.write ++ v.internal.write

end CapacityVector

inductive CapacityScope where
  | unknown | siteIngress | siteEgress | siteInternal | rackLocal | podLocal | clusterLocal
  | sharedLink | gateway
deriving DecidableEq, Inhabited

namespace CapacityScope

def token : CapacityScope → Text
  | .unknown => ascii "UNKNOWN"
  | .siteIngress => ascii "SITE_INGRESS"
  | .siteEgress => ascii "SITE_EGRESS"
  | .siteInternal => ascii "SITE_INTERNAL"
  | .rackLocal => ascii "RACK_LOCAL"
  | .podLocal => ascii "POD_LOCAL"
  | .clusterLocal => ascii "CLUSTER_LOCAL"
  | .sharedLink => ascii "SHARED_LINK"
  | .gateway => ascii "GATEWAY"

def isValid : CapacityScope → Bool
  | .unknown => false
  | _ => true

end CapacityScope

/-- Adds one known value to a known accumulator, or reports the overflow. -/
def addKnown (accumulator addend : UInt64) : Except Status UInt64 :=
  if addend > Limits.maxCapacityBps ∨ accumulator > Limits.maxCapacityBps then
    .error .capacityOverflow
  else
    let sum := accumulator + addend
    if sum < accumulator ∨ sum > Limits.maxCapacityBps then .error .capacityOverflow else .ok sum

/-- One channel of `add_capacity`. -/
def addChannelKnown (accumulator addend : CapacityValue) : Except Status CapacityValue :=
  if !addend.known || !accumulator.known then .ok .unknown
  else (addKnown accumulator.bps addend.bps).map fun sum => { accumulator with bps := sum }

def addCapacity (accumulator addend : CapacityVector) : Except Status CapacityVector := do
  let ingress ← addChannelKnown accumulator.ingress addend.ingress
  let egress ← addChannelKnown accumulator.egress addend.egress
  let internal ← addChannelKnown accumulator.internal addend.internal
  return { ingress, egress, internal }

/-- One channel of `capacity_leq`. -/
def channelLeq (part whole : CapacityValue) : Bool :=
  !(part.known && whole.known && decide (part.bps > whole.bps))

def capacityLeq (part whole : CapacityVector) : Bool :=
  channelLeq part.ingress whole.ingress && channelLeq part.egress whole.egress &&
    channelLeq part.internal whole.internal

def subtractChannel (left right : CapacityValue) : Except Status CapacityValue :=
  if !left.known || !right.known then .ok .unknown
  else if right.bps > left.bps then .error .capacityUnderflow
  else .ok (.ofBps (left.bps - right.bps))

def subtractCapacity (minuend subtrahend : CapacityVector) : Except Status CapacityVector := do
  let ingress ← subtractChannel minuend.ingress subtrahend.ingress
  let egress ← subtractChannel minuend.egress subtrahend.egress
  let internal ← subtractChannel minuend.internal subtrahend.internal
  return { ingress, egress, internal }

/-- One channel of a running aggregate. -/
structure Tally where
  seen : Bool := false
  unknown : Bool := false
  overflow : Bool := false
  sum : UInt64 := 0
deriving DecidableEq, Inhabited

namespace Tally

/-- `add_channel`: an unknown value is remembered, an overflow is final. -/
def add (t : Tally) (value : CapacityValue) : Tally × Status :=
  if !value.known then ({ t with seen := true, unknown := true }, .ok)
  else if t.overflow then ({ t with seen := true }, .ok)
  else
    match addKnown t.sum value.bps with
    | .ok sum => ({ t with seen := true, sum }, .ok)
    | .error status => ({ t with seen := true, overflow := true }, status)

def known (t : Tally) : Bool := t.seen && !t.unknown && !t.overflow

/-- The channel of `total()`. -/
def value (t : Tally) : CapacityValue := if t.known then .ofBps t.sum else .unknown

end Tally

structure CapacityAggregate where
  ingress : Tally := {}
  egress : Tally := {}
  internal : Tally := {}
  contributions : Nat := 0
deriving DecidableEq, Inhabited

namespace CapacityAggregate

def channel (a : CapacityAggregate) : CapacityChannel → Tally
  | .unknown => {}
  | .ingress => a.ingress
  | .egress => a.egress
  | .internal => a.internal

def countEntry (a : CapacityAggregate) : CapacityAggregate :=
  { a with contributions := a.contributions + 1 }

def addChannel (a : CapacityAggregate) (c : CapacityChannel) (value : CapacityValue) :
    CapacityAggregate × Status :=
  match c with
  | .ingress => ({ a with ingress := (a.ingress.add value).1 }, (a.ingress.add value).2)
  | .egress => ({ a with egress := (a.egress.add value).1 }, (a.egress.add value).2)
  | .internal => ({ a with internal := (a.internal.add value).1 }, (a.internal.add value).2)
  | .unknown => (a, .invalid)

def total (a : CapacityAggregate) : CapacityVector :=
  { ingress := a.ingress.value, egress := a.egress.value, internal := a.internal.value }

def overflowed (a : CapacityAggregate) : Bool :=
  a.ingress.overflow || a.egress.overflow || a.internal.overflow

def status (a : CapacityAggregate) : Status :=
  if a.overflowed then .capacityOverflow
  else if a.contributions = 0 then .capacityUnknown
  else if !a.ingress.known || !a.egress.known || !a.internal.known then .capacityUnknown
  else .ok

theorem total_channel (a : CapacityAggregate) (c : CapacityChannel) :
    a.total.channel c = (a.channel c).value := by
  cases c <;> rfl

end CapacityAggregate

/-- The exact sum of the known values, in no fixed width. -/
def exactSum (values : List CapacityValue) : Nat :=
  (values.map fun v => if v.known then v.bps.toNat else 0).sum

theorem exactSum_cons (v : CapacityValue) (rest : List CapacityValue) :
    exactSum (v :: rest) = (if v.known then v.bps.toNat else 0) + exactSum rest := by
  simp [exactSum]

theorem exactSum_append (first second : List CapacityValue) :
    exactSum (first ++ second) = exactSum first + exactSum second := by
  simp [exactSum]

/-- The order of values does not change their exact sum. -/
theorem exactSum_perm {first second : List CapacityValue} (same : first.Perm second) :
    exactSum first = exactSum second :=
  (same.map _).sum_eq

/-- Addition is refused exactly when the exact sum passes the bound. -/
theorem addKnown_eq (accumulator addend : UInt64) :
    addKnown accumulator addend =
      if accumulator.toNat + addend.toNat ≤ Limits.maxCapacityBps.toNat then
        .ok (accumulator + addend)
      else .error .capacityOverflow := by
  have bound : Limits.maxCapacityBps.toNat = 1000000000000000 := by decide
  have low := accumulator.toNat_lt
  have high := addend.toNat_lt
  have wrap : (accumulator + addend).toNat = (accumulator.toNat + addend.toNat) % 2 ^ 64 :=
    UInt64.toNat_add accumulator addend
  simp only [addKnown, gt_iff_lt, UInt64.lt_iff_toNat_lt, wrap, bound]
  by_cases within : accumulator.toNat + addend.toNat ≤ 1000000000000000
  · have exact : (accumulator.toNat + addend.toNat) % 2 ^ 64 =
        accumulator.toNat + addend.toNat := Nat.mod_eq_of_lt (by omega)
    rw [if_pos within, if_neg (by omega), exact, if_neg (by omega)]
  · rw [if_neg within]
    split
    · rfl
    · have exact : (accumulator.toNat + addend.toNat) % 2 ^ 64 =
          accumulator.toNat + addend.toNat := Nat.mod_eq_of_lt (by omega)
      rw [exact, if_pos (by omega)]

namespace Tally

theorem value_known (t : Tally) : t.value.known = t.known := by
  unfold value
  cases t.known <;> rfl

theorem value_bps {t : Tally} (known : t.known = true) : t.value.bps = t.sum := by
  rw [value, if_pos known]
  rfl

/-- The tally of a list of values. -/
def tallyOf (values : List CapacityValue) : Tally := values.foldl (fun t v => (t.add v).1) {}

/-- What a tally holds after a list of values: which it saw, and their exact sum
unless it passed the bound. -/
structure Holds (t : Tally) (values : List CapacityValue) : Prop where
  seen : t.seen = !values.isEmpty
  unknown : t.unknown = values.any fun v => !v.known
  overflow : t.overflow = decide (Limits.maxCapacityBps.toNat < exactSum values)
  sum : t.overflow = false → t.sum.toNat = exactSum values

theorem Holds.add {t : Tally} {values : List CapacityValue} (holds : t.Holds values)
    (v : CapacityValue) : (t.add v).1.Holds (values ++ [v]) := by
  obtain ⟨_, unknown, overflow, sum⟩ := holds
  have grown : exactSum (values ++ [v]) =
      exactSum values + if v.known then v.bps.toNat else 0 := by
    rw [exactSum_append, exactSum_cons]
    simp [exactSum]
  unfold Tally.add
  cases known : v.known with
  | false =>
    simp only [known, Bool.false_eq_true, if_false, add_zero] at grown
    refine ⟨?_, ?_, ?_, ?_⟩
    · simp
    · simp [known]
    · simp [overflow, grown]
    · simpa [grown] using sum
  | true =>
    simp only [known, if_true] at grown
    cases past : t.overflow with
    | true =>
      rw [past] at overflow
      have beyond := of_decide_eq_true overflow.symm
      refine ⟨?_, ?_, ?_, ?_⟩
      · simp
      · simp [known, unknown]
      · simp only [Bool.not_true, Bool.false_eq_true, if_false, if_true]
        rw [eq_comm, decide_eq_true_eq, grown]
        omega
      · simp
    | false =>
      rw [past] at overflow
      have within := of_decide_eq_false overflow.symm
      have exact := sum past
      have bound : Limits.maxCapacityBps.toNat = 1000000000000000 := by decide
      simp only [Bool.not_true, Bool.false_eq_true, if_false, addKnown_eq, exact]
      by_cases fits : exactSum values + v.bps.toNat ≤ Limits.maxCapacityBps.toNat
      · have wrap : (t.sum + v.bps).toNat = exactSum values + v.bps.toNat := by
          rw [UInt64.toNat_add, exact]
          exact Nat.mod_eq_of_lt (by omega)
        simp only [if_pos fits]
        refine ⟨?_, ?_, ?_, ?_⟩
        · simp
        · simp [known, unknown]
        · simp only
          rw [eq_comm, decide_eq_false_iff_not, grown]
          omega
        · intro _
          rw [grown, wrap]
      · simp only [if_neg fits]
        refine ⟨?_, ?_, ?_, ?_⟩
        · simp
        · simp [known, unknown]
        · rw [eq_comm, decide_eq_true_eq, grown]
          omega
        · simp

theorem tallyOf_holds (values : List CapacityValue) : (tallyOf values).Holds values := by
  induction values using List.reverseRecOn with
  | nil =>
    refine ⟨rfl, rfl, ?_, fun _ => rfl⟩
    simp [tallyOf, exactSum]
  | append_singleton rest v ih =>
    simp only [tallyOf, List.foldl_append, List.foldl_cons, List.foldl_nil]
    exact ih.add v

section

variable {t t' : Tally} {values values' : List CapacityValue}

/-- A channel total is known exactly when something reported it, everything
that did knew it, and the exact sum is within the bound; it is then that sum. -/
theorem Holds.known_iff (holds : t.Holds values) : t.known = true ↔ values ≠ [] ∧
    (∀ v ∈ values, v.known = true) ∧ exactSum values ≤ Limits.maxCapacityBps.toNat := by
  simp only [known, holds.seen, holds.unknown, holds.overflow, Bool.and_eq_true,
    Bool.not_eq_true', List.isEmpty_eq_false_iff, decide_eq_false_iff_not, not_lt,
    List.any_eq_false, and_assoc, ne_eq, Bool.not_eq_false]

theorem Holds.sum_within (holds : t.Holds values)
    (within : exactSum values ≤ Limits.maxCapacityBps.toNat) : t.sum.toNat = exactSum values := by
  apply holds.sum
  rw [holds.overflow, decide_eq_false_iff_not, not_lt]
  exact within

theorem Holds.sum_of_known (holds : t.Holds values) (known : t.known = true) :
    t.sum.toNat = exactSum values :=
  holds.sum_within (holds.known_iff.mp known).2.2

/-- Tallies of the same values in another order have the same total. -/
theorem Holds.value_eq (holds : t.Holds values) (holds' : t'.Holds values')
    (perm : values.Perm values') : t.value = t'.value := by
  have known : t.known = t'.known := by
    rw [Bool.eq_iff_iff, holds.known_iff, holds'.known_iff, exactSum_perm perm]
    simp only [perm.mem_iff, ne_eq, ← List.length_eq_zero_iff, perm.length_eq]
  unfold value
  rw [known]
  split
  · next told =>
    have sums : t.sum.toNat = t'.sum.toNat := by
      rw [holds.sum_of_known (known ▸ told), holds'.sum_of_known told, exactSum_perm perm]
    rw [UInt64.toNat_inj.mp sums]
  · rfl

end

theorem tallyOf_known_iff (values : List CapacityValue) :
    (tallyOf values).known = true ↔ values ≠ [] ∧ (∀ v ∈ values, v.known = true) ∧
      exactSum values ≤ Limits.maxCapacityBps.toNat :=
  (tallyOf_holds values).known_iff

theorem tallyOf_sum_of_known {values : List CapacityValue}
    (known : (tallyOf values).known = true) : (tallyOf values).sum.toNat = exactSum values :=
  (tallyOf_holds values).sum_of_known known

end Tally

end SiteFabric
