import SiteFabric.Core.Capacity

/-! Aggregates over whole contributions and single channels.
Every call feeds each channel some values, and a channel's tally is told by the values it
was fed: by which they are and by their exact sum, so not by the order of the calls. -/

namespace SiteFabric

namespace CapacityAggregate

/-- A contribution feeds every channel; the first failure is returned. -/
def add (a : CapacityAggregate) (contribution : CapacityVector) : CapacityAggregate × Status :=
  let ingress := a.countEntry.addChannel .ingress contribution.ingress
  let egress := ingress.1.addChannel .egress contribution.egress
  let internal := egress.1.addChannel .internal contribution.internal
  let worst := ingress.2
  let worst := if !egress.2.isOk && worst.isOk then egress.2 else worst
  let worst := if !internal.2.isOk && worst.isOk then internal.2 else worst
  (internal.1, worst)

def channelKnown (a : CapacityAggregate) (c : CapacityChannel) : Bool := (a.channel c).known

theorem channel_addChannel (a : CapacityAggregate) (c channel : CapacityChannel)
    (value : CapacityValue) : (a.addChannel channel value).1.channel c =
      if c = channel ∧ c ≠ .unknown then ((a.channel c).add value).1 else a.channel c := by
  cases channel <;> cases c <;> rfl

theorem channel_add (a : CapacityAggregate) (c : CapacityChannel) (contribution : CapacityVector) :
    (a.add contribution).1.channel c =
      if c = .unknown then a.channel c else ((a.channel c).add (contribution.channel c)).1 := by
  cases c <;> rfl

/-- A total is known where its channel is. -/
theorem total_known (a : CapacityAggregate) (c : CapacityChannel) :
    (a.total.channel c).known = a.channelKnown c := by
  rw [total_channel, Tally.value_known, channelKnown]

theorem overflowed_iff (a : CapacityAggregate) :
    a.overflowed = true ↔ ∃ c, (a.channel c).overflow = true := by
  rw [overflowed, Bool.or_eq_true, Bool.or_eq_true]
  constructor
  · rintro ((ingress | egress) | internal)
    · exact ⟨.ingress, ingress⟩
    · exact ⟨.egress, egress⟩
    · exact ⟨.internal, internal⟩
  · rintro ⟨c, past⟩
    cases c with
    | unknown => cases past
    | ingress => exact .inl (.inl past)
    | egress => exact .inl (.inr past)
    | internal => exact .inr past

end CapacityAggregate

/-- The calls that feed an aggregate. -/
inductive AggregateCall where
  | add (contribution : CapacityVector)
  | addChannel (channel : CapacityChannel) (value : CapacityValue)
deriving DecidableEq

namespace AggregateCall

def run (a : CapacityAggregate) : AggregateCall → CapacityAggregate × Status
  | .add contribution => a.add contribution
  | .addChannel channel value => a.addChannel channel value

/-- What a call feeds a channel; the unknown channel is refused. -/
def fed (c : CapacityChannel) : AggregateCall → List CapacityValue
  | .add contribution => if c = .unknown then [] else [contribution.channel c]
  | .addChannel channel value => if c = channel ∧ c ≠ .unknown then [value] else []

end AggregateCall

namespace CapacityAggregate

def aggregateOf (calls : List AggregateCall) : CapacityAggregate :=
  calls.foldl (fun a call => (call.run a).1) {}

def fed (c : CapacityChannel) (calls : List AggregateCall) : List CapacityValue :=
  calls.flatMap (AggregateCall.fed c)

/-- Every channel holds what it was fed. -/
def Accounts (a : CapacityAggregate) (calls : List AggregateCall) : Prop :=
  ∀ c, (a.channel c).Holds (fed c calls)

theorem Accounts.run {a : CapacityAggregate} {calls : List AggregateCall}
    (accounts : a.Accounts calls) (call : AggregateCall) :
    (call.run a).1.Accounts (calls ++ [call]) := by
  intro c
  have before := accounts c
  rw [fed, List.flatMap_append, List.flatMap_singleton]
  cases call with
  | add contribution =>
    rw [AggregateCall.run, channel_add, AggregateCall.fed]
    split
    · rw [List.append_nil]
      exact before
    · exact before.add (contribution.channel c)
  | addChannel channel value =>
    rw [AggregateCall.run, channel_addChannel, AggregateCall.fed]
    split
    · exact before.add value
    · rw [List.append_nil]
      exact before

theorem aggregateOf_accounts (calls : List AggregateCall) :
    (aggregateOf calls).Accounts calls := by
  induction calls using List.reverseRecOn with
  | nil =>
    intro c
    have fresh := Tally.tallyOf_holds []
    cases c <;> exact fresh
  | append_singleton calls call ih =>
    rw [aggregateOf, List.foldl_append]
    exact ih.run call

theorem fed_perm {calls calls' : List AggregateCall} (perm : calls.Perm calls')
    (c : CapacityChannel) : (fed c calls).Perm (fed c calls') := perm.flatMap_right _

/-- A total is known exactly when its channel was fed, with known values only, whose sum
is within the bound; it is then the sum. Some channel's sum is past the bound exactly when
the aggregate says so. The order of the calls changes neither. -/
theorem aggregation_exact (calls : List AggregateCall) :
    (∀ c, ((aggregateOf calls).total.channel c).known = true ↔
      fed c calls ≠ [] ∧ (∀ v ∈ fed c calls, v.known = true) ∧
        exactSum (fed c calls) ≤ Limits.maxCapacityBps.toNat) ∧
    (∀ c, ((aggregateOf calls).total.channel c).known = true →
      ((aggregateOf calls).total.channel c).bps.toNat = exactSum (fed c calls)) ∧
    ((aggregateOf calls).overflowed = true ↔
      ∃ c, Limits.maxCapacityBps.toNat < exactSum (fed c calls)) ∧
    ∀ calls', calls'.Perm calls → (aggregateOf calls').total = (aggregateOf calls).total ∧
      (aggregateOf calls').overflowed = (aggregateOf calls).overflowed := by
  have overflowed (calls : List AggregateCall) : (aggregateOf calls).overflowed = true ↔
      ∃ c, Limits.maxCapacityBps.toNat < exactSum (fed c calls) := by
    rw [overflowed_iff]
    refine exists_congr fun c => ?_
    rw [(aggregateOf_accounts calls c).overflow, decide_eq_true_eq]
  refine ⟨fun c => ?_, fun c known => ?_, overflowed calls, fun calls' perm => ⟨?_, ?_⟩⟩
  · rw [total_known]
    exact (aggregateOf_accounts calls c).known_iff
  · rw [total_known] at known
    rw [total_channel, Tally.value_bps known]
    exact (aggregateOf_accounts calls c).sum_of_known known
  · have values (c : CapacityChannel) :=
      (aggregateOf_accounts calls' c).value_eq (aggregateOf_accounts calls c) (fed_perm perm c)
    rw [total, total, CapacityVector.mk.injEq]
    exact ⟨values .ingress, values .egress, values .internal⟩
  · rw [Bool.eq_iff_iff, overflowed, overflowed]
    refine exists_congr fun c => ?_
    rw [exactSum_perm (fed_perm perm c)]

def sampleCalls : List AggregateCall :=
  [.addChannel .ingress (.ofBps 1), .add { ingress := .ofBps 2, egress := .ofBps 3 }]

theorem aggregation_of_sample :
    ((aggregateOf sampleCalls).total.channel .ingress).bps.toNat =
        exactSum (fed .ingress sampleCalls) ∧
      (aggregateOf sampleCalls.reverse).total = (aggregateOf sampleCalls).total :=
  ⟨(aggregation_exact sampleCalls).2.1 .ingress (by decide),
    ((aggregation_exact sampleCalls).2.2.2 _ (List.reverse_perm _)).1⟩

end CapacityAggregate

end SiteFabric
