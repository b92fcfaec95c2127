import SiteFabric.Authority.Incarnations

/-! Publications of one incarnation.
A publication is recorded only behind its fence. While an incarnation stays
live in a domain the marks the fence reads are those of the last offer it let
through, so each accepted offer comes after every earlier one. -/

namespace SiteFabric.Authority

open Std (ExtTreeMap ExtTreeSet)
open Lib

namespace Registry

namespace Offer

/-- Later content under a later name: the order is by generation, then by the
two halves of the attempt, and a generation keeps its digest. -/
structure Precedes (o later : Offer) : Prop where
  order : o.generation < later.generation ∨ o.generation = later.generation ∧
    (o.attempt.sequence < later.attempt.sequence ∨
      o.attempt.sequence = later.attempt.sequence ∧ o.attempt.attempt < later.attempt.attempt)
  epoch : o.epoch ≤ later.epoch
  sequence : o.attempt.sequence ≤ later.attempt.sequence
  content : o.generation = later.generation → o.digest = later.digest

theorem Precedes.trans {a b c : Offer} (first : a.Precedes b) (second : b.Precedes c) :
    a.Precedes c where
  epoch := first.epoch.trans second.epoch
  sequence := UInt64.le_trans first.sequence second.sequence
  order := by
    have order := first.order
    have further := second.order
    grind
  content := by
    intro same
    have rise : a.generation ≤ b.generation := first.order.elim le_of_lt fun tie => tie.1.le
    have rise' : b.generation ≤ c.generation := second.order.elim le_of_lt fun tie => tie.1.le
    have middle : a.generation = b.generation := le_antisymm rise (same ▸ rise')
    rw [first.content middle, second.content (middle ▸ same)]

theorem Precedes.irrefl (o : Offer) : ¬o.Precedes o := by
  intro self
  rcases self.order with less | ⟨_, less | ⟨_, less⟩⟩
  · exact lt_irrefl _ less
  · exact UInt64.lt_irrefl _ less
  · exact UInt32.lt_irrefl _ less

end Offer

/-- The marks of a domain, as the offer that left them. -/
def lastOffer (r : Registry) (domain : MemberDomainKey) : Offer :=
  let state := r.domainState domain
  { domain, epoch := state.observedEpoch, incarnation := state.live
    generation := state.generation, digest := state.digest, attempt := state.attempt }

/-- An offer that passes the fence comes after the marks. -/
theorem lastOffer_precedes {r : Registry} {o : Offer} (passed : r.fencePublication o = .ok)
    (published : (r.domainState o.domain).published = true) :
    (r.lastOffer o.domain).Precedes o := by
  unfold fencePublication at passed
  split at passed
  · cases passed
  · next legal =>
    split at passed
    · cases passed
    · split at passed
      · cases passed
      · next state found =>
        have known : r.domainState o.domain = state := by rw [domainState, found, Option.getD_some]
        rw [known] at published
        simp only [published, if_true] at passed
        split_ifs at passed with vacant other epoch
        have numbered : o.attempt.sequence ≠ 0 := by
          simp only [PublishAttempt.valid, Bool.or_eq_true, Bool.not_eq_true', not_or,
            Bool.not_eq_false, bne_iff_ne] at legal
          exact legal.2
        have term : state.observedEpoch ≤ o.epoch := by
          by_contra behind
          rw [not_le] at behind
          exact epoch ⟨Epoch.isSet_of_unset_lt (lt_of_le_of_lt (Epoch.unset_le _) behind), behind⟩
        unfold fencePublished at passed
        split_ifs at passed with lower content replayed attempt old
        have sequence : state.attempt.sequence ≤ o.attempt.sequence := by
          by_contra behind
          exact old ⟨numbered, UInt64.not_le.mp behind⟩
        refine ⟨?_, ?_, ?_, ?_⟩ <;> simp only [lastOffer, known]
        · rcases lt_or_eq_of_le (not_lt.mp lower) with less | same
          · exact .inl less
          · refine .inr ⟨same, ?_⟩
            grind
        · exact term
        · exact sequence
        · intro same
          by_contra differs
          exact content ⟨same.symm, fun equal => differs equal.symm⟩

/-- A legal offer is recorded whether or not it would pass the fence. -/
theorem recordPublication_legal {r : Registry} {o : Offer}
    (legal : ¬(!o.domain.valid || !o.generation.isSet || o.digest.isZero) = true) (nowMs : Int64)
    (domain : MemberDomainKey) :
    (r.recordPublication o nowMs).1.domainState domain =
      if o.domain = domain then
        { r.domainState o.domain with
          observedEpoch := o.epoch, generation := o.generation, digest := o.digest
          attempt := o.attempt, published := true, updatedAtMs := nowMs }
      else r.domainState domain := by
  rw [recordPublication, if_neg legal]
  exact r.domainState_insert o.domain domain _

theorem recordPublication_state {r : Registry} {o : Offer} (passed : r.fencePublication o = .ok)
    (nowMs : Int64) (domain : MemberDomainKey) :
    (r.recordPublication o nowMs).1.domainState domain =
      if o.domain = domain then
        { r.domainState o.domain with
          observedEpoch := o.epoch, generation := o.generation, digest := o.digest
          attempt := o.attempt, published := true, updatedAtMs := nowMs }
      else r.domainState domain :=
  recordPublication_legal (fun bad => by simp [fencePublication, bad] at passed) nowMs domain

/-- A call, where publications are recorded only if the fence lets them through. -/
def fencedCall (r : Registry) : Call → Registry
  | .recordPublication offer nowMs =>
    if r.fencePublication offer = .ok then (r.recordPublication offer nowMs).1 else r
  | c => r.call c

/-- The offer of a domain that a call gets accepted, if any. -/
def acceptedBy (r : Registry) (domain : MemberDomainKey) : Call → Option Offer
  | .recordPublication offer _ =>
    if r.fencePublication offer = .ok ∧ offer.domain = domain then some offer else none
  | _ => none

/-- The offers of a domain that a run gets accepted, in their order. -/
def accepted (domain : MemberDomainKey) : Registry → List Call → List Offer
  | _, [] => []
  | r, c :: rest => (r.acceptedBy domain c).toList ++ accepted domain (r.fencedCall c) rest

theorem accepted_marks {r : Registry} {domain : MemberDomainKey} {c : Call} {o : Offer}
    (accepted : r.acceptedBy domain c = some o) :
    r.fencePublication o = .ok ∧ o.domain = domain ∧
      ((r.fencedCall c).domainState domain).published = true ∧
      ∀ later, ((r.fencedCall c).lastOffer domain).Precedes later → o.Precedes later := by
  cases c with
  | recordPublication offer nowMs =>
    simp only [acceptedBy, Option.ite_none_right_eq_some, Option.some.injEq] at accepted
    obtain ⟨⟨passed, here⟩, rfl⟩ := accepted
    have state := recordPublication_state passed nowMs domain
    rw [if_pos here] at state
    refine ⟨passed, here, ?_, fun later => ?_⟩ <;> simp only [fencedCall, if_pos passed]
    · rw [state]
    · simp only [lastOffer, state]
      exact fun precedes => ⟨precedes.order, precedes.epoch, precedes.sequence, precedes.content⟩
  | lease => cases accepted
  | admitMember => cases accepted
  | retireMember => cases accepted
  | clearDomain => cases accepted

/-- A call that gets no offer of a domain accepted and leaves its incarnation
live leaves its marks alone. -/
theorem fencedCall_state {r : Registry} {domain : MemberDomainKey} {incarnation : Incarnation}
    {c : Call} (live : r.memberIncarnationLive domain incarnation = true)
    (still : (r.fencedCall c).memberIncarnationLive domain incarnation = true)
    (idle : r.acceptedBy domain c = none) :
    (r.fencedCall c).domainState domain = r.domainState domain := by
  obtain ⟨_, was, named⟩ := (memberIncarnationLive_iff _ _ _).mp live
  obtain ⟨_, is, stays⟩ := (memberIncarnationLive_iff _ _ _).mp still
  cases c with
  | lease call => simp only [fencedCall, Registry.call, domainState, (call.members r).1]
  | admitMember other next nowMs =>
    have step := r.admit_step other next nowMs
    simp only [fencedCall, Registry.call] at stays ⊢
    generalize r.admitMemberIncarnation other next nowMs = reply at step stays ⊢
    cases step with
    | refused later _ _ _ states => exact states domain
    | admitted later _ _ _ _ apart states =>
      rw [states, if_neg]
      rintro rfl
      rw [states, if_pos rfl] at stays
      exact apart was (named.trans stays.symm)
  | retireMember other dead nowMs =>
    have step := r.retire_step other dead nowMs
    simp only [fencedCall, Registry.call] at is ⊢
    generalize r.retireMemberIncarnation other dead nowMs = reply at step is ⊢
    cases step with
    | refused => rfl
    | retired later _ _ states => exact (states domain is).1
  | recordPublication offer nowMs =>
    simp only [fencedCall]
    split
    · next passed =>
      rw [recordPublication_state passed nowMs domain, if_neg]
      intro here
      simp [acceptedBy, passed, here] at idle
    · rfl
  | clearDomain other =>
    simp only [fencedCall, Registry.call, clearDomain_state] at is ⊢
    split at is
    · cases is
    · next apart => rw [if_neg apart]

/-- Every offer accepted along a run comes after the marks the run started
from and after every offer accepted before it. -/
theorem accepted_climb {domain : MemberDomainKey} {incarnation : Incarnation} (calls : List Call) :
    ∀ r : Registry,
      Guarded fencedCall (fun r _ => r.memberIncarnationLive domain incarnation = true) r calls →
      (∀ o ∈ accepted domain r calls, (r.domainState domain).published = true →
        (r.lastOffer domain).Precedes o) ∧
      (accepted domain r calls).Pairwise Offer.Precedes := by
  induction calls with
  | nil => exact fun _ _ => ⟨fun _ none => absurd none List.not_mem_nil, .nil⟩
  | cons c rest ih =>
    intro r guarded
    obtain ⟨after, ordered⟩ := ih (r.fencedCall c) guarded.2
    cases outcome : r.acceptedBy domain c with
    | some o =>
      obtain ⟨passed, here, published, next⟩ := accepted_marks outcome
      have follows : ∀ later ∈ accepted domain (r.fencedCall c) rest, o.Precedes later :=
        fun later member => next later (after later member published)
      simp only [accepted, outcome, Option.toList_some, List.singleton_append, List.mem_cons,
        List.pairwise_cons]
      refine ⟨?_, follows, ordered⟩
      rintro later (rfl | member) marked
      · exact here ▸ lastOffer_precedes passed (here.symm ▸ marked)
      · exact (here ▸ lastOffer_precedes passed (here.symm ▸ marked)).trans (follows later member)
    | none =>
      simp only [accepted, outcome, Option.toList_none, List.nil_append]
      refine ⟨fun o member marked => ?_, ordered⟩
      cases rest with
      | nil => cases member
      | cons c' rest' =>
        have same := fencedCall_state guarded.1 guarded.2.1 outcome
        have precedes := after o member (same ▸ marked)
        simpa only [lastOffer, same] using precedes

end Registry

/-- While one incarnation stays live in a domain, its accepted offers climb:
strictly in generation and attempt, never back in epoch or attempt sequence,
one digest to a generation, and none twice. -/
theorem accepted_offers_climb (r : Registry) (domain : MemberDomainKey) (incarnation : Incarnation)
    (calls : List Call)
    (live : Guarded Registry.fencedCall
      (fun r _ => r.memberIncarnationLive domain incarnation = true) r calls) :
    (Registry.accepted domain r calls).Pairwise Registry.Offer.Precedes ∧
      (Registry.accepted domain r calls).Nodup := by
  have ordered := (Registry.accepted_climb calls r live).2
  refine ⟨ordered, ordered.imp ?_⟩
  intro o later precedes same
  exact Registry.Offer.Precedes.irrefl o (same ▸ precedes)

/-- A rack publishes two generations; the retry of the first in between is fenced. -/
theorem rack_publications_climb :
    let domain : MemberDomainKey := ⟨.rack, ascii "r"⟩
    let live : Incarnation := ⟨1, ⟨ascii "a"⟩⟩
    let digest : Digest := ⟨List.replicate 32 7, by decide⟩
    let first : Registry.Offer := ⟨domain, ⟨1⟩, live, ⟨1⟩, digest, ⟨1, 0⟩⟩
    let second : Registry.Offer := ⟨domain, ⟨1⟩, live, ⟨2⟩, digest, ⟨2, 0⟩⟩
    let r := Registry.after [.admitMember domain live 1]
    let calls : List Call :=
      [.recordPublication first 2, .recordPublication first 3, .recordPublication second 4]
    Registry.accepted domain r calls = [first, second] ∧
      (Registry.accepted domain r calls).Pairwise Registry.Offer.Precedes := by
  intro domain live digest first second r calls
  refine ⟨by decide +kernel, (accepted_offers_climb r domain live calls ?_).1⟩
  refine ⟨?_, ?_, ?_, trivial⟩ <;> decide +kernel

end SiteFabric.Authority
