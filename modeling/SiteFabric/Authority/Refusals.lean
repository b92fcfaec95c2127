import SiteFabric.Authority.Incarnations
import SiteFabric.Authority.Permanence

/-! What a refused election leaves behind.
An acquisition records the epoch it presents, and marks its own lapsed lease,
before it may still be refused. It goes unnoticed exactly when it does neither. -/

namespace SiteFabric.Authority

open Std (ExtTreeMap ExtTreeSet)
open Lib

namespace Registry

/-- Two registries no query can tell apart. -/
structure SameView [StdSort] (r later : Registry) : Prop where
  epochs : ∀ site, later.currentEpoch site = r.currentEpoch site
  controllers : ∀ site, later.currentController site = r.currentController site
  leases : later.leaseList = r.leaseList
  verdicts : ∀ t nowMs, later.validate t nowMs = r.validate t nowMs
  sequences : ∀ domain, later.nextMemberSequence domain = r.nextMemberSequence domain
  live : ∀ domain incarnation,
    later.memberIncarnationLive domain incarnation = r.memberIncarnationLive domain incarnation
  fences : ∀ offer, later.fencePublication offer = r.fencePublication offer

theorem SameView.refl [StdSort] (r : Registry) : r.SameView r :=
  ⟨fun _ => rfl, fun _ => rfl, rfl, fun _ _ => rfl, fun _ => rfl, fun _ _ => rfl, fun _ => rfl⟩

theorem mem_leaseList [StdSort] {r : Registry} {record : LeaseRecord} :
    record ∈ r.leaseList ↔ ∃ key : Text, r.leases[key]? = some record := by
  simp only [leaseList, mem_sort, List.mem_map, Prod.exists, exists_eq_right, mem_toList_iff]

/-- A bid that brings no new epoch and does not find its own lease lapsed under
a generation above its own; one already so marked is marked again to no effect. -/
def Harmless (r : Registry) (q : AcquireRequest) : Prop :=
  q.malformed = true ∨ q.epoch < r.currentEpoch q.site ∨
    q.epoch = r.currentEpoch q.site ∧
      ∀ record, r.leases[q.key]? = some record → Lapsed record q →
        q.generation < record.token.generation → supersedeInPlace record q.nowMs = record

theorem observeEpoch_eq_self {r : Registry} {q : AcquireRequest}
    (known : q.epoch = r.currentEpoch q.site) : r.observeEpoch q = r := by
  unfold observeEpoch
  rw [if_neg]
  rw [known]
  exact lt_irrefl _

theorem observeEpoch_currentEpoch {r : Registry} {q : AcquireRequest}
    (good : q.malformed = false) (fresh : r.currentEpoch q.site ≤ q.epoch) :
    (r.observeEpoch q).currentEpoch q.site = q.epoch := by
  rw [currentEpoch, r.observeEpoch_siteEpochs (q.epoch_isSet good) fresh, Option.getD_some]

theorem refused_eq_of_harmless {r : Registry} {q : AcquireRequest} (harmless : r.Harmless q)
    (no : (r.acquireSiteAuthority q).status ≠ .granted) :
    (r.acquireSiteAuthority q).registry = r := by
  have step := r.acquire_step q
  generalize r.acquireSiteAuthority q = reply at step no ⊢
  have known : q.malformed = false → r.currentEpoch q.site ≤ q.epoch →
      q.epoch = r.currentEpoch q.site ∧
      ∀ record, r.leases[q.key]? = some record → Lapsed record q →
        q.generation < record.token.generation → supersedeInPlace record q.nowMs = record := by
    intro good fresh
    rcases harmless with bad | behind | still
    · rw [good] at bad
      cases bad
    · exact absurd behind (not_lt.mpr fresh)
    · exact still
  cases step with
  | malformed => rfl
  | stale => rfl
  | refused status good fresh => exact observeEpoch_eq_self (known good fresh).1
  | marked record good fresh found lapsed behind =>
    obtain ⟨same, remark⟩ := known good fresh
    simp only [observeEpoch_eq_self same, remark record found lapsed behind,
      insert_lookup_self found]
  | elected => exact absurd rfl no
  | regranted => exact absurd rfl no

theorem harmless_of_sameView [StdSort] {r : Registry} {q : AcquireRequest} (orderly : r.Orderly)
    (no : (r.acquireSiteAuthority q).status ≠ .granted)
    (same : r.SameView (r.acquireSiteAuthority q).registry) : r.Harmless q := by
  have step := r.acquire_step q
  generalize r.acquireSiteAuthority q = reply at step no same
  cases step with
  | malformed bad => exact .inl bad
  | stale _ behind => exact .inr (.inl behind)
  | refused status good fresh _ unmarked =>
    have epoch := same.epochs q.site
    rw [observeEpoch_currentEpoch good fresh] at epoch
    refine .inr (.inr ⟨epoch, fun record found lapsed behind => ?_⟩)
    exact absurd behind (not_lt.mpr (unmarked record found lapsed))
  | marked record good fresh found lapsed behind =>
    have epoch : (r.observeEpoch q).currentEpoch q.site = r.currentEpoch q.site :=
      same.epochs q.site
    rw [observeEpoch_currentEpoch good fresh] at epoch
    refine .inr (.inr ⟨epoch, fun other present _ _ => ?_⟩)
    rw [found] at present
    cases present
    -- The mark shows in the list of leases, and only the lease itself can match it.
    have listed : supersedeInPlace record q.nowMs ∈ r.leaseList := by
      rw [← same.leases, mem_leaseList]
      exact ⟨q.key, by rw [lookup_insert, if_pos rfl]⟩
    obtain ⟨key, there⟩ := mem_leaseList.mp listed
    have own : q.key = key := (orderly q.key record found).key.symm.trans (orderly key _ there).key
    rw [← own, found] at there
    exact (Option.some.inj there).symm
  | elected => exact absurd rfl no
  | regranted => exact absurd rfl no

/-- The token a call hands out. -/
def handed (r : Registry) : Call → Option AuthorityToken
  | .lease call => (call.reply r).token
  | _ => none

/-- Only the lease calls touch leases and epochs and hand out tokens. -/
theorem call_keeps (r : Registry) (c : Call) : (∃ call, c = .lease call) ∨
    (r.call c).leases = r.leases ∧ (r.call c).siteEpochs = r.siteEpochs ∧ r.handed c = none := by
  cases c with
  | lease call => exact .inl ⟨call, rfl⟩
  | admitMember domain incarnation nowMs =>
    refine .inr ⟨?_, ?_, rfl⟩ <;>
    · simp only [Registry.call, admitMemberIncarnation]
      split_ifs <;> rfl
  | retireMember domain incarnation nowMs =>
    refine .inr ⟨?_, ?_, rfl⟩ <;>
    · simp only [Registry.call, retireMemberIncarnation, bury]
      repeat' split
      all_goals rfl
  | recordPublication offer nowMs =>
    refine .inr ⟨?_, ?_, rfl⟩ <;>
    · simp only [Registry.call, recordPublication]
      split <;> rfl
  | clearDomain domain => exact .inr ⟨rfl, rfl, rfl⟩

theorem call_settled {r : Registry} (orderly : r.Orderly) (c : Call) :
    r.Settled ⟨r.call c, .ok, r.handed c⟩ := by
  rcases r.call_keeps c with ⟨call, rfl⟩ | ⟨leases, epochs, none⟩
  · obtain ⟨evolves, filed, backed⟩ := call.settled orderly
    exact ⟨evolves, filed, backed⟩
  · refine ⟨⟨?_, ?_⟩, ?_, ?_⟩
    · intro site known recorded
      exact ⟨known, epochs ▸ recorded, le_rfl⟩
    · intro key record found
      exact ⟨record, leases ▸ found, .refl _⟩
    · intro key record found
      have filed := orderly key record (leases ▸ found)
      exact ⟨filed.key, filed.kind, filed.site, epochs ▸ filed.epoch⟩
    · intro t issued
      rw [none] at issued
      cases issued

theorem orderly_after (calls : List Call) : (after calls).Orderly :=
  run_stable Orderly (fun _ c orderly => (call_settled orderly c).orderly) calls Session.sound_fresh.orderly

end Registry

/-- In every reachable registry a refused acquisition goes unnoticed exactly
when it is harmless. -/
theorem refused_election_unnoticed_iff [StdSort] (calls : List Call) (q : AcquireRequest)
    (no : ((Registry.after calls).acquireSiteAuthority q).status ≠ .granted) :
    (Registry.after calls).SameView ((Registry.after calls).acquireSiteAuthority q).registry ↔
      (Registry.after calls).Harmless q := by
  constructor
  · exact Registry.harmless_of_sameView (Registry.orderly_after calls) no
  · intro harmless
    rw [Registry.refused_eq_of_harmless harmless no]
    exact .refl _

/-- A newcomer is refused because the site is held, and its term has already
fenced the holder that refused it. -/
theorem refused_newcomer_fences_the_incumbent :
    let incumbent := AcquireRequest.sample "a" 1 1 100
    let newcomer := AcquireRequest.sample "b" 2 2 101
    let before := Registry.after [.lease (.acquire incumbent)]
    let reply := before.acquireSiteAuthority newcomer
    reply.status = .authorityHeldElsewhere ∧
      before.currentEpoch newcomer.site = ⟨1⟩ ∧ reply.registry.currentEpoch newcomer.site = ⟨2⟩ ∧
      before.validate (incumbent.token 1) 101 = .ok ∧
      reply.registry.validate (incumbent.token 1) 101 = .fencedEpoch := by
  decide +kernel

/-- Within the term of its site a refused newcomer goes unnoticed. -/
theorem refused_peer_unnoticed :
    let before := Registry.after [.lease (.acquire (.sample "a" 1 1 100))]
    let newcomer := AcquireRequest.sample "b" 1 2 101
    (before.acquireSiteAuthority newcomer).status = .authorityHeldElsewhere ∧
      before.SameView (before.acquireSiteAuthority newcomer).registry := by
  refine ⟨by decide +kernel, ?_⟩
  refine (refused_election_unnoticed_iff [.lease (.acquire (.sample "a" 1 1 100))] _
    (by decide +kernel)).mpr (.inr (.inr ⟨by decide +kernel, fun record found => ?_⟩))
  have absent : (Registry.after [.lease (.acquire (.sample "a" 1 1 100))]).leases[
      (AcquireRequest.sample "b" 1 2 101).key]? = none := by decide +kernel
  rw [absent] at found
  cases found

end SiteFabric.Authority
