import SiteFabric.Authority.Election
import SiteFabric.Authority.Refusals

/-! Takeover in a later term.
A bid in a term no one has presented fences every token handed out before it.
Whether it is granted does not depend on the term: it is measured against its
holder's own lease, or for a newcomer against the lease that rules the site. -/

namespace SiteFabric.Authority

open Std (ExtTreeMap ExtTreeSet)
open Lib

/-- A registry with every token handed out since it was made. -/
structure Office where
  registry : Registry := Registry.initial
  issued : List AuthorityToken := []

namespace Office

def step (o : Office) (c : Call) : Office :=
  { registry := o.registry.call c
    issued := (o.registry.handed c).toList ++ o.issued }

/-- The office after any sequence of calls on a fresh registry. -/
def after (calls : List Call) : Office := run step {} calls

/-- Leases are filed in order and every token handed out is backed by one. -/
structure Sound (o : Office) : Prop where
  orderly : o.registry.Orderly
  backed : ∀ t ∈ o.issued, o.registry.Backed t

theorem Sound.step {o : Office} (sound : o.Sound) (c : Call) : (o.step c).Sound where
  orderly := (Registry.call_settled sound.orderly c).orderly
  backed := (Registry.call_settled sound.orderly c).backed_all sound.backed

theorem sound_after (calls : List Call) : (after calls).Sound :=
  run_stable Sound (fun _ c sound => sound.step c) calls
    ⟨Session.sound_fresh.orderly, fun _ issued => absurd issued List.not_mem_nil⟩

end Office

namespace Registry

/-- The lease a bid is measured against gives way to it. -/
def Concedes (r : Registry) (q : AcquireRequest) : Prop :=
  match r.leases[q.key]? with
  | some record =>
    (record.token.incarnation = q.incarnation ∨ Lapsed record q) ∧
      record.token.generation ≤ q.generation
  | none =>
    ∀ (current : Text) (other : LeaseRecord), r.siteControllers[q.site]? = some current →
      r.leases[current]? = some other →
        ¬(other.state = .active ∧ other.token.expiresAtMs ≥ q.nowMs) ∧
          other.state ≠ .revoked ∧
          other.token.incarnation.sequence < q.incarnation.sequence

theorem Vacated.concedes {r vacated : Registry} {q : AcquireRequest}
    (absent : r.leases[q.key]? = none) (vacates : Vacated r q vacated) : r.Concedes q := by
  rw [Concedes, absent]
  intro current other controls found
  cases vacates with
  | free vacant =>
    rcases vacant current controls with own | missing
    · rw [own, absent] at found
      cases found
    · rw [missing] at found
      cases found
  | displaced named record controls' found' lapse unrevoked older =>
    rw [controls'] at controls
    cases controls
    rw [found'] at found
    cases found
    exact ⟨lapse, unrevoked, older⟩

theorem concedes_observeEpoch (r : Registry) (q : AcquireRequest) :
    (r.observeEpoch q).Concedes q ↔ r.Concedes q := by
  rw [Concedes, Concedes, observeEpoch_leases, observeEpoch_siteControllers]

theorem acquireNew_granted {r : Registry} {q : AcquireRequest} (absent : r.leases[q.key]? = none)
    (concedes : r.Concedes q) : (r.acquireNew q).status = .granted := by
  rw [Concedes, absent] at concedes
  unfold acquireNew
  split
  · rfl
  next current controls =>
  split
  · rfl
  split
  · rfl
  next other found =>
  obtain ⟨lapse, unrevoked, older⟩ := concedes current other controls found
  rw [if_neg lapse, if_neg unrevoked, if_neg (UInt64.not_le.mpr older)]
  rfl

theorem regrant_granted {r : Registry} {q : AcquireRequest} {record : LeaseRecord}
    (generation : record.token.generation ≤ q.generation) :
    (r.regrant q record).status = .granted := by
  rw [regrant, if_neg (not_lt.mpr generation)]

theorem acquireReturning_granted {r : Registry} {q : AcquireRequest} {record : LeaseRecord}
    (found : r.leases[q.key]? = some record) (unrevoked : record.state ≠ .revoked)
    (concedes : r.Concedes q) : (r.acquireReturning q record).status = .granted := by
  rw [Concedes, found] at concedes
  obtain ⟨successor, generation⟩ := concedes
  rw [acquireReturning, if_neg unrevoked]
  by_cases same : record.token.incarnation = q.incarnation
  · rw [if_pos same]
    exact regrant_granted generation
  · have lapsed := successor.resolve_left same
    rw [if_neg same, if_neg lapsed.lapse, if_neg (UInt64.not_le.mpr lapsed.older)]
    have kept : (supersedeInPlace record q.nowMs).token.generation ≤ q.generation := generation
    exact regrant_granted kept

/-- Exactly the bids that are granted. -/
theorem acquire_granted_iff (r : Registry) (q : AcquireRequest) :
    (r.acquireSiteAuthority q).status = .granted ↔
      q.malformed = false ∧ r.currentEpoch q.site ≤ q.epoch ∧
        (∀ record, r.leases[q.key]? = some record → record.state ≠ .revoked) ∧ r.Concedes q := by
  constructor
  · intro granted
    have step := r.acquire_step q
    generalize r.acquireSiteAuthority q = reply at step granted
    cases step with
    | malformed => cases granted
    | stale => cases granted
    | refused status _ _ no => exact absurd granted no
    | marked => cases granted
    | elected vacated good fresh absent vacates =>
      refine ⟨good, fresh, ?_, ?_⟩
      · intro record found
        rw [absent] at found
        cases found
      · rw [← observeEpoch_leases r q] at absent
        exact (concedes_observeEpoch r q).mp (vacates.concedes absent)
    | regranted record renewed good fresh found unrevoked successor generation =>
      refine ⟨good, fresh, ?_, ?_⟩
      · intro other present
        rw [found] at present
        cases present
        exact unrevoked
      · rw [Concedes, found]
        exact ⟨successor, generation⟩
  · rintro ⟨good, fresh, own, concedes⟩
    have concedes := (concedes_observeEpoch r q).mpr concedes
    rw [acquireSiteAuthority, if_neg (by rw [good]; decide),
      if_neg (fun behind => not_lt.mpr fresh behind.2)]
    dsimp only
    cases found : (r.observeEpoch q).leases[q.key]? with
    | none => exact acquireNew_granted found concedes
    | some record =>
      exact acquireReturning_granted found (own record (observeEpoch_leases r q ▸ found)) concedes

/-- A bid that is neither malformed nor stale leaves its own term recorded. -/
theorem acquire_siteEpochs {r : Registry} {q : AcquireRequest} (good : q.malformed = false)
    (fresh : r.currentEpoch q.site ≤ q.epoch) :
    (r.acquireSiteAuthority q).registry.siteEpochs[q.site]? = some q.epoch := by
  have observed := r.observeEpoch_siteEpochs (q.epoch_isSet good) fresh
  have step := r.acquire_step q
  generalize r.acquireSiteAuthority q = reply at step ⊢
  cases step with
  | malformed bad =>
    rw [good] at bad
    cases bad
  | stale _ behind => exact absurd behind (not_lt.mpr fresh)
  | refused => exact observed
  | marked => exact observed
  | elected vacated _ _ _ vacates =>
    rw [← vacates.siteEpochs_eq] at observed
    exact observed
  | regranted => exact observed

/-- A bid in a term of its own fences every token of its site cut before. -/
theorem fenced_by_newer_term {r : Registry} (orderly : r.Orderly) {q : AcquireRequest}
    (good : q.malformed = false) (newer : r.currentEpoch q.site < q.epoch) {t : AuthorityToken}
    (backed : r.Backed t) (site : t.site = q.site) :
    (r.acquireSiteAuthority q).registry.Fenced t := by
  obtain ⟨record, found, precedes⟩ := backed
  obtain ⟨known, recorded, within⟩ := (orderly _ record found).epoch
  have current : r.currentEpoch q.site = known := by
    rw [currentEpoch, ← site, precedes.site, recorded, Option.getD_some]
  refine .epoch q.epoch (site ▸ acquire_siteEpochs good newer.le) ?_
  exact lt_of_le_of_lt (precedes.epoch.trans within) (current ▸ newer)

/-- The token of a granted bid is its holder's. -/
theorem acquire_holder {r : Registry} (orderly : r.Orderly) {q : AcquireRequest}
    (good : q.malformed = false) {t : AuthorityToken}
    (cut : t ∈ (r.acquireSiteAuthority q).token) : t.holder = q.holder := by
  have step := r.acquire_step q
  generalize r.acquireSiteAuthority q = reply at step cut
  cases step with
  | malformed => cases cut
  | stale => cases cut
  | refused => cases cut
  | marked => cases cut
  | elected =>
    cases cut
    rfl
  | regranted record renewed _ _ found _ _ _ _ token =>
    cases cut
    have filed := orderly _ record found
    rw [token]
    exact (leaseKey_inj filed.site (q.site_valid good) filed.key).2.2

end Registry

/-- In every reachable registry, a well-formed bid in a later term takes the site
over exactly when the lease it is measured against gives way. -/
theorem later_term_takes_over_iff (calls : List Call) (q : AcquireRequest)
    (good : q.malformed = false)
    (own : ∀ record, (Office.after calls).registry.leases[q.key]? = some record →
      record.state ≠ .revoked)
    (later : (Office.after calls).registry.currentEpoch q.site < q.epoch) :
    (((Office.after calls).registry.acquireSiteAuthority q).status = .granted ∧
      ∀ t ∈ ((Office.after calls).step (.lease (.acquire q))).issued,
        t.kind = .siteController → t.site = q.site → ∀ instant,
          ((Office.after calls).step (.lease (.acquire q))).registry.validate t instant = .ok →
            t.holder = q.holder) ↔
      (Office.after calls).registry.Concedes q := by
  have sound := Office.sound_after calls
  rw [Registry.acquire_granted_iff]
  constructor
  · rintro ⟨⟨-, -, -, concedes⟩, -⟩
    exact concedes
  · intro concedes
    refine ⟨⟨good, later.le, own, concedes⟩, ?_⟩
    intro t issued _ site instant valid
    rcases List.mem_append.mp issued with cut | before
    · exact Registry.acquire_holder sound.orderly good (Option.mem_toList.mp cut)
    · have fenced :=
        Registry.fenced_by_newer_term sound.orderly good later (sound.backed t before) site
      exact absurd valid (fenced.validate_ne_ok instant)

/-- A site changes hands in a later term once its first lease has run out. -/
theorem later_term_takes_a_lapsed_site :
    let calls := [Call.lease (.acquire (.sample "a" 1 1 100))]
    let bid := AcquireRequest.sample "b" 2 2 200
    ((Office.after calls).registry.acquireSiteAuthority bid).status = .granted ∧
      ∀ t ∈ ((Office.after calls).step (.lease (.acquire bid))).issued,
        t.kind = .siteController → t.site = bid.site → ∀ instant,
          ((Office.after calls).step (.lease (.acquire bid))).registry.validate t instant = .ok →
            t.holder = bid.holder := by
  have absent : (Office.after [.lease (.acquire (.sample "a" 1 1 100))]).registry.leases[
      (AcquireRequest.sample "b" 2 2 200).key]? = none := by decide +kernel
  refine (later_term_takes_over_iff [.lease (.acquire (.sample "a" 1 1 100))]
    (.sample "b" 2 2 200) (by decide +kernel) ?_ (by decide +kernel)).mpr ?_
  · intro record found
    rw [absent] at found
    cases found
  · have ruled : (Office.after [.lease (.acquire (.sample "a" 1 1 100))]).registry.siteControllers[
        (⟨ascii "s"⟩ : SiteId)]? = some (AcquireRequest.sample "a" 1 1 100).key := by
      decide +kernel
    have filed : (Office.after [.lease (.acquire (.sample "a" 1 1 100))]).registry.leases[
        (AcquireRequest.sample "a" 1 1 100).key]? =
          some { token := (AcquireRequest.sample "a" 1 1 100).token 1, state := .active
                 updatedAtMs := 100 } := by
      decide +kernel
    rw [Registry.Concedes, absent]
    intro current other controls found
    cases ruled.symm.trans controls
    cases filed.symm.trans found
    decide +kernel

/-- A later term does not displace a lease that still runs. -/
theorem running_lease_outlasts_a_later_term :
    let calls := [Call.lease (.acquire (.sample "a" 1 1 100))]
    let bid := AcquireRequest.sample "b" 2 2 101
    bid.malformed = false ∧
      (∀ record, (Office.after calls).registry.leases[bid.key]? = some record →
        record.state ≠ .revoked) ∧
      (Office.after calls).registry.currentEpoch bid.site < bid.epoch ∧
      ((Office.after calls).registry.acquireSiteAuthority bid).status =
        .authorityHeldElsewhere := by
  refine ⟨by decide +kernel, ?_, by decide +kernel, by decide +kernel⟩
  intro record found
  have absent : (Office.after [.lease (.acquire (.sample "a" 1 1 100))]).registry.leases[
      (AcquireRequest.sample "b" 2 2 101).key]? = none := by decide +kernel
  rw [absent] at found
  cases found

end SiteFabric.Authority
