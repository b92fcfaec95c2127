import SiteFabric.Authority.Takeover

/-! What a grant is good for.
A token is cut by one entry point and checked by another. They agree where the expiry
does not run over, the lease has an id and its term is the one recorded for the site. -/

namespace SiteFabric.Authority

open Lib

/-- The end of a lease is a representable instant. -/
def Fits (nowMs ttlMs : Int64) : Prop := nowMs.toInt + ttlMs.toInt < 2 ^ 63

instance (nowMs ttlMs : Int64) : Decidable (Fits nowMs ttlMs) :=
  inferInstanceAs (Decidable (_ < _))

section Expiry

variable {nowMs ttlMs : Int64} (begun : 0 < nowMs) (lasting : 0 < ttlMs)

include begun lasting

theorem expiry_exact_iff : (nowMs + ttlMs).toInt = nowMs.toInt + ttlMs.toInt ↔ Fits nowMs ttlMs := by
  have start := Int64.lt_iff_toInt_lt.mp begun
  have span := Int64.lt_iff_toInt_lt.mp lasting
  have below := (nowMs + ttlMs).toInt_lt
  rw [Int64.toInt_zero] at start span
  constructor
  · intro same
    rw [Fits, ← same]
    exact below
  · intro fits
    rw [Fits] at fits
    rw [Int64.toInt_add]
    exact Int.bmod_eq_of_le (by omega) (by omega)

theorem le_expiry (fits : Fits nowMs ttlMs) : nowMs ≤ nowMs + ttlMs := by
  have span := Int64.lt_iff_toInt_lt.mp lasting
  rw [Int64.toInt_zero] at span
  rw [Int64.le_iff_toInt_le, (expiry_exact_iff begun lasting).mpr fits]
  omega

end Expiry

namespace AuthorityToken

/-- What a token says of its holder. -/
structure Names (t : AuthorityToken) : Prop where
  kind : t.kind.isValid = true
  holder : t.holder.isEmpty = false
  site : t.site.valid = true
  epoch : t.epoch.isSet = true
  incarnation : t.incarnation.valid = true

theorem structurallyValid_iff {t : AuthorityToken} : t.structurallyValid = true ↔
    t.Names ∧ t.leaseId ≠ 0 ∧ 0 < t.issuedAtMs ∧ t.issuedAtMs ≤ t.expiresAtMs := by
  unfold structurallyValid
  constructor
  · intro valid
    split_ifs at valid with names terms times
    simp only [Bool.or_eq_true, Bool.not_eq_true', not_or, Bool.not_eq_false, Bool.not_eq_true] at names
    simp only [Bool.or_eq_true, Bool.not_eq_true', not_or, Bool.not_eq_false] at terms
    simp only [Bool.or_eq_true, beq_iff_eq, decide_eq_true_eq, not_or, Int64.not_le,
      Int64.not_lt] at times
    exact ⟨⟨names.1.1, names.1.2, names.2, terms.1, terms.2⟩, times.1.1, times.1.2, times.2⟩
  · rintro ⟨names, lease, issued, expires⟩
    simp [names.kind, names.holder, names.site, names.epoch, names.incarnation, lease,
      Int64.not_le.mpr issued, Int64.not_lt.mpr expires]

theorem evaluateAt_ok_iff {t : AuthorityToken} {nowMs : Int64} : t.evaluateAt nowMs = .ok ↔
    t.structurallyValid = true ∧ t.issuedAtMs ≤ nowMs ∧ nowMs ≤ t.expiresAtMs := by
  unfold evaluateAt
  cases t.structurallyValid with
  | false => simp
  | true =>
    rw [if_neg (by decide)]
    split_ifs with early late
    · simp [Int64.not_le.mpr early]
    · simp [Int64.not_le.mpr late]
    · simp [Int64.not_lt.mp early, Int64.not_lt.mp late]

end AuthorityToken

namespace Registry

/-- An ACTIVE lease is on file under the token's key, with that token. -/
def Holds (r : Registry) (t : AuthorityToken) : Prop :=
  ∃ record, r.leases[t.key]? = some record ∧ record.token = t ∧ record.state = .active

/-- The token of an ACTIVE lease is accepted while it runs, in the term it was cut in. -/
theorem Holds.validate_iff {r : Registry} {t : AuthorityToken} (holds : r.Holds t) (nowMs : Int64) :
    r.validate t nowMs = .ok ↔ r.siteEpochs[t.site]? = some t.epoch ∧ t.evaluateAt nowMs = .ok := by
  obtain ⟨record, found, token, active⟩ := holds
  have key : leaseKey t.site t.kind t.holder = t.key := rfl
  rw [validate, key]
  cases valid : t.structurallyValid with
  | false =>
    rw [AuthorityToken.evaluateAt_ok_iff, valid]
    simp
  | true =>
    rw [if_neg (by decide)]
    cases recorded : r.siteEpochs[t.site]? with
    | none => simp
    | some known =>
      dsimp only
      rw [found]
      dsimp only
      rw [token, active, Option.some.injEq]
      simp only [reduceCtorEq, if_false]
      split_ifs with behind ahead lease incarnation generation
      · simp [behind.ne']
      · simp [ne_of_lt ahead]
      · exact absurd rfl lease
      · exact absurd rfl incarnation
      · exact absurd generation (lt_irrefl _)
      · simp [le_antisymm (not_lt.mp behind) (not_lt.mp ahead)]

end Registry

namespace Reply

/-- The token of a reply is valid, runs for as long as asked and is accepted at once. -/
def Usable (reply : Reply) (nowMs ttlMs : Int64) : Prop :=
  ∃ t, reply.token = some t ∧ t.structurallyValid = true ∧ t.issuedAtMs ≤ t.expiresAtMs ∧
    t.expiresAtMs.toInt = nowMs.toInt + ttlMs.toInt ∧ reply.registry.validate t nowMs = .ok

theorem usable_iff {reply : Reply} {t : AuthorityToken} {nowMs ttlMs : Int64}
    (cut : reply.token = some t) (holds : reply.registry.Holds t) (names : t.Names)
    (begun : 0 < nowMs) (lasting : 0 < ttlMs) (issued : t.issuedAtMs = nowMs)
    (expires : t.expiresAtMs = nowMs + ttlMs) :
    reply.Usable nowMs ttlMs ↔ Fits nowMs ttlMs ∧ t.leaseId ≠ 0 ∧
      reply.registry.siteEpochs[t.site]? = some t.epoch := by
  constructor
  · rintro ⟨t', cut', valid, -, exact_, accepted⟩
    obtain rfl : t' = t := Option.some.inj (cut'.symm.trans cut)
    rw [expires, expiry_exact_iff begun lasting] at exact_
    exact ⟨exact_, (AuthorityToken.structurallyValid_iff.mp valid).2.1,
      ((holds.validate_iff nowMs).mp accepted).1⟩
  · rintro ⟨fits, lease, term⟩
    have runs := le_expiry begun lasting fits
    have valid : t.structurallyValid = true :=
      AuthorityToken.structurallyValid_iff.mpr
        ⟨names, lease, issued ▸ begun, by rw [issued, expires]; exact runs⟩
    refine ⟨t, cut, valid, by rw [issued, expires]; exact runs, ?_, ?_⟩
    · rw [expires, (expiry_exact_iff begun lasting).mpr fits]
    · refine (holds.validate_iff nowMs).mpr ⟨term, AuthorityToken.evaluateAt_ok_iff.mpr ⟨valid, ?_, ?_⟩⟩
      · rw [issued]
        exact Int64.le_refl _
      · rw [expires]
        exact runs

end Reply

namespace AcquireRequest

variable {q : AcquireRequest} (good : q.malformed = false)

include good

theorem begun : 0 < q.nowMs := by
  simp only [malformed, Bool.or_eq_false_iff, decide_eq_false_iff_not, Int64.not_le] at good
  exact good.2

theorem lasting : 0 < q.ttlMs := by
  simp only [malformed, Bool.or_eq_false_iff, decide_eq_false_iff_not, Int64.not_le] at good
  exact good.1.2

/-- A token cut for a request names its holder. -/
theorem names {t : AuthorityToken} (kind : t.kind = .siteController) (holder : t.holder = q.holder)
    (site : t.site = q.site) (epoch : t.epoch = q.epoch) (incarnation : t.incarnation = q.incarnation) :
    t.Names := by
  simp only [malformed, Bool.or_eq_false_iff, Bool.not_eq_false'] at good
  obtain ⟨⟨⟨⟨⟨named, legal⟩, set⟩, live⟩, -⟩, -⟩ := good
  exact ⟨by rw [kind]; rfl, by rw [holder, named], by rw [site, legal], by rw [epoch, set],
    by rw [incarnation, live]⟩

end AcquireRequest

namespace Registry

/-- The id of the lease a bid would be granted under. -/
def leaseIdFor (r : Registry) (q : AcquireRequest) : UInt64 :=
  match r.leases[q.key]? with
  | none => r.nextLeaseId
  | some record => record.token.leaseId

theorem Vacated.nextLeaseId_eq {r vacated : Registry} {q : AcquireRequest}
    (vacates : Vacated r q vacated) : vacated.nextLeaseId = r.nextLeaseId := by
  cases vacates with
  | free => rfl
  | displaced => rfl

theorem acquire_usable_iff {r : Registry} (orderly : r.Orderly) {q : AcquireRequest}
    (granted : (r.acquireSiteAuthority q).status = .granted) :
    (r.acquireSiteAuthority q).Usable q.nowMs q.ttlMs ↔
      Fits q.nowMs q.ttlMs ∧ r.leaseIdFor q ≠ 0 := by
  have step := r.acquire_step q
  generalize r.acquireSiteAuthority q = reply at step granted ⊢
  cases step with
  | malformed => cases granted
  | stale => cases granted
  | refused _ _ _ no => exact absurd granted no
  | marked => cases granted
  | elected vacated good fresh absent vacates =>
    have term : (vacated.grantNew q).registry.siteEpochs[q.site]? = some q.epoch := by
      refine Eq.trans ?_ (r.observeEpoch_siteEpochs (q.epoch_isSet good) fresh)
      rw [← vacates.siteEpochs_eq]
      rfl
    have lease : vacated.nextLeaseId = r.leaseIdFor q := by
      rw [vacates.nextLeaseId_eq, observeEpoch_nextLeaseId, leaseIdFor, absent]
    have holds : (vacated.grantNew q).registry.Holds (q.token vacated.nextLeaseId) :=
      ⟨_, by rw [grantNew]; exact (lookup_insert ..).trans (if_pos rfl), rfl, rfl⟩
    rw [Reply.usable_iff rfl holds (q.names good rfl rfl rfl rfl rfl) (q.begun good)
      (q.lasting good) rfl rfl, ← lease]
    exact and_congr_right fun _ => and_iff_left term
  | regranted record renewed good fresh found _ successor generation state token =>
    have filed := orderly _ record found
    obtain ⟨site, -, holder⟩ := leaseKey_inj filed.site (q.site_valid good) filed.key
    have term : (r.observeEpoch q).siteEpochs[q.site]? = some q.epoch :=
      r.observeEpoch_siteEpochs (q.epoch_isSet good) fresh
    have lease : record.token.leaseId = r.leaseIdFor q := by rw [leaseIdFor, found]
    have key : renewed.token.key = q.key := by rw [token]; exact filed.key
    have holds : Registry.Holds
        { r.observeEpoch q with
          leases := r.leases.insert q.key renewed
          siteControllers := r.siteControllers.insert q.site q.key } renewed.token :=
      ⟨renewed, by rw [key]; exact (lookup_insert ..).trans (if_pos rfl), rfl, state⟩
    have names : renewed.token.Names :=
      q.names good (by rw [token, filed.kind]) (by rw [token]; exact holder)
        (by rw [token]; exact site) (by rw [token]) (by rw [token])
    rw [Reply.usable_iff rfl holds names (q.begun good) (q.lasting good) (by rw [token])
      (by rw [token]), token]
    dsimp only
    rw [site, ← lease]
    exact and_congr_right fun _ => and_iff_left term

/-- The lease a token would renew is of the term recorded for the site. -/
def RenewsInTerm (r : Registry) (t : AuthorityToken) : Prop :=
  ∀ record, r.leases[t.key]? = some record → r.siteEpochs[t.site]? = some record.token.epoch

theorem renewed_admits {r : Registry} {t : AuthorityToken} {nowMs ttlMs : Int64}
    (renewed : (r.renew t nowMs ttlMs).status = .renewed) :
    t.structurallyValid = true ∧ 0 < nowMs ∧ 0 < ttlMs := by
  unfold renew at renewed
  split at renewed
  · cases renewed
  next admitted =>
  simp only [Bool.or_eq_true, Bool.not_eq_true', decide_eq_true_eq, not_or, Bool.not_eq_false,
    Int64.not_le] at admitted
  exact ⟨admitted.1.1, admitted.2, admitted.1.2⟩

theorem renew_usable_iff {r : Registry} (orderly : r.Orderly) {t : AuthorityToken}
    {nowMs ttlMs : Int64} (renewed : (r.renew t nowMs ttlMs).status = .renewed) :
    (r.renew t nowMs ttlMs).Usable nowMs ttlMs ↔ Fits nowMs ttlMs ∧ r.RenewsInTerm t := by
  obtain ⟨valid, begun, lasting⟩ := renewed_admits renewed
  have step := r.renew_step t nowMs ttlMs
  generalize r.renew t nowMs ttlMs = reply at step renewed ⊢
  cases step with
  | refused _ no => exact absurd renewed no
  | lapsed => cases renewed
  | extended record later found _ _ _ _ _ evaluated state token =>
    have filed := orderly _ record found
    have legal := (AuthorityToken.structurallyValid_iff.mp valid).1.site
    obtain ⟨site, -, -⟩ := leaseKey_inj filed.site legal filed.key
    have key : later.token.key = leaseKey t.site t.kind t.holder := by rw [token]; exact filed.key
    obtain ⟨names, lease, -⟩ := AuthorityToken.structurallyValid_iff.mp
      (AuthorityToken.evaluateAt_ok_iff.mp evaluated).1
    have holds : Registry.Holds
        { r with leases := r.leases.insert (leaseKey t.site t.kind t.holder) later } later.token :=
      ⟨later, by rw [key]; exact (lookup_insert ..).trans (if_pos rfl), rfl, state⟩
    have names' : later.token.Names := by
      rw [token]
      exact ⟨names.kind, names.holder, names.site, names.epoch, names.incarnation⟩
    have term : r.RenewsInTerm t ↔ r.siteEpochs[t.site]? = some record.token.epoch := by
      constructor
      · intro all
        exact all record found
      · intro term other present
        obtain rfl : other = record := Option.some.inj (present.symm.trans found)
        exact term
    rw [Reply.usable_iff rfl holds names' begun lasting (by rw [token]) (by rw [token]), token, term]
    dsimp only
    rw [site]
    exact and_congr_right fun _ => and_iff_right lease

end Registry

/-- In every reachable registry, a grant is usable exactly when its expiry fits and its
lease has an id, and a renewal exactly when its expiry fits and its lease is of the term
recorded for the site. -/
theorem grant_usable_iff (calls : List Call) :
    (∀ q : AcquireRequest,
      ((Registry.after calls).acquireSiteAuthority q).status = .granted →
        (((Registry.after calls).acquireSiteAuthority q).Usable q.nowMs q.ttlMs ↔
          Fits q.nowMs q.ttlMs ∧ (Registry.after calls).leaseIdFor q ≠ 0)) ∧
      ∀ (t : AuthorityToken) (nowMs ttlMs : Int64),
        ((Registry.after calls).renew t nowMs ttlMs).status = .renewed →
          (((Registry.after calls).renew t nowMs ttlMs).Usable nowMs ttlMs ↔
            Fits nowMs ttlMs ∧ (Registry.after calls).RenewsInTerm t) :=
  ⟨fun _ => Registry.acquire_usable_iff (Registry.orderly_after calls),
    fun _ _ _ => Registry.renew_usable_iff (Registry.orderly_after calls)⟩

/-- A first lease and its renewal. -/
theorem first_lease_is_usable :
    let bid := AcquireRequest.sample "a" 1 1 100
    ((Registry.after []).acquireSiteAuthority bid).Usable 100 10 ∧
      ((Registry.after [.lease (.acquire bid)]).renew (bid.token 1) 105 10).Usable 105 10 := by
  refine ⟨?_, ?_⟩
  · exact ((grant_usable_iff []).1 (.sample "a" 1 1 100) (by decide +kernel)).mpr
      ⟨by decide, by decide +kernel⟩
  · refine ((grant_usable_iff [.lease (.acquire (.sample "a" 1 1 100))]).2 _ 105 10
      (by decide +kernel)).mpr ⟨by decide, fun record found => ?_⟩
    have filed : (Registry.after [.lease (.acquire (.sample "a" 1 1 100))]).leases[
        ((AcquireRequest.sample "a" 1 1 100).token 1).key]? =
          some { token := (AcquireRequest.sample "a" 1 1 100).token 1, state := .active
                 updatedAtMs := 100 } := by
      decide +kernel
    cases filed.symm.trans found
    decide +kernel

/-- A lease asked for without an end is granted, and its token is not valid. -/
theorem endless_grant_is_unusable :
    let bid := { AcquireRequest.sample "a" 1 1 100 with ttlMs := Int64.maxValue }
    ((Registry.after []).acquireSiteAuthority bid).status = .granted ∧
      ¬ ((Registry.after []).acquireSiteAuthority bid).Usable bid.nowMs bid.ttlMs := by
  refine ⟨by decide +kernel, ?_⟩
  rintro ⟨t, cut, valid, -⟩
  have wrapped : ∀ token ∈ ((Registry.after []).acquireSiteAuthority
      { AcquireRequest.sample "a" 1 1 100 with ttlMs := Int64.maxValue }).token,
      token.structurallyValid = false := by decide +kernel
  rw [wrapped t cut] at valid
  cases valid

end SiteFabric.Authority
