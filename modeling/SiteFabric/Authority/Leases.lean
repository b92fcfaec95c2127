import SiteFabric.Authority.Registry
import SiteFabric.Lib.Maps
import SiteFabric.Lib.Run

/-! What one lease call can do to the registry.
`AcquireStep` lists every exit of an acquisition with the guards that led to
it; renewal and revocation have one lemma each. Every result about elections is
derived from these and from no definition of an entry point. -/

namespace SiteFabric.Authority

open Std (ExtTreeMap ExtTreeSet)
open Lib

/-- A lease key names its site, its kind and its holder: neither a legal site
nor a kind token contains the separator. -/
theorem leaseKey_inj {site site' : SiteId} {kind kind' : AuthorityKind} {holder holder' : Text}
    (valid : site.valid = true) (valid' : site'.valid = true)
    (same : leaseKey site kind holder = leaseKey site' kind' holder') :
    site = site' ∧ kind = kind' ∧ holder = holder' := by
  have bytes := congrArg Text.bytes same
  simp only [leaseKey, Text.bytes_append, List.append_assoc, List.singleton_append] at bytes
  obtain ⟨sites, rest⟩ := append_slash_inj (slash_notMem_of_valid valid)
    (slash_notMem_of_valid valid') bytes
  obtain ⟨kinds, holders⟩ := append_slash_inj kind.slash_notMem_token
    kind'.slash_notMem_token rest
  refine ⟨?_, AuthorityKind.token_injective ?_, ?_⟩
  · exact StrongId.value_injective (Text.mk.injEq .. ▸ sites)
  · exact Text.mk.injEq .. ▸ kinds
  · exact Text.mk.injEq .. ▸ holders

namespace AcquireRequest

variable (q : AcquireRequest)

theorem site_valid (good : q.malformed = false) : q.site.valid = true := by
  simp only [malformed, Bool.or_eq_false_iff, Bool.not_eq_false'] at good
  exact good.1.1.1.1.2

theorem epoch_isSet (good : q.malformed = false) : q.epoch.isSet = true := by
  simp only [malformed, Bool.or_eq_false_iff, Bool.not_eq_false'] at good
  exact good.1.1.1.2

end AcquireRequest

namespace Registry

variable (r : Registry) (q : AcquireRequest)

@[simp] theorem observeEpoch_leases : (r.observeEpoch q).leases = r.leases := by
  unfold observeEpoch
  split <;> rfl

@[simp] theorem observeEpoch_siteControllers :
    (r.observeEpoch q).siteControllers = r.siteControllers := by
  unfold observeEpoch
  split <;> rfl

@[simp] theorem observeEpoch_nextLeaseId : (r.observeEpoch q).nextLeaseId = r.nextLeaseId := by
  unfold observeEpoch
  split <;> rfl

/-- Observing an epoch never lowers the one recorded for any site. -/
theorem currentEpoch_le_observeEpoch (site : SiteId) :
    r.currentEpoch site ≤ (r.observeEpoch q).currentEpoch site := by
  unfold observeEpoch
  split
  · next later =>
    simp only [currentEpoch, lookup_insert] at later ⊢
    split
    · next same => exact same ▸ later.le
    · exact le_rfl
  · exact le_rfl

/-- After a well-formed acquisition that is not stale, the site has a recorded
epoch and it is the one presented. -/
theorem observeEpoch_siteEpochs {q : AcquireRequest} (set : q.epoch.isSet = true)
    (fresh : r.currentEpoch q.site ≤ q.epoch) :
    (r.observeEpoch q).siteEpochs[q.site]? = some q.epoch := by
  unfold observeEpoch
  split
  · simp
  · next equal =>
    have same : r.currentEpoch q.site = q.epoch := le_antisymm fresh (not_lt.mp equal)
    cases found : r.siteEpochs[q.site]? with
    | none =>
      have unset : r.currentEpoch q.site = Epoch.unset := by simp [currentEpoch, found]
      exact absurd (Epoch.unset_lt_of_isSet set) (by rw [← same, unset]; exact lt_irrefl _)
    | some epoch =>
      have known : r.currentEpoch q.site = epoch := by simp [currentEpoch, found]
      rw [← same, known]

/-- A lease another incarnation of its own holder may take over. -/
structure Lapsed (record : LeaseRecord) (q : AcquireRequest) : Prop where
  unrevoked : record.state ≠ .revoked
  replaced : record.token.incarnation ≠ q.incarnation
  lapse : ¬(record.state = .active ∧ record.token.expiresAtMs ≥ q.nowMs)
  older : record.token.incarnation.sequence < q.incarnation.sequence

/-- The registry a newcomer finds its site free in, or frees it in. -/
inductive Vacated (r : Registry) (q : AcquireRequest) : Registry → Prop
  | free (vacant : ∀ current, r.siteControllers[q.site]? = some current →
      current = q.key ∨ r.leases[current]? = none) : Vacated r q r
  | displaced (current : Text) (other : LeaseRecord)
      (controls : r.siteControllers[q.site]? = some current) (found : r.leases[current]? = some other)
      (lapse : ¬(other.state = .active ∧ other.token.expiresAtMs ≥ q.nowMs))
      (unrevoked : other.state ≠ .revoked)
      (older : other.token.incarnation.sequence < q.incarnation.sequence) :
      Vacated r q (r.supersede current other q)

/-- Every exit of an acquisition. -/
inductive AcquireStep (r : Registry) (q : AcquireRequest) : Reply → Prop
  | malformed (bad : q.malformed = true) : AcquireStep r q ⟨r, .invalid, none⟩
  | stale (good : q.malformed = false) (behind : q.epoch < r.currentEpoch q.site) :
      AcquireStep r q ⟨r, .fencedEpoch, none⟩
  | refused (status : Status) (good : q.malformed = false)
      (fresh : r.currentEpoch q.site ≤ q.epoch) (no : status ≠ .granted)
      (unmarked : ∀ record, r.leases[q.key]? = some record → Lapsed record q →
        record.token.generation ≤ q.generation) :
      AcquireStep r q ⟨r.observeEpoch q, status, none⟩
  | marked (record : LeaseRecord) (good : q.malformed = false)
      (fresh : r.currentEpoch q.site ≤ q.epoch) (found : r.leases[q.key]? = some record)
      (lapsed : Lapsed record q) (behind : q.generation < record.token.generation) :
      AcquireStep r q
        ⟨{ r.observeEpoch q with
            leases := r.leases.insert q.key (supersedeInPlace record q.nowMs) },
          .fencedGeneration, none⟩
  | elected (vacated : Registry) (good : q.malformed = false)
      (fresh : r.currentEpoch q.site ≤ q.epoch) (absent : r.leases[q.key]? = none)
      (vacates : Vacated (r.observeEpoch q) q vacated) : AcquireStep r q (vacated.grantNew q)
  | regranted (record renewed : LeaseRecord) (good : q.malformed = false)
      (fresh : r.currentEpoch q.site ≤ q.epoch) (found : r.leases[q.key]? = some record)
      (unrevoked : record.state ≠ .revoked)
      (successor : record.token.incarnation = q.incarnation ∨ Lapsed record q)
      (generation : record.token.generation ≤ q.generation)
      (state : renewed.state = .active)
      (token : renewed.token =
        { record.token with
          epoch := q.epoch, incarnation := q.incarnation, generation := q.generation
          issuedAtMs := q.nowMs, expiresAtMs := q.nowMs + q.ttlMs }) :
      AcquireStep r q
        ⟨{ r.observeEpoch q with
            leases := r.leases.insert q.key renewed
            siteControllers := r.siteControllers.insert q.site q.key },
          .granted, some renewed.token⟩

private theorem acquireNew_step (good : q.malformed = false)
    (fresh : r.currentEpoch q.site ≤ q.epoch) (absent : r.leases[q.key]? = none) :
    AcquireStep r q ((r.observeEpoch q).acquireNew q) := by
  have unmarked : ∀ record, r.leases[q.key]? = some record → Lapsed record q →
      record.token.generation ≤ q.generation := by
    intro record found
    rw [absent] at found
    cases found
  unfold acquireNew
  split
  · next vacant =>
    exact .elected _ good fresh absent (.free fun current found => by
      rw [vacant] at found
      cases found)
  · next current controls =>
    split
    · next own =>
      exact .elected _ good fresh absent (.free fun named found => by
        rw [controls] at found
        cases found
        exact .inl own)
    · split
      · next missing =>
        exact .elected _ good fresh absent (.free fun named found => by
          rw [controls] at found
          cases found
          exact .inr missing)
      · next other found =>
        split
        · exact .refused _ good fresh (by decide) unmarked
        · next lapse =>
          split
          · exact .refused _ good fresh (by decide) unmarked
          · next unrevoked =>
            split
            · exact .refused _ good fresh (by decide) unmarked
            · next older =>
              exact .elected _ good fresh absent
                (.displaced current other controls found lapse unrevoked (UInt64.not_le.mp older))

private theorem acquireReturning_step {record : LeaseRecord} (good : q.malformed = false)
    (fresh : r.currentEpoch q.site ≤ q.epoch) (found : r.leases[q.key]? = some record) :
    AcquireStep r q ((r.observeEpoch q).acquireReturning q record) := by
  have unmarked : ¬Lapsed record q ∨ record.token.generation ≤ q.generation →
      ∀ other, r.leases[q.key]? = some other → Lapsed other q →
        other.token.generation ≤ q.generation := by
    intro either other same lapsed
    rw [found] at same
    cases same
    exact either.resolve_left (fun no => no lapsed)
  unfold acquireReturning
  split
  · next revoked =>
    exact .refused _ good fresh (by decide)
      (unmarked (.inl fun lapsed => lapsed.unrevoked revoked))
  · next unrevoked =>
    split
    · next same =>
      unfold regrant
      split
      · exact .refused _ good fresh (by decide)
          (unmarked (.inl fun lapsed => lapsed.replaced same))
      · next generation =>
        rw [observeEpoch_leases, observeEpoch_siteControllers]
        exact .regranted record _ good fresh found unrevoked (.inl same)
          (not_lt.mp generation) rfl rfl
    · next replaced =>
      split
      · next held =>
        exact .refused _ good fresh (by decide)
          (unmarked (.inl fun lapsed => lapsed.lapse held))
      · next lapse =>
        split
        · next newer =>
          exact .refused _ good fresh (by decide)
            (unmarked (.inl fun lapsed => UInt64.not_le.mpr lapsed.older newer))
        · next older =>
          have lapsed : Lapsed record q :=
            ⟨unrevoked, replaced, lapse, UInt64.not_le.mp older⟩
          dsimp only [regrant]
          split
          · next behind =>
            rw [observeEpoch_leases]
            exact .marked record good fresh found lapsed behind
          · next generation =>
            simp only [observeEpoch_leases, observeEpoch_siteControllers, insert_insert]
            exact .regranted record _ good fresh found unrevoked (.inr lapsed)
              (not_lt.mp generation) rfl rfl

theorem acquire_step : AcquireStep r q (r.acquireSiteAuthority q) := by
  unfold acquireSiteAuthority
  split
  · next bad => exact .malformed bad
  · next good =>
    rw [Bool.not_eq_true] at good
    split
    · next behind => exact .stale good behind.2
    · next ahead =>
      have fresh : r.currentEpoch q.site ≤ q.epoch := by
        by_contra behind
        rw [not_le] at behind
        refine ahead ⟨?_, behind⟩
        have above := lt_of_le_of_lt (Epoch.unset_le q.epoch) behind
        exact Epoch.isSet_of_unset_lt above
      simp only [observeEpoch_leases]
      split
      · next absent => exact acquireNew_step r q good fresh absent
      · next record found => exact acquireReturning_step r q good fresh found

end Registry

theorem AuthorityToken.expired_of_evaluateAt {t : AuthorityToken} {nowMs : Int64}
    (evaluated : t.evaluateAt nowMs = .leaseExpired) : t.expiresAtMs < nowMs := by
  unfold evaluateAt at evaluated
  split_ifs at evaluated with _ _ late
  exact late

theorem AuthorityToken.unexpired_of_evaluateAt {t : AuthorityToken} {nowMs : Int64}
    (evaluated : t.evaluateAt nowMs = .ok) : nowMs ≤ t.expiresAtMs := by
  unfold evaluateAt at evaluated
  split_ifs at evaluated with _ _ late
  exact Int64.not_lt.mp late

namespace Registry

/-- Every exit of a renewal. -/
inductive RenewStep (r : Registry) (t : AuthorityToken) (nowMs ttlMs : Int64) : Reply → Prop
  | refused (status : Status) (no : status ≠ .renewed) : RenewStep r t nowMs ttlMs ⟨r, status, none⟩
  | lapsed (record late : LeaseRecord)
      (found : r.leases[leaseKey t.site t.kind t.holder]? = some record)
      (unrevoked : record.state ≠ .revoked) (expired : record.token.expiresAtMs < nowMs)
      (state : late.state = .expired) (token : late.token = record.token) :
      RenewStep r t nowMs ttlMs
        ⟨{ r with leases := r.leases.insert (leaseKey t.site t.kind t.holder) late },
          .leaseExpired, none⟩
  | extended (record renewed : LeaseRecord)
      (found : r.leases[leaseKey t.site t.kind t.holder]? = some record)
      (abreast : ∀ known, r.siteEpochs[t.site]? = some known → known ≤ t.epoch)
      (lease : record.token.leaseId = t.leaseId)
      (incarnation : record.token.incarnation = t.incarnation)
      (generation : record.token.generation = t.generation) (unrevoked : record.state ≠ .revoked)
      (evaluated : record.token.evaluateAt nowMs = .ok) (state : renewed.state = .active)
      (token : renewed.token =
        { record.token with expiresAtMs := nowMs + ttlMs, issuedAtMs := nowMs }) :
      RenewStep r t nowMs ttlMs
        ⟨{ r with leases := r.leases.insert (leaseKey t.site t.kind t.holder) renewed },
          .renewed, some renewed.token⟩

theorem renew_step (r : Registry) (t : AuthorityToken) (nowMs ttlMs : Int64) :
    RenewStep r t nowMs ttlMs (r.renew t nowMs ttlMs) := by
  unfold renew
  split
  · exact .refused _ (by decide)
  · split
    · exact .refused _ (by decide)
    · next abreast =>
      dsimp only
      split
      · exact .refused _ (by decide)
      · next record found =>
        split_ifs with lease incarnation generation revoked
        · exact .refused _ (by decide)
        · exact .refused _ (by decide)
        · exact .refused _ (by decide)
        · exact .refused _ (by decide)
        · split
          · next evaluated =>
            exact .lapsed record _ found revoked
              (AuthorityToken.expired_of_evaluateAt evaluated) rfl rfl
          · next evaluated =>
            refine .extended record _ found ?_ (not_not.mp lease) (not_not.mp incarnation)
              (not_not.mp generation) revoked evaluated rfl rfl
            intro known recorded
            simpa [recorded] using abreast
          · next evaluated =>
            refine .refused _ ?_
            unfold AuthorityToken.evaluateAt
            split_ifs <;> decide

/-- Every exit of a revocation. -/
inductive RevokeStep (r : Registry) (t : AuthorityToken) : Reply → Prop
  | refused (status : Status) (no : status ≠ .ok) : RevokeStep r t ⟨r, status, none⟩
  | revoked (record dead : LeaseRecord)
      (found : r.leases[leaseKey t.site t.kind t.holder]? = some record)
      (lease : record.token.leaseId = t.leaseId) (state : dead.state = .revoked)
      (token : dead.token = record.token) :
      RevokeStep r t
        ⟨{ r with leases := r.leases.insert (leaseKey t.site t.kind t.holder) dead }, .ok, none⟩

theorem revoke_step (r : Registry) (t : AuthorityToken) (nowMs : Int64) (note : Text) :
    RevokeStep r t (r.revoke t nowMs note) := by
  unfold revoke
  split
  · exact .refused _ (by decide)
  · dsimp only
    split
    · exact .refused _ (by decide)
    · next record found =>
      split_ifs with lease
      · exact .refused _ (by decide)
      · exact .revoked record _ found (not_not.mp lease) rfl rfl

end Registry

/-- The mutating lease calls, with the instant each is made at. -/
inductive LeaseCall where
  | acquire (q : AcquireRequest)
  | renew (t : AuthorityToken) (nowMs ttlMs : Int64)
  | revoke (t : AuthorityToken) (nowMs : Int64) (note : Text)

namespace LeaseCall

def nowMs : LeaseCall → Int64
  | .acquire q => q.nowMs
  | .renew _ nowMs _ => nowMs
  | .revoke _ nowMs _ => nowMs

def reply (r : Registry) : LeaseCall → Reply
  | .acquire q => r.acquireSiteAuthority q
  | .renew t nowMs ttlMs => r.renew t nowMs ttlMs
  | .revoke t nowMs note => r.revoke t nowMs note

end LeaseCall

/-- A bid of ten milliseconds for site `s`, by a holder's process of that sequence. -/
def AcquireRequest.sample (holder : String) (epoch sequence : UInt64) (nowMs : Int64) :
    AcquireRequest :=
  { holder := ascii holder, site := ⟨ascii "s"⟩, epoch := ⟨epoch⟩
    incarnation := ⟨sequence, ⟨ascii holder⟩⟩, generation := ⟨1⟩, nowMs, ttlMs := 10 }

/-- A registry with the tokens it has handed out and the instant of the last call. -/
structure Session where
  registry : Registry := Registry.initial
  issued : List AuthorityToken := []
  clock : Int64 := Int64.minValue

namespace Session

def step (s : Session) (call : LeaseCall) : Session :=
  let reply := call.reply s.registry
  { registry := reply.registry
    issued := reply.token.toList ++ s.issued
    clock := call.nowMs }

/-- The session after any sequence of lease calls on a fresh registry. -/
def after (calls : List LeaseCall) : Session := run step {} calls

end Session

end SiteFabric.Authority
