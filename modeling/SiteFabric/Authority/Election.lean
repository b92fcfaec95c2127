import SiteFabric.Authority.Permanence

/-! One ruler for a site.
Leases are filed by holder and the site names one of them as its controller.
A newcomer is measured against that one, so it suffices that no other lease
speaks for the site. A returning holder is measured against its own lease only:
the registry then has one ruler as long as no holder returns while another
holder's lease of the same term still runs. -/

namespace SiteFabric.Authority

open Std (ExtTreeMap ExtTreeSet)
open Lib

namespace Registry

/-- A lease that still speaks for its site: in the site's term and not run out. -/
structure InForce (r : Registry) (clock : Int64) (record : LeaseRecord) : Prop where
  active : record.state = .active
  epoch : r.siteEpochs[record.token.site]? = some record.token.epoch
  unexpired : clock ≤ record.token.expiresAtMs

/-- Only the lease named as a site's controller speaks for the site, and a lease
neither active nor revoked has run out. -/
structure Undivided (r : Registry) (clock : Int64) : Prop where
  orderly : r.Orderly
  spent : ∀ (key : Text) (record : LeaseRecord), r.leases[key]? = some record →
    record.state = .active ∨ record.state = .revoked ∨ record.token.expiresAtMs < clock
  ruled : ∀ (key : Text) (record : LeaseRecord), r.leases[key]? = some record →
    r.InForce clock record → r.siteControllers[record.token.site]? = some key

theorem Undivided.wait {r : Registry} {clock later : Int64} (undivided : r.Undivided clock)
    (forward : clock ≤ later) : r.Undivided later where
  orderly := undivided.orderly
  spent key record found := by
    rcases undivided.spent key record found with active | revoked | spent
    · exact .inl active
    · exact .inr (.inl revoked)
    · exact .inr (.inr (Int64.lt_of_lt_of_le spent forward))
  ruled key record found force :=
    undivided.ruled key record found
      ⟨force.active, force.epoch, Int64.le_trans forward force.unexpired⟩

/-- A new term puts every lease of the old one out of force. -/
theorem Undivided.observeEpoch {r : Registry} {clock : Int64} (undivided : r.Undivided clock)
    (q : AcquireRequest) : (r.observeEpoch q).Undivided clock where
  orderly := undivided.orderly.observeEpoch q
  spent key record found := undivided.spent key record (r.observeEpoch_leases q ▸ found)
  ruled := by
    intro key record found force
    rw [observeEpoch_leases] at found
    rw [observeEpoch_siteControllers]
    refine undivided.ruled key record found ⟨force.active, ?_, force.unexpired⟩
    obtain ⟨known, recorded, within⟩ := (undivided.orderly key record found).epoch
    obtain ⟨risen, there, rise⟩ := (r.observeEpoch_evolves q).epochs _ known recorded
    rw [force.epoch] at there
    cases there
    rw [recorded, le_antisymm within rise]

/-- Writing a lease that is revoked or has run out. -/
theorem Undivided.retire {r later : Registry} {clock : Int64} {key : Text} {written : LeaseRecord}
    (undivided : r.Undivided clock) (leases : later.leases = r.leases.insert key written)
    (epochs : later.siteEpochs = r.siteEpochs)
    (controllers : later.siteControllers = r.siteControllers) (filed : r.Filed key written)
    (out : written.state = .revoked ∨ written.state ≠ .active ∧ written.token.expiresAtMs < clock) :
    later.Undivided clock where
  orderly := undivided.orderly.write leases epochs filed
  spent := by
    intro k record found
    rw [leases, lookup_insert] at found
    split at found
    · cases found
      exact .inr (out.imp_right And.right)
    · exact undivided.spent k record found
  ruled := by
    intro k record found force
    rw [leases, lookup_insert] at found
    split at found
    · cases found
      rcases out with revoked | ⟨inactive, _⟩
      · rw [force.active] at revoked
        cases revoked
      · exact absurd force.active inactive
    · rw [controllers]
      exact undivided.ruled k record found ⟨force.active, epochs ▸ force.epoch, force.unexpired⟩

/-- Granting a lease that no other lease of its site stands against. -/
theorem Undivided.crown {r later : Registry} {clock : Int64} {key : Text} {written : LeaseRecord}
    (undivided : r.Undivided clock) (leases : later.leases = r.leases.insert key written)
    (epochs : later.siteEpochs = r.siteEpochs)
    (controllers : later.siteControllers = r.siteControllers.insert written.token.site key)
    (filed : r.Filed key written) (active : written.state = .active)
    (unrivalled : ∀ (other : Text) (record : LeaseRecord), other ≠ key →
      r.leases[other]? = some record → record.token.site = written.token.site →
      ¬r.InForce clock record) : later.Undivided clock where
  orderly := undivided.orderly.write leases epochs filed
  spent := by
    intro k record found
    rw [leases, lookup_insert] at found
    split at found
    · cases found
      exact .inl active
    · exact undivided.spent k record found
  ruled := by
    intro k record found force
    rw [leases, lookup_insert] at found
    rw [controllers, lookup_insert]
    split at found
    · next same =>
      cases found
      rw [if_pos rfl, same]
    · next apart =>
      have held : r.InForce clock record := ⟨force.active, epochs ▸ force.epoch, force.unexpired⟩
      rw [if_neg]
      · exact undivided.ruled k record found held
      · intro site
        exact unrivalled k record (Ne.symm apart) found site.symm held

/-- Extending the controller's own lease. -/
theorem Undivided.extend {r later : Registry} {clock : Int64} {key : Text}
    {record written : LeaseRecord} (undivided : r.Undivided clock)
    (found : r.leases[key]? = some record)
    (leases : later.leases = r.leases.insert key written)
    (epochs : later.siteEpochs = r.siteEpochs)
    (controllers : later.siteControllers = r.siteControllers) (filed : r.Filed key written)
    (active : written.state = .active) (site : written.token.site = record.token.site)
    (epoch : written.token.epoch = record.token.epoch) (unrevoked : record.state ≠ .revoked)
    (unexpired : clock ≤ record.token.expiresAtMs) : later.Undivided clock where
  orderly := undivided.orderly.write leases epochs filed
  spent := by
    intro k other present
    rw [leases, lookup_insert] at present
    split at present
    · cases present
      exact .inl active
    · exact undivided.spent k other present
  ruled := by
    intro k other present force
    rw [leases, lookup_insert] at present
    rw [controllers]
    split at present
    · next same =>
      cases present
      have was : record.state = .active := by
        rcases undivided.spent key record found with active | revoked | spent
        · exact active
        · exact absurd revoked unrevoked
        · exact absurd spent (Int64.not_lt.mpr unexpired)
      have recorded := force.epoch
      rw [epochs, site, epoch] at recorded
      rw [site, ← same]
      exact undivided.ruled key record found ⟨was, recorded, unexpired⟩
    · exact undivided.ruled k other present ⟨force.active, epochs ▸ force.epoch, force.unexpired⟩

/-- A lapsed lease has run out. -/
theorem Undivided.lapse_spent {r : Registry} {clock : Int64} (undivided : r.Undivided clock)
    {key : Text} {record : LeaseRecord} (found : r.leases[key]? = some record)
    (unrevoked : record.state ≠ .revoked)
    (lapse : ¬(record.state = .active ∧ record.token.expiresAtMs ≥ clock)) :
    record.token.expiresAtMs < clock := by
  rcases undivided.spent key record found with active | revoked | spent
  · by_contra unexpired
    exact lapse ⟨active, Int64.not_lt.mp unexpired⟩
  · exact absurd revoked unrevoked
  · exact spent

/-- A site is free for a newcomer only if no lease speaks for it. -/
theorem Vacated.undivided {r vacated : Registry} {q : AcquireRequest}
    (vacates : Vacated r q vacated) (undivided : r.Undivided q.nowMs) :
    vacated.Undivided q.nowMs ∧
      ∀ (key : Text) (record : LeaseRecord), key ≠ q.key → vacated.leases[key]? = some record →
        record.token.site = q.site → ¬vacated.InForce q.nowMs record := by
  cases vacates with
  | free vacant =>
    refine ⟨undivided, fun key record apart found site force => ?_⟩
    have controls := undivided.ruled key record found force
    rw [site] at controls
    rcases vacant key controls with own | missing
    · exact apart own
    · rw [found] at missing
      cases missing
  | displaced current other controls found lapse unrevoked =>
    have spent := undivided.lapse_spent found unrevoked lapse
    have superseded : (r.supersede current other q).Undivided q.nowMs := by
      refine undivided.retire rfl rfl rfl ((undivided.orderly current other found).of_token _ rfl) ?_
      exact .inr ⟨(fun same => nomatch same), spent⟩
    refine ⟨superseded, fun key record _ present site force => ?_⟩
    have named := superseded.ruled key record present force
    rw [site] at named
    change r.siteControllers[q.site]? = some key at named
    rw [controls] at named
    cases named
    rw [supersede, lookup_insert, if_pos rfl] at present
    cases present
    cases force.active

/-- A returning holder that will be granted its lease again. -/
structure Reclaims (r : Registry) (q : AcquireRequest) (record : LeaseRecord) : Prop where
  good : q.malformed = false
  fresh : r.currentEpoch q.site ≤ q.epoch
  found : r.leases[q.key]? = some record
  unrevoked : record.state ≠ .revoked
  successor : record.token.incarnation = q.incarnation ∨ Lapsed record q
  generation : record.token.generation ≤ q.generation

/-- Another holder's lease for the same site and term that has not run out. -/
structure Rival (r : Registry) (q : AcquireRequest) (key : Text) (record : LeaseRecord) : Prop where
  found : r.leases[key]? = some record
  other : key ≠ q.key
  site : record.token.site = q.site
  epoch : record.token.epoch = q.epoch
  active : record.state = .active
  unexpired : q.nowMs ≤ record.token.expiresAtMs

theorem acquire_undivided {r : Registry} {q : AcquireRequest} (undivided : r.Undivided q.nowMs)
    (unrivalled : ∀ record, r.Reclaims q record → ∀ key other, ¬r.Rival q key other) :
    (r.acquireSiteAuthority q).registry.Undivided q.nowMs := by
  have observed := undivided.observeEpoch q
  have step := r.acquire_step q
  generalize r.acquireSiteAuthority q = reply at step ⊢
  cases step with
  | malformed => exact undivided
  | stale => exact undivided
  | refused => exact observed
  | marked record _ _ found lapsed =>
    rw [← observeEpoch_leases r q] at found
    have spent := observed.lapse_spent found lapsed.unrevoked lapsed.lapse
    have filed := (observed.orderly q.key record found).of_token
      (supersedeInPlace record q.nowMs) rfl
    refine observed.retire ?_ rfl rfl filed (.inr ⟨(fun same => nomatch same), spent⟩)
    rw [observeEpoch_leases]
  | elected vacated good fresh absent vacates =>
    obtain ⟨free, alone⟩ := vacates.undivided observed
    have recorded : vacated.siteEpochs[q.site]? = some q.epoch := by
      rw [vacates.siteEpochs_eq]
      exact r.observeEpoch_siteEpochs (q.epoch_isSet good) fresh
    exact free.crown rfl rfl rfl (filed_grantNew good recorded _ vacated.nextLeaseId rfl) rfl alone
  | regranted record renewed good fresh found unrevoked successor generation active token =>
    obtain ⟨precedes, filed⟩ :=
      (undivided.orderly q.key record found).regrant good fresh successor generation token
    have site : renewed.token.site = q.site :=
      precedes.site.symm.trans ((undivided.orderly q.key record found).site_eq good)
    refine observed.crown ?_ rfl ?_ filed active ?_
    · rw [observeEpoch_leases]
    · rw [observeEpoch_siteControllers, site]
    · intro key other apart present same force
      have term := force.epoch
      rw [same, site, r.observeEpoch_siteEpochs (q.epoch_isSet good) fresh] at term
      rw [observeEpoch_leases] at present
      exact unrivalled record ⟨good, fresh, found, unrevoked, successor, generation⟩ key other
        ⟨present, apart, same.trans site, (Option.some.inj term).symm, force.active, force.unexpired⟩

theorem renew_undivided {r : Registry} {nowMs : Int64} (undivided : r.Undivided nowMs)
    (t : AuthorityToken) (ttlMs : Int64) : (r.renew t nowMs ttlMs).registry.Undivided nowMs := by
  have step := r.renew_step t nowMs ttlMs
  generalize r.renew t nowMs ttlMs = reply at step ⊢
  cases step with
  | refused => exact undivided
  | lapsed record late found unrevoked expired state token =>
    have filed := (undivided.orderly _ record found).of_token late token
    refine undivided.retire rfl rfl rfl filed (.inr ⟨?_, token ▸ expired⟩)
    rw [state]
    decide
  | extended record renewed found _ _ _ _ unrevoked evaluated state token =>
    have filed := undivided.orderly _ record found
    refine undivided.extend found rfl rfl rfl ?_ state ?_ ?_ unrevoked
      (AuthorityToken.unexpired_of_evaluateAt evaluated)
    · refine ⟨?_, ?_, ?_, ?_⟩ <;> rw [token]
      · exact filed.key
      · exact filed.kind
      · exact filed.site
      · exact filed.epoch
    · rw [token]
    · rw [token]

theorem revoke_undivided {r : Registry} {nowMs : Int64} (undivided : r.Undivided nowMs)
    (t : AuthorityToken) (note : Text) : (r.revoke t nowMs note).registry.Undivided nowMs := by
  have step := r.revoke_step t nowMs note
  generalize r.revoke t nowMs note = reply at step ⊢
  cases step with
  | refused => exact undivided
  | revoked record dead found _ state token =>
    have filed := (undivided.orderly _ record found).of_token dead token
    exact undivided.retire rfl rfl rfl filed (.inl state)

/-- A backed token that validates is backed by a lease in force. -/
theorem inForce_of_validate {r : Registry} (orderly : r.Orderly) {t : AuthorityToken}
    (backed : r.Backed t) {nowMs : Int64}
    (spent : ∀ (key : Text) (record : LeaseRecord), r.leases[key]? = some record →
      record.state = .active ∨ record.state = .revoked ∨ record.token.expiresAtMs < nowMs)
    (valid : r.validate t nowMs = .ok) :
    t.site.valid = true ∧ ∃ record, r.leases[t.key]? = some record ∧ r.InForce nowMs record ∧
      record.token.site = t.site ∧ record.token.incarnation = t.incarnation := by
  obtain ⟨record, found, precedes⟩ := backed
  have found' : r.leases[leaseKey t.site t.kind t.holder]? = some record := found
  unfold validate at valid
  split at valid
  · cases valid
  · next structural =>
    split at valid
    · cases valid
    · next known recorded =>
      simp only [found'] at valid
      split_ifs at valid with behind ahead lease incarnation generation revoked superseded
      have unexpired := AuthorityToken.unexpired_of_evaluateAt valid
      refine ⟨?_, record, found, ⟨?_, ?_, unexpired⟩, precedes.site.symm, not_not.mp incarnation⟩
      · rw [Bool.not_eq_true, Bool.not_eq_false'] at structural
        unfold AuthorityToken.structurallyValid at structural
        split_ifs at structural with shape
        simp only [Bool.or_eq_true, Bool.not_eq_true', not_or, Bool.not_eq_false] at shape
        exact shape.2
      · rcases spent _ record found with active | dead | gone
        · exact active
        · exact absurd dead revoked
        · exact absurd gone (Int64.not_lt.mpr unexpired)
      · -- The lease's term lies between the token's and the site's, which agree.
        obtain ⟨other, there, within⟩ := (orderly _ record found).epoch
        rw [← precedes.site, recorded] at there
        cases there
        have same : record.token.epoch = known :=
          le_antisymm within ((not_lt.mp behind).trans precedes.epoch)
        rw [← precedes.site, recorded, same]

end Registry

namespace Session

/-- A call made no earlier than the last, and no holder returning to a site
while another holder's lease of the same term still runs. -/
def Seemly (s : Session) (call : LeaseCall) : Prop :=
  s.clock ≤ call.nowMs ∧ ∀ q, call = .acquire q → ∀ record, s.registry.Reclaims q record →
    ∀ key other, ¬s.registry.Rival q key other

/-- A newcomer is seemly: what the registry asks of it is enough. -/
theorem seemly_newcomer {s : Session} {q : AcquireRequest} (forward : s.clock ≤ q.nowMs)
    (absent : s.registry.leases[q.key]? = none) : s.Seemly (.acquire q) := by
  refine ⟨forward, fun other same record reclaims => ?_⟩
  cases same
  have found := reclaims.found
  rw [absent] at found
  cases found

theorem step_undivided (s : Session) (call : LeaseCall)
    (held : s.registry.Undivided s.clock ∧ s.Sound) (seemly : s.Seemly call) :
    (s.step call).registry.Undivided (s.step call).clock ∧ (s.step call).Sound := by
  obtain ⟨undivided, sound⟩ := held
  refine ⟨?_, sound.step call⟩
  obtain ⟨forward, unrivalled⟩ := seemly
  have now := undivided.wait forward
  cases call with
  | acquire q => exact Registry.acquire_undivided now (unrivalled q rfl)
  | renew t nowMs ttlMs => exact Registry.renew_undivided now t ttlMs
  | revoke t nowMs note => exact Registry.revoke_undivided now t note

theorem undivided_fresh : Registry.initial.Undivided Int64.minValue where
  orderly := sound_fresh.orderly
  spent key record found := by
    rw [Registry.initial, lookup_empty] at found
    cases found
  ruled key record found := by
    rw [Registry.initial, lookup_empty] at found
    cases found

end Session

/-- Along every run of seemly calls, two tokens of one site that validate at the
same instant are the same holder's and the same incarnation's. -/
theorem seemly_run_has_one_ruler (calls : List LeaseCall)
    (seemly : Guarded Session.step Session.Seemly {} calls) (t t' : AuthorityToken)
    (issued : t ∈ (Session.after calls).issued) (issued' : t' ∈ (Session.after calls).issued)
    (site : t.site = t'.site) (instant : Int64) (late : (Session.after calls).clock ≤ instant)
    (valid : (Session.after calls).registry.validate t instant = .ok)
    (valid' : (Session.after calls).registry.validate t' instant = .ok) :
    t.holder = t'.holder ∧ t.incarnation = t'.incarnation := by
  obtain ⟨undivided, sound⟩ : (Session.after calls).registry.Undivided (Session.after calls).clock ∧
      (Session.after calls).Sound :=
    run_invariant (fun s : Session => s.registry.Undivided s.clock ∧ s.Sound)
      (fun s call => s.step_undivided call) calls
      ⟨Session.undivided_fresh, Session.sound_fresh⟩ seemly
  have now := undivided.wait late
  obtain ⟨legal, record, found, force, there, incarnation⟩ :=
    Registry.inForce_of_validate now.orderly (sound.backed t issued) now.spent valid
  obtain ⟨legal', record', found', force', there', incarnation'⟩ :=
    Registry.inForce_of_validate now.orderly (sound.backed t' issued') now.spent valid'
  have rules := now.ruled t.key record found force
  have rules' := now.ruled t'.key record' found' force'
  rw [there, site, ← there', rules'] at rules
  have keys : t'.key = t.key := Option.some.inj rules
  rw [keys, found] at found'
  cases found'
  exact ⟨(leaseKey_inj legal' legal keys).2.2.symm, incarnation.symm.trans incarnation'⟩

/-- The site is taken while its first holder is away, and that holder returns:
its own lease is all the registry looks at. -/
theorem returning_holder_splits_the_site :
    let away := AcquireRequest.sample "a" 1 1 100
    let taken := AcquireRequest.sample "b" 1 2 200
    let back := AcquireRequest.sample "a" 1 1 201
    let s := Session.after [.acquire away, .acquire taken, .acquire back]
    taken.token 2 ∈ s.issued ∧ back.token 1 ∈ s.issued ∧ s.clock ≤ 205 ∧
      s.registry.validate (taken.token 2) 205 = .ok ∧
      s.registry.validate (back.token 1) 205 = .ok ∧
      (taken.token 2).site = (back.token 1).site ∧
      (taken.token 2).holder ≠ (back.token 1).holder := by
  decide +kernel

/-- A takeover after the first holder's lease ran out is a seemly run. -/
theorem takeover_has_one_ruler :
    let s := Session.after [.acquire (.sample "a" 1 1 100), .acquire (.sample "b" 1 2 200)]
    ∀ t ∈ s.issued, t.site = ⟨ascii "s"⟩ → s.registry.validate t 205 = .ok →
      t.holder = ascii "b" := by
  intro s t issued site valid
  have seemly : Guarded Session.step Session.Seemly {}
      [.acquire (.sample "a" 1 1 100), .acquire (.sample "b" 1 2 200)] := by
    refine ⟨Session.seemly_newcomer ?_ ?_, Session.seemly_newcomer ?_ ?_, trivial⟩ <;>
      decide +kernel
  exact (seemly_run_has_one_ruler _ seemly t ((AcquireRequest.sample "b" 1 2 200).token 2) issued
    (by decide +kernel) site 205 (by decide +kernel) valid (by decide +kernel)).1

end SiteFabric.Authority
