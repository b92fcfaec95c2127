import SiteFabric.Authority.Leases

/-! Fences only tighten.
Along any run the epoch of a site rises, a lease keeps its place and its id
while its incarnation and its generation rise, and a revoked lease stays
revoked. A token the registry has fenced once is therefore fenced for good. -/

namespace SiteFabric.Authority

open Std (ExtTreeMap ExtTreeSet)
open Lib

namespace AuthorityToken

/-- One lease, seen no later in its life than `later`. -/
structure Precedes (t later : AuthorityToken) : Prop where
  kind : t.kind = later.kind
  holder : t.holder = later.holder
  site : t.site = later.site
  leaseId : t.leaseId = later.leaseId
  epoch : t.epoch ≤ later.epoch
  incarnation : t.incarnation = later.incarnation ∨
    t.incarnation.sequence < later.incarnation.sequence
  generation : t.generation ≤ later.generation

theorem Precedes.refl (t : AuthorityToken) : t.Precedes t :=
  ⟨rfl, rfl, rfl, rfl, le_rfl, .inl rfl, le_rfl⟩

theorem Precedes.trans {a b c : AuthorityToken} (first : a.Precedes b) (second : b.Precedes c) :
    a.Precedes c where
  kind := first.kind.trans second.kind
  holder := first.holder.trans second.holder
  site := first.site.trans second.site
  leaseId := first.leaseId.trans second.leaseId
  epoch := first.epoch.trans second.epoch
  generation := first.generation.trans second.generation
  incarnation := by
    rcases first.incarnation with same | less
    · rw [same]
      exact second.incarnation
    · rcases second.incarnation with same | further
      · rw [← same]
        exact .inr less
      · exact .inr (UInt64.lt_trans less further)

def key (t : AuthorityToken) : Text := leaseKey t.site t.kind t.holder

theorem Precedes.key_eq {t later : AuthorityToken} (precedes : t.Precedes later) :
    t.key = later.key := by
  rw [key, key, precedes.kind, precedes.holder, precedes.site]

end AuthorityToken

namespace LeaseRecord

/-- What a call may do to a lease it finds. -/
structure Advances (record later : LeaseRecord) : Prop where
  token : record.token.Precedes later.token
  absorbing : record.state = .revoked → later.state = .revoked

theorem Advances.refl (record : LeaseRecord) : record.Advances record := ⟨.refl _, id⟩

theorem Advances.trans {a b c : LeaseRecord} (first : a.Advances b) (second : b.Advances c) :
    a.Advances c :=
  ⟨first.token.trans second.token, second.absorbing ∘ first.absorbing⟩

end LeaseRecord

namespace Registry

/-- A registry and one it can turn into. -/
structure Evolves (r later : Registry) : Prop where
  epochs : ∀ (site : SiteId) (known : Epoch), r.siteEpochs[site]? = some known →
    ∃ risen : Epoch, later.siteEpochs[site]? = some risen ∧ known ≤ risen
  leases : ∀ (key : Text) (record : LeaseRecord), r.leases[key]? = some record →
    ∃ advanced : LeaseRecord, later.leases[key]? = some advanced ∧ record.Advances advanced

theorem Evolves.refl (r : Registry) : r.Evolves r :=
  ⟨fun _ known found => ⟨known, found, le_rfl⟩, fun _ record found => ⟨record, found, .refl _⟩⟩

theorem Evolves.trans {a b c : Registry} (first : a.Evolves b) (second : b.Evolves c) :
    a.Evolves c where
  epochs := by
    intro site known found
    obtain ⟨middle, there, rise⟩ := first.epochs site known found
    obtain ⟨last, finally_, further⟩ := second.epochs site middle there
    exact ⟨last, finally_, rise.trans further⟩
  leases := by
    intro key record found
    obtain ⟨middle, there, advance⟩ := first.leases key record found
    obtain ⟨last, finally_, further⟩ := second.leases key middle there
    exact ⟨last, finally_, advance.trans further⟩

/-- A lease under the key its own token spells, for a legal site whose recorded
epoch its term has not passed. -/
structure Filed (r : Registry) (key : Text) (record : LeaseRecord) : Prop where
  key : record.token.key = key
  kind : record.token.kind = .siteController
  site : record.token.site.valid = true
  epoch : ∃ known : Epoch, r.siteEpochs[record.token.site]? = some known ∧
    record.token.epoch ≤ known

def Orderly (r : Registry) : Prop :=
  ∀ (key : Text) (record : LeaseRecord), r.leases[key]? = some record → r.Filed key record

theorem Filed.of_token {r : Registry} {key : Text} {record : LeaseRecord}
    (filed : r.Filed key record) (written : LeaseRecord) (same : written.token = record.token) :
    r.Filed key written :=
  ⟨same ▸ filed.key, same ▸ filed.kind, same ▸ filed.site, same ▸ filed.epoch⟩

/-- Writing one lease: in place of one it advances, or where there was none. -/
theorem Evolves.write {r later : Registry} {key : Text} {written : LeaseRecord}
    (leases : later.leases = r.leases.insert key written)
    (epochs : later.siteEpochs = r.siteEpochs)
    (advances : ∀ record, r.leases[key]? = some record → record.Advances written) :
    r.Evolves later where
  epochs site known recorded := ⟨known, by rw [epochs, recorded], le_rfl⟩
  leases := by
    intro k other present
    by_cases same : key = k
    · refine ⟨written, by rw [leases, lookup_insert, if_pos same], advances other ?_⟩
      rw [same, present]
    · exact ⟨other, by rw [leases, lookup_insert, if_neg same, present], .refl _⟩

theorem Orderly.write {r later : Registry} (orderly : r.Orderly) {key : Text}
    {written : LeaseRecord} (leases : later.leases = r.leases.insert key written)
    (epochs : later.siteEpochs = r.siteEpochs) (filed : r.Filed key written) : later.Orderly := by
  have carry : ∀ k record, r.Filed k record → later.Filed k record := by
    intro k record filed
    exact ⟨filed.key, filed.kind, filed.site, by rw [epochs]; exact filed.epoch⟩
  intro k record found
  rw [leases, lookup_insert] at found
  split at found
  · next same =>
    cases found
    rw [← same]
    exact carry key written filed
  · exact carry k record (orderly k record found)

theorem observeEpoch_evolves (r : Registry) (q : AcquireRequest) : r.Evolves (r.observeEpoch q) where
  epochs := by
    intro site known found
    have rise := r.currentEpoch_le_observeEpoch q site
    cases later : (r.observeEpoch q).siteEpochs[site]? with
    | none =>
      unfold observeEpoch at later
      split at later
      · rw [lookup_insert] at later
        split at later
        · cases later
        · rw [found] at later
          cases later
      · rw [found] at later
        cases later
    | some risen =>
      simp only [currentEpoch, found, later, Option.getD_some] at rise
      exact ⟨risen, rfl, rise⟩
  leases key record found := ⟨record, by rw [observeEpoch_leases, found], .refl _⟩

theorem Orderly.observeEpoch {r : Registry} (orderly : r.Orderly) (q : AcquireRequest) :
    (r.observeEpoch q).Orderly := by
  intro key record found
  rw [observeEpoch_leases] at found
  have filed := orderly key record found
  obtain ⟨known, recorded, within⟩ := filed.epoch
  obtain ⟨risen, there, rise⟩ := (r.observeEpoch_evolves q).epochs _ known recorded
  exact ⟨filed.key, filed.kind, filed.site, risen, there, within.trans rise⟩

/-- The lease under a request's key is one for the request's own site. -/
theorem Filed.site_eq {r : Registry} {q : AcquireRequest} {record : LeaseRecord}
    (filed : r.Filed q.key record) (good : q.malformed = false) : record.token.site = q.site := by
  exact (leaseKey_inj filed.site (q.site_valid good) filed.key).1

/-- The lease as a returning holder gets it back. -/
theorem Filed.regrant {r : Registry} {q : AcquireRequest} {record renewed : LeaseRecord}
    (filed : r.Filed q.key record) (good : q.malformed = false)
    (fresh : r.currentEpoch q.site ≤ q.epoch)
    (successor : record.token.incarnation = q.incarnation ∨ Lapsed record q)
    (generation : record.token.generation ≤ q.generation)
    (token : renewed.token =
      { record.token with
        epoch := q.epoch, incarnation := q.incarnation, generation := q.generation
        issuedAtMs := q.nowMs, expiresAtMs := q.nowMs + q.ttlMs }) :
    record.token.Precedes renewed.token ∧ (r.observeEpoch q).Filed q.key renewed := by
  obtain ⟨known, recorded, within⟩ := filed.epoch
  have site := filed.site_eq good
  have risen : record.token.epoch ≤ q.epoch := by
    refine within.trans (le_trans (le_of_eq ?_) fresh)
    rw [currentEpoch, ← site, recorded, Option.getD_some]
  have precedes : record.token.Precedes renewed.token := by
    rw [token]
    exact ⟨rfl, rfl, rfl, rfl, risen, successor.imp_right (·.older), generation⟩
  refine ⟨precedes, precedes.key_eq ▸ filed.key, precedes.kind ▸ filed.kind,
    precedes.site ▸ filed.site, q.epoch, ?_, by rw [token]⟩
  rw [← precedes.site, site]
  exact r.observeEpoch_siteEpochs (q.epoch_isSet good) fresh

/-- The lease of a newcomer. -/
theorem filed_grantNew {r : Registry} {q : AcquireRequest} (good : q.malformed = false)
    (recorded : r.siteEpochs[q.site]? = some q.epoch) (record : LeaseRecord) (leaseId : UInt64)
    (token : record.token = q.token leaseId) : r.Filed q.key record := by
  refine ⟨?_, ?_, ?_, q.epoch, ?_, ?_⟩ <;> rw [token]
  · rfl
  · rfl
  · exact q.site_valid good
  · exact recorded
  · exact le_rfl

theorem Vacated.leases_absent {r vacated : Registry} {q : AcquireRequest}
    (vacates : Vacated r q vacated) (absent : r.leases[q.key]? = none) :
    vacated.leases[q.key]? = none := by
  cases vacates with
  | free => exact absent
  | displaced current other _ found =>
    have apart : current ≠ q.key := by
      intro same
      rw [same, absent] at found
      cases found
    rw [supersede, lookup_insert, if_neg apart, absent]

theorem Vacated.siteEpochs_eq {r vacated : Registry} {q : AcquireRequest}
    (vacates : Vacated r q vacated) : vacated.siteEpochs = r.siteEpochs := by
  cases vacates with
  | free => rfl
  | displaced => rfl

theorem Vacated.evolves {r vacated : Registry} {q : AcquireRequest}
    (vacates : Vacated r q vacated) (orderly : r.Orderly) :
    r.Evolves vacated ∧ vacated.Orderly := by
  cases vacates with
  | free => exact ⟨.refl r, orderly⟩
  | displaced current other _ found _ unrevoked =>
    refine ⟨.write rfl rfl ?_, orderly.write rfl rfl ?_⟩
    · intro record present
      rw [found] at present
      cases present
      exact ⟨.refl _, fun revoked => absurd revoked unrevoked⟩
    · exact (orderly current other found).of_token _ rfl

/-- The lease a token was cut from is still on file, no earlier than the token. -/
def Backed (r : Registry) (t : AuthorityToken) : Prop :=
  ∃ record, r.leases[t.key]? = some record ∧ t.Precedes record.token

theorem Backed.evolve {r later : Registry} {t : AuthorityToken} (backed : r.Backed t)
    (evolves : r.Evolves later) : later.Backed t := by
  obtain ⟨record, found, precedes⟩ := backed
  obtain ⟨advanced, there, advances⟩ := evolves.leases _ record found
  exact ⟨advanced, there, precedes.trans advances.token⟩

/-- What every call leaves behind: a registry that has evolved and is orderly,
and a backed token if it handed one out. -/
structure Settled (r : Registry) (reply : Reply) : Prop where
  evolves : r.Evolves reply.registry
  orderly : reply.registry.Orderly
  backed : ∀ t ∈ reply.token, reply.registry.Backed t

/-- Every token handed out so far is still backed, the one of the call included. -/
theorem Settled.backed_all {r : Registry} {reply : Reply} (settled : r.Settled reply)
    {issued : List AuthorityToken} (backed : ∀ t ∈ issued, r.Backed t) :
    ∀ t ∈ reply.token.toList ++ issued, reply.registry.Backed t := by
  intro t listed
  rcases List.mem_append.mp listed with cut | before
  · exact settled.backed t (Option.mem_toList.mp cut)
  · exact (backed t before).evolve settled.evolves

theorem settled_refused {r : Registry} (orderly : r.Orderly) (status : Status) :
    r.Settled ⟨r, status, none⟩ :=
  ⟨.refl r, orderly, fun _ none => nomatch none⟩

/-- Rewriting the lease found under a key settles the registry, whether or not
the token written is handed out. -/
theorem settled_write {r : Registry} {reply : Reply} (orderly : r.Orderly) {key : Text}
    {record written : LeaseRecord} (found : r.leases[key]? = some record)
    (leases : reply.registry.leases = r.leases.insert key written)
    (epochs : reply.registry.siteEpochs = r.siteEpochs) (advances : record.Advances written)
    (filed : r.Filed key written) (cut : ∀ t ∈ reply.token, t = written.token) :
    r.Settled reply where
  evolves := .write leases epochs fun other present => by
    rw [found] at present
    cases present
    exact advances
  orderly := orderly.write leases epochs filed
  backed := by
    intro t issued
    rw [cut t issued]
    exact ⟨written, by rw [filed.key, leases, lookup_insert, if_pos rfl], .refl _⟩

theorem Settled.after_observeEpoch {r : Registry} {q : AcquireRequest} {reply : Reply}
    (settled : (r.observeEpoch q).Settled reply) : r.Settled reply :=
  ⟨(r.observeEpoch_evolves q).trans settled.evolves, settled.orderly, settled.backed⟩

theorem acquire_settled {r : Registry} (orderly : r.Orderly) (q : AcquireRequest) :
    r.Settled (r.acquireSiteAuthority q) := by
  have observed := orderly.observeEpoch q
  have step := r.acquire_step q
  generalize r.acquireSiteAuthority q = reply at step ⊢
  cases step with
  | malformed => exact settled_refused orderly _
  | stale => exact settled_refused orderly _
  | refused => exact (settled_refused observed _).after_observeEpoch
  | marked record _ _ found lapsed =>
    rw [← observeEpoch_leases r q] at found
    have filed := (observed q.key record found).of_token (supersedeInPlace record q.nowMs) rfl
    have advances : record.Advances (supersedeInPlace record q.nowMs) :=
      ⟨.refl _, fun revoked => absurd revoked lapsed.unrevoked⟩
    refine .after_observeEpoch (settled_write observed found ?_ rfl advances filed ?_)
    · rw [observeEpoch_leases]
    · exact fun _ none => nomatch none
  | elected vacated good fresh absent vacates =>
    rw [← observeEpoch_leases r q] at absent
    obtain ⟨evolves, settled⟩ := vacates.evolves observed
    have missing := vacates.leases_absent absent
    have recorded : vacated.siteEpochs[q.site]? = some q.epoch := by
      rw [vacates.siteEpochs_eq]
      exact r.observeEpoch_siteEpochs (q.epoch_isSet good) fresh
    have filed : vacated.Filed q.key
        { token := q.token vacated.nextLeaseId, state := .active, updatedAtMs := q.nowMs } :=
      filed_grantNew good recorded _ _ rfl
    refine Settled.after_observeEpoch ⟨evolves.trans (.write rfl rfl ?_),
      settled.write rfl rfl filed, ?_⟩
    · intro record present
      rw [missing] at present
      cases present
    · intro t issued
      rw [grantNew, Option.mem_some_iff] at issued
      rw [← issued]
      refine ⟨{ token := q.token vacated.nextLeaseId, state := .active, updatedAtMs := q.nowMs },
        ?_, .refl _⟩
      rw [filed.key, grantNew, lookup_insert, if_pos rfl]
  | regranted record renewed good fresh found unrevoked successor generation _ token =>
    obtain ⟨precedes, filed⟩ :=
      (orderly q.key record found).regrant good fresh successor generation token
    rw [← observeEpoch_leases r q] at found
    refine .after_observeEpoch (settled_write observed found ?_ rfl
      ⟨precedes, fun revoked => absurd revoked unrevoked⟩ filed ?_)
    · rw [observeEpoch_leases]
    · exact fun _ issued => (Option.mem_some_iff.mp issued).symm

theorem renew_settled {r : Registry} (orderly : r.Orderly) (t : AuthorityToken)
    (nowMs ttlMs : Int64) : r.Settled (r.renew t nowMs ttlMs) := by
  have step := r.renew_step t nowMs ttlMs
  generalize r.renew t nowMs ttlMs = reply at step ⊢
  cases step with
  | refused => exact settled_refused orderly _
  | lapsed record late found unrevoked _ _ token =>
    have filed := (orderly _ record found).of_token late token
    refine settled_write orderly found rfl rfl ⟨?_, fun revoked => absurd revoked unrevoked⟩
      filed (fun _ none => nomatch none)
    rw [token]
    exact .refl _
  | extended record renewed found _ _ _ _ unrevoked _ _ token =>
    have filed := orderly _ record found
    refine settled_write orderly found rfl rfl ⟨?_, fun revoked => absurd revoked unrevoked⟩
      ?_ (fun _ issued => (Option.mem_some_iff.mp issued).symm)
    · rw [token]
      exact ⟨rfl, rfl, rfl, rfl, le_rfl, .inl rfl, le_rfl⟩
    · refine ⟨?_, ?_, ?_, ?_⟩ <;> rw [token]
      · exact filed.key
      · exact filed.kind
      · exact filed.site
      · exact filed.epoch

theorem revoke_settled {r : Registry} (orderly : r.Orderly) (t : AuthorityToken) (nowMs : Int64)
    (note : Text) : r.Settled (r.revoke t nowMs note) := by
  have step := r.revoke_step t nowMs note
  generalize r.revoke t nowMs note = reply at step ⊢
  cases step with
  | refused => exact settled_refused orderly _
  | revoked record dead found _ state token =>
    have filed := (orderly _ record found).of_token dead token
    refine settled_write orderly found rfl rfl ⟨?_, fun _ => state⟩
      filed (fun _ none => nomatch none)
    rw [token]
    exact .refl _

end Registry

theorem LeaseCall.settled (call : LeaseCall) {r : Registry} (orderly : r.Orderly) :
    r.Settled (call.reply r) := by
  cases call with
  | acquire q => exact Registry.acquire_settled orderly q
  | renew t nowMs ttlMs => exact Registry.renew_settled orderly t nowMs ttlMs
  | revoke t nowMs note => exact Registry.revoke_settled orderly t nowMs note

namespace Session

/-- Leases are filed in order and every token handed out is backed by one. -/
structure Sound (s : Session) : Prop where
  orderly : s.registry.Orderly
  backed : ∀ t ∈ s.issued, s.registry.Backed t

theorem Sound.step {s : Session} (sound : s.Sound) (call : LeaseCall) : (s.step call).Sound where
  orderly := (call.settled sound.orderly).orderly
  backed := (call.settled sound.orderly).backed_all sound.backed

theorem sound_fresh : ({} : Session).Sound where
  orderly key record found := by
    rw [Registry.initial, lookup_empty] at found
    cases found
  backed _ issued := absurd issued List.not_mem_nil

theorem sound_after (calls : List LeaseCall) : (after calls).Sound :=
  run_stable Sound (fun _ call sound => sound.step call) calls sound_fresh

/-- A registry only climbs along a run. -/
theorem Sound.run_evolves {s : Session} (sound : s.Sound) (calls : List LeaseCall) :
    s.registry.Evolves (run Session.step s calls).registry :=
  run_climbs (fun s later : Session => s.registry.Evolves later.registry)
    (fun s => .refl s.registry) (fun _ _ _ => .trans)
    (fun _ call sound => ⟨(call.settled sound.orderly).evolves, sound.step call⟩) sound calls

end Session

namespace Registry

/-- The registry has moved past a token for good. -/
inductive Fenced (r : Registry) (t : AuthorityToken) : Prop
  | epoch (known : Epoch) (recorded : r.siteEpochs[t.site]? = some known) (behind : t.epoch < known)
  | lease (record : LeaseRecord) (found : r.leases[t.key]? = some record)
      (passed : t.incarnation.sequence < record.token.incarnation.sequence ∨
        t.generation < record.token.generation ∨ record.state = .revoked)

theorem Fenced.evolve {r later : Registry} {t : AuthorityToken} (fenced : r.Fenced t)
    (evolves : r.Evolves later) : later.Fenced t := by
  cases fenced with
  | epoch known recorded behind =>
    obtain ⟨risen, there, rise⟩ := evolves.epochs _ known recorded
    exact .epoch risen there (lt_of_lt_of_le behind rise)
  | lease record found passed =>
    obtain ⟨advanced, there, advances⟩ := evolves.leases _ record found
    refine .lease advanced there ?_
    rcases passed with older | behind | revoked
    · left
      rcases advances.token.incarnation with same | further
      · rw [← same]
        exact older
      · exact UInt64.lt_trans older further
    · exact .inr (.inl (lt_of_lt_of_le behind advances.token.generation))
    · exact .inr (.inr (advances.absorbing revoked))

/-- The answers by which `validate` reports a fence. -/
def fences : List Status := [.fencedEpoch, .fencedIncarnation, .fencedGeneration, .leaseRevoked]

theorem evaluateAt_notMem_fences (t : AuthorityToken) (nowMs : Int64) :
    t.evaluateAt nowMs ∉ fences := by
  unfold AuthorityToken.evaluateAt
  split_ifs <;> decide

/-- A fence reported for a backed token is a fence of the registry's state. -/
theorem fenced_of_validate {r : Registry} {t : AuthorityToken} (backed : r.Backed t) {nowMs : Int64}
    (reported : r.validate t nowMs ∈ fences) : r.Fenced t := by
  obtain ⟨record, found, precedes⟩ := backed
  have found' : r.leases[leaseKey t.site t.kind t.holder]? = some record := found
  unfold validate at reported
  split at reported
  · exact absurd reported (by decide)
  · split at reported
    · exact absurd reported (by decide)
    · next known recorded =>
      simp only [found'] at reported
      split_ifs at reported with behind ahead lease incarnation generation revoked superseded
      · exact .epoch known recorded behind
      · exact absurd reported (by decide)
      · exact absurd reported (by decide)
      · exact .lease record found
          (.inl (precedes.incarnation.resolve_left fun same => incarnation same.symm))
      · exact .lease record found (.inr (.inl generation))
      · exact .lease record found (.inr (.inr revoked))
      · exact absurd reported (by decide)
      · exact absurd reported (evaluateAt_notMem_fences _ _)

theorem Fenced.validate_ne_ok {r : Registry} {t : AuthorityToken} (fenced : r.Fenced t)
    (nowMs : Int64) : r.validate t nowMs ≠ .ok := by
  intro accepted
  unfold validate at accepted
  split at accepted
  · cases accepted
  · split at accepted
    · cases accepted
    · next known recorded =>
      split_ifs at accepted with behind ahead
      split at accepted
      · cases accepted
      · next record found =>
        split_ifs at accepted with lease incarnation generation revoked superseded
        cases fenced with
        | epoch other there past =>
          rw [recorded] at there
          cases there
          exact behind past
        | lease other there passed =>
          rw [AuthorityToken.key, found] at there
          cases there
          rw [not_not] at incarnation
          rcases passed with older | newer | dead
          · rw [incarnation] at older
            exact UInt64.lt_irrefl _ older
          · exact generation newer
          · exact revoked dead

theorem Fenced.renew_ne_renewed {r : Registry} {t : AuthorityToken} (fenced : r.Fenced t)
    (nowMs ttlMs : Int64) : (r.renew t nowMs ttlMs).status ≠ .renewed := by
  have step := r.renew_step t nowMs ttlMs
  generalize r.renew t nowMs ttlMs = reply at step ⊢
  cases step with
  | refused status no => exact no
  | lapsed => exact fun same => nomatch same
  | extended record renewed found abreast _ incarnation generation unrevoked =>
    intro _
    cases fenced with
    | epoch known recorded behind => exact absurd (abreast known recorded) (not_le.mpr behind)
    | lease other there passed =>
      rw [AuthorityToken.key, found] at there
      cases there
      rcases passed with older | newer | dead
      · rw [incarnation] at older
        exact UInt64.lt_irrefl _ older
      · rw [generation] at newer
        exact lt_irrefl _ newer
      · exact unrevoked dead

end Registry

/-- Once `validate` has reported a fence for a token the registry handed out,
no later call by anyone makes it valid or renewable again. -/
theorem fenced_token_stays_fenced (before later : List LeaseCall) (t : AuthorityToken)
    (issued : t ∈ (Session.after before).issued) (nowMs : Int64)
    (reported : (Session.after before).registry.validate t nowMs ∈ Registry.fences) :
    (∀ instant, (Session.after (before ++ later)).registry.validate t instant ≠ .ok) ∧
      ∀ instant ttlMs,
        ((Session.after (before ++ later)).registry.renew t instant ttlMs).status ≠ .renewed := by
  have fenced := Registry.fenced_of_validate ((Session.sound_after before).backed t issued) reported
  have stays : (Session.after (before ++ later)).registry.Fenced t := by
    rw [Session.after, run_append]
    exact fenced.evolve ((Session.sound_after before).run_evolves later)
  exact ⟨stays.validate_ne_ok, stays.renew_ne_renewed⟩

/-- A holder that returned in a later term cannot use its token of the first. -/
theorem first_term_token_stays_fenced :
    let first := AcquireRequest.sample "a" 1 1 100
    let second := AcquireRequest.sample "a" 2 1 105
    (Session.after [.acquire first, .acquire second]).registry.validate (first.token 1) 106 =
        .fencedEpoch ∧
      ∀ later instant,
        (Session.after ([.acquire first, .acquire second] ++ later)).registry.validate
          (first.token 1) instant ≠ .ok := by
  refine ⟨by decide +kernel, fun later => ?_⟩
  exact (fenced_token_stays_fenced [.acquire (.sample "a" 1 1 100), .acquire (.sample "a" 2 1 105)]
    later _ (by decide +kernel) 106 (by decide +kernel)).1

end SiteFabric.Authority
