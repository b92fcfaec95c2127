import SiteFabric.Authority.Leases

/-! Member incarnations: admitted, retired, displaced, and dead for good.
The registry is seen here through two functions, the state it believes of a
domain and the incarnations it holds dead in it; each entry point has one lemma
that says what it does to both. -/

namespace SiteFabric.Authority

open Std (ExtTreeMap ExtTreeSet)
open Lib

namespace Registry

variable (r : Registry) (domain other : MemberDomainKey)

theorem domainState_insert (state : DomainState) :
    { r with domains := r.domains.insert domain state }.domainState other =
      if domain = other then state else r.domainState other := by
  simp only [domainState, lookup_insert]
  split <;> rfl

/-- Creating a domain's entry leaves no trace in the states. -/
@[simp] theorem domainState_touch :
    { r with domains := r.domains.insert domain (r.domainState domain) }.domainState other =
      r.domainState other := by
  rw [domainState_insert]
  split
  · next same => rw [same]
  · rfl

theorem tombstoned_bury (dead incarnation : Incarnation) :
    (r.bury domain dead).tombstoned other incarnation =
      (r.tombstoned other incarnation || decide (domain = other ∧ dead = incarnation)) := by
  simp only [tombstoned, bury, lookup_insert]
  by_cases same : domain = other
  · subst same
    have text : (dead.toText = incarnation.toText) = (dead = incarnation) := by
      rw [Incarnation.toText_injective.eq_iff]
    cases r.tombstones[domain]? with
    | none => simp [contains_insert_iff, text, -ExtTreeSet.contains_insert]
    | some graves => simp [contains_insert_iff, text, Bool.or_comm, -ExtTreeSet.contains_insert]
  · simp [same]

theorem tombstoned_of_eq {r later : Registry} (same : later.tombstones = r.tombstones)
    {domain : MemberDomainKey} {incarnation : Incarnation} :
    later.tombstoned domain incarnation = r.tombstoned domain incarnation := by
  rw [tombstoned, same, tombstoned]

theorem memberIncarnationLive_iff (incarnation : Incarnation) :
    r.memberIncarnationLive domain incarnation = true ↔
      r.tombstoned domain incarnation = false ∧ (r.domainState domain).hasLive = true ∧
        (r.domainState domain).live = incarnation := by
  unfold memberIncarnationLive domainState
  cases r.domains[domain]? with
  | none => simp
  | some state => simp

/-- Every exit of an admission, by its effect on states and tombstones. -/
inductive AdmitStep (incarnation : Incarnation) (nowMs : Int64) :
    Registry × Status × Option UInt64 → Prop
  | refused (later : Registry) (status : Status) (sequence : Option UInt64) (no : status ≠ .ok)
      (states : ∀ other, later.domainState other = r.domainState other)
      (tombstones : later.tombstones = r.tombstones) :
      AdmitStep incarnation nowMs (later, status, sequence)
  | admitted (later : Registry) (sequence : UInt64) (legal : domain.valid = true)
      (boot : incarnation.boot.valid = true)
      (alive : r.tombstoned domain (r.candidate domain incarnation) = false)
      (apart : (r.domainState domain).hasLive = true →
        (r.domainState domain).live ≠ r.candidate domain incarnation)
      (states : ∀ other, later.domainState other =
        if domain = other then (r.domainState domain).goLive (r.candidate domain incarnation) nowMs
        else r.domainState other)
      (tombstones : ∀ other dead, later.tombstoned other dead =
        (r.tombstoned other dead ||
          decide ((r.domainState domain).hasLive = true ∧ domain = other ∧
            (r.domainState domain).live = dead))) :
      AdmitStep incarnation nowMs (later, .ok, some sequence)

theorem admit_step (incarnation : Incarnation) (nowMs : Int64) :
    AdmitStep r domain incarnation nowMs (r.admitMemberIncarnation domain incarnation nowMs) := by
  unfold admitMemberIncarnation
  split
  · exact .refused _ _ _ (by decide) (fun _ => rfl) rfl
  · next good =>
    simp only [Bool.or_eq_true, Bool.not_eq_true', decide_eq_true_eq, not_or,
      Bool.not_eq_false] at good
    obtain ⟨⟨legal, boot⟩, _⟩ := good
    dsimp only
    split_ifs with dead vacant behind same lower equal
    · exact .refused _ _ _ (by decide) (r.domainState_touch domain) rfl
    · exact .refused _ _ _ (by decide) (r.domainState_touch domain) rfl
    · rw [Bool.not_eq_true'] at vacant
      refine .admitted _ _ legal boot (Bool.not_eq_true _ ▸ dead) ?_ ?_ ?_
      · intro live
        rw [vacant] at live
        cases live
      · intro other
        simp only [insert_insert, domainState_insert]
      · intro other grave
        simp only [vacant, Bool.false_eq_true, false_and, decide_false, Bool.or_false]
        rfl
    · exact .refused _ _ _ (by decide) (r.domainState_touch domain) rfl
    · exact .refused _ _ _ (by decide) (r.domainState_touch domain) rfl
    · exact .refused _ _ _ (by decide) (r.domainState_touch domain) rfl
    · rw [Bool.not_eq_true', Bool.not_eq_false] at vacant
      refine .admitted _ _ legal boot (Bool.not_eq_true _ ▸ dead) (fun _ => same) ?_ ?_
      · intro other
        simp only [insert_insert]
        exact r.domainState_insert domain other _
      · intro other grave
        rw [tombstoned_bury]
        simp only [vacant, true_and]
        rfl

/-- The sequence an admission answers with is the candidate's, and a candidate
that is there already is the live one. -/
structure Assigned (incarnation : Incarnation) (reply : Registry × Status × Option UInt64) :
    Prop where
  admitted : reply.2.1 = .ok → reply.2.2 = some (r.candidate domain incarnation).sequence
  known : reply.2.1 ≠ .ok → reply.2.1.isOk = true →
    reply.2.2 = some (r.candidate domain incarnation).sequence ∧
      r.memberIncarnationLive domain (r.candidate domain incarnation) = true
  legal : reply.2.1.isOk = true → domain.valid = true ∧ incarnation.boot.valid = true

theorem admit_assigned (incarnation : Incarnation) (nowMs : Int64) :
    Assigned r domain incarnation (r.admitMemberIncarnation domain incarnation nowMs) := by
  unfold admitMemberIncarnation
  split
  · exact ⟨nofun, fun _ => nofun, nofun⟩
  next good =>
  have legal : domain.valid = true ∧ incarnation.boot.valid = true := by
    simp only [Bool.or_eq_true, Bool.not_eq_true', not_or, Bool.not_eq_false] at good
    exact good.1
  dsimp only
  split_ifs with dead vacant behind same lower equal
  · exact ⟨nofun, fun _ => nofun, nofun⟩
  · exact ⟨nofun, fun _ => nofun, nofun⟩
  · exact ⟨fun _ => rfl, fun no => absurd rfl no, fun _ => legal⟩
  · have alive : r.tombstoned domain (r.candidate domain incarnation) = false :=
      Bool.not_eq_true _ ▸ dead
    exact ⟨nofun, fun _ _ => ⟨rfl, (r.memberIncarnationLive_iff domain _).mpr
      ⟨alive, by simpa using vacant, same⟩⟩, fun _ => legal⟩
  · exact ⟨nofun, fun _ => nofun, nofun⟩
  · exact ⟨nofun, fun _ => nofun, nofun⟩
  · exact ⟨fun _ => rfl, fun no => absurd rfl no, fun _ => legal⟩

/-- A candidate differs from what was presented in its sequence only. -/
theorem candidate_named (incarnation : Incarnation) :
    r.candidate domain incarnation =
      { incarnation with sequence := (r.candidate domain incarnation).sequence } := by
  unfold candidate
  split <;> rfl

/-- Every exit of a retirement. -/
inductive RetireStep (incarnation : Incarnation) : Registry × Status → Prop
  | refused : RetireStep incarnation (r, .invalid)
  | retired (later : Registry) (legal : domain.valid = true) (valid : incarnation.valid = true)
      (states : ∀ other, (later.domainState other).hasLive = true →
        later.domainState other = r.domainState other ∧
          (domain = other → (r.domainState other).live ≠ incarnation))
      (tombstones : later.tombstones = (r.bury domain incarnation).tombstones) :
      RetireStep incarnation (later, .ok)

theorem retire_step (incarnation : Incarnation) (nowMs : Int64) :
    RetireStep r domain incarnation (r.retireMemberIncarnation domain incarnation nowMs) := by
  unfold retireMemberIncarnation
  split
  · exact .refused
  · next good =>
    simp only [Bool.or_eq_true, Bool.not_eq_true', not_or, Bool.not_eq_false] at good
    have found : (r.bury domain incarnation).domains[domain]? = r.domains[domain]? := rfl
    dsimp only
    rw [found]
    split
    · next missing =>
      refine .retired _ good.1 good.2 (fun other live => ⟨rfl, fun same => ?_⟩) rfl
      subst same
      have alive : (r.domainState domain).hasLive = true := live
      simp [domainState, missing] at alive
    · next state there =>
      have known : r.domainState domain = state := by rw [domainState, there, Option.getD_some]
      split
      · refine .retired _ good.1 good.2 (fun other => ?_) rfl
        rw [domainState_insert]
        split
        · exact fun live => nomatch live
        · next apart => exact fun _ => ⟨rfl, fun same => absurd same apart⟩
      · next apart =>
        refine .retired _ good.1 good.2 (fun other live => ⟨rfl, fun same clash => ?_⟩) rfl
        subst same
        have alive : (r.domainState domain).hasLive = true := live
        rw [known] at alive clash
        exact apart ⟨alive, clash⟩

/-- A retirement in one domain leaves every other alone. -/
theorem retire_elsewhere (incarnation : Incarnation) (nowMs : Int64) (apart : domain ≠ other) :
    let later := (r.retireMemberIncarnation domain incarnation nowMs).1
    later.domainState other = r.domainState other ∧
      ∀ dead, later.tombstoned other dead = r.tombstoned other dead := by
  have graves : ∀ dead, (r.bury domain incarnation).tombstoned other dead =
      r.tombstoned other dead := fun dead => by
    rw [tombstoned_bury, decide_eq_false fun both => apart both.1, Bool.or_false]
  unfold retireMemberIncarnation
  dsimp only
  split
  · exact ⟨rfl, fun _ => rfl⟩
  split
  · exact ⟨rfl, graves⟩
  split
  · exact ⟨(domainState_insert _ domain other _).trans (if_neg apart), graves⟩
  · exact ⟨rfl, graves⟩

/-- A retirement that is not refused leaves the incarnation dead. -/
theorem retire_buries {incarnation : Incarnation} (legal : domain.valid = true)
    (valid : incarnation.valid = true) (nowMs : Int64) :
    (r.retireMemberIncarnation domain incarnation nowMs).1.tombstoned domain incarnation = true := by
  have grave : (r.bury domain incarnation).tombstoned domain incarnation = true := by
    rw [tombstoned_bury, decide_eq_true ⟨rfl, rfl⟩, Bool.or_true]
  unfold retireMemberIncarnation
  rw [if_neg (by simp [legal, valid])]
  dsimp only
  split
  · exact grave
  split
  · exact grave
  · exact grave

/-- A retirement of another incarnation changes nothing for the one that lives. -/
theorem retire_spares {incarnation : Incarnation} {dead : Incarnation}
    (live : r.memberIncarnationLive domain incarnation = true) (apart : dead ≠ incarnation)
    (nowMs : Int64) :
    (r.retireMemberIncarnation domain dead nowMs).1.memberIncarnationLive domain incarnation =
      true := by
  obtain ⟨alive, was, same⟩ := (r.memberIncarnationLive_iff domain incarnation).mp live
  have spared : (r.bury domain dead).memberIncarnationLive domain incarnation = true := by
    refine (memberIncarnationLive_iff _ domain incarnation).mpr ⟨?_, was, same⟩
    rw [tombstoned_bury, alive, Bool.false_or]
    exact decide_eq_false fun both => apart both.2
  unfold retireMemberIncarnation
  dsimp only
  split
  · exact live
  split
  · exact spared
  next state found =>
  have known : r.domainState domain = state := by
    have there : r.domains[domain]? = some state := found
    rw [domainState, there, Option.getD_some]
  split
  · next both => exact absurd (both.2.symm.trans (known ▸ same)) apart
  · exact spared

/-- Nobody comes to life by a retirement. -/
theorem live_of_retire {incarnation dead : Incarnation} {nowMs : Int64}
    (live : (r.retireMemberIncarnation domain dead nowMs).1.memberIncarnationLive other incarnation =
      true) : r.memberIncarnationLive other incarnation = true := by
  have step := r.retire_step domain dead nowMs
  generalize r.retireMemberIncarnation domain dead nowMs = reply at step live
  cases step with
  | refused => exact live
  | retired later _ _ states tombstones =>
    obtain ⟨alive, is, same⟩ := (memberIncarnationLive_iff _ other incarnation).mp live
    have state := (states other is).1
    refine (r.memberIncarnationLive_iff other incarnation).mpr ⟨?_, state ▸ is, state ▸ same⟩
    have graves := r.tombstoned_bury domain other dead incarnation
    rw [← tombstoned_of_eq tombstones, alive] at graves
    exact (Bool.or_eq_false_iff.mp graves.symm).1

/-- Liveness is a matter of a domain's state and of its dead. -/
theorem memberIncarnationLive_congr {r later : Registry} {domain : MemberDomainKey}
    (state : later.domainState domain = r.domainState domain) {incarnation : Incarnation}
    (graves : later.tombstoned domain incarnation = r.tombstoned domain incarnation) :
    later.memberIncarnationLive domain incarnation = r.memberIncarnationLive domain incarnation := by
  rw [Bool.eq_iff_iff, memberIncarnationLive_iff, memberIncarnationLive_iff, state, graves]

/-- After a retirement whoever was live is live, or dead for good. -/
theorem retire_lives {incarnation : Incarnation} (legal : other.valid = true)
    (valid : incarnation.valid = true) (live : r.memberIncarnationLive other incarnation = true)
    (dead : Incarnation) (nowMs : Int64) :
    let later := (r.retireMemberIncarnation domain dead nowMs).1
    later.memberIncarnationLive other incarnation = true ∨
      later.tombstoned other incarnation = true := by
  by_cases here : domain = other
  · subst here
    by_cases same : dead = incarnation
    · subst same
      exact .inr (r.retire_buries domain legal valid nowMs)
    · exact .inl (r.retire_spares domain live same nowMs)
  · obtain ⟨state, graves⟩ := r.retire_elsewhere domain other dead nowMs here
    exact .inl ((memberIncarnationLive_congr state (graves incarnation)).trans live)

/-- What admissions and fences read of a registry. -/
structure Alike (r later : Registry) : Prop where
  states : ∀ domain, later.domainState domain = r.domainState domain
  tombstones : later.tombstones = r.tombstones

theorem Alike.tombstoned {r later : Registry} (alike : Alike r later) (domain : MemberDomainKey)
    (incarnation : Incarnation) :
    later.tombstoned domain incarnation = r.tombstoned domain incarnation :=
  tombstoned_of_eq alike.tombstones

theorem Alike.insert {r later : Registry} (alike : Alike r later) (domain : MemberDomainKey)
    (state : DomainState) :
    Alike { r with domains := r.domains.insert domain state }
      { later with domains := later.domains.insert domain state } where
  states other := by rw [domainState_insert, domainState_insert, alike.states]
  tombstones := alike.tombstones

theorem Alike.bury {r later : Registry} (alike : Alike r later) (domain : MemberDomainKey)
    (dead : Incarnation) : Alike (r.bury domain dead) (later.bury domain dead) where
  states := alike.states
  tombstones := by rw [Registry.bury, alike.tombstones, Registry.bury]

theorem Alike.admission {r later : Registry} (alike : Alike r later) (domain : MemberDomainKey)
    (incarnation : Incarnation) (nowMs : Int64) :
    (later.admitMemberIncarnation domain incarnation nowMs).2 =
        (r.admitMemberIncarnation domain incarnation nowMs).2 ∧
      Alike (r.admitMemberIncarnation domain incarnation nowMs).1
        (later.admitMemberIncarnation domain incarnation nowMs).1 := by
  have chosen : later.candidate domain incarnation = r.candidate domain incarnation := by
    rw [candidate, alike.states, candidate]
  have touched := alike.insert domain (r.domainState domain)
  have live := alike.insert domain
    ((r.domainState domain).goLive (r.candidate domain incarnation) nowMs)
  have graves := touched.tombstoned domain (r.candidate domain incarnation)
  unfold admitMemberIncarnation
  simp only [chosen, alike.states, graves, insert_insert]
  split
  · exact ⟨rfl, alike⟩
  split
  · exact ⟨rfl, touched⟩
  split
  · split
    · exact ⟨rfl, touched⟩
    · exact ⟨rfl, live⟩
  split
  · exact ⟨rfl, touched⟩
  split
  · exact ⟨rfl, touched⟩
  split
  · exact ⟨rfl, touched⟩
  · exact ⟨rfl, live.bury domain _⟩

/-- The fence is a matter of the domain's state and of its dead. -/
theorem Alike.fencePublication {r later : Registry} (alike : Alike r later) (o : Offer) :
    later.fencePublication o = r.fencePublication o := by
  have reads : ∀ r : Registry, r.fencePublication o =
      if !o.domain.valid || !o.generation.isSet || o.digest.isZero || !o.attempt.valid then .invalid
      else if r.tombstoned o.domain o.incarnation then .fencedIncarnation
      else
        let state := r.domainState o.domain
        if !state.hasLive then .unauthorized
        else if state.live ≠ o.incarnation then .fencedIncarnation
        else if state.observedEpoch.isSet ∧ o.epoch < state.observedEpoch then .fencedEpoch
        else if state.published then fencePublished state o
        else .ok := fun r => by
    unfold Registry.fencePublication domainState
    cases r.domains[o.domain]? <;> rfl
  rw [reads, reads, alike.tombstoned, alike.states]

theorem Alike.recordPublication {r later : Registry} (alike : Alike r later) (o : Offer)
    (nowMs : Int64) :
    Alike (r.recordPublication o nowMs).1 (later.recordPublication o nowMs).1 := by
  unfold Registry.recordPublication
  rw [alike.states]
  split
  · exact alike
  · exact alike.insert o.domain _

@[simp] theorem observeEpoch_members (q : AcquireRequest) :
    (r.observeEpoch q).domains = r.domains ∧ (r.observeEpoch q).tombstones = r.tombstones := by
  unfold observeEpoch
  split <;> exact ⟨rfl, rfl⟩

theorem Vacated.members {r vacated : Registry} {q : AcquireRequest}
    (vacates : Vacated r q vacated) :
    vacated.domains = r.domains ∧ vacated.tombstones = r.tombstones := by
  cases vacates with
  | free => exact ⟨rfl, rfl⟩
  | displaced => exact ⟨rfl, rfl⟩

end Registry

/-- Elections never touch members. -/
theorem LeaseCall.members (call : LeaseCall) (r : Registry) :
    (call.reply r).registry.domains = r.domains ∧
      (call.reply r).registry.tombstones = r.tombstones := by
  cases call with
  | acquire q =>
    have step := r.acquire_step q
    have observed := r.observeEpoch_members q
    simp only [reply]
    generalize r.acquireSiteAuthority q = reply at step ⊢
    cases step with
    | malformed => exact ⟨rfl, rfl⟩
    | stale => exact ⟨rfl, rfl⟩
    | refused => exact observed
    | marked => exact observed
    | elected vacated _ _ _ vacates =>
      have kept := vacates.members
      exact ⟨kept.1.trans observed.1, kept.2.trans observed.2⟩
    | regranted => exact observed
  | renew t nowMs ttlMs =>
    have step := r.renew_step t nowMs ttlMs
    simp only [reply]
    generalize r.renew t nowMs ttlMs = reply at step ⊢
    cases step with
    | refused => exact ⟨rfl, rfl⟩
    | lapsed => exact ⟨rfl, rfl⟩
    | extended => exact ⟨rfl, rfl⟩
  | revoke t nowMs note =>
    have step := r.revoke_step t nowMs note
    simp only [reply]
    generalize r.revoke t nowMs note = reply at step ⊢
    cases step with
    | refused => exact ⟨rfl, rfl⟩
    | revoked => exact ⟨rfl, rfl⟩

/-- The entry points that can change the registry. -/
inductive Call where
  | lease (call : LeaseCall)
  | admitMember (domain : MemberDomainKey) (incarnation : Incarnation) (nowMs : Int64)
  | retireMember (domain : MemberDomainKey) (incarnation : Incarnation) (nowMs : Int64)
  | recordPublication (offer : Registry.Offer) (nowMs : Int64)
  | clearDomain (domain : MemberDomainKey)

namespace Registry

def call (r : Registry) : Call → Registry
  | .lease call => (call.reply r).registry
  | .admitMember domain incarnation nowMs => (r.admitMemberIncarnation domain incarnation nowMs).1
  | .retireMember domain incarnation nowMs => (r.retireMemberIncarnation domain incarnation nowMs).1
  | .recordPublication offer nowMs => (r.recordPublication offer nowMs).1
  | .clearDomain domain => r.clearDomain domain

/-- The registry after any sequence of calls on a fresh one. -/
def after (calls : List Call) : Registry := run call initial calls

theorem fencePublished_isOk {state : DomainState} {o : Offer}
    (passed : (fencePublished state o).isOk = true) : fencePublished state o = .ok := by
  unfold fencePublished at passed ⊢
  split_ifs at passed ⊢ <;> first | rfl | cases passed

theorem fencePublication_isOk {r : Registry} {o : Offer}
    (passed : (r.fencePublication o).isOk = true) : r.fencePublication o = .ok := by
  unfold fencePublication at passed ⊢
  split at passed
  · cases passed
  next legal =>
  rw [if_neg legal]
  split at passed
  · cases passed
  next alive =>
  rw [if_neg alive]
  cases found : r.domains[o.domain]? with
  | none =>
    rw [found] at passed
    cases passed
  | some state =>
    simp only [found] at passed ⊢
    split_ifs at passed ⊢ with vacant other epoch published
    · cases passed
    · cases passed
    · cases passed
    · exact fencePublished_isOk passed
    · rfl

/-- What the fence asks of the one who publishes. -/
theorem fencePublication_live {r : Registry} {o : Offer} (passed : r.fencePublication o = .ok) :
    r.tombstoned o.domain o.incarnation = false ∧ (r.domainState o.domain).hasLive = true ∧
      (r.domainState o.domain).live = o.incarnation := by
  unfold fencePublication at passed
  split at passed
  · cases passed
  split at passed
  · cases passed
  next alive =>
  split at passed
  · cases passed
  next state found =>
  have known : r.domainState o.domain = state := by rw [domainState, found, Option.getD_some]
  rw [known]
  split at passed
  · cases passed
  next live =>
  split at passed
  · cases passed
  next same =>
  exact ⟨by simpa using alive, by simpa using live, not_not.mp same⟩

theorem recordPublication_states (r : Registry) (offer : Offer) (nowMs : Int64)
    (other : MemberDomainKey) :
    ((r.recordPublication offer nowMs).1.domainState other).hasLive =
        (r.domainState other).hasLive ∧
      ((r.recordPublication offer nowMs).1.domainState other).live = (r.domainState other).live ∧
      (r.recordPublication offer nowMs).1.tombstones = r.tombstones := by
  unfold recordPublication
  split
  · exact ⟨rfl, rfl, rfl⟩
  · simp only [domainState_insert, and_true]
    split
    · next same =>
      subst same
      exact ⟨rfl, rfl⟩
    · exact ⟨rfl, rfl⟩

theorem clearDomain_state (r : Registry) (domain other : MemberDomainKey) :
    (r.clearDomain domain).domainState other =
      if domain = other then {} else r.domainState other := by
  simp only [clearDomain, domainState, lookup_erase]
  split <;> rfl

/-- The dead stay dead: no entry point takes a tombstone away. -/
theorem tombstoned_call {r : Registry} {domain : MemberDomainKey} {dead : Incarnation}
    (buried : r.tombstoned domain dead = true) (c : Call) :
    (r.call c).tombstoned domain dead = true := by
  cases c with
  | lease call => simpa only [Registry.call, tombstoned, (call.members r).2] using buried
  | admitMember other incarnation nowMs =>
    have step := r.admit_step other incarnation nowMs
    simp only [Registry.call]
    generalize r.admitMemberIncarnation other incarnation nowMs = reply at step ⊢
    cases step with
    | refused later _ _ _ _ tombstones => simpa only [tombstoned, tombstones] using buried
    | admitted later _ _ _ _ _ _ tombstones => rw [tombstones, buried, Bool.true_or]
  | retireMember other incarnation nowMs =>
    have step := r.retire_step other incarnation nowMs
    simp only [Registry.call]
    generalize r.retireMemberIncarnation other incarnation nowMs = reply at step ⊢
    cases step with
    | refused => exact buried
    | retired later _ _ _ tombstones =>
      have grave := r.tombstoned_bury other domain incarnation dead
      rw [buried, Bool.true_or] at grave
      simpa only [tombstoned, tombstones] using grave
  | recordPublication offer nowMs =>
    simpa only [Registry.call, tombstoned, (r.recordPublication_states offer nowMs domain).2.2]
      using buried
  | clearDomain other => exact buried

/-- Whoever is live in a domain is not among its dead, and is named by a
sequence that was issued. -/
structure Mortal (r : Registry) (domain : MemberDomainKey) : Prop where
  alive : r.tombstoned domain (r.domainState domain).live = false
  issued : (r.domainState domain).live.sequence ≠ 0
  legal : domain.valid = true
  boot : (r.domainState domain).live.boot.valid = true

/-- No admission takes the sequence zero, which stands for none. -/
def Sequenced (r : Registry) : Call → Prop
  | .admitMember domain incarnation _ => (r.candidate domain incarnation).sequence ≠ 0
  | _ => True

instance (r : Registry) : DecidablePred r.Sequenced
  | .admitMember domain incarnation _ =>
    inferInstanceAs (Decidable ((r.candidate domain incarnation).sequence ≠ 0))
  | .lease _ | .retireMember .. | .recordPublication .. | .clearDomain _ =>
    inferInstanceAs (Decidable True)

theorem candidate_boot (r : Registry) (domain : MemberDomainKey) (incarnation : Incarnation) :
    (r.candidate domain incarnation).boot = incarnation.boot := by
  unfold candidate
  split <;> rfl

theorem mortal_call (r : Registry) (c : Call)
    (mortal : ∀ domain, (r.domainState domain).hasLive = true → r.Mortal domain)
    (sequenced : r.Sequenced c) (domain : MemberDomainKey)
    (live : ((r.call c).domainState domain).hasLive = true) : (r.call c).Mortal domain := by
  -- A state that kept its incarnation stays mortal unless that one was buried.
  have keep : ∀ later : Registry, (r.domainState domain).hasLive = true →
      (later.domainState domain).live = (r.domainState domain).live →
      later.tombstoned domain (r.domainState domain).live =
        r.tombstoned domain (r.domainState domain).live → later.Mortal domain := by
    intro later was same graves
    obtain ⟨alive, issued, legal, boot⟩ := mortal domain was
    refine ⟨?_, ?_, legal, ?_⟩ <;> rw [same]
    · exact graves.trans alive
    · exact issued
    · exact boot
  cases c with
  | lease call =>
    obtain ⟨domains, tombstones⟩ := call.members r
    simp only [Registry.call, domainState, domains] at live
    exact keep _ live (by simp only [Registry.call, domainState, domains])
      (by simp only [Registry.call, tombstoned, tombstones])
  | admitMember other incarnation nowMs =>
    have step := r.admit_step other incarnation nowMs
    simp only [Registry.call] at live ⊢
    generalize r.admitMemberIncarnation other incarnation nowMs = reply at step live ⊢
    cases step with
    | refused later _ _ _ states tombstones =>
      rw [states] at live
      exact keep _ live (by rw [states]) (by simp only [tombstoned, tombstones])
    | admitted later _ legal boot alive apart states tombstones =>
      by_cases same : other = domain
      · subst same
        refine ⟨?_, ?_, legal, ?_⟩ <;> simp only [states, if_pos, DomainState.goLive]
        · rw [tombstones, alive, Bool.false_or, decide_eq_false_iff_not]
          exact fun clash => apart clash.1 clash.2.2
        · exact sequenced
        · rw [candidate_boot]
          exact boot
      · simp only [states, if_neg same] at live
        refine keep _ live (by rw [states, if_neg same]) ?_
        rw [tombstones]
        simp [same]
  | retireMember other incarnation nowMs =>
    have step := r.retire_step other incarnation nowMs
    simp only [Registry.call] at live ⊢
    generalize r.retireMemberIncarnation other incarnation nowMs = reply at step live ⊢
    cases step with
    | refused => exact mortal domain live
    | retired later _ _ states tombstones =>
      obtain ⟨same, spared⟩ := states domain live
      rw [same] at live
      refine keep _ live (by rw [same]) ?_
      have grave := r.tombstoned_bury other domain incarnation (r.domainState domain).live
      have apart : ¬(other = domain ∧ incarnation = (r.domainState domain).live) :=
        fun both => spared both.1 both.2.symm
      rw [decide_eq_false apart, Bool.or_false] at grave
      simpa only [tombstoned, tombstones] using grave
  | recordPublication offer nowMs =>
    obtain ⟨hasLive, same, tombstones⟩ := r.recordPublication_states offer nowMs domain
    simp only [Registry.call, hasLive] at live
    exact keep _ live same (by simp only [Registry.call, tombstoned, tombstones])
  | clearDomain other =>
    simp only [Registry.call, clearDomain_state] at live
    split at live
    · cases live
    · next apart =>
      exact keep _ live (by simp only [Registry.call, clearDomain_state, if_neg apart]) rfl

theorem mortal_after (calls : List Call) (sequenced : Guarded call Sequenced initial calls) :
    ∀ domain, ((after calls).domainState domain).hasLive = true → (after calls).Mortal domain := by
  refine run_invariant (fun r : Registry =>
      ∀ domain, (r.domainState domain).hasLive = true → r.Mortal domain)
    mortal_call calls ?_ sequenced
  intro domain live
  simp only [initial, domainState, lookup_empty, Option.getD_none] at live
  cases live

/-- The calls by which an incarnation of a domain dies. -/
inductive Dies (r : Registry) (domain : MemberDomainKey) : Incarnation → Call → Prop
  | retired (incarnation : Incarnation) (nowMs : Int64)
      (accepted : (r.retireMemberIncarnation domain incarnation nowMs).2 = .ok) :
      Dies r domain incarnation (.retireMember domain incarnation nowMs)
  | displaced (incarnation next : Incarnation) (nowMs : Int64)
      (live : r.memberIncarnationLive domain incarnation = true)
      (accepted : (r.admitMemberIncarnation domain next nowMs).2.1 = .ok) :
      Dies r domain incarnation (.admitMember domain next nowMs)

/-- Death leaves a tombstone, under a name an admission can present again. -/
theorem Dies.buried {r : Registry} {domain : MemberDomainKey} {incarnation : Incarnation} {c : Call}
    (dies : Dies r domain incarnation c)
    (mortal : ∀ domain, (r.domainState domain).hasLive = true → r.Mortal domain) :
    (r.call c).tombstoned domain incarnation = true ∧ incarnation.sequence ≠ 0 ∧
      domain.valid = true ∧ incarnation.boot.valid = true := by
  cases dies with
  | retired nowMs accepted =>
    have step := r.retire_step domain incarnation nowMs
    simp only [Registry.call]
    generalize r.retireMemberIncarnation domain incarnation nowMs = reply at step accepted ⊢
    cases step with
    | refused => cases accepted
    | retired later legal valid _ tombstones =>
      simp only [Incarnation.valid, Bool.and_eq_true, bne_iff_ne] at valid
      refine ⟨?_, valid.1, legal, valid.2⟩
      have grave := r.tombstoned_bury domain domain incarnation incarnation
      simp only [and_self, decide_true, Bool.or_true] at grave
      simpa only [tombstoned, tombstones] using grave
  | displaced next nowMs live accepted =>
    obtain ⟨_, was, same⟩ := (r.memberIncarnationLive_iff domain incarnation).mp live
    obtain ⟨_, issued, legal, boot⟩ := mortal domain was
    rw [same] at issued boot
    refine ⟨?_, issued, legal, boot⟩
    have step := r.admit_step domain next nowMs
    simp only [Registry.call]
    generalize r.admitMemberIncarnation domain next nowMs = reply at step accepted ⊢
    cases step with
    | refused later status _ no => exact absurd accepted no
    | admitted later _ _ _ _ _ _ tombstones =>
      rw [tombstones, was, same]
      simp

theorem fence_of_tombstoned {r : Registry} {o : Offer}
    (buried : r.tombstoned o.domain o.incarnation = true) : r.fencePublication o ≠ .ok := by
  unfold fencePublication
  rw [if_pos buried]
  split <;> decide

theorem admit_of_tombstoned {r : Registry} {domain : MemberDomainKey} {incarnation : Incarnation}
    (buried : r.tombstoned domain incarnation = true) (issued : incarnation.sequence ≠ 0)
    (legal : domain.valid = true) (boot : incarnation.boot.valid = true) (nowMs : Int64) :
    (r.admitMemberIncarnation domain incarnation nowMs).2.1 =
      if nowMs ≤ 0 then .invalid else .fencedIncarnation := by
  have named : r.candidate domain incarnation = incarnation := by rw [candidate, if_neg issued]
  have grave : { r with domains := r.domains.insert domain (r.domainState domain) }.tombstoned
      domain incarnation = true := buried
  unfold admitMemberIncarnation
  simp only [named, legal, boot, grave, Bool.not_true, Bool.false_or, if_true, decide_eq_true_eq]
  split <;> rfl

end Registry

/-- Along every run in which no admission takes the sequence zero, an incarnation
once retired or displaced is never live, never passes the publication fence and
is refused at every later admission; and no live incarnation is among the dead. -/
theorem dead_incarnation_stays_dead (before later : List Call) (c : Call)
    (domain : MemberDomainKey) (incarnation : Incarnation)
    (sequenced : Guarded Registry.call Registry.Sequenced Registry.initial (before ++ c :: later))
    (dies : (Registry.after before).Dies domain incarnation c) :
    let r := Registry.after (before ++ c :: later)
    r.memberIncarnationLive domain incarnation = false ∧
      (∀ o : Registry.Offer, o.domain = domain → o.incarnation = incarnation →
        r.fencePublication o ≠ .ok) ∧
      (∀ nowMs, (r.admitMemberIncarnation domain incarnation nowMs).2.1 =
        if nowMs ≤ 0 then .invalid else .fencedIncarnation) ∧
      ∀ other living, r.memberIncarnationLive other living = true →
        r.tombstoned other living = false := by
  have split : Registry.after (before ++ c :: later) =
      run Registry.call ((Registry.after before).call c) later := by
    rw [Registry.after, run_append, run_cons]
    rfl
  have first : Guarded Registry.call Registry.Sequenced Registry.initial before :=
    sequenced.append_left
  obtain ⟨grave, issued, legal, boot⟩ := dies.buried (Registry.mortal_after before first)
  have buried : (Registry.after (before ++ c :: later)).tombstoned domain incarnation = true := by
    rw [split]
    exact run_stable (fun r : Registry => r.tombstoned domain incarnation = true)
      (fun _ c buried => Registry.tombstoned_call buried c) later grave
  refine ⟨?_, ?_, Registry.admit_of_tombstoned buried issued legal boot, ?_⟩
  · rw [Registry.memberIncarnationLive, buried, Bool.not_true, Bool.false_and]
  · rintro o rfl rfl
    exact Registry.fence_of_tombstoned buried
  · intro other living live
    exact ((Registry.memberIncarnationLive_iff _ _ _).mp live).1

/-- The next sequence wraps to zero behind the last one, so a process is issued
zero; once displaced it presents zero again and is taken for a process that
has none. -/
theorem wrapped_incarnation_is_admitted_again :
    let domain : MemberDomainKey := ⟨.rack, ascii "r"⟩
    let last : Incarnation := ⟨18446744073709551615, ⟨ascii "a"⟩⟩
    let wrapped : Incarnation := ⟨0, ⟨ascii "b"⟩⟩
    let displacing : Call := .admitMember domain ⟨5, ⟨ascii "c"⟩⟩ 4
    let before : List Call :=
      [.admitMember domain last 1, .retireMember domain last 2, .admitMember domain wrapped 3]
    let r := Registry.after (before ++ [displacing])
    (Registry.after before).memberIncarnationLive domain wrapped = true ∧
      r.memberIncarnationLive domain wrapped = false ∧ r.tombstoned domain wrapped = true ∧
      (r.admitMemberIncarnation domain wrapped 5).2.1 = .ok := by
  decide +kernel

/-- A restarted process replaying its retired incarnation. -/
theorem retired_rack_is_refused :
    let domain : MemberDomainKey := ⟨.rack, ascii "r"⟩
    let first : Incarnation := ⟨1, ⟨ascii "a"⟩⟩
    let r := Registry.after [.admitMember domain first 1, .retireMember domain first 2]
    r.memberIncarnationLive domain first = false ∧
      (r.admitMemberIncarnation domain first 3).2.1 = .fencedIncarnation := by
  intro domain first r
  have sequenced : Guarded Registry.call Registry.Sequenced Registry.initial
      ([.admitMember domain first 1] ++ .retireMember domain first 2 :: []) :=
    ⟨by decide +kernel, trivial, trivial⟩
  have dead := dead_incarnation_stays_dead [.admitMember domain first 1] []
    (.retireMember domain first 2) domain first sequenced (.retired first 2 (by decide +kernel))
  exact ⟨dead.1, dead.2.2.1 3⟩

end SiteFabric.Authority
