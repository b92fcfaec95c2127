import SiteFabric.Authority.Takeover

/-! Renewing and revoking with a fenced token.
`renew` makes the checks by which `validate` reports a fence and `revoke` makes none of
them: an in-place takeover keeps the lease id, and the id is all `revoke` compares. -/

namespace SiteFabric.Authority

open Lib

namespace Registry

/-- `validate` answers by the fence of the epoch, the incarnation or the generation. -/
def Fences (r : Registry) (t : AuthorityToken) (nowMs : Int64) : Prop :=
  r.validate t nowMs ∈ [.fencedEpoch, .fencedIncarnation, .fencedGeneration]

/-- A call is refused and every lease stays as it was. -/
def Spares (r : Registry) (reply : Reply) : Prop :=
  reply.status ≠ .ok ∧ reply.status ≠ .renewed ∧ reply.registry.leases = r.leases

/-- A token that is fenced at this instant can neither renew nor revoke. -/
def FencesHold (r : Registry) (t : AuthorityToken) (nowMs : Int64) : Prop :=
  r.Fences t nowMs →
    (∀ instant ttlMs, r.Spares (r.renew t instant ttlMs)) ∧
      ∀ instant note, r.Spares (r.revoke t instant note)

/-- A token of its site's epoch whose lease is still of its incarnation and has not
advanced past its generation. -/
def Abreast (r : Registry) (t : AuthorityToken) : Prop :=
  r.siteEpochs[t.site]? = some t.epoch ∧
    ∃ record, r.leases[t.key]? = some record ∧ record.token.incarnation = t.incarnation ∧
      record.token.generation ≤ t.generation

theorem spares_self (r : Registry) {status : Status} (no : status ≠ .ok)
    (still : status ≠ .renewed) : r.Spares ⟨r, status, none⟩ := ⟨no, still, rfl⟩

theorem evaluateAt_no_fence (t : AuthorityToken) (nowMs : Int64) :
    t.evaluateAt nowMs ∉ [.fencedEpoch, .fencedIncarnation, .fencedGeneration] := by
  intro listed
  refine evaluateAt_notMem_fences t nowMs ?_
  exact List.mem_of_mem_dropLast (show t.evaluateAt nowMs ∈ fences.dropLast from listed)

variable {r : Registry} {t : AuthorityToken}

/-- For a backed token the fences are the ways not to be abreast. -/
theorem fences_iff (orderly : r.Orderly) (backed : r.Backed t) (nowMs : Int64) :
    r.Fences t nowMs ↔ t.structurallyValid = true ∧ ¬ r.Abreast t := by
  obtain ⟨record, found, precedes⟩ := backed
  obtain ⟨known, recorded, within⟩ := (orderly _ record found).epoch
  rw [← precedes.site] at recorded
  have behind : t.epoch ≤ known := precedes.epoch.trans within
  have key : leaseKey t.site t.kind t.holder = t.key := rfl
  have abreast : r.Abreast t ↔ known = t.epoch ∧ record.token.incarnation = t.incarnation ∧
      record.token.generation ≤ t.generation := by
    simp [Abreast, recorded, found]
  rw [abreast, Fences, validate, recorded, key, found]
  dsimp only
  cases valid : t.structurallyValid with
  | false => simp
  | true =>
    rw [if_neg (by simp)]
    split_ifs with past ahead lease incarnation generation revoked superseded
    · simp [past.ne']
    · exact absurd ahead (not_lt.mpr behind)
    · exact absurd precedes.leaseId.symm lease
    · simp [incarnation]
    · simp [not_le.mpr generation]
    all_goals
      have same : known = t.epoch := le_antisymm (not_lt.mp past) behind
      have alike : record.token.incarnation = t.incarnation := not_not.mp incarnation
      simp only [same, alike, not_lt.mp generation, and_self, not_true, and_false, iff_false]
    · decide
    · decide
    · exact evaluateAt_no_fence record.token nowMs

/-- `renew` refuses a token that is not abreast. -/
theorem renew_spares (backed : r.Backed t) (past : ¬ r.Abreast t) (orderly : r.Orderly)
    (nowMs ttlMs : Int64) : r.Spares (r.renew t nowMs ttlMs) := by
  obtain ⟨record, found, precedes⟩ := backed
  obtain ⟨known, recorded, within⟩ := (orderly _ record found).epoch
  rw [← precedes.site] at recorded
  have key : leaseKey t.site t.kind t.holder = t.key := rfl
  rw [renew, recorded]
  dsimp only
  rw [key, found]
  dsimp only
  split_ifs with malformed behind lease incarnation generation
  · exact r.spares_self (by decide) (by decide)
  · exact r.spares_self (by decide) (by decide)
  · exact r.spares_self (by decide) (by decide)
  · exact r.spares_self (by decide) (by decide)
  · exact r.spares_self (by decide) (by decide)
  all_goals
    refine absurd ⟨?_, record, found, not_not.mp incarnation, (not_not.mp generation).le⟩ past
    have level : known ≤ t.epoch := by simpa using behind
    rw [recorded, le_antisymm level (precedes.epoch.trans within)]

/-- `revoke` accepts every token that is backed. -/
theorem revoke_backed (backed : r.Backed t) (valid : t.structurallyValid = true) (nowMs : Int64)
    (note : Text) : (r.revoke t nowMs note).status = .ok := by
  obtain ⟨record, found, precedes⟩ := backed
  have key : leaseKey t.site t.kind t.holder = t.key := rfl
  rw [revoke, valid]
  dsimp only
  rw [key, found, if_neg (by decide)]
  dsimp only
  rw [if_neg (by simp [precedes.leaseId])]

end Registry

/-- In every reachable registry a fenced token cannot renew, and the law that it can
neither renew nor revoke holds of an issued token exactly while it is abreast. -/
theorem fences_hold_iff (calls : List Call) (t : AuthorityToken)
    (issued : t ∈ (Office.after calls).issued) (nowMs : Int64) :
    ((Office.after calls).registry.Fences t nowMs → ∀ instant ttlMs,
        (Office.after calls).registry.Spares
          ((Office.after calls).registry.renew t instant ttlMs)) ∧
      ((Office.after calls).registry.FencesHold t nowMs ↔
        (t.structurallyValid = true → (Office.after calls).registry.Abreast t)) := by
  have sound := Office.sound_after calls
  have backed := sound.backed t issued
  have fenced := Registry.fences_iff sound.orderly backed nowMs
  constructor
  · intro reported
    exact Registry.renew_spares backed (fenced.mp reported).2 sound.orderly
  · constructor
    · intro hold valid
      by_contra past
      have spares := (hold (fenced.mpr ⟨valid, past⟩)).2 nowMs Text.empty
      exact spares.1 (Registry.revoke_backed backed valid nowMs Text.empty)
    · intro abreast reported
      obtain ⟨valid, past⟩ := fenced.mp reported
      exact absurd (abreast valid) past

/-- The process before a takeover in place cannot renew. -/
theorem replaced_token_holds_iff :
    let first := AcquireRequest.sample "a" 1 1 100
    let office := Office.after [.lease (.acquire first), .lease (.acquire (.sample "a" 1 2 200))]
    (office.registry.Fences (first.token 1) 201 → ∀ instant ttlMs,
        office.registry.Spares (office.registry.renew (first.token 1) instant ttlMs)) ∧
      (office.registry.FencesHold (first.token 1) 201 ↔
        ((first.token 1).structurallyValid = true → office.registry.Abreast (first.token 1))) :=
  fences_hold_iff [.lease (.acquire (.sample "a" 1 1 100)), .lease (.acquire (.sample "a" 1 2 200))]
    _ (by decide +kernel) 201

/-- It can revoke the lease of its successor. -/
theorem replaced_process_revokes_its_successor :
    ¬ ∀ (calls : List Call) (t : AuthorityToken), t ∈ (Office.after calls).issued →
      ∀ nowMs, (Office.after calls).registry.FencesHold t nowMs := by
  intro hold
  let calls : List Call :=
    [.lease (.acquire (.sample "a" 1 1 100)), .lease (.acquire (.sample "a" 1 2 200))]
  have reported : (Office.after calls).registry.validate
      ((AcquireRequest.sample "a" 1 1 100).token 1) 201 = .fencedIncarnation := by decide +kernel
  have revoked : ((Office.after calls).registry.revoke
      ((AcquireRequest.sample "a" 1 1 100).token 1) 201 Text.empty).status = .ok := by
    decide +kernel
  have fenced : (Office.after calls).registry.Fences
      ((AcquireRequest.sample "a" 1 1 100).token 1) 201 := by
    rw [Registry.Fences, reported]
    decide
  exact ((hold calls _ (by decide +kernel) 201 fenced).2 201 Text.empty).1 revoked

end SiteFabric.Authority
