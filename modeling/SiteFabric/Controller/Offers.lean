import SiteFabric.Controller.History
import SiteFabric.Controller.Interleaving

/-! Offers of sealed snapshots.
A recomposition seals the snapshot it has composed before it offers it, so the chain has
nothing to find in its digest: whether it takes the offer shows without the digest. -/

namespace SiteFabric

open Lib Authority Store

namespace SiteSnapshot

theorem recomputeDigest_verifies {s : SiteSnapshot} (ok : s.recomputeDigest.1.isOk = true) :
    s.recomputeDigest.2.Verifies := by
  unfold recomputeDigest at ok ⊢
  split at ok
  · cases ok
  · next same =>
    rw [if_neg same]
    exact ⟨rfl, rfl⟩

/-- The snapshot before its digests are computed. -/
def unsealed (s : SiteSnapshot) : SiteSnapshot := { s with siteDigest := Digest.zero }

end SiteSnapshot

namespace SnapshotChain

instance (chain : SnapshotChain) (s : SiteSnapshot) (token : AuthorityToken) (nowMs : Int64) :
    Decidable (chain.Takes s token nowMs) :=
  decidable_of_iff (checkOffer s token nowMs = none ∧ ∀ last ∈ chain.current, Outranks token last)
    ⟨fun both => ⟨both.1, fun last => both.2 last⟩, fun takes => ⟨takes.clear, takes.outranks⟩⟩

theorem checkOffer_unsealed {s : SiteSnapshot} (verifies : s.Verifies) (token : AuthorityToken)
    (nowMs : Int64) : checkOffer s.unsealed token nowMs = checkOffer s token nowMs := by
  have own : (!s.siteDigest.isZero && composedSiteDigest s.state != s.siteDigest) = false := by
    rw [← verifies.site, bne_self_eq_false, Bool.and_false]
  unfold checkOffer
  rw [own]
  rfl

theorem takes_unsealed {chain : SnapshotChain} {s : SiteSnapshot} (verifies : s.Verifies)
    (token : AuthorityToken) (nowMs : Int64) :
    chain.Takes s.unsealed token nowMs ↔ chain.Takes s token nowMs := by
  have same := checkOffer_unsealed verifies token nowMs
  exact ⟨fun takes => ⟨same ▸ takes.clear, takes.outranks⟩,
    fun takes => ⟨same.symm ▸ takes.clear, takes.outranks⟩⟩

end SnapshotChain

theorem SiteController.persist_chain (c : SiteController) (io : Answers) (content : Content) :
    (c.persist io content).2.chain = c.chain := by
  unfold persist
  split <;> rfl

/-- The snapshot a thread offers next carries its own digests. -/
def Thread.Sealed (t : Thread) : Prop :=
  match t.stage with
  | .leased _ snapshot => snapshot.Verifies
  | _ => True

namespace Shared

/-- An offer of a snapshot that carries its own digests. -/
def offerSealed (s : Shared) (t : Thread) (token : AuthorityToken) (snapshot : SiteSnapshot) :
    Shared × Thread :=
  let chain := s.controller.chain
  if chain.Takes snapshot.unsealed token t.io.recomposeMs then
    let snapshot' := SnapshotChain.stamp snapshot chain.nextSequence
    let s := s.holding { s.controller with chain := chain.push snapshot' }
    ({ s with answered := s.answered ++ [(t.input, snapshot')] },
      { t with stage := .published snapshot })
  else (s, { t with stage := .returned })

theorem offer_eq {s : Shared} (room : 0 < s.controller.chain.limit) (t : Thread)
    (token : AuthorityToken) {snapshot : SiteSnapshot} (verifies : snapshot.Verifies) :
    s.offer t token snapshot = s.offerSealed t token snapshot := by
  have takes := @SnapshotChain.takes_unsealed s.controller.chain snapshot verifies token
    t.io.recomposeMs
  unfold offer offerSealed
  dsimp only
  rcases s.controller.chain.publish_answer snapshot token t.io.recomposeMs with
    ⟨refused, same, failed⟩ | ⟨taken, -⟩
  · rw [if_pos (by rcases failed with bad | repeated <;> simp [*]), same,
      if_neg (takes.not.mpr refused)]
    rfl
  · rcases SnapshotChain.publish_exits room snapshot token t.io.recomposeMs with
      ⟨refused, -⟩ | ⟨-, same⟩
    · exact absurd taken refused
    · rw [if_pos (takes.mpr taken), same, SnapshotChain.current_push room]
      rfl

variable [StdSort]

/-- The next step of a call that offers nothing but what it has sealed. -/
def advanceSealed (s : Shared) (t : Thread) : Shared × Thread :=
  match t.stage with
  | .leased token snapshot =>
    if s.controller.crashed then (s, t) else s.offerSealed t token snapshot
  | _ => s.advance t

theorem advance_eq {s : Shared} (room : 0 < s.controller.chain.limit) {t : Thread}
    (sealed : t.Sealed) : s.advance t = s.advanceSealed t := by
  unfold advanceSealed
  split
  · next token snapshot before =>
    cases alive : s.controller.crashed with
    | true => rw [if_pos rfl, advance_crashed alive]
    | false =>
      rw [if_neg Bool.false_ne_true, advance_leased alive before]
      rw [Thread.Sealed, before] at sealed
      exact offer_eq room t token sealed
  · rfl

omit [StdSort] in
theorem lease_sealed (s : Shared) (t : Thread) (site : ComposedSite) :
    (s.lease t site).2.Sealed := by
  unfold lease
  dsimp only
  split
  · trivial
  split
  · trivial
  · next digested =>
    exact SiteSnapshot.recomputeDigest_verifies (by simpa using digested)

/-- A step leaves the configuration and the chain's limit alone. -/
theorem advance_settings (s : Shared) (t : Thread) :
    (s.advance t).1.controller.config = s.controller.config ∧
      (s.advance t).1.controller.chain.limit = s.controller.chain.limit := by
  cases alive : s.controller.crashed with
  | true =>
    rw [advance_crashed alive]
    exact ⟨rfl, rfl⟩
  | false =>
    cases before : t.stage with
    | offering =>
      rw [advance_offering alive before]
      split <;> exact ⟨rfl, rfl⟩
    | fenced =>
      rw [advance_fenced alive before]
      exact ⟨rfl, rfl⟩
    | entered =>
      rw [advance_entered alive before]
      exact ⟨rfl, rfl⟩
    | recorded record =>
      have same := s.controller.persist_retains t.io.record (.publication record)
      rw [advance_recorded alive before]
      exact ⟨same.config, congrArg SnapshotChain.limit (SiteController.persist_chain ..)⟩
    | composing =>
      rw [advance_composing alive before]
      exact ⟨rfl, rfl⟩
    | copied =>
      rw [advance_copied alive before]
      split
      · exact ⟨rfl, rfl⟩
      · exact ⟨rfl, rfl⟩
      · unfold lease
        dsimp only
        split
        · exact ⟨rfl, rfl⟩
        split <;> exact ⟨rfl, rfl⟩
    | leased token snapshot =>
      have limit := SnapshotChain.limit_call s.controller.chain
        (.publish snapshot token t.io.recomposeMs)
      rw [advance_leased alive before, offer]
      split <;> exact ⟨rfl, limit⟩
    | published =>
      rw [advance_published alive before]
      exact ⟨rfl, rfl⟩
    | counted =>
      rw [advance_counted alive before]
      exact ⟨rfl, rfl⟩
    | stamped snapshot =>
      have same := s.controller.persist_retains t.io.snapshot (.snapshot snapshot)
      rw [advance_stamped alive before]
      exact ⟨same.config, congrArg SnapshotChain.limit (SiteController.persist_chain ..)⟩
    | returned =>
      rw [advance_returned before]
      exact ⟨rfl, rfl⟩

/-- A step seals what it will offer. -/
theorem advance_sealed {s : Shared} {t : Thread} (sealed : t.Sealed) : (s.advance t).2.Sealed := by
  cases alive : s.controller.crashed with
  | true =>
    rw [advance_crashed alive]
    exact sealed
  | false =>
    cases before : t.stage with
    | offering =>
      rw [advance_offering alive before]
      split <;> trivial
    | fenced =>
      rw [advance_fenced alive before]
      trivial
    | entered =>
      rw [advance_entered alive before]
      trivial
    | recorded record =>
      rw [advance_recorded alive before]
      cases s.controller.config.composeOnPublish <;> trivial
    | composing =>
      rw [advance_composing alive before]
      trivial
    | copied =>
      rw [advance_copied alive before]
      split
      · exact sealed
      · trivial
      · exact lease_sealed s t _
    | leased =>
      rw [advance_leased alive before, offer]
      split <;> trivial
    | published =>
      rw [advance_published alive before]
      trivial
    | counted =>
      rw [advance_counted alive before]
      trivial
    | stamped snapshot =>
      rw [advance_stamped alive before]
      trivial
    | returned =>
      rw [advance_returned before]
      exact sealed

end Shared

/-- Every thread has sealed what it will offer. -/
structure SealedPool {ι : Type} (p : Pool ι Shared Thread) : Prop where
  room : 0 < p.shared.controller.chain.limit
  threads : ∀ i, (p.place i).Sealed

namespace SealedPool

variable {ι : Type} [DecidableEq ι] [StdSort] {p : Pool ι Shared Thread}

theorem turn (sealed : SealedPool p) (i : ι) : SealedPool (p.turn Shared.advance i) := by
  have thread := Shared.advance_sealed (s := p.shared) (sealed.threads i)
  obtain ⟨-, limit⟩ := p.shared.advance_settings (p.place i)
  rw [Pool.turn_eq_moved]
  refine ⟨?_, Pool.forall_moved (P := fun _ (t : Thread) => t.Sealed) thread fun j _ =>
    sealed.threads j⟩
  rw [Pool.moved_shared, limit]
  exact sealed.room

theorem turn_eq (sealed : SealedPool p) (i : ι) :
    p.turn Shared.advance i = p.turn Shared.advanceSealed i := by
  rw [Pool.turn_eq_moved, Pool.turn_eq_moved, Shared.advance_eq sealed.room (sealed.threads i)]

/-- Threads that seal what they offer run as if nothing but the rest of an offer were checked. -/
theorem run_eq (sealed : SealedPool p) (schedule : List ι) :
    run (Pool.turn Shared.advance) p schedule = run (Pool.turn Shared.advanceSealed) p schedule :=
  run_congr (fun _ i sealed => sealed.turn i) (fun _ i sealed => sealed.turn_eq i) sealed schedule

theorem guarded (sealed : SealedPool p) {guard : Pool ι Shared Thread → ι → Prop}
    {schedule : List ι} (guarded : Guarded (Pool.turn Shared.advanceSealed) guard p schedule) :
    Guarded (Pool.turn Shared.advance) guard p schedule :=
  guarded.congr (fun _ i sealed => sealed.turn i) (fun _ i sealed => sealed.turn_eq i) sealed

end SealedPool

end SiteFabric
