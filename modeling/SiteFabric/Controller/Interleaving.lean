import SiteFabric.Controller.Process
import SiteFabric.Lib.Threads

/-! Calls of the controller as threads.
An entry point holds one lock at a time: the authority registry, the maps, the
chain and the store each have their own. Between two of its steps any other call
may take any number of its own. A call that is left alone does what the entry
point does. -/

namespace SiteFabric

open Lib Authority Store

namespace SiteController

/-- The map takes a record, and its domain is no longer only recovered. -/
def write (c : SiteController) (record : MemberPublicationRecord) : SiteController :=
  { c.reported record.domain with
    acceptanceSequence := record.acceptanceSequence
    publications := c.publications.insert record.domain record }

/-- The high-water marks take a record. -/
def mark (c : SiteController) (io : Moment) (record : MemberPublicationRecord) : SiteController :=
  { c with authority := (c.authority.recordPublication (offerOf record) io.nowMs).1 }

end SiteController

/-- Where a call stands between two of its steps. A publication starts at the
first, any other recomposition at `composing`. -/
inductive Stage where
  | offering (publisher : MemberId) (incarnation : Incarnation)
      (declaration : MemberDomainDeclaration) (attempt : PublishAttempt)
  | fenced (record : MemberPublicationRecord)
  | entered (record : MemberPublicationRecord)
  | recorded (record : MemberPublicationRecord)
  | composing
  | copied
  | leased (token : AuthorityToken) (snapshot : SiteSnapshot)
  | published (snapshot : SiteSnapshot)
  | counted (snapshot : SiteSnapshot)
  | stamped (snapshot : SiteSnapshot)
  | returned

/-- A call with what the clock and the file system answer it, the record it was
answered ACCEPTED for, and the inputs it copied. -/
structure Thread where
  io : Moment
  accepted : Option MemberPublicationRecord := none
  input : CompositionInput := {}
  stage : Stage

/-- The controller, with a history variable: every snapshot the chain answered
PUBLISHED for, behind what it was composed from. -/
structure Shared where
  controller : SiteController
  answered : List (CompositionInput × SiteSnapshot) := []

namespace Shared

/-- The shared state around a controller that has changed. -/
def holding (s : Shared) (c : SiteController) : Shared := { s with controller := c }

/-- Composition and the lease, which must carry the generation being published. -/
def lease (s : Shared) (t : Thread) (site : ComposedSite) : Shared × Thread :=
  let c := s.controller
  let acquired :=
    c.authority.acquireSiteAuthority (c.acquireRequest t.input.generation t.io.recomposeMs)
  let c := { c with authority := acquired.registry }
  if !acquired.status.isOk then (s.holding c, { t with stage := .returned })
  else
    let token := acquired.token.getD {}
    let digested := (SiteController.snapshotOf site t.io.recomposeMs).recomputeDigest
    if !digested.1.isOk then (s.holding { c with token }, { t with stage := .returned })
    else (s.holding { c with token }, { t with stage := .leased token digested.2 })

/-- The chain takes a snapshot or refuses it. -/
def offer (s : Shared) (t : Thread) (token : AuthorityToken) (snapshot : SiteSnapshot) :
    Shared × Thread :=
  let c := s.controller
  let published := c.chain.publish snapshot token t.io.recomposeMs
  let s := s.holding { c with chain := published.1 }
  if !published.2.status.isOk || published.2.status == .alreadyExists then
    (s, { t with stage := .returned })
  else
    ({ s with answered := s.answered ++ [(t.input, published.1.current.getD snapshot)] },
      { t with stage := .published snapshot })

variable [StdSort]

/-- The next step of a call; a process that has crashed takes none. -/
def advance (s : Shared) (t : Thread) : Shared × Thread :=
  let c := s.controller
  if c.crashed then (s, t)
  else match t.stage with
    | .offering publisher incarnation declaration attempt =>
      match c.judge t.io publisher incarnation declaration attempt with
      | .error _ => (s, { t with stage := .returned })
      | .ok record => (s, { t with stage := .fenced record })
    | .fenced record =>
      let record := { record with acceptanceSequence := c.acceptanceSequence + 1 }
      (s.holding (c.write record), { t with stage := .entered record })
    | .entered record => (s.holding (c.mark t.io record), { t with stage := .recorded record })
    | .recorded record =>
      (s.holding (c.persist t.io.record (.publication record)).2,
        { t with
          accepted := some record
          stage := if !c.config.composeOnPublish then .returned else .composing })
    | .composing =>
      (s, { t with input := c.compositionInput t.io.recomposeMs, stage := .copied })
    | .copied =>
      match compose t.input with
      | .crashed => (s.holding { c with crashed := true }, t)
      | .refused _ => (s, { t with stage := .returned })
      | .composed site => s.lease t site
    | .leased token snapshot => s.offer t token snapshot
    | .published snapshot =>
      (s.holding { c with siteGeneration := t.input.generation }, { t with stage := .counted snapshot })
    | .counted snapshot => (s, { t with stage := .stamped (c.chain.current.getD snapshot) })
    | .stamped snapshot =>
      (s.holding (c.persist t.io.snapshot (.snapshot snapshot)).2, { t with stage := .returned })
    | .returned => (s, t)

section Steps

variable {s : Shared} {t : Thread}

theorem advance_crashed (crashed : s.controller.crashed = true) : s.advance t = (s, t) := by
  rw [advance, if_pos crashed]

variable (alive : s.controller.crashed = false)
include alive

theorem advance_offering {publisher : MemberId} {incarnation : Incarnation}
    {declaration : MemberDomainDeclaration} {attempt : PublishAttempt}
    (before : t.stage = .offering publisher incarnation declaration attempt) :
    s.advance t =
      match s.controller.judge t.io publisher incarnation declaration attempt with
      | .error _ => (s, { t with stage := .returned })
      | .ok record => (s, { t with stage := .fenced record }) := by
  rw [advance, if_neg (ne_true_of_eq_false alive), before]

theorem advance_fenced {record : MemberPublicationRecord} (before : t.stage = .fenced record) :
    s.advance t =
      let record := { record with acceptanceSequence := s.controller.acceptanceSequence + 1 }
      (s.holding (s.controller.write record), { t with stage := .entered record }) := by
  rw [advance, if_neg (ne_true_of_eq_false alive), before]

theorem advance_entered {record : MemberPublicationRecord} (before : t.stage = .entered record) :
    s.advance t = (s.holding (s.controller.mark t.io record), { t with stage := .recorded record }) := by
  rw [advance, if_neg (ne_true_of_eq_false alive), before]

theorem advance_recorded {record : MemberPublicationRecord} (before : t.stage = .recorded record) :
    s.advance t =
      (s.holding (s.controller.persist t.io.record (.publication record)).2,
        { t with
          accepted := some record
          stage := if !s.controller.config.composeOnPublish then .returned else .composing }) := by
  rw [advance, if_neg (ne_true_of_eq_false alive), before]

theorem advance_composing (before : t.stage = .composing) :
    s.advance t =
      (s, { t with input := s.controller.compositionInput t.io.recomposeMs, stage := .copied }) := by
  rw [advance, if_neg (ne_true_of_eq_false alive), before]

theorem advance_copied (before : t.stage = .copied) :
    s.advance t =
      match compose t.input with
      | .crashed => (s.holding { s.controller with crashed := true }, t)
      | .refused _ => (s, { t with stage := .returned })
      | .composed site => s.lease t site := by
  rw [advance, if_neg (ne_true_of_eq_false alive), before]

theorem advance_leased {token : AuthorityToken} {snapshot : SiteSnapshot}
    (before : t.stage = .leased token snapshot) : s.advance t = s.offer t token snapshot := by
  rw [advance, if_neg (ne_true_of_eq_false alive), before]

theorem advance_published {snapshot : SiteSnapshot} (before : t.stage = .published snapshot) :
    s.advance t =
      (s.holding { s.controller with siteGeneration := t.input.generation },
        { t with stage := .counted snapshot }) := by
  rw [advance, if_neg (ne_true_of_eq_false alive), before]

theorem advance_counted {snapshot : SiteSnapshot} (before : t.stage = .counted snapshot) :
    s.advance t = (s, { t with stage := .stamped (s.controller.chain.current.getD snapshot) }) := by
  rw [advance, if_neg (ne_true_of_eq_false alive), before]

theorem advance_stamped {snapshot : SiteSnapshot} (before : t.stage = .stamped snapshot) :
    s.advance t =
      (s.holding (s.controller.persist t.io.snapshot (.snapshot snapshot)).2,
        { t with stage := .returned }) := by
  rw [advance, if_neg (ne_true_of_eq_false alive), before]

omit alive in
theorem advance_returned (before : t.stage = .returned) : s.advance t = (s, t) := by
  rw [advance, before]
  exact ite_self _

end Steps

/-- A thread that is left alone takes its steps one after the other. -/
def alone (n : Nat) (s : Shared) (t : Thread) : Shared × Thread :=
  (fun s => advance s.1 s.2)^[n] (s, t)

theorem alone_succ (n : Nat) (s : Shared) (t : Thread) :
    alone (n + 1) s t = alone n (s.advance t).1 (s.advance t).2 := rfl

theorem alone_fixed {s : Shared} {t : Thread} (fixed : s.advance t = (s, t)) (n : Nat) :
    alone n s t = (s, t) := Function.iterate_fixed fixed n

theorem alone_returned {s : Shared} {t : Thread} (before : t.stage = .returned) (n : Nat) :
    (alone n s t).1 = s := by
  rw [alone_fixed (advance_returned before)]

section Alone

variable {s : Shared} {t : Thread} (alive : s.controller.crashed = false)
include alive

theorem stamped_alone {snapshot : SiteSnapshot} (before : t.stage = .stamped snapshot) :
    (alone 1 s t).1.controller = (s.controller.persist t.io.snapshot (.snapshot snapshot)).2 := by
  rw [alone_succ, advance_stamped alive before]
  rfl

theorem counted_alone {snapshot : SiteSnapshot} (before : t.stage = .counted snapshot) :
    (alone 2 s t).1.controller =
      (s.controller.persist t.io.snapshot
        (.snapshot (s.controller.chain.current.getD snapshot))).2 := by
  rw [alone_succ, advance_counted alive before]
  apply stamped_alone alive
  rfl

theorem published_alone {snapshot : SiteSnapshot} (before : t.stage = .published snapshot) :
    (alone 3 s t).1.controller =
      (({ s.controller with siteGeneration := t.input.generation } : SiteController).persist
        t.io.snapshot (.snapshot (s.controller.chain.current.getD snapshot))).2 := by
  rw [alone_succ, advance_published alive before]
  apply counted_alone
  · exact alive
  · rfl

theorem leased_alone {token : AuthorityToken} {snapshot : SiteSnapshot}
    (before : t.stage = .leased token snapshot) (held : s.controller.token = token) :
    (alone 4 s t).1.controller =
      (s.controller.publishSnapshot t.io t.input.generation snapshot).1 := by
  subst held
  rw [alone_succ, advance_leased alive before]
  unfold offer SiteController.publishSnapshot
  dsimp only
  split
  · rw [alone_returned rfl]
    rfl
  · apply published_alone
    · exact alive
    · rfl

theorem lease_alone (site : ComposedSite) :
    (alone 4 (s.lease t site).1 (s.lease t site).2).1.controller =
      (s.controller.publishSite t.io t.input.generation site).1 := by
  unfold lease SiteController.publishSite
  dsimp only
  split
  · rw [alone_returned rfl]
    rfl
  split
  · rw [alone_returned rfl]
    rfl
  · apply leased_alone
    · exact alive
    · rfl
    · rfl

theorem copied_alone (before : t.stage = .copied)
    (input : t.input = s.controller.compositionInput t.io.recomposeMs) :
    (alone 5 s t).1.controller = (s.controller.recompose t.io).1 := by
  have generation : t.input.generation = s.controller.siteGeneration.next := by rw [input]; rfl
  rw [alone_succ, advance_copied alive before, SiteController.recompose, ← input]
  cases compose t.input with
  | crashed =>
    dsimp only
    rw [alone_fixed (advance_crashed rfl)]
    rfl
  | refused status =>
    dsimp only
    rw [alone_returned rfl]
  | composed site =>
    dsimp only
    rw [← generation]
    exact lease_alone alive site

/-- A recomposition that is left alone does what `recompose` does. -/
theorem recompose_alone (before : t.stage = .composing) :
    (alone 6 s t).1.controller = (s.controller.recompose t.io).1 := by
  rw [alone_succ, advance_composing alive before]
  apply copied_alone alive <;> rfl

theorem recorded_alone {record : MemberPublicationRecord} (before : t.stage = .recorded record) :
    (alone 7 s t).1.controller =
      if !s.controller.config.composeOnPublish then
        (s.controller.persist t.io.record (.publication record)).2
      else ((s.controller.persist t.io.record (.publication record)).2.recompose t.io).1 := by
  have running := (s.controller.persist_crashed t.io.record (.publication record)).trans alive
  rw [alone_succ, advance_recorded alive before]
  cases s.controller.config.composeOnPublish with
  | false => exact congrArg Shared.controller (alone_returned rfl 6)
  | true =>
    apply recompose_alone
    · exact running
    · rfl

theorem fenced_alone {record : MemberPublicationRecord} (before : t.stage = .fenced record)
    (numbered : record.acceptanceSequence = s.controller.acceptanceSequence + 1) :
    (alone 9 s t).1.controller =
      if !s.controller.config.composeOnPublish then
        ((s.controller.enter t.io record).persist t.io.record (.publication record)).2
      else
        (((s.controller.enter t.io record).persist t.io.record (.publication record)).2.recompose
          t.io).1 := by
  have same : { record with acceptanceSequence := s.controller.acceptanceSequence + 1 } = record := by
    rw [← numbered]
  rw [alone_succ, advance_fenced alive before, alone_succ]
  dsimp only
  rw [same, advance_entered (s := s.holding (s.controller.write record)) alive rfl]
  apply recorded_alone
  · exact alive
  · rfl

/-- A publication that is left alone does what `publish` does. -/
theorem publish_alone {publisher : MemberId} {incarnation : Incarnation}
    {declaration : MemberDomainDeclaration} {attempt : PublishAttempt}
    (before : t.stage = .offering publisher incarnation declaration attempt) :
    (alone 10 s t).1.controller =
      (s.controller.publish t.io publisher incarnation declaration attempt).1 := by
  rw [alone_succ, advance_offering alive before, SiteController.publish]
  cases judged : s.controller.judge t.io publisher incarnation declaration attempt with
  | error against =>
    dsimp only
    rw [alone_returned rfl]
  | ok record =>
    obtain ⟨-, -, -, numbered, -⟩ := SiteController.judge_ok judged
    dsimp only
    rw [fenced_alone alive rfl numbered]
    split
    · rfl
    · split <;> rfl

end Alone

end Shared

end SiteFabric
