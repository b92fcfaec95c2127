import SiteFabric.Controller.Duplicates
import SiteFabric.Controller.Overtaking

/-! Publications that the current snapshot has lost.
A publish call recomposes once its record is in the map, so the inputs it copies hold the
record. Whether the chain's current snapshot was composed from it is another matter: the
call's own offer may be refused, and an offer that is taken may have copied earlier. -/

namespace SiteFabric

open Lib Authority

namespace Thread

/-- A publish call of a domain that has not begun. -/
def Publishes (domain : MemberDomainKey) (t : Thread) : Prop :=
  t.accepted = none ∧ ∃ publisher incarnation declaration attempt,
    t.stage = .offering publisher incarnation declaration attempt ∧ declaration.domain = domain

/-- The accepted record of a call whose recomposition has had its turn at the chain. -/
def ended (t : Thread) : Option MemberPublicationRecord :=
  match t.stage with
  | .published _ | .counted _ | .stamped _ | .returned => t.accepted
  | _ => none

end Thread

/-- A stage whose step can end a recomposition or change the current snapshot. -/
def Stage.Decides : Stage → Prop
  | .copied | .leased _ _ => True
  | _ => False

/-- A call of a domain finds its record in the map until it has copied it. -/
def SiteController.Tracks (c : SiteController) (domain : MemberDomainKey) (t : Thread) : Prop :=
  match t.stage with
  | .offering _ _ declaration _ => t.accepted = none ∧ declaration.domain = domain
  | .fenced record => t.accepted = none ∧ record.domain = domain
  | .entered record | .recorded record =>
    t.accepted = none ∧ record.domain = domain ∧ c.publications[domain]? = some record
  | .composing => ∃ record, t.accepted = some record ∧ c.publications[domain]? = some record
  | .copied | .leased _ _ => ∃ record, t.accepted = some record ∧ record ∈ t.input.publications
  | _ => True

namespace Shared

/-- The chain's current snapshot was composed from inputs that hold a record. -/
def Holds (s : Shared) (record : MemberPublicationRecord) : Prop :=
  ∃ input snapshot, s.answered.getLast? = some (input, snapshot) ∧
    s.controller.chain.current = some snapshot ∧ record ∈ input.publications

variable [StdSort]

/-- A recomposition ends here without a snapshot: nothing is composed, no lease is granted,
or the chain does not take the offer. -/
def Ends (s : Shared) (t : Thread) : Prop :=
  match t.stage with
  | .copied => compose t.input ≠ .crashed ∧
      ∀ site, compose t.input = .composed site → (s.lease t site).2.stage = .returned
  | .leased token snapshot => ¬ s.controller.chain.Takes snapshot token t.io.recomposeMs
  | _ => False

/-- What a step does to the current snapshot. -/
inductive Outcome (s : Shared) (t : Thread) (later : Shared × Thread) : Prop
  | quiet (answered : later.1.answered = s.answered)
      (chain : later.1.controller.chain = s.controller.chain) (ended : later.2.ended = t.ended)
      (idle : s.controller.crashed = false → ¬ s.Takes t ∧ ¬ s.Ends t)
  | ends (alive : s.controller.crashed = false) (ends : s.Ends t) (untaken : ¬ s.Takes t)
      (answered : later.1.answered = s.answered)
      (chain : later.1.controller.chain = s.controller.chain) (before : t.ended = none)
      (after : later.2.ended = t.accepted)
  | takes (alive : s.controller.crashed = false) (takes : s.Takes t) (unended : ¬ s.Ends t)
      (snapshot : SiteSnapshot) (answered : later.1.answered = s.answered ++ [(t.input, snapshot)])
      (current : later.1.controller.chain.current = some snapshot) (before : t.ended = none)
      (after : later.2.ended = t.accepted)

section Steps

variable {s : Shared} {t : Thread} {domain : MemberDomainKey}

theorem idle_of_undecided (undecided : ¬ t.stage.Decides) : ¬ s.Takes t ∧ ¬ s.Ends t := by
  constructor
  · rintro ⟨token, snapshot, stage, -⟩
    rw [stage] at undecided
    exact undecided trivial
  · intro ends
    unfold Ends at ends
    split at ends
    · next stage =>
      rw [stage] at undecided
      exact undecided trivial
    · next stage =>
      rw [stage] at undecided
      exact undecided trivial
    · exact ends

/-- A step between stages that decide nothing. -/
theorem quiet_of_undecided {later : Shared × Thread} (undecided : ¬ t.stage.Decides)
    (answered : later.1.answered = s.answered)
    (chain : later.1.controller.chain = s.controller.chain) (ended : later.2.ended = t.ended) :
    Outcome s t later :=
  .quiet answered chain ended fun _ => idle_of_undecided undecided

theorem lease_outcome (alive : s.controller.crashed = false) (before : t.stage = .copied)
    {site : ComposedSite} (composed : compose t.input = .composed site) :
    Outcome s t (s.lease t site) := by
  obtain ⟨chain, -, answered, -, -⟩ := Accounted.lease_frame s t site
  have none : t.ended = none := by rw [Thread.ended, before]
  have untaken : ¬ s.Takes t := by
    rintro ⟨token, snapshot, stage, -⟩
    rw [before] at stage
    cases stage
  have ends : s.Ends t ↔ (s.lease t site).2.stage = .returned := by
    rw [Ends, before]
    refine ⟨fun both => both.2 site composed, fun returned => ⟨?_, fun other same => ?_⟩⟩
    · rw [composed]
      intro crash
      cases crash
    · rw [composed] at same
      cases same
      exact returned
  have accepted : (s.lease t site).2.accepted = t.accepted := by
    unfold lease
    dsimp only
    split
    · rfl
    split <;> rfl
  by_cases returned : (s.lease t site).2.stage = .returned
  · refine .ends alive (ends.mpr returned) untaken answered chain none ?_
    rw [Thread.ended, returned]
    exact accepted
  · refine .quiet answered chain ?_ fun _ => ⟨untaken, mt ends.mp returned⟩
    rw [none]
    unfold lease at returned ⊢
    dsimp only at returned ⊢
    split
    · next refused =>
      rw [if_pos refused] at returned
      exact absurd rfl returned
    next granted =>
    rw [if_neg granted] at returned
    split
    · next broken =>
      rw [if_pos broken] at returned
      exact absurd rfl returned
    · rfl

theorem offer_outcome (alive : s.controller.crashed = false) (room : 0 < s.controller.chain.limit)
    {token : AuthorityToken} {snapshot : SiteSnapshot} (before : t.stage = .leased token snapshot) :
    Outcome s t (s.offer t token snapshot) := by
  have none : t.ended = none := by rw [Thread.ended, before]
  have takes : s.Takes t ↔ s.controller.chain.Takes snapshot token t.io.recomposeMs := by
    constructor
    · rintro ⟨token', snapshot', stage, takes⟩
      obtain ⟨rfl, rfl⟩ := Stage.leased.inj (before.symm.trans stage)
      exact takes
    · exact fun takes => ⟨token, snapshot, before, takes⟩
  have ends : s.Ends t ↔ ¬ s.controller.chain.Takes snapshot token t.io.recomposeMs := by
    rw [Ends, before]
  unfold offer
  dsimp only
  rcases s.controller.chain.publish_answer snapshot token t.io.recomposeMs with
    ⟨refused, same, failed⟩ | ⟨taken, status⟩
  · rw [if_pos (by rcases failed with bad | repeated <;> simp [*])]
    exact .ends alive (ends.mpr refused) (mt takes.mp refused) rfl same none rfl
  · rw [if_neg (by rw [status]; decide)]
    rcases SnapshotChain.publish_exits room snapshot token t.io.recomposeMs with
      ⟨refused, -⟩ | ⟨-, same⟩
    · exact absurd taken refused
    · rw [same, SnapshotChain.current_push room]
      exact .takes alive (takes.mpr taken) (mt ends.mp (not_not_intro taken)) _ rfl
        (SnapshotChain.current_push room _) none rfl

theorem advance_outcome (room : 0 < s.controller.chain.limit)
    (composes : s.controller.config.composeOnPublish = true)
    (tracks : s.controller.Tracks domain t) : Outcome s t (s.advance t) := by
  cases alive : s.controller.crashed with
  | true =>
    rw [advance_crashed alive]
    exact .quiet rfl rfl rfl fun running => by
      rw [alive] at running
      cases running
  | false =>
    cases before : t.stage with
    | offering publisher incarnation declaration attempt =>
      have undecided : ¬ t.stage.Decides := by rw [before]; exact id
      rw [SiteController.Tracks, before] at tracks
      rw [advance_offering alive before]
      split
      · refine quiet_of_undecided undecided rfl rfl ?_
        rw [Thread.ended, Thread.ended, before]
        exact tracks.1
      · refine quiet_of_undecided undecided rfl rfl ?_
        rw [Thread.ended, Thread.ended, before]
    | fenced record =>
      have undecided : ¬ t.stage.Decides := by rw [before]; exact id
      rw [advance_fenced alive before]
      refine quiet_of_undecided undecided rfl rfl ?_
      rw [Thread.ended, Thread.ended, before]
    | entered record =>
      have undecided : ¬ t.stage.Decides := by rw [before]; exact id
      rw [advance_entered alive before]
      refine quiet_of_undecided undecided rfl rfl ?_
      rw [Thread.ended, Thread.ended, before]
    | recorded record =>
      have undecided : ¬ t.stage.Decides := by rw [before]; exact id
      rw [advance_recorded alive before, composes]
      refine quiet_of_undecided undecided rfl (SiteController.persist_chain ..) ?_
      rw [Thread.ended, Thread.ended, before]
      rfl
    | composing =>
      have undecided : ¬ t.stage.Decides := by rw [before]; exact id
      rw [advance_composing alive before]
      refine quiet_of_undecided undecided rfl rfl ?_
      rw [Thread.ended, Thread.ended, before]
    | copied =>
      have untaken : ¬ s.Takes t := by
        rintro ⟨token, snapshot, stage, -⟩
        rw [before] at stage
        cases stage
      have none : t.ended = none := by rw [Thread.ended, before]
      rw [advance_copied alive before]
      cases composed : compose t.input with
      | crashed =>
        refine .quiet rfl rfl rfl fun _ => ⟨untaken, fun ends => ?_⟩
        rw [Ends, before] at ends
        exact ends.1 composed
      | refused status =>
        refine .ends alive ?_ untaken rfl rfl none rfl
        rw [Ends, before, composed]
        refine ⟨fun crash => ?_, fun site same => ?_⟩
        · cases crash
        · cases same
      | composed site => exact lease_outcome alive before composed
    | leased token snapshot =>
      rw [advance_leased alive before]
      exact offer_outcome alive room before
    | published snapshot =>
      have undecided : ¬ t.stage.Decides := by rw [before]; exact id
      rw [advance_published alive before]
      refine quiet_of_undecided undecided rfl rfl ?_
      rw [Thread.ended, Thread.ended, before]
    | counted snapshot =>
      have undecided : ¬ t.stage.Decides := by rw [before]; exact id
      rw [advance_counted alive before]
      refine quiet_of_undecided undecided rfl rfl ?_
      rw [Thread.ended, Thread.ended, before]
    | stamped snapshot =>
      have undecided : ¬ t.stage.Decides := by rw [before]; exact id
      rw [advance_stamped alive before]
      refine quiet_of_undecided undecided rfl (SiteController.persist_chain ..) ?_
      rw [Thread.ended, Thread.ended, before]
    | returned =>
      have undecided : ¬ t.stage.Decides := by rw [before]; exact id
      rw [advance_returned before]
      exact quiet_of_undecided undecided rfl rfl rfl

end Steps

end Shared

section Pools

variable {ι : Type} [StdSort] {domains : ι → MemberDomainKey} {p : Pool ι Shared Thread} {i : ι}

/-- A recomposition whose offer is taken has copied every publication whose own one has had
its turn; one that ends without a snapshot leaves its publication in the current one. -/
structure Carries (p : Pool ι Shared Thread) (i : ι) : Prop where
  takes : p.shared.controller.crashed = false → p.shared.Takes (p.place i) →
    ∀ j record, (p.place j).ended = some record → record ∈ (p.place i).input.publications
  ends : p.shared.controller.crashed = false → p.shared.Ends (p.place i) →
    ∀ record, (p.place i).accepted = some record → p.shared.Holds record

omit [StdSort] in
/-- Every call has returned ACCEPTED. -/
def AllAccepted (p : Pool ι Shared Thread) : Prop :=
  ∀ i, (p.place i).stage = .returned ∧ (p.place i).accepted.isSome = true

omit [StdSort] in
/-- The chain's current snapshot was composed from inputs that hold every accepted record. -/
def HoldsAll (p : Pool ι Shared Thread) : Prop :=
  ∃ input snapshot, p.shared.answered.getLast? = some (input, snapshot) ∧
    p.shared.controller.chain.current = some snapshot ∧
    ∀ i record, (p.place i).accepted = some record → record ∈ input.publications

omit [StdSort] in
/-- Every publication whose recomposition has had its turn is in the current snapshot. -/
def Unlost (p : Pool ι Shared Thread) : Prop :=
  ∀ i record, (p.place i).ended = some record → p.shared.Holds record

omit [StdSort] in
/-- The calls find their records, and the last answer is the chain's current snapshot. -/
structure Tracked (domains : ι → MemberDomainKey) (p : Pool ι Shared Thread) : Prop where
  room : 0 < p.shared.controller.chain.limit
  composes : p.shared.controller.config.composeOnPublish = true
  current : ∀ entry ∈ p.shared.answered.getLast?, p.shared.controller.chain.current = some entry.2
  calls : ∀ i, p.shared.controller.Tracks (domains i) (p.place i)

omit [StdSort] in
/-- Once every call has returned ACCEPTED, nothing lost means that nothing is missing. -/
theorem Unlost.holdsAll [Nonempty ι] (unlost : Unlost p) (all : AllAccepted p) : HoldsAll p := by
  have held : ∀ i record, (p.place i).accepted = some record → p.shared.Holds record := by
    intro i record accepted
    apply unlost i record
    rw [Thread.ended, (all i).1, accepted]
  obtain ⟨i⟩ : Nonempty ι := inferInstance
  obtain ⟨record, accepted⟩ := Option.isSome_iff_exists.mp (all i).2
  obtain ⟨input, snapshot, last, current, -⟩ := held i record accepted
  refine ⟨input, snapshot, last, current, fun j other accepted => ?_⟩
  obtain ⟨input', snapshot', last', -, inside⟩ := held j other accepted
  rw [last] at last'
  cases last'
  exact inside

namespace Tracked

omit [StdSort] in
/-- A call keeps track as long as the map keeps its domain. -/
theorem tracks_congr {c later : SiteController} {domain : MemberDomainKey} {t : Thread}
    (same : later.publications[domain]? = c.publications[domain]?) (tracks : c.Tracks domain t) :
    later.Tracks domain t := by
  unfold SiteController.Tracks at tracks ⊢
  cases stage : t.stage <;> rw [stage] at tracks <;> dsimp only at tracks ⊢ <;>
    first | exact tracks | (rw [same]; exact tracks)

variable (tracked : Tracked domains p)

include tracked

theorem outcome (i : ι) : Shared.Outcome p.shared (p.place i) (p.shared.advance (p.place i)) :=
  Shared.advance_outcome tracked.room tracked.composes (tracked.calls i)

omit [StdSort] in
/-- What a call has accepted it has copied before its offer. -/
theorem copied {record : MemberPublicationRecord} (accepted : (p.place i).accepted = some record)
    (decides : (p.place i).stage.Decides) : record ∈ (p.place i).input.publications := by
  have tracks := tracked.calls i
  unfold SiteController.Tracks at tracks
  cases stage : (p.place i).stage <;> rw [stage] at tracks decides <;>
    first | exact decides.elim | skip
  all_goals
    obtain ⟨own, same, inside⟩ := tracks
    rw [accepted] at same
    rw [Option.some.inj same]
    exact inside

/-- No other call writes the domain of a call. -/
theorem publications_of_ne (apart : Function.Injective domains) {j : ι} (other : j ≠ i) :
    (p.shared.advance (p.place i)).1.controller.publications[domains j]? =
      p.shared.controller.publications[domains j]? := by
  have move := p.shared.advance_move (p.place i)
  generalize p.shared.advance (p.place i) = later at move
  cases move with
  | still later still => rw [still.publications]
  | fences => rfl
  | writes record sequence alive before =>
    have tracks := tracked.calls i
    rw [SiteController.Tracks, before] at tracks
    have elsewhere : record.domain ≠ domains j := by
      rw [tracks.2]
      exact fun same => other (apart same).symm
    exact (lookup_insert ..).trans (if_neg elsewhere)
  | marks => rfl

theorem mover (i : ι) :
    (p.shared.advance (p.place i)).1.controller.Tracks (domains i)
      (p.shared.advance (p.place i)).2 := by
  have tracks := tracked.calls i
  cases alive : p.shared.controller.crashed with
  | true =>
    rw [Shared.advance_crashed alive]
    exact tracks
  | false =>
    cases before : (p.place i).stage with
    | offering publisher incarnation declaration attempt =>
      rw [SiteController.Tracks, before] at tracks
      rw [Shared.advance_offering alive before]
      split
      · trivial
      · next judged => exact ⟨tracks.1, (SiteController.judge_ok judged).2.1.trans tracks.2⟩
    | fenced record =>
      rw [SiteController.Tracks, before] at tracks
      rw [Shared.advance_fenced alive before]
      exact ⟨tracks.1, tracks.2, (lookup_insert ..).trans (if_pos tracks.2)⟩
    | entered record =>
      rw [SiteController.Tracks, before] at tracks
      rw [Shared.advance_entered alive before]
      exact tracks
    | recorded record =>
      rw [SiteController.Tracks, before] at tracks
      have same := p.shared.controller.persist_retains (p.place i).io.record (.publication record)
      rw [Shared.advance_recorded alive before, tracked.composes]
      refine ⟨record, rfl, ?_⟩
      rw [Shared.holding, same.publications]
      exact tracks.2.2
    | composing =>
      rw [SiteController.Tracks, before] at tracks
      rw [Shared.advance_composing alive before]
      obtain ⟨record, accepted, held⟩ := tracks
      refine ⟨record, accepted, ?_⟩
      exact List.mem_map.mpr ⟨(domains i, record), mem_toList_iff.mpr held, rfl⟩
    | copied =>
      have copied := tracks
      rw [SiteController.Tracks, before] at tracks
      rw [Shared.advance_copied alive before]
      split
      · exact tracks_congr rfl copied
      · trivial
      · unfold Shared.lease
        dsimp only
        split
        · trivial
        split
        · trivial
        · exact tracks
    | leased token snapshot =>
      rw [Shared.advance_leased alive before, Shared.offer]
      split <;> trivial
    | published snapshot =>
      rw [Shared.advance_published alive before]
      trivial
    | counted snapshot =>
      rw [Shared.advance_counted alive before]
      trivial
    | stamped snapshot =>
      rw [Shared.advance_stamped alive before]
      trivial
    | returned =>
      rw [Shared.advance_returned before]
      exact tracks

variable [DecidableEq ι]

theorem turn (apart : Function.Injective domains) (i : ι) : Tracked domains (p.turn Shared.advance i) := by
  obtain ⟨config, limit⟩ := p.shared.advance_settings (p.place i)
  have outcome := tracked.outcome i
  have others := fun (j : ι) (other : j ≠ i) =>
    tracks_congr (tracked.publications_of_ne apart other) (tracked.calls j)
  have mover := tracked.mover i
  rw [Pool.turn_eq_moved]
  generalize p.shared.advance (p.place i) = later at config limit outcome others mover
  refine ⟨limit ▸ tracked.room, ?_, ?_, Pool.forall_moved (P := fun j (t : Thread) =>
    later.1.controller.Tracks (domains j) t) mover others⟩
  · rw [Pool.moved_shared, config]
    exact tracked.composes
  · rw [Pool.moved_shared]
    cases outcome with
    | quiet answered chain => rw [answered, chain]; exact tracked.current
    | ends _ _ _ answered chain => rw [answered, chain]; exact tracked.current
    | takes _ _ _ snapshot answered current =>
      rw [answered, List.getLast?_concat, current]
      rintro entry same
      cases same
      rfl

/-- A step leaves nothing lost exactly when it carries what is ended. -/
theorem carries_iff (unlost : Unlost p) :
    Carries p i ↔ Unlost (p.turn Shared.advance i) := by
  have outcome := tracked.outcome i
  have copied : p.shared.Takes (p.place i) → ∀ record, (p.place i).accepted = some record →
      record ∈ (p.place i).input.publications := by
    rintro ⟨token, snapshot, stage, -⟩ record accepted
    exact tracked.copied accepted (by rw [stage]; trivial)
  rw [Pool.turn_eq_moved]
  generalize p.shared.advance (p.place i) = later at outcome
  have theirs : ∀ j, j ≠ i → ((p.moved i later).place j).ended = (p.place j).ended :=
    fun j other => by rw [Pool.moved_place_of_ne other]
  have mine : ((p.moved i later).place i).ended = later.2.ended := by rw [Pool.moved_place]
  cases outcome with
  | quiet answered chain ended idle =>
    have holds : ∀ record, later.1.Holds record ↔ p.shared.Holds record := fun record => by
      rw [Shared.Holds, Shared.Holds, answered, chain]
    refine iff_of_true ⟨fun alive takes => absurd takes (idle alive).1,
      fun alive ends => absurd ends (idle alive).2⟩ fun j record here => ?_
    rw [Pool.moved_shared, holds]
    by_cases mover : j = i
    · subst mover
      rw [mine, ended] at here
      exact unlost j record here
    · rw [theirs j mover] at here
      exact unlost j record here
  | ends alive ends untaken answered chain before after =>
    have holds : ∀ record, later.1.Holds record ↔ p.shared.Holds record := fun record => by
      rw [Shared.Holds, Shared.Holds, answered, chain]
    constructor
    · intro carries j record here
      rw [Pool.moved_shared, holds]
      by_cases mover : j = i
      · subst mover
        rw [mine, after] at here
        exact carries.ends alive ends record here
      · rw [theirs j mover] at here
        exact unlost j record here
    · intro kept
      refine ⟨fun _ takes => absurd takes untaken, fun _ _ record accepted => ?_⟩
      rw [← holds]
      exact kept i record (by rw [mine, after, accepted])
  | takes alive takes unended snapshot answered current before after =>
    have holds : ∀ record, later.1.Holds record ↔ record ∈ (p.place i).input.publications := by
      intro record
      rw [Shared.Holds, answered, List.getLast?_concat, current]
      constructor
      · rintro ⟨_, _, same, -, member⟩
        cases same
        exact member
      · exact fun member => ⟨_, _, rfl, rfl, member⟩
    constructor
    · intro carries j record here
      rw [Pool.moved_shared, holds]
      by_cases mover : j = i
      · subst mover
        rw [mine, after] at here
        exact copied takes record here
      · rw [theirs j mover] at here
        exact carries.takes alive takes j record here
    · intro kept
      refine ⟨fun _ _ j record here => ?_, fun _ ends => absurd ends unended⟩
      by_cases mover : j = i
      · subst mover
        rw [before] at here
        cases here
      · rw [← holds]
        exact kept j record (by rw [theirs j mover, here])

omit tracked [DecidableEq ι] [StdSort] in
/-- Before any call has moved. -/
theorem of_publishing {c : SiteController} {threads : ι → Thread} (room : 0 < c.chain.limit)
    (composes : c.config.composeOnPublish = true)
    (publishing : ∀ i, (threads i).Publishes (domains i)) :
    Tracked domains ⟨{ controller := c }, threads⟩ ∧ Unlost ⟨{ controller := c }, threads⟩ := by
  refine ⟨⟨room, composes, fun entry none => ?_, fun i => ?_⟩, fun i record here => ?_⟩
  · cases none
  · obtain ⟨accepted, _, _, _, _, stage, own⟩ := publishing i
    rw [SiteController.Tracks, stage]
    exact ⟨accepted, own⟩
  · obtain ⟨accepted, _, _, _, _, stage, _⟩ := publishing i
    rw [Thread.ended, stage] at here
    cases here

end Tracked

/-- In every interleaving of publications of different domains, those whose recomposition
has had its turn are in the current snapshot at every moment exactly when each
recomposition carries what has had its turn before it; all of them are in it then once they
have all returned. -/
theorem no_publication_is_lost_iff [DecidableEq ι] [Nonempty ι] {c : SiteController}
    {threads : ι → Thread} (room : 0 < c.chain.limit) (composes : c.config.composeOnPublish = true)
    (apart : Function.Injective domains) (publishing : ∀ i, (threads i).Publishes (domains i))
    (schedule : List ι) :
    (Guarded (Pool.turn Shared.advance) Carries ⟨{ controller := c }, threads⟩ schedule ↔
      ∀ before, before <+: schedule →
        Unlost (run (Pool.turn Shared.advance) ⟨{ controller := c }, threads⟩ before)) ∧
    (Guarded (Pool.turn Shared.advance) Carries ⟨{ controller := c }, threads⟩ schedule →
      ∀ before, before <+: schedule →
        AllAccepted (run (Pool.turn Shared.advance) ⟨{ controller := c }, threads⟩ before) →
        HoldsAll (run (Pool.turn Shared.advance) ⟨{ controller := c }, threads⟩ before)) := by
  obtain ⟨start, unlost⟩ := Tracked.of_publishing room composes publishing
  have tracked : Guarded (Pool.turn Shared.advance) (fun p _ => Tracked domains p)
      ⟨{ controller := c }, threads⟩ schedule := guarded_of_stable
    (fun p i (tracked : Tracked domains p) => tracked.turn apart i) start schedule
  have exact := guarded_iff_throughout
    (fun p i unlost (tracked : Tracked domains p) => tracked.carries_iff unlost) tracked
  rw [and_iff_right unlost] at exact
  exact ⟨exact, fun guarded before inside => (exact.mp guarded before inside).holdsAll⟩

end Pools

namespace Stage

instance (stage : Stage) : Decidable stage.Decides :=
  match stage with
  | .copied | .leased _ _ => isTrue trivial
  | .offering .. | .fenced _ | .entered _ | .recorded _ | .composing | .published _ | .counted _
  | .stamped _ | .returned => isFalse id

end Stage

/-- The step of a recomposition that ends without a snapshot is its last. -/
theorem Shared.ends_returns [StdSort] {s : Shared} {t : Thread}
    (alive : s.controller.crashed = false) (ends : s.Ends t) : (s.advance t).2.stage = .returned := by
  unfold Ends at ends
  split at ends
  · next before =>
    rw [advance_copied alive before]
    cases composed : compose t.input with
    | crashed => exact absurd composed ends.1
    | refused status => rfl
    | composed site => exact ends.2 site composed
  · next token snapshot before =>
    rw [advance_leased alive before, offer]
    rcases s.controller.chain.publish_answer snapshot token t.io.recomposeMs with
      ⟨-, -, failed⟩ | ⟨taken, -⟩
    · rw [if_pos (by rcases failed with bad | repeated <;> simp [*])]
    · exact absurd taken ends
  · exact ends.elim

/-- The sample controller composes on each publication, and two racks have said HELLO. -/
def SiteController.paired : SiteController :=
  (run SiteServer.step { SiteServer.sample with controller.config.composeOnPublish := true }
    [.hello 1 (ascii "rack-1") (ascii "boot-a") 1,
      .hello 2 (ascii "rack-2") (ascii "boot-b") 1]).controller

/-- A rack publishes its first declaration. -/
def Thread.declares (rack boot : Text) : Thread where
  io := .sample
  stage := .offering ⟨ascii "member-1"⟩ ⟨1, ⟨boot⟩⟩ (.sample rack) ⟨1, 1⟩

def neighbour : Bool → MemberDomainKey
  | false => ⟨.rack, ascii "rack-1"⟩
  | true => ⟨.rack, ascii "rack-2"⟩

/-- Two racks publish. -/
def neighbours : Pool Bool Shared Thread where
  shared := { controller := .paired }
  place
    | false => .declares (ascii "rack-1") (ascii "boot-a")
    | true => .declares (ascii "rack-2") (ascii "boot-b")

theorem neighbour_injective : Function.Injective neighbour := by decide

theorem neighbours_publish : ∀ i, (neighbours.place i).Publishes (neighbour i)
  | false => ⟨rfl, _, _, _, _, rfl, rfl⟩
  | true => ⟨rfl, _, _, _, _, rfl, rfl⟩

theorem neighbours_sealed : SealedPool neighbours :=
  ⟨by decide +kernel, fun i => by cases i <;> trivial⟩

/-- One after the other, both are in the current snapshot. -/
theorem neighbours_in_turn_are_held :
    AllAccepted (run (Pool.turn Shared.advance) neighbours
      (List.replicate 10 false ++ List.replicate 10 true)) ∧
    HoldsAll (run (Pool.turn Shared.advance) neighbours
      (List.replicate 10 false ++ List.replicate 10 true)) := by
  have ran : Guarded (Pool.turn Shared.advanceSealed) (fun p i => (p.place i).stage.Decides →
        (p.shared.advanceSealed (p.place i)).2.stage ≠ .returned ∧
        ∀ j, ∀ record ∈ (p.place j).ended, record ∈ (p.place i).input.publications) neighbours
      (List.replicate 10 false ++ List.replicate 10 true) ∧
      AllAccepted (run (Pool.turn Shared.advanceSealed) neighbours
        (List.replicate 10 false ++ List.replicate 10 true)) := by
    unfold AllAccepted
    decide +kernel
  have careful := neighbours_sealed.guarded ran.1
  have seals : Guarded (Pool.turn Shared.advance) (fun p _ => SealedPool p) neighbours
      (List.replicate 10 false ++ List.replicate 10 true) :=
    guarded_of_stable (fun p i (sealed : SealedPool p) => sealed.turn i) neighbours_sealed _
  have carries : Guarded (Pool.turn Shared.advance) Carries neighbours
      (List.replicate 10 false ++ List.replicate 10 true) := by
    refine (careful.and seals).imp ?_
    rintro p i ⟨careful, sealed⟩
    refine ⟨fun _ takes => (careful ?_).2, fun alive ends => absurd ?_ (careful ?_).1⟩
    · obtain ⟨token, snapshot, stage, -⟩ := takes
      rw [stage]
      trivial
    · rw [← Shared.advance_eq sealed.room (sealed.threads i)]
      exact Shared.ends_returns alive ends
    · exact not_not.mp fun undecided => (Shared.idle_of_undecided undecided).2 ends
  have all : AllAccepted (run (Pool.turn Shared.advance) neighbours
      (List.replicate 10 false ++ List.replicate 10 true)) := by
    rw [neighbours_sealed.run_eq]
    exact ran.2
  exact ⟨all, (no_publication_is_lost_iff (by decide +kernel) (by decide +kernel)
    neighbour_injective neighbours_publish _).2 carries _ (List.prefix_refl _) all⟩

/-- Both racks write and copy before either offers. -/
def collision : List Bool :=
  List.replicate 5 false ++ List.replicate 5 true ++ List.replicate 5 false ++ List.replicate 5 true

/-- The first rack copies its inputs before the second one is written, and its snapshot is
taken; the second rack's is of the same generation, and the chain refuses it. -/
theorem refused_recomposition_loses_a_rack :
    neighbours.shared.controller.config.composeOnPublish = true ∧
    Function.Injective neighbour ∧ (∀ i, (neighbours.place i).Publishes (neighbour i)) ∧
    ∃ schedule, AllAccepted (run (Pool.turn Shared.advance) neighbours schedule) ∧
      ¬ HoldsAll (run (Pool.turn Shared.advance) neighbours schedule) := by
  refine ⟨by decide +kernel, neighbour_injective, neighbours_publish, collision, ?_⟩
  have test : (∀ i,
        ((run (Pool.turn Shared.advanceSealed) neighbours collision).place i).stage = .returned ∧
        ((run (Pool.turn Shared.advanceSealed) neighbours collision).place i).accepted.isSome =
          true) ∧
      (∀ entry ∈ (run (Pool.turn Shared.advanceSealed) neighbours collision).shared.answered,
        ∀ record ∈ entry.1.publications, record.domain ≠ ⟨.rack, ascii "rack-2"⟩) ∧
      ∃ record ∈ ((run (Pool.turn Shared.advanceSealed) neighbours collision).place true).accepted,
        record.domain = ⟨.rack, ascii "rack-2"⟩ := by decide +kernel
  rw [neighbours_sealed.run_eq]
  obtain ⟨all, missing, record, accepted, domain⟩ := test
  refine ⟨all, ?_⟩
  rintro ⟨input, snapshot, last, -, holds⟩
  exact missing _ (List.mem_of_getLast? last) record (holds true record accepted) domain

end SiteFabric
