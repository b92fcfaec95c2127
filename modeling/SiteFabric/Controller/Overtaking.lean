import SiteFabric.Controller.Generations
import SiteFabric.Controller.Interleaving

/-! Publications that overtake each other.
The fence, the registry map and the high-water mark take a lock of their own each. What
passed the fence is written whatever was written since, so the generation held of a
domain goes down exactly when one publication overtakes another of a lower generation. -/

namespace SiteFabric

open Lib Authority

namespace SiteController

/-- The generation the registry map holds of a domain. -/
def heldGeneration (c : SiteController) (domain : MemberDomainKey) : Generation :=
  (c.publications[domain]?.map (·.generation)).getD {}

/-- The high-water mark of a domain, unset before its incarnation has published. -/
def markedGeneration (c : SiteController) (domain : MemberDomainKey) : Generation :=
  if (c.authority.domainState domain).published then (c.authority.domainState domain).generation
  else {}

theorem heldGeneration_write (c : SiteController) (record : MemberPublicationRecord)
    (domain : MemberDomainKey) :
    (c.write record).heldGeneration domain =
      if record.domain = domain then record.generation else c.heldGeneration domain := by
  unfold heldGeneration write
  dsimp only
  rw [lookup_insert]
  split <;> rfl

/-- A usable record raises or lowers the mark to its own generation. -/
theorem markedGeneration_mark {c : SiteController} {record : MemberPublicationRecord}
    (usable : record.usable = true) (io : Moment) (domain : MemberDomainKey) :
    (c.mark io record).markedGeneration domain =
      if record.domain = domain then record.generation else c.markedGeneration domain := by
  have legal : ¬(!(offerOf record).domain.valid || !(offerOf record).generation.isSet ||
      (offerOf record).digest.isZero) = true := by
    simpa [offerOf, MemberPublicationRecord.usable, Generation.isSet, Generation.isUnset]
      using usable
  unfold markedGeneration mark
  rw [Registry.recordPublication_legal legal]
  by_cases here : record.domain = domain
  · rw [if_pos here, if_pos (show (offerOf record).domain = domain from here), if_pos rfl]
    rfl
  · rw [if_neg here, if_neg (show (offerOf record).domain ≠ domain from here)]

/-- What passes the fence is at or above the mark. -/
theorem markedGeneration_le {c : SiteController} {record : MemberPublicationRecord}
    (passed : c.authority.fencePublication (offerOf record) = .ok) :
    c.markedGeneration record.domain ≤ record.generation := by
  unfold markedGeneration
  split
  · next published =>
    have precedes := Registry.lastOffer_precedes passed published
    rcases precedes.order with less | ⟨same, -⟩
    · exact less.le
    · exact same.le
  · exact Nat.zero_le _

end SiteController

namespace Thread

/-- The record a thread has written to the registry map. -/
def wrote (t : Thread) : Option MemberPublicationRecord :=
  match t.stage with
  | .entered record | .recorded record => some record
  | _ => t.accepted

/-- The record a thread has left at the high-water mark. -/
def marked (t : Thread) : Option MemberPublicationRecord :=
  match t.stage with
  | .recorded record => some record
  | _ => t.accepted

/-- The record a thread carries past the fence. -/
def carried (t : Thread) : Option MemberPublicationRecord :=
  match t.stage with
  | .fenced record | .entered record => some record
  | _ => none

/-- Until its record is persisted a publication has none accepted. -/
def Clear (t : Thread) : Prop :=
  match t.stage with
  | .offering .. | .fenced _ | .entered _ | .recorded _ => t.accepted = none
  | _ => True

/-- A call that has not begun: a publication, or a recomposition. -/
def Fresh (t : Thread) : Prop :=
  t.accepted = none ∧ match t.stage with
    | .offering .. | .composing => True
    | _ => False

end Thread

namespace Stage

def fenced? : Stage → Option MemberPublicationRecord
  | .fenced record => some record
  | _ => none

def entered? : Stage → Option MemberPublicationRecord
  | .entered record => some record
  | _ => none

variable {stage : Stage} {record : MemberPublicationRecord}

theorem eq_of_fenced (fenced : stage.fenced? = some record) : stage = .fenced record := by
  cases stage <;> cases fenced
  rfl

theorem eq_of_entered (entered : stage.entered? = some record) : stage = .entered record := by
  cases stage <;> cases entered
  rfl

end Stage

/-- A stage that holds no record. -/
def Stage.Bare : Stage → Prop
  | .fenced _ | .entered _ | .recorded _ => False
  | _ => True

namespace Thread

variable {t : Thread}

theorem wrote_of_bare (bare : t.stage.Bare) : t.wrote = t.accepted := by
  unfold wrote
  cases stage : t.stage <;> first | rfl | (rw [stage] at bare; exact bare.elim)

theorem marked_of_bare (bare : t.stage.Bare) : t.marked = t.accepted := by
  unfold marked
  cases stage : t.stage <;> first | rfl | (rw [stage] at bare; exact bare.elim)

theorem carried_of_bare (bare : t.stage.Bare) : t.carried = none := by
  unfold carried
  cases stage : t.stage <;> first | rfl | (rw [stage] at bare; exact bare.elim)

end Thread

namespace Shared

/-- A step that leaves every generation, and every thread's records, where they were. -/
structure Still (s : Shared) (t : Thread) (later : Shared × Thread) : Prop where
  publications : later.1.controller.publications = s.controller.publications
  states : ∀ domain, later.1.controller.authority.domainState domain =
    s.controller.authority.domainState domain
  wrote : later.2.wrote = t.wrote
  marked : later.2.marked = t.marked
  carried : later.2.carried = t.carried ∨ later.2.carried = none
  halts : s.controller.crashed = true ∨ t.carried = none
  clear : t.Clear → later.2.Clear

/-- Every step a thread can take. -/
inductive Move (s : Shared) (t : Thread) : Shared × Thread → Prop
  | still (later : Shared × Thread) (still : Still s t later) : Move s t later
  | fences (record : MemberPublicationRecord)
      (before : ∃ publisher incarnation declaration attempt,
        t.stage = .offering publisher incarnation declaration attempt)
      (passed : s.controller.authority.fencePublication (SiteController.offerOf record) = .ok) :
      Move s t (s, { t with stage := .fenced record })
  | writes (record : MemberPublicationRecord) (sequence : UInt64)
      (alive : s.controller.crashed = false) (before : t.stage = .fenced record) :
      Move s t (s.holding (s.controller.write { record with acceptanceSequence := sequence }),
        { t with stage := .entered { record with acceptanceSequence := sequence } })
  | marks (record : MemberPublicationRecord) (alive : s.controller.crashed = false)
      (before : t.stage = .entered record) :
      Move s t (s.holding (s.controller.mark t.io record), { t with stage := .recorded record })

/-- A step between stages that hold no record is a still one. -/
theorem still_of_bare {s later : Shared} {t next : Thread}
    (publications : later.controller.publications = s.controller.publications)
    (states : ∀ domain, later.controller.authority.domainState domain =
      s.controller.authority.domainState domain)
    (bare : t.stage.Bare) (bare' : next.stage.Bare) (accepted : next.accepted = t.accepted)
    (clear : next.Clear) : Still s t (later, next) where
  publications := publications
  states := states
  wrote := by rw [Thread.wrote_of_bare bare, Thread.wrote_of_bare bare', accepted]
  marked := by rw [Thread.marked_of_bare bare, Thread.marked_of_bare bare', accepted]
  carried := .inr (Thread.carried_of_bare bare')
  halts := .inr (Thread.carried_of_bare bare)
  clear _ := clear

/-- A lease call leaves the domains of the registry alone. -/
theorem acquire_states (r : Registry) (q : AcquireRequest) (domain : MemberDomainKey) :
    (r.acquireSiteAuthority q).registry.domainState domain = r.domainState domain := by
  obtain ⟨domains, -⟩ := (LeaseCall.acquire q).members r
  rw [Registry.domainState, Registry.domainState]
  exact congrArg (fun domains => (domains[domain]?).getD {}) domains

theorem lease_still {s : Shared} {t : Thread} (bare : t.stage.Bare) (site : ComposedSite) :
    Still s t (s.lease t site) := by
  have states := acquire_states s.controller.authority
    (s.controller.acquireRequest t.input.generation t.io.recomposeMs)
  unfold lease
  dsimp only
  split
  · exact still_of_bare rfl states bare trivial rfl trivial
  split
  · exact still_of_bare rfl states bare trivial rfl trivial
  · exact still_of_bare rfl states bare trivial rfl trivial

theorem offer_still {s : Shared} {t : Thread} (bare : t.stage.Bare) (token : AuthorityToken)
    (snapshot : SiteSnapshot) : Still s t (s.offer t token snapshot) := by
  unfold offer
  dsimp only
  split
  · exact still_of_bare rfl (fun _ => rfl) bare trivial rfl trivial
  · exact still_of_bare rfl (fun _ => rfl) bare trivial rfl trivial

theorem persist_frame (c : SiteController) (io : Store.Answers) (content : Store.Content) :
    (c.persist io content).2.publications = c.publications ∧
      ∀ domain, (c.persist io content).2.authority.domainState domain =
        c.authority.domainState domain := by
  have same := c.persist_retains io content
  exact ⟨same.publications, same.states⟩

variable [StdSort]

theorem advance_move (s : Shared) (t : Thread) : Move s t (s.advance t) := by
  cases alive : s.controller.crashed with
  | true =>
    rw [advance_crashed alive]
    exact .still _ ⟨rfl, fun _ => rfl, rfl, rfl, .inl rfl, .inl alive, id⟩
  | false =>
    cases before : t.stage with
    | offering publisher incarnation declaration attempt =>
      have bare : t.stage.Bare := by rw [before]; trivial
      rw [advance_offering alive before]
      cases judged : s.controller.judge t.io publisher incarnation declaration attempt with
      | error against =>
        exact .still _ (still_of_bare rfl (fun _ => rfl) bare trivial rfl trivial)
      | ok record => exact .fences record ⟨_, _, _, _, before⟩ (SiteController.judge_ok judged).1
    | fenced record =>
      rw [advance_fenced alive before]
      exact .writes record _ alive before
    | entered record =>
      rw [advance_entered alive before]
      exact .marks record alive before
    | recorded record =>
      rw [advance_recorded alive before]
      obtain ⟨publications, states⟩ :=
        persist_frame s.controller t.io.record (.publication record)
      have wrote : t.wrote = some record := by rw [Thread.wrote, before]
      have marked : t.marked = some record := by rw [Thread.marked, before]
      have carried : t.carried = none := by rw [Thread.carried, before]
      cases s.controller.config.composeOnPublish with
      | true => exact .still _ ⟨publications, states, wrote.symm, marked.symm, .inr rfl,
          .inr carried, fun _ => trivial⟩
      | false => exact .still _ ⟨publications, states, wrote.symm, marked.symm, .inr rfl,
          .inr carried, fun _ => trivial⟩
    | composing =>
      have bare : t.stage.Bare := by rw [before]; trivial
      rw [advance_composing alive before]
      exact .still _ (still_of_bare rfl (fun _ => rfl) bare trivial rfl trivial)
    | copied =>
      have bare : t.stage.Bare := by rw [before]; trivial
      rw [advance_copied alive before]
      split
      · exact .still _ ⟨rfl, fun _ => rfl, rfl, rfl, .inl rfl,
          .inr (Thread.carried_of_bare bare), id⟩
      · exact .still _ (still_of_bare rfl (fun _ => rfl) bare trivial rfl trivial)
      · exact .still _ (lease_still bare _)
    | leased token snapshot =>
      have bare : t.stage.Bare := by rw [before]; trivial
      rw [advance_leased alive before]
      exact .still _ (offer_still bare token snapshot)
    | published snapshot =>
      have bare : t.stage.Bare := by rw [before]; trivial
      rw [advance_published alive before]
      exact .still _ (still_of_bare rfl (fun _ => rfl) bare trivial rfl trivial)
    | counted snapshot =>
      have bare : t.stage.Bare := by rw [before]; trivial
      rw [advance_counted alive before]
      exact .still _ (still_of_bare rfl (fun _ => rfl) bare trivial rfl trivial)
    | stamped snapshot =>
      have bare : t.stage.Bare := by rw [before]; trivial
      obtain ⟨publications, states⟩ :=
        persist_frame s.controller t.io.snapshot (.snapshot snapshot)
      rw [advance_stamped alive before]
      exact .still _ (still_of_bare publications states bare trivial rfl trivial)
    | returned =>
      have bare : t.stage.Bare := by rw [before]; trivial
      rw [advance_returned before]
      exact .still _ ⟨rfl, fun _ => rfl, rfl, rfl, .inl rfl,
        .inr (Thread.carried_of_bare bare), id⟩

end Shared

section Generations

variable {ι : Type} [DecidableEq ι]

/-- The generations of a domain that threads have left somewhere. -/
def leftBehind (left : Thread → Option MemberPublicationRecord) (p : Pool ι Shared Thread)
    (domain : MemberDomainKey) : Set Generation :=
  { generation | ∃ i record, left (p.place i) = some record ∧ record.domain = domain ∧
      record.generation = generation }

/-- A publication that is about to write the map has not been overtaken there by one of
a higher generation, nor does it go below what was held before all of them; one that is
about to move the mark has not been overtaken there. -/
structure Unovertaken (c : SiteController) (p : Pool ι Shared Thread) (i : ι) : Prop where
  held : p.shared.controller.crashed = false → ∀ record, (p.place i).stage = .fenced record →
    c.heldGeneration record.domain ≤ record.generation ∧
      ∀ generation ∈ leftBehind Thread.wrote p record.domain, generation ≤ record.generation
  mark : p.shared.controller.crashed = false → ∀ record, (p.place i).stage = .entered record →
    ∀ generation ∈ leftBehind Thread.marked p record.domain, generation ≤ record.generation

instance [Fintype ι] (c : SiteController) (p : Pool ι Shared Thread) (i : ι) :
    Decidable (Unovertaken c p i) :=
  decidable_of_iff
    (p.shared.controller.crashed = false →
      (∀ record ∈ (p.place i).stage.fenced?, c.heldGeneration record.domain ≤ record.generation ∧
        ∀ j, ∀ other ∈ (p.place j).wrote, other.domain = record.domain →
          other.generation ≤ record.generation) ∧
      ∀ record ∈ (p.place i).stage.entered?, ∀ j, ∀ other ∈ (p.place j).marked,
        other.domain = record.domain → other.generation ≤ record.generation) (by
    constructor
    · intro guard
      refine ⟨fun alive record stage => ?_, fun alive record stage => ?_⟩
      · obtain ⟨start, above⟩ := (guard alive).1 record (by rw [stage]; rfl)
        refine ⟨start, ?_⟩
        rintro _ ⟨j, other, left, named, rfl⟩
        exact above j other left named
      · rintro _ ⟨j, other, left, named, rfl⟩
        exact (guard alive).2 record (by rw [stage]; rfl) j other left named
    · intro guard alive
      refine ⟨fun record fenced => ?_, fun record entered j other left named => ?_⟩
      · obtain ⟨start, above⟩ := guard.held alive record (Stage.eq_of_fenced fenced)
        exact ⟨start, fun j other left named => above _ ⟨j, other, left, named, rfl⟩⟩
      · exact guard.mark alive record (Stage.eq_of_entered entered) _ ⟨j, other, left, named, rfl⟩)

/-- What a thread carries past the fence could be recorded, and was not below the mark
at the start. -/
structure Sound (c : SiteController) (t : Thread) : Prop where
  carried : ∀ record, t.carried = some record → record.usable = true ∧
    c.markedGeneration record.domain ≤ record.generation
  clear : t.Clear

/-- What the map holds of a domain, and its mark, are the highest generations that were
there at the start or that a thread has left there. -/
structure Peaks (c : SiteController) (p : Pool ι Shared Thread) : Prop where
  held : ∀ domain, IsGreatest (insert (c.heldGeneration domain) (leftBehind Thread.wrote p domain))
    (p.shared.controller.heldGeneration domain)
  mark : ∀ domain, IsGreatest
    (insert (c.markedGeneration domain) (leftBehind Thread.marked p domain))
    (p.shared.controller.markedGeneration domain)
  sound : ∀ i, Sound c (p.place i)

/-- No generation is lower than before. -/
def NoLower (s later : Shared) : Prop :=
  ∀ domain, s.controller.heldGeneration domain ≤ later.controller.heldGeneration domain ∧
    s.controller.markedGeneration domain ≤ later.controller.markedGeneration domain

variable {left : Thread → Option MemberPublicationRecord} {c : SiteController}
variable {p : Pool ι Shared Thread} {i : ι} {later : Shared × Thread}

theorem leftBehind_moved_of_eq (same : left later.2 = left (p.place i)) (domain : MemberDomainKey) :
    leftBehind left (p.moved i later) domain = leftBehind left p domain := by
  have each : ∀ j, left ((p.moved i later).place j) = left (p.place j) :=
    fun j => by
      by_cases mover : j = i
      · rw [mover, Pool.moved_place, same]
      · rw [Pool.moved_place_of_ne mover]
  simp only [leftBehind, each]

theorem leftBehind_moved {record : MemberPublicationRecord} (none : left (p.place i) = none)
    (new : left later.2 = some record) (domain : MemberDomainKey) :
    leftBehind left (p.moved i later) domain =
      if record.domain = domain then insert record.generation (leftBehind left p domain)
      else leftBehind left p domain := by
  have mine : ∀ other, left ((p.moved i later).place i) = some other ↔ record = other := by
    intro other
    rw [Pool.moved_place, new, Option.some.injEq]
  have theirs : ∀ j, j ≠ i → left ((p.moved i later).place j) = left (p.place j) :=
    fun j other => by rw [Pool.moved_place_of_ne other]
  ext generation
  constructor
  · rintro ⟨j, other, here, rfl, rfl⟩
    by_cases mover : j = i
    · subst mover
      rw [(mine other).mp here, if_pos rfl]
      exact Set.mem_insert ..
    · rw [theirs j mover] at here
      have before : other.generation ∈ leftBehind left p other.domain := ⟨j, other, here, rfl, rfl⟩
      split
      · exact Set.mem_insert_of_mem _ before
      · exact before
  · intro member
    have before : generation ∈ leftBehind left p domain →
        generation ∈ leftBehind left (p.moved i later) domain := by
      rintro ⟨j, other, here, rfl, rfl⟩
      have apart : j ≠ i := fun same => by
        rw [same, none] at here
        cases here
      exact ⟨j, other, (theirs j apart).trans here, rfl, rfl⟩
    split at member
    · next named =>
      rcases member with rfl | member
      · exact ⟨i, record, (mine record).mpr rfl, named, rfl⟩
      · exact before member
    · exact before member

namespace Peaks

/-- A write goes below nothing exactly when it overtakes nothing. -/
theorem le_iff {least peak : Generation} {left : Set Generation}
    (greatest : IsGreatest (insert least left) peak) (generation : Generation) :
    peak ≤ generation ↔ least ≤ generation ∧ ∀ other ∈ left, other ≤ generation := by
  rw [isLUB_le_iff greatest.isLUB, upperBounds_insert]
  exact Iff.rfl

omit [DecidableEq ι] in
/-- A step takes neither generation down exactly when nothing was overtaken. -/
theorem unovertaken_iff (peaks : Peaks c p) (move : Shared.Move p.shared (p.place i) later) :
    Unovertaken c p i ↔ NoLower p.shared later.1 := by
  cases move with
  | still later still =>
    have noRecord : p.shared.controller.crashed = false → (p.place i).carried = none :=
      fun alive => still.halts.resolve_left (by simp [alive])
    refine iff_of_true ⟨fun alive record stage => ?_, fun alive record stage => ?_⟩ fun domain => ?_
    · have held := noRecord alive
      simp [Thread.carried, stage] at held
    · have held := noRecord alive
      simp [Thread.carried, stage] at held
    · unfold SiteController.heldGeneration SiteController.markedGeneration
      rw [still.publications, still.states]
      exact ⟨le_rfl, le_rfl⟩
  | fences record before passed =>
    obtain ⟨_, _, _, _, before⟩ := before
    refine iff_of_true ⟨fun _ record stage => ?_, fun _ record stage => ?_⟩
      fun domain => ⟨le_rfl, le_rfl⟩
    · cases before.symm.trans stage
    · cases before.symm.trans stage
  | writes record sequence alive before =>
    have lower := le_iff (peaks.held record.domain) record.generation
    constructor
    · intro guard domain
      refine ⟨?_, le_rfl⟩
      rw [Shared.holding, SiteController.heldGeneration_write]
      split
      · next named => exact named ▸ lower.mpr (guard.held alive record before)
      · exact le_rfl
    · intro kept
      refine ⟨fun _ other stage => ?_, fun _ other stage => ?_⟩
      · obtain rfl := Stage.fenced.inj (before.symm.trans stage)
        have here := (kept record.domain).1
        rw [Shared.holding, SiteController.heldGeneration_write, if_pos rfl] at here
        exact lower.mp here
      · cases before.symm.trans stage
  | marks record alive before =>
    obtain ⟨usable, floor⟩ := (peaks.sound i).carried record (by rw [Thread.carried, before])
    have lower := le_iff (peaks.mark record.domain) record.generation
    constructor
    · intro guard domain
      refine ⟨le_rfl, ?_⟩
      rw [Shared.holding, SiteController.markedGeneration_mark usable]
      split
      · next named => exact named ▸ lower.mpr ⟨floor, guard.mark alive record before⟩
      · exact le_rfl
    · intro kept
      refine ⟨fun _ other stage => ?_, fun _ other stage => ?_⟩
      · cases before.symm.trans stage
      · obtain rfl := Stage.entered.inj (before.symm.trans stage)
        have here := (kept record.domain).2
        rw [Shared.holding, SiteController.markedGeneration_mark usable, if_pos rfl] at here
        exact (lower.mp here).2

/-- What overtakes nothing leaves its own generation on top. -/
theorem overwritten {least peak generation : Generation} {left : Set Generation}
    (greatest : IsGreatest (insert least left) peak) (le : peak ≤ generation) :
    IsGreatest (insert least (insert generation left)) generation := by
  rw [Set.insert_comm]
  have more := greatest.insert generation
  rwa [max_eq_left le] at more

theorem moved (peaks : Peaks c p) (move : Shared.Move p.shared (p.place i) later)
    (guard : Unovertaken c p i) : Peaks c (p.moved i later) := by
  have rising := (peaks.unovertaken_iff move).mp guard
  have others : ∀ j, j ≠ i → Sound c (p.place j) := fun j _ => peaks.sound j
  obtain ⟨carried, clear⟩ := peaks.sound i
  cases move with
  | still later still =>
    refine ⟨fun domain => ?_, fun domain => ?_, Pool.forall_moved (P := fun _ => Sound c) ?_ others⟩
    · have held : later.1.controller.heldGeneration domain =
          p.shared.controller.heldGeneration domain := by
        rw [SiteController.heldGeneration, still.publications, SiteController.heldGeneration]
      rw [leftBehind_moved_of_eq still.wrote, Pool.moved_shared, held]
      exact peaks.held domain
    · have mark : later.1.controller.markedGeneration domain =
          p.shared.controller.markedGeneration domain := by
        rw [SiteController.markedGeneration, still.states, SiteController.markedGeneration]
      rw [leftBehind_moved_of_eq still.marked, Pool.moved_shared, mark]
      exact peaks.mark domain
    · refine ⟨fun record here => ?_, still.clear clear⟩
      rcases still.carried with same | none
      · exact carried record (same ▸ here)
      · rw [none] at here
        cases here
  | fences record before passed =>
    obtain ⟨_, _, _, _, before⟩ := before
    refine ⟨fun domain => ?_, fun domain => ?_, Pool.forall_moved (P := fun _ => Sound c) ?_ others⟩
    · rw [leftBehind_moved_of_eq (by simp only [Thread.wrote, before])]
      exact peaks.held domain
    · rw [leftBehind_moved_of_eq (by simp only [Thread.marked, before])]
      exact peaks.mark domain
    · refine ⟨fun other here => ?_, by simpa only [Thread.Clear, before] using clear⟩
      obtain rfl := Option.some.inj here
      have floor := (peaks.mark record.domain).2 (Set.mem_insert ..)
      exact ⟨SiteServer.fencePublication_usable passed,
        floor.trans (SiteController.markedGeneration_le passed)⟩
  | writes record sequence alive before =>
    have blank : (p.place i).wrote = none := by
      simpa only [Thread.Clear, Thread.wrote, before] using clear
    have le := (rising record.domain).1
    rw [Shared.holding, SiteController.heldGeneration_write, if_pos rfl] at le
    refine ⟨fun domain => ?_, fun domain => ?_, Pool.forall_moved (P := fun _ => Sound c) ?_ others⟩
    · rw [leftBehind_moved blank rfl, Pool.moved_shared, Shared.holding,
        SiteController.heldGeneration_write]
      split
      · next named =>
        subst named
        exact overwritten (peaks.held _) le
      · exact peaks.held domain
    · rw [leftBehind_moved_of_eq (by simp only [Thread.marked, before])]
      exact peaks.mark domain
    · refine ⟨fun other here => ?_, by simpa only [Thread.Clear, before] using clear⟩
      obtain rfl := Option.some.inj here
      exact carried record (by rw [Thread.carried, before])
  | marks record alive before =>
    obtain ⟨usable, floor⟩ := carried record (by rw [Thread.carried, before])
    have blank : (p.place i).marked = none := by
      simpa only [Thread.Clear, Thread.marked, before] using clear
    have le := (rising record.domain).2
    rw [Shared.holding, SiteController.markedGeneration_mark usable, if_pos rfl] at le
    refine ⟨fun domain => ?_, fun domain => ?_, Pool.forall_moved (P := fun _ => Sound c) ?_ others⟩
    · rw [leftBehind_moved_of_eq (by simp only [Thread.wrote, before])]
      exact peaks.held domain
    · rw [leftBehind_moved blank rfl, Pool.moved_shared, Shared.holding,
        SiteController.markedGeneration_mark usable]
      split
      · next named =>
        subst named
        exact overwritten (peaks.mark _) le
      · exact peaks.mark domain
    · refine ⟨fun other here => ?_, by simpa only [Thread.Clear, before] using clear⟩
      cases here

omit [DecidableEq ι] in
/-- Before any thread has moved. -/
theorem of_fresh {threads : ι → Thread} (fresh : ∀ i, (threads i).Fresh) :
    Peaks c ⟨{ controller := c }, threads⟩ := by
  have bare : ∀ i, (threads i).stage.Bare ∧ (threads i).accepted = none := by
    intro i
    obtain ⟨none, start⟩ := fresh i
    refine ⟨?_, none⟩
    cases stage : (threads i).stage <;> rw [stage] at start <;> trivial
  have nothing : ∀ left, (∀ i, left (threads i) = none) → ∀ domain,
      leftBehind left ⟨{ controller := c }, threads⟩ domain = ∅ := by
    intro left none domain
    refine Set.eq_empty_of_forall_notMem ?_
    rintro generation ⟨i, record, here, -⟩
    rw [none i] at here
    cases here
  refine ⟨fun domain => ?_, fun domain => ?_, fun i => ⟨fun record here => ?_, ?_⟩⟩
  · rw [nothing Thread.wrote fun i => (Thread.wrote_of_bare (bare i).1).trans (bare i).2,
      insert_empty_eq]
    exact isGreatest_singleton
  · rw [nothing Thread.marked fun i => (Thread.marked_of_bare (bare i).1).trans (bare i).2,
      insert_empty_eq]
    exact isGreatest_singleton
  · rw [Thread.carried_of_bare (bare i).1] at here
    cases here
  · unfold Thread.Clear
    split <;> first | exact (bare i).2 | trivial

end Peaks

section Runs

variable [StdSort]

/-- In every interleaving the generation the map holds of a domain and its high-water mark
never decrease exactly when no publication that is written has been overtaken. -/
theorem generations_never_decrease_iff {c : SiteController} {threads : ι → Thread}
    (fresh : ∀ i, (threads i).Fresh) (schedule : List ι) :
    Guarded (Pool.turn Shared.advance) (Unovertaken c) ⟨{ controller := c }, threads⟩ schedule ↔
      ∀ before later, before <+: later → later <+: schedule →
        NoLower (run (Pool.turn Shared.advance) ⟨{ controller := c }, threads⟩ before).shared
          (run (Pool.turn Shared.advance) ⟨{ controller := c }, threads⟩ later).shared := by
  have kept : ∀ (p : Pool ι Shared Thread) i, Peaks c p → Unovertaken c p i →
      Peaks c (p.turn Shared.advance i) :=
    fun p i peaks => peaks.moved (p.shared.advance_move (p.place i))
  have climbs : ∀ (p : Pool ι Shared Thread) i, Peaks c p →
      (Unovertaken c p i ↔ NoLower p.shared (p.turn Shared.advance i).shared) :=
    fun p i peaks => peaks.unovertaken_iff (p.shared.advance_move (p.place i))
  exact guarded_iff_climbs (r := fun p q : Pool ι Shared Thread => NoLower p.shared q.shared)
    (fun _ _ => ⟨le_rfl, le_rfl⟩)
    (fun _ _ _ first second domain =>
      ⟨(first domain).1.trans (second domain).1, (first domain).2.trans (second domain).2⟩)
    kept climbs (.of_fresh fresh) schedule

end Runs

end Generations

/-- A rack offers a generation of its declaration. -/
def Thread.offers (generation : UInt64) : Thread where
  io := .sample
  stage := .offering ⟨ascii "member-1"⟩ ⟨1, ⟨ascii "boot-a"⟩⟩
    { MemberDomainDeclaration.sample (ascii "rack-1") with generation := ⟨generation⟩ } ⟨1, 1⟩

/-- Two connections of one incarnation offer its first and its second generation. -/
def contenders : Bool → Thread
  | false => .offers 1
  | true => .offers 2

theorem contenders_fresh : ∀ i, (contenders i).Fresh
  | false => ⟨rfl, trivial⟩
  | true => ⟨rfl, trivial⟩

/-- One after the other, they only climb. -/
theorem contenders_in_turn_climb :
    (∀ i, (contenders i).Fresh) ∧
      ∀ before later, before <+: later → later <+: [false, false, false, false, true, true, true] →
        NoLower
          (run (Pool.turn Shared.advance) ⟨{ controller := .greeted }, contenders⟩ before).shared
          (run (Pool.turn Shared.advance) ⟨{ controller := .greeted }, contenders⟩ later).shared :=
  ⟨contenders_fresh, (generations_never_decrease_iff contenders_fresh _).mp (by decide +kernel)⟩

/-- The first generation passes the fence before the second one is recorded, and is
written after it: it is what the map and the mark hold in the end. -/
theorem overtaken_generation_is_lost :
    (∀ i, (contenders i).Fresh) ∧ ∃ schedule,
      (∀ i, ((run (Pool.turn Shared.advance) ⟨{ controller := .greeted }, contenders⟩
        schedule).place i).accepted.isSome = true) ∧
      ¬ ∀ before later, before <+: later → later <+: schedule →
        NoLower (run (Pool.turn Shared.advance) ⟨{ controller := .greeted }, contenders⟩ before).shared
          (run (Pool.turn Shared.advance) ⟨{ controller := .greeted }, contenders⟩ later).shared := by
  refine ⟨contenders_fresh, [true, false, true, false, true, false, true, false],
    by decide +kernel, fun climbs => ?_⟩
  have higher : ¬ (run (Pool.turn Shared.advance) ⟨{ controller := .greeted }, contenders⟩
      [true, false, true]).shared.controller.heldGeneration ⟨.rack, ascii "rack-1"⟩ ≤
      (run (Pool.turn Shared.advance) ⟨{ controller := .greeted }, contenders⟩
      [true, false, true, false]).shared.controller.heldGeneration ⟨.rack, ascii "rack-1"⟩ := by
    decide +kernel
  exact higher (climbs [true, false, true] [true, false, true, false] ⟨_, rfl⟩ ⟨_, rfl⟩ _).1

end SiteFabric
