import SiteFabric.Controller.Offers
import SiteFabric.Controller.Restart

/-! Snapshots persisted once, twice or not at all.
A recomposition that was answered PUBLISHED reads the snapshot back from the chain
before it appends it. As long as no other one is answered in between, that is its own
snapshot, and the store gets every answered snapshot once. -/

namespace SiteFabric

open Lib Authority Store

namespace Stage

/-- Answered PUBLISHED, and the snapshot not yet read back. -/
def Unread : Stage → Prop
  | .published _ | .counted _ => True
  | _ => False

/-- Answered PUBLISHED, and the snapshot not yet persisted. -/
def Due : Stage → Prop
  | .published _ | .counted _ | .stamped _ => True
  | _ => False

/-- A stage of a recomposition. -/
def Recomposing : Stage → Prop
  | .offering .. | .fenced _ | .entered _ | .recorded _ => False
  | _ => True

end Stage

namespace Shared

/-- The snapshot a thread that is due would persist, were it to go on alone. -/
def owed (s : Shared) (t : Thread) : SiteSnapshot :=
  match t.stage with
  | .stamped snapshot => snapshot
  | .published snapshot | .counted snapshot => s.controller.chain.current.getD snapshot
  | _ => default

/-- The chain takes the snapshot a thread has a lease for. -/
def Takes (s : Shared) (t : Thread) : Prop :=
  ∃ token snapshot, t.stage = .leased token snapshot ∧
    s.controller.chain.Takes snapshot token t.io.recomposeMs

/-- What a store is asked for snapshots that are all appended. -/
def entries (stored : List SiteSnapshot) : List (Content × Status) :=
  stored.map fun snapshot => (.snapshot snapshot, .ok)

/-- The store holds each snapshot that was answered PUBLISHED once: their records are
what stands behind the image it began with, and all it has been asked for since. -/
def HoldsOnce (s : Shared) (image : List UInt8) (asked : List (Content × Status)) : Prop :=
  ∃ (store : SiteStore) (stored : List SiteSnapshot),
    s.controller.ledger = (some store, asked ++ entries stored) ∧
    store.Open (image ++ stored.flatMap fun snapshot => (Content.snapshot snapshot).record) ∧
    stored.Perm (s.answered.map Prod.snd)

end Shared

section Pools

variable {ι : Type}

/-- A snapshot that the chain takes finds no other one unread. -/
def Undisturbed (p : Pool ι Shared Thread) (i : ι) : Prop :=
  p.shared.controller.crashed = false → p.shared.Takes (p.place i) →
    ∀ j, j ≠ i → ¬ (p.place j).stage.Unread

/-- The append of a snapshot returns OK. -/
def Appends (p : Pool ι Shared Thread) (i : ι) : Prop :=
  p.shared.controller.crashed = false → ∀ snapshot, (p.place i).stage = .stamped snapshot →
    (p.shared.controller.persist (p.place i).io.snapshot (.snapshot snapshot)).1 = .ok

/-- What the store holds and what threads still owe it is what was answered. -/
structure Accounted (image : List UInt8) (asked : List (Content × Status))
    (p : Pool ι Shared Thread) : Prop where
  recomposing : ∀ i, (p.place i).stage.Recomposing
  single : ∀ i j, (p.place i).stage.Unread → (p.place j).stage.Unread → i = j
  balance : ∃ (store : SiteStore) (stored : List SiteSnapshot) (due : List ι),
    p.shared.controller.ledger = (some store, asked ++ Shared.entries stored) ∧
    store.Open (image ++ stored.flatMap fun snapshot => (Content.snapshot snapshot).record) ∧
    due.Nodup ∧ (∀ i, i ∈ due ↔ (p.place i).stage.Due) ∧
    (stored ++ due.map fun i => p.shared.owed (p.place i)).Perm (p.shared.answered.map Prod.snd)

end Pools

namespace Accounted

variable {ι : Type} [DecidableEq ι] {image : List UInt8} {asked : List (Content × Status)}
variable {p : Pool ι Shared Thread} {i : ι} {later : Shared × Thread}

/-- A step that neither publishes nor persists. -/
theorem steady (accounted : Accounted image asked p)
    (chain : later.1.controller.chain = p.shared.controller.chain)
    (ledger : later.1.controller.ledger = p.shared.controller.ledger)
    (answered : later.1.answered = p.shared.answered) (recomposing : later.2.stage.Recomposing)
    (due : later.2.stage.Due ↔ (p.place i).stage.Due)
    (unread : later.2.stage.Unread → (p.place i).stage.Unread)
    (owed : (p.place i).stage.Due → later.1.owed later.2 = p.shared.owed (p.place i)) :
    Accounted image asked (p.moved i later) := by
  have same : ∀ t : Thread, later.1.owed t = p.shared.owed t := by
    intro t
    rw [Shared.owed, Shared.owed, chain]
  have dues : ∀ j, ((p.moved i later).place j).stage.Due ↔ (p.place j).stage.Due := by
    intro j
    by_cases mover : j = i
    · rw [mover, Pool.moved_place, due]
    · rw [Pool.moved_place_of_ne mover]
  have unreads : ∀ j, ((p.moved i later).place j).stage.Unread → (p.place j).stage.Unread := by
    intro j
    by_cases mover : j = i
    · rw [mover, Pool.moved_place]
      exact unread
    · rw [Pool.moved_place_of_ne mover]
      exact id
  obtain ⟨kept, stored, list, there, open_, nodup, listed, balance⟩ := accounted.balance
  refine ⟨Pool.forall_moved (P := fun _ (t : Thread) => t.stage.Recomposing) recomposing fun j _ =>
    accounted.recomposing j, fun j k one other => accounted.single j k (unreads j one)
    (unreads k other), kept, stored, list, ledger.trans there, open_, nodup,
    fun j => (listed j).trans (dues j).symm, ?_⟩
  have each : (list.map fun j => later.1.owed ((p.moved i later).place j)) =
      list.map fun j => p.shared.owed (p.place j) := by
    refine List.map_congr_left fun j member => ?_
    by_cases mover : j = i
    · subst mover
      rw [Pool.moved_place]
      exact owed ((listed j).mp member)
    · rw [Pool.moved_place_of_ne mover, same]
  rw [Pool.moved_shared, each, answered]
  exact balance

/-- A step outside the stages that are due. -/
theorem quiet (accounted : Accounted image asked p)
    (chain : later.1.controller.chain = p.shared.controller.chain)
    (ledger : later.1.controller.ledger = p.shared.controller.ledger)
    (answered : later.1.answered = p.shared.answered) (recomposing : later.2.stage.Recomposing)
    (before : ¬ (p.place i).stage.Due) (after : ¬ later.2.stage.Due) :
    Accounted image asked (p.moved i later) := by
  refine accounted.steady chain ledger answered recomposing (iff_of_false after before) ?_
    fun due => (before due).elim
  intro unread
  refine (after ?_).elim
  cases stage : later.2.stage <;> rw [stage] at unread <;> trivial

/-- The chain takes a snapshot, and finds no other one unread. -/
theorem answer (accounted : Accounted image asked p) {token : AuthorityToken} {snapshot : SiteSnapshot}
    (before : (p.place i).stage = .leased token snapshot)
    (alone : ∀ j, j ≠ i → ¬ (p.place j).stage.Unread)
    (ledger : later.1.controller.ledger = p.shared.controller.ledger)
    (after : later.2.stage = .published snapshot)
    (answered : later.1.answered = p.shared.answered ++
      [((p.place i).input, later.1.controller.chain.current.getD snapshot)]) :
    Accounted image asked (p.moved i later) := by
  obtain ⟨kept, stored, list, there, open_, nodup, listed, balance⟩ := accounted.balance
  have absent : i ∉ list := fun member => by
    have due := (listed i).mp member
    rw [before] at due
    exact due
  refine ⟨Pool.forall_moved (P := fun _ (t : Thread) => t.stage.Recomposing) ?_ fun j _ =>
    accounted.recomposing j, fun j k one other => ?_, kept, stored, i :: list, ledger.trans there,
    open_, List.nodup_cons.mpr ⟨absent, nodup⟩, fun j => ?_, ?_⟩
  · rw [after]
    trivial
  · have mine : ∀ j, ((p.moved i later).place j).stage.Unread → j = i := by
      intro j unread
      by_contra other
      rw [Pool.moved_place_of_ne other] at unread
      exact alone j other unread
    exact (mine j one).trans (mine k other).symm
  · by_cases mover : j = i
    · subst mover
      rw [Pool.moved_place, after]
      exact iff_of_true List.mem_cons_self trivial
    · rw [Pool.moved_place_of_ne mover, List.mem_cons, listed, or_iff_right mover]
  · have each : (list.map fun j => later.1.owed ((p.moved i later).place j)) =
        list.map fun j => p.shared.owed (p.place j) := by
      refine List.map_congr_left fun j member => ?_
      have other : j ≠ i := fun same => absent (same ▸ member)
      have due := (listed j).mp member
      have read := alone j other
      rw [Pool.moved_place_of_ne other]
      cases stage : (p.place j).stage <;> rw [stage] at due read <;>
        first | exact due.elim | exact (read trivial).elim | simp only [Shared.owed, stage]
    have own : later.1.owed ((p.moved i later).place i) =
        later.1.controller.chain.current.getD snapshot := by
      rw [Pool.moved_place, Shared.owed, after]
    rw [Pool.moved_shared, List.map_cons, own, each, answered, List.map_append]
    exact (List.perm_middle.trans (balance.cons _)).trans (List.perm_append_singleton ..).symm

/-- A stamped snapshot is persisted. -/
theorem persisted (accounted : Accounted image asked p) {snapshot : SiteSnapshot}
    (before : (p.place i).stage = .stamped snapshot) {io : Answers}
    (ok : (p.shared.controller.persist io (.snapshot snapshot)).1 = .ok)
    (controller : later.1.controller =
      (p.shared.controller.persist io (.snapshot snapshot)).2)
    (answered : later.1.answered = p.shared.answered) (after : later.2.stage = .returned) :
    Accounted image asked (p.moved i later) := by
  obtain ⟨kept, stored, list, there, open_, nodup, listed, balance⟩ := accounted.balance
  have member : i ∈ list := (listed i).mpr (by rw [before]; trivial)
  have held : p.shared.controller.store = some kept := congrArg Prod.fst there
  have appended : (kept.append io (.snapshot snapshot)).1 = .ok := by
    rw [SiteController.persist, held] at ok
    exact ok
  have ledger : later.1.controller.ledger = (some (kept.append io (.snapshot snapshot)).2,
      asked ++ Shared.entries (stored ++ [snapshot])) := by
    rw [controller, SiteController.persist_ledger, there, SiteController.Ledger.write]
    dsimp only
    rw [appended, List.append_assoc, Shared.entries, Shared.entries, List.map_append]
    rfl
  have chain : later.1.controller.chain = p.shared.controller.chain := by
    rw [controller, SiteController.persist, held]
  obtain ⟨longer, -⟩ := open_.append appended
  refine ⟨Pool.forall_moved (P := fun _ (t : Thread) => t.stage.Recomposing) ?_ fun j _ =>
    accounted.recomposing j, fun j k one other => ?_, _, stored ++ [snapshot], list.erase i, ledger,
    ?_, nodup.erase i, fun j => ?_, ?_⟩
  · rw [after]
    trivial
  · have theirs : ∀ j, ((p.moved i later).place j).stage.Unread → (p.place j).stage.Unread := by
      intro j unread
      by_cases mover : j = i
      · subst mover
        rw [Pool.moved_place, after] at unread
        exact unread.elim
      · rwa [Pool.moved_place_of_ne mover] at unread
    exact accounted.single j k (theirs j one) (theirs k other)
  · simpa only [List.flatMap_append, List.flatMap_singleton, List.append_assoc] using longer
  · rw [nodup.mem_erase_iff, listed]
    by_cases mover : j = i
    · subst mover
      rw [Pool.moved_place, after]
      exact iff_of_false (fun both => both.1 rfl) id
    · rw [Pool.moved_place_of_ne mover, and_iff_right mover]
  · have each : ((list.erase i).map fun j => later.1.owed ((p.moved i later).place j)) =
        (list.erase i).map fun j => p.shared.owed (p.place j) := by
      refine List.map_congr_left fun j member => ?_
      rw [Pool.moved_place_of_ne (nodup.mem_erase_iff.mp member).1, Shared.owed, Shared.owed, chain]
    have own : p.shared.owed (p.place i) = snapshot := by rw [Shared.owed, before]
    have split := (List.perm_cons_erase member).map fun j => p.shared.owed (p.place j)
    rw [List.map_cons, own] at split
    rw [Pool.moved_shared, each, answered, List.append_assoc]
    exact (split.symm.append_left stored).trans balance

/-- A lease leaves the chain, the store and the answers alone. -/
theorem lease_frame (s : Shared) (t : Thread) (site : ComposedSite) :
    (s.lease t site).1.controller.chain = s.controller.chain ∧
      (s.lease t site).1.controller.ledger = s.controller.ledger ∧
      (s.lease t site).1.answered = s.answered ∧ (s.lease t site).2.stage.Recomposing ∧
      ¬ (s.lease t site).2.stage.Due := by
  unfold Shared.lease
  dsimp only
  split
  · exact ⟨rfl, rfl, rfl, trivial, id⟩
  split <;> exact ⟨rfl, rfl, rfl, trivial, id⟩

variable [StdSort]

/-- Every turn keeps the account. -/
theorem turn (accounted : Accounted image asked p) (undisturbed : Undisturbed p i)
    (appends : Appends p i) : Accounted image asked (p.turn Shared.advance i) := by
  have recomposing := accounted.recomposing i
  rw [Pool.turn_eq_moved]
  cases alive : p.shared.controller.crashed with
  | true =>
    rw [Shared.advance_crashed alive]
    exact accounted.steady rfl rfl rfl recomposing Iff.rfl id fun _ => rfl
  | false =>
    cases before : (p.place i).stage with
    | offering => exact (before ▸ recomposing).elim
    | fenced => exact (before ▸ recomposing).elim
    | entered => exact (before ▸ recomposing).elim
    | recorded => exact (before ▸ recomposing).elim
    | composing =>
      rw [Shared.advance_composing alive before]
      exact accounted.quiet rfl rfl rfl trivial (by rw [before]; exact id) id
    | copied =>
      have idle : ¬ (p.place i).stage.Due := by rw [before]; exact id
      rw [Shared.advance_copied alive before]
      split
      · exact accounted.quiet rfl rfl rfl recomposing idle idle
      · exact accounted.quiet rfl rfl rfl trivial idle id
      · obtain ⟨chain, ledger, answered, stage, due⟩ := lease_frame p.shared (p.place i) _
        exact accounted.quiet chain ledger answered stage idle due
    | leased token snapshot =>
      have idle : ¬ (p.place i).stage.Due := by rw [before]; exact id
      rw [Shared.advance_leased alive before, Shared.offer]
      rcases p.shared.controller.chain.publish_answer snapshot token (p.place i).io.recomposeMs with
        ⟨-, same, failed⟩ | ⟨takes, status⟩
      · rw [if_pos (by rcases failed with bad | repeated <;> simp [*])]
        exact accounted.quiet same rfl rfl trivial idle id
      · rw [if_neg (by rw [status]; decide)]
        exact accounted.answer before (undisturbed alive ⟨token, snapshot, before, takes⟩) rfl rfl rfl
    | published snapshot =>
      rw [Shared.advance_published alive before]
      refine accounted.steady rfl rfl rfl trivial ?_ (fun _ => ?_) fun _ => ?_
      · rw [before]
        exact Iff.rfl
      · rw [before]
        trivial
      · simp only [Shared.owed, before, Shared.holding]
    | counted snapshot =>
      rw [Shared.advance_counted alive before]
      refine accounted.steady rfl rfl rfl trivial ?_ False.elim fun _ => ?_
      · rw [before]
        exact Iff.rfl
      · simp only [Shared.owed, before]
    | stamped snapshot =>
      rw [Shared.advance_stamped alive before]
      exact accounted.persisted before (appends alive snapshot before) rfl rfl rfl
    | returned =>
      rw [Shared.advance_returned before]
      exact accounted.steady rfl rfl rfl recomposing Iff.rfl id fun _ => rfl

omit [DecidableEq ι] [StdSort] in
/-- Before any recomposition has moved. -/
theorem of_composing {c : SiteController} {threads : ι → Thread} {store : SiteStore}
    (there : c.store = some store) (open_ : store.Open image)
    (composing : ∀ i, (threads i).stage = .composing) :
    Accounted image c.journal ⟨{ controller := c }, threads⟩ where
  recomposing i := by
    rw [composing i]
    trivial
  single i j unread := by
    rw [composing i] at unread
    exact unread.elim
  balance := by
    refine ⟨store, [], [], ?_, by simpa using open_, List.nodup_nil, fun i => ?_, .refl _⟩
    · rw [SiteController.ledger, there, Shared.entries, List.map_nil, List.append_nil]
    rw [composing i]
    exact iff_of_false List.not_mem_nil id

omit [DecidableEq ι] [StdSort] in
/-- Nothing is owed once every recomposition has returned. -/
theorem holdsOnce (accounted : Accounted image asked p)
    (returned : ∀ i, (p.place i).stage = .returned) : p.shared.HoldsOnce image asked := by
  obtain ⟨store, stored, due, there, open_, -, listed, balance⟩ := accounted.balance
  have none : due = [] := List.eq_nil_iff_forall_not_mem.mpr fun i member => by
    have still := (listed i).mp member
    rw [returned i] at still
    exact still
  rw [none, List.map_nil, List.append_nil] at balance
  exact ⟨store, stored, there, open_, balance⟩

end Accounted

/-- In every interleaving of recompositions whose appends return OK, and in which the
chain takes no snapshot while another one is unread, the store gets each snapshot that
was answered PUBLISHED once. -/
theorem published_snapshots_persist_once [StdSort] {ι : Type} [DecidableEq ι] {c : SiteController}
    {store : SiteStore} {image : List UInt8} (there : c.store = some store)
    (open_ : store.Open image) {threads : ι → Thread}
    (composing : ∀ i, (threads i).stage = .composing) {schedule : List ι}
    (undisturbed : Guarded (Pool.turn Shared.advance) Undisturbed
      ⟨{ controller := c }, threads⟩ schedule)
    (appends : Guarded (Pool.turn Shared.advance) Appends ⟨{ controller := c }, threads⟩ schedule)
    (returned : ∀ i, ((run (Pool.turn Shared.advance) ⟨{ controller := c }, threads⟩
      schedule).place i).stage = .returned) :
    (run (Pool.turn Shared.advance) ⟨{ controller := c }, threads⟩ schedule).shared.HoldsOnce
      image c.journal := by
  refine Accounted.holdsOnce ?_ returned
  exact run_invariant (Accounted image c.journal)
    (fun p i accounted guard => accounted.turn guard.1 guard.2) schedule
    (.of_composing there open_ composing) (undisturbed.and appends)

section Samples

namespace Stage

def stamped? : Stage → Option SiteSnapshot
  | .stamped snapshot => some snapshot
  | _ => none

theorem stamped?_eq {stage : Stage} {snapshot : SiteSnapshot} :
    snapshot ∈ stage.stamped? ↔ stage = .stamped snapshot := by
  cases stage <;> simp [stamped?, eq_comm]

def isUnread : Stage → Bool
  | .published _ | .counted _ => true
  | _ => false

instance (stage : Stage) : Decidable stage.Unread :=
  decidable_of_iff (stage.isUnread = true) (by cases stage <;> simp [isUnread, Unread])

def isReturned : Stage → Bool
  | .returned => true
  | _ => false

instance (stage : Stage) : Decidable (stage = .returned) :=
  decidable_of_iff (stage.isReturned = true) (by cases stage <;> simp [isReturned])

end Stage

instance {ι : Type} (p : Pool ι Shared Thread) (i : ι) : Decidable (Appends p i) :=
  decidable_of_iff (p.shared.controller.crashed = false →
      ∀ snapshot ∈ (p.place i).stage.stamped?,
        (p.shared.controller.persist (p.place i).io.snapshot (.snapshot snapshot)).1 = .ok)
    (by simp only [Appends, Stage.stamped?_eq])

/-- The sample controller in its first term, over a new store. -/
def SiteController.persisting : SiteController :=
  { SiteController.stored.nextTerm with running := true, store := some SiteStore.fresh }

/-- Two recompositions at once. -/
def recomposers : Pool Bool Shared Thread where
  shared := { controller := .persisting }
  place _ := { io := .sample, stage := .composing }

theorem recomposers_sealed : SealedPool recomposers := ⟨by decide, fun _ => trivial⟩

/-- One after the other, they persist both snapshots once. -/
theorem recomposers_in_turn_persist_once :
    (run (Pool.turn Shared.advance) recomposers
      (List.replicate 6 true ++ List.replicate 6 false)).shared.HoldsOnce
        makeFileHeader SiteController.persisting.journal := by
  have apart : Guarded (Pool.turn Shared.advance)
      (fun p i => ∀ j, j ≠ i → ¬ (p.place j).stage.Unread) recomposers
      (List.replicate 6 true ++ List.replicate 6 false) :=
    recomposers_sealed.guarded (by decide +kernel)
  have appends : Guarded (Pool.turn Shared.advance) Appends recomposers
      (List.replicate 6 true ++ List.replicate 6 false) :=
    recomposers_sealed.guarded (by decide +kernel)
  have returned : ∀ i, ((run (Pool.turn Shared.advance) recomposers
      (List.replicate 6 true ++ List.replicate 6 false)).place i).stage = .returned := by
    rw [recomposers_sealed.run_eq]
    decide +kernel
  apply published_snapshots_persist_once (c := .persisting) rfl SiteStore.fresh_intact.toOpen
  · exact fun _ => rfl
  · exact apart.imp fun p i alone _ _ => alone
  · exact appends
  · exact returned

/-- The numbers of the snapshots among what a store was asked for. -/
def numbers (asked : List (Content × Status)) : List UInt64 :=
  asked.filterMap fun entry =>
    match entry.1 with
    | .snapshot snapshot => some snapshot.sequence
    | _ => none

/-- A store that was asked for nothing before has been asked for the snapshots that were
answered PUBLISHED. -/
theorem Shared.HoldsOnce.numbers_perm {s : Shared} {image : List UInt8} (once : s.HoldsOnce image []) :
    (numbers s.controller.journal).Perm (s.answered.map fun entry => entry.2.sequence) := by
  obtain ⟨store, stored, ledger, -, once⟩ := once
  have journal : s.controller.journal = entries stored := congrArg Prod.snd ledger
  have own : numbers (entries stored) = stored.map SiteSnapshot.sequence := by
    simp [numbers, entries, List.filterMap_map]
  have answered := once.map SiteSnapshot.sequence
  rw [List.map_map] at answered
  rw [journal, own]
  exact answered

/-- The first one is answered PUBLISHED, then the second one, and only then the first
one reads the chain: the second snapshot is persisted twice, the first one never. -/
theorem disturbed_snapshot_persists_twice :
    ∃ schedule, Guarded (Pool.turn Shared.advance) Appends recomposers schedule ∧
      (∀ i, ((run (Pool.turn Shared.advance) recomposers schedule).place i).stage = .returned) ∧
      ¬ (run (Pool.turn Shared.advance) recomposers schedule).shared.HoldsOnce
        makeFileHeader SiteController.persisting.journal := by
  refine ⟨[true, true, true, true, false, false, false, true, true, false, false, false], ?_, ?_, ?_⟩
  · exact recomposers_sealed.guarded (by decide +kernel)
  · rw [recomposers_sealed.run_eq]
    decide +kernel
  · rw [recomposers_sealed.run_eq]
    intro once
    have same := once.numbers_perm
    revert same
    decide +kernel

end Samples

end SiteFabric
