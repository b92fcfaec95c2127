import SiteFabric.Controller.Process
import SiteFabric.Lib.Run

/-! The accept loop.
Each accepted connection gets a handler, and a handler that has finished is
reaped when the next connection comes in. The count the bound is held against
goes up with each handler and down only when all of them are joined. -/

namespace SiteFabric

open Lib

structure Handler where
  done : Bool := false
deriving DecidableEq

structure AcceptLoop where
  maxConnections : Nat
  handlers : List Handler := []
  activeConnections : Nat := 0
  connectionsAccepted : Nat := 0
  connectionsRefused : Nat := 0
deriving DecidableEq

namespace AcceptLoop

/-- `reap_finished_handlers_locked` -/
def reapFinishedHandlers (s : AcceptLoop) : AcceptLoop :=
  { s with handlers := s.handlers.filter fun handler => !handler.done }

/-- One round of `accept_loop`, on a connection that came in. -/
def accept (s : AcceptLoop) : AcceptLoop :=
  let s := s.reapFinishedHandlers
  if s.activeConnections ≥ s.maxConnections then
    { s with connectionsRefused := s.connectionsRefused + 1 }
  else
    { s with
      handlers := s.handlers ++ [{}]
      activeConnections := s.activeConnections + 1
      connectionsAccepted := s.connectionsAccepted + 1 }

/-- A connection has ended, and its handler says so. -/
def finish (s : AcceptLoop) (index : Nat) : AcceptLoop :=
  { s with handlers := s.handlers.modify index fun _ => { done := true } }

def joinHandlers (s : AcceptLoop) : AcceptLoop :=
  { s with handlers := [], activeConnections := 0 }

inductive Event where
  | incoming
  | finished (index : Nat)
  | joined
deriving DecidableEq

def step (s : AcceptLoop) : Event → AcceptLoop
  | .incoming => s.accept
  | .finished index => s.finish index
  | .joined => s.joinHandlers

/-- The count is the number of handlers. -/
def Accounted (s : AcceptLoop) : Prop := s.activeConnections = s.handlers.length

/-- A peer is turned away. -/
def Refuses (s : AcceptLoop) (event : Event) : Prop :=
  (s.step event).connectionsRefused = s.connectionsRefused + 1

/-- No connection comes in while a finished handler waits to be reaped. -/
def Unfinished (s : AcceptLoop) (event : Event) : Prop :=
  event = .incoming → ∀ handler ∈ s.handlers, handler.done = false

instance (s : AcceptLoop) : Decidable s.Accounted := inferInstanceAs (Decidable (_ = _))

instance (s : AcceptLoop) (event : Event) : Decidable (s.Refuses event) :=
  inferInstanceAs (Decidable (_ = _))

instance (s : AcceptLoop) (event : Event) : Decidable (s.Unfinished event) :=
  inferInstanceAs (Decidable (_ → _))

theorem reapFinishedHandlers_eq {s : AcceptLoop} (busy : ∀ handler ∈ s.handlers, handler.done = false) :
    s.reapFinishedHandlers = s := by
  have kept : s.handlers.filter (fun handler => !handler.done) = s.handlers :=
    List.filter_eq_self.mpr fun handler listed => by rw [busy handler listed, Bool.not_false]
  rw [reapFinishedHandlers, kept]

theorem length_reapFinishedHandlers_lt {s : AcceptLoop} {handler : Handler}
    (listed : handler ∈ s.handlers) (done : handler.done = true) :
    s.reapFinishedHandlers.handlers.length < s.handlers.length :=
  List.length_filter_lt_length_iff_exists.mpr ⟨handler, listed, by simp [done]⟩

/-- A step keeps the count right exactly when it reaps nobody. -/
theorem step_accounted_iff {s : AcceptLoop} (accounted : s.Accounted) (event : Event) :
    (s.step event).Accounted ↔ s.Unfinished event := by
  have count : s.activeConnections = s.handlers.length := accounted
  cases event with
  | finished index =>
    refine iff_of_true ?_ nofun
    simp only [step, finish, Accounted, List.length_modify, count]
  | joined => exact iff_of_true rfl nofun
  | incoming =>
    constructor
    · intro kept _ handler listed
      by_contra done
      have shorter := length_reapFinishedHandlers_lt listed (by simpa using done)
      have same : s.reapFinishedHandlers.activeConnections = s.activeConnections := rfl
      unfold step accept Accounted at kept
      dsimp only at kept
      split at kept
      · dsimp only at kept
        omega
      · simp only [List.length_append, List.length_cons, List.length_nil] at kept
        omega
    · intro busy
      have busy := reapFinishedHandlers_eq (busy rfl)
      unfold step accept Accounted
      dsimp only
      rw [busy]
      split
      · exact count
      · simp only [List.length_append, List.length_cons, List.length_nil]
        omega

/-- Who is turned away finds the count at the bound. -/
theorem Refuses.full {s : AcceptLoop} {event : Event} (refuses : s.Refuses event) :
    (s.step event).maxConnections ≤ (s.step event).activeConnections := by
  cases event with
  | finished index => exact absurd refuses (Nat.ne_of_lt (Nat.lt_succ_self _))
  | joined => exact absurd refuses (Nat.ne_of_lt (Nat.lt_succ_self _))
  | incoming =>
    unfold Refuses step accept at refuses
    unfold step accept
    dsimp only at refuses ⊢
    split at refuses
    · next full =>
      rw [if_pos full]
      exact full
    · exact absurd refuses (Nat.ne_of_lt (Nat.lt_succ_self _))

theorem step_maxConnections (s : AcceptLoop) (event : Event) :
    (s.step event).maxConnections = s.maxConnections := by
  cases event with
  | finished index => rfl
  | joined => rfl
  | incoming =>
    unfold step accept
    dsimp only
    split <;> rfl

/-- The count is right in every state of a run exactly when no step reaps. -/
theorem run_accounted_iff {s : AcceptLoop} (accounted : s.Accounted) (events : List Event) :
    (∀ before, before <+: events → (run step s before).Accounted) ↔
      Guarded step Unfinished s events := by
  induction events generalizing s with
  | nil =>
    refine iff_of_true (fun before within => ?_) trivial
    rw [List.prefix_nil.mp within]
    exact accounted
  | cons event rest ih =>
    constructor
    · intro always
      have next : (s.step event).Accounted := always [event] ⟨rest, rfl⟩
      refine ⟨(step_accounted_iff accounted event).mp next, (ih next).mp fun before within => ?_⟩
      exact always (event :: before) (List.cons_prefix_cons.mpr ⟨rfl, within⟩)
    · rintro ⟨first, others⟩ before within
      have next := (step_accounted_iff accounted event).mpr first
      cases before with
      | nil => exact accounted
      | cons head tail =>
        obtain ⟨same, shorter⟩ := List.cons_prefix_cons.mp within
        rw [same]
        exact (ih next).mpr others tail shorter

end AcceptLoop

/-- In every state of a run of the accept loop the count is the number of handlers,
and a peer is turned away only when that many are there, exactly when no connection
comes in while a finished handler waits to be reaped. -/
theorem connection_accounting_iff (maxConnections : Nat) (events : List AcceptLoop.Event) :
    ((∀ before, before <+: events →
        (run AcceptLoop.step { maxConnections } before).Accounted) ∧
      ∀ before event, before ++ [event] <+: events →
        (run AcceptLoop.step { maxConnections } before).Refuses event →
          maxConnections ≤
            (run AcceptLoop.step { maxConnections } (before ++ [event])).handlers.length) ↔
      Guarded AcceptLoop.step AcceptLoop.Unfinished { maxConnections } events := by
  have start : AcceptLoop.Accounted { maxConnections } := rfl
  have bound : ∀ before,
      (run AcceptLoop.step { maxConnections } before).maxConnections = maxConnections :=
    fun before => run_stable (fun s : AcceptLoop => s.maxConnections = maxConnections)
      (fun s event same => (s.step_maxConnections event).trans same) before rfl
  rw [← AcceptLoop.run_accounted_iff start]
  refine ⟨And.left, fun always => ⟨always, fun before event within refuses => ?_⟩⟩
  have full := refuses.full
  have last := always (before ++ [event]) within
  have stepped : run AcceptLoop.step { maxConnections } (before ++ [event]) =
      (run AcceptLoop.step { maxConnections } before).step event := by
    rw [run_append, run_cons, run_nil]
  rw [← stepped, bound] at full
  exact full.trans last.le

/-- One connection at a time: once the first has ended, the second is turned away
although nobody is there. -/
theorem second_connection_is_refused :
    let events : List AcceptLoop.Event := [.incoming, .finished 0]
    let s := run AcceptLoop.step { maxConnections := 1 } events
    s.Refuses .incoming ∧ (s.step .incoming).handlers = [] ∧ ¬ (s.step .incoming).Accounted := by
  decide

end SiteFabric
