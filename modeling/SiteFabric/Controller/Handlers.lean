import SiteFabric.Controller.Lockstep

/-! The life of a handler.
A connection that its handler has ended does not come back, and until then it keeps the
session that its last HELLO opened. A round uses up some of what the peer has sent, so a
handler that has its turn often enough answers all of it. -/

namespace SiteFabric

open Lib Protocol Transport TcpConnection
open Arrival (bursts)
open Std (ExtTreeMap)

namespace SiteServer

variable [StdSort]

end SiteServer

namespace WireServer

variable [StdSort]

/-- No frame is taken off a connection any more. -/
def Gone (connection : Nat) (w : WireServer) : Prop :=
  w.server.controller.crashed = true ∨ ∃ c, w.connections[connection]? = some c ∧ c.valid = false

theorem gone_hangUp (w : WireServer) (connection : Nat) (ending : Moment) (c : TcpConnection) :
    Gone connection (w.hangUp connection ending c) :=
  .inr ⟨c.close, put_held _ connection _, rfl⟩

/-- A closed connection stays as it is. -/
theorem closed_step {connection : Nat} {w : WireServer} {c : TcpConnection}
    (closed : w.connections[connection]? = some c) (invalid : c.valid = false) (event : Event) :
    (w.step event).connections[connection]? = some c := by
  cases crashed : w.server.controller.crashed with
  | true =>
    have idle : w.step event = w := if_pos crashed
    rw [idle]
    exact closed
  | false =>
    have apart {other : Nat} {c' : TcpConnection} (held : w.handler other = some c') :
        other ≠ connection := by
      rintro rfl
      obtain ⟨there, valid⟩ := handler_eq_some held
      obtain rfl := Option.some.inj (there.symm.trans closed)
      rw [invalid] at valid
      cases valid
    have steps := w.step_steps event
    generalize w.step event = later at steps ⊢
    generalize w.outcome event = outcome at steps
    cases steps with
    | quiet => exact closed
    | called => exact closed
    | accepted other socket fresh =>
      refine (put_elsewhere w (fun same => fresh ?_) socket).trans closed
      rw [same, ExtTreeMap.mem_iff_isSome_getElem?, closed]
      rfl
    | stopped other ending c' held => exact (put_elsewhere _ (apart held) _).trans closed
    | round other io ending c' held later outcome rounds =>
      exact (rounds.elsewhere (apart held)).trans closed

/-- A connection that is gone does not come back. -/
theorem gone_step {connection : Nat} {w : WireServer} (gone : Gone connection w) (event : Event) :
    Gone connection (w.step event) := by
  rcases gone with crashed | ⟨c, closed, invalid⟩
  · have idle : w.step event = w := if_pos crashed
    rw [idle]
    exact .inl crashed
  · exact .inr ⟨c, closed_step closed invalid event, invalid⟩

theorem gone_run {connection : Nat} {w : WireServer} (gone : Gone connection w)
    (events : List Event) : Gone connection (run step w events) :=
  run_stable (Gone connection) (fun _ event gone => gone_step gone event) events gone

theorem taken_round {connection : Nat} {w : WireServer} {event : Event}
    {taken : Frame × Option Frame} (took : taken ∈ takenBy connection (w.outcome event).2) :
    (∃ io ending, event = .round connection io ending) ∧ ¬ Gone connection w := by
  unfold outcome at took
  split at took
  · cases took
  next running =>
  cases event with
  | accepted | stopped | called =>
    dsimp only at took
    first | cases took | (split at took <;> cases took)
  | round other io ending =>
    dsimp only at took
    cases held : w.handler other with
    | none =>
      rw [held] at took
      cases took
    | some c =>
      rw [held] at took
      by_cases same : other = connection
      · subst same
        obtain ⟨there, valid⟩ := handler_eq_some held
        refine ⟨⟨io, ending, rfl⟩, ?_⟩
        rintro (crashed | ⟨c', there', invalid⟩)
        · exact running crashed
        · obtain rfl := Option.some.inj (there.symm.trans there')
          rw [valid] at invalid
          cases invalid
      · dsimp only at took
        rw [takenBy_other same] at took
        cases took

theorem takenOn_gone {connection : Nat} {w : WireServer} (gone : Gone connection w)
    (events : List Event) : takenOn connection w events = [] := by
  induction events generalizing w with
  | nil => rfl
  | cons event rest ih =>
    have none : takenBy connection (w.outcome event).2 = [] :=
      List.eq_nil_iff_forall_not_mem.mpr fun taken took => (w.taken_round took).2 gone
    rw [takenOn, none, ih (gone_step gone event)]
    rfl

/-- Where a frame was taken. -/
theorem taken_at {connection : Nat} {w : WireServer} {events : List Event} {i : Nat}
    {taken : Frame × Option Frame} (found : (takenOn connection w events)[i]? = some taken) :
    ∃ before io ending rest, events = before ++ .round connection io ending :: rest ∧
      (takenOn connection w before).length = i ∧ ¬ Gone connection (run step w before) ∧
      takenBy connection ((run step w before).outcome (.round connection io ending)).2 =
        [taken] := by
  induction events generalizing w i with
  | nil => cases found
  | cons event rest ih =>
    rw [takenOn] at found
    cases now : (takenBy connection (w.outcome event).2) with
    | nil =>
      rw [now, List.nil_append] at found
      obtain ⟨before, io, ending, later, rfl, length, stays, took⟩ := ih found
      refine ⟨event :: before, io, ending, later, rfl, ?_, stays, took⟩
      rw [takenOn, now, List.nil_append, length]
    | cons one more =>
      have alone : more = [] := by
        have short : (takenBy connection (w.outcome event).2).length ≤ 1 := by
          rw [takenBy, Option.length_toList]
          split <;> omega
        rw [now, List.length_cons] at short
        exact List.length_eq_zero_iff.mp (by omega)
      rw [alone] at now
      rw [now] at found
      cases i with
      | zero =>
        obtain rfl := Option.some.inj found
        obtain ⟨⟨io, ending, rfl⟩, stays⟩ := w.taken_round (now ▸ List.mem_singleton_self one)
        exact ⟨[], io, ending, rest, rfl, rfl, stays, now⟩
      | succ i =>
        obtain ⟨before, io, ending, later, rfl, length, stays, took⟩ := ih found
        refine ⟨event :: before, io, ending, later, rfl, ?_, stays, took⟩
        rw [takenOn, now, List.singleton_append, List.length_cons, length]

theorem takenOn_append (connection : Nat) (w : WireServer) (first second : List Event) :
    takenOn connection w (first ++ second) =
      takenOn connection w first ++ takenOn connection (run step w first) second := by
  induction first generalizing w with
  | nil => rfl
  | cons event rest ih => rw [List.cons_append, takenOn, ih, takenOn, List.append_assoc, run_cons]

/-- The answer to a frame is the controller's, and what it makes of the controller stays
with the connection. -/
theorem answered_at {connection : Nat} {w : WireServer} {io ending : Moment} {f answer : Frame}
    (took : takenBy connection (w.outcome (.round connection io ending)).2 = [(f, some answer)]) :
    answer = (w.server.respondFrame connection io f).2 ∧
      (¬ Gone connection (w.step (.round connection io ending)) →
        (w.step (.round connection io ending)).server =
          (w.server.respondFrame connection io f).1) := by
  unfold outcome step at *
  by_cases crashed : w.server.controller.crashed = true
  · rw [if_pos crashed] at took
    cases took
  rw [if_neg crashed] at took ⊢
  dsimp only at took ⊢
  cases held : w.handler connection with
  | none =>
    rw [held] at took
    cases took
  | some c =>
    rw [held] at took
    dsimp only at took ⊢
    have rounds := round_rounds (w := w) (handler_eq_some held).2 connection io ending
    rw [takenBy_self] at took
    generalize w.round connection io ending c = later at rounds ⊢
    generalize w.roundCalls connection io ending c = outcome at rounds took
    cases rounds with
    | busy => cases took
    | ended => cases took
    | crashed => cases took
    | answered f' later =>
      cases took
      exact ⟨rfl, fun _ => rfl⟩
    | cut f' frames later =>
      cases took
      exact ⟨rfl, fun stays => absurd (gone_hangUp _ connection ending later) stays⟩

/-- A frame is left without an answer by a process that is no more. -/
theorem unanswered_crashed {connection : Nat} {w : WireServer} {event : Event} {f : Frame}
    (taken : (f, none) ∈ takenBy connection (w.outcome event).2) :
    (w.step event).server.controller.crashed = true := by
  have steps := w.step_steps event
  generalize w.step event = later at steps ⊢
  generalize w.outcome event = outcome at steps taken
  cases steps with
  | quiet => cases taken
  | accepted => cases taken
  | round other io ending c held later outcome rounds =>
    by_cases same : other = connection
    · rw [same, takenBy_self] at taken
      cases rounds with
      | busy => cases taken
      | ended => cases taken
      | crashed f' frames loop crashed => exact crashed
      | answered => cases (Prod.mk.inj (List.mem_singleton.mp taken)).2
      | cut => cases (Prod.mk.inj (List.mem_singleton.mp taken)).2
    · rw [takenBy_other same] at taken
      cases taken
  | stopped => cases taken
  | called => cases taken

/-- Frames with their answers, and at most one that a crash has left without. -/
theorem takenOn_answered (connection : Nat) (w : WireServer) (events : List Event) :
    ∃ (pairs : List (Frame × Frame)) (lost : Option Frame), takenOn connection w events =
      pairs.map (fun pair => (pair.1, some pair.2)) ++ (lost.map fun f => (f, none)).toList := by
  induction events generalizing w with
  | nil => exact ⟨[], none, rfl⟩
  | cons event rest ih =>
    obtain ⟨pairs, lost, later⟩ := ih (w.step event)
    have dead (f : Frame) := @unanswered_crashed _ connection w event f
    rw [takenOn]
    unfold takenBy at dead ⊢
    generalize ((w.outcome event).2.filter (·.1 = connection)).map Prod.snd = taken at dead ⊢
    cases taken with
    | none => exact ⟨pairs, lost, later⟩
    | some one =>
      obtain ⟨f, answer⟩ := one
      cases answer with
      | some answer => exact ⟨(f, answer) :: pairs, lost, congrArg ((f, some answer) :: ·) later⟩
      | none =>
        rw [takenOn_gone (.inl (dead f List.mem_cons_self))]
        exact ⟨[], some f, rfl⟩

omit [StdSort] in
theorem answered_fst (pairs : List (Frame × Frame)) :
    (pairs.map fun pair => (pair.1, some pair.2)).map Prod.fst = pairs.map Prod.fst := by
  rw [List.map_map]
  rfl

omit [StdSort] in
theorem answered_snd (pairs : List (Frame × Frame)) :
    (pairs.map fun pair => (pair.1, some pair.2)).filterMap Prod.snd = pairs.map Prod.snd := by
  rw [List.filterMap_map]
  exact congrFun (List.filterMap_eq_map (f := Prod.snd)) pairs

/-- A round of the connection's handler. -/
def Event.serves (connection : Nat) : Event → Bool
  | .round other .. => other == connection
  | .accepted .. | .stopped .. | .called .. => false

/-- A round that leaves the connection open uses up some of what is to arrive on it. -/
theorem round_uses {w : WireServer} {connection : Nat} {io ending : Moment} {c : TcpConnection}
    (stays : ¬ Gone connection (w.round connection io ending c)) :
    ∃ later, (w.round connection io ending c).connections[connection]? = some later ∧
      (bursts later.incoming).weight < (bursts c.incoming).weight := by
  unfold round at stays ⊢
  generalize received : c.receiveFrame = outcome at stays ⊢
  obtain ⟨result, rest⟩ := outcome
  cases result with
  | error status =>
    cases status with
    | busy => exact ⟨rest, put_held w connection rest, receiveFrame_goes_on received (.inr rfl)⟩
    | _ => exact absurd (w.gone_hangUp connection ending rest) stays
  | ok f =>
    dsimp only at stays ⊢
    have uses := receiveFrame_goes_on received (.inl ⟨f, rfl⟩)
    by_cases crashed : (w.server.respondFrame connection io f).1.controller.crashed = true
    · rw [if_pos crashed] at stays
      exact absurd (.inl crashed) stays
    rw [if_neg crashed] at stays ⊢
    have sends := sendFrame_sends rest (w.server.respondFrame connection io f).2
    generalize sendFrame rest _ _ = sent at sends stays ⊢
    cases sends with
    | all puts sendable => exact ⟨_, put_held _ connection _, uses⟩
    | cut puts sendable count less => exact absurd (gone_hangUp _ connection ending _) stays
    | none status refused =>
      simp only [refused] at stays
      exact absurd (gone_hangUp _ connection ending _) stays

omit [StdSort] in
/-- A connection that is not gone is open. -/
theorem open_of_stays {w : WireServer} {connection : Nat} {c : TcpConnection}
    (held : w.connections[connection]? = some c) (stays : ¬ Gone connection w) :
    w.server.controller.crashed = false ∧ c.valid = true := by
  obtain ⟨running, opened⟩ := not_or.mp stays
  refine ⟨by simpa using running, ?_⟩
  by_contra closed
  exact opened ⟨c, held, by simpa using closed⟩

omit [StdSort] in
theorem handler_of_stays {w : WireServer} {connection : Nat} {c : TcpConnection}
    (held : w.connections[connection]? = some c) (stays : ¬ Gone connection w) :
    w.handler connection = some c := by
  rw [handler, held, Option.filter_some, if_pos (open_of_stays held stays).2]

theorem step_round {w : WireServer} {connection : Nat} {c : TcpConnection}
    (held : w.connections[connection]? = some c) (stays : ¬ Gone connection w)
    (io ending : Moment) :
    w.step (.round connection io ending) = w.round connection io ending c ∧
      w.outcome (.round connection io ending) = ((w.roundCalls connection io ending c).1,
        (w.roundCalls connection io ending c).2.map fun taken => (connection, taken)) := by
  have running : ¬ w.server.controller.crashed = true := (not_or.mp stays).1
  rw [step, outcome, if_neg running, if_neg running]
  dsimp only
  rw [handler_of_stays held stays]
  exact ⟨rfl, rfl⟩

/-- An event that is neither a round of the connection's handler nor its stop leaves the
connection alone. -/
theorem step_apart (w : WireServer) {connection : Nat} {c : TcpConnection}
    (held : w.connections[connection]? = some c) {event : Event}
    (apart : event.serves connection = false)
    (unstopped : ∀ ending, event ≠ .stopped connection ending) :
    (w.step event).connections[connection]? = some c := by
  unfold step
  split
  · exact held
  cases event with
  | accepted other socket =>
    dsimp only
    split
    · exact held
    next fresh =>
    refine (put_elsewhere w (fun same => fresh ?_) socket).trans held
    rw [same, ExtTreeMap.mem_iff_isSome_getElem?, held]
    rfl
  | round other io ending =>
    have ne : other ≠ connection := by simpa [Event.serves] using apart
    dsimp only
    cases handled : w.handler other with
    | none => exact held
    | some c' =>
      exact ((round_rounds (handler_eq_some handled).2 other io ending).elsewhere ne).trans held
  | stopped other ending =>
    have ne : other ≠ connection := fun same => unstopped ending (by rw [same])
    dsimp only
    cases handled : w.handler other with
    | none => exact held
    | some c' => exact (put_elsewhere _ ne _).trans held
  | called call =>
    dsimp only
    split <;> exact held

theorem step_uses {w : WireServer} {connection : Nat} {c : TcpConnection}
    (held : w.connections[connection]? = some c) {event : Event}
    (unstopped : ∀ ending, event ≠ .stopped connection ending)
    (stays : ¬ Gone connection (w.step event)) :
    ∃ later, (w.step event).connections[connection]? = some later ∧
      (bursts later.incoming).weight + (if event.serves connection then 1 else 0) ≤
        (bursts c.incoming).weight := by
  have there : ¬ Gone connection w := fun gone => stays (gone_step gone event)
  cases serves : event.serves connection with
  | false => exact ⟨c, w.step_apart held serves unstopped, le_rfl⟩
  | true =>
    cases event with
    | round other io ending =>
      obtain rfl : other = connection := by simpa [Event.serves] using serves
      rw [(step_round held there io ending).1] at stays ⊢
      obtain ⟨later, next, less⟩ := round_uses stays
      exact ⟨later, next, less⟩
    | accepted | stopped | called => cases serves

/-- As long as the connection stays open, every round of its handler has used up some of
what is to arrive on it. -/
theorem run_uses {w : WireServer} {connection : Nat} {c : TcpConnection}
    (held : w.connections[connection]? = some c) {events : List Event}
    (unstopped : ∀ ending, .stopped connection ending ∉ events)
    (stays : ¬ Gone connection (run step w events)) :
    events.countP (Event.serves connection) ≤ (bursts c.incoming).weight := by
  induction events generalizing w c with
  | nil => exact Nat.zero_le _
  | cons event rest ih =>
    obtain ⟨later, next, less⟩ := step_uses held
      (fun ending same => unstopped ending (same ▸ List.mem_cons_self))
      fun gone => stays (gone_run gone rest)
    have more := ih next
      (fun ending listed => unstopped ending (List.mem_cons_of_mem _ listed)) stays
    rw [List.countP_cons]
    omega

/-- How a connection ends that is not stopped: nothing more arrives on it, or an answer
does not go out whole. -/
theorem step_ends {w : WireServer} {connection : Nat} {c : TcpConnection}
    (held : w.connections[connection]? = some c) (stays : ¬ Gone connection w) {event : Event}
    (unstopped : ∀ ending, event ≠ .stopped connection ending)
    (gone : Gone connection (w.step event))
    (alive : (w.step event).server.controller.crashed = false) :
    ∃ later, (w.step event).connections[connection]? = some later ∧ later.valid = false ∧
      (takenBy connection (w.outcome event).2 = [] ∧ c.receiveLoop.1 = [] ∧
          later.written = c.written ∨
        ∃ f answer cut, takenBy connection (w.outcome event).2 = [(f, some answer)] ∧
          PartOf answer cut ∧ later.written = c.written ++ cut) := by
  obtain ⟨later, there, invalid⟩ := gone.resolve_left (by rw [alive]; decide)
  cases serves : event.serves connection with
  | false =>
    have same := Option.some.inj ((w.step_apart held serves unstopped).symm.trans there)
    rw [← same, (open_of_stays held stays).2] at invalid
    cases invalid
  | true =>
    cases event with
    | accepted | stopped | called => cases serves
    | round other io ending =>
      obtain rfl : other = connection := by simpa [Event.serves] using serves
      obtain ⟨goes, comes⟩ := step_round held stays io ending
      have rounds := round_rounds (w := w) (open_of_stays held stays).2 other io ending
      rw [comes]
      rw [goes] at alive there ⊢
      rw [takenBy_self]
      generalize w.round other io ending c = next at rounds alive there ⊢
      generalize w.roundCalls other io ending c = outcome at rounds ⊢
      refine ⟨later, there, invalid, ?_⟩
      cases rounds with
      | busy rest =>
        obtain rfl := Option.some.inj ((put_held w other _).symm.trans there)
        rw [(open_of_stays held stays).2] at invalid
        cases invalid
      | ended status rest loop =>
        obtain rfl := Option.some.inj ((put_held _ other _).symm.trans there)
        exact .inl ⟨rfl, congrArg Prod.fst loop, rfl⟩
      | crashed f frames loop crashed =>
        rw [crashed] at alive
        cases alive
      | answered f c' valid =>
        obtain rfl := Option.some.inj ((put_held _ other _).symm.trans there)
        rw [valid] at invalid
        cases invalid
      | cut f frames c' cut loop part wrote =>
        obtain rfl := Option.some.inj ((put_held _ other _).symm.trans there)
        exact .inr ⟨f, _, cut, rfl, part, wrote⟩

theorem closed_run {connection : Nat} {w : WireServer} {c : TcpConnection}
    (closed : w.connections[connection]? = some c) (invalid : c.valid = false)
    (events : List Event) : (run step w events).connections[connection]? = some c :=
  run_stable (fun w : WireServer => w.connections[connection]? = some c)
    (fun _ event closed => closed_step closed invalid event) events closed

theorem crashed_run {w : WireServer} (crashed : w.server.controller.crashed = true)
    (events : List Event) : (run step w events).server.controller.crashed = true :=
  run_stable (fun w : WireServer => w.server.controller.crashed = true)
    (fun w event crashed => by
      have idle : w.step event = w := if_pos crashed
      rwa [idle]) events crashed

/-- A living process has answered every frame it took. -/
theorem takenOn_alive (connection : Nat) {w : WireServer} {events : List Event}
    (alive : (run step w events).server.controller.crashed = false) :
    ∃ pairs : List (Frame × Frame), takenOn connection w events =
      pairs.map fun pair => (pair.1, some pair.2) := by
  obtain ⟨pairs, lost, split⟩ := w.takenOn_answered connection events
  cases lost with
  | none => exact ⟨pairs, split.trans (List.append_nil _)⟩
  | some f =>
    have place : (takenOn connection w events)[pairs.length]? = some (f, none) := by
      rw [split, List.getElem?_append_right (by simp), List.length_map, Nat.sub_self]
      rfl
    obtain ⟨before, io, ending, rest, rfl, -, -, took⟩ := taken_at place
    have crashed := unanswered_crashed (took ▸ List.mem_singleton_self (f, none))
    rw [run_append, run_cons, crashed_run crashed] at alive
    cases alive

end WireServer

section

open WireServer

variable [StdSort] {w : WireServer} {connection : Nat} {socket : TcpConnection}

/-- A handler that is not stopped, and has more rounds than bytes and breaks are to
arrive, has answered every frame, or given up on an answer that did not go out whole. -/
theorem handlers_answer_everything (held : w.connections[connection]? = some socket)
    (valid : socket.valid = true) (fresh : socket.written = []) {events : List WireServer.Event}
    (unstopped : ∀ ending, .stopped connection ending ∉ events)
    (enough : (bursts socket.incoming).weight < events.countP (Event.serves connection))
    (alive : (run WireServer.step w events).server.controller.crashed = false) :
    ∃ c pairs, (run WireServer.step w events).connections[connection]? = some c ∧
      c.valid = false ∧
      w.takenOn connection events = (pairs.map fun pair => (pair.1, some pair.2)) ∧
      (pairs.map Prod.fst = socket.receiveLoop.1 ∧ c.written = whole (pairs.map Prod.snd) ∨
        ∃ before request answer cut, pairs = before ++ [(request, answer)] ∧
          PartOf answer cut ∧ c.written = whole (before.map Prod.snd) ++ cut) := by
  have start : ¬ Gone connection w := by
    rintro (crashed | ⟨c, there, invalid⟩)
    · rw [crashed_run crashed] at alive
      cases alive
    · obtain rfl := Option.some.inj (held.symm.trans there)
      rw [valid] at invalid
      cases invalid
  have gone : Gone connection (run WireServer.step w events) := by
    by_contra stays
    exact absurd (run_uses held unstopped stays) (Nat.not_le.mpr enough)
  obtain ⟨before, event, rest, rfl, stays, ends⟩ := run_turns start gone
  rw [run_append, run_cons] at alive ⊢
  have living : ((run WireServer.step w before).step event).server.controller.crashed = false := by
    by_contra crashed
    rw [crashed_run (by simpa using crashed)] at alive
    cases alive
  obtain ⟨c, stands⟩ := (Stands.start held fresh).run before
  obtain ⟨running, opened⟩ := open_of_stays stands.held stays
  obtain ⟨wrote, -, loop⟩ := stands.opened opened running
  obtain ⟨pairs, answered⟩ := takenOn_alive connection running
  obtain ⟨later, there, invalid, how⟩ := step_ends stands.held stays
    (fun ending same => unstopped ending (same ▸ List.mem_append_right _ List.mem_cons_self))
    ends living
  have taken : w.takenOn connection (before ++ event :: rest) =
      (pairs.map fun pair => (pair.1, some pair.2)) ++
        takenBy connection ((run WireServer.step w before).outcome event).2 := by
    rw [takenOn_append, answered, takenOn, takenOn_gone ends, List.append_nil]
  rw [List.nil_append, answered] at wrote loop
  rw [answered_snd] at wrote
  rw [answered_fst] at loop
  rcases how with ⟨none, last, same⟩ | ⟨f, answer, cut, took, part, more⟩
  · refine ⟨later, pairs, closed_run there invalid rest, invalid, ?_, .inl ⟨?_, same.trans wrote⟩⟩
    · rw [taken, none, List.append_nil]
    · rw [loop, last, List.append_nil]
  · refine ⟨later, pairs ++ [(f, answer)], closed_run there invalid rest, invalid, ?_,
      .inr ⟨pairs, f, answer, cut, rfl, part, ?_⟩⟩
    · rw [taken, took, List.map_append]
      rfl
    · rw [more, wrote]

end

def WireServer.turns : List WireServer.Event := List.replicate 120 (.round 1 .sample .sample)

theorem pings_all_answered :
    ∃ c pairs, (run WireServer.step .pinged WireServer.turns).connections[1]? = some c ∧
      c.valid = false ∧
      WireServer.pinged.takenOn 1 WireServer.turns =
        (pairs.map fun pair => (pair.1, some pair.2)) ∧
      (pairs.map Prod.fst = TcpConnection.pinged.receiveLoop.1 ∧
          c.written = whole (pairs.map Prod.snd) ∨
        ∃ before request answer cut, pairs = before ++ [(request, answer)] ∧
          PartOf answer cut ∧ c.written = whole (before.map Prod.snd) ++ cut) :=
  handlers_answer_everything (w := .pinged) (by exact ExtTreeMap.getElem?_insert_self) rfl rfl
    (fun ending listed => by cases List.eq_of_mem_replicate listed)
    (by decide +kernel) (by decide +kernel)

end SiteFabric
