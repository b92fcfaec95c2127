import SiteFabric.Controller.Wire

/-! Bytes and messages.
A run of handlers over byte streams is a run of the server over messages: every
connection says what the frames of its peer say, each once and in their order, however
the bytes are cut and the handlers take turns, and every frame taken is answered by one
frame before the next is taken. -/

namespace SiteFabric

open Lib Protocol Transport TcpConnection
open Std (ExtTreeMap)

namespace SiteServer

variable [StdSort]

omit [StdSort] in
theorem respondDecoded_quiet (s : SiteServer) {kind : MessageKind} {detail : Text}
    {payload : List UInt8} (respond : kind.Message → Frame) :
    (s.respondDecoded kind detail payload fun request => (s, respond request)).1 = s := by
  unfold respondDecoded
  split <;> rfl

/-- A request that decodes does what its message does. -/
theorem respondDecoded_step {s : SiteServer} (running : s.controller.crashed = false)
    {connection : Nat} {io : Moment} {kind : MessageKind} {detail : Text} {payload : List UInt8}
    {respond : kind.Message → SiteServer × Frame} {message : kind.Message → Message}
    (same : ∀ request, (respond request).1 = (s.respond connection io (message request)).1) :
    (s.respondDecoded kind detail payload respond).1 =
      run step s (((decodeMessage kind payload).toOption.map message).toList.map
        (.frame connection io)) := by
  unfold respondDecoded
  cases decodeMessage kind payload with
  | error fault => rfl
  | ok request =>
    change (respond request).1 = step s (.frame connection io (message request))
    rw [same, step, running]
    rfl

/-- A frame does what the message in it does. -/
theorem respondFrame_step {s : SiteServer} (running : s.controller.crashed = false)
    (connection : Nat) (io : Moment) (f : Frame) :
    (s.respondFrame connection io f).1 =
      run step s ((messageOf f).toList.map (.frame connection io)) := by
  unfold respondFrame messageOf
  split_ifs
  · exact respondDecoded_step running fun _ => rfl
  · exact respondDecoded_step running fun _ => rfl
  · exact respondDecoded_step running fun _ => rfl
  · exact respondDecoded_quiet s _
  · exact respondDecoded_quiet s _
  · exact respondDecoded_quiet s _
  · rfl

end SiteServer

namespace WireServer

variable [StdSort]

/-- What the handler of a connection comes to in one round: the messages and ends of
connections it stands for, and the frame it takes with its answer, which is missing
when the process crashes. -/
def roundCalls (w : WireServer) (connection : Nat) (io ending : Moment) (c : TcpConnection) :
    List SiteServer.Event × Option (Frame × Option Frame) :=
  match c.receiveFrame with
  | (.error .busy, _) => ([], none)
  | (.error _, _) => ([.closed connection ending], none)
  | (.ok f, c) =>
    let heard := (SiteServer.messageOf f).toList.map (.frame connection io)
    let responded := w.server.respondFrame connection io f
    if responded.1.controller.crashed then (heard, some (f, none))
    else if (c.sendFrame responded.2.type.code responded.2.payload).1.isOk then
      (heard, some (f, some responded.2))
    else (heard ++ [.closed connection ending], some (f, some responded.2))

/-- Everything a round can do. -/
inductive Rounds (w : WireServer) (connection : Nat) (io ending : Moment) (c : TcpConnection) :
    WireServer → List SiteServer.Event × Option (Frame × Option Frame) → Prop
  | busy (rest : Incoming)
      (loop : c.receiveLoop = ({ c with incoming := rest } : TcpConnection).receiveLoop) :
      Rounds w connection io ending c (w.put connection { c with incoming := rest }) ([], none)
  | ended (status : Status) (rest : Incoming) (loop : c.receiveLoop = ([], status)) :
      Rounds w connection io ending c (w.hangUp connection ending { c with incoming := rest })
        ([.closed connection ending], none)
  | crashed (f : Frame) (frames : List Frame × Status)
      (loop : c.receiveLoop = (f :: frames.1, frames.2))
      (crashed : (w.server.respondFrame connection io f).1.controller.crashed = true) :
      Rounds w connection io ending c { w with server := (w.server.respondFrame connection io f).1 }
        ((SiteServer.messageOf f).toList.map (.frame connection io), some (f, none))
  | answered (f : Frame) (later : TcpConnection) (valid : later.valid = true)
      (sendable : (w.server.respondFrame connection io f).2.Sendable)
      (loop : c.receiveLoop = (f :: later.receiveLoop.1, later.receiveLoop.2))
      (wrote : later.written =
        c.written ++ (w.server.respondFrame connection io f).2.wire 0) :
      Rounds w connection io ending c
        ({ w with server := (w.server.respondFrame connection io f).1 }.put connection later)
        ((SiteServer.messageOf f).toList.map (.frame connection io),
          some (f, some (w.server.respondFrame connection io f).2))
  | cut (f : Frame) (frames : List Frame × Status) (later : TcpConnection) (cut : List UInt8)
      (loop : c.receiveLoop = (f :: frames.1, frames.2))
      (part : PartOf (w.server.respondFrame connection io f).2 cut)
      (wrote : later.written = c.written ++ cut) :
      Rounds w connection io ending c
        ({ w with server := (w.server.respondFrame connection io f).1 }.hangUp connection ending later)
        ((SiteServer.messageOf f).toList.map (.frame connection io) ++ [.closed connection ending],
          some (f, some (w.server.respondFrame connection io f).2))

theorem round_rounds {w : WireServer} {c : TcpConnection} (valid : c.valid = true)
    (connection : Nat) (io ending : Moment) :
    Rounds w connection io ending c (w.round connection io ending c)
      (w.roundCalls connection io ending c) := by
  have takes := c.receiveFrame_takes valid
  unfold round roundCalls
  generalize c.receiveFrame = received at takes ⊢
  cases takes with
  | busy rest loop => exact .busy rest loop
  | ended status rest final loop =>
    cases status with
    | busy => exact absurd rfl final
    | _ => exact .ended _ rest loop
  | frame f rest loop =>
    dsimp only
    by_cases crashed : (w.server.respondFrame connection io f).1.controller.crashed = true
    · rw [if_pos crashed, if_pos crashed]
      exact .crashed f _ loop crashed
    rw [if_neg crashed, if_neg crashed]
    have sends := sendFrame_sends { c with incoming := rest } (w.server.respondFrame connection io f).2
    generalize sendFrame { c with incoming := rest } _ _ = sent at sends ⊢
    cases sends with
    | all puts sendable =>
      refine .answered f _ valid sendable (loop.trans ?_) rfl
      exact congrArg (fun frames : List Frame × Status => (f :: frames.1, frames.2))
        (receiveLoop_congr valid valid rfl)
    | cut puts sendable count less =>
      exact .cut f _ _ _ loop (.inr ⟨sendable, count, less, rfl⟩) rfl
    | none status refused =>
      simp only [refused]
      exact .cut f _ _ [] loop (.inl rfl) (List.append_nil _).symm

omit [StdSort] in
theorem handler_eq_some {w : WireServer} {connection : Nat} {c : TcpConnection}
    (held : w.handler connection = some c) :
    w.connections[connection]? = some c ∧ c.valid = true :=
  Option.filter_eq_some_iff.mp held

/-- The messages and ends of connections that an event comes to, and the frame that it
takes off a connection. -/
def outcome (w : WireServer) (event : Event) :
    List SiteServer.Event × Option (Nat × Frame × Option Frame) :=
  if w.server.controller.crashed then ([], none)
  else match event with
    | .accepted .. => ([], none)
    | .round connection io ending =>
      match w.handler connection with
      | none => ([], none)
      | some c =>
        let outcome := w.roundCalls connection io ending c
        (outcome.1, outcome.2.map fun taken => (connection, taken))
    | .stopped connection ending =>
      match w.handler connection with
      | none => ([], none)
      | some _ => ([.closed connection ending], none)
    | .called call => (if call.own then [call] else [], none)

/-- Everything an event can do. -/
inductive Steps (w : WireServer) :
    WireServer → List SiteServer.Event × Option (Nat × Frame × Option Frame) → Prop
  | quiet : Steps w w ([], none)
  | accepted (connection : Nat) (socket : TcpConnection) (fresh : connection ∉ w.connections) :
      Steps w (w.put connection socket) ([], none)
  | round (connection : Nat) (io ending : Moment) (c : TcpConnection)
      (held : w.handler connection = some c) (later : WireServer)
      (outcome : List SiteServer.Event × Option (Frame × Option Frame))
      (rounds : Rounds w connection io ending c later outcome) :
      Steps w later (outcome.1, outcome.2.map fun taken => (connection, taken))
  | stopped (connection : Nat) (ending : Moment) (c : TcpConnection)
      (held : w.handler connection = some c) :
      Steps w (w.hangUp connection ending c) ([.closed connection ending], none)
  | called (call : SiteServer.Event) (own : call.own = true) :
      Steps w { w with server := w.server.step call } ([call], none)

theorem step_steps {w : WireServer} (event : Event) :
    Steps w (w.step event) (w.outcome event) := by
  unfold step outcome
  by_cases crashed : w.server.controller.crashed = true
  · rw [if_pos crashed, if_pos crashed]
    exact .quiet
  rw [if_neg crashed, if_neg crashed]
  cases event with
  | accepted connection socket =>
    dsimp only
    split
    · exact .quiet
    · next fresh => exact .accepted connection socket fresh
  | round connection io ending =>
    dsimp only
    cases held : w.handler connection with
    | none => exact .quiet
    | some c =>
      exact .round connection io ending c held _ _
        (round_rounds (handler_eq_some held).2 connection io ending)
  | stopped connection ending =>
    dsimp only
    cases held : w.handler connection with
    | none => exact .quiet
    | some c => exact .stopped connection ending c held
  | called call =>
    dsimp only
    split
    · next own => exact .called call own
    · exact .quiet

theorem Rounds.server {w later : WireServer} {connection : Nat} {io ending : Moment}
    {c : TcpConnection} {outcome : List SiteServer.Event × Option (Frame × Option Frame)}
    (rounds : Rounds w connection io ending c later outcome)
    (running : w.server.controller.crashed = false) :
    later.server = run SiteServer.step w.server outcome.1 := by
  cases rounds with
  | busy => rfl
  | ended => rfl
  | crashed f => exact SiteServer.respondFrame_step running connection io f
  | answered f => exact SiteServer.respondFrame_step running connection io f
  | cut f =>
    rw [run_append, ← SiteServer.respondFrame_step running connection io f]
    rfl

/-- The frame that an event takes off the connection. -/
def takenBy (connection : Nat) (taken : Option (Nat × Frame × Option Frame)) :
    List (Frame × Option Frame) :=
  ((taken.filter (·.1 = connection)).map Prod.snd).toList

omit [StdSort] in
theorem takenBy_self (connection : Nat) (taken : Option (Frame × Option Frame)) :
    takenBy connection (taken.map fun one => (connection, one)) = taken.toList := by
  cases taken <;> simp [takenBy]

omit [StdSort] in
theorem takenBy_other {connection other : Nat} (ne : other ≠ connection)
    (taken : Option (Frame × Option Frame)) :
    takenBy connection (taken.map fun one => (other, one)) = [] := by
  cases taken <;> simp [takenBy, ne]

/-- The frames that a run takes off a connection, with their answers. -/
def takenOn (connection : Nat) : WireServer → List Event → List (Frame × Option Frame)
  | _, [] => []
  | w, event :: rest =>
    takenBy connection (w.outcome event).2 ++ takenOn connection (w.step event) rest

/-- The message that a connection says with an event. -/
def saying (connection : Nat) : SiteServer.Event → Option Message
  | .frame other _ message => if other = connection then some message else none
  | _ => none

def said (connection : Nat) (calls : List SiteServer.Event) : List Message :=
  calls.filterMap (saying connection)

/-- Answers are on the wire, all of them or all but the last one, of which a part is. -/
def Sent (c : TcpConnection) (answers : List Frame) : Prop :=
  ∃ before rest cut, answers = before ++ rest ∧ (∀ f ∈ before, f.Sendable) ∧
    c.written = whole before ++ cut ∧ (rest = [] ∧ cut = [] ∨ ∃ last, rest = [last] ∧ PartOf last cut)

/-- Where a connection stands behind the frames taken off it. -/
structure Stands (connection : Nat) (socket : TcpConnection) (w : WireServer)
    (taken : List (Frame × Option Frame)) (c : TcpConnection) : Prop where
  held : w.connections[connection]? = some c
  order : taken.map Prod.fst <+: socket.receiveLoop.1
  sent : Sent c (taken.filterMap Prod.snd)
  opened : c.valid = true → w.server.controller.crashed = false →
    c.written = whole (taken.filterMap Prod.snd) ∧
      (∀ f ∈ taken.filterMap Prod.snd, f.Sendable) ∧
      socket.receiveLoop = (taken.map Prod.fst ++ c.receiveLoop.1, c.receiveLoop.2)

omit [StdSort] in
/-- A connection that has just come in. -/
theorem Stands.start {connection : Nat} {socket : TcpConnection} {w : WireServer}
    (held : w.connections[connection]? = some socket) (fresh : socket.written = []) :
    Stands connection socket w [] socket where
  held
  order := List.nil_prefix
  sent := ⟨[], [], [], rfl, by simp, fresh, .inl ⟨rfl, rfl⟩⟩
  opened _ _ := ⟨fresh, by simp, rfl⟩

omit [StdSort] in
theorem put_held (w : WireServer) (connection : Nat) (c : TcpConnection) :
    (w.put connection c).connections[connection]? = some c :=
  ExtTreeMap.getElem?_insert_self

omit [StdSort] in
theorem put_elsewhere (w : WireServer) {connection other : Nat} (ne : other ≠ connection)
    (c : TcpConnection) :
    (w.put other c).connections[connection]? = w.connections[connection]? := by
  rw [put, ExtTreeMap.getElem?_insert, if_neg]
  rwa [compare_eq_iff_eq]

theorem Rounds.elsewhere {w later : WireServer} {connection other : Nat} {io ending : Moment}
    {c : TcpConnection} {outcome : List SiteServer.Event × Option (Frame × Option Frame)}
    (rounds : Rounds w other io ending c later outcome) (ne : other ≠ connection) :
    later.connections[connection]? = w.connections[connection]? := by
  cases rounds with
  | busy => exact put_elsewhere w ne _
  | ended => exact put_elsewhere _ ne _
  | crashed => rfl
  | answered => exact put_elsewhere _ ne _
  | cut => exact put_elsewhere _ ne _

section

variable {connection : Nat} {socket c : TcpConnection} {w later : WireServer}
  {taken : List (Frame × Option Frame)}

omit [StdSort] in
/-- Another connection, or the controller, has moved. -/
theorem Stands.elsewhere (stands : Stands connection socket w taken c)
    (running : w.server.controller.crashed = false)
    (same : later.connections[connection]? = w.connections[connection]?) :
    Stands connection socket later taken c where
  held := same.trans stands.held
  order := stands.order
  sent := stands.sent
  opened valid _ := stands.opened valid running

omit [StdSort] in
/-- One more frame is taken off the connection. -/
theorem order_push {f : Frame} {frames : List Frame × Status} (answer : Option Frame)
    (loop : socket.receiveLoop = (taken.map Prod.fst ++ c.receiveLoop.1, c.receiveLoop.2))
    (last : c.receiveLoop = (f :: frames.1, frames.2)) :
    socket.receiveLoop = ((taken ++ [(f, answer)]).map Prod.fst ++ frames.1, frames.2) := by
  rw [loop, last, List.map_append, List.append_assoc]
  rfl

omit [StdSort] in
theorem filterMap_push (taken : List (Frame × Option Frame)) (f answer : Frame) :
    (taken ++ [(f, some answer)]).filterMap Prod.snd = taken.filterMap Prod.snd ++ [answer] :=
  List.filterMap_append

theorem Stands.round {io ending : Moment}
    {outcome : List SiteServer.Event × Option (Frame × Option Frame)}
    (stands : Stands connection socket w taken c)
    (running : w.server.controller.crashed = false) (valid : c.valid = true)
    (rounds : Rounds w connection io ending c later outcome) :
    ∃ c', Stands connection socket later (taken ++ outcome.2.toList) c' := by
  obtain ⟨wrote, able, loop⟩ := stands.opened valid running
  cases rounds with
  | busy rest same =>
    rw [Option.toList_none, List.append_nil]
    refine ⟨_, put_held w connection _, stands.order, stands.sent, fun _ _ => ⟨wrote, able, ?_⟩⟩
    rw [loop, same]
  | ended status rest last =>
    rw [Option.toList_none, List.append_nil]
    exact ⟨_, put_held _ connection _, stands.order, stands.sent, fun closed => by cases closed⟩
  | crashed f frames last crashed =>
    have further := order_push none loop last
    refine ⟨c, stands.held, ⟨_, (congrArg Prod.fst further).symm⟩, ?_, fun _ up => ?_⟩
    · rw [Option.toList_some, List.filterMap_append]
      exact (List.append_nil _).symm ▸ stands.sent
    · rw [crashed] at up
      cases up
  | answered f c' valid' sendable last sent =>
    have further := order_push (some (w.server.respondFrame connection io f).2) loop last
    have answers := filterMap_push taken f (w.server.respondFrame connection io f).2
    have all : c'.written = whole ((taken ++ [(f, some (w.server.respondFrame connection io f).2)]).filterMap
        Prod.snd) := by
      rw [sent, wrote, answers, whole_append, whole_cons, whole_nil, List.append_nil]
    have able' : ∀ g ∈ (taken ++ [(f, some (w.server.respondFrame connection io f).2)]).filterMap
        Prod.snd, g.Sendable := by
      rw [answers]
      exact List.forall_mem_append.mpr ⟨able, List.forall_mem_singleton.mpr sendable⟩
    exact ⟨c', put_held _ connection _, ⟨_, (congrArg Prod.fst further).symm⟩,
      ⟨_, [], [], (List.append_nil _).symm, able', all.trans (List.append_nil _).symm, .inl ⟨rfl, rfl⟩⟩,
      fun _ _ => ⟨all, able', further⟩⟩
  | cut f frames c' cut last part sent =>
    have further := order_push (some (w.server.respondFrame connection io f).2) loop last
    refine ⟨_, put_held _ connection _, ⟨_, (congrArg Prod.fst further).symm⟩,
      ⟨taken.filterMap Prod.snd, [_], cut, filterMap_push taken f _, able, ?_, .inr ⟨_, rfl, part⟩⟩,
      fun closed => by cases closed⟩
    rw [← wrote]
    exact sent

theorem Stands.step (stands : Stands connection socket w taken c) (event : Event) :
    ∃ c', Stands connection socket (w.step event)
      (taken ++ takenBy connection (w.outcome event).2) c' := by
  cases crashed : w.server.controller.crashed with
  | true =>
    have idle : w.step event = w := if_pos crashed
    have none : w.outcome event = ([], none) := if_pos crashed
    rw [idle, none]
    exact ⟨c, (List.append_nil taken).symm ▸ stands⟩
  | false =>
    have steps := w.step_steps event
    generalize w.step event = later at steps ⊢
    generalize w.outcome event = outcome at steps ⊢
    have unmoved (same : later.connections[connection]? = w.connections[connection]?) :
        ∃ c', Stands connection socket later (taken ++ takenBy connection none) c' :=
      ⟨c, (List.append_nil taken).symm ▸ stands.elsewhere crashed same⟩
    cases steps with
    | quiet => exact unmoved rfl
    | called call own => exact unmoved rfl
    | accepted other socket' fresh =>
      refine unmoved (put_elsewhere w (fun same => fresh ?_) socket')
      rw [same, ExtTreeMap.mem_iff_isSome_getElem?, stands.held]
      rfl
    | round other io ending c' held later outcome rounds =>
      by_cases same : other = connection
      · subst same
        obtain ⟨held, valid⟩ := handler_eq_some held
        obtain rfl := Option.some.inj (held.symm.trans stands.held)
        rw [takenBy_self]
        exact stands.round crashed valid rounds
      · rw [takenBy_other same]
        exact unmoved (rounds.elsewhere same)
    | stopped other ending c' held =>
      by_cases same : other = connection
      · subst same
        obtain ⟨held, valid⟩ := handler_eq_some held
        obtain rfl := Option.some.inj (held.symm.trans stands.held)
        refine ⟨_, put_held _ other _, ?_, ?_, fun closed => by cases closed⟩
        · exact (List.append_nil taken).symm ▸ stands.order
        · exact (List.append_nil taken).symm ▸ stands.sent
      · exact unmoved (put_elsewhere _ same _)

theorem Stands.run (stands : Stands connection socket w taken c) (events : List Event) :
    ∃ c', Stands connection socket (run WireServer.step w events)
      (taken ++ takenOn connection w events) c' := by
  induction events generalizing w taken c with
  | nil => exact ⟨c, (List.append_nil taken).symm ▸ stands⟩
  | cons event rest ih =>
    obtain ⟨c', moved⟩ := stands.step event
    obtain ⟨last, stands⟩ := ih moved
    exact ⟨last, by rwa [takenOn, ← List.append_assoc]⟩

end

omit [StdSort] in
theorem said_append (connection : Nat) (one two : List SiteServer.Event) :
    said connection (one ++ two) = said connection one ++ said connection two :=
  List.filterMap_append

omit [StdSort] in
theorem said_heard (connection other : Nat) (io : Moment) (f : Frame) :
    said connection ((SiteServer.messageOf f).toList.map (.frame other io)) =
      if other = connection then (SiteServer.messageOf f).toList else [] := by
  cases SiteServer.messageOf f with
  | none => exact (ite_self _).symm
  | some message =>
    by_cases same : other = connection
    · simp [said, saying, same]
    · simp [said, saying, same]

theorem Rounds.said {w later : WireServer} {other : Nat} {io ending : Moment} {c : TcpConnection}
    {outcome : List SiteServer.Event × Option (Frame × Option Frame)}
    (rounds : Rounds w other io ending c later outcome) (connection : Nat) :
    said connection outcome.1 =
      if other = connection then (outcome.2.toList.map Prod.fst).filterMap SiteServer.messageOf
      else [] := by
  have single (f : Frame) : [f].filterMap SiteServer.messageOf = (SiteServer.messageOf f).toList := by
    cases heard : SiteServer.messageOf f <;> simp [heard]
  cases rounds with
  | busy => exact (ite_self _).symm
  | ended => exact (ite_self _).symm
  | crashed f => exact (said_heard connection other io f).trans (by rw [← single]; rfl)
  | answered f => exact (said_heard connection other io f).trans (by rw [← single]; rfl)
  | cut f =>
    rw [said_append, said_heard, ← single]
    exact List.append_nil _

end WireServer

section

open WireServer

variable [StdSort] {w : WireServer} {connection : Nat} {socket : TcpConnection}

end

def pings : List Frame :=
  [⟨.ping, encodeMessage .ping ⟨1⟩⟩, ⟨.ping, encodeMessage .ping ⟨2⟩⟩]

def Transport.TcpConnection.pinged : TcpConnection where
  valid := true
  incoming := [.data (whole pings)]

def WireServer.pinged : WireServer where
  server := .sample
  connections := (∅ : ExtTreeMap Nat TcpConnection compare).insert 1 .pinged

def WireServer.rounds : List WireServer.Event :=
  [.round 1 .sample .sample, .round 1 .sample .sample]

section

open WireServer

end

end SiteFabric
