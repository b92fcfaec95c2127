import SiteFabric.Publisher.Client
import SiteFabric.Lib.Run
import SiteFabric.Transport.Delivery

/-! The life of a publisher.
A session stands on an open connection only, and with a valid incarnation of the
configured boot. So a publisher that connects has no session left to go on with: every
HELLO that opens a connection presents the configured incarnation, and `connect` never
takes its branch for a session that is established. The numbers of publications go on
through failures and new connections. -/

namespace SiteFabric

open Lib Protocol Transport TcpConnection

namespace Transport.TcpConnection

theorem receiveFrame_keeps (c : TcpConnection) :
    c.receiveFrame.2.valid = c.valid ∧ c.receiveFrame.2.written = c.written := by
  cases valid : c.valid with
  | false => rw [receiveFrame_stopped valid]; exact ⟨valid, rfl⟩
  | true =>
    obtain ⟨result, rest, received, -⟩ := receiveFrame_receives valid
    rw [received]
    exact ⟨valid, rfl⟩

/-- A frame went out whole or in part. -/
def Puts (c : TcpConnection) (f : Frame) (later : TcpConnection) : Prop :=
  later.valid = c.valid ∧
    ∃ out, later.written = c.written ++ out ∧ (out = f.wire 0 ∨ PartOf f out)

theorem ask_puts (c : TcpConnection) (request : Frame) : c.Puts request (c.ask request).2 := by
  have sends := sendFrame_sends c request
  unfold ask
  generalize c.sendFrame request.type.code request.payload = sent at sends ⊢
  cases sends with
  | all puts sendable =>
    obtain ⟨open', wrote⟩ :=
      receiveFrame_keeps { c with puts, written := c.written ++ request.wire 0 }
    exact ⟨open', request.wire 0, wrote, .inl rfl⟩
  | cut puts sendable count less =>
    exact ⟨rfl, _, rfl, .inr (.inr ⟨sendable, count, less, rfl⟩)⟩
  | none status refused prompt =>
    simp only [refused]
    exact ⟨rfl, [], (List.append_nil _).symm, .inr (.inl rfl)⟩

theorem exchange_puts (c : TcpConnection) (request : Frame) (expected : MessageType) :
    c.Puts request (c.exchange request expected).2 := by
  have asked := c.ask_puts request
  unfold exchange
  generalize c.ask request = outcome at asked ⊢
  obtain ⟨reply, later⟩ := outcome
  cases reply <;> exact asked

end Transport.TcpConnection

namespace MemberPublisher

inductive Call where
  | connect (dials : List Dial)
  | handshake (out : PublisherSession)
  | publish (declaration : MemberDomainDeclaration) (attempt : PublishAttempt)
  | retire (request : RetireRequest)
  | heartbeat
  | fetchSite (sequence : UInt64)
  | ping (nonce : UInt64)
  | close

section

variable {config : PublisherConfig} {p : MemberPublisher}

/-- What holds of a publisher between its calls. -/
structure Steady (config : PublisherConfig) (p : MemberPublisher) : Prop where
  configured : p.config = config
  boot : p.incarnation.boot = config.incarnation.boot
  opened : p.session.established = true → p.connected = true ∧ p.incarnation.valid = true

theorem Steady.start (created : create config = .ok p) : Steady config p := by
  unfold create at created
  split_ifs at created
  cases created
  exact ⟨rfl, rfl, fun none => by cases none⟩

/-- An exchange leaves the session and the incarnation as they are. -/
theorem Steady.converse (sound : Steady config p) {α : Type} (request : Frame)
    (expected : MessageType) (decode : List UInt8 → Except Fault α) :
    Steady config (p.converse request expected decode).2 where
  configured := sound.configured
  boot := sound.boot
  opened established :=
    ⟨(p.connection.exchange_puts request expected).1.trans (sound.opened established).1,
      (sound.opened established).2⟩

/-- A sequence that is assigned is not zero. -/
theorem greeted_incarnation (p : MemberPublisher) (out : PublisherSession)
    (hello : Protocol.HelloResponse) :
    (p.greeted out hello).2.2.incarnation.boot = p.incarnation.boot ∧
      (p.incarnation.valid = true → (p.greeted out hello).2.2.incarnation.valid = true) := by
  unfold greeted
  dsimp only
  split
  · exact ⟨rfl, fun valid => valid⟩
  by_cases assigned : hello.assignedSequence = 0
  · rw [if_neg (not_not.mpr assigned)]
    exact ⟨rfl, fun valid => valid⟩
  · rw [if_pos assigned]
    refine ⟨rfl, fun valid => ?_⟩
    rw [Incarnation.valid, Bool.and_eq_true, bne_iff_ne] at valid ⊢
    exact ⟨assigned, valid.2⟩

theorem greeted_frame (p : MemberPublisher) (out : PublisherSession)
    (hello : Protocol.HelloResponse) :
    ∃ incarnation, (p.greeted out hello).2.2 = { p with incarnation } := by
  unfold greeted
  dsimp only
  split
  · exact ⟨p.incarnation, rfl⟩
  · exact ⟨_, rfl⟩

theorem greeted_established (p : MemberPublisher) (out : PublisherSession)
    (hello : Protocol.HelloResponse) (established : (p.greeted out hello).2.1.established = true) :
    (p.greeted out hello).2.2.incarnation.valid = true := by
  unfold greeted at established ⊢
  dsimp only at established ⊢
  split at established
  · cases established
  · next ok => rwa [if_neg ok]

theorem Steady.greeted (sound : Steady config p) (out : PublisherSession)
    (hello : Protocol.HelloResponse) : Steady config (p.greeted out hello).2.2 := by
  obtain ⟨boot, valid⟩ := p.greeted_incarnation out hello
  obtain ⟨incarnation, same⟩ := p.greeted_frame out hello
  rw [same] at boot valid ⊢
  exact ⟨sound.configured, boot.trans sound.boot, fun established =>
    ⟨(sound.opened established).1, valid (sound.opened established).2⟩⟩

theorem Steady.handshake (sound : Steady config p) (out : PublisherSession) :
    Steady config (p.handshake out).2.2 := by
  unfold MemberPublisher.handshake
  split
  · exact sound
  have further := sound.converse ⟨.helloRequest, encodeMessage .helloRequest p.hello⟩ .helloResponse
    (decodeMessage .helloResponse)
  dsimp only
  generalize p.converse _ _ _ = said at further ⊢
  obtain ⟨answer, later⟩ := said
  cases answer with
  | error status => exact further
  | ok hello => exact further.greeted out hello

/-- What a handshake establishes, it establishes with a valid incarnation. -/
theorem handshake_established (out : PublisherSession) (before : out.established = false)
    (established : (p.handshake out).2.1.established = true) :
    (p.handshake out).2.2.incarnation.valid = true := by
  unfold MemberPublisher.handshake at established ⊢
  split at established
  · rw [before] at established
    cases established
  next opened =>
  rw [if_neg opened]
  dsimp only at established ⊢
  generalize p.converse _ _ _ = said at established ⊢
  obtain ⟨answer, later⟩ := said
  cases answer with
  | error status =>
    rw [before] at established
    cases established
  | ok hello => exact later.greeted_established out hello established

end

theorem dialOn_opened (attempts : Nat) (last : Status) (dials : List Dial) {c : TcpConnection}
    (dialed : (dialOn attempts last dials).2 = some c) : c.valid = true ∧ c.written = [] := by
  induction attempts generalizing last dials with
  | zero => cases dialed
  | succ attempts ih =>
    rw [dialOn] at dialed
    generalize dials.head?.getD .refused = dial at dialed
    cases dial with
    | noSocket => exact ih _ _ dialed
    | badHost => exact ih _ _ dialed
    | refused => exact ih _ _ dialed
    | connected incoming puts =>
      cases dialed
      exact ⟨rfl, rfl⟩

section

variable {config : PublisherConfig} {p : MemberPublisher}

theorem handshake_frame (p : MemberPublisher) (out : PublisherSession) :
    (p.handshake out).2.2.session = p.session ∧
      (p.handshake out).2.2.nextAttemptSequence = p.nextAttemptSequence := by
  unfold MemberPublisher.handshake
  split
  · exact ⟨rfl, rfl⟩
  dsimp only
  split
  · exact ⟨rfl, rfl⟩
  · next hello _ =>
    obtain ⟨incarnation, same⟩ := greeted_frame (p.converse
      ⟨.helloRequest, encodeMessage .helloRequest p.hello⟩ .helloResponse
      (decodeMessage .helloResponse)).2 out hello
    rw [same]
    exact ⟨rfl, rfl⟩

theorem handshake_puts (opened : p.connected = true) (out : PublisherSession) :
    p.connection.Puts ⟨.helloRequest, encodeMessage .helloRequest p.hello⟩
      (p.handshake out).2.2.connection := by
  have puts := p.connection.exchange_puts ⟨.helloRequest, encodeMessage .helloRequest p.hello⟩
    .helloResponse
  unfold MemberPublisher.handshake
  rw [if_neg (by rw [opened]; decide)]
  dsimp only
  split
  · exact puts
  · next hello _ =>
    obtain ⟨incarnation, same⟩ := greeted_frame (p.converse
      ⟨.helloRequest, encodeMessage .helloRequest p.hello⟩ .helloResponse
      (decodeMessage .helloResponse)).2 out hello
    rw [same]
    exact puts

/-- A publisher whose connection is closed has no session. -/
theorem Steady.unestablished (sound : Steady config p) (closed : p.connected = false) :
    p.session.established = false := by
  by_contra established
  have opened := (sound.opened (by simpa using established)).1
  rw [closed] at opened
  cases opened

/-- Connecting starts from the configured incarnation. -/
theorem Steady.connect_refused (sound : Steady config p) (closed : p.connected = false)
    {dials : List Dial} (refused : (connectWithRetry 20 dials).2 = none) :
    p.connect dials =
      ((connectWithRetry 20 dials).1, { p with incarnation := config.incarnation }) := by
  have idle : p.session.established = false := sound.unestablished closed
  rw [MemberPublisher.connect, if_neg (by rw [closed]; decide), if_neg (by rw [idle]; decide),
    sound.configured]
  dsimp only
  rw [refused]

theorem Steady.connect_dialed (sound : Steady config p) (closed : p.connected = false)
    {dials : List Dial} {connection : TcpConnection}
    (dialed : (connectWithRetry 20 dials).2 = some connection) :
    p.connect dials =
      let shaken := { p with incarnation := config.incarnation, connection }.handshake p.session
      (shaken.1, { shaken.2.2 with session := shaken.2.1 }) := by
  have idle : p.session.established = false := sound.unestablished closed
  rw [MemberPublisher.connect, if_neg (by rw [closed]; decide), if_neg (by rw [idle]; decide),
    sound.configured]
  dsimp only
  rw [dialed]

theorem Steady.dialed (sound : Steady config p) (closed : p.connected = false)
    (connection : TcpConnection) :
    Steady config { p with incarnation := config.incarnation, connection } where
  configured := sound.configured
  boot := rfl
  opened established := by
    rw [sound.unestablished closed] at established
    cases established

theorem Steady.connect (sound : Steady config p) (dials : List Dial) :
    Steady config (p.connect dials).2 := by
  cases closed : p.connected with
  | true =>
    rw [MemberPublisher.connect, if_pos closed]
    exact sound
  | false =>
    have idle := sound.unestablished closed
    cases dialed : (connectWithRetry 20 dials).2 with
    | none =>
      rw [sound.connect_refused closed dialed]
      exact ⟨sound.configured, rfl, fun established => by
        rw [idle] at established
        cases established⟩
    | some connection =>
      rw [sound.connect_dialed closed dialed]
      have open' := (dialOn_opened _ _ _ dialed).1
      have opening := sound.dialed closed connection
      have shaken := opening.handshake p.session
      have puts := handshake_puts (p := { p with incarnation := config.incarnation, connection })
        open' p.session
      exact ⟨shaken.configured, shaken.boot, fun established =>
        ⟨puts.1.trans open', handshake_established p.session idle established⟩⟩

end

section

variable [StdSort] {config : PublisherConfig} {p : MemberPublisher}

/-- What a call leaves of the publisher. -/
def call (p : MemberPublisher) : Call → MemberPublisher
  | .connect dials => (p.connect dials).2
  | .handshake out => (p.handshake out).2.2
  | .publish declaration attempt => (p.publish declaration attempt).2
  | .retire request => (p.retire request).2
  | .heartbeat => p.heartbeat.2
  | .fetchSite sequence => (p.fetchSite sequence).2
  | .ping nonce => (p.ping nonce).2
  | .close => p.close

omit [StdSort] in
theorem Steady.stamp (sound : Steady config p) (attempt : PublishAttempt) :
    Steady config (p.stamp attempt).2 := by
  unfold MemberPublisher.stamp
  dsimp only
  split <;> split <;> exact ⟨sound.configured, sound.boot, sound.opened⟩

theorem Steady.call (sound : Steady config p) (call : Call) : Steady config (p.call call) := by
  cases call with
  | connect dials => exact sound.connect dials
  | handshake out => exact sound.handshake out
  | publish declaration attempt =>
    rw [MemberPublisher.call, MemberPublisher.publish]
    split
    · exact sound
    split
    · exact sound
    · exact (sound.stamp attempt).converse _ _ _
  | retire request =>
    rw [MemberPublisher.call, MemberPublisher.retire]
    split
    · exact sound
    · exact sound.converse _ _ _
  | heartbeat =>
    rw [MemberPublisher.call, MemberPublisher.heartbeat]
    split
    · exact sound
    dsimp only
    have further := sound.converse ⟨.heartbeatRequest, encodeMessage .heartbeatRequest
      { domain := p.config.domain, site := p.config.site, incarnation := p.incarnation
        observedEpoch := p.session.epoch, sinceSequence := 0 }⟩ .heartbeatResponse
      (decodeMessage .heartbeatResponse)
    generalize p.converse _ _ _ = said at further ⊢
    obtain ⟨answer, later⟩ := said
    cases answer with
    | error status => exact further
    | ok out =>
      dsimp only
      split
      · exact ⟨further.configured, further.boot, further.opened⟩
      · exact further
  | fetchSite sequence => exact sound.converse _ _ _
  | ping nonce =>
    exact sound.converse ⟨.ping, encodeMessage .ping ⟨nonce⟩⟩ .pong (decodeMessage .ping)
  | close => exact ⟨sound.configured, sound.boot, fun none => by cases none⟩

/-- The number that a call gives a publication that has none. -/
def numbered (p : MemberPublisher) : Call → Option UInt64
  | .publish declaration attempt =>
    if p.session.established ∧ declaration.sealDeclaration.toOption.isSome ∧
        attempt.sequence = 0 then
      some (p.stamp attempt).1.sequence
    else none
  | _ => none

def numbersIn : MemberPublisher → List Call → List UInt64
  | _, [] => []
  | p, call :: rest => (p.numbered call).toList ++ numbersIn (p.call call) rest

omit [StdSort] in
theorem stamp_sequence (p : MemberPublisher) (attempt : PublishAttempt) :
    (attempt.sequence = 0 → (p.stamp attempt).1.sequence = p.nextAttemptSequence ∧
      (p.stamp attempt).2.nextAttemptSequence = p.nextAttemptSequence + 1) ∧
    (attempt.sequence ≠ 0 →
      (p.stamp attempt).2.nextAttemptSequence = p.nextAttemptSequence) := by
  unfold MemberPublisher.stamp
  dsimp only
  refine ⟨fun none => ?_, fun given => ?_⟩
  · rw [if_pos none]
    split <;> exact ⟨rfl, rfl⟩
  · rw [if_neg given]
    split <;> rfl

theorem publish_sealed {p : MemberPublisher} (established : p.session.established = true)
    {declaration sealed : MemberDomainDeclaration}
    (sealing : declaration.sealDeclaration = .ok sealed) (attempt : PublishAttempt) :
    p.publish declaration attempt =
      (p.stamp attempt).2.converse
        ⟨.publishRequest, encodeMessage .publishRequest ⟨sealed, (p.stamp attempt).1⟩⟩
        .publishResponse (decodeMessage .publishResponse) := by
  rw [publish, if_neg (by rw [established]; decide), sealing]

omit [StdSort] in
theorem converse_next (p : MemberPublisher) {α : Type} (request : Frame) (expected : MessageType)
    (decode : List UInt8 → Except Fault α) :
    (p.converse request expected decode).2.nextAttemptSequence = p.nextAttemptSequence := rfl

/-- A call that numbers a publication gives it the next number. -/
theorem call_numbers (p : MemberPublisher) (call : Call) :
    (p.numbered call = none ∧ (p.call call).nextAttemptSequence = p.nextAttemptSequence) ∨
      p.numbered call = some p.nextAttemptSequence ∧
        (p.call call).nextAttemptSequence = p.nextAttemptSequence + 1 := by
  cases call with
  | connect dials =>
    refine .inl ⟨rfl, ?_⟩
    rw [MemberPublisher.call, MemberPublisher.connect]
    split
    · rfl
    dsimp only
    split
    · split <;> rfl
    · refine (handshake_frame _ _).2.trans ?_
      split <;> rfl
  | handshake out => exact .inl ⟨rfl, (handshake_frame p out).2⟩
  | publish declaration attempt =>
    rw [MemberPublisher.call, numbered]
    cases established : p.session.established with
    | false =>
      refine .inl ⟨if_neg fun all => absurd all.1 (by decide), ?_⟩
      rw [MemberPublisher.publish, if_pos (by rw [established]; rfl)]
    | true =>
      cases sealing : declaration.sealDeclaration with
      | error status =>
        refine .inl ⟨if_neg fun all => Bool.false_ne_true all.2.1, ?_⟩
        rw [MemberPublisher.publish, if_neg (by rw [established]; decide), sealing]
      | ok sealed =>
        rw [publish_sealed established sealing, converse_next]
        by_cases none : attempt.sequence = 0
        · obtain ⟨number, next⟩ := (p.stamp_sequence attempt).1 none
          refine .inr ⟨?_, next⟩
          rw [if_pos ⟨rfl, rfl, none⟩, number]
        · exact .inl ⟨if_neg fun all => none all.2.2, (p.stamp_sequence attempt).2 none⟩
  | retire request =>
    refine .inl ⟨rfl, ?_⟩
    rw [MemberPublisher.call, MemberPublisher.retire]
    split <;> rfl
  | heartbeat =>
    refine .inl ⟨rfl, ?_⟩
    rw [MemberPublisher.call, MemberPublisher.heartbeat]
    split
    · rfl
    dsimp only
    split
    · rfl
    · split <;> rfl
  | fetchSite sequence => exact .inl ⟨rfl, rfl⟩
  | ping nonce => exact .inl ⟨rfl, rfl⟩
  | close => exact .inl ⟨rfl, rfl⟩

theorem numbersIn_eq (p : MemberPublisher) (calls : List Call) :
    ∃ n, p.numbersIn calls =
      (List.range n).map fun i => p.nextAttemptSequence + UInt64.ofNat i := by
  induction calls generalizing p with
  | nil => exact ⟨0, rfl⟩
  | cons call rest ih =>
    obtain ⟨n, later⟩ := ih (p.call call)
    rw [numbersIn, later]
    rcases p.call_numbers call with ⟨none, same⟩ | ⟨number, next⟩
    · exact ⟨n, by rw [none, same]; rfl⟩
    · refine ⟨n + 1, ?_⟩
      rw [number, next, List.range_succ_eq_map, List.map_cons, List.map_map]
      have head : p.nextAttemptSequence + UInt64.ofNat 0 = p.nextAttemptSequence :=
        UInt64.add_zero _
      rw [head]
      refine congrArg (p.nextAttemptSequence :: ·) (List.map_congr_left fun i _ => ?_)
      rw [Function.comp_apply, UInt64.add_assoc, Nat.succ_eq_add_one, Nat.add_comm i 1,
        UInt64.ofNat_add]
      rfl

/-- Over the whole life of a publisher: its session stands on an open connection and
with a valid incarnation, a new connection begins with a HELLO for the configured
incarnation, and publications are numbered one after another, whatever fails. -/
theorem publisher_life (created : create config = .ok p) (calls : List Call) :
    let last := run call p calls
    (last.session.established = true → last.connected = true ∧ last.incarnation.valid = true ∧
      last.incarnation.boot = config.incarnation.boot) ∧
    (∀ dials connection, last.connected = false →
      (connectWithRetry 20 dials).2 = some connection →
        connection.Puts
          ⟨.helloRequest, encodeMessage .helloRequest
            { domain := config.domain, site := config.site, incarnation := config.incarnation
              publisher := config.publisher, observedEpoch := last.session.epoch
              schema := config.schema }⟩
          (last.connect dials).2.connection) ∧
    ∃ n, p.numbersIn calls = (List.range n).map fun i => 1 + UInt64.ofNat i := by
  have start := Steady.start created
  have sound : Steady config (run call p calls) :=
    run_stable (Steady config) (fun _ call sound => sound.call call) calls start
  have first : p.nextAttemptSequence = 1 := by
    unfold create at created
    split_ifs at created
    cases created
    rfl
  refine ⟨fun established =>
    ⟨(sound.opened established).1, (sound.opened established).2, sound.boot⟩,
    fun dials connection closed dialed => ?_, first ▸ p.numbersIn_eq calls⟩
  have puts := handshake_puts
    (p := { run call p calls with incarnation := config.incarnation, connection })
    (dialOn_opened _ _ _ dialed).1 (run call p calls).session
  rw [sound.connect_dialed closed dialed]
  rw [hello, sound.configured] at puts
  exact puts

end

end MemberPublisher

def PublisherConfig.sample : PublisherConfig where
  port := 7001
  site := ⟨ascii "site-1"⟩
  domain := ⟨.rack, ascii "rack-1"⟩
  publisher := ⟨ascii "member-1"⟩
  incarnation := ⟨0, ⟨ascii "boot-a"⟩⟩

namespace MemberPublisher

def sample : MemberPublisher :=
  { config := .sample, incarnation := PublisherConfig.sample.incarnation }

/-- The answer of the sample controller to the HELLO of the sample publisher. -/
def welcome : Frame :=
  (SiteServer.sample.respondFrame 1 .sample
    ⟨.helloRequest, encodeMessage .helloRequest sample.hello⟩).2

/-- A publication is lost with its connection, and another one goes over a new connection. -/
def interrupted : List Call :=
  [.connect [.refused, .connected [.data (welcome.wire 0)] []],
    .publish (.sample (ascii "rack-1")) {}, .close,
    .connect [.connected [.data (welcome.wire 0)] []], .publish (.sample (ascii "rack-1")) {}]

theorem interrupted_life :
    (run call .sample interrupted).session.established = true ∧
      ((run call .sample interrupted).connected = true ∧
        (run call .sample interrupted).incarnation.valid = true ∧
        (run call .sample interrupted).incarnation.boot = PublisherConfig.sample.incarnation.boot) ∧
      ∃ n, sample.numbersIn interrupted = (List.range n).map fun i => 1 + UInt64.ofNat i := by
  have established : (run call .sample interrupted).session.established = true := by decide +kernel
  have created : create .sample = .ok .sample := by rfl
  obtain ⟨stands, -, numbers⟩ := publisher_life created interrupted
  exact ⟨established, stands established, numbers⟩

end MemberPublisher

end SiteFabric
