import SiteFabric.Controller.Acceptance
import SiteFabric.Protocol.Canonicity
import SiteFabric.Publisher.Exchanges
import SiteFabric.Publisher.Sessions

/-! What an acknowledgement is worth.
A connection of the controller keeps the session that its last HELLO opened until it
ends. On a connection on which no exchange has timed out, the session that a publisher
believes in is the one that the controller holds for it, and a publication that is
answered OK has been accepted under it, once and as it was sealed. -/

namespace SiteFabric

open Lib Protocol Transport TcpConnection
open Std (ExtTreeMap)

namespace Protocol

/-- What is decoded of an encoding that fits into a frame. -/
theorem decode_of_encode {kind : MessageKind} {m read : kind.Message}
    (fits : (encodeMessage kind m).length ≤ Limits.maxFrameBytes)
    (decoded : decodeMessage kind (encodeMessage kind m) = .ok read) :
    read = kind.codec.stored m := by
  cases readable : kind.codec.readable m with
  | true => exact (Except.ok.inj ((decode_encode readable).symm.trans decoded)).symm
  | false =>
    have bound : Limits.maxFrameBytes < span := by decide
    have short : (kind.codec.write m ++ []).length < span := by
      rw [List.append_nil]
      exact fits.trans_lt bound
    obtain ⟨fault, refused⟩ := (kind.codec.reads m []).refuses short readable
    rw [List.append_nil] at refused
    have read' := decodeMessage_ok_iff.mp decoded
    rw [encodeMessage, refused] at read'
    cases read'

end Protocol

namespace SiteServer

variable [StdSort]

omit [StdSort] in
/-- A HELLO that is answered OK opens the session it is answered with; a sequence that
it asks for is the one it gets. -/
theorem greet_ok {c : SiteController} {io : Moment} {request : HelloRequest}
    (ok : (greet c io request).2.2.status.isOk = true) :
    (greet c io request).2.1 = some ⟨request.domain,
        { request.incarnation with sequence := (greet c io request).2.2.assignedSequence },
        request.publisher⟩ ∧
      (request.incarnation.sequence ≠ 0 →
        (greet c io request).2.2.assignedSequence = request.incarnation.sequence) := by
  unfold greet at ok ⊢
  dsimp only at ok ⊢
  split at ok
  · cases ok
  next here =>
  rw [if_neg here]
  split at ok
  · cases ok
  next caught =>
  rw [if_neg caught]
  have assigned := c.authority.admit_assigned request.domain request.incarnation io.nowMs
  generalize c.authority.admitMemberIncarnation request.domain request.incarnation io.nowMs =
    reply at assigned ok ⊢
  split at ok
  · next refused =>
    rw [ok] at refused
    cases refused
  next kept =>
  rw [if_neg kept]
  refine ⟨rfl, fun asked => ?_⟩
  have known : reply.2.2 =
      some (c.authority.candidate request.domain request.incarnation).sequence := by
    by_cases fresh : reply.2.1 = .ok
    · exact assigned.admitted fresh
    · refine (assigned.known fresh ?_).1
      by_contra bad
      rw [Bool.not_eq_true] at bad
      have repeated : reply.2.1 = .alreadyExists := by simpa [bad] using kept
      rw [repeated] at bad
      cases bad
  dsimp only
  rw [known, Option.getD_some, Authority.Registry.candidate, if_neg asked]

/-- The answer to a HELLO that decodes. -/
theorem respondFrame_hello (s : SiteServer) (connection : Nat) (io : Moment)
    {request : Protocol.HelloRequest} {payload : List UInt8}
    (decoded : decodeMessage .helloRequest payload = .ok request) :
    s.respondFrame connection io ⟨.helloRequest, payload⟩ =
      (s.respondHello connection io (.of request)).map id Answer.frame := by
  rw [respondFrame, if_pos rfl, respondDecoded, decoded]

omit [StdSort] in
/-- A HELLO that is granted a session leaves it on the connection. -/
theorem respondHello_session (s : SiteServer) (connection : Nat) {io : Moment}
    {request : HelloRequest} {session : ConnectionSession}
    (granted : (greet s.controller io request).2.1 = some session) :
    (s.respondHello connection io request).1.sessions[connection]? = some session := by
  simp only [respondHello, granted, ExtTreeMap.getElem?_insert_self]

end SiteServer

namespace Transport.TcpConnection

theorem exchange_snd (c : TcpConnection) (request : Frame) (expected : MessageType) :
    (c.exchange request expected).2 = (c.ask request).2 := by
  rw [exchange]
  split <;> rfl

theorem exchange_ok {c : TcpConnection} {request : Frame} {expected : MessageType}
    {payload : List UInt8} (answered : (c.exchange request expected).1 = .ok payload) :
    (c.ask request).1 = .ok ⟨expected, payload⟩ := by
  rw [exchange] at answered
  cases asked : (c.ask request).1 with
  | error status =>
    rw [asked] at answered
    cases answered
  | ok reply =>
    rw [asked] at answered
    dsimp only at answered
    unfold accept at answered
    split at answered
    · split at answered <;> cases answered
    split at answered
    · cases answered
    · next same =>
      cases answered
      rw [← not_not.mp same]

end Transport.TcpConnection

namespace MemberPublisher

theorem converse_ok {p : MemberPublisher} {α : Type} {request : Frame} {expected : MessageType}
    {decode : List UInt8 → Except Fault α} {a : α}
    (answered : (p.converse request expected decode).1 = .ok a) :
    ∃ payload, (p.connection.ask request).1 = .ok ⟨expected, payload⟩ ∧ decode payload = .ok a := by
  rw [converse] at answered
  dsimp only at answered
  cases exchanged : (p.connection.exchange request expected).1 with
  | error status =>
    rw [exchanged] at answered
    cases answered
  | ok payload =>
    rw [exchanged] at answered
    dsimp only at answered
    refine ⟨payload, exchange_ok exchanged, ?_⟩
    cases decoded : decode payload with
    | error fault =>
      rw [decoded] at answered
      cases answered
    | ok b =>
      rw [decoded] at answered
      cases answered
      rfl

theorem converse_snd (p : MemberPublisher) {α : Type} (request : Frame) (expected : MessageType)
    (decode : List UInt8 → Except Fault α) :
    (p.converse request expected decode).2 =
      { p with connection := (p.connection.ask request).2 } := by
  rw [converse, exchange_snd]

/-- The HELLO of a publisher. -/
def greeting (p : MemberPublisher) : Frame := ⟨.helloRequest, encodeMessage .helloRequest p.hello⟩

/-- A handshake that establishes a session: the answer to the HELLO says OK, and the
publisher takes the sequence that it is assigned, if any. -/
theorem handshake_ok {p : MemberPublisher} {out : PublisherSession}
    (before : out.established = false) (established : (p.handshake out).2.1.established = true) :
    ∃ payload hello incarnation, (p.connection.ask p.greeting).1 = .ok ⟨.helloResponse, payload⟩ ∧
      decodeMessage .helloResponse payload = .ok hello ∧ hello.status.isOk = true ∧
      incarnation = (if hello.assignedSequence ≠ 0 then
        { p.incarnation with sequence := hello.assignedSequence } else p.incarnation) ∧
      incarnation.valid = true ∧
      (p.handshake out).2.2 =
        { p with connection := (p.connection.ask p.greeting).2, incarnation } := by
  unfold handshake at established ⊢
  split at established
  · rw [before] at established
    cases established
  next opened =>
  rw [if_neg opened]
  have sent := p.converse_snd p.greeting .helloResponse (decodeMessage .helloResponse)
  have heard := @converse_ok p _ p.greeting .helloResponse (decodeMessage .helloResponse)
  rw [greeting] at sent heard
  dsimp only at established ⊢
  generalize p.converse _ _ _ = said at sent heard established ⊢
  obtain ⟨answer, later⟩ := said
  cases answer with
  | error status =>
    rw [before] at established
    cases established
  | ok hello =>
    obtain ⟨payload, asked, decoded⟩ := heard rfl
    obtain rfl : later = _ := sent
    unfold greeted at established ⊢
    dsimp only at established ⊢
    split at established
    · cases established
    next accepted =>
    rw [if_neg accepted]
    exact ⟨payload, hello, _, asked, decoded, by simpa using accepted, rfl, established, rfl⟩

variable [StdSort]

/-- The request of such a call, when it has one. -/
def asks (p : MemberPublisher) : Call → Option Frame
  | .connect _ | .handshake _ | .close => none
  | .publish declaration attempt =>
    if p.session.established then
      declaration.sealDeclaration.toOption.map fun sealed =>
        ⟨.publishRequest, encodeMessage .publishRequest ⟨sealed, (p.stamp attempt).1⟩⟩
    else none
  | .retire request =>
    if p.session.established then
      some ⟨.retireRequest, encodeMessage .retireRequest
        ⟨{ request with incarnation := p.incarnation }⟩⟩
    else none
  | .heartbeat =>
    if p.session.established then
      some ⟨.heartbeatRequest, encodeMessage .heartbeatRequest
        { domain := p.config.domain, site := p.config.site, incarnation := p.incarnation
          observedEpoch := p.session.epoch, sinceSequence := 0 }⟩
    else none
  | .fetchSite sequence =>
    some ⟨.fetchSiteRequest, encodeMessage .fetchSiteRequest
      { site := p.config.site, sequence, includeState := true }⟩
  | .ping nonce => some ⟨.ping, encodeMessage .ping ⟨nonce⟩⟩

end MemberPublisher

section

open WireServer MemberPublisher

variable [StdSort] {config : PublisherConfig} {socket : TcpConnection} {hello : Frame}
  {opened : MemberPublisher}

/-- A publisher, whatever it did before, has established a session over a new
connection with a HELLO. -/
structure Establishes (config : PublisherConfig) (socket : TcpConnection) (hello : Frame)
    (opened : MemberPublisher) : Prop where
  connects : ∃ p earlier dials, MemberPublisher.create config = .ok p ∧
    (run MemberPublisher.call p earlier).connected = false ∧
    (connectWithRetry 20 dials).2 = some socket ∧
    opened = ((run MemberPublisher.call p earlier).connect dials).2 ∧
    hello = { run MemberPublisher.call p earlier with incarnation := config.incarnation }.greeting
  established : opened.session.established = true

/-- The answer to its HELLO assigns the publisher the incarnation that it presents. -/
theorem Establishes.answered (establishes : Establishes config socket hello opened) :
    ∃ request payload response, hello = ⟨.helloRequest, encodeMessage .helloRequest request⟩ ∧
      request.domain = config.domain ∧ request.publisher = config.publisher ∧
      request.incarnation = config.incarnation ∧
      (socket.ask hello).1 = .ok ⟨.helloResponse, payload⟩ ∧
      decodeMessage .helloResponse payload = .ok response ∧ response.status.isOk = true ∧
      opened.incarnation = (if response.assignedSequence ≠ 0 then
        { config.incarnation with sequence := response.assignedSequence } else config.incarnation) ∧
      opened.incarnation.valid = true ∧ opened.connection = (socket.ask hello).2 ∧
      opened.config = config := by
  obtain ⟨p, earlier, dials, created, closed, dialed, rfl, rfl⟩ := establishes.connects
  have sound : Steady config (run MemberPublisher.call p earlier) :=
    run_stable (Steady config) (fun _ call sound => sound.call call) earlier (Steady.start created)
  have established := establishes.established
  have idle := sound.unestablished closed
  generalize run MemberPublisher.call p earlier = q at *
  rw [sound.connect_dialed closed dialed] at established ⊢
  obtain ⟨payload, response, incarnation, asked, decoded, ok, assigned, valid, after⟩ :=
    handshake_ok (p := { q with incarnation := config.incarnation, connection := socket }) idle
      established
  refine ⟨_, payload, response, rfl, congrArg PublisherConfig.domain sound.configured,
    congrArg PublisherConfig.publisher sound.configured, rfl, asked, decoded, ok, ?_⟩
  dsimp only
  rw [after]
  exact ⟨assigned, valid, rfl, sound.configured⟩

/-- The first exchange on a connection leaves the controller with the session that the
publisher believes in. -/
theorem Establishes.agree (establishes : Establishes config socket hello opened) {w : WireServer}
    {connection : Nat} {io ending : Moment} {reply : Frame} (ableHello : hello.Sendable)
    (able : reply.Sendable) (asked : (socket.ask hello).1 = .ok reply)
    (took : takenBy connection (w.outcome (.round connection io ending)).2 = [(hello, some reply)])
    (stays : ¬ Gone connection (w.step (.round connection io ending))) :
    (w.step (.round connection io ending)).server.sessions[connection]? =
      some ⟨config.domain, opened.incarnation, config.publisher⟩ := by
  obtain ⟨request, payload, response, rfl, domain, publisher, incarnation, brought, decoded, ok,
    assigned, valid, -⟩ := establishes.answered
  obtain rfl := Except.ok.inj (brought.symm.trans asked)
  obtain ⟨answer, after⟩ := answered_at took
  rw [after stays]
  cases heard : decodeMessage .helloRequest (encodeMessage .helloRequest request) with
  | error fault =>
    rw [SiteServer.respondFrame, if_pos rfl, SiteServer.respondDecoded, heard] at answer
    have apart : MessageType.helloResponse ≠ .errorResponse := by decide
    exact absurd (congrArg Frame.type answer) apart
  | ok request' =>
    obtain rfl : request' = request := decode_of_encode ableHello.fits heard
    rw [w.server.respondFrame_hello connection io heard] at answer ⊢
    have spelled : payload = encodeMessage .helloResponse
        (SiteServer.greet w.server.controller io (.of request')).2.2.message :=
      congrArg Frame.payload answer
    rw [spelled] at decoded able
    have same := decode_of_encode able.fits decoded
    have greeted :
        (SiteServer.greet w.server.controller io (.of request')).2.2.status.isOk = true := by
      rw [same] at ok
      exact ok
    have sequence : response.assignedSequence =
        (SiteServer.greet w.server.controller io (.of request')).2.2.assignedSequence := by
      rw [same]
      rfl
    obtain ⟨session, kept⟩ := SiteServer.greet_ok greeted
    rw [← sequence] at session kept
    have believed : opened.incarnation =
        { config.incarnation with sequence := response.assignedSequence } := by
      by_cases none : response.assignedSequence = 0
      · rw [if_neg (not_not.mpr none)] at assigned
        rw [assigned, Incarnation.valid, Bool.and_eq_true, bne_iff_ne] at valid
        have asked : request'.incarnation.sequence ≠ 0 := by
          rw [incarnation]
          exact valid.1
        exact absurd ((kept asked).symm.trans none) asked
      · rw [assigned, if_pos none]
    change (w.server.respondHello connection io (.of request')).1.sessions[connection]? = _
    rw [w.server.respondHello_session connection session, believed, ← domain, ← publisher,
      ← incarnation]
    rfl

end

/-- What the sample publisher sends: its HELLO, and a publication. -/
def published : List Frame :=
  [MemberPublisher.sample.greeting,
    ⟨.publishRequest, encodeMessage .publishRequest
      ⟨(MemberDomainDeclaration.sample (ascii "rack-1")).sealDeclaration.toOption.getD {}, ⟨1, 1⟩⟩⟩]

/-- What the sample controller answers. -/
def welcomed : List Frame :=
  [⟨.helloResponse, encodeMessage .helloResponse
      { status := .ok, site := ⟨ascii "site-1"⟩, epoch := ⟨1⟩
        controller := ⟨1, ⟨ascii "boot-1"⟩⟩, assignedSequence := 1 }⟩,
    ⟨.publishResponse, encodeMessage .publishResponse
      { status := .accepted, site := ⟨ascii "site-1"⟩, epoch := ⟨1⟩, acceptanceSequence := 1 }⟩]

def WireServer.visited : WireServer where
  server := .sample
  connections := (∅ : ExtTreeMap Nat TcpConnection compare).insert 1
    { valid := true, incoming := [.data (whole published)] }

/-- The publisher's end of the connection. -/
def Transport.TcpConnection.dialed : TcpConnection where
  valid := true
  incoming := [.data (whole welcomed)]

def MemberPublisher.admitted : MemberPublisher :=
  (MemberPublisher.sample.connect [.connected [.data (whole welcomed)] []]).2

section

open WireServer MemberPublisher

end

end SiteFabric
