import SiteFabric.Controller.Wire

/-! The member publisher.
A client of the controller with one connection. It sends a request and takes the next
frame that comes in for the answer. A session lasts from a HELLO that is answered OK to
the end of the connection, and presents one incarnation. -/

namespace SiteFabric

open Lib Protocol Transport

structure PublisherConfig where
  port : UInt16 := 0
  site : SiteId := {}
  domain : MemberDomainKey := {}
  publisher : MemberId := {}
  incarnation : Incarnation := {}
  schema : SchemaVersion := SchemaVersion.model
  ioTimeoutMs : Int64 := 10000
  connectTimeoutMs : Int64 := 5000

structure PublisherSession where
  established : Bool := false
  epoch : Epoch := {}
  controller : Incarnation := {}
  assignedSequence : UInt64 := 0
  controllerGeneration : Generation := {}
  status : Status := .unknown
  factors : Factors := {}
deriving DecidableEq

structure MemberPublisher where
  config : PublisherConfig
  connection : TcpConnection := {}
  session : PublisherSession := {}
  incarnation : Incarnation
  nextAttemptSequence : UInt64 := 1
  attempt : UInt32 := 0

/-- How one attempt to connect goes. -/
inductive Dial where
  | noSocket
  | badHost
  | refused
  | connected (incoming : Incoming) (puts : List Put)

/-- The attempts of `connect_with_retry`, and the last status. -/
def dialOn : Nat → Status → List Dial → Status × Option TcpConnection
  | 0, last, _ => (last, none)
  | attempts + 1, _, dials =>
    match dials.head?.getD .refused with
    | .noSocket => dialOn attempts .unsupported dials.tail
    | .badHost => dialOn attempts .invalid dials.tail
    | .refused => dialOn attempts .notFound dials.tail
    | .connected incoming puts => (.ok, some { valid := true, incoming, puts })

def connectWithRetry (attempts : Nat) (dials : List Dial) : Status × Option TcpConnection :=
  dialOn (max attempts 1) .stopped dials

namespace Transport.TcpConnection

/-- One request and the frame that comes in next. -/
def ask (c : TcpConnection) (request : Frame) : Except Status Frame × TcpConnection :=
  let sent := c.sendFrame request.type.code request.payload
  if !sent.1.isOk then (.error sent.1, sent.2) else sent.2.receiveFrame

/-- What a reply comes to: an error frame is the status it carries. -/
def accept (expected : MessageType) (response : Frame) : Except Status (List UInt8) :=
  if response.type = .errorResponse then
    match decodeMessage .errorResponse response.payload with
    | .error decoded => .error decoded.status
    | .ok error => .error (if error.status.isOk then .refused else error.status)
  else if response.type ≠ expected then .error .malformed
  else .ok response.payload

/-- `exchange` -/
def exchange (c : TcpConnection) (request : Frame) (expected : MessageType) :
    Except Status (List UInt8) × TcpConnection :=
  let asked := c.ask request
  match asked.1 with
  | .error status => (.error status, asked.2)
  | .ok response => (accept expected response, asked.2)

end Transport.TcpConnection

namespace MemberPublisher

def create (config : PublisherConfig) : Except Status MemberPublisher :=
  if config.port = 0 then .error .invalid
  else if !config.site.valid || !config.domain.valid || config.publisher.value.isEmpty then
    .error .invalid
  else if !config.incarnation.boot.valid then .error .invalid
  else if config.ioTimeoutMs ≤ 0 || config.connectTimeoutMs ≤ 0 then .error .invalid
  else .ok { config, incarnation := config.incarnation }

def connected (p : MemberPublisher) : Bool := p.connection.valid

/-- An exchange, and the decoding of its response. -/
def converse {α : Type} (p : MemberPublisher) (request : Frame) (expected : MessageType)
    (decode : List UInt8 → Except Fault α) : Except Status α × MemberPublisher :=
  let exchanged := p.connection.exchange request expected
  (match exchanged.1 with
    | .error status => .error status
    | .ok payload => (decode payload).mapError Fault.status,
    { p with connection := exchanged.2 })

def hello (p : MemberPublisher) : Protocol.HelloRequest where
  domain := p.config.domain
  site := p.config.site
  incarnation := p.incarnation
  publisher := p.config.publisher
  observedEpoch := p.session.epoch
  schema := p.config.schema
  resumeFrom := {}

/-- What a HELLO_RESPONSE makes of the session it is handed, and of the incarnation. -/
def greeted (p : MemberPublisher) (out : PublisherSession) (hello : Protocol.HelloResponse) :
    Status × PublisherSession × MemberPublisher :=
  let out :=
    { out with
      status := hello.status, epoch := hello.epoch, controller := hello.controller
      assignedSequence := hello.assignedSequence
      controllerGeneration := hello.currentGeneration, factors := hello.factors }
  if !hello.status.isOk then (hello.status, { out with established := false }, p)
  else
    let incarnation :=
      if hello.assignedSequence ≠ 0 then { p.incarnation with sequence := hello.assignedSequence }
      else p.incarnation
    (if incarnation.valid then .ok else .invalid, { out with established := incarnation.valid },
      { p with incarnation })

/-- `handshake`: the session it fills in need not be the publisher's own. -/
def handshake (p : MemberPublisher) (out : PublisherSession) :
    Status × PublisherSession × MemberPublisher :=
  if !p.connected then (.notStarted, out, p)
  else
    let said := p.converse ⟨.helloRequest, encodeMessage .helloRequest p.hello⟩ .helloResponse
      (decodeMessage .helloResponse)
    match said.1 with
    | .error status => (status, { out with status }, said.2)
    | .ok hello => said.2.greeted out hello

def connect (p : MemberPublisher) (dials : List Dial) : Status × MemberPublisher :=
  if p.connected then (.alreadyExists, p)
  else
    let p := if p.session.established then p else { p with incarnation := p.config.incarnation }
    let dialed := connectWithRetry 20 dials
    match dialed.2 with
    | none => (dialed.1, p)
    | some connection =>
      let shaken := { p with connection }.handshake p.session
      (shaken.1, { shaken.2.2 with session := shaken.2.1 })

/-- The attempt that a publication is sent with, and the counters behind it. -/
def stamp (p : MemberPublisher) (attempt : PublishAttempt) : PublishAttempt × MemberPublisher :=
  let sequenced :=
    if attempt.sequence = 0 then
      ({ attempt with sequence := p.nextAttemptSequence },
        { p with nextAttemptSequence := p.nextAttemptSequence + 1 })
    else (attempt, p)
  if sequenced.1.attempt = 0 then
    ({ sequenced.1 with attempt := sequenced.2.attempt + 1 },
      { sequenced.2 with attempt := sequenced.2.attempt + 1 })
  else sequenced

def publish [StdSort] (p : MemberPublisher) (declaration : MemberDomainDeclaration)
    (attempt : PublishAttempt) : Except Status Protocol.PublishResponse × MemberPublisher :=
  if !p.session.established then (.error .notStarted, p)
  else match declaration.sealDeclaration with
    | .error status => (.error status, p)
    | .ok sealed =>
      let stamped := p.stamp attempt
      stamped.2.converse
        ⟨.publishRequest, encodeMessage .publishRequest ⟨sealed, stamped.1⟩⟩ .publishResponse
        (decodeMessage .publishResponse)

def retire (p : MemberPublisher) (request : RetireRequest) :
    Except Status Protocol.RetireResponse × MemberPublisher :=
  if !p.session.established then (.error .notStarted, p)
  else
    p.converse
      ⟨.retireRequest, encodeMessage .retireRequest ⟨{ request with incarnation := p.incarnation }⟩⟩
      .retireResponse (decodeMessage .retireResponse)

def heartbeat (p : MemberPublisher) : Except Status Protocol.HeartbeatResponse × MemberPublisher :=
  if !p.session.established then (.error .notStarted, p)
  else
    let said := p.converse
      ⟨.heartbeatRequest, encodeMessage .heartbeatRequest
        { domain := p.config.domain, site := p.config.site, incarnation := p.incarnation
          observedEpoch := p.session.epoch, sinceSequence := 0 }⟩
      .heartbeatResponse (decodeMessage .heartbeatResponse)
    match said.1 with
    | .error status => (.error status, said.2)
    | .ok out =>
      (.ok out,
        if out.status.isOk then { said.2 with session := { said.2.session with epoch := out.epoch } }
        else said.2)

/-- The fields in order, and nothing after them. -/
def decodeFetchSite (payload : List UInt8) : Except Fault FetchSiteResponse :=
  match (do let m ← Codec.fetchSiteResponse.read; CanonicalReader.finish; return m :
      Decoder FetchSiteResponse) payload with
  | .ok (m, _) => .ok m
  | .error fault => .error fault

def fetchSite (p : MemberPublisher) (sequence : UInt64) :
    Except Status FetchSiteResponse × MemberPublisher :=
  p.converse
    ⟨.fetchSiteRequest, encodeMessage .fetchSiteRequest
      { site := p.config.site, sequence, includeState := true }⟩
    .fetchSiteResponse decodeFetchSite

def ping (p : MemberPublisher) (nonce : UInt64) : Except Status UInt64 × MemberPublisher :=
  let said := p.converse ⟨.ping, encodeMessage .ping ⟨nonce⟩⟩ .pong (decodeMessage .ping)
  (said.1.map PingMessage.nonce, said.2)

def close (p : MemberPublisher) : MemberPublisher :=
  { p with
    connection := p.connection.close
    session := { p.session with established := false } }

end MemberPublisher

end SiteFabric
