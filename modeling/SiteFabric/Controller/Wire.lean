import SiteFabric.Codec.Sites
import SiteFabric.Controller.Server
import SiteFabric.Protocol.Messages
import SiteFabric.Transport.Delivery

/-! One connection of the controller.
A handler takes a frame off its connection, answers it with one frame, and goes on
until the connection fails or an answer does not go out. What a HELLO, a publication
or a retirement does to the controller is what the message does; every other frame
leaves the controller alone. -/

namespace SiteFabric

open Lib Protocol Transport
open Std (ExtTreeMap)

namespace Protocol

namespace MessageType

def helloRequest : MessageType := ⟨1⟩
def helloResponse : MessageType := ⟨2⟩
def publishRequest : MessageType := ⟨3⟩
def publishResponse : MessageType := ⟨4⟩
def retireRequest : MessageType := ⟨5⟩
def retireResponse : MessageType := ⟨6⟩
def fetchSiteRequest : MessageType := ⟨7⟩
def fetchSiteResponse : MessageType := ⟨8⟩
def heartbeatRequest : MessageType := ⟨9⟩
def heartbeatResponse : MessageType := ⟨10⟩
def errorResponse : MessageType := ⟨13⟩

end MessageType

structure FetchSiteResponse where
  status : Status := .unknown
  snapshot : Option SiteSnapshot := none
  factors : Factors := {}
deriving DecidableEq

def FetchSiteResponse.write (m : FetchSiteResponse) : List UInt8 :=
  Canonical.tag m.status.ctorIdx ++ Canonical.optional SiteSnapshot.write m.snapshot ++
    Canonical.factors m.factors

end Protocol

namespace Codec

def fetchSiteResponse : Codec FetchSiteResponse :=
  ((enum Status).and <| (optional snapshotBody).and factors).record
    (fun (status, snapshot, factors) => { status, snapshot, factors })
    (fun m => (m.status, m.snapshot, m.factors))
    FetchSiteResponse.write (fun _ => rfl) fun _ => by
      unfold FetchSiteResponse.write
      simp only [List.append_assoc]
      rfl

end Codec

/-- What `respond_hello` reads of a HELLO. -/
def HelloRequest.of (m : Protocol.HelloRequest) : HelloRequest where
  domain := m.domain
  site := m.site
  incarnation := m.incarnation
  publisher := m.publisher
  observedEpoch := m.observedEpoch

def HelloResponse.message (r : HelloResponse) : Protocol.HelloResponse where
  status := r.status
  site := r.site
  epoch := r.epoch
  controller := r.controller
  assignedSequence := r.assignedSequence
  currentGeneration := r.currentGeneration
  factors := r.factors

def PublishResponse.message (r : PublishResponse) : Protocol.PublishResponse where
  status := r.status
  site := r.site
  epoch := r.epoch
  siteGeneration := r.siteGeneration
  acceptanceSequence := r.acceptanceSequence
  recomposed := r.recomposed
  factors := r.factors

def RetireResponse.message (r : RetireResponse) : Protocol.RetireResponse where
  status := r.status
  site := r.site
  epoch := r.epoch
  acceptanceSequence := r.acceptanceSequence
  factors := r.factors

/-- The frame of `send_error`. -/
def errorFrame (code : Status) (detail : Text) : Frame :=
  ⟨.errorResponse, encodeMessage .errorResponse { status := code, detail }⟩

def Answer.frame : Answer → Frame
  | .hello response => ⟨.helloResponse, encodeMessage .helloResponse response.message⟩
  | .publish response => ⟨.publishResponse, encodeMessage .publishResponse response.message⟩
  | .retire response => ⟨.retireResponse, encodeMessage .retireResponse response.message⟩
  | .error status detail => errorFrame status detail

namespace SiteServer

/-- What every `respond_` function begins with: a payload that does not decode is
answered with the error. -/
def respondDecoded (s : SiteServer) (kind : MessageKind) (detail : Text) (payload : List UInt8)
    (respond : kind.Message → SiteServer × Frame) : SiteServer × Frame :=
  match decodeMessage kind payload with
  | .error decoded => (s, errorFrame decoded.status detail)
  | .ok request => respond request

def respondPing (s : SiteServer) (payload : List UInt8) : SiteServer × Frame :=
  s.respondDecoded .ping (ascii "ping") payload fun request =>
    (s, ⟨.pong, encodeMessage .ping request⟩)

def fetchSite (c : SiteController) (request : FetchSiteRequest) : FetchSiteResponse :=
  if request.site ≠ c.config.site then { status := .siteMismatch }
  else
    match if request.sequence = 0 then c.chain.current else c.chain.atSequence request.sequence with
    | none =>
      { status := .notFound
        factors := ({} : Factors).add (ascii "sequence") (decimal request.sequence.toNat) }
    | some snapshot => { status := .ok, snapshot := some snapshot }

def respondFetchSite (s : SiteServer) (payload : List UInt8) : SiteServer × Frame :=
  s.respondDecoded .fetchSiteRequest (ascii "fetch_site") payload fun request =>
    (s, ⟨.fetchSiteResponse, Codec.fetchSiteResponse.write (fetchSite s.controller request)⟩)

end SiteServer

/-- `changed_since` -/
def SiteController.changedSince (c : SiteController) (sinceSequence : UInt64) :
    List MemberDomainKey :=
  (c.publications.toList.filter fun entry => entry.2.acceptanceSequence > sinceSequence).map Prod.fst

namespace SiteServer

def heartbeat (c : SiteController) (session : Option ConnectionSession)
    (request : HeartbeatRequest) : HeartbeatResponse :=
  let response : HeartbeatResponse :=
    { epoch := c.epoch
      siteGeneration := c.siteGeneration
      siteSequence := (c.chain.current.map SiteSnapshot.sequence).getD 0 }
  match session with
  | none =>
    { response with
      status := .unauthorized
      factors := response.factors.add (ascii "hello") (ascii "not_completed") }
  | some session =>
    if !c.authority.memberIncarnationLive session.domain session.incarnation then
      { response with status := .fencedIncarnation }
    else { response with status := .ok, invalidated := c.changedSince request.sinceSequence }

def respondHeartbeat (s : SiteServer) (connection : Nat) (payload : List UInt8) :
    SiteServer × Frame :=
  s.respondDecoded .heartbeatRequest (ascii "heartbeat") payload fun request =>
    (s, ⟨.heartbeatResponse, encodeMessage .heartbeatResponse
      (heartbeat s.controller s.sessions[connection]? request)⟩)

/-- The message in a HELLO, a publication or a retirement that decodes. -/
def messageOf (f : Frame) : Option Message :=
  if f.type = .helloRequest then
    (decodeMessage .helloRequest f.payload).toOption.map fun m => .hello (.of m)
  else if f.type = .publishRequest then
    (decodeMessage .publishRequest f.payload).toOption.map fun m => .publish m.declaration m.attempt
  else if f.type = .retireRequest then
    (decodeMessage .retireRequest f.payload).toOption.map fun m => .retire m.request
  else none

variable [StdSort]

/-- The switch of `handle_connection`: the answer to a frame. -/
def respondFrame (s : SiteServer) (connection : Nat) (io : Moment) (f : Frame) :
    SiteServer × Frame :=
  if f.type = .helloRequest then
    s.respondDecoded .helloRequest (ascii "hello") f.payload fun request =>
      (s.respondHello connection io (.of request)).map id Answer.frame
  else if f.type = .publishRequest then
    s.respondDecoded .publishRequest (ascii "publish") f.payload fun request =>
      (s.respondPublish connection io request.declaration request.attempt).map id Answer.frame
  else if f.type = .retireRequest then
    s.respondDecoded .retireRequest (ascii "retire") f.payload fun request =>
      (s.respondRetire connection io request.request).map id Answer.frame
  else if f.type = .ping then s.respondPing f.payload
  else if f.type = .fetchSiteRequest then s.respondFetchSite f.payload
  else if f.type = .heartbeatRequest then s.respondHeartbeat connection f.payload
  else (s, errorFrame .unsupported (ascii "unexpected message type"))

end SiteServer

/-- Calls from the controller's own process. -/
def SiteServer.Event.own : SiteServer.Event → Bool
  | .frame .. | .closed .. => false
  | .published .. | .retired .. | .revoked .. | .recomposed .. => true

/-- The controller and the connections of its handlers, the closed ones included. -/
structure WireServer where
  server : SiteServer
  connections : ExtTreeMap Nat TcpConnection compare := ∅

namespace WireServer

/-- A connection comes in, a handler goes once through its loop, it finds the
controller stopping, or the controller's own process calls it. -/
inductive Event where
  | accepted (connection : Nat) (socket : TcpConnection)
  | round (connection : Nat) (io ending : Moment)
  | stopped (connection : Nat) (ending : Moment)
  | called (call : SiteServer.Event)

def put (w : WireServer) (connection : Nat) (c : TcpConnection) : WireServer :=
  { w with connections := w.connections.insert connection c }

variable [StdSort]

/-- The end of `handle_connection`. -/
def hangUp (w : WireServer) (connection : Nat) (ending : Moment) (c : TcpConnection) : WireServer :=
  { w with server := w.server.step (.closed connection ending) }.put connection c.close

/-- One round of the loop of `handle_connection`. A process that crashes while it
makes an answer does not send it. -/
def round (w : WireServer) (connection : Nat) (io ending : Moment) (c : TcpConnection) :
    WireServer :=
  match c.receiveFrame with
  | (.error .busy, c) => w.put connection c
  | (.error _, c) => w.hangUp connection ending c
  | (.ok f, c) =>
    let responded := w.server.respondFrame connection io f
    let w := { w with server := responded.1 }
    if responded.1.controller.crashed then w
    else
      let sent := c.sendFrame responded.2.type.code responded.2.payload
      if sent.1.isOk then w.put connection sent.2 else w.hangUp connection ending sent.2

/-- The handler of a connection that is open. -/
def handler (w : WireServer) (connection : Nat) : Option TcpConnection :=
  (w.connections[connection]?).filter TcpConnection.valid

def step (w : WireServer) (event : Event) : WireServer :=
  if w.server.controller.crashed then w
  else match event with
    | .accepted connection socket =>
      if connection ∈ w.connections then w else w.put connection socket
    | .round connection io ending =>
      match w.handler connection with
      | none => w
      | some c => w.round connection io ending c
    | .stopped connection ending =>
      match w.handler connection with
      | none => w
      | some c => w.hangUp connection ending c
    | .called call => if call.own then { w with server := w.server.step call } else w

end WireServer

end SiteFabric
