import SiteFabric.Controller.Handlers
import SiteFabric.Publisher.Client

/-! Requests and replies.
Nothing in a reply says which request it answers. The controller answers the frames of
a connection one after the other, so the replies come in the order of the requests, and
an exchange that times out leaves its reply to the next one. -/

namespace SiteFabric

open Lib Protocol Transport TcpConnection
open Arrival (bursts)
open Std (ExtTreeMap)

namespace Transport.TcpConnection

/-- Requests one after another on one connection, and what each exchange brings. -/
def askAll (c : TcpConnection) : List Frame → List (Except Status Frame) × TcpConnection
  | [] => ([], c)
  | request :: rest =>
    let asked := c.ask request
    let others := askAll asked.2 rest
    (asked.1 :: others.1, others.2)

/-- An exchange that brought a reply, or nothing yet. -/
def Waits : Except Status Frame → Prop
  | .ok _ => True
  | .error status => status = .busy

instance : DecidablePred Waits
  | .ok _ => isTrue trivial
  | .error status => inferInstanceAs (Decidable (status = .busy))

end Transport.TcpConnection

section

open WireServer

variable [StdSort]

/-- The bursts of a connection are cut between frames. -/
def Aligned (c : TcpConnection) : Prop :=
  ∃ groups : List (List Frame), (∀ f ∈ groups.flatten, f.Sendable) ∧
    (bursts c.incoming).first :: (bursts c.incoming).later.map Prod.snd = groups.map whole

omit [StdSort] in
theorem Aligned.single {c : TcpConnection} {frames : List Frame}
    (incoming : c.incoming = [.data (whole frames)]) (able : ∀ f ∈ frames, f.Sendable) :
    Aligned c := by
  refine ⟨[frames], fun f listed => able f (by simpa using listed), ?_⟩
  rw [incoming]
  exact congrArg ([·]) (List.append_nil (whole frames))

/-- The exchanges of a client go over a connection of the controller: each one brings a
reply or times out, and what the network brings to either end comes between frames. -/
structure Linked (client : TcpConnection) (requests : List Frame) (w : WireServer)
    (connection : Nat) (events : List Event) : Prop where
  opened : client.valid = true
  silent : client.written = []
  waits : ∀ outcome ∈ (client.askAll requests).1, Waits outcome
  arrives : ∃ socket, w.connections[connection]? = some socket ∧ socket.valid = true ∧
    socket.written = [] ∧ Conveys (client.askAll requests).2 socket ∧ Aligned socket
  returns : ∃ served, (run WireServer.step w events).connections[connection]? = some served ∧
    Conveys served client
  between : Aligned client

section

variable {client : TcpConnection} {requests : List Frame} {w : WireServer} {connection : Nat}
  {events : List Event}

end

end

end SiteFabric
