import SiteFabric.Lib.Bursts
import SiteFabric.Protocol.Frames

/-! Loopback connections.
What the operating system answers to `recv` and `send` is a list of arrivals and a
list of puts, fixed before the first call. A peer that has closed is the end of the
arrivals; a network that has nothing against it takes what it is offered. -/

namespace SiteFabric

open Lib Protocol

namespace Transport

/-- Why a `recv` fails, other than by an interrupt. -/
inductive Break where
  | timedOut
  | failed
deriving DecidableEq

abbrev Incoming := List (Arrival UInt8 Break)

inductive Received where
  | got (bytes : List UInt8)
  | interrupted
  | broken (why : Break)

/-- `recv`: no bytes from a peer that has closed. -/
def recv (chunk : Nat) : Incoming → Received × Incoming
  | [] => (.got [], [])
  | .data [] :: rest => recv chunk rest
  | .data (byte :: more) :: rest =>
    (.got ((byte :: more).take chunk), .data ((byte :: more).drop chunk) :: rest)
  | .again :: rest => (.interrupted, rest)
  | .stop why :: rest => (.broken why, rest)

inductive Put where
  | took (count : Nat)
  | interrupted
  | failed
deriving DecidableEq

/-- `send`, on as many bytes as it is offered. -/
def send (offered : Nat) : List Put → Put × List Put
  | [] => (.took offered, [])
  | .took count :: rest => (.took (min count offered), rest)
  | .interrupted :: rest => (.interrupted, rest)
  | .failed :: rest => (.failed, rest)

/-- What one call is asked to move: at most 2^20 bytes. -/
def chunkOf (want : Nat) : Nat := if want > 1 <<< 20 then 1 <<< 20 else want

theorem recv_load {chunk : Nat} {socket : Incoming} {answer : Received} {rest : Incoming}
    (looked : recv chunk socket = (answer, rest)) (goes : answer ≠ .got []) :
    Arrival.load rest < Arrival.load socket := by
  fun_induction recv chunk socket with
  | case1 => exact absurd (Prod.mk.inj looked).1.symm goes
  | case2 rest ih =>
    have less := ih looked
    simp only [Arrival.load]
    omega
  | case3 byte more rest =>
    obtain ⟨rfl, rfl⟩ := Prod.mk.inj looked
    have some : chunk ≠ 0 := fun none => goes (by rw [none, List.take_zero])
    simp only [Arrival.load, List.length_drop, List.length_cons]
    omega
  | case4 rest =>
    obtain ⟨rfl, rfl⟩ := Prod.mk.inj looked
    simp only [Arrival.load]
    omega
  | case5 why rest =>
    obtain ⟨rfl, rfl⟩ := Prod.mk.inj looked
    simp only [Arrival.load]
    omega

/-- The loop of `read_exact`. -/
def readOn (bytes : Nat) (received : List UInt8) (socket : Incoming) :
    Status × List UInt8 × Incoming :=
  if received.length < bytes then
    match _ : recv (chunkOf (bytes - received.length)) socket with
    | (.got [], rest) => (if received.isEmpty then .stopped else .truncated, received, rest)
    | (.got (byte :: more), rest) => readOn bytes (received ++ byte :: more) rest
    | (.interrupted, rest) => readOn bytes received rest
    | (.broken .timedOut, rest) => (.busy, received, rest)
    | (.broken .failed, rest) => (.stopped, received, rest)
  else (.ok, received, socket)
termination_by Arrival.load socket
decreasing_by
  all_goals exact recv_load (by assumption) (by simp)

/-- The loop of `write_all`: how much of the bytes went out. -/
def writeOn (bytes sent : Nat) (puts : List Put) : Status × Nat × List Put :=
  if sent < bytes then
    match put : send (chunkOf (bytes - sent)) puts with
    | (.took 0, rest) => (.truncated, sent, rest)
    | (.took (count + 1), rest) => writeOn bytes (sent + (count + 1)) rest
    | (.interrupted, rest) => writeOn bytes sent rest
    | (.failed, rest) => (.truncated, sent, rest)
  else (.ok, sent, puts)
termination_by bytes - sent + puts.length
decreasing_by
  · cases puts with
    | nil =>
      obtain ⟨-, rfl⟩ := Prod.mk.inj put
      simp only [List.length_nil]
      omega
    | cons first more =>
      have fewer : rest.length ≤ more.length := by
        cases first <;> exact (congrArg List.length (Prod.mk.inj put).2).ge
      simp only [List.length_cons]
      omega
  · cases puts with
    | nil => exact absurd (Prod.mk.inj put).1 (by simp)
    | cons first more =>
      have fewer : rest.length ≤ more.length := by
        cases first <;> exact (congrArg List.length (Prod.mk.inj put).2).ge
      simp only [List.length_cons]
      omega

/-- A connection, with what the network has for it and what it has taken of it. -/
structure TcpConnection where
  valid : Bool := false
  incoming : Incoming := []
  puts : List Put := []
  written : List UInt8 := []

structure Frame where
  type : MessageType
  payload : List UInt8
deriving DecidableEq

namespace TcpConnection

def readExact (c : TcpConnection) (bytes : Nat) : Status × List UInt8 × TcpConnection :=
  if !c.valid then (.stopped, [], c)
  else
    let read := readOn bytes [] c.incoming
    (read.1, read.2.1, { c with incoming := read.2.2 })

def writeAll (c : TcpConnection) (bytes : List UInt8) : Status × TcpConnection :=
  if !c.valid then (.stopped, c)
  else
    let wrote := writeOn bytes.length 0 c.puts
    (wrote.1, { c with puts := wrote.2.2, written := c.written ++ bytes.take wrote.2.1 })

def close (c : TcpConnection) : TcpConnection := { c with valid := false }

def sendFrame (c : TcpConnection) (messageType : UInt16) (payload : List UInt8) :
    Status × TcpConnection :=
  if messageType = 0 ∨ messageType > MessageType.pong.code then (.unsupported, c)
  else match encodeFrame ⟨messageType⟩ payload 0 with
    | .error encoded => (encoded, c)
    | .ok frame => c.writeAll frame

def receiveFrame (c : TcpConnection) : Except Status Frame × TcpConnection :=
  let header := c.readExact frameHeaderBytes
  if !header.1.isOk then (.error header.1, header.2.2)
  else match decodeFrameHeader header.2.1 with
    | .error decoded => (.error decoded, header.2.2)
    | .ok h =>
      let body :=
        if h.payloadBytes ≠ 0 then header.2.2.readExact h.payloadBytes.toNat
        else (.ok, [], header.2.2)
      if !body.1.isOk then (.error body.1, body.2.2)
      else
        let verified := verifyPayload h body.2.1
        if !verified.isOk then (.error verified, body.2.2)
        else (.ok ⟨h.type, body.2.1⟩, body.2.2)

end TcpConnection

end Transport

end SiteFabric
