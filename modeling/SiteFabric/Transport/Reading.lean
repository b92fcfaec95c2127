import SiteFabric.Lib.Stream
import SiteFabric.Transport.Sockets

/-! Frames over connections.
`read_exact` sees bursts only, so `receive_frame` reads frames off the first burst. A
receiver that goes on after a timeout has lost what it had read of the frame that the
timeout fell into, and goes on in the middle of that frame. -/

namespace SiteFabric

open Lib Protocol

namespace Transport

open Arrival (bursts)

/-- What one `recv` brings, seen from the bursts. -/
inductive Looks (chunk : Nat) (socket : Incoming) : Received × Incoming → Prop
  | got (byte : UInt8) (more : List UInt8) (rest : Incoming) (fits : (byte :: more).length ≤ chunk)
      (same : bursts socket = (bursts rest).prepend (byte :: more)) :
      Looks chunk socket (.got (byte :: more), rest)
  | closed (empty : bursts socket = {}) : Looks chunk socket (.got [], [])
  | interrupted (rest : Incoming) (same : bursts socket = bursts rest) :
      Looks chunk socket (.interrupted, rest)
  | broken (why : Break) (rest : Incoming) (first : (bursts socket).first = [])
      (next : (bursts socket).next = (some why, bursts rest)) :
      Looks chunk socket (.broken why, rest)

theorem recv_looks {chunk : Nat} (some : 0 < chunk) (socket : Incoming) :
    Looks chunk socket (recv chunk socket) := by
  fun_induction recv chunk socket with
  | case1 => exact .closed rfl
  | case2 rest ih =>
    generalize recv chunk rest = answer at ih ⊢
    cases ih with
    | got byte more rest fits same => exact .got byte more rest fits same
    | closed empty => exact .closed empty
    | interrupted rest same => exact .interrupted rest same
    | broken why rest first next => exact .broken why rest first next
  | case3 byte more rest =>
    obtain ⟨size, rfl⟩ : ∃ size, chunk = size + 1 := ⟨chunk - 1, by omega⟩
    rw [List.take_succ_cons, List.drop_succ_cons]
    apply Looks.got
    · simp only [List.length_cons, List.length_take]
      omega
    · rw [Arrival.bursts_data, Arrival.bursts_data, ← Bursts.prepend_append, List.cons_append,
        List.take_append_drop]
  | case4 rest => exact .interrupted rest rfl
  | case5 why rest => exact .broken why rest rfl rfl

/-- The status of a read, from what it received and what cut it short. -/
def cutStatus (received : List UInt8) : Option (Option Break) → Status
  | none => .ok
  | some none => if received.isEmpty then .stopped else .truncated
  | some (some .timedOut) => .busy
  | some (some .failed) => .stopped

theorem chunkOf_bounds {want : Nat} (some : 0 < want) : 0 < chunkOf want ∧ chunkOf want ≤ want := by
  unfold chunkOf
  split
  · next large => exact ⟨by decide, large.le⟩
  · exact ⟨some, le_rfl⟩

theorem looks_of {bytes : Nat} {received : List UInt8} {socket : Incoming}
    {answer : Received × Incoming} (more : received.length < bytes)
    (look : recv (chunkOf (bytes - received.length)) socket = answer) :
    Looks (chunkOf (bytes - received.length)) socket answer :=
  look ▸ recv_looks (chunkOf_bounds (Nat.sub_pos_of_lt more)).1 socket

theorem readOn_eq (bytes : Nat) (received : List UInt8) (socket : Incoming) :
    let taken := (bursts socket).take (bytes - received.length)
    ∃ rest, bursts rest = taken.2.2 ∧
      readOn bytes received socket =
        (cutStatus (received ++ taken.1) taken.2.1, received ++ taken.1, rest) := by
  dsimp only
  fun_induction readOn bytes received socket with
  | case1 received socket more rest look =>
    cases looks_of more look with
    | closed empty =>
      rw [empty, Bursts.take_of_lt (Nat.sub_pos_of_lt more)]
      refine ⟨[], rfl, ?_⟩
      rw [List.append_nil]
      rfl
  | case2 received socket more byte others rest look ih =>
    cases looks_of more look with
    | got _ _ _ fits same =>
      obtain ⟨after, follows, read⟩ := ih
      rw [List.length_append, Nat.sub_add_eq] at follows read
      rw [same, Bursts.take_prepend (fits.trans (chunkOf_bounds (Nat.sub_pos_of_lt more)).2), read, List.append_assoc]
      exact ⟨after, follows, rfl⟩
  | case3 received socket more rest look ih =>
    cases looks_of more look with
    | interrupted _ same => rwa [same]
  | case4 received socket more rest look =>
    cases looks_of more look with
    | broken _ _ first next =>
      rw [Bursts.take_of_lt (by rw [first]; exact Nat.sub_pos_of_lt more), first, next]
      refine ⟨rest, rfl, ?_⟩
      rw [List.append_nil]
      rfl
  | case5 received socket more rest look =>
    cases looks_of more look with
    | broken _ _ first next =>
      rw [Bursts.take_of_lt (by rw [first]; exact Nat.sub_pos_of_lt more), first, next]
      refine ⟨rest, rfl, ?_⟩
      rw [List.append_nil]
      rfl
  | case6 received socket enough =>
    rw [show bytes - received.length = 0 by omega, Bursts.take_of_le (Nat.zero_le _)]
    refine ⟨socket, rfl, ?_⟩
    rw [List.take_zero, List.append_nil]
    rfl

/-- Why no frame could be read off a burst: it is too short, with something read in
vain or nothing, or the frame is refused. -/
inductive Refusal where
  | short (begun : Bool)
  | bad (status : Status)
deriving DecidableEq

def frameReader : Reader Refusal Frame := fun input =>
  if input.length < frameHeaderBytes then .error (.short !input.isEmpty)
  else match decodeFrameHeader (input.take frameHeaderBytes) with
    | .error decoded => .error (.bad decoded)
    | .ok h =>
      let body := input.drop frameHeaderBytes
      let payload := body.take h.payloadBytes.toNat
      if body.length < h.payloadBytes.toNat then .error (.short !body.isEmpty)
      else
        let verified := verifyPayload h payload
        if !verified.isOk then .error (.bad verified)
        else .ok (⟨h.type, payload⟩, body.drop h.payloadBytes.toNat)

theorem verifyPayload_statuses (h : FrameHeader) (payload : List UInt8) :
    verifyPayload h payload = .ok ∨
      (verifyPayload h payload).isOk = false ∧ verifyPayload h payload ≠ .busy := by
  unfold verifyPayload
  split_ifs
  · exact .inr ⟨rfl, by decide⟩
  · exact .inr ⟨rfl, by decide⟩
  · exact .inl rfl

theorem decodeFrameHeader_statuses {headerBytes : List UInt8} {status : Status}
    (refused : decodeFrameHeader headerBytes = .error status) :
    status.isOk = false ∧ status ≠ .busy := by
  unfold decodeFrameHeader at refused
  dsimp only at refused
  split_ifs at refused <;> (cases refused; decide)

/-- A frame is never refused with BUSY. -/
theorem frameReader_bad {input : List UInt8} {status : Status}
    (refused : frameReader input = .error (.bad status)) : status.isOk = false ∧ status ≠ .busy := by
  unfold frameReader at refused
  split at refused
  · cases refused
  cases decoded : decodeFrameHeader (input.take frameHeaderBytes) with
  | error other =>
    rw [decoded] at refused
    cases refused
    exact decodeFrameHeader_statuses decoded
  | ok h =>
    rw [decoded] at refused
    dsimp only at refused
    split_ifs at refused with _ unverified
    · cases refused
    rw [← Refusal.bad.inj (Except.error.inj refused)]
    refine (verifyPayload_statuses h _).resolve_left fun ok => ?_
    rw [ok] at unverified
    exact absurd unverified (by decide)

/-- Frames of the types and lengths that are sent. -/
structure Frame.Sendable (f : Frame) : Prop where
  known : f.type.code ≠ 0
  low : f.type.code ≤ MessageType.pong.code
  fits : f.payload.length ≤ Limits.maxFrameBytes

def Frame.wire (f : Frame) (flags : UInt32) : List UInt8 :=
  (FrameHeader.of f.type f.payload flags).bytes ++ f.payload

theorem Frame.length_wire (f : Frame) (flags : UInt32) :
    (f.wire flags).length = frameHeaderBytes + f.payload.length := by
  rw [wire, List.length_append, FrameHeader.length_bytes]

theorem Frame.Sendable.size {f : Frame} (sendable : f.Sendable) (flags : UInt32) :
    (FrameHeader.of f.type f.payload flags).payloadBytes.toNat = f.payload.length :=
  toNat_payloadBytes sendable.fits

theorem Frame.Sendable.decoded {f : Frame} (sendable : f.Sendable) (flags : UInt32) :
    decodeFrameHeader (FrameHeader.of f.type f.payload flags).bytes =
      .ok (FrameHeader.of f.type f.payload flags) :=
  decodeFrameHeader_iff.mpr ⟨rfl, rfl, ⟨sendable.known, sendable.low⟩,
    (sendable.size flags).le.trans sendable.fits⟩

theorem frameReader_wire {f : Frame} (sendable : f.Sendable) (flags : UInt32) (rest : List UInt8) :
    frameReader (f.wire flags ++ rest) = .ok (f, rest) := by
  have length := (FrameHeader.of f.type f.payload flags).length_bytes
  have size := sendable.size flags
  have verified : verifyPayload (FrameHeader.of f.type f.payload flags) f.payload = .ok := by
    rw [verifyPayload, if_neg (not_not.mpr size.symm)]
    exact if_neg (not_not.mpr rfl)
  rw [Frame.wire, List.append_assoc, frameReader, List.take_left' length, List.drop_left' length,
    sendable.decoded, if_neg (by rw [List.length_append, length]; omega)]
  simp only [size, List.take_left, List.drop_left, verified]
  rw [if_neg (by rw [List.length_append]; omega)]
  rfl

/-- A part of a frame is no frame: it is too short. -/
theorem frameReader_cut {f : Frame} (sendable : f.Sendable) {count : Nat}
    (less : count < (f.wire 0).length) :
    frameReader ((f.wire 0).take count) =
      .error (.short (decide (count ≠ 0 ∧ count ≠ frameHeaderBytes))) := by
  have size : ((f.wire 0).take count).length = count := List.length_take_of_le less.le
  have header := (FrameHeader.of f.type f.payload 0).length_bytes
  rw [Frame.length_wire] at less
  by_cases front : count < frameHeaderBytes
  · have begun : (!((f.wire 0).take count).isEmpty) = decide (count ≠ 0 ∧ count ≠ frameHeaderBytes) := by
      rw [Bool.eq_iff_iff, Bool.not_eq_true', ← Bool.not_eq_true, List.isEmpty_iff_length_eq_zero, size,
        decide_eq_true_iff]
      exact ⟨fun some => ⟨some, front.ne⟩, And.left⟩
    rw [frameReader, if_pos (by rwa [size]), begun]
  · have split : (f.wire 0).take count =
        (FrameHeader.of f.type f.payload 0).bytes ++ f.payload.take (count - frameHeaderBytes) := by
      rw [Frame.wire, List.take_append, header, List.take_of_length_le (by omega)]
    have body : (f.payload.take (count - frameHeaderBytes)).length = count - frameHeaderBytes :=
      List.length_take_of_le (by omega)
    have begun : (!(f.payload.take (count - frameHeaderBytes)).isEmpty) =
        decide (count ≠ 0 ∧ count ≠ frameHeaderBytes) := by
      have positive : 0 < frameHeaderBytes := by decide
      rw [Bool.eq_iff_iff, Bool.not_eq_true', ← Bool.not_eq_true, List.isEmpty_iff_length_eq_zero, body,
        decide_eq_true_iff]
      omega
    rw [split, frameReader, List.take_left' header, List.drop_left' header, sendable.decoded,
      if_neg (by rw [List.length_append, header]; omega)]
    dsimp only
    rw [if_pos (by rw [body, sendable.size]; omega), begun]

theorem wire_of_frameReader {input rest : List UInt8} {f : Frame}
    (read : frameReader input = .ok (f, rest)) :
    f.Sendable ∧ ∃ flags, input = f.wire flags ++ rest := by
  unfold frameReader at read
  split at read
  · cases read
  cases decoded : decodeFrameHeader (input.take frameHeaderBytes) with
  | error status =>
    rw [decoded] at read
    cases read
  | ok h =>
    rw [decoded] at read
    dsimp only at read
    split_ifs at read with short unverified
    obtain ⟨rfl, rfl⟩ := Prod.mk.inj (Except.ok.inj read)
    have verified : verifyPayload h ((input.drop frameHeaderBytes).take h.payloadBytes.toNat) = .ok := by
      refine (verifyPayload_statuses h _).resolve_right fun refused => unverified ?_
      rw [refused.1]
      rfl
    have encoded := encodeFrame_of_accepted decoded verified
    have valid := (decodeFrameHeader_iff.mp decoded).2
    have sized : ((input.drop frameHeaderBytes).take h.payloadBytes.toNat).length =
        h.payloadBytes.toNat := List.length_take_of_le (Nat.not_lt.mp short)
    have fits := sized.le.trans valid.length
    refine ⟨⟨valid.type.1, valid.type.2, fits⟩, h.flags, ?_⟩
    rw [encodeFrame_ok (isKnown_iff.mpr valid.type.1) fits] at encoded
    rw [Frame.wire, Except.ok.inj encoded, List.append_assoc, List.take_append_drop,
      List.take_append_drop]

def Frame.piece (f : Frame) (sendable : f.Sendable) (flags : UInt32) : Reader.Piece frameReader where
  bytes := f.wire flags
  frame := f
  solid := by
    rw [Frame.length_wire]
    exact Nat.add_pos_left (by decide) _
  whole := frameReader_wire sendable flags

theorem frameReader_framed : frameReader.Framed := by
  intro input f rest read
  obtain ⟨sendable, flags, split⟩ := wire_of_frameReader read
  exact ⟨f.piece sendable flags, rfl, split⟩

/-- What a break makes of a read that it cuts short. -/
def broke (begun : Bool) : Option Break → Status
  | none => if begun then .truncated else .stopped
  | some .timedOut => .busy
  | some .failed => .stopped

/-- A frame off the first burst, or what refuses it. -/
inductive Receives (s rest : Bursts UInt8 Break) : Except Status Frame → Prop
  | frame (f : Frame) (left : List UInt8) (read : frameReader s.first = .ok (f, left))
      (follows : rest = { s with first := left }) : Receives s rest (.ok f)
  | short (begun : Bool) (read : frameReader s.first = .error (.short begun))
      (follows : rest = s.next.2) : Receives s rest (.error (broke begun s.next.1))
  | bad (status : Status) (read : frameReader s.first = .error (.bad status)) :
      Receives s rest (.error status)

theorem Receives.goes_on {s rest : Bursts UInt8 Break} {result : Except Status Frame}
    (receives : Receives s rest result) (goes : (∃ f, result = .ok f) ∨ result = .error .busy) :
    rest.weight < s.weight := by
  cases receives with
  | frame f left read follows =>
    obtain ⟨p, -, split⟩ := frameReader_framed _ _ _ read
    have solid := p.solid
    rw [follows, Bursts.weight, Bursts.weight, split, List.length_append]
    dsimp only
    omega
  | short begun read follows =>
    cases broken : s.next with
    | mk why next =>
      rw [broken] at follows goes
      cases why with
      | none => cases begun <;> simp [broke] at goes
      | some why =>
        rw [follows]
        exact Bursts.weight_next broken
  | bad status read =>
    obtain ⟨f, same⟩ | busy := goes
    · cases same
    · exact absurd (Except.error.inj busy) (frameReader_bad read).2

theorem cutStatus_some (received : List UInt8) (why : Option Break) :
    cutStatus received (some why) = broke (!received.isEmpty) why := by
  cases why with
  | none => cases received <;> rfl
  | some why => cases why <;> rfl

theorem broke_not_ok (begun : Bool) (why : Option Break) : (broke begun why).isOk = false := by
  cases why with
  | none => cases begun <;> rfl
  | some why => cases why <;> rfl

namespace TcpConnection

variable {c : TcpConnection}

theorem readExact_eq (valid : c.valid = true) (bytes : Nat) :
    let taken := (bursts c.incoming).take bytes
    ∃ rest, bursts rest = taken.2.2 ∧
      c.readExact bytes = (cutStatus taken.1 taken.2.1, taken.1, { c with incoming := rest }) := by
  obtain ⟨rest, follows, read⟩ := readOn_eq bytes [] c.incoming
  refine ⟨rest, follows, ?_⟩
  simp only [readExact, valid, read]
  rfl

/-- A read of bytes that have arrived. -/
theorem readExact_ok (valid : c.valid = true) {bytes : Nat}
    (enough : bytes ≤ (bursts c.incoming).first.length) :
    ∃ rest, bursts rest =
        { bursts c.incoming with first := (bursts c.incoming).first.drop bytes } ∧
      c.readExact bytes =
        (.ok, (bursts c.incoming).first.take bytes, { c with incoming := rest }) := by
  obtain ⟨rest, follows, read⟩ := readExact_eq valid bytes
  rw [Bursts.take_of_le enough] at follows read
  exact ⟨rest, follows, read⟩

/-- A read that a break cuts short. -/
theorem readExact_short (valid : c.valid = true) {bytes : Nat}
    (short : (bursts c.incoming).first.length < bytes) :
    ∃ rest, bursts rest = (bursts c.incoming).next.2 ∧
      c.readExact bytes =
        (broke (!(bursts c.incoming).first.isEmpty) (bursts c.incoming).next.1,
          (bursts c.incoming).first, { c with incoming := rest }) := by
  obtain ⟨rest, follows, read⟩ := readExact_eq valid bytes
  rw [Bursts.take_of_lt short] at follows read
  rw [cutStatus_some] at read
  exact ⟨rest, follows, read⟩

/-- The body of a frame: an empty one is not read at all. -/
theorem readBody_eq (valid : c.valid = true) {n : UInt32}
    (enough : n.toNat ≤ (bursts c.incoming).first.length) :
    ∃ rest, bursts rest =
        { bursts c.incoming with first := (bursts c.incoming).first.drop n.toNat } ∧
      (if n ≠ 0 then c.readExact n.toNat else (.ok, [], c)) =
        (.ok, (bursts c.incoming).first.take n.toNat, { c with incoming := rest }) := by
  by_cases zero : n = 0
  · subst zero
    exact ⟨c.incoming, rfl, rfl⟩
  · rw [if_pos zero]
    exact readExact_ok valid enough

theorem receiveFrame_receives (valid : c.valid = true) :
    ∃ result rest, c.receiveFrame = (result, { c with incoming := rest }) ∧
      Receives (bursts c.incoming) (bursts rest) result := by
  by_cases size : (bursts c.incoming).first.length < frameHeaderBytes
  · obtain ⟨rest, follows, read⟩ := readExact_short valid size
    refine ⟨_, rest, ?_, .short _ (by rw [frameReader, if_pos size]) follows⟩
    rw [receiveFrame, read]
    simp only [broke_not_ok]
    rfl
  obtain ⟨rest, follows, read⟩ := readExact_ok valid (Nat.not_lt.mp size)
  cases decoded : decodeFrameHeader ((bursts c.incoming).first.take frameHeaderBytes) with
  | error status =>
    refine ⟨_, rest, ?_, .bad status (by rw [frameReader, if_neg size, decoded])⟩
    rw [receiveFrame, read]
    simp only [decoded]
    rfl
  | ok h =>
    have left : (bursts rest).first = (bursts c.incoming).first.drop frameHeaderBytes := by
      rw [follows]
    have behind : (bursts rest).later = (bursts c.incoming).later := by rw [follows]
    by_cases short : (bursts rest).first.length < h.payloadBytes.toNat
    · have some : h.payloadBytes ≠ 0 := by
        intro zero
        rw [zero] at short
        exact Nat.not_lt_zero _ short
      obtain ⟨after, further, body⟩ := readExact_short (c := { c with incoming := rest }) valid short
      have next : (bursts rest).next = (bursts c.incoming).next := by
        rw [Bursts.next, Bursts.next, behind]
      have refused : frameReader (bursts c.incoming).first =
          .error (.short !((bursts c.incoming).first.drop frameHeaderBytes).isEmpty) := by
        rw [frameReader, if_neg size, decoded]
        exact if_pos (left ▸ short)
      rw [next] at body further
      refine ⟨_, after, ?_, .short _ refused further⟩
      rw [receiveFrame, read]
      simp only [decoded, ne_eq, some, not_false_eq_true, if_true, body, broke_not_ok, left]
      rfl
    · obtain ⟨after, further, body⟩ :=
        readBody_eq (c := { c with incoming := rest }) valid (Nat.not_lt.mp short)
      rw [left] at body
      have reads : frameReader (bursts c.incoming).first =
          let payload := ((bursts c.incoming).first.drop frameHeaderBytes).take h.payloadBytes.toNat
          if !(verifyPayload h payload).isOk then .error (.bad (verifyPayload h payload))
          else .ok (⟨h.type, payload⟩,
            ((bursts c.incoming).first.drop frameHeaderBytes).drop h.payloadBytes.toNat) := by
        rw [frameReader, if_neg size, decoded]
        exact if_neg (left ▸ short)
      dsimp only at reads
      split_ifs at reads with refused
      · refine ⟨_, after, ?_, .bad _ reads⟩
        rw [receiveFrame, read]
        simp only [decoded, body, refused, if_true]
        rfl
      · refine ⟨_, after, ?_, .frame _ _ reads ?_⟩
        · rw [receiveFrame, read]
          simp only [decoded, body, refused]
          rfl
        · rw [further, left]
          exact congrArg (Bursts.mk _) behind

theorem receiveFrame_stopped (invalid : c.valid = false) : c.receiveFrame = (.error .stopped, c) := by
  rw [receiveFrame, readExact, invalid]
  rfl

theorem receiveFrame_goes_on {rest : TcpConnection} {result : Except Status Frame}
    (received : c.receiveFrame = (result, rest))
    (goes : (∃ f, result = .ok f) ∨ result = .error .busy) :
    (bursts rest.incoming).weight < (bursts c.incoming).weight := by
  cases valid : c.valid with
  | false =>
    rw [receiveFrame_stopped valid] at received
    obtain ⟨rfl, -⟩ := Prod.mk.inj received
    rcases goes with ⟨f, same⟩ | same <;> cases same
  | true =>
    obtain ⟨result', after, received', receives⟩ := receiveFrame_receives valid
    rw [received'] at received
    obtain ⟨rfl, rfl⟩ := Prod.mk.inj received
    exact receives.goes_on goes

end TcpConnection

end Transport

end SiteFabric
