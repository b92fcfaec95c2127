import SiteFabric.Lib.Stream
import SiteFabric.Transport.Reading

/-! Frames over connections.
A receiver that goes on after a timeout has lost what it had read of the frame that
the timeout fell into, and goes on in the middle of that frame. So what is sent is
what is delivered exactly where the timeouts fall between frames. -/

namespace SiteFabric

open Lib Protocol

namespace Transport

open Arrival (bursts)

namespace TcpConnection

/-- The frames that a handler takes off its connection, and what ends it: a timeout
does not. -/
def receiveLoop (c : TcpConnection) : List Frame × Status :=
  match _ : c.receiveFrame with
  | (.ok f, rest) =>
    let others := receiveLoop rest
    (f :: others.1, others.2)
  | (.error .busy, rest) => receiveLoop rest
  | (.error status, _) => ([], status)
termination_by (bursts c.incoming).weight
decreasing_by
  · exact receiveFrame_goes_on (by assumption) (.inl ⟨f, rfl⟩)
  · exact receiveFrame_goes_on (by assumption) (.inr rfl)

/-- Frames one after another, until one does not go out. -/
def sendFrames (c : TcpConnection) : List Frame → Status × TcpConnection
  | [] => (.ok, c)
  | f :: rest =>
    let sent := c.sendFrame f.type.code f.payload
    if !sent.1.isOk then sent else sendFrames sent.2 rest

end TcpConnection

/-- What the reading of a burst comes to at the break behind it. -/
def ending (why : Option Break) : Option Refusal → Status
  | none => broke false why
  | some (.short begun) => broke begun why
  | some (.bad status) => status

/-- The frames of all bursts up to the one that ends the reading. -/
def deliver (first : List UInt8) : List (Break × List UInt8) → List Frame × Status
  | [] => ((frameReader.stream first).frames, ending none (frameReader.stream first).stop)
  | (why, burst) :: rest =>
    let read := frameReader.stream first
    let ended := ending (some why) read.stop
    if ended = .busy then (read.frames ++ (deliver burst rest).1, (deliver burst rest).2)
    else (read.frames, ended)

theorem deliver_piece (p : Reader.Piece frameReader) (left : List UInt8)
    (later : List (Break × List UInt8)) :
    deliver (p.bytes ++ left) later =
      (p.frame :: (deliver left later).1, (deliver left later).2) := by
  have piece := Reader.stream_piece frameReader_framed p left
  cases later with
  | nil =>
    rw [deliver, deliver, piece]
    rfl
  | cons broken rest =>
    rw [deliver, deliver, piece]
    by_cases busy : ending (some broken.1) (frameReader.stream left).stop = .busy
    · simp only [Reader.Framing.push, busy, if_true, List.cons_append]
    · simp only [Reader.Framing.push, busy, if_false]

theorem frameReader_nil : frameReader [] = .error (.short false) := rfl

/-- A burst off which no frame can be read. -/
theorem deliver_refused {first : List UInt8} {refusal : Refusal}
    (refused : frameReader first = .error refusal) (why : Option Break) :
    (frameReader.stream first).frames = [] ∧
      ending why (frameReader.stream first).stop = ending why (some refusal) := by
  cases first with
  | nil =>
    rw [frameReader_nil] at refused
    cases refused
    exact ⟨rfl, rfl⟩
  | cons byte more =>
    rw [Reader.stream_refused (by simp) refused]
    exact ⟨rfl, rfl⟩

theorem deliver_short {s : Bursts UInt8 Break} {begun : Bool}
    (read : frameReader s.first = .error (.short begun)) :
    deliver s.first s.later =
      if broke begun s.next.1 = .busy then deliver s.next.2.first s.next.2.later
      else ([], broke begun s.next.1) := by
  obtain ⟨first, later⟩ := s
  cases later with
  | nil =>
    obtain ⟨frames, ended⟩ := deliver_refused read none
    have final : ¬ broke begun none = .busy := by cases begun <;> decide
    rw [deliver, frames, ended]
    exact (if_neg final).symm
  | cons broken rest =>
    obtain ⟨frames, ended⟩ := deliver_refused read (some broken.1)
    rw [deliver, frames, ended]
    rfl

theorem deliver_bad {s : Bursts UInt8 Break} {status : Status}
    (read : frameReader s.first = .error (.bad status)) :
    deliver s.first s.later = ([], status) := by
  obtain ⟨first, later⟩ := s
  cases later with
  | nil =>
    obtain ⟨frames, ended⟩ := deliver_refused read none
    rw [deliver, frames, ended]
    rfl
  | cons broken rest =>
    obtain ⟨frames, ended⟩ := deliver_refused read (some broken.1)
    rw [deliver, frames, ended]
    exact if_neg (frameReader_bad read).2

theorem TcpConnection.receiveLoop_eq {c : TcpConnection} (valid : c.valid = true) :
    c.receiveLoop = deliver (bursts c.incoming).first (bursts c.incoming).later := by
  fun_induction receiveLoop c with
  | case1 c f rest received others ih =>
    obtain ⟨result, after, received', receives⟩ := receiveFrame_receives valid
    obtain ⟨rfl, rfl⟩ := Prod.mk.inj (received'.symm.trans received)
    cases receives with
    | frame _ left read follows =>
      obtain ⟨p, rfl, split⟩ := frameReader_framed _ _ _ read
      have further : others = deliver left (bursts c.incoming).later := by
        refine (ih valid).trans ?_
        dsimp only
        rw [follows]
      rw [split, deliver_piece, further]
  | case2 c rest received ih =>
    obtain ⟨result, after, received', receives⟩ := receiveFrame_receives valid
    obtain ⟨rfl, rfl⟩ := Prod.mk.inj (received'.symm.trans received)
    generalize busy : Status.busy = status at receives
    cases receives with
    | short begun read follows => rw [ih valid, deliver_short read, if_pos busy.symm, follows]
    | bad _ read => exact absurd busy.symm (frameReader_bad read).2
  | case3 c status rest final received =>
    obtain ⟨result, after, received', receives⟩ := receiveFrame_receives valid
    obtain ⟨rfl, rfl⟩ := Prod.mk.inj (received'.symm.trans received)
    cases receives with
    | short begun read follows => rw [deliver_short read, if_neg final]
    | bad _ read => rw [deliver_bad read]

namespace TcpConnection

theorem receiveLoop_congr {c d : TcpConnection} (valid : c.valid = true) (valid' : d.valid = true)
    (same : c.incoming = d.incoming) : c.receiveLoop = d.receiveLoop := by
  rw [receiveLoop_eq valid, receiveLoop_eq valid', same]

/-- One frame, a timeout, or the end, seen from the frames that are still to come. -/
inductive Takes (c : TcpConnection) : Except Status Frame × TcpConnection → Prop
  | frame (f : Frame) (rest : Incoming)
      (loop : c.receiveLoop = (f :: ({ c with incoming := rest } : TcpConnection).receiveLoop.1,
        ({ c with incoming := rest } : TcpConnection).receiveLoop.2)) :
      Takes c (.ok f, { c with incoming := rest })
  | busy (rest : Incoming)
      (loop : c.receiveLoop = ({ c with incoming := rest } : TcpConnection).receiveLoop) :
      Takes c (.error .busy, { c with incoming := rest })
  | ended (status : Status) (rest : Incoming) (final : status ≠ .busy)
      (loop : c.receiveLoop = ([], status)) : Takes c (.error status, { c with incoming := rest })

theorem receiveFrame_takes {c : TcpConnection} (valid : c.valid = true) :
    Takes c c.receiveFrame := by
  obtain ⟨result, rest, received, -⟩ := receiveFrame_receives valid
  have unfolded := receiveLoop.eq_def c
  split at unfolded
  · next f after got =>
    obtain ⟨rfl, rfl⟩ := Prod.mk.inj (received.symm.trans got)
    rw [received]
    exact .frame f rest unfolded
  · next after got =>
    obtain ⟨rfl, rfl⟩ := Prod.mk.inj (received.symm.trans got)
    rw [received]
    exact .busy rest unfolded
  · next status after final got =>
    obtain ⟨rfl, rfl⟩ := Prod.mk.inj (received.symm.trans got)
    rw [received]
    exact .ended status rest final unfolded

end TcpConnection

/-- Frames on the wire, one behind the other. -/
def whole (frames : List Frame) : List UInt8 := frames.flatMap (·.wire 0)

@[simp] theorem whole_nil : whole [] = [] := rfl

@[simp] theorem whole_cons (f : Frame) (frames : List Frame) :
    whole (f :: frames) = f.wire 0 ++ whole frames := rfl

@[simp] theorem whole_append (one two : List Frame) : whole (one ++ two) = whole one ++ whole two :=
  List.flatMap_append

theorem deliver_whole {frames : List Frame} (sendable : ∀ f ∈ frames, f.Sendable)
    (left : List UInt8) (later : List (Break × List UInt8)) :
    deliver (whole frames ++ left) later =
      (frames ++ (deliver left later).1, (deliver left later).2) := by
  induction frames with
  | nil => rfl
  | cons f rest ih =>
    rw [whole_cons, List.append_assoc]
    refine (deliver_piece (f.piece (sendable f List.mem_cons_self) 0) _ later).trans ?_
    rw [ih fun g listed => sendable g (List.mem_cons_of_mem f listed)]
    rfl

theorem deliver_timedOut (burst : List UInt8) (rest : List (Break × List UInt8)) :
    deliver [] ((.timedOut, burst) :: rest) = deliver burst rest :=
  deliver_short (s := { later := (.timedOut, burst) :: rest }) frameReader_nil

/-- Bursts that are cut between frames, the last one anywhere. -/
theorem deliver_groups (groups : List (List Frame)) (last : List Frame) (cut : List UInt8)
    (sendable : ∀ f ∈ groups.flatten ++ last, f.Sendable) {first : List UInt8}
    {later : List (Break × List UInt8)} (polled : ∀ broken ∈ later, broken.1 = .timedOut)
    (aligned : first :: later.map Prod.snd = groups.map whole ++ [whole last ++ cut]) :
    deliver first later =
      (groups.flatten ++ last ++ (deliver cut []).1, (deliver cut []).2) := by
  induction groups generalizing first later with
  | nil =>
    obtain ⟨rfl, none⟩ := List.cons.inj aligned
    obtain rfl := List.map_eq_nil_iff.mp none
    exact deliver_whole sendable cut []
  | cons g groups ih =>
    obtain ⟨rfl, rest⟩ := List.cons.inj aligned
    cases later with
    | nil => exact absurd rest.symm (by simp)
    | cons broken later =>
      obtain ⟨why, burst⟩ := broken
      obtain rfl : why = .timedOut := polled _ List.mem_cons_self
      have listed : ∀ f ∈ g, f.Sendable := fun f inside => sendable f (by simp [inside])
      have others : ∀ f ∈ groups.flatten ++ last, f.Sendable := by
        intro f inside
        apply sendable
        rw [List.flatten_cons, List.append_assoc]
        exact List.mem_append_right g inside
      have next := ih others (fun b inside => polled b (List.mem_cons_of_mem _ inside)) rest
      have timed := deliver_whole listed [] ((.timedOut, burst) :: later)
      rw [List.append_nil] at timed
      rw [timed, deliver_timedOut, next, List.flatten_cons, List.append_assoc, List.append_assoc,
        List.append_assoc]

theorem piece_spelled (p : Reader.Piece frameReader) : ∃ flags, p.bytes = p.frame.wire flags := by
  have read := p.whole []
  rw [List.append_nil] at read
  obtain ⟨-, flags, spelled⟩ := wire_of_frameReader read
  exact ⟨flags, by rwa [List.append_nil] at spelled⟩

theorem length_joined (pieces : List (Reader.Piece frameReader)) :
    (Reader.joined pieces).length = (whole (pieces.map Reader.Piece.frame)).length := by
  induction pieces with
  | nil => rfl
  | cons p rest ih =>
    obtain ⟨flags, spelled⟩ := piece_spelled p
    rw [Reader.joined_cons, List.map_cons, whole_cons, List.length_append, List.length_append, ih,
      spelled, Frame.length_wire, Frame.length_wire]

/-- A burst is read up to a tail, which is lost; a refused frame is in the tail. -/
theorem stream_pieces (first : List UInt8) :
    ∃ (pieces : List (Reader.Piece frameReader)) (tail : List UInt8),
      first = Reader.joined pieces ++ tail ∧
        (frameReader.stream first).frames = pieces.map Reader.Piece.frame ∧
        (tail = [] → ending (some .timedOut) (frameReader.stream first).stop = .busy) := by
  obtain ⟨pieces, tail, rfl, stopped⟩ := Reader.stream_split frameReader_framed first
  refine ⟨pieces, tail, rfl, ?_, ?_⟩
  · rw [Reader.stream_joined frameReader_framed]
    rcases stopped with rfl | ⟨refusal, some, refused⟩
    · exact List.append_nil _
    · rw [Reader.stream_refused some refused]
      exact List.append_nil _
  · rintro rfl
    rw [Reader.stream_joined frameReader_framed]
    rfl

/-- What is delivered falls into a group for each burst; no byte of a burst is lost
only where all bursts are read to their ends. -/
theorem deliver_pieces (first : List UInt8) {later : List (Break × List UInt8)}
    (polled : ∀ broken ∈ later, broken.1 = .timedOut) :
    ∃ groups : List (List (Reader.Piece frameReader)),
      (deliver first later).1 = groups.flatten.map Reader.Piece.frame ∧
        (Reader.joined groups.flatten).length ≤ (first :: later.map Prod.snd).flatten.length ∧
        ((Reader.joined groups.flatten).length = (first :: later.map Prod.snd).flatten.length →
          first :: later.map Prod.snd = groups.map Reader.joined) := by
  induction later generalizing first with
  | nil =>
    obtain ⟨pieces, tail, rfl, frames, -⟩ := stream_pieces first
    refine ⟨[pieces], ?_, ?_, fun all => ?_⟩
    · rw [deliver, List.flatten_singleton, frames]
    · simp
    · have none : tail = [] := by simpa using all
      simp [none]
  | cons broken rest ih =>
    obtain ⟨why, burst⟩ := broken
    obtain rfl : why = .timedOut := polled _ List.mem_cons_self
    obtain ⟨pieces, tail, split, frames, lost⟩ := stream_pieces first
    have length : first.length = (Reader.joined pieces).length + tail.length := by
      rw [split, List.length_append]
    rw [deliver, frames]
    by_cases busy : ending (some .timedOut) (frameReader.stream first).stop = .busy
    · obtain ⟨groups, further, most, exact⟩ :=
        ih burst fun b inside => polled b (List.mem_cons_of_mem _ inside)
      refine ⟨pieces :: groups, ?_, ?_, fun all => ?_⟩
      · rw [if_pos busy, further, List.flatten_cons, List.map_append]
      · simp only [List.flatten_cons, Reader.joined_append, List.length_append, List.map_cons] at most ⊢
        omega
      · simp only [List.flatten_cons, Reader.joined_append, List.length_append, List.map_cons] at most all
        have none : tail = [] := List.length_eq_zero_iff.mp (by omega)
        have kept := exact (by simp only [List.flatten_cons, List.length_append]; omega)
        rw [List.map_cons, List.map_cons, ← kept, split, none, List.append_nil]
    · have some : 0 < tail.length := List.length_pos_iff.mpr fun none => busy (lost none)
      refine ⟨[pieces], ?_, ?_, fun all => ?_⟩
      · rw [if_neg busy, List.flatten_singleton]
      · rw [List.flatten_singleton, List.flatten_cons, List.length_append]
        omega
      · rw [List.flatten_singleton, List.flatten_cons, List.length_append] at all
        omega

/-- Pieces that make up the bytes of frames sent without flags have no flags either. -/
theorem piece_unflagged {frames : List Frame} (sendable : ∀ f ∈ frames, f.Sendable)
    {pieces : List (Reader.Piece frameReader)} (same : Reader.joined pieces = whole frames)
    (read : pieces.map Reader.Piece.frame = frames) :
    ∀ p ∈ pieces, p.bytes = p.frame.wire 0 := by
  have spelled : Reader.joined (frames.pmap (fun f able => f.piece able 0) sendable) = whole frames := by
    clear same read
    induction frames with
    | nil => rfl
    | cons f rest ih =>
      rw [List.pmap_cons, Reader.joined_cons, ih]
      rfl
  have bytes := Reader.joined_injective (same.trans spelled.symm)
  rw [List.map_pmap] at bytes
  have flagless : pieces.map Reader.Piece.bytes = pieces.map fun p => p.frame.wire 0 := by
    calc pieces.map Reader.Piece.bytes
        = frames.pmap (fun f able => (f.piece able 0).bytes) sendable := bytes
      _ = frames.map fun f => f.wire 0 := List.pmap_eq_map sendable
      _ = (pieces.map Reader.Piece.frame).map fun f => f.wire 0 := by rw [read]
      _ = pieces.map fun p => p.frame.wire 0 := List.map_map
  exact List.map_inj_left.mp flagless

theorem joined_unflagged {pieces : List (Reader.Piece frameReader)}
    (unflagged : ∀ p ∈ pieces, p.bytes = p.frame.wire 0) :
    Reader.joined pieces = whole (pieces.map Reader.Piece.frame) := by
  rw [Reader.joined, whole, List.flatMap_map]
  exact List.flatMap_congr unflagged

theorem joined_flatten (groups : List (List (Reader.Piece frameReader))) :
    Reader.joined groups.flatten = (groups.map Reader.joined).flatten := by
  induction groups with
  | nil => rfl
  | cons group rest ih => rw [List.flatten_cons, Reader.joined_append, ih, List.map_cons,
      List.flatten_cons]

/-- Frames are delivered as they are exactly where no burst ends within one. -/
theorem deliver_eq_iff {frames : List Frame} (sendable : ∀ f ∈ frames, f.Sendable)
    {first : List UInt8} {later : List (Break × List UInt8)}
    (polled : ∀ broken ∈ later, broken.1 = .timedOut)
    (conveyed : (first :: later.map Prod.snd).flatten = whole frames) :
    deliver first later = (frames, .stopped) ↔
      ∃ groups : List (List Frame), groups.flatten = frames ∧
        first :: later.map Prod.snd = groups.map whole := by
  constructor
  · intro delivered
    obtain ⟨groups, same, -, exact⟩ := deliver_pieces first polled
    rw [delivered] at same
    have all : (Reader.joined groups.flatten).length =
        (first :: later.map Prod.snd).flatten.length := by
      rw [length_joined, ← same, conveyed]
    have aligned := exact all
    have joins : Reader.joined groups.flatten = whole frames := by
      rw [← conveyed, aligned, joined_flatten]
    have unflagged := piece_unflagged sendable joins same.symm
    refine ⟨groups.map fun group => group.map Reader.Piece.frame, ?_, ?_⟩
    · rw [← List.map_flatten]
      exact same.symm
    · rw [aligned, List.map_map]
      apply List.map_congr_left
      intro group inside
      exact joined_unflagged fun p listed =>
        unflagged p (List.mem_flatten.mpr ⟨group, inside, listed⟩)
  · rintro ⟨groups, rfl, aligned⟩
    rcases List.eq_nil_or_concat groups with rfl | ⟨before, last, rfl⟩
    · cases aligned
    have cut := deliver_groups before last []
      (fun f inside => sendable f (by simpa using inside)) polled (by simpa using aligned)
    rw [cut, List.concat_eq_append, List.flatten_concat]
    exact congrArg (·, Status.stopped) (List.append_nil _)

theorem send_took {offered count : Nat} {puts rest : List Put}
    (put : send offered puts = (.took count, rest)) : count ≤ offered := by
  fun_cases send offered puts with
  | case1 => exact (Put.took.inj (Prod.mk.inj put).1).ge
  | case2 asked rest' =>
    rw [← Put.took.inj (Prod.mk.inj put).1]
    exact Nat.min_le_right asked offered
  | case3 => cases (Prod.mk.inj put).1
  | case4 => cases (Prod.mk.inj put).1

/-- How much of its bytes a call of `write_all` gets rid of. -/
theorem writeOn_spec {bytes sent : Nat} (puts : List Put) (within : sent ≤ bytes) :
    (writeOn bytes sent puts).2.1 ≤ bytes ∧
      ((writeOn bytes sent puts).1 = .ok ∧ (writeOn bytes sent puts).2.1 = bytes ∨
        (writeOn bytes sent puts).1 = .truncated ∧ (writeOn bytes sent puts).2.1 < bytes) := by
  fun_induction writeOn bytes sent puts with
  | case1 sent puts more rest put => exact ⟨within, .inr ⟨rfl, more⟩⟩
  | case2 sent puts more count rest put ih =>
    have small := (chunkOf_bounds (Nat.sub_pos_of_lt more)).2
    have took := send_took put
    exact ih (by omega)
  | case3 sent puts more rest put ih => exact ih within
  | case4 sent puts more rest put => exact ⟨within, .inr ⟨rfl, more⟩⟩
  | case5 sent puts done => exact ⟨within, .inl ⟨rfl, Nat.le_antisymm within (Nat.not_lt.mp done)⟩⟩

/-- Nothing of a frame, or some of it. -/
def PartOf (f : Frame) (cut : List UInt8) : Prop :=
  cut = [] ∨ f.Sendable ∧ ∃ count < (f.wire 0).length, cut = (f.wire 0).take count

namespace TcpConnection

/-- What a call of `send_frame` puts on the wire. -/
inductive Sends (c : TcpConnection) (f : Frame) : Status × TcpConnection → Prop
  | all (puts : List Put) (sendable : f.Sendable) :
      Sends c f (.ok, { c with puts, written := c.written ++ f.wire 0 })
  | cut (puts : List Put) (sendable : f.Sendable) (count : Nat)
      (less : count < (f.wire 0).length) :
      Sends c f (.truncated, { c with puts, written := c.written ++ (f.wire 0).take count })
  | none (status : Status) (refused : status.isOk = false) (prompt : status ≠ .busy) :
      Sends c f (status, c)

theorem sendFrame_sends (c : TcpConnection) (f : Frame) :
    Sends c f (c.sendFrame f.type.code f.payload) := by
  rw [sendFrame]
  by_cases sent : f.type.code = 0 ∨ f.type.code > MessageType.pong.code
  · rw [if_pos sent]
    exact .none _ rfl (by decide)
  rw [if_neg sent]
  obtain ⟨known, low⟩ := not_or.mp sent
  by_cases fits : f.payload.length ≤ Limits.maxFrameBytes
  swap
  · rw [encodeFrame, isKnown_iff.mpr known, if_neg (by decide), if_pos (Nat.not_le.mp fits)]
    exact .none _ rfl (by decide)
  have sendable : f.Sendable := ⟨known, UInt16.not_lt.mp low, fits⟩
  rw [encodeFrame_ok (isKnown_iff.mpr known) fits]
  change Sends c f (c.writeAll (f.wire 0))
  rw [writeAll]
  split
  · exact .none _ rfl (by decide)
  have spec := writeOn_spec c.puts (Nat.zero_le (f.wire 0).length)
  generalize writeOn (f.wire 0).length 0 c.puts = wrote at spec ⊢
  obtain ⟨status, count, puts⟩ := wrote
  dsimp only at spec ⊢
  obtain ⟨-, ⟨rfl, rfl⟩ | ⟨rfl, less⟩⟩ := spec
  · rw [List.take_length]
    exact .all puts sendable
  · exact .cut puts sendable count less

/-- Frames go out whole up to the one that fails, and of that one a part at most. -/
theorem sendFrames_spec (c : TcpConnection) (frames : List Frame) :
    ∃ done cut rest, frames = done ++ rest ∧ (∀ f ∈ done, f.Sendable) ∧
      (c.sendFrames frames).2.written = c.written ++ whole done ++ cut ∧
      ((c.sendFrames frames).1 = .ok ∧ rest = [] ∧ cut = [] ∨
        (c.sendFrames frames).1.isOk = false ∧ ∃ f more, rest = f :: more ∧ PartOf f cut) := by
  induction frames generalizing c with
  | nil => exact ⟨[], [], [], rfl, by simp, by simp [sendFrames], .inl ⟨rfl, rfl, rfl⟩⟩
  | cons f frames ih =>
    have sends := sendFrame_sends c f
    rw [sendFrames]
    generalize c.sendFrame f.type.code f.payload = sent at sends ⊢
    cases sends with
    | all puts sendable =>
      obtain ⟨done, cut, rest, rfl, able, wrote, ended⟩ :=
        ih { c with puts, written := c.written ++ f.wire 0 }
      refine ⟨f :: done, cut, rest, rfl, ?_, ?_, ended⟩
      · exact List.forall_mem_cons.mpr ⟨sendable, able⟩
      · exact wrote.trans (by simp only [whole_cons, List.append_assoc])
    | cut puts sendable count less =>
      exact ⟨[], (f.wire 0).take count, f :: frames, rfl, by simp, by simp [Status.isOk],
        .inr ⟨rfl, f, frames, rfl, .inr ⟨sendable, count, less, rfl⟩⟩⟩
    | none status refused prompt =>
      simp only [refused]
      exact ⟨[], [], f :: frames, rfl, by simp, by simp,
        .inr ⟨refused, f, frames, rfl, .inl rfl⟩⟩

end TcpConnection

/-- The network has for the receiver what it took off the sender, who has closed then;
nothing but timeouts come in between. -/
structure Conveys (sender receiver : TcpConnection) : Prop where
  conveyed : ((bursts receiver.incoming).first :: (bursts receiver.incoming).later.map Prod.snd).flatten =
    sender.written
  polled : ∀ broken ∈ (bursts receiver.incoming).later, broken.1 = .timedOut

/-- Frames that went out are taken off the connection, each once and in their order,
exactly where no timeout falls into a frame, however the bytes of a burst are cut. -/
theorem frames_arrive_iff {sender receiver : TcpConnection} {frames : List Frame}
    (fresh : sender.written = []) (sent : (sender.sendFrames frames).1 = .ok)
    (valid : receiver.valid = true) (conveys : Conveys (sender.sendFrames frames).2 receiver) :
    receiver.receiveLoop = (frames, .stopped) ↔
      ∃ groups : List (List Frame), groups.flatten = frames ∧
        (bursts receiver.incoming).first :: (bursts receiver.incoming).later.map Prod.snd =
          groups.map whole := by
  obtain ⟨done, cut, rest, rfl, able, wrote, ⟨-, rfl, rfl⟩ | ⟨failed, -⟩⟩ :=
    sender.sendFrames_spec frames
  · rw [List.append_nil] at *
    rw [fresh, List.nil_append, List.append_nil] at wrote
    rw [receiver.receiveLoop_eq valid]
    exact deliver_eq_iff able conveys.polled (conveys.conveyed.trans wrote)
  · rw [sent] at failed
    cases failed

def Frame.first : Frame := ⟨.ping, [1, 2]⟩

def Frame.second : Frame := ⟨.pong, [3]⟩

/-- The header poll times out between two frames; the first one comes in two pieces. -/
def TcpConnection.polled : TcpConnection where
  valid := true
  incoming := [.data ((Frame.first.wire 0).take 7), .again, .data ((Frame.first.wire 0).drop 7),
    .stop .timedOut, .data (Frame.second.wire 0)]

theorem two_frames_arrive : TcpConnection.polled.receiveLoop = ([.first, .second], .stopped) :=
  (@frames_arrive_iff { valid := true, puts := [.took 7, .interrupted] } .polled _ rfl
    (by decide +kernel) rfl ⟨by decide +kernel, by decide +kernel⟩).mpr
      ⟨[[.first], [.second]], rfl, by decide +kernel⟩

/-- What a receiver finds of a connection that broke off, given how much of the last
frame has arrived: nothing, or the header alone, looks like a close between frames. -/
def brokenOff (arrived : Nat) : Status :=
  if arrived = 0 ∨ arrived = frameHeaderBytes then .stopped else .truncated

theorem deliver_cut {f : Frame} (sendable : f.Sendable) {count : Nat}
    (less : count < (f.wire 0).length) :
    deliver ((f.wire 0).take count) [] = ([], brokenOff count) := by
  have short := deliver_short (s := { first := (f.wire 0).take count }) (frameReader_cut sendable less)
  have final (begun : Bool) : ¬ broke begun none = .busy := by cases begun <;> decide
  refine short.trans ((if_neg (final _)).trans (congrArg (([] : List Frame), ·) ?_))
  change (if decide (count ≠ 0 ∧ count ≠ frameHeaderBytes) then Status.truncated else .stopped) =
    brokenOff count
  unfold brokenOff
  by_cases clean : count = 0 ∨ count = frameHeaderBytes
  · rw [if_pos clean, if_neg]
    rw [decide_eq_true_iff]
    tauto
  · rw [if_neg clean, if_pos]
    exact decide_eq_true (not_or.mp clean)

/-- Nothing is read off a part of a frame. -/
theorem PartOf.lost {f : Frame} {cut : List UInt8} (part : PartOf f cut) :
    deliver cut [] = ([], brokenOff cut.length) := by
  rcases part with rfl | ⟨sendable, count, less, rfl⟩
  · rfl
  · rw [deliver_cut sendable less, List.length_take_of_le less.le]

end Transport

end SiteFabric
