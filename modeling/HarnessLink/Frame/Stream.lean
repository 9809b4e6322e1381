import HarnessLink.Frame.Framer

/-!
# Frames over byte streams

A frame reader takes its bytes from a stream that answers each read with data,
a fault or the end. A frame writer gives its bytes to a sink that may take only
part of them. Interrupted calls are tried again on both sides; every other fault
is reported, and the bytes read so far are kept for the next call.
-/
namespace HarnessLink

/-- What a stream has in store for its readers. Data may take several reads, and
empty data is an end that later data may follow. -/
inductive ReadEvent where
  | data (bytes : Bytes)
  | fault (fault : IoFault)
  deriving DecidableEq

namespace ReadEvent

/-- One read of at most `limit` bytes. Nothing in store is the end. -/
def read (limit : Nat) : List ReadEvent → Except IoFault Bytes × List ReadEvent
  | [] => (.ok [], [])
  | fault e :: rest => (.error e, rest)
  | data bytes :: rest =>
    if bytes.length ≤ limit then (.ok bytes, rest)
    else (.ok (bytes.take limit), data (bytes.drop limit) :: rest)

/-- How much is in store, counting each event and each byte. -/
def weight : List ReadEvent → Nat
  | [] => 0
  | fault _ :: rest => 1 + weight rest
  | data bytes :: rest => 1 + bytes.length + weight rest

theorem weight_read {limit : Nat} (hl : 0 < limit) (event : ReadEvent) (events : List ReadEvent) :
    weight (read limit (event :: events)).2 < weight (event :: events) := by
  cases event with
  | fault e => simp only [read, weight]; omega
  | data bytes =>
    simp only [read]
    split
    · simp only [weight]; omega
    · simp only [weight, List.length_drop]; omega

end ReadEvent

structure FrameReader where
  framer : Framer
  stream : List ReadEvent
  deriving DecidableEq

namespace FrameReader

/-- The most that one read asks for. -/
def chunkSize : Nat := 1024

theorem chunkSize_weight (event : ReadEvent) (events : List ReadEvent) :
    ReadEvent.weight (ReadEvent.read chunkSize (event :: events)).2 <
      ReadEvent.weight (event :: events) :=
  ReadEvent.weight_read (by decide) event events

/-- The next whole frame. Reads the stream only once the bytes at hand hold no
frame, and keeps them when the read fails or the stream ends. -/
def readFrame (r : FrameReader) : Except FrameError Frame × FrameReader :=
  match r.framer.next with
  | (some frame, framer) => (.ok frame, { r with framer })
  | (none, framer) =>
    match _hs : r.stream with
    | [] => (.error .connectionClosed, { r with framer })
    | event :: events =>
      match ReadEvent.read chunkSize (event :: events), chunkSize_weight event events with
      | (.error fault, stream), _ =>
        if fault.kind = .interrupted then readFrame { framer, stream }
        else (.error (.io fault), { framer, stream })
      | (.ok bytes, stream), _ =>
        if bytes.isEmpty then (.error .connectionClosed, { framer, stream })
        else readFrame { framer := framer.extend bytes, stream }
termination_by ReadEvent.weight r.stream
decreasing_by all_goals (rw [_hs]; assumption)

end FrameReader

/-- How a sink answers one write. -/
inductive WriteEvent where
  /-- It takes at most this many bytes. -/
  | takes (limit : Nat)
  | fault (fault : IoFault)
  deriving DecidableEq

/-- A sink of bytes: its answers to the coming writes and flushes, after which
it takes everything, and what it has taken and been asked so far. -/
structure Sink where
  writes : List WriteEvent := []
  flushes : List (Option IoFault) := []
  taken : Bytes := []
  writeCalls : Nat := 0
  flushCalls : Nat := 0
  deriving DecidableEq

namespace Sink

def accept (s : Sink) (bytes : Bytes) (writes : List WriteEvent) : Sink :=
  { s with taken := s.taken ++ bytes, writes, writeCalls := s.writeCalls + 1 }

/-- One write. Tells how many of the bytes the sink took. -/
def write (bytes : Bytes) (s : Sink) : Except IoFault Nat × Sink :=
  match s.writes with
  | [] => (.ok bytes.length, s.accept bytes [])
  | .takes limit :: rest => (.ok (min limit bytes.length), s.accept (bytes.take limit) rest)
  | .fault e :: rest => (.error e, s.accept [] rest)

def flushed (s : Sink) (flushes : List (Option IoFault)) : Sink :=
  { s with flushes, flushCalls := s.flushCalls + 1 }

/-- One flush. -/
def flush (s : Sink) : Except IoFault Unit × Sink :=
  match s.flushes with
  | [] => (.ok (), s.flushed [])
  | none :: rest => (.ok (), s.flushed rest)
  | some e :: rest => (.error e, s.flushed rest)

theorem writes_write (bytes : Bytes) (s : Sink) : (s.write bytes).2.writes = s.writes.tail := by
  rw [write]
  split
  all_goals
    next h => rw [h]; rfl

theorem writes_of_write_error {bytes : Bytes} {s s' : Sink} {e : IoFault}
    (h : s.write bytes = (.error e, s')) : s'.writes.length < s.writes.length := by
  rw [write] at h
  split at h
  · cases h
  · cases h
  · next hs =>
    cases h
    rw [hs]
    exact Nat.lt_succ_self _

theorem flushes_of_flush_error {s s' : Sink} {e : IoFault} (h : s.flush = (.error e, s')) :
    s'.flushes.length < s.flushes.length := by
  rw [flush] at h
  split at h
  · cases h
  · cases h
  · next hs =>
    cases h
    rw [hs]
    exact Nat.lt_succ_self _

end Sink

/-- A writer of frames over a sink. Each frame is put together in the same buffer. -/
structure FrameWriter where
  config : FrameConfig := {}
  buffer : Bytes := []
  sink : Sink
  deriving DecidableEq

namespace FrameWriter

/-- Give the sink what the buffer holds from `offset` on, as much at a time as it takes. -/
def push (offset : Nat) (w : FrameWriter) : Except FrameError Unit × FrameWriter :=
  if offset < w.buffer.length then
    match _h : w.sink.write (w.buffer.drop offset) with
    | (.error fault, sink) =>
      if fault.kind = .interrupted then push offset { w with sink }
      else (.error (.io fault), { w with sink })
    | (.ok count, sink) =>
      if count = 0 then (.error .connectionClosed, { w with sink })
      else push (offset + count) { w with sink }
  else (.ok (), w)
termination_by w.sink.writes.length + (w.buffer.length - offset)
decreasing_by
  · exact Nat.add_lt_add_right (Sink.writes_of_write_error _h) _
  · have hwrites := Sink.writes_write (w.buffer.drop offset) w.sink
    rw [_h] at hwrites
    dsimp only at hwrites ⊢
    rw [hwrites, List.length_tail]
    omega

/-- Flush the sink. -/
def flush (w : FrameWriter) : Except FrameError Unit × FrameWriter :=
  match _h : w.sink.flush with
  | (.ok (), sink) => (.ok (), { w with sink })
  | (.error fault, sink) =>
    if fault.kind = .interrupted then flush { w with sink }
    else (.error (.io fault), { w with sink })
termination_by w.sink.flushes.length
decreasing_by exact Sink.flushes_of_flush_error _h

/-- Write a frame, whole or up to the fault that stops it, and flush. What the buffer held
before is forgotten, and nothing is written when the frame cannot be encoded. -/
def send (frame : Frame) (w : FrameWriter) : Except FrameError Unit × FrameWriter :=
  let w := { w with buffer := [] }
  match Fragment.writeAll frame.slot frame.kind frame.payload w.config.maxChunk w.buffer with
  | (.error e, buffer) => (.error e, { w with buffer })
  | (.ok _, buffer) =>
    match push 0 { w with buffer } with
    | (.error e, w) => (.error e, w)
    | (.ok (), w) => w.flush

end FrameWriter

/-- Write one frame with a new writer. -/
def Frame.writeTo (frame : Frame) (config : FrameConfig) (s : Sink) :
    Except FrameError Unit × Sink :=
  let (result, w) := FrameWriter.send frame { config, sink := s }
  (result, w.sink)

/-- Any other writer sends the frame alike, whatever its buffer holds. -/
theorem FrameWriter.send_eq_writeTo (frame : Frame) (w : FrameWriter) :
    ((w.send frame).1, (w.send frame).2.sink) = frame.writeTo w.config w.sink := rfl

end HarnessLink
