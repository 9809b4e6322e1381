import HarnessLink.Frame.Stream
import HarnessLink.Proofs.Frame.Encoding

/-!
# Frames for a sink that falters

A frame writer gives each frame to a sink that may take any part of what it is offered,
take nothing, or fail. Every write offers what the sink has not taken of the frame yet, so
what it takes in all is the front of the frame's encoding, and the whole of it before the
sink is flushed. A failure ends the frame and is reported, an interrupted call is made
again, and the next frame is put together anew.
-/
namespace HarnessLink

namespace Sink

/-- How many bytes an answer to a write tells of. -/
def countOf : Except IoFault Nat → Nat
  | .ok count => count
  | .error _ => 0

/-- What so many writes answer, each of them offering what has not been taken of the bytes
yet, and what becomes of the sink. -/
def writeMany : Nat → Bytes → Sink → List (Except IoFault Nat) × Sink
  | 0, _, s => ([], s)
  | calls + 1, bytes, s =>
    let (answer, s) := s.write bytes
    let (answers, s) := writeMany calls (bytes.drop (countOf answer)) s
    (answer :: answers, s)

/-- What so many flushes answer, and what becomes of the sink. -/
def flushMany : Nat → Sink → List (Except IoFault Unit) × Sink
  | 0, s => ([], s)
  | calls + 1, s =>
    let (answer, s) := s.flush
    let (answers, s) := flushMany calls s
    (answer :: answers, s)

/-- How many bytes the answers to writes tell of in all. -/
def countAll (answers : List (Except IoFault Nat)) : Nat := (answers.map countOf).sum

theorem countAll_cons (answer : Except IoFault Nat) (answers : List (Except IoFault Nat)) :
    countAll (answer :: answers) = countOf answer + countAll answers := rfl

/-- A sink takes the front of what it is offered, as far as it tells. -/
theorem taken_write (bytes : Bytes) (s : Sink) :
    (s.write bytes).2.taken = s.taken ++ bytes.take (countOf (s.write bytes).1) := by
  rw [write]
  split
  · simp [accept, countOf]
  · simp [accept, countOf, List.take_eq_take_min]
  · simp [accept, countOf]

theorem taken_writeMany (calls : Nat) (bytes : Bytes) (s : Sink) :
    (writeMany calls bytes s).2.taken =
      s.taken ++ bytes.take (countAll (writeMany calls bytes s).1) := by
  induction calls generalizing bytes s with
  | zero => simp [writeMany, countAll]
  | succ calls ih =>
    simp only [writeMany, ih, taken_write, countAll_cons, List.take_add, List.append_assoc]

theorem taken_flush (s : Sink) : s.flush.2.taken = s.taken := by
  rw [flush]
  split <;> rfl

theorem taken_flushMany (calls : Nat) (s : Sink) : (flushMany calls s).2.taken = s.taken := by
  induction calls generalizing s with
  | zero => rfl
  | succ calls ih => simp only [flushMany, ih, taken_flush]

end Sink

namespace FrameWriter

open Sink (countAll writeMany flushMany)

/-- The failure that a writer reports for an answer to a write. -/
def writeFailure? : Except IoFault Nat → Option FrameError
  | .ok count => if count = 0 then some .connectionClosed else none
  | .error e => if e.kind = .interrupted then none else some (.io e)

/-- The failure that a writer reports for an answer to a flush. -/
def flushFailure? : Except IoFault Unit → Option FrameError
  | .ok () => none
  | .error e => if e.kind = .interrupted then none else some (.io e)

/-- What a call reports. -/
def reported : Except FrameError Unit → List FrameError
  | .ok () => []
  | .error e => [e]

theorem kind_ne_of_writeFailure {answer : Except IoFault Nat} {fault : IoFault}
    (h : writeFailure? answer = some (.io fault)) : fault.kind ≠ .interrupted := by
  cases answer with
  | ok count => simp [writeFailure?] at h
  | error e =>
    simp only [writeFailure?, Option.ite_none_left_eq_some, Option.some.injEq,
      FrameError.io.injEq] at h
    rw [← h.2]
    exact h.1

theorem kind_ne_of_flushFailure {answer : Except IoFault Unit} {fault : IoFault}
    (h : flushFailure? answer = some (.io fault)) : fault.kind ≠ .interrupted := by
  cases answer with
  | ok _ => simp [flushFailure?] at h
  | error e =>
    simp only [flushFailure?, Option.ite_none_left_eq_some, Option.some.injEq,
      FrameError.io.injEq] at h
    rw [← h.2]
    exact h.1

/-! ## One frame -/

section Push

variable {offset : Nat} {w : FrameWriter} {answer : Except IoFault Nat} {sink : Sink}

/-- A write that fails ends the frame. -/
theorem push_of_failure (hmore : offset < w.buffer.length)
    (hwrite : w.sink.write (w.buffer.drop offset) = (answer, sink)) {e : FrameError}
    (hfailure : writeFailure? answer = some e) :
    w.push offset = (.error e, { w with sink }) := by
  rw [push, if_pos hmore]
  split
  · next fault _ hfault =>
    cases hwrite.symm.trans hfault
    simp only [writeFailure?, Option.ite_none_left_eq_some, Option.some.injEq] at hfailure
    rw [if_neg hfailure.1, hfailure.2]
  · next count _ hcount =>
    cases hwrite.symm.trans hcount
    simp only [writeFailure?, Option.ite_none_right_eq_some, Option.some.injEq] at hfailure
    rw [if_pos hfailure.1, hfailure.2]

/-- The frame goes on behind a write that does not fail. -/
theorem push_of_no_failure (hmore : offset < w.buffer.length)
    (hwrite : w.sink.write (w.buffer.drop offset) = (answer, sink))
    (hfailure : writeFailure? answer = none) :
    w.push offset = push (offset + Sink.countOf answer) { w with sink } := by
  rw [push, if_pos hmore]
  split
  · next fault _ hfault =>
    cases hwrite.symm.trans hfault
    have hinterrupted : fault.kind = .interrupted := by simpa [writeFailure?] using hfailure
    exact if_pos hinterrupted
  · next count _ hcount =>
    cases hwrite.symm.trans hcount
    have hsome : count ≠ 0 := by simpa [writeFailure?] using hfailure
    exact if_neg hsome

/-- What comes of giving the sink what stands in the buffer from `offset` on: the answers to
the writes, with the failure among them if there is one, and otherwise all bytes taken. -/
structure Pushed (offset : Nat) (w : FrameWriter) (answers : List (Except IoFault Nat))
    (run : Except FrameError Unit × FrameWriter) : Prop where
  writes : writeMany answers.length (w.buffer.drop offset) w.sink = (answers, run.2.sink)
  config : run.2.config = w.config
  failed : answers.filterMap writeFailure? = reported run.1
  whole : run.1 = .ok () → w.buffer.length ≤ offset + countAll answers

theorem pushed_of_failure (hmore : offset < w.buffer.length)
    (hwrite : w.sink.write (w.buffer.drop offset) = (answer, sink)) {e : FrameError}
    (hfailure : writeFailure? answer = some e) : Pushed offset w [answer] (w.push offset) := by
  rw [push_of_failure hmore hwrite hfailure]
  refine ⟨?_, rfl, ?_, by simp⟩
  · simp [writeMany, hwrite]
  · simp [hfailure, reported]

theorem Pushed.behind (hmore : offset < w.buffer.length)
    (hwrite : w.sink.write (w.buffer.drop offset) = (answer, sink))
    (hfailure : writeFailure? answer = none) {answers : List (Except IoFault Nat)}
    (hrest : Pushed (offset + Sink.countOf answer) { w with sink } answers
      (push (offset + Sink.countOf answer) { w with sink })) :
    Pushed offset w (answer :: answers) (w.push offset) := by
  obtain ⟨hwrites, hconfig, hfailed, hwhole⟩ := hrest
  rw [push_of_no_failure hmore hwrite hfailure]
  refine ⟨?_, hconfig, ?_, ?_⟩
  · simp only [List.length_cons, writeMany, hwrite, List.drop_drop, hwrites]
  · rw [List.filterMap_cons_none hfailure, hfailed]
  · intro hok
    rw [Sink.countAll_cons, ← Nat.add_assoc]
    exact hwhole hok

end Push

theorem exists_pushed (offset : Nat) (w : FrameWriter) :
    ∃ answers, Pushed offset w answers (w.push offset) := by
  induction offset, w using push.induct with
  | case1 offset w hmore fault sink hwrite hinterrupted ih =>
    obtain ⟨answers, hpushed⟩ := ih
    exact ⟨_, hpushed.behind hmore hwrite (if_pos hinterrupted)⟩
  | case2 offset w hmore fault sink hwrite hreported =>
    exact ⟨_, pushed_of_failure hmore hwrite (if_neg hreported)⟩
  | case3 offset w hmore sink hwrite =>
    exact ⟨_, pushed_of_failure hmore hwrite rfl⟩
  | case4 offset w hmore count sink hwrite hsome ih =>
    obtain ⟨answers, hpushed⟩ := ih
    exact ⟨_, hpushed.behind hmore hwrite (if_neg hsome)⟩
  | case5 offset w hdone =>
    rw [push, if_neg hdone]
    exact ⟨[], rfl, rfl, rfl, fun _ => Nat.le_of_not_lt hdone⟩

theorem flush_eq (w : FrameWriter) :
    w.flush = match w.sink.flush with
      | (.ok (), sink) => (.ok (), { w with sink })
      | (.error fault, sink) =>
        if fault.kind = .interrupted then flush { w with sink }
        else (.error (.io fault), { w with sink }) := by
  rw [flush]
  split <;> next h => rw [h]

/-- What comes of flushing the sink: the answers, with the failure among them if there is one.
The sink is flushed exactly if the last of them says so. -/
structure Flushed (w : FrameWriter) (answers : List (Except IoFault Unit))
    (run : Except FrameError Unit × FrameWriter) : Prop where
  flushes : flushMany answers.length w.sink = (answers, run.2.sink)
  config : run.2.config = w.config
  failed : answers.filterMap flushFailure? = reported run.1
  done : run.1 = .ok () ↔ answers.getLast? = some (.ok ())

theorem exists_flushed (w : FrameWriter) : ∃ answers, Flushed w answers w.flush := by
  induction w using flush.induct with
  | case1 w sink hflush =>
    rw [flush_eq, hflush]
    exact ⟨[.ok ()], by simp [flushMany, hflush], rfl, rfl, by simp⟩
  | case2 w fault sink hflush hinterrupted ih =>
    obtain ⟨answers, hflushes, hconfig, hfailed, hdone⟩ := ih
    have hnone : flushFailure? (.error fault) = none := if_pos hinterrupted
    rw [flush_eq, hflush]
    simp only [if_pos hinterrupted]
    refine ⟨.error fault :: answers, ?_, hconfig, ?_, ?_⟩
    · simp only [List.length_cons, flushMany, hflush, hflushes]
    · rw [List.filterMap_cons_none hnone, hfailed]
    · rw [hdone, List.getLast?_cons]
      cases answers.getLast? <;> simp
  | case3 w fault sink hflush hreported =>
    have hsome : flushFailure? (.error fault) = some (.io fault) := if_neg hreported
    rw [flush_eq, hflush]
    simp only [if_neg hreported]
    refine ⟨[.error fault], by simp [flushMany, hflush], rfl, ?_, by simp⟩
    rw [List.filterMap_cons_some hsome]
    rfl

/-! ## Frames in turn -/

/-- The bytes of a frame, or the reason why it has none. -/
def encoded (config : FrameConfig) (frame : Frame) : Except FrameError Bytes :=
  (Fragment.encodeAll frame.slot frame.kind frame.payload config.maxChunk).map
    Fragment.Encoding.wire

/-- What comes of a frame for the sink `s`, which takes `part` and is left as `s'`. A frame
without an encoding does not touch the sink. Otherwise the sink takes the front of the encoding
in one write after the other, and is flushed once it has the whole of it. The failure among its
answers, if there is one, is what is reported. -/
structure Sent (encoded : Except FrameError Bytes) (s : Sink) (result : Except FrameError Unit)
    (part : Bytes) (s' : Sink) : Prop where
  taken : s'.taken = s.taken ++ part
  refused : ∀ e, encoded = .error e → result = .error e ∧ part = [] ∧ s' = s
  front : ∀ bytes, encoded = .ok bytes → part <+: bytes
  whole : result = .ok () → encoded = .ok part
  answered : ∀ bytes, encoded = .ok bytes → ∃ writes flushes between,
    writeMany writes.length bytes s = (writes, between) ∧
    flushMany flushes.length between = (flushes, s') ∧
    part = bytes.take (countAll writes) ∧ (flushes ≠ [] → part = bytes) ∧
    writes.filterMap writeFailure? ++ flushes.filterMap flushFailure? = reported result ∧
    (result = .ok () ↔ flushes.getLast? = some (.ok ()))

/-- The buffer gets the encoding of the frame behind nothing. -/
theorem writeAll_of_encoded (config : FrameConfig) (frame : Frame) :
    match encoded config frame with
    | .error e => ∃ buffer, Fragment.writeAll frame.slot frame.kind frame.payload
        config.maxChunk [] = (.error e, buffer)
    | .ok bytes => ∃ count, Fragment.writeAll frame.slot frame.kind frame.payload
        config.maxChunk [] = (.ok count, bytes) := by
  rw [encoded, Fragment.encodeAll]
  rcases Fragment.writeAll frame.slot frame.kind frame.payload config.maxChunk [] with
    ⟨e | count, buffer⟩
  · exact ⟨buffer, rfl⟩
  · exact ⟨count, rfl⟩

theorem writeAll_of_ok {config : FrameConfig} {frame : Frame} {bytes : Bytes}
    (h : encoded config frame = .ok bytes) :
    ∃ count, Fragment.writeAll frame.slot frame.kind frame.payload config.maxChunk [] =
      (.ok count, bytes) := by
  have hwritten := writeAll_of_encoded config frame
  rwa [h] at hwritten

theorem writeAll_of_error {config : FrameConfig} {frame : Frame} {e : FrameError}
    (h : encoded config frame = .error e) :
    ∃ buffer, Fragment.writeAll frame.slot frame.kind frame.payload config.maxChunk [] =
      (.error e, buffer) := by
  have hwritten := writeAll_of_encoded config frame
  rwa [h] at hwritten

/-- A frame has no encoding because of its size. -/
theorem ne_io_of_encoded {config : FrameConfig} {frame : Frame} {e : FrameError}
    (h : encoded config frame = .error e) (fault : IoFault) : e ≠ .io fault := by
  obtain ⟨buffer, hwritten⟩ := writeAll_of_error h
  obtain ⟨_, hrefused, hwritten'⟩ | ⟨-, fragments, -, hwritten'⟩ :=
    Fragment.writeAll_cases frame.slot frame.kind frame.payload config.maxChunk []
  · cases hwritten.symm.trans hwritten'
    rintro rfl
    cases hrefused
  · cases hwritten.symm.trans hwritten'

/-- What is sent is the encoding of the frame and nothing that the buffer held before. It ends
at a failure of the sink. -/
theorem send_of_failure {w w' : FrameWriter} {frame : Frame} {bytes : Bytes} {e : FrameError}
    (h : encoded w.config frame = .ok bytes)
    (hpush : push 0 { w with buffer := bytes } = (.error e, w')) :
    w.send frame = (.error e, w') := by
  obtain ⟨count, hwritten⟩ := writeAll_of_ok h
  simp only [send, hwritten, hpush]

/-- The sink is flushed once it has the whole encoding. -/
theorem send_of_pushed {w w' : FrameWriter} {frame : Frame} {bytes : Bytes}
    (h : encoded w.config frame = .ok bytes)
    (hpush : push 0 { w with buffer := bytes } = (.ok (), w')) : w.send frame = w'.flush := by
  obtain ⟨count, hwritten⟩ := writeAll_of_ok h
  simp only [send, hwritten, hpush]

theorem send_of_error {w : FrameWriter} {frame : Frame} {e : FrameError}
    (h : encoded w.config frame = .error e) :
    ∃ buffer, w.send frame = (.error e, { w with buffer }) := by
  obtain ⟨buffer, hwritten⟩ := writeAll_of_error h
  exact ⟨buffer, by simp only [send, hwritten]⟩

/-- The sink takes the front of what the buffer holds. -/
theorem Pushed.taken {w : FrameWriter} {writes : List (Except IoFault Nat)}
    {run : Except FrameError Unit × FrameWriter} (h : Pushed 0 w writes run) :
    run.2.sink.taken = w.sink.taken ++ w.buffer.take (countAll writes) := by
  have htaken := Sink.taken_writeMany writes.length (w.buffer.drop 0) w.sink
  rwa [h.writes, List.drop_zero] at htaken

/-- The sink fails before it has the whole frame. -/
theorem Pushed.sent_of_error {w w' : FrameWriter} {writes : List (Except IoFault Nat)}
    {e : FrameError} (h : Pushed 0 w writes (.error e, w')) :
    Sent (.ok w.buffer) w.sink (.error e) (w.buffer.take (countAll writes)) w'.sink where
  taken := h.taken
  refused := by simp
  front := by
    rintro _ ⟨⟩
    exact List.take_prefix _ _
  whole := by simp
  answered := by
    rintro _ ⟨⟩
    refine ⟨writes, [], w'.sink, h.writes, rfl, rfl, by simp, ?_, by simp⟩
    rw [List.filterMap_nil, List.append_nil, h.failed]

/-- The sink has the whole frame and is flushed. -/
theorem Pushed.sent_of_flushed {w w' : FrameWriter} {writes : List (Except IoFault Nat)}
    (h : Pushed 0 w writes (.ok (), w')) {flushes : List (Except IoFault Unit)}
    {run : Except FrameError Unit × FrameWriter} (h' : Flushed w' flushes run) :
    Sent (.ok w.buffer) w.sink run.1 w.buffer run.2.sink := by
  have hall : w.buffer.take (countAll writes) = w.buffer := by
    have hwhole := h.whole rfl
    rw [Nat.zero_add] at hwhole
    exact List.take_of_length_le hwhole
  have hflushed := Sink.taken_flushMany flushes.length w'.sink
  rw [h'.flushes] at hflushed
  constructor
  case taken => rw [hflushed, h.taken, hall]
  case refused => simp
  case front =>
    rintro _ ⟨⟩
    exact List.prefix_rfl
  case whole => exact fun _ => rfl
  case answered =>
    rintro _ ⟨⟩
    refine ⟨writes, flushes, w'.sink, h.writes, h'.flushes, hall.symm, fun _ => rfl, ?_, h'.done⟩
    rw [h.failed, h'.failed]
    rfl

theorem exists_sent (w : FrameWriter) (frame : Frame) :
    ∃ part, Sent (encoded w.config frame) w.sink (w.send frame).1 part (w.send frame).2.sink ∧
      (w.send frame).2.config = w.config := by
  cases hencoded : encoded w.config frame with
  | error e =>
    obtain ⟨buffer, hsend⟩ := send_of_error hencoded
    rw [hsend]
    refine ⟨[], ⟨by simp, ?_, by simp, by simp, by simp⟩, rfl⟩
    rintro _ ⟨⟩
    exact ⟨rfl, rfl, rfl⟩
  | ok bytes =>
    obtain ⟨writes, hpushed⟩ := exists_pushed 0 { w with buffer := bytes }
    rcases hpush : push 0 { w with buffer := bytes } with ⟨e | ⟨⟩, w'⟩
    · rw [hpush] at hpushed
      rw [send_of_failure hencoded hpush]
      exact ⟨_, hpushed.sent_of_error, hpushed.config⟩
    · rw [hpush] at hpushed
      rw [send_of_pushed hencoded hpush]
      obtain ⟨flushes, hflushed⟩ := exists_flushed w'
      exact ⟨bytes, hpushed.sent_of_flushed hflushed, hflushed.config.trans hpushed.config⟩

/-- Send frames in turn, whatever becomes of each. -/
def sendAll : List Frame → FrameWriter → List (Except FrameError Unit) × FrameWriter
  | [], w => ([], w)
  | frame :: rest, w =>
    let (result, w) := w.send frame
    let (results, w) := sendAll rest w
    (result :: results, w)

/-- What comes of frames in turn: the results, and the part of each that the sink took. -/
inductive Sends (config : FrameConfig) :
    List Frame → Sink → List (Except FrameError Unit) → List Bytes → Sink → Prop where
  | nil (s : Sink) : Sends config [] s [] [] s
  | cons {frame : Frame} {rest : List Frame} {s s₁ s' : Sink} {result : Except FrameError Unit}
      {results : List (Except FrameError Unit)} {part : Bytes} {parts : List Bytes}
      (first : Sent (encoded config frame) s result part s₁)
      (later : Sends config rest s₁ results parts s') :
      Sends config (frame :: rest) s (result :: results) (part :: parts) s'

theorem exists_sends (frames : List Frame) (w : FrameWriter) :
    ∃ parts, Sends w.config frames w.sink (w.sendAll frames).1 parts (w.sendAll frames).2.sink := by
  induction frames generalizing w with
  | nil => exact ⟨[], .nil _⟩
  | cons frame rest ih =>
    obtain ⟨part, hsent, hconfig⟩ := exists_sent w frame
    obtain ⟨parts, hrest⟩ := ih (w.send frame).2
    rw [hconfig] at hrest
    exact ⟨part :: parts, .cons hsent hrest⟩

section Sends

variable {config : FrameConfig} {frames : List Frame} {s s' : Sink}
  {results : List (Except FrameError Unit)} {parts : List Bytes}

theorem Sends.taken (h : Sends config frames s results parts s') :
    s'.taken = s.taken ++ parts.flatten := by
  induction h with
  | nil s => simp
  | cons first _ ih => rw [ih, first.taken, List.flatten_cons, List.append_assoc]

/-- Interrupted calls are made again and not reported. -/
theorem Sent.kind_ne {frame : Frame} {fault : IoFault} {part : Bytes}
    (h : Sent (encoded config frame) s (.error (.io fault)) part s') :
    fault.kind ≠ .interrupted := by
  cases hencoded : encoded config frame with
  | error e =>
    have hresult := (h.refused e hencoded).1
    exact absurd (Except.error.inj hresult).symm (ne_io_of_encoded hencoded fault)
  | ok bytes =>
    obtain ⟨writes, flushes, -, -, -, -, -, hreported, -⟩ := h.answered bytes hencoded
    have hmem : FrameError.io fault ∈
        writes.filterMap writeFailure? ++ flushes.filterMap flushFailure? := by
      rw [hreported]
      exact List.mem_singleton_self _
    rcases List.mem_append.mp hmem with hwrite | hflush
    · obtain ⟨answer, -, hanswer⟩ := List.mem_filterMap.mp hwrite
      exact kind_ne_of_writeFailure hanswer
    · obtain ⟨answer, -, hanswer⟩ := List.mem_filterMap.mp hflush
      exact kind_ne_of_flushFailure hanswer

theorem Sends.kind_ne (h : Sends config frames s results parts s') :
    ∀ fault, .error (.io fault) ∈ results → fault.kind ≠ .interrupted := by
  induction h with
  | nil s => simp
  | cons first _ ih =>
    intro fault hfault
    rcases List.mem_cons.mp hfault with rfl | hlater
    · exact first.kind_ne
    · exact ih fault hlater

end Sends

/-- Whatever a sink answers to the writes and flushes of any frames in turn, it has taken the
front of each frame that has an encoding, one after the other, and nothing else: the whole of a
frame that was sent without a failure, which was also flushed, and nothing of a frame that has
no encoding. Every failure is one that the sink answered or that the encoding has, and
interruptions are not among them. -/
theorem sendAll_fronts (w : FrameWriter) (frames : List Frame) :
    let run := w.sendAll frames
    ∃ parts, Sends w.config frames w.sink run.1 parts run.2.sink ∧
      run.2.sink.taken = w.sink.taken ++ parts.flatten ∧
      ∀ fault, .error (.io fault) ∈ run.1 → fault.kind ≠ .interrupted := by
  intro run
  obtain ⟨parts, hsends⟩ := exists_sends frames w
  exact ⟨parts, hsends, hsends.taken, hsends.kind_ne⟩

end FrameWriter

end HarnessLink
