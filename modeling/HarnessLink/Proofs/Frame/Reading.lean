import HarnessLink.Frame.Stream
import HarnessLink.Proofs.Frame.Chunking

/-!
# Frames of a stream that falters

A frame reader is called for one frame at a time, while its stream answers with data in
any portions, faults and ends. A call reads only while the bytes at hand hold no frame, and
ends with the first frame or the first failure that an answer calls for. So over any number
of calls every failure is reported once, behind all frames that came before it, and frames
and bytes at hand together are what one framer makes of all the data that was read.
-/
namespace HarnessLink

@[simp] theorem Framer.extend_nil (r : Framer) : r.extend [] = r := by
  simp [Framer.extend]

namespace ReadEvent

/-- What so many reads answer, and what is then left in store. -/
def readMany (limit : Nat) : Nat → List ReadEvent → List (Except IoFault Bytes) × List ReadEvent
  | 0, stream => ([], stream)
  | count + 1, stream =>
    let (answer, stream) := read limit stream
    let (answers, stream) := readMany limit count stream
    (answer :: answers, stream)

/-- The data of an answer. -/
def dataOf : Except IoFault Bytes → Bytes
  | .ok bytes => bytes
  | .error _ => []

/-- All data in store. -/
def stored : List ReadEvent → Bytes
  | [] => []
  | fault _ :: rest => stored rest
  | data bytes :: rest => bytes ++ stored rest

/-- Reads may be made in two parts. -/
theorem readMany_add (limit first second : Nat) (stream : List ReadEvent) :
    readMany limit (first + second) stream =
      ((readMany limit first stream).1 ++
          (readMany limit second (readMany limit first stream).2).1,
        (readMany limit second (readMany limit first stream).2).2) := by
  induction first generalizing stream with
  | zero => simp [readMany]
  | succ first ih => simp [Nat.succ_add, readMany, ih]

/-- A read takes its data out of the store. -/
theorem stored_read (limit : Nat) (stream : List ReadEvent) :
    dataOf (read limit stream).1 ++ stored (read limit stream).2 = stored stream := by
  unfold read
  split
  · simp [dataOf, stored]
  · simp [dataOf, stored]
  · split_ifs <;> simp [dataOf, stored, ← List.append_assoc]

theorem stored_readMany (limit count : Nat) (stream : List ReadEvent) :
    (readMany limit count stream).1.flatMap dataOf ++ stored (readMany limit count stream).2 =
      stored stream := by
  induction count generalizing stream with
  | zero => simp [readMany]
  | succ count ih =>
    simp only [readMany, List.flatMap_cons, List.append_assoc, ih, stored_read]

end ReadEvent

namespace FrameReader

open ReadEvent

/-- The failure that a reader reports for an answer. -/
def failure? : Except IoFault Bytes → Option FrameError
  | .ok bytes => if bytes.isEmpty then some .connectionClosed else none
  | .error e => if e.kind = .interrupted then none else some (.io e)

/-- One call: a frame at hand, or one read and what its answer calls for. -/
theorem readFrame_eq (r : FrameReader) :
    r.readFrame = match r.framer.next with
      | (some frame, framer) => (.ok frame, { r with framer })
      | (none, framer) =>
        let (answer, stream) := read chunkSize r.stream
        match failure? answer with
        | some e => (.error e, { framer, stream })
        | none => readFrame { framer := framer.extend (dataOf answer), stream } := by
  rw [readFrame]
  rcases r.framer.next with ⟨_ | frame, framer⟩
  case some => rfl
  case none =>
    dsimp only
    split
    · next hs =>
      rw [hs]
      rfl
    · next event events hs =>
      simp only [hs]
      split
      · next e _ _ hread _ =>
        simp only [hread, failure?, dataOf, Framer.extend_nil]
        split_ifs <;> rfl
      · next bytes _ _ hread _ =>
        simp only [hread, failure?, dataOf]
        split_ifs <;> rfl

/-- The failure that a call reports. -/
def error? : Except FrameError Frame → Option FrameError
  | .ok _ => none
  | .error e => some e

/-- Only an answer without data is a failure. -/
theorem dataOf_of_failure {answer : Except IoFault Bytes} {e : FrameError}
    (h : failure? answer = some e) : dataOf answer = [] := by
  cases answer with
  | ok bytes =>
    simp only [failure?, List.isEmpty_iff, Option.ite_none_right_eq_some] at h
    exact h.1
  | error fault => rfl

/-- Interrupted reads are not reported. -/
theorem kind_ne_of_failure {answer : Except IoFault Bytes} {fault : IoFault}
    (h : failure? answer = some (.io fault)) : fault.kind ≠ .interrupted := by
  cases answer with
  | ok bytes => simp [failure?] at h
  | error e =>
    simp only [failure?, Option.ite_none_left_eq_some, Option.some.injEq, FrameError.io.injEq] at h
    rw [← h.2]
    exact h.1

/-- A read that is no failure takes something out of the store. -/
theorem weight_read_of_no_failure {stream : List ReadEvent}
    (h : failure? (ReadEvent.read chunkSize stream).1 = none) :
    ReadEvent.weight (ReadEvent.read chunkSize stream).2 < ReadEvent.weight stream := by
  cases stream with
  | nil => simp [ReadEvent.read, failure?] at h
  | cons event events => exact chunkSize_weight event events

/-- What comes of calls: the answers that were read, no byte of which is lost, and every failure
among them reported. After a call that reports one, nothing at hand holds a frame. -/
structure Calls (r : FrameReader) (answers : List (Except IoFault Bytes))
    (results : List (Except FrameError Frame)) (last : FrameReader) : Prop where
  reads : readMany chunkSize answers.length r.stream = (answers, last.stream)
  fed : ∀ more, r.framer.feed (answers.flatMap dataOf ++ more) =
    (results.filterMap Except.toOption ++ (last.framer.feed more).1, (last.framer.feed more).2)
  failed : results.filterMap error? = answers.filterMap failure?
  exhausted : ∀ e, results.getLast? = some (.error e) → last.framer.feed [] = ([], last.framer)

/-- A call that has a frame at hand reads nothing. -/
theorem calls_of_next_some {r : FrameReader} {frame : Frame} {framer : Framer}
    (h : r.framer.next = (some frame, framer)) : r.Calls [] [.ok frame] { r with framer } := by
  have hfeed := Framer.feed_next r.framer
  rw [h] at hfeed
  exact ⟨rfl, hfeed, rfl, by simp⟩

/-- A call ends with a failure. -/
theorem calls_of_failure {r : FrameReader} {framer : Framer} {answer : Except IoFault Bytes}
    {stream : List ReadEvent} {e : FrameError} (h : r.framer.next = (none, framer))
    (hread : ReadEvent.read chunkSize r.stream = (answer, stream))
    (hfailure : failure? answer = some e) : r.Calls [answer] [.error e] { framer, stream } := by
  have hfeed := Framer.feed_next r.framer
  have hnone := Framer.feed_nil_of_next_none (r := r.framer) (by rw [h])
  rw [h] at hfeed hnone
  refine ⟨by simp [readMany, hread], ?_, by simp [error?, hfailure], fun _ _ => hnone⟩
  intro more
  rw [List.flatMap_singleton, dataOf_of_failure hfailure]
  exact hfeed more

/-- A call goes on behind an answer that is no failure. -/
theorem Calls.behind {r last : FrameReader} {framer : Framer} {answer : Except IoFault Bytes}
    {stream : List ReadEvent} {answers : List (Except IoFault Bytes)}
    {results : List (Except FrameError Frame)} (h : r.framer.next = (none, framer))
    (hread : ReadEvent.read chunkSize r.stream = (answer, stream))
    (hfailure : failure? answer = none)
    (hrest : Calls { framer := framer.extend (dataOf answer), stream } answers results last) :
    r.Calls (answer :: answers) results last := by
  have hfeed := Framer.feed_next r.framer
  rw [h] at hfeed
  refine ⟨by simp [readMany, hread, hrest.reads], ?_, by simp [hfailure, hrest.failed],
    hrest.exhausted⟩
  intro more
  rw [List.flatMap_cons, List.append_assoc, hfeed, ← Framer.feed_extend, hrest.fed]
  rfl

theorem exists_calls (r : FrameReader) :
    ∃ answers, r.Calls answers [r.readFrame.1] r.readFrame.2 := by
  -- The reader goes round again only behind a read that took something out of the store.
  induction hweight : ReadEvent.weight r.stream using Nat.strongRecOn generalizing r with
  | ind weight ih =>
    subst hweight
    rw [readFrame_eq]
    obtain ⟨frame?, framer, hnext⟩ : ∃ frame? framer, r.framer.next = (frame?, framer) :=
      ⟨_, _, rfl⟩
    cases frame? with
    | some frame =>
      rw [hnext]
      exact ⟨[], calls_of_next_some hnext⟩
    | none =>
      obtain ⟨answer, stream, hread⟩ :
        ∃ answer stream, ReadEvent.read chunkSize r.stream = (answer, stream) := ⟨_, _, rfl⟩
      simp only [hnext, hread]
      cases hfailure : failure? answer with
      | some e => exact ⟨[answer], calls_of_failure hnext hread hfailure⟩
      | none =>
        have hless := weight_read_of_no_failure (by rw [hread, hfailure])
        rw [hread] at hless
        obtain ⟨answers, hcalls⟩ :=
          ih _ hless { framer := framer.extend (dataOf answer), stream } rfl
        exact ⟨answer :: answers, hcalls.behind hnext hread hfailure⟩

/-- So many calls, one after the other. -/
def readFrames : Nat → FrameReader → List (Except FrameError Frame) × FrameReader
  | 0, r => ([], r)
  | count + 1, r =>
    let (results, r) := readFrames count r
    let (result, r) := r.readFrame
    (results ++ [result], r)

/-- One more call. -/
theorem Calls.snoc {r mid last : FrameReader} {answers more : List (Except IoFault Bytes)}
    {results : List (Except FrameError Frame)} {result : Except FrameError Frame}
    (h : r.Calls answers results mid) (h' : mid.Calls more [result] last) :
    r.Calls (answers ++ more) (results ++ [result]) last := by
  refine ⟨?_, ?_, ?_, ?_⟩
  · rw [List.length_append, ReadEvent.readMany_add, h.reads, h'.reads]
  · intro bytes
    rw [List.flatMap_append, List.append_assoc, h.fed, h'.fed, List.filterMap_append,
      List.append_assoc]
  · rw [List.filterMap_append, List.filterMap_append, h.failed, h'.failed]
  · intro e he
    rw [List.getLast?_concat] at he
    exact h'.exhausted e (by simpa using he)

theorem exists_calls_readFrames (r : FrameReader) (count : Nat) :
    ∃ answers, r.Calls answers (r.readFrames count).1 (r.readFrames count).2 := by
  induction count with
  | zero => exact ⟨[], rfl, fun _ => rfl, rfl, by simp [readFrames]⟩
  | succ count ih =>
    obtain ⟨answers, hcalls⟩ := ih
    obtain ⟨more, hcall⟩ := exists_calls (r.readFrames count).2
    exact ⟨answers ++ more, hcalls.snoc hcall⟩

/-- Whatever a stream answers, nothing of it is lost over any number of calls. The frames that
come out are the first ones of those that a framer gives for all the data read so far, and the
reader is left with what the framer would still make of it, so that it goes on with whatever comes
as if the frames had been taken at once. Every fault but an interruption, and every end, is
reported once and in order. When one is reported, all frames of the data read so far are out. -/
theorem readFrames_lossless (config : FrameConfig) (stream : List ReadEvent) (count : Nat) :
    let run := readFrames count ⟨{ config }, stream⟩
    let frames := run.1.filterMap Except.toOption
    ∃ answers, readMany chunkSize answers.length stream = (answers, run.2.stream) ∧
      let data := answers.flatMap dataOf
      data ++ ReadEvent.stored run.2.stream = ReadEvent.stored stream ∧
      frames <+: (Framer.feed { config } data).1 ∧
      run.1.filterMap error? = answers.filterMap failure? ∧
      (∀ fault, .error (.io fault) ∈ run.1 → fault.kind ≠ .interrupted) ∧
      (∀ e, run.1.getLast? = some (.error e) → frames = (Framer.feed { config } data).1) ∧
      ∀ more, Framer.feed { config } (data ++ more) =
        (frames ++ (run.2.framer.feed more).1, (run.2.framer.feed more).2) := by
  intro run frames
  obtain ⟨answers, hreads, hfed, hfailed, hexhausted⟩ :=
    exists_calls_readFrames ⟨{ config }, stream⟩ count
  have hstored := ReadEvent.stored_readMany chunkSize answers.length stream
  rw [hreads] at hstored
  have hdata := hfed []
  rw [List.append_nil] at hdata
  refine ⟨answers, hreads, hstored, ?_, hfailed, ?_, ?_, hfed⟩
  · rw [hdata]
    exact List.prefix_append _ _
  · intro fault hfault
    have hmem : FrameError.io fault ∈ run.1.filterMap error? :=
      List.mem_filterMap.mpr ⟨_, hfault, rfl⟩
    rw [hfailed] at hmem
    obtain ⟨answer, -, hanswer⟩ := List.mem_filterMap.mp hmem
    exact kind_ne_of_failure hanswer
  · intro e he
    rw [hdata, hexhausted e he, List.append_nil]

end FrameReader

end HarnessLink
