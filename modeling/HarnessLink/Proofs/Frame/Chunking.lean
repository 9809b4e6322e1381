import HarnessLink.Frame.Framer
import HarnessLink.Proofs.Frame.Scanning

/-!
# Chunks of a byte stream

Bytes reach a framer in pieces whose borders mean nothing: feeding pieces gives the
frames and leaves the state of feeding their concatenation. A decoder that is called
on buffers gives the same frames one at a time, however calls on empty buffers stand
between the others, and takes every buffer whole.
-/
namespace HarnessLink

theorem assemble_cons (config : FrameConfig) (open? : Option Assembly) (f : Fragment)
    (rest : List Fragment) :
    assemble config open? (f :: rest) =
      ((Assembly.accept config open? f).2.toList ++
          (assemble config (Assembly.accept config open? f).1 rest).1,
        (assemble config (Assembly.accept config open? f).1 rest).2) := rfl

/-- Fragments may be joined in two parts, the second onto what the first leaves. -/
theorem assemble_append (config : FrameConfig) (open? : Option Assembly)
    (fragments more : List Fragment) :
    assemble config open? (fragments ++ more) =
      ((assemble config open? fragments).1 ++
          (assemble config (assemble config open? fragments).2 more).1,
        (assemble config (assemble config open? fragments).2 more).2) := by
  induction fragments generalizing open? with
  | nil => rfl
  | cons f rest ih =>
    simp only [List.cons_append, assemble_cons, ih, List.append_assoc]

namespace Framer

/-- Take pieces in one by one, in the given way to take one. -/
def runEach (take : Framer → Bytes → List Frame × Framer) : Framer → List Bytes → List Frame × Framer
  | r, [] => ([], r)
  | r, piece :: rest =>
    let (frames, r) := take r piece
    let (later, r) := runEach take r rest
    (frames ++ later, r)

/-- Pieces may be taken in in two parts. -/
theorem runEach_append (take : Framer → Bytes → List Frame × Framer) (r : Framer)
    (pieces more : List Bytes) :
    r.runEach take (pieces ++ more) =
      ((r.runEach take pieces).1 ++ ((r.runEach take pieces).2.runEach take more).1,
        ((r.runEach take pieces).2.runEach take more).2) := by
  induction pieces generalizing r with
  | nil => rfl
  | cons piece rest ih => simp [runEach, ih]

theorem feed_eq (r : Framer) (bytes : Bytes) :
    r.feed bytes =
      ((assemble r.config r.open? (Fragment.scanAll r.config.maxChunk (r.buffer ++ bytes)).1).1,
        { r with
          buffer := (Fragment.scanAll r.config.maxChunk (r.buffer ++ bytes)).2
          open? := (assemble r.config r.open?
            (Fragment.scanAll r.config.maxChunk (r.buffer ++ bytes)).1).2 }) := rfl

@[simp] theorem config_feed (r : Framer) (bytes : Bytes) : (r.feed bytes).2.config = r.config := rfl

theorem config_runEach_feed (r : Framer) (pieces : List Bytes) :
    (r.runEach feed pieces).2.config = r.config := by
  induction pieces generalizing r with
  | nil => rfl
  | cons piece rest ih => exact ih (r.feed piece).2

/-- A stream may be fed in two parts. -/
theorem feed_append (r : Framer) (bytes more : Bytes) :
    r.feed (bytes ++ more) =
      ((r.feed bytes).1 ++ ((r.feed bytes).2.feed more).1, ((r.feed bytes).2.feed more).2) := by
  simp only [feed_eq]
  rw [← List.append_assoc, Fragment.scanAll_append, assemble_append]

/-- Pieces after a first are taken in as if they had come with it. -/
theorem feed_runEach (r : Framer) (bytes : Bytes) (pieces : List Bytes) :
    ((r.feed bytes).1 ++ ((r.feed bytes).2.runEach feed pieces).1,
      ((r.feed bytes).2.runEach feed pieces).2) = r.feed (bytes ++ pieces.flatten) := by
  -- The pieces so far are one piece to the rest of them.
  induction pieces generalizing r bytes with
  | nil => simp [runEach]
  | cons piece rest ih =>
    have hrest := ih (r.feed bytes).2 piece
    rw [List.flatten_cons, feed_append r bytes, ← hrest]
    rfl

/-- Pieces are taken in as their concatenation. -/
theorem runEach_feed {r : Framer} {pieces : List Bytes} (h : pieces ≠ []) :
    r.runEach feed pieces = r.feed pieces.flatten := by
  cases pieces with
  | nil => contradiction
  | cons piece rest => exact feed_runEach r piece rest

/-! ## One frame at a time -/

theorem next_of_waiting {r : Framer} {kept : Bytes}
    (h : Fragment.scan r.config.maxChunk r.buffer = .waiting kept) :
    r.next = (none, { r with buffer := kept }) := by
  rw [next]
  split
  · next h' =>
    rw [h] at h'
    obtain rfl := Fragment.Scan.waiting.inj h'
    rfl
  · next h' =>
    rw [h] at h'
    cases h'

theorem next_of_found {r : Framer} {f : Fragment} {rest : Bytes}
    (h : Fragment.scan r.config.maxChunk r.buffer = .found f rest) :
    r.next = match Assembly.accept r.config r.open? f with
      | (open?, some frame) => (some frame, { r with buffer := rest, open? })
      | (open?, none) => next { r with buffer := rest, open? } := by
  rw [next]
  split
  · next h' =>
    rw [h] at h'
    cases h'
  · next h' =>
    rw [h] at h'
    obtain ⟨rfl, rfl⟩ := Fragment.Scan.found.inj h'
    rfl

/-- What is fed behind a fragment comes after what the fragment completes. -/
theorem feed_of_found {r : Framer} {f : Fragment} {rest : Bytes} (bytes : Bytes)
    (h : Fragment.scan r.config.maxChunk r.buffer = .found f rest) :
    r.feed bytes =
      let accepted := Assembly.accept r.config r.open? f
      let later := feed { r with buffer := rest, open? := accepted.1 } bytes
      (accepted.2.toList ++ later.1, later.2) := by
  simp only [feed_eq]
  rw [Fragment.scanAll_of_found (Fragment.scan_found_append bytes h), assemble_cons]

/-- The next frame comes before what is fed afterwards. -/
theorem feed_next (r : Framer) (bytes : Bytes) :
    r.feed bytes = (r.next.1.toList ++ (r.next.2.feed bytes).1, (r.next.2.feed bytes).2) := by
  induction r using next.induct with
  | case1 r kept h =>
    rw [next_of_waiting h]
    simp only [feed_eq]
    rw [Fragment.scanAll_congr (Fragment.scan_waiting_append bytes h)]
    rfl
  | case2 r f rest h open? frame haccept =>
    rw [next_of_found h, feed_of_found bytes h, haccept]
  | case3 r f rest h open? haccept ih =>
    rw [next_of_found h, feed_of_found bytes h, haccept]
    exact ih

/-- Bytes that hold no frame stay as they are. -/
theorem feed_nil_of_next_none {r : Framer} (h : r.next.1 = none) :
    r.next.2.feed [] = ([], r.next.2) := by
  induction r using next.induct with
  | case1 r kept hscan =>
    rw [next_of_waiting hscan]
    have hkept := Fragment.scanAll_of_waiting (Fragment.scan_kept hscan)
    rw [feed_eq, List.append_nil, hkept]
    rfl
  | case2 r f rest hscan open? frame haccept =>
    rw [next_of_found hscan, haccept] at h
    cases h
  | case3 r f rest hscan open? haccept ih =>
    rw [next_of_found hscan, haccept] at h ⊢
    exact ih h

theorem length_of_next_some {r : Framer} {frame : Frame} (h : r.next.1 = some frame) :
    r.next.2.buffer.length < r.buffer.length := by
  induction r using next.induct with
  | case1 r kept hscan =>
    rw [next_of_waiting hscan] at h
    cases h
  | case2 r f rest hscan open? frame' haccept =>
    rw [next_of_found hscan, haccept]
    exact Fragment.length_of_scan_found hscan
  | case3 r f rest hscan open? haccept ih =>
    rw [next_of_found hscan, haccept] at h ⊢
    exact Nat.lt_trans (ih h) (Fragment.length_of_scan_found hscan)

/-! ## Calls of a decoder -/

/-- A call takes its buffer whole, and does what taking the bytes in and asking for
the next frame does. -/
theorem decodeBuffer_eq (r : Framer) (buffer : Bytes) :
    r.decodeBuffer buffer =
      ⟨(r.extend buffer).next.1, (r.extend buffer).next.2, []⟩ := by
  cases buffer with
  | nil => simp [decodeBuffer, extend]
  | cons b rest => simp [decodeBuffer, List.splitAt_eq]

theorem length_of_decodeBuffer_nil {r rest : Framer} {frame : Frame} {left : Bytes}
    (h : r.decodeBuffer [] = ⟨some frame, rest, left⟩) : rest.buffer.length < r.buffer.length := by
  rw [decodeBuffer_eq] at h
  obtain ⟨hframe, rfl, -⟩ := Decoded.mk.inj h
  simpa [extend] using length_of_next_some hframe

/-- Call the decoder on empty buffers until it gives nothing. -/
def drain (r : Framer) : List Frame × Framer :=
  match _h : r.decodeBuffer [] with
  | ⟨none, last, _⟩ => ([], last)
  | ⟨some frame, rest, _⟩ =>
    let (frames, last) := drain rest
    (frame :: frames, last)
termination_by r.buffer.length
decreasing_by exact length_of_decodeBuffer_nil _h

/-- Call the decoder once on each buffer. -/
def decodeEach : Framer → List Bytes → List Frame × Framer :=
  runEach fun r buffer =>
    let decoded := r.decodeBuffer buffer
    (decoded.frame?.toList, decoded.framer)

/-- Call the decoder on a buffer, and then on empty ones until it gives nothing. -/
def decodeWhole (r : Framer) (buffer : Bytes) : List Frame × Framer :=
  let decoded := r.decodeBuffer buffer
  let (frames, last) := decoded.framer.drain
  (decoded.frame?.toList ++ frames, last)

theorem feed_extend (r : Framer) (bytes more : Bytes) :
    (r.extend bytes).feed more = r.feed (bytes ++ more) := by
  simp only [feed_eq, extend, List.append_assoc]

/-- A call gives what feeding its buffer gives first. -/
theorem feed_decodeBuffer (r : Framer) (buffer bytes : Bytes) :
    r.feed (buffer ++ bytes) =
      ((r.decodeBuffer buffer).frame?.toList ++ ((r.decodeBuffer buffer).framer.feed bytes).1,
        ((r.decodeBuffer buffer).framer.feed bytes).2) := by
  rw [decodeBuffer_eq, ← feed_extend]
  exact feed_next _ bytes

theorem feed_nil_of_decodeBuffer_none {r last : Framer} {left : Bytes}
    (h : r.decodeBuffer [] = ⟨none, last, left⟩) : last.feed [] = ([], last) := by
  rw [decodeBuffer_eq] at h
  obtain ⟨hnone, rfl, -⟩ := Decoded.mk.inj h
  exact feed_nil_of_next_none hnone

/-- Calls on empty buffers give the frames that are at hand. -/
theorem drain_eq_feed (r : Framer) : r.drain = r.feed [] := by
  have hcall := feed_decodeBuffer r [] []
  rw [List.append_nil] at hcall
  induction r using drain.induct with
  | case1 r last left h =>
    rw [drain]
    split
    · next h' =>
      rw [h] at h' hcall
      obtain ⟨-, rfl, -⟩ := Decoded.mk.inj h'
      rw [hcall, feed_nil_of_decodeBuffer_none h]
      rfl
    · next h' =>
      rw [h] at h'
      cases h'
  | case2 r frame rest left h frames last hrest ih =>
    rw [drain]
    split
    · next h' =>
      rw [h] at h'
      cases h'
    · next h' =>
      rw [h] at h' hcall
      obtain ⟨hframe, rfl, -⟩ := Decoded.mk.inj h'
      obtain rfl := Option.some.inj hframe
      rw [hcall, ih (feed_decodeBuffer _ [] [])]
      rfl

/-- Draining after calls gives what is left of feeding all the buffers. -/
theorem decodeEach_drain (r : Framer) (buffers : List Bytes) :
    ((r.decodeEach buffers).1 ++ (r.decodeEach buffers).2.drain.1,
      (r.decodeEach buffers).2.drain.2) = r.feed buffers.flatten := by
  induction buffers generalizing r with
  | nil => exact drain_eq_feed r
  | cons buffer rest ih =>
    have hrest := ih (r.decodeBuffer buffer).framer
    rw [List.flatten_cons, feed_decodeBuffer, ← hrest]
    simp only [decodeEach, runEach, List.append_assoc]

theorem decodeWhole_eq_feed (r : Framer) (buffer : Bytes) :
    r.decodeWhole buffer = r.feed buffer := by
  have hcall := feed_decodeBuffer r buffer []
  rw [List.append_nil, ← drain_eq_feed] at hcall
  exact hcall.symm

/-- What a framer keeps holds no fragment, so that nothing comes of it alone. -/
theorem feed_nil_feed (r : Framer) (bytes : Bytes) :
    (r.feed bytes).2.feed [] = ([], (r.feed bytes).2) := by
  have hkept := Fragment.scan_scanAll r.config.maxChunk (r.buffer ++ bytes)
  simp only [feed_eq, List.append_nil]
  rw [Fragment.scanAll_of_waiting hkept]
  rfl

/-- Chunking never matters. A stream that is fed in pieces gives the frames and
leaves the state of the stream fed at once. Behind anything that was fed before, no
pieces at all are an empty stream as well. A decoder does the same that is called on
each piece and on empty buffers until it gives nothing, be it after every piece or
once after the last, with any calls on empty buffers in between; and each call
empties its buffer. -/
theorem feed_pieces (r : Framer) :
    (∀ pieces, pieces ≠ [] → r.runEach feed pieces = r.feed pieces.flatten) ∧
    (∀ stream pieces,
      (r.feed stream).2.runEach feed pieces = (r.feed stream).2.feed pieces.flatten) ∧
    (∀ pieces, pieces ≠ [] → r.runEach decodeWhole pieces = r.feed pieces.flatten) ∧
    (∀ buffers, ((r.decodeEach buffers).1 ++ (r.decodeEach buffers).2.drain.1,
      (r.decodeEach buffers).2.drain.2) = r.feed buffers.flatten) ∧
    ∀ buffer, (r.decodeBuffer buffer).left = [] := by
  have hwhole : decodeWhole = feed := by
    funext r buffer
    exact decodeWhole_eq_feed r buffer
  have hpieces : ∀ (r : Framer) pieces, pieces ≠ [] →
      r.runEach feed pieces = r.feed pieces.flatten := by
    intro r pieces hne
    cases pieces with
    | nil => contradiction
    | cons piece rest => exact feed_runEach r piece rest
  refine ⟨hpieces r, ?_, ?_, decodeEach_drain r, ?_⟩
  · intro stream pieces
    cases pieces with
    | nil => exact (feed_nil_feed r stream).symm
    | cons piece rest => exact hpieces _ _ (List.cons_ne_nil piece rest)
  · rw [hwhole]
    exact hpieces r
  · intro buffer
    rw [decodeBuffer_eq]

end Framer
end HarnessLink
