import HarnessLink.Proofs.Frame.Recovery
import HarnessLink.Proofs.Frame.Runs

/-!
# What a framer can be made to hold

Received bytes are decoded step by step: the first of them is skipped, or a fragment is taken off
their front. Each step takes at least one byte away, so decoding ends, and what it keeps is the
front of a fragment whose rest may still come. A frame stays in progress only while it fits the
frame size and, where indices count, while its next index fits a byte. So no bytes whatever make a
framer run on or hold more than a fragment and a frame.
-/
namespace HarnessLink

namespace Fragment

/-! ## Steps of a decoder -/

/-- Decoding `bytes` ends after `steps` steps: these fragments were taken off, and `kept` is left
because it may be the front of one. -/
inductive Decodes (maxChunk : Nat) :
    Bytes → (steps : Nat) → List Fragment → (kept : Bytes) → Prop where
  | stop {bytes : Bytes} (h : lead maxChunk bytes = .incomplete) : Decodes maxChunk bytes 0 [] bytes
  | skip {b : UInt8} {rest kept : Bytes} {steps : Nat} {fragments : List Fragment}
      (h : lead maxChunk (b :: rest) = .noise) (hrest : Decodes maxChunk rest steps fragments kept) :
      Decodes maxChunk (b :: rest) (steps + 1) fragments kept
  | take {bytes rest kept : Bytes} {f : Fragment} {steps : Nat} {fragments : List Fragment}
      (h : lead maxChunk bytes = .complete f rest)
      (hrest : Decodes maxChunk rest steps fragments kept) :
      Decodes maxChunk bytes (steps + 1) (f :: fragments) kept

variable {maxChunk steps : Nat} {bytes kept : Bytes} {fragments : List Fragment}

/-- Every step takes a byte away, and those that are kept are never looked at again. -/
theorem Decodes.steps_le (h : Decodes maxChunk bytes steps fragments kept) :
    steps + kept.length ≤ bytes.length := by
  induction h with
  | stop h => simp
  | skip h hrest ih =>
    simp only [List.length_cons]
    omega
  | take h hrest ih =>
    have hshorter := length_of_lead_complete h
    omega

/-- Decoding stops only where more bytes are needed. -/
theorem Decodes.lead_kept (h : Decodes maxChunk bytes steps fragments kept) :
    lead maxChunk kept = .incomplete := by
  induction h with
  | stop h => exact h
  | skip h hrest ih => exact ih
  | take h hrest ih => exact ih

theorem scan_of_incomplete (h : lead maxChunk bytes = .incomplete) :
    scan maxChunk bytes = .waiting bytes := by
  cases bytes with
  | nil => rfl
  | cons b rest => simp only [scan, h]

theorem scan_of_noise {b : UInt8} {rest : Bytes} (h : lead maxChunk (b :: rest) = .noise) :
    scan maxChunk (b :: rest) = scan maxChunk rest := by
  simp only [scan, h]

/-- Whatever bytes are at hand, decoding them step by step ends with what a scan of them gives. -/
theorem exists_decodes (maxChunk : Nat) (bytes : Bytes) :
    ∃ steps, Decodes maxChunk bytes steps (scanAll maxChunk bytes).1 (scanAll maxChunk bytes).2 := by
  induction hlength : bytes.length using Nat.strongRecOn generalizing bytes with
  | ind n ih =>
  subst hlength
  cases hlead : lead maxChunk bytes with
  | incomplete =>
    rw [scanAll_of_waiting (scan_of_incomplete hlead)]
    exact ⟨0, .stop hlead⟩
  | noise =>
    cases bytes with
    | nil => simp [lead] at hlead
    | cons b rest =>
      obtain ⟨steps, hrest⟩ := ih rest.length (by simp) rest rfl
      rw [scanAll_congr (scan_of_noise hlead)]
      exact ⟨steps + 1, .skip hlead hrest⟩
  | complete f rest =>
    obtain ⟨steps, hrest⟩ := ih rest.length (length_of_lead_complete hlead) rest rfl
    rw [scanAll_of_found (scan_of_complete hlead)]
    exact ⟨steps + 1, .take hlead hrest⟩

/-- What may be the front of a fragment is nothing, half a delimiter, or a delimiter with less
behind it than a header and a full chunk need. -/
theorem front_of_incomplete (h : lead maxChunk bytes = .incomplete) :
    bytes = [] ∨ bytes = [0xAB] ∨
      [0xAB, 0xCD] <+: bytes ∧ bytes.length < headerSize + maxChunk := by
  have hshort := length_of_lead_incomplete h
  cases front bytes with
  | empty => simp
  | half => simp
  | single a ha => simp [lead, ha] at h
  | other a b tail hab =>
    rw [lead_other maxChunk tail hab] at h
    cases h
  | short tail ht => exact Or.inr (Or.inr ⟨⟨tail, rfl⟩, hshort⟩)
  | header l0 l1 slot kind index flag body => exact Or.inr (Or.inr ⟨⟨_, rfl⟩, hshort⟩)

end Fragment

/-! ## The frame in progress -/

variable {config : FrameConfig}

namespace Assembly

/-- The frame in progress is what the last fragments found were joined to, as many as it counts,
and it fits. -/
structure Bounded (config : FrameConfig) (found : List Fragment) (a : Assembly) : Prop where
  joined : ∃ last, last <:+ found ∧ a.received = last.length ∧ a.data = last.flatMap Fragment.payload
  pos : 1 ≤ a.received
  size : a.data.length ≤ config.maxFrameSize
  count : config.reassembly = .strict → a.received ≤ Fragment.maxCount

/-- A fragment starts a frame or continues the one in progress, where indices count at its own. -/
theorem continued_cases {policy : Reassembly} {open? : Option Assembly} {f : Fragment}
    {a : Assembly} (h : continued policy open? f = some a) :
    a = start f ∨ open? = some a ∧ (policy = .strict → a.received = f.index.toNat) := by
  cases policy with
  | permissive =>
    obtain rfl : open?.getD (start f) = a := Option.some.inj h
    cases open? <;> simp
  | strict =>
    simp only [continued] at h
    split_ifs at h with hfirst
    · exact Or.inl (Option.some.inj h).symm
    · obtain ⟨hopen, hindex⟩ := Option.filter_eq_some_iff.mp h
      exact Or.inr ⟨hopen, fun _ => by simpa using hindex⟩

/-- A fragment that fits leaves what was in progress, with it, within the bounds. -/
theorem Bounded.extend {found : List Fragment} {open? : Option Assembly}
    (h : ∀ a ∈ open?, Bounded config found a) {f : Fragment} {a : Assembly}
    (hcontinued : continued config.reassembly open? f = some a)
    (hfit : a.data.length + f.payload.length ≤ config.maxFrameSize) :
    Bounded config (found ++ [f]) (a.extend f) := by
  have hsize : (a.extend f).data.length ≤ config.maxFrameSize := by
    simpa [Assembly.extend] using hfit
  have hpos : 1 ≤ (a.extend f).received := Nat.le_add_left 1 a.received
  obtain rfl | ⟨rfl, hindex⟩ := continued_cases hcontinued
  · refine ⟨⟨[f], List.suffix_append found [f], rfl, ?_⟩, hpos, hsize, fun _ => ?_⟩
    · simp [Assembly.extend, start]
    · simp [Assembly.extend, start, Fragment.maxCount]
  · obtain ⟨last, ⟨before, rfl⟩, hreceived, hdata⟩ := (h a rfl).joined
    refine ⟨⟨last ++ [f], ⟨before, by simp⟩, ?_, ?_⟩, hpos, hsize, fun hstrict => ?_⟩
    · simp [Assembly.extend, hreceived]
    · simp [Assembly.extend, hdata]
    · have hbyte := f.index.toNat_lt
      have hcounted := hindex hstrict
      simp only [Assembly.extend, Fragment.maxCount]
      omega

/-- One more fragment keeps the bounds of what is in progress and completes no longer frame. -/
theorem accept_bounded {found : List Fragment} {open? : Option Assembly}
    (h : ∀ a ∈ open?, Bounded config found a) (f : Fragment) :
    (∀ a ∈ (accept config open? f).1, Bounded config (found ++ [f]) a) ∧
      ∀ frame ∈ (accept config open? f).2, frame.payload.length ≤ config.maxFrameSize := by
  cases hcontinued : continued config.reassembly open? f with
  | none => simp [accept, hcontinued]
  | some a =>
    by_cases hlong : config.maxFrameSize < a.data.length + f.payload.length
    · simp [accept, hcontinued, hlong]
    · have hextended := Bounded.extend h hcontinued (Nat.not_lt.mp hlong)
      cases hmore : f.more with
      | true => simpa [accept, hcontinued, hlong, hmore] using hextended
      | false => simpa [accept, hcontinued, hlong, hmore, frame] using hextended.size

end Assembly

/-- So do any fragments: the bounds hold of what stays in progress, and of every frame. -/
theorem assemble_bounded {found : List Fragment} {open? : Option Assembly}
    (h : ∀ a ∈ open?, Assembly.Bounded config found a) (fragments : List Fragment) :
    (∀ frame ∈ (assemble config open? fragments).1, frame.payload.length ≤ config.maxFrameSize) ∧
      ∀ a ∈ (assemble config open? fragments).2, Assembly.Bounded config (found ++ fragments) a := by
  induction fragments generalizing found open? with
  | nil => simpa [assemble] using h
  | cons f rest ih =>
    obtain ⟨hopen, hdone⟩ := Assembly.accept_bounded h f
    obtain ⟨hframes, hlast⟩ := ih hopen
    rw [assemble_cons]
    constructor
    · intro frame hframe
      rcases List.mem_append.mp hframe with hframe | hframe
      · exact hdone frame (Option.mem_toList.mp hframe)
      · exact hframes frame hframe
    · simpa using hlast

namespace Framer

/-- Whatever is fed, in however many pieces, no frame that comes out is longer than the frame size.
What stays undecoded is nothing, half a delimiter, or a delimiter and what is behind it, together
shorter than a header and a full chunk. The frame in progress fits the frame size and is what its
count says of the last fragments found, at least one and, where indices count, at most 256. And
decoding what is fed next ends: each step takes a byte away, so there are no more steps than
bytes. -/
theorem feed_bounded (config : FrameConfig) (pieces : List Bytes) :
    let fed := Framer.runEach feed { config } pieces
    (∀ frame ∈ fed.1, frame.payload.length ≤ config.maxFrameSize) ∧
      (fed.2.buffer = [] ∨ fed.2.buffer = [0xAB] ∨
        [0xAB, 0xCD] <+: fed.2.buffer ∧ fed.2.buffer.length < 8 + config.maxChunk) ∧
      (∀ a ∈ fed.2.open?, a.data.length ≤ config.maxFrameSize ∧ 1 ≤ a.received ∧
        (config.reassembly = .strict → a.received ≤ 256) ∧
        ∃ last, last <:+ (Fragment.scanAll config.maxChunk pieces.flatten).1 ∧
          a.received = last.length ∧ a.data = last.flatMap Fragment.payload) ∧
      ∀ bytes, ∃ steps fragments,
        Fragment.Decodes config.maxChunk (fed.2.buffer ++ bytes) steps fragments
          (fed.2.feed bytes).2.buffer ∧
        (fed.2.feed bytes).1 = (assemble config fed.2.open? fragments).1 ∧
        steps + (fed.2.feed bytes).2.buffer.length ≤ fed.2.buffer.length + bytes.length := by
  intro fed
  have hfed : fed = feed { config } pieces.flatten := runEach_fresh config pieces
  have hconfig : fed.2.config = config := by rw [hfed, config_feed]
  rw [feed_eq, List.nil_append] at hfed
  have hfresh : ∀ a ∈ (none : Option Assembly), Assembly.Bounded config [] a := by simp
  obtain ⟨hframes, hopen⟩ :=
    assemble_bounded hfresh (Fragment.scanAll config.maxChunk pieces.flatten).1
  refine ⟨?_, ?_, ?_, ?_⟩
  · rw [hfed]
    exact hframes
  · obtain ⟨steps, hdecodes⟩ := Fragment.exists_decodes config.maxChunk pieces.flatten
    rw [hfed]
    exact Fragment.front_of_incomplete hdecodes.lead_kept
  · intro a ha
    rw [hfed] at ha
    obtain ⟨hjoined, hpos, hsize, hcount⟩ := hopen a ha
    exact ⟨hsize, hpos, hcount, hjoined⟩
  · intro bytes
    obtain ⟨steps, hdecodes⟩ := Fragment.exists_decodes config.maxChunk (fed.2.buffer ++ bytes)
    have hsteps := hdecodes.steps_le
    rw [List.length_append] at hsteps
    rw [feed_eq, hconfig]
    exact ⟨steps, _, hdecodes, rfl, hsteps⟩

end Framer
end HarnessLink
