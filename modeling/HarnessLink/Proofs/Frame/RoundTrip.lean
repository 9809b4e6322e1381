import HarnessLink.Proofs.Frame.Chunking
import HarnessLink.Proofs.Frame.Splitting

/-!
# Frames over a link

Frames that were encoded one after another are received as they were sent. The
first fragment of a frame starts it anew, each further one continues it at its
index, and the last completes it, so the invariant of reassembly is the frame in
progress with the chunks so far and their number.
-/
namespace HarnessLink

namespace Assembly

/-- A fragment of this slot, kind and index finds the frame in progress to be `a`:
the one that it continues, or the one that it starts. -/
structure Resumes (policy : Reassembly) (open? : Option Assembly) (slot kind : UInt8)
    (index : Nat) (a : Assembly) : Prop where
  slot_eq : a.slot = slot
  kind_eq : a.kind = kind
  received_eq : a.received = index
  continued_eq : ∀ more payload,
    continued policy open? ⟨slot, kind, UInt8.ofNat index, more, payload⟩ = some a

/-- A first fragment starts a frame, in place of any other where indices count. -/
theorem resumes_start {policy : Reassembly} {open? : Option Assembly}
    (h : policy = .strict ∨ open? = none) (slot kind : UInt8) :
    Resumes policy open? slot kind 0 ⟨slot, kind, 0, []⟩ := by
  refine ⟨rfl, rfl, rfl, ?_⟩
  intro more payload
  rcases h with rfl | rfl
  · rfl
  · cases policy <;> rfl

/-- The next fragment continues the frame in progress. -/
theorem Resumes.next {policy : Reassembly} {open? : Option Assembly} {slot kind : UInt8}
    {index : Nat} {a : Assembly} (h : Resumes policy open? slot kind index a) (f : Fragment)
    (hindex : index + 1 < 256) :
    Resumes policy (some (a.extend f)) slot kind (index + 1) (a.extend f) := by
  refine ⟨h.slot_eq, h.kind_eq, congrArg (· + 1) h.received_eq, ?_⟩
  intro more payload
  have hnat : (UInt8.ofNat (index + 1)).toNat = index + 1 := by
    rw [UInt8.toNat_ofNat', Nat.mod_eq_of_lt hindex]
  have hne : UInt8.ofNat (index + 1) ≠ 0 := by
    intro hzero
    rw [hzero] at hnat
    cases hnat
  have hreceived : (a.extend f).received = index + 1 := congrArg (· + 1) h.received_eq
  cases policy with
  | strict =>
    simp only [continued]
    rw [if_neg hne, Option.filter_some, hreceived, hnat, beq_self_eq_true, if_pos rfl]
  | permissive => rfl

/-- A fragment that fits is joined to the frame in progress. -/
theorem accept_of_continued {config : FrameConfig} {open? : Option Assembly} {f : Fragment}
    {a : Assembly} (h : continued config.reassembly open? f = some a)
    (hfit : a.data.length + f.payload.length ≤ config.maxFrameSize) :
    accept config open? f =
      if f.more then (some (a.extend f), none) else (none, some (a.extend f).frame) := by
  simp only [accept, h]
  rw [if_neg (by omega)]

end Assembly

open Assembly in
/-- The fragments from `index` on complete the frame in progress with their chunks. -/
theorem assemble_number {config : FrameConfig} {open? : Option Assembly} {slot kind : UInt8}
    {index : Nat} {a : Assembly} (h : Resumes config.reassembly open? slot kind index a)
    {chunks : List Bytes} (hne : chunks ≠ []) (hindex : index + chunks.length ≤ 256)
    (hfit : a.data.length + chunks.flatten.length ≤ config.maxFrameSize) (more : List Fragment) :
    assemble config open? (Fragment.number slot kind index chunks ++ more) =
      (⟨slot, kind, a.data ++ chunks.flatten⟩ :: (assemble config none more).1,
        (assemble config none more).2) := by
  -- The last chunk completes the frame; any other leaves one that the next continues.
  induction chunks generalizing open? index a with
  | nil => contradiction
  | cons chunk rest ih =>
    simp only [List.length_cons] at hindex
    simp only [List.flatten_cons, List.length_append] at hfit
    by_cases hrest : rest = []
    · subst hrest
      have haccept := accept_of_continued (h.continued_eq false chunk) (by simp only; omega)
      simp only [Fragment.number, List.singleton_append, assemble_cons, haccept]
      simp [frame, extend, h.slot_eq, h.kind_eq]
    · have haccept := accept_of_continued (h.continued_eq true chunk) (by simp only; omega)
      have hpos := List.length_pos_iff.mpr hrest
      have hnext := h.next ⟨slot, kind, UInt8.ofNat index, true, chunk⟩ (by omega)
      rw [Fragment.number_cons slot kind index chunk hrest, List.cons_append, assemble_cons,
        haccept, if_pos rfl]
      simp only
      rw [ih hnext hrest (by omega) (by simp only [extend, List.length_append]; omega)]
      simp [extend]

/-- The frame fits the indices and the frame size of a configuration. -/
def Frame.Fits (config : FrameConfig) (f : Frame) : Prop :=
  Fragment.countFor config.maxChunk f.payload.length ≤ Fragment.maxCount ∧
    f.payload.length ≤ config.maxFrameSize

instance (config : FrameConfig) (f : Frame) : Decidable (f.Fits config) :=
  inferInstanceAs (Decidable (_ ∧ _))

/-- The fragments that a framer sends a frame in. -/
def Frame.fragments (config : FrameConfig) (f : Frame) : List Fragment :=
  Fragment.fragments f.slot f.kind f.payload config.maxChunk

/-- The link bytes of a frame. -/
def Frame.wire (config : FrameConfig) (f : Frame) : Bytes :=
  ((f.fragments config).map Fragment.wire).flatten

/-- What fits the largest frame of the usual configuration fits its indices. -/
theorem Frame.fits_default {f : Frame} (h : f.payload.length ≤ 61952) : f.Fits {} := by
  refine ⟨?_, h⟩
  show max 1 ((f.payload.length + 242 - 1) / 242) ≤ 256
  omega

/-- Joining the fragments of a frame gives the frame. -/
theorem assemble_fragments {config : FrameConfig} {open? : Option Assembly} {f : Frame}
    (hpos : 1 ≤ config.maxChunk) (hopen : config.reassembly = .strict ∨ open? = none)
    (hf : f.Fits config) (more : List Fragment) :
    assemble config open? (f.fragments config ++ more) =
      (f :: (assemble config none more).1, (assemble config none more).2) := by
  obtain ⟨hcount, hsize⟩ := hf
  have hflatten := Fragment.flatten_chunks config.maxChunk f.payload
  have hresumes := Assembly.resumes_start hopen f.slot f.kind
  have hframe := assemble_number hresumes (Fragment.chunks_ne_nil config.maxChunk f.payload)
    (by rw [Fragment.length_chunks hpos]; simpa [Fragment.maxCount] using hcount)
    (by rw [hflatten]; simpa using hsize) more
  rw [hflatten] at hframe
  exact hframe

/-- Joining the fragments of frames gives the frames, and leaves none in progress
once there was one. -/
theorem assemble_frames {config : FrameConfig} {open? : Option Assembly} {frames : List Frame}
    (hpos : 1 ≤ config.maxChunk) (hopen : config.reassembly = .strict ∨ open? = none)
    (hf : ∀ f ∈ frames, f.Fits config) :
    assemble config open? (frames.flatMap (Frame.fragments config)) =
      (frames, if frames = [] then open? else none) := by
  induction frames generalizing open? with
  | nil => rfl
  | cons f rest ih =>
    have hmem : ∀ g ∈ rest, g.Fits config := fun g hg => hf g (List.mem_cons_of_mem f hg)
    have hrest := @ih none (Or.inr rfl) hmem
    rw [List.flatMap_cons, assemble_fragments hpos hopen (hf f (List.mem_cons_self ..)), hrest]
    simp

namespace Framer

/-- The link bytes of frames, encoded one after another. -/
def encodeFrames (r : Framer) (frames : List Frame) : Except FrameError Bytes := do
  let encodings ← frames.mapM fun f => r.encode f.slot f.kind f.payload
  return (encodings.map Fragment.Encoding.wire).flatten

theorem encode_eq (r : Framer) (hpos : 1 ≤ r.config.maxChunk) (hmax : r.config.maxChunk ≤ 65535)
    {f : Frame} (hf : f.Fits r.config) :
    r.encode f.slot f.kind f.payload = .ok ⟨(f.fragments r.config).length, f.wire r.config⟩ :=
  Fragment.encodeAll_eq f.slot f.kind hpos hmax hf.1

/-- Frames that fit are encoded, each as its fragments. -/
theorem encodeFrames_eq (r : Framer) (hpos : 1 ≤ r.config.maxChunk)
    (hmax : r.config.maxChunk ≤ 65535) {frames : List Frame} (hf : ∀ f ∈ frames, f.Fits r.config) :
    r.encodeFrames frames =
      .ok ((frames.flatMap (Frame.fragments r.config)).map Fragment.wire).flatten := by
  induction frames with
  | nil => rfl
  | cons f rest ih =>
    have hfirst := r.encode_eq hpos hmax (hf f (List.mem_cons_self ..))
    have hrest := ih fun g hg => hf g (List.mem_cons_of_mem f hg)
    simp only [encodeFrames, List.mapM_cons, hfirst] at hrest ⊢
    cases hmap : rest.mapM fun f => r.encode f.slot f.kind f.payload with
    | error e =>
      rw [hmap] at hrest
      cases hrest
    | ok encodings =>
      rw [hmap] at hrest
      have hwires := Except.ok.inj hrest
      simp only [List.flatMap_cons, List.map_append, List.flatten_append, ← hwires]
      rfl

/-- A framer without bytes at hand takes the fragments of frames as the frames. -/
theorem feed_fragments {r : Framer} (hbuffer : r.buffer = []) (hpos : 1 ≤ r.config.maxChunk)
    (hmax : r.config.maxChunk ≤ 65535) (hopen : r.config.reassembly = .strict ∨ r.open? = none)
    {frames : List Frame} (hf : ∀ f ∈ frames, f.Fits r.config) :
    r.feed ((frames.flatMap (Frame.fragments r.config)).map Fragment.wire).flatten =
      (frames, { r with open? := if frames = [] then r.open? else none }) := by
  have hpayload : ∀ f ∈ frames.flatMap (Frame.fragments r.config),
      f.payload.length ≤ r.config.maxChunk := by
    intro f hmem
    obtain ⟨frame, -, hfrag⟩ := List.mem_flatMap.mp hmem
    exact Fragment.length_payload_le hpos hfrag
  rw [feed_eq, hbuffer, List.nil_append, Fragment.scanAll_wire hmax hpayload,
    assemble_frames hpos hopen hf]

/-- One frame on its own. -/
theorem feed_wire {r : Framer} (hbuffer : r.buffer = []) (hpos : 1 ≤ r.config.maxChunk)
    (hmax : r.config.maxChunk ≤ 65535) (hopen : r.config.reassembly = .strict ∨ r.open? = none)
    {f : Frame} (hf : f.Fits r.config) :
    r.feed (f.wire r.config) = ([f], { r with open? := none }) := by
  have hmem : ∀ g ∈ [f], g.Fits r.config := by simpa using hf
  have hfeed := feed_fragments hbuffer hpos hmax hopen hmem
  rw [List.flatMap_singleton, if_neg (List.cons_ne_nil f [])] at hfeed
  exact hfeed

/-- The usual receiver gets a frame back that the usual framer cut. -/
theorem feed_default {f : Frame} (h : f.payload.length ≤ 61952) :
    feed {} (f.wire {}) = ([f], {}) :=
  feed_wire rfl (by decide) (by decide) (Or.inl rfl) (Frame.fits_default h)

/-- Frames that fit are received as they were sent. What a framer of the same
configuration encodes one after another gives a fresh framer exactly these frames, in
order, and leaves it fresh. Where indices count, the same holds for a framer with any
frame in progress, which the first frame takes the place of; where no frame was sent,
the frame in progress stays. -/
theorem feed_encodeFrames (sender : Framer) (hpos : 1 ≤ sender.config.maxChunk)
    (hmax : sender.config.maxChunk ≤ 65535) (frames : List Frame)
    (hf : ∀ f ∈ frames, f.Fits sender.config) :
    ∃ wire, sender.encodeFrames frames = .ok wire ∧
      feed { config := sender.config } wire = (frames, { config := sender.config }) ∧
      (sender.config.reassembly = .strict → ∀ open?,
        feed { config := sender.config, open? } wire =
          (frames, { config := sender.config, open? := if frames = [] then open? else none })) := by
  refine ⟨_, sender.encodeFrames_eq hpos hmax hf, ?_, ?_⟩
  · rw [feed_fragments (r := { config := sender.config }) rfl hpos hmax (Or.inr rfl) hf]
    simp
  · intro hstrict open?
    exact feed_fragments (r := { config := sender.config, open? }) rfl hpos hmax (Or.inl hstrict) hf

/-- Payloads of delimiters and no payload at all, in chunks of two bytes. -/
theorem feed_encodeFrames_delimiters :
    let sender : Framer := { config := { maxChunk := 2, maxFrameSize := 5 } }
    let frames : List Frame := [⟨1, 2, [0xAB, 0xCD, 0xAB, 0xCD, 0xAB]⟩, ⟨0, 0, []⟩]
    1 ≤ sender.config.maxChunk ∧ sender.config.maxChunk ≤ 65535 ∧
      (∀ f ∈ frames, f.Fits sender.config) ∧
      ∃ wire, sender.encodeFrames frames = .ok wire ∧
        feed { config := sender.config } wire = (frames, { config := sender.config }) ∧
        (sender.config.reassembly = .strict → ∀ open?,
          feed { config := sender.config, open? } wire =
            (frames,
              { config := sender.config, open? := if frames = [] then open? else none })) := by
  intro sender frames
  have hf : ∀ f ∈ frames, f.Fits sender.config := by decide
  exact ⟨by decide, by decide, hf, feed_encodeFrames sender (by decide) (by decide) frames hf⟩

/-- No frames are no bytes, and these do not end a frame in progress. -/
theorem feed_no_frames_keeps_open :
    ({} : Framer).config.reassembly = .strict ∧ ({} : Framer).encodeFrames [] = .ok [] ∧
      (feed { open? := some ⟨0, 1, 1, [0x5A]⟩ } []).2.open? = some ⟨0, 1, 1, [0x5A]⟩ := by
  refine ⟨rfl, rfl, ?_⟩
  rw [feed_eq, List.append_nil, Fragment.scanAll_of_waiting rfl]
  rfl

end Framer
end HarnessLink
