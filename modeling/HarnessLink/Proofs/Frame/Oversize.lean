import HarnessLink.Proofs.Frame.Encoding
import HarnessLink.Proofs.Frame.RoundTrip
import HarnessLink.Proofs.Frame.Runs

/-!
# Frames that are too long

A fragment that makes a frame longer than the frame size is lost with all that was
joined before it. Where indices count, the rest of the frame is stray and lost as well.
Where fragments are joined as they arrive, the rest starts over: each time one full
chunk more than fits has come, all of it is lost, so what is left behind the last such
cycle comes out as a frame if it fits. Either way nothing stays in progress.
-/
namespace HarnessLink

open Assembly

variable {config : FrameConfig}

/-- A fragment that makes the frame in progress too long is lost with it. -/
theorem Assembly.accept_too_long {open? : Option Assembly} {f : Fragment} {a : Assembly}
    (h : continued config.reassembly open? f = some a)
    (hlong : config.maxFrameSize < a.data.length + f.payload.length) :
    accept config open? f = (none, none) := by
  simp [accept, h, hlong]

/-- When the first chunk is lost with all before it, the others come to a framer with
nothing in progress. -/
theorem assemble_number_lost {open? : Option Assembly} {slot kind : UInt8} {index : Nat}
    {chunk : Bytes} (hlost : ∀ last,
      accept config open? ⟨slot, kind, UInt8.ofNat index, last, chunk⟩ = (none, none))
    (rest : List Bytes) (more : List Fragment) :
    assemble config open? (Fragment.number slot kind index (chunk :: rest) ++ more) =
      assemble config none (Fragment.number slot kind (index + 1) rest ++ more) := by
  by_cases hrest : rest = []
  · simp [hrest, Fragment.number, assemble_cons, hlost]
  · simp [Fragment.number_cons slot kind index chunk hrest, assemble_cons, hlost]

/-- When it is joined to a frame in progress, the others come to that frame. -/
theorem assemble_number_joined {open? : Option Assembly} {slot kind : UInt8} {index : Nat}
    {chunk : Bytes} {a : Assembly}
    (h : continued config.reassembly open? ⟨slot, kind, UInt8.ofNat index, true, chunk⟩ = some a)
    (hfit : a.data.length + chunk.length ≤ config.maxFrameSize) {rest : List Bytes}
    (hrest : rest ≠ []) (more : List Fragment) :
    assemble config open? (Fragment.number slot kind index (chunk :: rest) ++ more) =
      assemble config (some (a.extend ⟨slot, kind, UInt8.ofNat index, true, chunk⟩))
        (Fragment.number slot kind (index + 1) rest ++ more) := by
  simp [Fragment.number_cons slot kind index chunk hrest, assemble_cons,
    accept_of_continued h hfit]

/-! ## Where indices count -/

/-- Fragments behind the first are lost when nothing is in progress. -/
theorem assemble_stray (hstrict : config.reassembly = .strict) {slot kind : UInt8} {index : Nat}
    {chunks : List Bytes} (hpos : 0 < index) (hindex : index + chunks.length ≤ 256)
    (more : List Fragment) :
    assemble config none (Fragment.number slot kind index chunks ++ more) =
      assemble config none more := by
  induction chunks generalizing index with
  | nil => rfl
  | cons chunk rest ih =>
    rw [List.length_cons] at hindex
    have hne : UInt8.ofNat index ≠ 0 := by
      intro hzero
      have hnat := congrArg UInt8.toNat hzero
      simp only [UInt8.toNat_ofNat', UInt8.toNat_zero] at hnat
      omega
    rw [assemble_number_lost fun last => accept_stray hstrict hne]
    exact ih (Nat.succ_pos index) (by omega)

/-- A frame that becomes too long is lost, wherever in it that happens. -/
theorem assemble_number_too_long (hstrict : config.reassembly = .strict) {open? : Option Assembly}
    {slot kind : UInt8} {index : Nat} {a : Assembly}
    (h : Resumes config.reassembly open? slot kind index a) {chunks : List Bytes}
    (hindex : index + chunks.length ≤ 256) (hsize : a.data.length ≤ config.maxFrameSize)
    (hlong : config.maxFrameSize < a.data.length + chunks.flatten.length) (more : List Fragment) :
    assemble config open? (Fragment.number slot kind index chunks ++ more) =
      assemble config none more := by
  induction chunks generalizing open? index a with
  | nil =>
    simp at hlong
    omega
  | cons chunk rest ih =>
    rw [List.length_cons] at hindex
    rw [List.flatten_cons, List.length_append] at hlong
    by_cases hchunk : config.maxFrameSize < a.data.length + chunk.length
    · rw [assemble_number_lost fun last => accept_too_long (h.continued_eq last chunk) hchunk]
      exact assemble_stray hstrict (Nat.succ_pos index) (by omega) more
    · have hrest : rest ≠ [] := by
        rintro rfl
        simp at hlong
        omega
      have hpos := List.length_pos_iff.mpr hrest
      have hdata : (a.extend ⟨slot, kind, UInt8.ofNat index, true, chunk⟩).data.length =
          a.data.length + chunk.length := List.length_append
      rw [assemble_number_joined (h.continued_eq true chunk) (by omega) hrest]
      exact ih (h.next _ (by omega)) (by omega) (by omega) (by omega)

/-! ## Where fragments are joined as they arrive -/

/-- What comes out of a payload that may be too long when its chunks are joined as they
arrive: what is left of it behind the chunks that are lost together, if that fits. -/
def FrameConfig.remnant? (config : FrameConfig) (payload : Bytes) : Option Bytes :=
  let cycle := (config.maxFrameSize / config.maxChunk + 1) * config.maxChunk
  let left := payload.length % cycle
  if 0 < left ∧ left ≤ config.maxFrameSize then some (payload.drop (payload.length - left))
  else none

/-- One more full chunk fits exactly if there are not yet as many as can. -/
theorem FrameConfig.full_chunk_fits_iff (hpos : 1 ≤ config.maxChunk) (full : Nat) :
    full * config.maxChunk + config.maxChunk ≤ config.maxFrameSize ↔
      full < config.maxFrameSize / config.maxChunk := by
  rw [← Nat.succ_mul, ← Nat.le_div_iff_mul_le hpos]
  exact Nat.succ_le_iff

theorem FrameConfig.maxFrameSize_lt_cycle (hpos : 1 ≤ config.maxChunk) :
    config.maxFrameSize < (config.maxFrameSize / config.maxChunk + 1) * config.maxChunk := by
  rw [Nat.mul_comm]
  exact Nat.lt_mul_div_succ config.maxFrameSize hpos

/-- A payload that fits is left whole. -/
theorem FrameConfig.remnant?_of_le (hpos : 1 ≤ config.maxChunk) {payload : Bytes}
    (hne : payload ≠ []) (hsize : payload.length ≤ config.maxFrameSize) :
    config.remnant? payload = some payload := by
  have hcycle := FrameConfig.maxFrameSize_lt_cycle hpos
  have hlength := List.length_pos_iff.mpr hne
  simp only [remnant?]
  rw [Nat.mod_eq_of_lt (by omega), if_pos ⟨hlength, hsize⟩]
  simp

/-- Nothing is left of a payload that its last chunk makes too long. -/
theorem FrameConfig.remnant?_of_lt {payload : Bytes}
    (hsize : config.maxFrameSize < payload.length)
    (hcycle : payload.length ≤ (config.maxFrameSize / config.maxChunk + 1) * config.maxChunk) :
    config.remnant? payload = none := by
  simp only [remnant?]
  rw [if_neg]
  rcases Nat.eq_or_lt_of_le hcycle with heq | hlt
  · simp [heq]
  · rw [Nat.mod_eq_of_lt hlt]
    omega

/-- Chunks that are lost together make no difference to what is left. -/
theorem FrameConfig.remnant?_append {lost payload : Bytes}
    (hlost : lost.length = (config.maxFrameSize / config.maxChunk + 1) * config.maxChunk) :
    config.remnant? (lost ++ payload) = config.remnant? payload := by
  have hmod := Nat.mod_le payload.length lost.length
  have hlength : (lost ++ payload).length - payload.length % lost.length =
      lost.length + (payload.length - payload.length % lost.length) := by
    rw [List.length_append]
    omega
  have hdrop : (lost ++ payload).drop (lost.length + (payload.length - payload.length % lost.length)) =
      payload.drop (payload.length - payload.length % lost.length) := by
    simp [List.drop_append]
  simp only [remnant?, ← hlost]
  rw [List.length_append, Nat.add_mod_left, ← List.length_append, hlength, hdrop]

/-- Any fragment of this slot and kind goes on where `data` ends. -/
structure Assembly.Gathers (config : FrameConfig) (open? : Option Assembly) (slot kind : UInt8)
    (data : Bytes) : Prop where
  continued_eq : ∀ index more payload, ∃ received,
    continued config.reassembly open? ⟨slot, kind, index, more, payload⟩ =
      some ⟨slot, kind, received, data⟩

theorem Assembly.gathers_none (hpermissive : config.reassembly = .permissive) (slot kind : UInt8) :
    Gathers config none slot kind [] := by
  constructor
  intro index more payload
  exact ⟨0, by rw [hpermissive]; rfl⟩

theorem Assembly.gathers_some (hpermissive : config.reassembly = .permissive) (a : Assembly) :
    Gathers config (some a) a.slot a.kind a.data := by
  constructor
  intro index more payload
  exact ⟨a.received, by rw [hpermissive]; rfl⟩

/-- With `full` chunks in progress the rest of a payload leaves what is left of both. -/
theorem assemble_number_permissive (hpermissive : config.reassembly = .permissive)
    (hpos : 1 ≤ config.maxChunk) {slot kind : UInt8} {payload : Bytes} (hne : payload ≠ [])
    {index full : Nat} {open? : Option Assembly} {data : Bytes}
    (h : Gathers config open? slot kind data) (hdata : data.length = full * config.maxChunk)
    (hfull : full ≤ config.maxFrameSize / config.maxChunk) (more : List Fragment) :
    assemble config open?
        (Fragment.number slot kind index (Fragment.chunks config.maxChunk payload) ++ more) =
      (((config.remnant? (data ++ payload)).map (Frame.mk slot kind)).toList ++
          (assemble config none more).1,
        (assemble config none more).2) := by
  induction payload using Fragment.chunks.induct config.maxChunk generalizing index full open? data with
  | case1 payload hle =>
    have hsize : payload.length ≤ config.maxChunk := by omega
    have hlength : (data ++ payload).length = data.length + payload.length := List.length_append
    rw [Fragment.chunks_of_le hsize]
    obtain ⟨received, hcontinued⟩ := h.continued_eq (UInt8.ofNat index) false payload
    by_cases hlong : config.maxFrameSize < data.length + payload.length
    · have hmost := Nat.mul_le_mul_right config.maxChunk hfull
      have hnone : config.remnant? (data ++ payload) = none :=
        FrameConfig.remnant?_of_lt (by omega) (by rw [Nat.succ_mul]; omega)
      simp [Fragment.number, assemble_cons, accept_too_long hcontinued hlong, hnone]
    · have hsome : config.remnant? (data ++ payload) = some (data ++ payload) :=
        FrameConfig.remnant?_of_le hpos (by simp [hne]) (by omega)
      have hlast := accept_of_continued hcontinued (Nat.not_lt.mp hlong)
      simp [Fragment.number, assemble_cons, hlast, hsome, Assembly.extend, Assembly.frame]
  | case2 payload hlt ih =>
    have hsize : config.maxChunk < payload.length := by omega
    have hrest : payload.drop config.maxChunk ≠ [] := by
      rw [← List.length_pos_iff, List.length_drop]
      omega
    have hchunk : (payload.take config.maxChunk).length = config.maxChunk := by
      rw [List.length_take]
      omega
    have hdata' : (data ++ payload.take config.maxChunk).length =
        (full + 1) * config.maxChunk := by
      rw [List.length_append, hdata, hchunk, Nat.succ_mul]
    have hwhole : data ++ payload =
        (data ++ payload.take config.maxChunk) ++ payload.drop config.maxChunk := by
      rw [List.append_assoc, List.take_append_drop]
    have hroom := FrameConfig.full_chunk_fits_iff hpos full
    rw [Fragment.chunks_of_lt hpos hsize, hwhole]
    by_cases hmore : full < config.maxFrameSize / config.maxChunk
    · obtain ⟨received, hcontinued⟩ :=
        h.continued_eq (UInt8.ofNat index) true (payload.take config.maxChunk)
      rw [assemble_number_joined hcontinued (by simp only; omega) (Fragment.chunks_ne_nil _ _)]
      exact ih hrest (gathers_some hpermissive _) hdata' hmore
    · have hlost : ∀ last, accept config open? ⟨slot, kind, UInt8.ofNat index, last,
          payload.take config.maxChunk⟩ = (none, none) := by
        intro last
        obtain ⟨received, hcontinued⟩ :=
          h.continued_eq (UInt8.ofNat index) last (payload.take config.maxChunk)
        exact accept_too_long hcontinued (by simp only; omega)
      have hfull' : full = config.maxFrameSize / config.maxChunk := by omega
      rw [assemble_number_lost hlost, FrameConfig.remnant?_append (by rw [hdata', hfull'])]
      exact ih hrest (gathers_none hpermissive slot kind) (by simp) (Nat.zero_le _)

/-! ## The whole frame -/

/-- The frame that comes out of one that is too long. -/
def Frame.remnant? (config : FrameConfig) (f : Frame) : Option Frame :=
  match config.reassembly with
  | .strict => none
  | .permissive => (config.remnant? f.payload).map (Frame.mk f.slot f.kind)

/-- Joining the fragments of a frame that is too long gives its remnant, and leaves
nothing in progress. -/
theorem assemble_fragments_too_long (hpos : 1 ≤ config.maxChunk) {f : Frame}
    (hcount : Fragment.countFor config.maxChunk f.payload.length ≤ Fragment.maxCount)
    (hlong : config.maxFrameSize < f.payload.length) (more : List Fragment) :
    assemble config none (f.fragments config ++ more) =
      ((f.remnant? config).toList ++ (assemble config none more).1,
        (assemble config none more).2) := by
  have hflatten := Fragment.flatten_chunks config.maxChunk f.payload
  rw [Frame.fragments, Fragment.fragments]
  cases hpolicy : config.reassembly with
  | strict =>
    have hcount' : 0 + (Fragment.chunks config.maxChunk f.payload).length ≤ 256 := by
      rw [Nat.zero_add, Fragment.length_chunks hpos]
      exact hcount
    have hresumes : Resumes config.reassembly none f.slot f.kind 0 ⟨f.slot, f.kind, 0, []⟩ :=
      resumes_start (Or.inr rfl) f.slot f.kind
    rw [assemble_number_too_long hpolicy hresumes hcount' (by simp)
      (by rw [hflatten]; simpa using hlong)]
    simp [Frame.remnant?, hpolicy]
  | permissive =>
    have hne : f.payload ≠ [] := by
      rw [← List.length_pos_iff]
      omega
    rw [assemble_number_permissive hpolicy hpos hne (gathers_none hpolicy f.slot f.kind)
      (by simp) (Nat.zero_le _)]
    simp [Frame.remnant?, hpolicy]

namespace Framer

/-- A fresh framer joins the fragments that were written for it. -/
theorem feed_map_wire (hmax : config.maxChunk ≤ Fragment.maxLength) {fragments : List Fragment}
    (hf : ∀ f ∈ fragments, f.payload.length ≤ config.maxChunk) :
    feed { config } (fragments.map Fragment.wire).flatten =
      ((assemble config none fragments).1,
        { config, open? := (assemble config none fragments).2 }) := by
  rw [feed_eq, List.nil_append, Fragment.scanAll_wire hmax hf]

/-- One frame that is too long, on its own. -/
theorem feed_wire_too_long (hpos : 1 ≤ config.maxChunk) (hmax : config.maxChunk ≤ 65535)
    {f : Frame} (hcount : Fragment.countFor config.maxChunk f.payload.length ≤ Fragment.maxCount)
    (hlong : config.maxFrameSize < f.payload.length) :
    feed { config } (f.wire config) = ((f.remnant? config).toList, { config }) := by
  have hpayload : ∀ g ∈ f.fragments config, g.payload.length ≤ config.maxChunk :=
    fun g hg => Fragment.length_payload_le hpos hg
  have hjoined := assemble_fragments_too_long hpos hcount hlong []
  rw [List.append_nil] at hjoined
  rw [Frame.wire, feed_map_wire hmax hpayload, hjoined]
  simp [assemble]

/-- A frame that is too long is lost whole where indices count. Where fragments are joined
as they arrive, what is left of it behind the chunks that are lost together comes out if
it fits. Either way the framer is fresh again, and takes a following frame that fits. -/
theorem feed_too_long (sender : Framer) {f : Frame} {encoding : Fragment.Encoding}
    (hencode : sender.encode f.slot f.kind f.payload = .ok encoding)
    (hlong : sender.config.maxFrameSize < f.payload.length) :
    (sender.config.reassembly = .strict →
        feed { config := sender.config } encoding.wire = ([], { config := sender.config })) ∧
      feed { config := sender.config } encoding.wire =
        ((f.remnant? sender.config).toList, { config := sender.config }) ∧
      ∀ next : Frame, next.Fits sender.config →
        ∃ encoding', sender.encode next.slot next.kind next.payload = .ok encoding' ∧
          feed { config := sender.config } (encoding.wire ++ encoding'.wire) =
            ((f.remnant? sender.config).toList ++ [next], { config := sender.config }) := by
  obtain ⟨hpos, hmax, hcount⟩ := Fragment.bounds_of_encodeAll hencode
  have hwire : encoding.wire = f.wire sender.config := by
    have hf := Fragment.encodeAll_eq f.slot f.kind hpos hmax hcount
    rw [Framer.encode, hf] at hencode
    rw [← Except.ok.inj hencode]
    rfl
  have hfirst := feed_wire_too_long hpos hmax hcount hlong
  rw [hwire]
  refine ⟨?_, hfirst, ?_⟩
  · intro hstrict
    simp [hfirst, Frame.remnant?, hstrict]
  · intro next hnext
    refine ⟨_, sender.encode_eq hpos hmax hnext, ?_⟩
    have hsecond := feed_wire (r := { config := sender.config }) rfl hpos hmax (Or.inr rfl) hnext
    rw [feed_append, hfirst]
    simp only [hsecond]

/-- Five bytes in chunks of two, of which three may be in a frame, and a byte behind them. -/
theorem feed_too_long_strict :
    let sender : Framer := { config := { maxChunk := 2, maxFrameSize := 3 } }
    ∃ encoding encoding', sender.encode 0 1 [1, 2, 3, 4, 5] = .ok encoding ∧
      sender.config.maxFrameSize < [1, 2, 3, 4, 5].length ∧
      sender.encode 7 2 [0xAB] = .ok encoding' ∧
      feed { config := sender.config } encoding.wire = ([], { config := sender.config }) ∧
      feed { config := sender.config } (encoding.wire ++ encoding'.wire) =
        ([⟨7, 2, [0xAB]⟩], { config := sender.config }) := by
  intro sender
  have hencode : sender.encode 0 1 [1, 2, 3, 4, 5] = .ok _ :=
    Fragment.encodeAll_eq 0 1 (by decide) (by decide) (by decide)
  obtain ⟨hstrict, -, hnext⟩ :=
    sender.feed_too_long (f := ⟨0, 1, [1, 2, 3, 4, 5]⟩) hencode (by decide)
  obtain ⟨encoding', hencode', hfeed⟩ := hnext ⟨7, 2, [0xAB]⟩ (by decide)
  exact ⟨_, encoding', hencode, by decide, hencode', hstrict rfl, hfeed⟩

/-- Where fragments are joined as they arrive, the last of these bytes comes out. -/
theorem feed_too_long_permissive :
    let sender : Framer :=
      { config := { maxChunk := 2, maxFrameSize := 3, reassembly := .permissive } }
    ∃ encoding, sender.encode 0 1 [1, 2, 3, 4, 5] = .ok encoding ∧
      sender.config.maxFrameSize < [1, 2, 3, 4, 5].length ∧
      (feed { config := sender.config } encoding.wire).1 = [⟨0, 1, [5]⟩] := by
  intro sender
  have hencode : sender.encode 0 1 [1, 2, 3, 4, 5] = .ok _ :=
    Fragment.encodeAll_eq 0 1 (by decide) (by decide) (by decide)
  have hfeed : feed { config := sender.config }
      (Frame.wire sender.config ⟨0, 1, [1, 2, 3, 4, 5]⟩) = _ :=
    feed_wire_too_long (by decide) (by decide) (by decide) (by decide)
  have hremnant : Frame.remnant? sender.config ⟨0, 1, [1, 2, 3, 4, 5]⟩ = some ⟨0, 1, [5]⟩ := by
    decide
  rw [hremnant] at hfeed
  exact ⟨_, hencode, by decide, congrArg Prod.fst hfeed⟩

end Framer
end HarnessLink
