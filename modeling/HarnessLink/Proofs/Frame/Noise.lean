import HarnessLink.Proofs.Frame.RoundTrip

/-!
# Noise that cannot start a fragment

The scan steps over noise byte by byte. It stops only where a delimiter stands in front of a
length that a fragment may have, and at each position it looks at all the bytes that follow, those
of the frame behind the noise as well. If it stops nowhere in the noise, it comes to the frame with
every byte of it, so such noise costs nothing.
-/
namespace HarnessLink

namespace Fragment

/-- No fragment starts with these bytes: the delimiter is not there, or the length behind it is
above the largest chunk. -/
def CannotStart (maxChunk : Nat) (bytes : Bytes) : Prop :=
  [0xAB, 0xCD] <+: bytes →
    ∃ l0 ∈ bytes[2]?, ∃ l1 ∈ bytes[3]?, maxChunk < (Word.ofLe16 l0 l1).toNat

instance (maxChunk : Nat) (bytes : Bytes) : Decidable (CannotStart maxChunk bytes) :=
  inferInstanceAs (Decidable (_ → _))

/-- With a whole header at hand the scan knows that it is none. -/
theorem lead_of_cannotStart {maxChunk : Nat} {bytes : Bytes} (h : CannotStart maxChunk bytes)
    (hlength : headerSize ≤ bytes.length) : lead maxChunk bytes = .noise := by
  unfold headerSize at hlength
  cases front bytes with
  | empty | half | single => simp at hlength
  | other a b tail hab => exact lead_other maxChunk tail hab
  | short tail ht =>
    simp only [List.length_cons] at hlength
    omega
  | header l0 l1 slot kind index flag body =>
    have hlong : maxChunk < (Word.ofLe16 l0 l1).toNat := by
      simpa [CannotStart] using h
    rw [lead_header, if_pos hlong]

/-- What starts no fragment anywhere is stepped over, whatever is behind it. -/
theorem scan_harmless {maxChunk : Nat} {noise bytes : Bytes}
    (h : ∀ i < noise.length, CannotStart maxChunk ((noise ++ bytes).drop i))
    (hlength : headerSize ≤ bytes.length) :
    scan maxChunk (noise ++ bytes) = scan maxChunk bytes := by
  induction noise with
  | nil => rfl
  | cons b rest ih =>
    have hfirst : lead maxChunk (b :: (rest ++ bytes)) = .noise := by
      refine lead_of_cannotStart (h 0 (Nat.succ_pos _)) ?_
      simp only [List.length_cons, List.length_append]
      omega
    have hrest : ∀ i < rest.length, CannotStart maxChunk ((rest ++ bytes).drop i) :=
      fun i hi => h (i + 1) (Nat.succ_lt_succ hi)
    rw [List.cons_append, scan, hfirst]
    exact ih hrest

/-- Noise without a delimiter starts no fragment in front of one. Its last byte may be the first
of a delimiter, because the byte behind it is no second one. -/
theorem cannotStart_of_no_delimiter {maxChunk : Nat} {noise bytes : Bytes}
    (h : ¬ [0xAB, 0xCD] <:+: noise) (hbytes : [0xAB] <+: bytes) {i : Nat} (hi : i < noise.length) :
    CannotStart maxChunk ((noise ++ bytes).drop i) := by
  rw [List.drop_append_of_le_length (Nat.le_of_lt hi)]
  intro hdelimiter
  obtain ⟨tail, rfl⟩ := hbytes
  obtain ⟨later, hlater⟩ := hdelimiter
  match hrest : noise.drop i with
  | [] =>
    have hnothing := congrArg List.length hrest
    simp only [List.length_drop, List.length_nil] at hnothing
    omega
  | [a] => simp [hrest] at hlater
  | a :: b :: rest =>
    simp only [hrest, List.cons_append, List.nil_append, List.cons.injEq] at hlater
    obtain ⟨rfl, rfl, -⟩ := hlater
    refine absurd ?_ h
    rw [← List.take_append_drop i noise, hrest]
    exact ⟨noise.take i, rest, by simp⟩

end Fragment

/-- The link bytes of a frame start with the header of its first fragment. -/
theorem Frame.wire_eq_cons (config : FrameConfig) (f : Frame) :
    ∃ first rest, f.wire config = Fragment.wire first ++ rest := by
  have hfragments : f.fragments config ≠ [] := by
    unfold fragments Fragment.fragments
    cases hchunks : Fragment.chunks config.maxChunk f.payload with
    | nil => exact absurd hchunks (Fragment.chunks_ne_nil _ _)
    | cons chunk rest => cases rest <;> simp [Fragment.number]
  obtain ⟨first, later, hcons⟩ := List.exists_cons_of_ne_nil hfragments
  refine ⟨first, (later.map Fragment.wire).flatten, ?_⟩
  unfold wire
  rw [hcons, List.map_cons, List.flatten_cons]

namespace Framer

/-- Noise that starts no fragment costs nothing. A frame that fits is encoded, and whatever stands
in front of its bytes, if a fragment starts at no position of that, a framer that holds nothing
gives the frame and holds nothing again. This covers all noise without a delimiter, also when it
ends in the first byte of one. -/
theorem feed_harmless_noise (sender : Framer) (hpos : 1 ≤ sender.config.maxChunk)
    (hmax : sender.config.maxChunk ≤ 65535) (f : Frame) (hf : f.Fits sender.config) :
    ∃ encoding, sender.encode f.slot f.kind f.payload = .ok encoding ∧
      (∀ noise : Bytes,
        (∀ i < noise.length, Fragment.CannotStart sender.config.maxChunk
          ((noise ++ encoding.wire).drop i)) →
        feed { config := sender.config } (noise ++ encoding.wire) =
          ([f], { config := sender.config })) ∧
      ∀ noise : Bytes, ¬ [0xAB, 0xCD] <:+: noise →
        feed { config := sender.config } (noise ++ encoding.wire) =
          ([f], { config := sender.config }) := by
  obtain ⟨first, later, hwire⟩ := f.wire_eq_cons sender.config
  have hheader : Fragment.headerSize ≤ (f.wire sender.config).length := by
    rw [hwire, List.length_append, Fragment.length_wire, Fragment.wireSize]
    omega
  have hmark : [0xAB] <+: f.wire sender.config :=
    hwire ▸ ⟨first.wire.tail ++ later, rfl⟩
  have hnoise : ∀ noise : Bytes,
      (∀ i < noise.length, Fragment.CannotStart sender.config.maxChunk
        ((noise ++ f.wire sender.config).drop i)) →
      feed { config := sender.config } (noise ++ f.wire sender.config) =
        ([f], { config := sender.config }) := by
    intro noise h
    have hscan := Fragment.scanAll_congr (Fragment.scan_harmless h hheader)
    rw [← feed_wire (r := { config := sender.config }) rfl hpos hmax (Or.inr rfl) hf]
    simp only [feed_eq, List.nil_append, hscan]
  refine ⟨_, sender.encode_eq hpos hmax hf, hnoise, ?_⟩
  intro noise h
  exact hnoise noise fun i hi => Fragment.cannotStart_of_no_delimiter h hmark hi

/-- The noise is half a delimiter and a whole one, whose length reaches into the frame. -/
theorem feed_harmless_noise_overlapping :
    let sender : Framer := { config := { maxChunk := 2, maxFrameSize := 5 } }
    let f : Frame := ⟨3, 1, [0xAB, 0xCD]⟩
    let noise : Bytes := [0xAB, 0xAB, 0xCD, 0xAB]
    1 ≤ sender.config.maxChunk ∧ sender.config.maxChunk ≤ 65535 ∧ f.Fits sender.config ∧
      ∃ encoding, sender.encode f.slot f.kind f.payload = .ok encoding ∧
        feed { config := sender.config } (noise ++ encoding.wire) =
          ([f], { config := sender.config }) := by
  intro sender f noise
  have hf : f.Fits sender.config := by decide
  obtain ⟨encoding, hencoding, hharmless, -⟩ :=
    feed_harmless_noise sender (by decide) (by decide) f hf
  refine ⟨by decide, by decide, hf, encoding, hencoding, hharmless noise ?_⟩
  have hwire : encoding.wire = [0xAB, 0xCD, 2, 0, 3, 1, 0, 0, 0xAB, 0xCD] := by
    have hone := sender.encode_eq (by decide) (by decide) hf
    rw [hencoding] at hone
    have hchunks : Fragment.chunks 2 [0xAB, 0xCD] = [[0xAB, 0xCD]] :=
      Fragment.chunks_of_le (by decide)
    rw [Except.ok.inj hone]
    simp only [Frame.wire, Frame.fragments, Fragment.fragments, sender, f, hchunks]
    rfl
  rw [hwire]
  decide

end Framer
end HarnessLink
