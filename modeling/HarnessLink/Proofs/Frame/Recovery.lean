import HarnessLink.Proofs.Frame.RoundTrip

/-!
# Back in step after noise

What noise leaves in a framer may look like the front of a fragment and swallow bytes of the
frames behind it, and a frame in progress may be joined by a fragment that was not meant for it.
A false fragment is no longer than a header and a full chunk, though, and where the delimiter's
first byte stands at the front of fragments only, the scan falls back into step at the next of
them. So where indices count, every frame that starts far enough behind the noise arrives.
-/
namespace HarnessLink

namespace Fragment

/-- The first byte of the delimiter stands at the front of the written fragment only. -/
def Marked (f : Fragment) : Prop := 0xAB ∉ f.wire.tail

instance (f : Fragment) : Decidable f.Marked :=
  inferInstanceAs (Decidable (_ ∉ _))

/-! ## How far a false fragment reaches -/

/-- What is incomplete is shorter than a header and a full chunk. -/
theorem length_of_lead_incomplete {maxChunk : Nat} {bytes : Bytes}
    (h : lead maxChunk bytes = .incomplete) : bytes.length < headerSize + maxChunk := by
  cases front bytes with
  | empty => simp only [List.length_nil, headerSize]; omega
  | half => simp only [List.length_singleton, headerSize]; omega
  | single a ha => simp [lead, ha] at h
  | other a b tail hab =>
    rw [lead_other maxChunk tail hab] at h
    cases h
  | short tail ht =>
    simp only [List.length_cons, headerSize]
    omega
  | header l0 l1 slot kind index flag body =>
    rw [lead_header] at h
    split_ifs at h with hlong hbody
    simp only [List.length_cons, headerSize]
    omega

/-- What a fragment takes is no longer than that. -/
theorem taken_of_lead_complete {maxChunk : Nat} {bytes rest : Bytes} {f : Fragment}
    (h : lead maxChunk bytes = .complete f rest) :
    ∃ taken, bytes = taken ++ rest ∧ 0 < taken.length ∧ taken.length ≤ headerSize + maxChunk := by
  cases front bytes with
  | empty => simp [lead] at h
  | half => simp [lead] at h
  | single a ha => simp [lead, ha] at h
  | other a b tail hab =>
    rw [lead_other maxChunk tail hab] at h
    cases h
  | short tail ht =>
    rw [lead_short maxChunk ht] at h
    cases h
  | header l0 l1 slot kind index flag body =>
    rw [lead_header] at h
    split_ifs at h with hlong hbody
    obtain ⟨-, rfl⟩ := Lead.complete.inj h
    refine ⟨0xAB :: 0xCD :: l0 :: l1 :: slot :: kind :: index :: flag ::
      body.take (Word.ofLe16 l0 l1).toNat, ?_, Nat.succ_pos _, ?_⟩
    · simp
    · simp only [List.length_cons, List.length_take, headerSize]
      omega

/-! ## Falling back into step -/

/-- Bytes that cannot start a delimiter are skipped. -/
theorem scan_skipped {skipped : Bytes} (h : 0xAB ∉ skipped) (maxChunk : Nat) (bytes : Bytes) :
    scan maxChunk (skipped ++ bytes) = scan maxChunk bytes := by
  induction skipped with
  | nil => rfl
  | cons b rest ih =>
    obtain ⟨hb, hrest⟩ := List.ne_and_not_mem_of_not_mem_cons h
    have hlead : lead maxChunk (b :: (rest ++ bytes)) = .noise := by
      cases rest ++ bytes with
      | nil => simp [lead, Ne.symm hb]
      | cons c tail => exact lead_other maxChunk tail fun hbc => hb hbc.1.symm
    rw [List.cons_append, scan, hlead]
    exact ih hrest

/-- From anywhere in written fragments, the next fragment is the next delimiter. -/
theorem drop_wire {fragments : List Fragment} (h : ∀ f ∈ fragments, f.Marked) {position : Nat}
    (hposition : position ≤ (fragments.map wire).flatten.length) :
    ∃ skipped later, 0xAB ∉ skipped ∧ later <:+ fragments ∧
      (fragments.map wire).flatten.drop position = skipped ++ (later.map wire).flatten := by
  induction fragments generalizing position with
  | nil => exact ⟨[], [], by simp, List.suffix_refl [], by simp⟩
  | cons f rest ih =>
    obtain ⟨hf, hrest⟩ := List.forall_mem_cons.mp h
    rw [List.map_cons, List.flatten_cons, List.length_append] at hposition
    rw [List.map_cons, List.flatten_cons]
    rcases Nat.eq_zero_or_pos position with rfl | hpos
    · exact ⟨[], f :: rest, by simp, List.suffix_refl _, by simp⟩
    · by_cases hinside : position ≤ f.wire.length
      · refine ⟨f.wire.drop position, rest, ?_, List.suffix_cons f rest,
          List.drop_append_of_le_length hinside⟩
        intro hmem
        rw [← Nat.add_sub_cancel' hpos, ← List.drop_drop, List.drop_one] at hmem
        exact hf (List.mem_of_mem_drop hmem)
      · have hbehind : position - f.wire.length ≤ (rest.map wire).flatten.length := by omega
        obtain ⟨skipped, later, hskipped, hlater, hdrop⟩ := ih hrest hbehind
        refine ⟨skipped, later, hskipped, hlater.trans (List.suffix_cons f rest), ?_⟩
        rw [← hdrop, List.drop_append, List.drop_eq_nil_of_le (by omega), List.nil_append]

/-- Whatever stands in front of written fragments, those that start a header and a full chunk
behind it are found. -/
theorem scanAll_noise {maxChunk : Nat} (hmax : maxChunk ≤ maxLength)
    {first later : List Fragment} (hmarked : ∀ f ∈ first, f.Marked)
    (hpayload : ∀ f ∈ first ++ later, f.payload.length ≤ maxChunk)
    (hfar : headerSize + maxChunk ≤ (first.map wire).flatten.length) (noise : Bytes) :
    ∃ found, (scanAll maxChunk (noise ++ ((first ++ later).map wire).flatten)).1 = found ++ later := by
  induction hlength : noise.length using Nat.strongRecOn generalizing noise with
  | ind n ih =>
  subst hlength
  cases noise with
  | nil => exact ⟨first, by rw [List.nil_append, scanAll_wire hmax hpayload]⟩
  | cons b rest =>
    cases hlead : lead maxChunk (b :: (rest ++ ((first ++ later).map wire).flatten)) with
    | noise =>
      have hscan : scan maxChunk (b :: rest ++ ((first ++ later).map wire).flatten) =
          scan maxChunk (rest ++ ((first ++ later).map wire).flatten) := by
        rw [List.cons_append, scan, hlead]
      rw [scanAll_congr hscan]
      exact ih rest.length (Nat.lt_succ_self _) rest rfl
    | incomplete =>
      have hshort := length_of_lead_incomplete hlead
      simp only [List.map_append, List.flatten_append, List.length_cons, List.length_append] at hshort
      omega
    | complete f after =>
      obtain ⟨taken, htaken, hpos, hlong⟩ := taken_of_lead_complete hlead
      rw [← List.cons_append] at htaken hlead
      rw [scanAll_of_found (scan_of_complete hlead)]
      rcases List.append_eq_append_iff.mp htaken with ⟨swallowed, rfl, hwire⟩ | ⟨left, hleft, rfl⟩
      -- The false fragment ends in what was sent.
      · have hinside : swallowed.length ≤ (first.map wire).flatten.length := by
          simp only [List.length_append, List.length_cons] at hlong
          omega
        obtain ⟨skipped, next, hskipped, hnext, hdrop⟩ := drop_wire hmarked hinside
        have hafter : after = skipped ++ ((next ++ later).map wire).flatten := by
          have hcut := congrArg (List.drop swallowed.length) hwire
          rw [List.drop_left, List.map_append, List.flatten_append,
            List.drop_append_of_le_length hinside, hdrop, List.append_assoc] at hcut
          rw [← hcut, List.map_append, List.flatten_append]
        have hrest : ∀ g ∈ next ++ later, g.payload.length ≤ maxChunk := by
          intro g hg
          apply hpayload g
          exact List.mem_append.mpr ((List.mem_append.mp hg).imp_left fun h => hnext.subset h)
        refine ⟨f :: next, ?_⟩
        rw [hafter, scanAll_congr (scan_skipped hskipped maxChunk _), scanAll_wire hmax hrest]
        rfl
      -- It ends in the noise.
      · have hshort : left.length < (b :: rest).length := by
          rw [hleft, List.length_append]
          omega
        obtain ⟨found, hfound⟩ := ih left.length hshort left rfl
        exact ⟨f :: found, by rw [hfound, List.cons_append]⟩

end Fragment

/-! ## Frames behind noise -/

/-- The link bytes of frames are those of all their fragments. -/
theorem Frame.flatMap_wire (config : FrameConfig) (frames : List Frame) :
    ((frames.flatMap (Frame.fragments config)).map Fragment.wire).flatten =
      frames.flatMap (Frame.wire config) := by
  induction frames with
  | nil => rfl
  | cons f rest ih =>
    rw [List.flatMap_cons, List.map_append, List.flatten_append, ih, List.flatMap_cons]
    rfl

/-- Frames that are sent one behind the other, each with the place of its first byte. -/
def Frame.placed (config : FrameConfig) : Nat → List Frame → List (Nat × Frame)
  | _, [] => []
  | start, f :: rest => (start, f) :: placed config (start + (f.wire config).length) rest

/-- The frames that start at `limit` or behind it. -/
def Frame.startingFrom (config : FrameConfig) (limit : Nat) (frames : List Frame) : List Frame :=
  ((placed config 0 frames).filter fun p => limit ≤ p.1).map Prod.snd

theorem Frame.start_le_of_mem_placed {config : FrameConfig} {start : Nat} {frames : List Frame}
    {p : Nat × Frame} (h : p ∈ placed config start frames) : start ≤ p.1 := by
  induction frames generalizing start with
  | nil => cases h
  | cons f rest ih =>
    rcases List.mem_cons.mp h with rfl | h
    · exact Nat.le_refl start
    · exact Nat.le_trans (Nat.le_add_right ..) (ih h)

theorem Frame.map_snd_placed (config : FrameConfig) (start : Nat) (frames : List Frame) :
    (placed config start frames).map Prod.snd = frames := by
  induction frames generalizing start with
  | nil => rfl
  | cons f rest ih => rw [placed, List.map_cons, ih]

/-- Frames that start at `limit` or behind it are the last ones, behind so many bytes. -/
theorem Frame.split_placed (config : FrameConfig) (limit start : Nat) (frames : List Frame) :
    ∃ before after, frames = before ++ after ∧
      ((placed config start frames).filter fun p => limit ≤ p.1).map Prod.snd = after ∧
      (after ≠ [] → limit ≤ start + (before.flatMap (Frame.wire config)).length) := by
  induction frames generalizing start with
  | nil => exact ⟨[], [], rfl, rfl, fun h => absurd rfl h⟩
  | cons f rest ih =>
    by_cases hstart : limit ≤ start
    · have hall : ∀ p ∈ placed config start (f :: rest), decide (limit ≤ p.1) = true := by
        intro p hp
        exact decide_eq_true (Nat.le_trans hstart (start_le_of_mem_placed hp))
      refine ⟨[], f :: rest, rfl, ?_, fun _ => hstart⟩
      rw [List.filter_eq_self.mpr hall, map_snd_placed]
    · obtain ⟨before, after, hrest, hafter, hlimit⟩ := ih (start + (f.wire config).length)
      refine ⟨f :: before, after, by rw [hrest, List.cons_append], ?_, ?_⟩
      · rw [placed, List.filter_cons_of_neg (by simpa using hstart), hafter]
      · intro hne
        rw [List.flatMap_cons, List.length_append, ← Nat.add_assoc]
        exact hlimit hne

namespace Framer

/-- Bytes that were left over do no harm behind a header and a full chunk. Where indices count,
a framer may hold any bytes and any frame in progress, as noise of any kind leaves them: of
frames that fit, in which the first byte of the delimiter starts fragments only, those that start
behind that many bytes are the last that come out, whole and in their order. -/
theorem feed_behind_noise (r : Framer) (hstrict : r.config.reassembly = .strict)
    (hpos : 1 ≤ r.config.maxChunk) (hmax : r.config.maxChunk ≤ 65535) (frames : List Frame)
    (hf : ∀ f ∈ frames, f.Fits r.config)
    (hmarked : ∀ f ∈ frames.flatMap (Frame.fragments r.config), f.Marked) :
    ∃ wire, r.encodeFrames frames = .ok wire ∧
      Frame.startingFrom r.config (Fragment.headerSize + r.config.maxChunk) frames <:+
        (r.feed wire).1 := by
  refine ⟨_, r.encodeFrames_eq hpos hmax hf, ?_⟩
  obtain ⟨before, after, rfl, hafter, hlimit⟩ :=
    Frame.split_placed r.config (Fragment.headerSize + r.config.maxChunk) 0 frames
  rw [Frame.startingFrom, hafter]
  by_cases hne : after = []
  · rw [hne]
    exact List.nil_suffix
  · have hfar := hlimit hne
    rw [Nat.zero_add, ← Frame.flatMap_wire] at hfar
    rw [List.flatMap_append] at hmarked ⊢
    have hpayload : ∀ f ∈ before.flatMap (Frame.fragments r.config) ++
        after.flatMap (Frame.fragments r.config), f.payload.length ≤ r.config.maxChunk := by
      intro f hmem
      rw [← List.flatMap_append] at hmem
      obtain ⟨frame, -, hfrag⟩ := List.mem_flatMap.mp hmem
      exact Fragment.length_payload_le hpos hfrag
    obtain ⟨found, hfound⟩ := Fragment.scanAll_noise hmax
      (fun f hmem => hmarked f (List.mem_append_left _ hmem)) hpayload hfar r.buffer
    -- The first fragment of the first late frame starts it anew, whatever is in progress.
    rw [feed_eq, hfound, assemble_append,
      assemble_frames hpos (Or.inl hstrict) fun f hmem => hf f (List.mem_append_right _ hmem)]
    exact List.suffix_append _ _

/-- A frame in progress and the front of a header, which takes five of its bytes from the first
of three frames. The second starts behind the ten bytes that may be lost. -/
theorem feed_behind_noise_false_header :
    let config : FrameConfig := { maxChunk := 2, maxFrameSize := 5 }
    let noise : Bytes := [0x7E, 0xAB, 0xCD, 1, 0, 0, 1, 0, 1, 9, 0xAB, 0xCD, 2, 0, 0]
    let r : Framer := { config, buffer := [0xAB, 0xCD, 2, 0, 0], open? := some ⟨0, 1, 1, [9]⟩ }
    let frames : List Frame := [⟨0, 1, [1, 2, 3]⟩, ⟨0, 2, [0xCD, 5]⟩, ⟨1, 0, []⟩]
    (feed { config } noise).2 = r ∧ r.config.reassembly = .strict ∧ 1 ≤ r.config.maxChunk ∧
      r.config.maxChunk ≤ 65535 ∧ (∀ f ∈ frames, f.Fits r.config) ∧
      (∀ f ∈ frames.flatMap (Frame.fragments r.config), f.Marked) ∧
      ∃ wire, r.encodeFrames frames = .ok wire ∧
        [⟨0, 2, [0xCD, 5]⟩, ⟨1, 0, []⟩] <:+ (r.feed wire).1 := by
  intro config noise r frames
  have hleft : (feed { config } noise).2 = r := by
    have hfound : Fragment.scan config.maxChunk noise =
        .found ⟨0, 1, 0, true, [9]⟩ [0xAB, 0xCD, 2, 0, 0] := rfl
    have hwaiting : Fragment.scan config.maxChunk [0xAB, 0xCD, 2, 0, 0] =
        .waiting [0xAB, 0xCD, 2, 0, 0] := rfl
    rw [feed_eq, List.nil_append, Fragment.scanAll_of_found hfound,
      Fragment.scanAll_of_waiting hwaiting]
    rfl
  have hlong : Fragment.chunks 2 [1, 2, 3] = [[1, 2], [3]] := by
    rw [Fragment.chunks_of_lt (by decide) (by decide)]
    exact congrArg _ (Fragment.chunks_of_le (by decide))
  have hshort : Fragment.chunks 2 [0xCD, 5] = [[0xCD, 5]] := Fragment.chunks_of_le (by decide)
  have hempty : Fragment.chunks 2 [] = [[]] := Fragment.chunks_of_le (by decide)
  have hf : ∀ f ∈ frames, f.Fits r.config := by decide
  have hmarked : ∀ f ∈ frames.flatMap (Frame.fragments r.config), f.Marked := by
    simp only [frames, r, config, List.flatMap_cons, List.flatMap_nil, Frame.fragments,
      Fragment.fragments, hlong, hshort, hempty]
    decide
  have hlate : Frame.startingFrom r.config (Fragment.headerSize + r.config.maxChunk) frames =
      [⟨0, 2, [0xCD, 5]⟩, ⟨1, 0, []⟩] := by
    simp only [Frame.startingFrom, Frame.placed, frames, r, config, Frame.wire, Frame.fragments,
      Fragment.fragments, hlong, hshort]
    decide
  have hfeed := feed_behind_noise r rfl (by decide) (by decide) frames hf hmarked
  rw [hlate] at hfeed
  exact ⟨hleft, rfl, by decide, by decide, hf, hmarked, hfeed⟩

end Framer
end HarnessLink
