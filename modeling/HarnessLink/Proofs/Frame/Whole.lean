import HarnessLink.Proofs.Frame.Oversize

/-!
# Frames come whole

The link bytes of a frame make it only once the last of them has come: of their fragments
only the last completes a frame, and a fragment that is cut is not found. So where a frame
came out of the front of its bytes, nothing is left behind the front.
-/
namespace HarnessLink

namespace Fragment

/-- Every fragment but the last announces another. -/
theorem more_of_dropLast_number {slot kind : UInt8} {index : Nat} {chunks : List Bytes} :
    ∀ f ∈ (number slot kind index chunks).dropLast, f.more = true := by
  induction index, chunks using number.induct with
  | case1 index => simp [number]
  | case2 index chunk => simp [number]
  | case3 index chunk rest hrest ih =>
    have hne : number slot kind (index + 1) rest ≠ [] := by
      intro hnil
      have hlength := congrArg List.length (payload_number slot kind (index + 1) rest)
      rw [hnil] at hlength
      exact hrest (List.length_eq_zero_iff.mp hlength.symm)
    rw [number_cons slot kind index chunk hrest, List.dropLast_cons_of_ne_nil hne]
    intro f hf
    obtain rfl | hf := List.mem_cons.mp hf
    · rfl
    · exact ih f hf

/-- The front of a written fragment holds none. -/
theorem scanAll_cut {maxChunk : Nat} (hmax : maxChunk ≤ maxLength) {f : Fragment}
    (hf : f.payload.length ≤ maxChunk) {front cut : Bytes} (h : f.wire = front ++ cut)
    (hcut : cut ≠ []) : (scanAll maxChunk front).1 = [] := by
  cases hscan : scan maxChunk front with
  | waiting kept => rw [scanAll_of_waiting hscan]
  | found g rest =>
    have hfound := scan_of_complete (lead_wire hmax hf [])
    rw [List.append_nil, h, scan_found_append cut hscan] at hfound
    obtain ⟨-, hrest⟩ := Scan.found.inj hfound
    exact absurd (List.append_eq_nil_iff.mp hrest).2 hcut

end Fragment

variable {config : FrameConfig}

/-- A fragment that announces another completes no frame. -/
theorem Assembly.accept_more (open? : Option Assembly) {f : Fragment} (h : f.more = true) :
    (accept config open? f).2 = none := by
  rw [accept]
  split
  · rfl
  · simp only [h, if_true]
    split <;> rfl

/-- The front of written fragments completes no frame if only the last of them could. -/
theorem assemble_front (hmax : config.maxChunk ≤ Fragment.maxLength) {fragments : List Fragment}
    (hmore : ∀ f ∈ fragments.dropLast, f.more = true)
    (hpayload : ∀ f ∈ fragments, f.payload.length ≤ config.maxChunk) {front rest : Bytes}
    (h : (fragments.map Fragment.wire).flatten = front ++ rest) (hrest : rest ≠ [])
    (open? : Option Assembly) :
    (assemble config open? (Fragment.scanAll config.maxChunk front).1).1 = [] := by
  induction fragments generalizing front open? with
  | nil => exact absurd (List.append_eq_nil_iff.mp h.symm).2 hrest
  | cons f later ih =>
    obtain ⟨hf, hlater⟩ := List.forall_mem_cons.mp hpayload
    rw [List.map_cons, List.flatten_cons] at h
    obtain ⟨behind, rfl, hbehind⟩ | ⟨cut, hwire, hcut⟩ :
        (∃ behind, front = f.wire ++ behind ∧ (later.map Fragment.wire).flatten = behind ++ rest) ∨
          ∃ cut, f.wire = front ++ cut ∧ cut ≠ [] := by
      rcases List.append_eq_append_iff.mp h with hwhole | ⟨_ | ⟨b, cut⟩, hwire, hbehind⟩
      · exact Or.inl hwhole
      · exact Or.inl ⟨[], by simpa using hwire.symm, hbehind.symm⟩
      · exact Or.inr ⟨b :: cut, hwire, List.cons_ne_nil b cut⟩
    · have hne : later ≠ [] := by
        rintro rfl
        exact hrest (List.append_eq_nil_iff.mp hbehind.symm).2
      rw [List.dropLast_cons_of_ne_nil hne] at hmore
      obtain ⟨hfirst, hmore⟩ := List.forall_mem_cons.mp hmore
      have hscan := Fragment.scan_of_complete (Fragment.lead_wire hmax hf behind)
      rw [Fragment.scanAll_of_found hscan, assemble_cons, Assembly.accept_more open? hfirst,
        ih hmore hlater hbehind]
      rfl
    · rw [Fragment.scanAll_cut hmax hf hwire hcut]
      rfl

namespace Framer

/-- What the usual framer encodes is written whole, and is not too long for it. -/
theorem encode_default {f : Frame} {encoding : Fragment.Encoding}
    (h : encode {} f.slot f.kind f.payload = .ok encoding) :
    f.Fits {} ∧ encoding.wire = f.wire {} := by
  obtain ⟨-, -, hcount⟩ := Fragment.bounds_of_encodeAll h
  have hfits : f.Fits {} := by
    apply Frame.fits_default
    have hchunks : max 1 ((f.payload.length + 242 - 1) / 242) ≤ 256 := hcount
    omega
  rw [encode_eq {} (by decide) (by decide) hfits] at h
  exact ⟨hfits, (congrArg Fragment.Encoding.wire (Except.ok.inj h)).symm⟩

/-- A framer at rest gets back what the usual framer encodes, and is at rest again. -/
theorem feed_encode {f : Frame} {encoding : Fragment.Encoding}
    (h : encode {} f.slot f.kind f.payload = .ok encoding) : feed {} encoding.wire = ([f], {}) := by
  obtain ⟨hfits, hwire⟩ := encode_default h
  rw [hwire]
  exact feed_wire rfl (by decide) (by decide) (Or.inl rfl) hfits

/-- The frame comes out with the last byte. -/
theorem feed_front {f : Frame} {encoding : Fragment.Encoding}
    (h : encode {} f.slot f.kind f.payload = .ok encoding) {front rest : Bytes}
    (hsplit : encoding.wire = front ++ rest) (hfound : (feed {} front).1 ≠ []) : rest = [] := by
  obtain ⟨-, hwire⟩ := encode_default h
  rw [hwire] at hsplit
  by_cases hrest : rest = []
  · exact hrest
  apply absurd _ hfound
  exact assemble_front (by decide) Fragment.more_of_dropLast_number
    (fun g hg => Fragment.length_payload_le (by decide) hg) hsplit hrest none

end Framer

end HarnessLink
