import HarnessLink.Proofs.Frame.Splitting
import Mathlib.Algebra.Order.Floor.Div

/-!
# What a payload is written as

Chunk `i` of a payload is what stands in it from `i * size` on, up to `size` bytes, and
fragment `i` carries it with the index `i`. So the count of fragments is the rounded
quotient of the lengths, every chunk but the last is full, and the buffer grows by the
payload and one header for each fragment. A payload that cannot be cut leaves the buffer
as it was.
-/
namespace HarnessLink.Fragment

/-- A length takes as many fragments as the chunk goes into it, rounded up, and at least
one. -/
theorem countFor_eq_ceilDiv (size length : Nat) : countFor size length = max 1 (length ⌈/⌉ size) := by
  rw [countFor, Nat.ceilDiv_eq_add_pred_div]

/-- Chunk `i` is a slice of the payload. -/
theorem getElem?_chunks {size : Nat} (hs : 0 < size) (payload : Bytes) {i : Nat}
    (hi : i < countFor size payload.length) :
    (chunks size payload)[i]? = some ((payload.drop (i * size)).take size) := by
  induction payload using chunks.induct size generalizing i with
  | case1 payload h =>
    have hle : payload.length ≤ size := by omega
    rw [countFor_of_le hs hle] at hi
    obtain rfl : i = 0 := by omega
    simp [chunks_of_le hle, List.take_of_length_le hle]
  | case2 payload h ih =>
    have hlt : size < payload.length := by omega
    rw [chunks_of_lt hs hlt]
    cases i with
    | zero => simp
    | succ i =>
      rw [countFor_of_lt hs hlt] at hi
      have hrest : i < countFor size (payload.drop size).length := by
        rw [List.length_drop]
        omega
      rw [List.getElem?_cons_succ, ih hrest, List.drop_drop, Nat.succ_mul, Nat.add_comm size]

/-- Fragment `i` carries chunk `i`, and has a follower unless the chunk is the last. -/
theorem getElem?_number (slot kind : UInt8) (index : Nat) (chunks : List Bytes) (i : Nat) :
    (number slot kind index chunks)[i]? = chunks[i]?.map fun chunk =>
      ⟨slot, kind, UInt8.ofNat (index + i), decide (i + 1 < chunks.length), chunk⟩ := by
  induction index, chunks using number.induct generalizing i with
  | case1 index => simp [number]
  | case2 index chunk => cases i <;> simp [number]
  | case3 index chunk rest hrest ih =>
    rw [number_cons slot kind index chunk hrest]
    cases i with
    | zero =>
      have hpos : 0 < rest.length := List.length_pos_iff.mpr hrest
      simp [hpos]
    | succ i =>
      have hindex : index + 1 + i = index + (i + 1) := by omega
      simp [ih, hindex]

/-- A chunk that another one follows is full. -/
theorem length_slice {size : Nat} (hs : 0 < size) {payload : Bytes} {i : Nat}
    (hi : i + 1 < countFor size payload.length) :
    ((payload.drop (i * size)).take size).length = size := by
  have hnext : ¬ payload.length ≤ size * (i + 1) := by
    rw [← smul_eq_mul, ← ceilDiv_le_iff_le_smul hs]
    rw [countFor_eq_ceilDiv] at hi
    omega
  rw [Nat.mul_succ, Nat.mul_comm] at hnext
  simp only [List.length_take, List.length_drop]
  omega

/-- A header for each fragment and the payload behind them. -/
theorem length_flatten_wire (fragments : List Fragment) :
    (fragments.map wire).flatten.length =
      (fragments.map Fragment.payload).flatten.length + 8 * fragments.length := by
  induction fragments with
  | nil => simp
  | cons f rest ih =>
    simp only [List.map_cons, List.flatten_cons, List.length_append, List.length_cons, ih,
      length_wire, wireSize, headerSize]
    omega

/-- Fragments that a payload is cut into: each tells its place, all but the last are
full, and together they carry the payload. -/
structure Cuts (slot kind : UInt8) (payload : Bytes) (maxChunk : Nat) (fragments : List Fragment) :
    Prop where
  count : fragments.length = max 1 (payload.length ⌈/⌉ maxChunk)
  place : ∀ i (hi : i < fragments.length), fragments[i].slot = slot ∧ fragments[i].kind = kind ∧
    fragments[i].index.toNat = i ∧ (fragments[i].more = true ↔ i + 1 < fragments.length)
  full : ∀ i (hi : i + 1 < fragments.length), fragments[i].payload.length = maxChunk
  fits : ∀ f ∈ fragments, f.payload.length ≤ maxChunk
  whole : (fragments.map Fragment.payload).flatten = payload

theorem length_fragments (slot kind : UInt8) (payload : Bytes) {maxChunk : Nat}
    (hpos : 1 ≤ maxChunk) :
    (fragments slot kind payload maxChunk).length = countFor maxChunk payload.length := by
  rw [← length_chunks hpos, ← payload_number slot kind 0 (chunks maxChunk payload),
    List.length_map]
  rfl

/-- Fragment `i` carries slice `i`. -/
theorem getElem_fragments (slot kind : UInt8) {payload : Bytes} {maxChunk : Nat}
    (hpos : 1 ≤ maxChunk) {i : Nat} (hi : i < (fragments slot kind payload maxChunk).length) :
    (fragments slot kind payload maxChunk)[i] = ⟨slot, kind, UInt8.ofNat i,
      decide (i + 1 < (fragments slot kind payload maxChunk).length),
      (payload.drop (i * maxChunk)).take maxChunk⟩ := by
  have hchunk : i < countFor maxChunk payload.length := by
    rwa [length_fragments slot kind payload hpos] at hi
  apply Option.some.inj
  rw [← List.getElem?_eq_getElem, length_fragments slot kind payload hpos, fragments,
    getElem?_number, getElem?_chunks hpos payload hchunk, length_chunks hpos, Nat.zero_add]
  rfl

theorem cuts_fragments (slot kind : UInt8) {payload : Bytes} {maxChunk : Nat}
    (hpos : 1 ≤ maxChunk) (hcount : countFor maxChunk payload.length ≤ maxCount) :
    Cuts slot kind payload maxChunk (fragments slot kind payload maxChunk) := by
  have hlength := length_fragments slot kind payload hpos
  constructor
  case count => rw [hlength, countFor_eq_ceilDiv]
  case place =>
    intro i hi
    -- No index wraps around: there are no more fragments than a byte can count.
    have hindex : (UInt8.ofNat i).toNat = i := by
      simp only [UInt8.toNat_ofNat', maxCount] at hcount ⊢
      omega
    simp [getElem_fragments slot kind hpos hi, hindex]
  case full =>
    intro i hi
    rw [getElem_fragments slot kind hpos (by omega)]
    exact length_slice hpos (by omega)
  case fits => exact fun f hf => length_payload_le hpos hf
  case whole => rw [fragments, payload_number, flatten_chunks]

/-- Why a payload is not written. -/
inductive Refused (payload : Bytes) (maxChunk : Nat) : FrameError → Prop where
  | chunkSize (h : maxChunk = 0 ∨ 65535 < maxChunk) :
    Refused payload maxChunk (.invalidChunkSize maxChunk)
  | count (hpos : 1 ≤ maxChunk) (hmax : maxChunk ≤ 65535)
    (h : 256 < max 1 (payload.length ⌈/⌉ maxChunk)) :
    Refused payload maxChunk (.tooManyFragments (max 1 (payload.length ⌈/⌉ maxChunk)))

/-- A payload that can be cut is written as what it is cut into, and any other is refused. -/
theorem writeAll_cases (slot kind : UInt8) (payload : Bytes) (maxChunk : Nat) (buffer : Bytes) :
    (∃ e, Refused payload maxChunk e ∧
        writeAll slot kind payload maxChunk buffer = (.error e, buffer)) ∨
      (1 ≤ maxChunk ∧ maxChunk ≤ 65535 ∧ max 1 (payload.length ⌈/⌉ maxChunk) ≤ 256) ∧
        ∃ fragments, Cuts slot kind payload maxChunk fragments ∧
          writeAll slot kind payload maxChunk buffer =
            (.ok fragments.length, buffer ++ (fragments.map wire).flatten) := by
  have hcountFor := countFor_eq_ceilDiv maxChunk payload.length
  by_cases hchunk : maxChunk = 0 ∨ maxLength < maxChunk
  · left
    refine ⟨_, .chunkSize hchunk, ?_⟩
    simp [writeAll, split, hchunk]
  · have hpos : 1 ≤ maxChunk := by omega
    have hmax : maxChunk ≤ maxLength := by omega
    by_cases hcount : maxCount < max 1 (payload.length ⌈/⌉ maxChunk)
    · left
      refine ⟨_, .count hpos hmax hcount, ?_⟩
      simp only [writeAll, split, hcountFor, if_neg hchunk, if_pos hcount]
    · right
      have hle : countFor maxChunk payload.length ≤ maxCount := by omega
      refine ⟨⟨hpos, hmax, by rwa [← hcountFor]⟩, fragments slot kind payload maxChunk,
        cuts_fragments slot kind hpos hle, ?_⟩
      exact writeAll_eq slot kind hpos hmax hle buffer

/-- Only a payload that can be cut is encoded. -/
theorem bounds_of_encodeAll {slot kind : UInt8} {payload : Bytes} {maxChunk : Nat}
    {encoding : Encoding} (h : encodeAll slot kind payload maxChunk = .ok encoding) :
    1 ≤ maxChunk ∧ maxChunk ≤ maxLength ∧ countFor maxChunk payload.length ≤ maxCount := by
  obtain ⟨e, -, hwritten⟩ | ⟨hbounds, -⟩ := writeAll_cases slot kind payload maxChunk []
  · rw [encodeAll, hwritten] at h
    cases h
  · rwa [countFor_eq_ceilDiv]

/-- A payload is written whole or not at all. It is refused for its chunk size or for the
number of fragments only, which leaves the buffer as it was. Otherwise the buffer grows by
the fragments that the payload is cut into, in which a scan finds them again. -/
theorem writeAll_whole_or_nothing (slot kind : UInt8) (payload : Bytes) (maxChunk : Nat)
    (buffer : Bytes) :
    let needed := max 1 (payload.length ⌈/⌉ maxChunk)
    let written := writeAll slot kind payload maxChunk buffer
    ((∃ e, written.1 = .error e) ↔ maxChunk = 0 ∨ 65535 < maxChunk ∨ 256 < needed) ∧
      (∀ e, written.1 = .error e → Refused payload maxChunk e ∧ written.2 = buffer) ∧
      ∀ count, written.1 = .ok count → count = needed ∧
        ∃ fragments appended, Cuts slot kind payload maxChunk fragments ∧
          appended = (fragments.map wire).flatten ∧ written.2 = buffer ++ appended ∧
          appended.length = payload.length + 8 * needed ∧
          scanAll maxChunk appended = (fragments, []) := by
  intro needed written
  obtain ⟨e, hrefused, hwritten⟩ | ⟨⟨hpos, hmax, hneeded⟩, fragments, hcuts, hwritten⟩ :
      (∃ e, Refused payload maxChunk e ∧ written = (.error e, buffer)) ∨ _ :=
    writeAll_cases slot kind payload maxChunk buffer
  · rw [hwritten]
    refine ⟨⟨fun _ => ?_, fun _ => ⟨e, rfl⟩⟩, ?_, by simp⟩
    · cases hrefused with
      | chunkSize h => omega
      | count hpos hmax h => omega
    · rintro _ ⟨⟩
      exact ⟨hrefused, rfl⟩
  · have hlength := length_flatten_wire fragments
    rw [hcuts.whole, hcuts.count] at hlength
    rw [show written = _ from hwritten]
    refine ⟨⟨by simp, by omega⟩, by simp, ?_⟩
    rintro _ ⟨⟩
    exact ⟨hcuts.count, fragments, _, hcuts, rfl, rfl, hlength, scanAll_wire hmax hcuts.fits⟩

end HarnessLink.Fragment
