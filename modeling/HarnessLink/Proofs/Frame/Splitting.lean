import HarnessLink.Proofs.Frame.Scanning

/-!
# Fragments of a payload

A payload is cut into full chunks and a last one, as many as are counted for its
length. The fragments of the chunks are written one behind the other, and scanning
these bytes finds exactly the fragments again, whatever the chunks hold: a header
tells the length of its chunk, so nothing inside a chunk is looked at.
-/
namespace HarnessLink.Fragment

/-! ## Chunks -/

theorem chunks_of_le {size : Nat} {payload : Bytes} (h : payload.length ≤ size) :
    chunks size payload = [payload] := by
  rw [chunks, if_pos (Or.inl h)]

theorem chunks_of_lt {size : Nat} {payload : Bytes} (hs : 0 < size) (h : size < payload.length) :
    chunks size payload = payload.take size :: chunks size (payload.drop size) := by
  rw [chunks, if_neg (by omega)]

theorem chunks_ne_nil (size : Nat) (payload : Bytes) : chunks size payload ≠ [] := by
  rw [chunks]
  split_ifs <;> simp

/-- The chunks hold the payload, in order and without loss. -/
theorem flatten_chunks (size : Nat) (payload : Bytes) : (chunks size payload).flatten = payload := by
  induction payload using chunks.induct size with
  | case1 payload h =>
    rw [chunks, if_pos h]
    simp
  | case2 payload h ih =>
    rw [chunks, if_neg h, List.flatten_cons, ih, List.take_append_drop]

theorem length_le_of_mem_chunks {size : Nat} (hs : 0 < size) {payload chunk : Bytes}
    (h : chunk ∈ chunks size payload) : chunk.length ≤ size := by
  induction payload using chunks.induct size with
  | case1 payload hle =>
    rw [chunks, if_pos hle, List.mem_singleton] at h
    subst h
    omega
  | case2 payload hle ih =>
    rw [chunks, if_neg hle, List.mem_cons] at h
    rcases h with rfl | h
    · exact List.length_take_le size payload
    · exact ih h

theorem countFor_of_le {size length : Nat} (hs : 0 < size) (h : length ≤ size) :
    countFor size length = 1 := by
  have hdiv : (length + size - 1) / size ≤ 1 := by
    rw [← Nat.lt_succ_iff, Nat.div_lt_iff_lt_mul hs]
    omega
  simp only [countFor]
  omega

theorem countFor_of_lt {size length : Nat} (hs : 0 < size) (h : size < length) :
    countFor size length = 1 + countFor size (length - size) := by
  have hsub : length + size - 1 = (length - size + size - 1) + size := by omega
  have hpos : 1 ≤ (length - size + size - 1) / size := by
    rw [Nat.le_div_iff_mul_le hs]
    omega
  simp only [countFor, hsub, Nat.add_div_right _ hs]
  omega

/-- There are as many chunks as are counted for the length. -/
theorem length_chunks {size : Nat} (hs : 0 < size) (payload : Bytes) :
    (chunks size payload).length = countFor size payload.length := by
  induction payload using chunks.induct size with
  | case1 payload h =>
    have hle : payload.length ≤ size := by omega
    rw [chunks_of_le hle, countFor_of_le hs hle, List.length_singleton]
  | case2 payload h ih =>
    have hlt : size < payload.length := by omega
    rw [chunks_of_lt hs hlt, countFor_of_lt hs hlt, List.length_cons, ih, List.length_drop,
      Nat.add_comm]

/-! ## Fragments -/

theorem number_cons (slot kind : UInt8) (index : Nat) (chunk : Bytes) {rest : List Bytes}
    (h : rest ≠ []) :
    number slot kind index (chunk :: rest) =
      ⟨slot, kind, UInt8.ofNat index, true, chunk⟩ :: number slot kind (index + 1) rest := by
  cases rest with
  | nil => contradiction
  | cons _ _ => rfl

/-- The fragments carry the chunks, in order. -/
@[simp] theorem payload_number (slot kind : UInt8) (index : Nat) (chunks : List Bytes) :
    (number slot kind index chunks).map Fragment.payload = chunks := by
  induction index, chunks using number.induct with
  | case1 index => rfl
  | case2 index chunk => rfl
  | case3 index chunk rest hrest ih =>
    rw [number_cons slot kind index chunk hrest, List.map_cons, ih]

/-- Fragments whose chunks fit the length field are all written. -/
theorem writeEach_wire {fragments : List Fragment}
    (h : ∀ f ∈ fragments, f.payload.length ≤ maxLength) (buffer : Bytes) :
    writeEach fragments buffer = (.ok (), buffer ++ (fragments.map wire).flatten) := by
  induction fragments generalizing buffer with
  | nil => simp [writeEach]
  | cons f rest ih =>
    have hf : f.write buffer = (.ok (), buffer ++ f.wire) := if_pos (h f (List.mem_cons_self ..))
    have hrest := ih (fun g hg => h g (List.mem_cons_of_mem f hg)) (buffer ++ f.wire)
    simp only [writeEach, hf, hrest, List.map_cons, List.flatten_cons, List.append_assoc]

/-- The fragments that a payload is sent in. -/
def fragments (slot kind : UInt8) (payload : Bytes) (maxChunk : Nat) : List Fragment :=
  number slot kind 0 (chunks maxChunk payload)

theorem length_payload_le {slot kind : UInt8} {payload : Bytes} {maxChunk : Nat}
    (hpos : 1 ≤ maxChunk) {f : Fragment} (h : f ∈ fragments slot kind payload maxChunk) :
    f.payload.length ≤ maxChunk := by
  have hmem := List.mem_map_of_mem (f := Fragment.payload) h
  rw [fragments, payload_number] at hmem
  exact length_le_of_mem_chunks hpos hmem

/-- A payload that a one-byte index can count the chunks of is written as its
fragments. -/
theorem writeAll_eq (slot kind : UInt8) {payload : Bytes} {maxChunk : Nat} (hpos : 1 ≤ maxChunk)
    (hmax : maxChunk ≤ maxLength) (hcount : countFor maxChunk payload.length ≤ maxCount)
    (buffer : Bytes) :
    writeAll slot kind payload maxChunk buffer =
      (.ok (fragments slot kind payload maxChunk).length,
        buffer ++ ((fragments slot kind payload maxChunk).map wire).flatten) := by
  have hsplit : split slot kind payload maxChunk = .ok (fragments slot kind payload maxChunk) := by
    rw [split, if_neg (by omega), if_neg (by omega)]
    rfl
  have hfit : ∀ f ∈ fragments slot kind payload maxChunk, f.payload.length ≤ maxLength := by
    intro f hf
    exact Nat.le_trans (length_payload_le hpos hf) hmax
  have hwrite := writeEach_wire hfit buffer
  simp only [writeAll, hsplit, hwrite]
  rfl

theorem encodeAll_eq (slot kind : UInt8) {payload : Bytes} {maxChunk : Nat} (hpos : 1 ≤ maxChunk)
    (hmax : maxChunk ≤ maxLength) (hcount : countFor maxChunk payload.length ≤ maxCount) :
    encodeAll slot kind payload maxChunk =
      .ok ⟨(fragments slot kind payload maxChunk).length,
        ((fragments slot kind payload maxChunk).map wire).flatten⟩ := by
  simp only [encodeAll, writeAll_eq slot kind hpos hmax hcount, List.nil_append]
  rfl

/-! ## Scanning fragments -/

/-- A fragment at the front is found whatever follows it. -/
theorem lead_wire {maxChunk : Nat} (hmax : maxChunk ≤ maxLength) {f : Fragment}
    (hf : f.payload.length ≤ maxChunk) (rest : Bytes) :
    lead maxChunk (f.wire ++ rest) = .complete f rest := by
  have hword : (UInt16.ofNat f.payload.length).toNat = f.payload.length := by
    rw [UInt16.toNat_ofNat', Nat.mod_eq_of_lt]
    simp only [maxLength] at hmax
    omega
  have hflag : (if f.more then (1 : UInt8) else 0) ≠ 0 ↔ f.more = true := by
    cases f.more <;> decide
  have hlength : f.payload.length ≤ (f.payload ++ rest).length := by
    rw [List.length_append]
    omega
  show lead maxChunk (0xAB :: 0xCD :: UInt8.ofNat (UInt16.ofNat f.payload.length).toNat ::
    UInt8.ofNat ((UInt16.ofNat f.payload.length).toNat / 256) :: f.slot :: f.kind :: f.index ::
    (if f.more then 1 else 0) :: (f.payload ++ rest)) = _
  rw [lead_header, Word.ofLe16_bytes, hword, if_neg (by omega), if_pos hlength, List.take_left,
    List.drop_left]
  simp only [hflag, Bool.decide_eq_true]

/-- Scanning written fragments gives the fragments and keeps nothing. -/
theorem scanAll_wire {maxChunk : Nat} (hmax : maxChunk ≤ maxLength) {fragments : List Fragment}
    (hf : ∀ f ∈ fragments, f.payload.length ≤ maxChunk) :
    scanAll maxChunk (fragments.map wire).flatten = (fragments, []) := by
  induction fragments with
  | nil => exact scanAll_of_waiting rfl
  | cons f rest ih =>
    have hscan := scan_of_complete (lead_wire hmax (hf f (List.mem_cons_self ..))
      (rest.map wire).flatten)
    rw [List.map_cons, List.flatten_cons, scanAll_of_found hscan,
      ih fun g hg => hf g (List.mem_cons_of_mem f hg)]

end HarnessLink.Fragment
