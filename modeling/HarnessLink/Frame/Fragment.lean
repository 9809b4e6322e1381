import HarnessLink.Bytes
import HarnessLink.Frame.Error

/-!
# Link fragments

A fragment is an eight-byte header and a chunk of a payload: the delimiter
AB CD, the chunk's length, a slot, a frame kind, the fragment's index and a flag
that is set on all but the last fragment of a frame. `split` cuts a payload into
fragments. `scan` finds the first fragment in received bytes and skips what
cannot start one.
-/
namespace HarnessLink

structure Fragment where
  slot : UInt8
  kind : UInt8
  index : UInt8
  more : Bool
  payload : Bytes
  deriving DecidableEq

namespace Fragment

def headerSize : Nat := 8

/-- Indices are one byte, so a frame has at most this many fragments. -/
def maxCount : Nat := 256

/-- Lengths are two bytes. -/
def maxLength : Nat := 65535

def header (f : Fragment) : Bytes :=
  [0xAB, 0xCD] ++ Word.le16 (UInt16.ofNat f.payload.length) ++
    [f.slot, f.kind, f.index, if f.more then 1 else 0]

@[simp] theorem length_header (f : Fragment) : f.header.length = headerSize := rfl

/-- The bytes of a fragment whose chunk fits the length field. -/
def wire (f : Fragment) : Bytes := f.header ++ f.payload

def wireSize (f : Fragment) : Nat := headerSize + f.payload.length

@[simp] theorem length_wire (f : Fragment) : f.wire.length = f.wireSize := by
  simp [wire, wireSize]

/-- Write a fragment behind what a buffer holds. The chunk is measured first, so that one
that is too long leaves the buffer alone. -/
def write (f : Fragment) (buffer : Bytes) : Except FrameError Unit × Bytes :=
  if f.payload.length ≤ maxLength then (.ok (), buffer ++ f.wire)
  else (.error (.payloadTooLarge f.payload.length), buffer)

def encode (f : Fragment) : Except FrameError Bytes :=
  let (result, wire) := f.write []
  result.map fun () => wire

/-- Cut a payload into chunks of `size` bytes. All but the last are full, and an
empty payload is one empty chunk. -/
def chunks (size : Nat) (payload : Bytes) : List Bytes :=
  if payload.length ≤ size ∨ size = 0 then [payload]
  else payload.take size :: chunks size (payload.drop size)
termination_by payload.length
decreasing_by simp only [List.length_drop]; omega

/-- How many fragments a payload of `length` bytes takes. -/
def countFor (maxChunk length : Nat) : Nat :=
  max 1 ((length + maxChunk - 1) / maxChunk)

/-- Number the chunks of one frame from `index` on; the last has no follower. -/
def number (slot kind : UInt8) (index : Nat) : List Bytes → List Fragment
  | [] => []
  | [chunk] => [⟨slot, kind, UInt8.ofNat index, false, chunk⟩]
  | chunk :: rest =>
    ⟨slot, kind, UInt8.ofNat index, true, chunk⟩ :: number slot kind (index + 1) rest

/-- The fragments of a payload, or the reason why it has none. -/
def split (slot kind : UInt8) (payload : Bytes) (maxChunk : Nat) :
    Except FrameError (List Fragment) :=
  if maxChunk = 0 ∨ maxLength < maxChunk then .error (.invalidChunkSize maxChunk)
  else if maxCount < countFor maxChunk payload.length then
    .error (.tooManyFragments (countFor maxChunk payload.length))
  else .ok (number slot kind 0 (chunks maxChunk payload))

/-- The bytes of a whole frame and the number of fragments in them. -/
structure Encoding where
  count : Nat
  wire : Bytes
  deriving DecidableEq

/-- Write fragments one behind the other, up to the first that is too long. -/
def writeEach : List Fragment → Bytes → Except FrameError Unit × Bytes
  | [], buffer => (.ok (), buffer)
  | f :: rest, buffer =>
    match f.write buffer with
    | (.ok (), buffer) => writeEach rest buffer
    | (.error e, buffer) => (.error e, buffer)

/-- Write a payload as a whole frame behind what a buffer holds, and tell how many
fragments it took. -/
def writeAll (slot kind : UInt8) (payload : Bytes) (maxChunk : Nat) (buffer : Bytes) :
    Except FrameError Nat × Bytes :=
  match split slot kind payload maxChunk with
  | .error e => (.error e, buffer)
  | .ok fragments =>
    let (result, buffer) := writeEach fragments buffer
    (result.map fun () => fragments.length, buffer)

def encodeAll (slot kind : UInt8) (payload : Bytes) (maxChunk : Nat) :
    Except FrameError Encoding :=
  let (result, wire) := writeAll slot kind payload maxChunk []
  result.map fun count => ⟨count, wire⟩

/-- What the front of received bytes is. -/
inductive Lead where
  /-- No fragment starts here. -/
  | noise
  /-- A fragment may start here; more bytes are needed. -/
  | incomplete
  | complete (fragment : Fragment) (rest : Bytes)

/-- Judge the front of received bytes. A length above `maxChunk` is no length. -/
def lead (maxChunk : Nat) : Bytes → Lead
  | [] => .incomplete
  | [a] => if a = 0xAB then .incomplete else .noise
  | a :: b :: tail =>
    if a = 0xAB ∧ b = 0xCD then
      match tail with
      | l0 :: l1 :: slot :: kind :: index :: more :: body =>
        let length := (Word.ofLe16 l0 l1).toNat
        let payload := body.take length
        if maxChunk < length then .noise
        else if payload.length = length then
          .complete ⟨slot, kind, index, more ≠ 0, payload⟩ (body.drop length)
        else .incomplete
      | _ => .incomplete
    else .noise

theorem length_of_lead_complete {maxChunk : Nat} {bytes rest : Bytes} {f : Fragment}
    (h : lead maxChunk bytes = .complete f rest) : rest.length < bytes.length := by
  unfold lead at h
  split at h
  · simp at h
  · split at h <;> simp at h
  · split at h
    · split at h
      · dsimp only at h
        split at h
        · simp at h
        · split at h
          · injection h with _ h
            subst h
            simp only [List.length_cons, List.length_drop]
            omega
          · simp at h
      · simp at h
    · simp at h

/-- The first fragment in received bytes, or what is kept until more arrive. -/
inductive Scan where
  | found (fragment : Fragment) (rest : Bytes)
  | waiting (kept : Bytes)

/-- Skip bytes one at a time up to the first fragment. -/
def scan (maxChunk : Nat) : Bytes → Scan
  | [] => .waiting []
  | b :: rest =>
    match lead maxChunk (b :: rest) with
    | .noise => scan maxChunk rest
    | .incomplete => .waiting (b :: rest)
    | .complete f after => .found f after

theorem length_of_scan_found {maxChunk : Nat} {bytes rest : Bytes} {f : Fragment}
    (h : scan maxChunk bytes = .found f rest) : rest.length < bytes.length := by
  induction bytes with
  | nil => simp [scan] at h
  | cons b tail ih =>
    unfold scan at h
    split at h
    · exact Nat.lt_succ_of_lt (ih h)
    · simp at h
    · next hlead =>
      injection h with h₁ h₂
      subst h₁ h₂
      exact length_of_lead_complete hlead

/-- Every fragment in received bytes, in order, and the bytes kept. -/
def scanAll (maxChunk : Nat) (bytes : Bytes) : List Fragment × Bytes :=
  match _h : scan maxChunk bytes with
  | .waiting kept => ([], kept)
  | .found f rest =>
    let (fragments, kept) := scanAll maxChunk rest
    (f :: fragments, kept)
termination_by bytes.length
decreasing_by exact length_of_scan_found _h

end Fragment

end HarnessLink
