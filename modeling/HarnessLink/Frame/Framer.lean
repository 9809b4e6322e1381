import HarnessLink.Frame.Fragment

/-!
# Reassembly of link frames

A framer turns received bytes into whole frames. It holds the bytes of which no
fragment could be made yet and the frame in progress. Decoding and reassembly
are apart: `Fragment.scanAll` finds the fragments of the bytes and `assemble`
joins fragments into frames, so that `feed` is one after the other. `next` takes
the same road one frame at a time.
-/
namespace HarnessLink

/-- How fragment indices are treated. -/
inductive Reassembly where
  /-- Indices count 0, 1, 2, and so on; index 0 starts a new frame and an index
  out of turn discards the frame in progress. -/
  | strict
  /-- Fragments are joined as they arrive. -/
  | permissive
  deriving DecidableEq

structure FrameConfig where
  /-- Largest chunk of one fragment. -/
  maxChunk : Nat := 242
  /-- Largest payload of a whole frame. -/
  maxFrameSize : Nat := 61952
  reassembly : Reassembly := .strict
  deriving DecidableEq

/-- A whole frame: slot and kind of its first fragment, and all its bytes. -/
structure Frame where
  slot : UInt8
  kind : UInt8
  payload : Bytes
  deriving DecidableEq

/-- A frame in progress. -/
structure Assembly where
  slot : UInt8
  kind : UInt8
  received : Nat
  data : Bytes
  deriving DecidableEq

namespace Assembly

/-- The frame that `f` starts, before any chunk is joined. -/
def start (f : Fragment) : Assembly := ⟨f.slot, f.kind, 0, []⟩

def extend (a : Assembly) (f : Fragment) : Assembly :=
  { a with received := a.received + 1, data := a.data ++ f.payload }

def frame (a : Assembly) : Frame := ⟨a.slot, a.kind, a.data⟩

/-- The frame that `f` continues or starts, if it belongs to one. -/
def continued (policy : Reassembly) (open? : Option Assembly) (f : Fragment) : Option Assembly :=
  match policy with
  | .permissive => some (open?.getD (start f))
  | .strict =>
    if f.index = 0 then some (start f)
    else open?.filter fun a => a.received == f.index.toNat

/-- What one fragment leaves in progress and the frame that it completes. -/
def accept (config : FrameConfig) (open? : Option Assembly) (f : Fragment) :
    Option Assembly × Option Frame :=
  match continued config.reassembly open? f with
  | none => (none, none)
  | some a =>
    if config.maxFrameSize < a.data.length + f.payload.length then (none, none)
    else if f.more then (some (a.extend f), none)
    else (none, some (a.extend f).frame)

end Assembly

/-- The frames that fragments complete, in order, and what stays in progress. -/
def assemble (config : FrameConfig) : Option Assembly → List Fragment → List Frame × Option Assembly
  | open?, [] => ([], open?)
  | open?, f :: rest =>
    let (next?, done?) := Assembly.accept config open? f
    let (frames, last?) := assemble config next? rest
    (done?.toList ++ frames, last?)

structure Framer where
  config : FrameConfig := {}
  buffer : Bytes := []
  open? : Option Assembly := none
  deriving DecidableEq

namespace Framer

/-- Take in received bytes without decoding them. -/
def extend (r : Framer) (bytes : Bytes) : Framer :=
  { r with buffer := r.buffer ++ bytes }

/-- Take in received bytes and give every frame that they complete. -/
def feed (r : Framer) (bytes : Bytes) : List Frame × Framer :=
  let (fragments, kept) := Fragment.scanAll r.config.maxChunk (r.buffer ++ bytes)
  let (frames, open?) := assemble r.config r.open? fragments
  (frames, { r with buffer := kept, open? })

/-- Decode the bytes at hand up to the first whole frame. -/
def next (r : Framer) : Option Frame × Framer :=
  match _h : Fragment.scan r.config.maxChunk r.buffer with
  | .waiting kept => (none, { r with buffer := kept })
  | .found f rest =>
    match Assembly.accept r.config r.open? f with
    | (open?, some frame) => (some frame, { r with buffer := rest, open? })
    | (open?, none) => next { r with buffer := rest, open? }
termination_by r.buffer.length
decreasing_by exact Fragment.length_of_scan_found _h

/-- What one call of a decoder gives, and what it leaves in the caller's buffer. -/
structure Decoded where
  frame? : Option Frame
  framer : Framer
  left : Bytes

/-- Move what a buffer holds into the framer, then decode up to the first whole
frame. -/
def decodeBuffer (r : Framer) (buffer : Bytes) : Decoded :=
  if buffer.isEmpty then
    let (frame?, framer) := r.next
    ⟨frame?, framer, buffer⟩
  else
    let (incoming, left) := buffer.splitAt buffer.length
    let (frame?, framer) := (r.extend incoming).next
    ⟨frame?, framer, left⟩

/-- Take in all of `bytes`, then decode up to the first whole frame. -/
def decode (r : Framer) (bytes : Bytes) : Option Frame × Framer :=
  let decoded := r.decodeBuffer bytes
  (decoded.frame?, decoded.framer)

/-- Forget the bytes at hand and the frame in progress. -/
def reset (r : Framer) : Framer :=
  { r with buffer := [], open? := none }

/-- The bytes of a frame as this framer cuts them. -/
def encode (r : Framer) (slot kind : UInt8) (payload : Bytes) :
    Except FrameError Fragment.Encoding :=
  Fragment.encodeAll slot kind payload r.config.maxChunk

end Framer

end HarnessLink
