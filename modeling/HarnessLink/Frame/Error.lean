import HarnessLink.Fault

/-!
# Faults of the link layer

Bytes that make no sense on the receiving side are skipped and never reported;
only sending and the stream itself can fail.
-/
namespace HarnessLink

inductive FrameError where
  /-- A chunk does not fit the two-byte length field. -/
  | payloadTooLarge (size : Nat)
  /-- The payload needs more fragments than a one-byte index can count. -/
  | tooManyFragments (needed : Nat)
  | invalidChunkSize (size : Nat)
  | io (fault : IoFault)
  /-- The stream ended, or took nothing, in the middle of the work. -/
  | connectionClosed
  deriving DecidableEq

namespace FrameError

/-- The name of the cause. -/
def name : FrameError → String
  | payloadTooLarge _ => "PayloadTooLarge"
  | tooManyFragments _ => "TooManyFragments"
  | invalidChunkSize _ => "InvalidChunkSize"
  | io _ => "Io"
  | connectionClosed => "ConnectionClosed"

def message : FrameError → String
  | payloadTooLarge size => s!"payload too large ({size} bytes, max 65535)"
  | tooManyFragments needed => s!"payload needs {needed} fragments, max 256"
  | invalidChunkSize size => s!"invalid chunk size {size}"
  | io fault => s!"frame I/O error: {fault.text}"
  | connectionClosed => "connection closed (incomplete frame)"

end FrameError

end HarnessLink
