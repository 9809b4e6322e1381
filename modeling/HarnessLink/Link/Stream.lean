import HarnessLink.Link.Memory

/-!
# Stream links

Two ends joined by a stream of bytes each way. Pieces run together on the way: a
receiver takes what is there, up to a limit. An end may have several handles and
is gone when the last of them is closed; what it sent before can still be
received.
-/
namespace HarnessLink

/-- One end of a stream: what it has yet to receive, and its open handles. -/
structure StreamEnd where
  inbox : Bytes := []
  handles : Nat := 1
  deriving DecidableEq

structure StreamPair where
  left : StreamEnd := {}
  right : StreamEnd := {}
  deriving DecidableEq

namespace StreamPair

/-- The most bytes that are received at once. -/
def maxPiece : Nat := 512

def get (p : StreamPair) : Side → StreamEnd
  | .left => p.left
  | .right => p.right

def set (p : StreamPair) (side : Side) (e : StreamEnd) : StreamPair :=
  match side with
  | .left => { p with left := e }
  | .right => { p with right := e }

@[simp] theorem get_set_same (p : StreamPair) (side : Side) (e : StreamEnd) :
    (p.set side e).get side = e := by
  cases side <;> rfl

/-- Send bytes from one end. Nothing can always be sent. -/
def transmit (side : Side) (bytes : Bytes) (p : StreamPair) : Except LinkError Unit × StreamPair :=
  let far := p.get side.other
  if bytes.isEmpty then (.ok (), p)
  else if far.handles = 0 then (.error .disconnected, p)
  else (.ok (), p.set side.other { far with inbox := far.inbox ++ bytes })

/-- Receive what is there at one end. -/
def receive (side : Side) (p : StreamPair) : Except LinkError (Option Bytes) × StreamPair :=
  let near := p.get side
  if near.inbox.isEmpty then
    (if (p.get side.other).handles = 0 then .error .disconnected else .ok none, p)
  else
    (.ok (some (near.inbox.take maxPiece)),
      p.set side { near with inbox := near.inbox.drop maxPiece })

/-- Open another handle of an end. -/
def duplicate (side : Side) (p : StreamPair) : StreamPair :=
  let near := p.get side
  p.set side { near with handles := near.handles + 1 }

/-- Close a handle of an end. -/
def close (side : Side) (p : StreamPair) : StreamPair :=
  let near := p.get side
  p.set side { near with handles := near.handles - 1 }

/-- Close every handle of an end. -/
def shut (side : Side) (p : StreamPair) : StreamPair := p.set side { p.get side with handles := 0 }

end StreamPair

end HarnessLink
