import HarnessLink.Link.Basic

/-!
# Links in memory

Two ends joined by two pipes, one each way. A pipe hands out its pieces whole, in order and once.
An end can be closed: what waits for it is lost, and nothing can be sent to it any more. What it
sent before can still be received, and only then the other end hears that it is gone.
-/
namespace HarnessLink

/-! ## Pipes -/

/-- Pieces on their way, and whether someone is at either end of it. -/
structure Pipe where
  waiting : List Bytes := []
  hasSender : Bool := true
  hasReceiver : Bool := true
  deriving DecidableEq

/-- Why there is no piece to take. -/
inductive Absence where
  | empty
  | disconnected
  deriving DecidableEq

/-- What comes of one turn of draining: one more piece, or the end of it. -/
inductive DrainTurn where
  | more (pieces : List Bytes)
  | done (result : Except LinkError (List Bytes))

namespace Pipe

def send (bytes : Bytes) (c : Pipe) : Except LinkError Unit × Pipe :=
  if c.hasReceiver then (.ok (), { c with waiting := c.waiting ++ [bytes] })
  else (.error .disconnected, c)

/-- Take the next piece. That the sender is gone shows once nothing waits. -/
def take (c : Pipe) : Except Absence Bytes × Pipe :=
  match c.waiting with
  | bytes :: rest => (.ok bytes, { c with waiting := rest })
  | [] => (.error (if c.hasSender then .empty else .disconnected), c)

def dropSender (c : Pipe) : Pipe := { c with hasSender := false }

def dropReceiver (c : Pipe) : Pipe := { c with hasReceiver := false, waiting := [] }

/-- Take one more piece in a drain that has taken some. -/
def drainTurn (pieces : List Bytes) (c : Pipe) : DrainTurn × Pipe :=
  match c.take with
  | (.ok bytes, c) => (.more (pieces ++ [bytes]), c)
  | (.error .empty, c) => (.done (.ok pieces), c)
  | (.error .disconnected, c) =>
    (.done (if pieces.isEmpty then .error .disconnected else .ok pieces), c)

theorem send_ok {bytes : Bytes} {c c' : Pipe} (h : c.send bytes = (.ok (), c')) :
    c.hasReceiver = true ∧ c' = { c with waiting := c.waiting ++ [bytes] } := by
  unfold send at h
  split at h
  · next hreceiver =>
    cases h
    exact ⟨hreceiver, rfl⟩
  · cases h

theorem send_error {bytes : Bytes} {e : LinkError} {c c' : Pipe}
    (h : c.send bytes = (.error e, c')) : c' = c ∧ c.hasReceiver = false ∧ e = .disconnected := by
  unfold send at h
  split at h
  · cases h
  · next hreceiver =>
    cases h
    exact ⟨rfl, by simpa using hreceiver, rfl⟩

/-- What is taken is what has waited longest. -/
theorem take_ok {bytes : Bytes} {c c' : Pipe} (h : c.take = (.ok bytes, c')) :
    ∃ rest, c.waiting = bytes :: rest ∧ c' = { c with waiting := rest } := by
  unfold take at h
  split at h
  · next rest hwaiting =>
    cases h
    exact ⟨rest, hwaiting, rfl⟩
  · cases h

/-- Nothing is taken when nothing waits. -/
theorem take_error {absence : Absence} {c c' : Pipe} (h : c.take = (.error absence, c')) :
    c' = c ∧ c.waiting = [] ∧ c.hasSender = decide (absence = .empty) := by
  unfold take at h
  split at h
  · cases h
  · next hwaiting =>
    cases h
    cases hsender : c.hasSender <;> exact ⟨rfl, hwaiting, by simp⟩

theorem waiting_of_drainTurn {pieces more : List Bytes} {c c' : Pipe}
    (h : c.drainTurn pieces = (.more more, c')) : c'.waiting.length < c.waiting.length := by
  unfold drainTurn at h
  split at h
  · next htake =>
    obtain ⟨rest, hwaiting, rfl⟩ := take_ok htake
    cases h
    simp [hwaiting]
  · cases h
  · cases h

/-- Take pieces until none waits. -/
def drain (pieces : List Bytes) (c : Pipe) : Except LinkError (List Bytes) × Pipe :=
  match _h : c.drainTurn pieces with
  | (.more pieces, c) => c.drain pieces
  | (.done result, c) => (result, c)
termination_by c.waiting.length
decreasing_by exact waiting_of_drainTurn _h

end Pipe

/-! ## Pairs of ends -/

inductive Side where
  | left
  | right
  deriving DecidableEq

def Side.other : Side → Side
  | left => right
  | right => left

@[simp] theorem Side.other_other (side : Side) : side.other.other = side := by
  cases side <;> rfl

/-- Two ends, with the pipe that leads to each of them. -/
structure MemoryPair where
  toLeft : Pipe := {}
  toRight : Pipe := {}
  deriving DecidableEq

namespace MemoryPair

/-- The pipe to an end. -/
def pipeTo (p : MemoryPair) : Side → Pipe
  | .left => p.toLeft
  | .right => p.toRight

def setPipeTo (p : MemoryPair) (side : Side) (c : Pipe) : MemoryPair :=
  match side with
  | .left => { p with toLeft := c }
  | .right => { p with toRight := c }

@[simp] theorem pipeTo_setPipeTo_same (p : MemoryPair) (side : Side) (c : Pipe) :
    (p.setPipeTo side c).pipeTo side = c := by
  cases side <;> rfl

@[simp] theorem pipeTo_setPipeTo_other (p : MemoryPair) (side : Side) (c : Pipe) :
    (p.setPipeTo side c).pipeTo side.other = p.pipeTo side.other := by
  cases side <;> rfl

@[simp] theorem pipeTo_setPipeTo_other_same (p : MemoryPair) (side : Side) (c : Pipe) :
    (p.setPipeTo side.other c).pipeTo side = p.pipeTo side := by
  cases side <;> rfl

@[simp] theorem setPipeTo_pipeTo (p : MemoryPair) (side : Side) :
    p.setPipeTo side (p.pipeTo side) = p := by
  cases side <;> rfl

/-- Send a piece from one end to the other. -/
def transmit (side : Side) (bytes : Bytes) (p : MemoryPair) : Except LinkError Unit × MemoryPair :=
  let (result, c) := (p.pipeTo side.other).send bytes
  (result, p.setPipeTo side.other c)

/-- Receive the next piece at one end. -/
def receive (side : Side) (p : MemoryPair) : Except LinkError (Option Bytes) × MemoryPair :=
  match (p.pipeTo side).take with
  | (.ok bytes, c) => (.ok (some bytes), p.setPipeTo side c)
  | (.error .empty, c) => (.ok none, p.setPipeTo side c)
  | (.error .disconnected, c) => (.error .disconnected, p.setPipeTo side c)

/-- Receive every piece that waits at one end. -/
def drain (side : Side) (p : MemoryPair) : Except LinkError (List Bytes) × MemoryPair :=
  let (result, c) := (p.pipeTo side).drain []
  (result, p.setPipeTo side c)

/-- Drop an end, the sender and the receiver that it holds. -/
def close (side : Side) (p : MemoryPair) : MemoryPair :=
  (p.setPipeTo side (p.pipeTo side).dropReceiver).setPipeTo side.other
    (p.pipeTo side.other).dropSender

/-- The link that one end of a pair is. Nobody waits: a piece is there or not. -/
def link (side : Side) : Link MemoryPair where
  transmit := transmit side
  receive _ := receive side
  backlog p := (p.pipeTo side).waiting.length
  backlog_receive := by
    intro _ p p' bytes h
    unfold receive at h
    split at h
    · next htake =>
      obtain ⟨rest, hwaiting, rfl⟩ := Pipe.take_ok htake
      cases h
      simp [hwaiting]
    · cases h
    · cases h

end MemoryPair

end HarnessLink
