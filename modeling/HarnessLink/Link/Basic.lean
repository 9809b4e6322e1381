import HarnessLink.Bytes
import HarnessLink.Duration
import HarnessLink.Fault

/-!
# Links

A link carries bytes to the rest of the network and back. It keeps no frame
boundaries: what one side sends in one piece may arrive in several, and the
other way round. How a link behaves is a function on its own state, so that
links in memory, over sockets and with any kind of loss are values of one type.
-/
namespace HarnessLink

inductive LinkError where
  | bind (path : String) (fault : IoFault)
  | connect (path : String) (fault : IoFault)
  | accept (fault : IoFault)
  | io (fault : IoFault)
  | pathTooLong (path : String) (length limit : Nat)
  /-- The other end is gone. -/
  | disconnected
  /-- The staging buffer stayed in use for as long as its user would wait. -/
  | writeDenied (waited : Duration)
  deriving DecidableEq

namespace LinkError

/-- The name of the cause. -/
def name : LinkError → String
  | bind _ _ => "Bind"
  | connect _ _ => "Connect"
  | accept _ => "Accept"
  | io _ => "Io"
  | pathTooLong _ _ _ => "PathTooLong"
  | disconnected => "Disconnected"
  | writeDenied _ => "WriteAccessDenied"

def message : LinkError → String
  | bind path fault => s!"failed to bind to {path}: {fault.text}"
  | connect path fault => s!"failed to connect to {path}: {fault.text}"
  | accept fault => s!"failed to accept connection: {fault.text}"
  | io fault => s!"transport I/O error: {fault.text}"
  | pathTooLong path length limit =>
    s!"socket path too long ({length} bytes, max {limit}): {path}"
  | disconnected => "link disconnected"
  | writeDenied waited => s!"write access to staging buffer denied after {waited.text}"

end LinkError

/-- Where a command is on its way. -/
inductive Phase where
  | idle
  | sending
  | awaiting
  | retry
  | success
  | failed
  deriving DecidableEq

def Phase.name : Phase → String
  | idle => "Idle"
  | sending => "Sending"
  | awaiting => "AwaitResponse"
  | retry => "Retry"
  | success => "Success"
  | failed => "Failed"

/-- How a link with states in `σ` behaves. Time passes on the link: while it is
used, and while nothing is done. -/
structure Link (σ : Type) where
  transmit : Bytes → σ → Except LinkError Unit × σ
  /-- The bytes that arrive within a time, if any do. -/
  receive : Duration → σ → Except LinkError (Option Bytes) × σ
  /-- The link is told where the command that it carries is. -/
  watch : Phase → σ → σ := fun _ s => s
  /-- What time it is. -/
  clock : σ → Duration := fun _ => .zero
  /-- Time passes, and nothing is asked of the link. -/
  rest : Duration → σ → σ := fun _ s => s
  /-- An upper bound on the pieces that can arrive before the next transmission. -/
  backlog : σ → Nat
  backlog_receive : ∀ {timeout : Duration} {s s' : σ} {bytes : Bytes},
    receive timeout s = (.ok (some bytes), s') → backlog s' < backlog s

/-- What is left of a wait until `due`. -/
def Link.remaining (behavior : Link σ) (due : Duration) (s : σ) : Duration :=
  due.sub (behavior.clock s)

/-- The end of a wait that starts now, if the clock can tell it. -/
def Link.deadline? (behavior : Link σ) (timeout : Duration) (s : σ) : Option Duration :=
  (behavior.clock s).deadline? timeout

/-- At first all of the time is left. -/
theorem Link.remaining_of_deadline? {behavior : Link σ} {timeout due : Duration} {s : σ}
    (h : behavior.deadline? timeout s = some due) : behavior.remaining due s = timeout := by
  simp only [deadline?, Duration.deadline?, Option.ite_none_right_eq_some, Option.some.injEq] at h
  rw [remaining, ← h.2, Duration.sub_add]

end HarnessLink
