import HarnessLink.Master.Orchestrator
import HarnessLink.Master.Queue

/-!
# The serving loop

A service is the consumer of a queue: it takes the commands one at a time, lets
the master carry each out, and takes the step of a test cycle that is due after
each. It stops when all producers are gone and nothing waits, when a cycle finds
the slaves' link gone, and where a time cannot be counted.
-/
namespace HarnessLink

structure Service (σ τ : Type) where
  queue : ForwardQueue
  master : Master σ τ
  /-- How the service stopped, once it has. -/
  ended? : Option (Except NodeError Unit) := none

namespace Service

variable {σ τ : Type} (w : Wiring σ τ)

/-- What time it is. -/
def clock (s : Service σ τ) : Duration := s.master.clock w

/-- Stop, and let go of the queue. -/
def stop (result : Except NodeError Unit) (s : Service σ τ) : Service σ τ :=
  { s with queue := s.queue.dropConsumer, ended? := some result }

/-- The faults of a cycle that stop the service. -/
def isFatal : NodeError → Bool
  | .link .disconnected | .unmeasurable => true
  | _ => false

/-- Take the step of a cycle that is due at the time `now`. -/
def cycle (now : Duration) (s : Service σ τ) : Service σ τ :=
  match s.master.pollCycle w now with
  | (.error e, master) =>
    if isFatal e then stop (.error e) { s with master } else { s with master }
  | (.ok _, master) => { s with master }

/-- Carry out a command and put its outcome under its ticket. A command that is
broken off has none. -/
def serve (item : Forwarded) (s : Service σ τ) : Service σ τ :=
  match s.master.handle w item.command with
  | (none, master) =>
    stop (.error .unmeasurable) { s with master, queue := s.queue.discard item.ticket }
  | (some outcome, master) => { s with master, queue := s.queue.complete item.ticket outcome }

/-- How long commands are waited for while no cycles run. -/
def idlePoll : Duration := .ofMillis 50

/-- How long the next command may be waited for. -/
def nextWait (s : Service σ τ) : Duration :=
  match s.master.nextCycle? with
  | some due => if s.master.running then due.sub (s.clock w) else idlePoll
  | none => idlePoll

/-- One round: take a command if one waits, then take the step that is due. -/
def turn (s : Service σ τ) : Service σ τ :=
  match s.queue.pop (s.clock w) (s.nextWait w) with
  | (.error (.disconnected _), queue) => stop (.ok ()) { s with queue }
  | (.error e, queue) => stop (.error e) { s with queue }
  | (.ok none, queue) => cycle w (s.clock w) { s with queue }
  | (.ok (some item), queue) =>
    let s := serve w item { s with queue }
    if s.ended?.isSome then s else cycle w (s.clock w) s

/-- Up to `rounds` rounds, as long as commands wait. -/
def turns : Nat → Service σ τ → Service σ τ
  | 0, s => s
  | rounds + 1, s =>
    if s.ended?.isSome || s.queue.items.isEmpty then s else turns rounds (s.turn w)

/-- Serve every command that waits. -/
def catchUp (s : Service σ τ) : Service σ τ := s.turns w s.queue.items.length

/-- The end of the current cycle, if it comes before a deadline. -/
def due? (deadline? : Option Duration) (s : Service σ τ) : Option Duration :=
  s.master.nextCycle?.filter fun due =>
    match deadline? with
    | some deadline => due.nanos ≤ deadline.nanos
    | none => true

/-- Nothing is done until a time comes. -/
def restUntil (time : Duration) (s : Service σ τ) : Service σ τ :=
  let link := w.slaves.rest (time.sub (s.clock w)) s.master.channel.link
  { s with master := { s.master with channel := { s.master.channel with link } } }

/-- Let time pass from one due cycle to the next, `cycles` at most, until the
service stops or the deadline comes. -/
def runOn (deadline? : Option Duration) : Nat → Service σ τ → Service σ τ
  | 0, s => s
  | cycles + 1, s =>
    if s.ended?.isSome then s
    else
      match s.due? deadline? with
      | none => s
      | some due => runOn deadline? cycles ((s.restUntil w due).turn w)

/-- Forward a command with the service at work, and wait for its outcome. -/
def submit (command : DeviceCommand) (s : Service σ τ) :
    Except NodeError CommandOutcome × Service σ τ :=
  match s.queue.push (s.clock w) command w.config.queueTimeout with
  | (.error e, queue) => (.error e, { s with queue })
  | (.ok ticket, queue) =>
    let s := catchUp w { s with queue }
    let (result, queue) := s.queue.settle command ticket w.config.outcomeTimeout
    (result, { s with queue })

/-- All producers go away, and the service finishes what waits. -/
def finish (s : Service σ τ) : Service σ τ :=
  let s := catchUp w { s with queue := { s.queue with producers := 0 } }
  if s.ended?.isSome then s else s.turn w

end Service

end HarnessLink
