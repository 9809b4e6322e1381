import HarnessLink.Master.Command
import HarnessLink.Master.Error

/-!
# The queue of commands

Commands wait in a queue of bounded length for the one consumer that carries
them out. Each command that the queue accepts gets a ticket, and under its
ticket its producer finds the outcome, once. When the consumer goes away every
command that still waits is lost, and its producer learns so.
-/
namespace HarnessLink

/-- What a producer finds under its ticket. -/
inductive ReplySlot where
  | waiting
  | ready (outcome : CommandOutcome)
  /-- The command is gone without an outcome, or its outcome has been taken. -/
  | closed
  /-- The producer no longer looks. -/
  | abandoned
  deriving DecidableEq

/-- A queued command and the ticket of its producer. -/
structure Forwarded where
  ticket : Nat
  command : DeviceCommand
  deriving DecidableEq

structure ForwardQueue where
  capacity : Nat
  capacity_pos : 0 < capacity
  items : List Forwarded := []
  producers : Nat := 1
  consumerAlive : Bool := true
  /-- The slots of all tickets, by ticket. -/
  slots : List ReplySlot := []

namespace ForwardQueue

/-- An empty queue with one producer. There is always room for one command. -/
def create (capacity : Nat) : ForwardQueue :=
  { capacity := max capacity 1, capacity_pos := Nat.lt_of_lt_of_le Nat.one_pos (Nat.le_max_right _ _) }

/-- The most commands that a queue can be created for: room for all of them is made
at once, forty bytes for each, and addresses are numbers of 63 bits. -/
def maxCapacity : Nat := 9223372036854775807 / 40

def create? (capacity : Nat) : Option ForwardQueue :=
  if capacity ≤ maxCapacity then some (create capacity) else none

def slot (q : ForwardQueue) (ticket : Nat) : ReplySlot := q.slots.getD ticket .closed

def setSlot (q : ForwardQueue) (ticket : Nat) (s : ReplySlot) : ForwardQueue :=
  { q with slots := q.slots.set ticket s }

/-- Queue a command at the time `now` and get its ticket. Nobody takes a command
meanwhile, so a full queue stays full for the whole timeout. -/
def push (now : Duration) (command : DeviceCommand) (timeout : Duration) (q : ForwardQueue) :
    Except NodeError Nat × ForwardQueue :=
  if (now.deadline? timeout).isNone then (.error .unmeasurable, q)
  else if !q.consumerAlive then (.error (.disconnected "orchestrator stopped"), q)
  else if q.items.length < q.capacity then
    (.ok q.slots.length,
      { q with items := q.items ++ [⟨q.slots.length, command⟩], slots := q.slots ++ [.waiting] })
  else (.error (.queueFull q.capacity timeout), q)

/-- Take the oldest command at the time `now`, if there is one. -/
def pop (now timeout : Duration) (q : ForwardQueue) :
    Except NodeError (Option Forwarded) × ForwardQueue :=
  if (now.deadline? timeout).isNone then (.error .unmeasurable, q)
  else
    match q.items with
    | item :: rest => (.ok (some item), { q with items := rest })
    | [] => (if q.producers = 0 then .error (.disconnected "no producers left") else .ok none, q)

/-- Put an outcome under a ticket. A producer that no longer looks is left
alone. -/
def complete (ticket : Nat) (outcome : CommandOutcome) (q : ForwardQueue) : ForwardQueue :=
  if q.slot ticket = .waiting then q.setSlot ticket (.ready outcome) else q

/-- Give up a command that was taken, without an outcome. -/
def discard (ticket : Nat) (q : ForwardQueue) : ForwardQueue :=
  if q.slot ticket = .waiting then q.setSlot ticket .closed else q

/-- Take the outcome under a ticket, if it is there. -/
def claim (ticket : Nat) (q : ForwardQueue) : ReplySlot × ForwardQueue :=
  match q.slot ticket with
  | .ready outcome => (.ready outcome, q.setSlot ticket .closed)
  | s => (s, q)

/-- The producer no longer looks under its ticket. -/
def abandon (ticket : Nat) (q : ForwardQueue) : ForwardQueue := q.setSlot ticket .abandoned

def addProducer (q : ForwardQueue) : ForwardQueue := { q with producers := q.producers + 1 }

def dropProducer (q : ForwardQueue) : ForwardQueue := { q with producers := q.producers - 1 }

/-- The consumer goes away, and what still waits is lost. -/
def dropConsumer (q : ForwardQueue) : ForwardQueue :=
  { q.items.foldl (fun q item => q.discard item.ticket) q with items := [], consumerAlive := false }

/-- What a producer makes of its slot once it stops waiting. -/
def settle (command : DeviceCommand) (ticket : Nat) (replyTimeout : Duration) (q : ForwardQueue) :
    Except NodeError CommandOutcome × ForwardQueue :=
  match q.claim ticket with
  | (.ready outcome, q) => (.ok outcome, q)
  | (.waiting, q) => (.error (.timeout replyTimeout), q.abandon ticket)
  | (_, q) =>
    (.error (.disconnected s!"orchestrator dropped {command.name} without an outcome"), q)

end ForwardQueue

end HarnessLink
