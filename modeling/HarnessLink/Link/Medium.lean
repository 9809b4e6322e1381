import HarnessLink.Link.Basic
import HarnessLink.Slave.Bus

/-!
# A medium with slaves on it

A link to the slaves of a bus, over a medium that does to transmissions and
answers what a plan says. The slaves answer at once, so nothing is ever waited
for and time passes only while the medium rests. A medium may also hang up for
good once a slave has seen a sync.
-/
namespace HarnessLink

/-- What becomes of a transmission and of the answers to it. -/
inductive Fate where
  | delivered
  /-- The other end is gone. -/
  | refused
  /-- The system reports a fault. -/
  | faulty
  /-- The slaves hear nothing. -/
  | lost
  | answersLost
  /-- The answers wait for the next transmission. -/
  | answersLate
  | answersTwice
  /-- Only the first half of each answer arrives. -/
  | answersHalved
  /-- The answers arrive with a damaged byte. -/
  | answersMangled
  /-- Before the answers are received, the other end seems gone once. -/
  | interrupted
  deriving DecidableEq

namespace Fate

def all : List Fate :=
  [delivered, refused, faulty, lost, answersLost, answersLate, answersTwice, answersHalved,
    answersMangled, interrupted]

/-- The word for a fate in a plan. -/
def name : Fate → String
  | delivered => "ok"
  | refused => "fail"
  | faulty => "io"
  | lost => "lose"
  | answersLost => "drop"
  | answersLate => "late"
  | answersTwice => "twice"
  | answersHalved => "half"
  | answersMangled => "mangle"
  | interrupted => "broken"

def ofName? (s : String) : Option Fate := all.find? fun f => f.name = s

end Fate

structure Medium where
  bus : SlaveBus
  /-- What receivers get next: pieces, and faults between them. -/
  inbox : List (Except LinkError Bytes) := []
  /-- Pieces that wait for the next transmission. -/
  late : List Bytes := []
  /-- Fates of the coming transmissions; after that all are delivered. -/
  plan : List Fate := []
  /-- A piece that arrives before the answers to each transmission. -/
  noise : Bytes := []
  /-- Largest piece of an answer; answers arrive whole when it is zero. -/
  pieceSize : Nat := 0
  sent : List Bytes := []
  hangsUpAfterSync : Bool := false
  hungUp : Bool := false
  time : Duration := .zero

namespace Medium

/-- Cut an answer into pieces. -/
def pieces (size : Nat) (bytes : Bytes) : List Bytes :=
  if size = 0 ∨ bytes.length ≤ size then [bytes]
  else bytes.take size :: pieces size (bytes.drop size)
termination_by bytes.length
decreasing_by simp only [List.length_drop]; omega

/-- The byte of an answer that is damaged. -/
def damagedIndex : Nat := 15

def mangle (bytes : Bytes) : Bytes := bytes.modify damagedIndex fun b => b ^^^ 0xFF

/-- The pieces that arrive of an answer. -/
def arriving (fate : Fate) (size : Nat) (answer : Bytes) : List Bytes :=
  match fate with
  | .answersLost | .answersLate => []
  | .answersTwice => pieces size answer ++ pieces size answer
  | .answersHalved => [answer.take (answer.length / 2)]
  | .answersMangled => [mangle answer]
  | _ => pieces size answer

/-- The pieces of an answer that arrive after the next transmission. -/
def deferred (fate : Fate) (size : Nat) (answer : Bytes) : List Bytes :=
  if fate = .answersLate then pieces size answer else []

def enqueue (bytes : List Bytes) (m : Medium) : Medium :=
  { m with inbox := m.inbox ++ bytes.map .ok }

/-- A slave has seen a sync. -/
def synced (m : Medium) : Bool := m.bus.nodes.any fun n => n.lastSync?.isSome

/-- The slaves hear a transmission and answer it. -/
def deliver (fate : Fate) (bytes : Bytes) (m : Medium) : Medium :=
  let (answers, bus) := m.bus.receive bytes
  let noise := if m.noise.isEmpty then [] else [m.noise]
  let m := { m with bus }.enqueue (noise ++ answers.flatMap (arriving fate m.pieceSize))
  { m with late := m.late ++ answers.flatMap (deferred fate m.pieceSize)
           inbox := if fate = .interrupted then .error .disconnected :: m.inbox else m.inbox
           hungUp := m.hangsUpAfterSync && m.synced }

def transmit (bytes : Bytes) (m : Medium) : Except LinkError Unit × Medium :=
  if m.hungUp then (.error .disconnected, { m with sent := m.sent ++ [bytes] })
  else
    let fate := m.plan.headD .delivered
    let m := { m with sent := m.sent ++ [bytes], plan := m.plan.drop 1, late := [] }.enqueue m.late
    match fate with
    | .refused => (.error .disconnected, m)
    | .faulty => (.error (.io ⟨.other, "scripted"⟩), m)
    | .lost => (.ok (), m)
    | fate => (.ok (), m.deliver fate bytes)

def receive (m : Medium) : Except LinkError (Option Bytes) × Medium :=
  match m.inbox with
  | [] => (if m.hungUp then .error .disconnected else .ok none, m)
  | .ok bytes :: rest => (.ok (some bytes), { m with inbox := rest })
  | .error e :: rest => (.error e, { m with inbox := rest })

def link : Link Medium where
  transmit := transmit
  receive _ m := m.receive
  clock m := m.time
  rest d m := { m with time := m.time.add d }
  backlog m := m.inbox.length
  backlog_receive := by
    intro _ m m' a h
    unfold receive at h
    split at h
    · split at h <;> simp at h
    · next hin =>
      obtain ⟨-, rfl⟩ := Prod.mk.inj h
      simp [hin]
    · simp at h

end Medium

end HarnessLink
