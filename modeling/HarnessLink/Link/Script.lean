import HarnessLink.Link.Basic

/-!
# Scripted links

A link that plays a script. It brings what its queue holds, one piece at a time
and without waiting, and each transmission puts the next part of the script into
the queue. It writes down what it is asked to do and in which phase.
-/
namespace HarnessLink

inductive ScriptItem where
  | piece (bytes : Bytes)
  /-- Nothing arrives, once. -/
  | silence
  /-- The other end is gone when it is listened to. -/
  | receiveFails
  /-- The other end is gone when it is sent to; this counts in the script of a
  transmission. -/
  | transmitFails
  deriving DecidableEq

/-- A call on a link. -/
inductive LinkCall where
  | transmit
  | receive
  deriving DecidableEq

structure ScriptedLink where
  queue : List ScriptItem := []
  /-- What the coming transmissions put into the queue. -/
  script : List (List ScriptItem) := []
  phase : Phase := .idle
  sent : List Bytes := []
  /-- Calls with the phase they were made in. -/
  calls : List (LinkCall × Phase) := []
  /-- How often something was waited for. -/
  waits : Nat := 0
  deriving DecidableEq

namespace ScriptedLink

def note (call : LinkCall) (s : ScriptedLink) : ScriptedLink :=
  { s with calls := s.calls ++ [(call, s.phase)] }

def transmit (bytes : Bytes) (s : ScriptedLink) : Except LinkError Unit × ScriptedLink :=
  let part := s.script.headD []
  let arriving := part.takeWhile fun item => item ≠ .transmitFails
  let s := note .transmit
    { s with sent := s.sent ++ [bytes], script := s.script.drop 1, queue := s.queue ++ arriving }
  (if arriving.length = part.length then .ok () else .error .disconnected, s)

/-- What the front of the queue is to a receiver. -/
def arrival : ScriptItem → Except LinkError (Option Bytes)
  | .piece bytes => .ok (some bytes)
  | .silence => .ok none
  | .receiveFails | .transmitFails => .error .disconnected

def receive (timeout : Duration) (s : ScriptedLink) :
    Except LinkError (Option Bytes) × ScriptedLink :=
  let s := note .receive { s with waits := s.waits + if timeout = .zero then 0 else 1 }
  match s.queue with
  | [] => (.ok none, s)
  | item :: rest => (arrival item, { s with queue := rest })

def link : Link ScriptedLink where
  transmit := transmit
  receive := receive
  watch phase s := { s with phase }
  backlog s := s.queue.length
  backlog_receive := by
    intro timeout s s' a h
    unfold receive note at h
    cases hq : s.queue with
    | nil => simp [hq] at h
    | cons item rest =>
      simp only [hq] at h
      obtain ⟨-, rfl⟩ := Prod.mk.inj h
      simp

end ScriptedLink

end HarnessLink
