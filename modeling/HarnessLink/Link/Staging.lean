import HarnessLink.Link.Basic

/-!
# Staged transmission

Writers of one link share a staging buffer. Whoever has write access owns the
buffer meanwhile, which is empty at first, and sends it in one piece; everyone
else is denied access. Giving access up gives the buffer back with whatever is
in it. A send gives access up whether the link takes the bytes or not. Access is
waited for until a timeout ends; where the clock cannot tell its end nothing is
done at all, and there is no result.
-/
namespace HarnessLink

/-- Write access: the buffer, in the hands of one writer. -/
structure StagingGuard where
  bytes : Bytes
  deriving DecidableEq

namespace StagingGuard

/-- Change the buffer, as those do who write straight into it. -/
def edit (change : Bytes → Bytes) (guard : StagingGuard) : StagingGuard :=
  { guard with bytes := change guard.bytes }

/-- Append bytes to the buffer. -/
def write (bytes : Bytes) (guard : StagingGuard) : StagingGuard :=
  guard.edit fun staged => staged ++ bytes

def clear (guard : StagingGuard) : StagingGuard := { guard with bytes := [] }

end StagingGuard

/-- A link with its staging buffer, and whether someone has access to that. -/
structure Staged (τ : Type) where
  link : τ
  isHeld : Bool := false
  /-- The buffer as it was given back; empty while someone has access. -/
  buffer : Bytes := []

namespace Staged

/-- Take write access, from the time `now` on. While someone else has it nobody
gives it back, so all of the timeout passes. -/
def acquire? (now timeout : Duration) (s : Staged τ) :
    Option (Except LinkError StagingGuard × Staged τ) :=
  (now.deadline? timeout).map fun _ =>
    if s.isHeld then (.error (.writeDenied timeout), s)
    else (.ok (StagingGuard.clear ⟨s.buffer⟩), { s with isHeld := true, buffer := [] })

theorem acquire?_of_free {s : Staged τ} (h : s.isHeld = false) {now timeout due : Duration}
    (hdue : now.deadline? timeout = some due) :
    s.acquire? now timeout = some (.ok ⟨[]⟩, { s with isHeld := true, buffer := [] }) := by
  simp [acquire?, h, hdue, StagingGuard.clear]

theorem acquire?_of_held {s : Staged τ} (h : s.isHeld = true) {now timeout due : Duration}
    (hdue : now.deadline? timeout = some due) :
    s.acquire? now timeout = some (.error (.writeDenied timeout), s) := by
  simp [acquire?, h, hdue]

theorem acquire?_of_endless {now timeout : Duration} (h : now.deadline? timeout = none)
    (s : Staged τ) : s.acquire? now timeout = none := by
  simp [acquire?, h]

/-- Give write access back. -/
def release (guard : StagingGuard) (s : Staged τ) : Staged τ :=
  { s with isHeld := false, buffer := guard.bytes }

/-- Hand the staged bytes to the link. -/
def transmit (behavior : Link τ) (guard : StagingGuard) (s : Staged τ) :
    Except LinkError Unit × Staged τ :=
  let (result, link) := behavior.transmit guard.bytes s.link
  (result, { s with link })

/-- The end of a send: the staged bytes are handed over, and access is given
back. -/
def finish (behavior : Link τ) (guard : StagingGuard) (s : Staged τ) :
    Except LinkError Unit × Staged τ :=
  let (result, s) := s.transmit behavior guard
  (result, s.release guard)

/-- Let `fill` stage bytes, and send them in one piece. -/
def sendWith? (behavior : Link τ) (now timeout : Duration) (fill : StagingGuard → StagingGuard)
    (s : Staged τ) : Option (Except LinkError Unit × Staged τ) :=
  (s.acquire? now timeout).map fun
    | (.error e, s) => (.error e, s)
    | (.ok guard, s) => s.finish behavior (fill guard)

/-- The link gets what is staged, and access is given back whatever the link does. -/
theorem sendWith?_of_free (behavior : Link τ) {s : Staged τ} (h : s.isHeld = false)
    {now timeout due : Duration} (hdue : now.deadline? timeout = some due)
    (fill : StagingGuard → StagingGuard) :
    s.sendWith? behavior now timeout fill =
      some ((behavior.transmit (fill ⟨[]⟩).bytes s.link).1,
        { link := (behavior.transmit (fill ⟨[]⟩).bytes s.link).2
          buffer := (fill ⟨[]⟩).bytes }) := by
  simp only [sendWith?, acquire?_of_free h hdue]
  rfl

theorem sendWith?_of_held (behavior : Link τ) {s : Staged τ} (h : s.isHeld = true)
    {now timeout due : Duration} (hdue : now.deadline? timeout = some due)
    (fill : StagingGuard → StagingGuard) :
    s.sendWith? behavior now timeout fill = some (.error (.writeDenied timeout), s) := by
  simp only [sendWith?, acquire?_of_held h hdue]
  rfl

theorem sendWith?_of_endless (behavior : Link τ) {now timeout : Duration}
    (h : now.deadline? timeout = none) (fill : StagingGuard → StagingGuard) (s : Staged τ) :
    s.sendWith? behavior now timeout fill = none := by
  rw [sendWith?, acquire?_of_endless h, Option.map_none]

/-- Stage several parts and send them in one piece. -/
def sendParts? (behavior : Link τ) (now timeout : Duration) (parts : List Bytes) (s : Staged τ) :
    Option (Except LinkError Unit × Staged τ) :=
  s.sendWith? behavior now timeout fun guard =>
    parts.foldl (fun guard part => guard.write part) guard

def send? (behavior : Link τ) (now timeout : Duration) (bytes : Bytes) (s : Staged τ) :
    Option (Except LinkError Unit × Staged τ) :=
  s.sendWith? behavior now timeout fun guard => guard.write bytes

end Staged

end HarnessLink
