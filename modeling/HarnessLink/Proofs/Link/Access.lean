import HarnessLink.Link.Staging
import HarnessLink.Proofs.Link.Events

/-!
# Exclusive access to a staging buffer

Any number of users share one staged link. A session keeps beside it the guards that are alive, and
for each of them all that was done to its buffer. Some guards are acquired by users who coordinate
access themselves, the others belong to sends, and whatever the users do may happen between the
steps of a send: it is filling its guard, then the link has been given the bytes, and at last the
guard is dropped. A guard can also be dropped early, as when filling is given up. To wait for access
is to look again and again, and only the look that decides counts. Whoever wants to wait past the end
of the clock breaks off, and nothing has happened.
-/
namespace HarnessLink

/-! ## Sessions -/

inductive GuardUse where
  /-- The user coordinates access. -/
  | own
  /-- A send that stages its bytes. -/
  | filling
  /-- A send whose bytes the link has been given. -/
  | handed
  deriving DecidableEq

/-- A guard, its place in the order of granting, and all that was done to its buffer. -/
structure GuardRecord where
  number : Nat
  guard : StagingGuard
  use : GuardUse
  edits : List (Bytes → Bytes) := []

namespace GuardRecord

/-- The bytes that have been staged under a guard, from nothing. -/
def staged (r : GuardRecord) : Bytes := r.edits.foldl (fun bytes change => change bytes) []

def edit (change : Bytes → Bytes) (r : GuardRecord) : GuardRecord :=
  { r with guard := r.guard.edit change, edits := r.edits ++ [change] }

@[simp] theorem staged_edit (change : Bytes → Bytes) (r : GuardRecord) :
    (r.edit change).staged = change r.staged := by
  simp [staged, edit]

end GuardRecord

inductive StagingAction where
  | acquire (now timeout : Duration)
  | write (number : Nat) (bytes : Bytes)
  /-- Write straight into the buffer. -/
  | edit (number : Nat) (change : Bytes → Bytes)
  | drop (number : Nat)
  | send (now timeout : Duration) (bytes : Bytes)
  | sendWith (now timeout : Duration) (change : Bytes → Bytes)
  /-- A send acquires its guard. What it stages, that it is handed over and that the guard is
  dropped are actions of their own. -/
  | beginSend (now timeout : Duration)
  /-- The link is given the bytes of such a send. -/
  | hand (number : Nat)

/-- A staged link with what has become of the guards. -/
structure StagingSession (τ : Type) where
  staged : Staged (Recorded τ)
  /-- The guards that have not been dropped. -/
  alive : List GuardRecord := []
  /-- How many guards there have been. -/
  granted : Nat := 0
  /-- The guards whose bytes the link was given, as they were then. -/
  handed : List GuardRecord := []

/-- Whoever acquires access next is granted it, with an empty buffer. -/
def Staged.Free {τ : Type} (s : Staged τ) : Prop :=
  ∀ {now timeout due : Duration}, now.deadline? timeout = some due →
    ∃ s', s.acquire? now timeout = some (.ok ⟨[]⟩, s')

theorem Staged.free_of_not_held {τ : Type} {s : Staged τ} (h : s.isHeld = false) : s.Free :=
  fun hdue => ⟨_, Staged.acquire?_of_free h hdue⟩

namespace StagingSession

variable {τ : Type} (behavior : Link τ)

def start (link : τ) : StagingSession τ := { staged := { link := ⟨link, []⟩ } }

def guard? (number : Nat) (s : StagingSession τ) : Option GuardRecord :=
  s.alive.find? fun r => r.number = number

/-- A guard that is alive has become this. -/
def keep (r : GuardRecord) (s : StagingSession τ) : StagingSession τ :=
  { s with alive := s.alive.map fun r' => if r'.number = r.number then r else r' }

def acquire (now timeout : Duration) (use : GuardUse) (s : StagingSession τ) : StagingSession τ :=
  match s.staged.acquire? now timeout with
  | none => s
  | some (.error _, staged) => { s with staged }
  | some (.ok guard, staged) =>
    { s with
      staged
      alive := s.alive ++ [{ number := s.granted, guard, use }]
      granted := s.granted + 1 }

def edit (number : Nat) (change : Bytes → Bytes) (s : StagingSession τ) : StagingSession τ :=
  match s.guard? number with
  | some r => if r.use = .handed then s else s.keep (r.edit change)
  | none => s

def hand (number : Nat) (s : StagingSession τ) : StagingSession τ :=
  match s.guard? number with
  | some r =>
    if r.use = .filling then
      { s.keep { r with use := .handed } with
        staged := (s.staged.transmit behavior.recorded r.guard).2
        handed := s.handed ++ [r] }
    else s
  | none => s

def drop (number : Nat) (s : StagingSession τ) : StagingSession τ :=
  match s.guard? number with
  | some r =>
    { s with
      staged := s.staged.release r.guard
      alive := s.alive.filter fun r => r.number ≠ number }
  | none => s

/-- A send that nobody interrupts. If access is granted, its guard is of this number. -/
def sendWith (now timeout : Duration) (change : Bytes → Bytes) (s : StagingSession τ) :
    StagingSession τ :=
  match s.staged.sendWith? behavior.recorded now timeout (.edit change) with
  | none => s
  | some (_, staged) =>
    if s.staged.isHeld then { s with staged }
    else
      let r : GuardRecord := { number := s.granted, guard := ⟨[]⟩, use := .filling }
      { s with staged, granted := s.granted + 1, handed := s.handed ++ [r.edit change] }

def step (s : StagingSession τ) : StagingAction → StagingSession τ
  | .acquire now timeout => s.acquire now timeout .own
  | .write number bytes => s.edit number fun staged => staged ++ bytes
  | .edit number change => s.edit number change
  | .drop number => s.drop number
  | .send now timeout bytes => s.sendWith behavior now timeout fun staged => staged ++ bytes
  | .sendWith now timeout change => s.sendWith behavior now timeout change
  | .beginSend now timeout => s.acquire now timeout .filling
  | .hand number => s.hand behavior number

def run (s : StagingSession τ) (actions : List StagingAction) : StagingSession τ :=
  actions.foldl (step behavior) s

/-! ## Who has access -/

/-- Nobody has access, or one guard is alive. -/
inductive Access (s : StagingSession τ) : Prop
  | free (halive : s.alive = []) (hheld : s.staged.isHeld = false)
  | taken (r : GuardRecord) (halive : s.alive = [r]) (hheld : s.staged.isHeld = true)
    (hbytes : r.guard.bytes = r.staged) (hnumber : r.number < s.granted)
    (hunsent : r.use ≠ .handed → r.number ∉ s.handed.map GuardRecord.number)

/-- The link was given what had been staged under each of the guards that were handed over. -/
structure Accounts (s : StagingSession τ) : Prop where
  sent : LinkEvent.sent s.staged.link.events = s.handed.map GuardRecord.staged
  below : ∀ r ∈ s.handed, r.number < s.granted
  once : (s.handed.map GuardRecord.number).Nodup

variable {behavior} {s s' : StagingSession τ}

theorem guard?_of_free (halive : s.alive = []) (number : Nat) : s.guard? number = none := by
  rw [guard?, halive, List.find?_nil]

theorem guard?_of_taken {r : GuardRecord} (halive : s.alive = [r]) (number : Nat) :
    s.guard? number = if r.number = number then some r else none := by
  rw [guard?, halive]
  by_cases hnumber : r.number = number
  · simp [hnumber]
  · simp [hnumber]

theorem acquire_of_endless {now timeout : Duration} (hdue : now.deadline? timeout = none)
    (use : GuardUse) : s.acquire now timeout use = s := by
  rw [acquire, Staged.acquire?_of_endless hdue]

theorem sendWith_of_endless {now timeout : Duration} (hdue : now.deadline? timeout = none)
    (change : Bytes → Bytes) : s.sendWith behavior now timeout change = s := by
  rw [sendWith, Staged.sendWith?_of_endless _ hdue]

/-- No guard has the number of the next one. -/
theorem Access.guard?_granted (h : s.Access) : s.guard? s.granted = none := by
  cases h with
  | free halive hheld => exact guard?_of_free halive _
  | taken r halive hheld hbytes hnumber hunsent =>
    rw [guard?_of_taken halive, if_neg (Nat.ne_of_lt hnumber)]

/-- A guard is edited until it is handed over. -/
theorem edit_of_taken {r : GuardRecord} (halive : s.alive = [r]) (huse : r.use ≠ .handed)
    (change : Bytes → Bytes) : s.edit r.number change = { s with alive := [r.edit change] } := by
  simp [edit, guard?_of_taken halive, huse, keep, halive, GuardRecord.edit]

theorem hand_of_taken {r : GuardRecord} (halive : s.alive = [r]) (huse : r.use = .filling) :
    s.hand behavior r.number = { s with
      staged := (s.staged.transmit behavior.recorded r.guard).2
      alive := [{ r with use := .handed }]
      handed := s.handed ++ [r] } := by
  simp [hand, guard?_of_taken halive, huse, keep, halive]

theorem drop_of_taken {r : GuardRecord} (halive : s.alive = [r]) :
    s.drop r.number = { s with staged := s.staged.release r.guard, alive := [] } := by
  simp [drop, guard?_of_taken halive, halive]

namespace Accounts

/-- Nothing was handed over. -/
theorem same (h : s.Accounts) (hlink : s'.staged.link = s.staged.link)
    (hhanded : s'.handed = s.handed) (hgranted : s.granted ≤ s'.granted) : s'.Accounts := by
  refine ⟨?_, ?_, ?_⟩
  · rw [hlink, hhanded, h.sent]
  · rw [hhanded]
    exact fun r hr => Nat.lt_of_lt_of_le (h.below r hr) hgranted
  · rw [hhanded]
    exact h.once

/-- One more guard was handed over. -/
theorem more (h : s.Accounts) {r : GuardRecord} {result : Except LinkError Unit}
    (hevents : s'.staged.link.events = s.staged.link.events ++ [.transmitted r.staged result])
    (hhanded : s'.handed = s.handed ++ [r]) (hgranted : s.granted ≤ s'.granted)
    (hbelow : r.number < s'.granted) (hnew : r.number ∉ s.handed.map GuardRecord.number) :
    s'.Accounts := by
  refine ⟨?_, ?_, ?_⟩
  · simp [hevents, hhanded, h.sent]
  · rw [hhanded]
    intro r' hr'
    obtain hr' | rfl := by simpa using hr'
    · exact Nat.lt_of_lt_of_le (h.below r' hr') hgranted
    · exact hbelow
  · rw [hhanded, List.map_append, List.map_singleton]
    refine List.nodup_append.mpr ⟨h.once, by simp, fun number hmem number' hnumber heq => ?_⟩
    obtain rfl := List.mem_singleton.mp hnumber
    exact hnew (heq ▸ hmem)

/-- The number of the next guard is new. -/
theorem granted_not_mem (h : s.Accounts) : s.granted ∉ s.handed.map GuardRecord.number := by
  intro hmem
  obtain ⟨r, hr, hnumber⟩ := List.mem_map.mp hmem
  exact Nat.ne_of_lt (h.below r hr) hnumber

end Accounts

/-- Exclusive access, and an account of what was sent. -/
structure Guarded (s : StagingSession τ) : Prop where
  access : s.Access
  accounts : s.Accounts

namespace Guarded

theorem start (link : τ) : (start link : StagingSession τ).Guarded :=
  ⟨.free rfl rfl, rfl, by simp [StagingSession.start], .nil⟩

theorem acquire (h : s.Guarded) (now timeout : Duration) (use : GuardUse) :
    (s.acquire now timeout use).Guarded := by
  cases hdue : now.deadline? timeout with
  | none =>
    rw [acquire_of_endless hdue]
    exact h
  | some due =>
    cases h.access with
    | free halive hheld =>
      simp only [StagingSession.acquire, Staged.acquire?_of_free hheld hdue, halive, List.nil_append]
      refine ⟨.taken _ rfl rfl rfl (Nat.lt_succ_self _) fun _ => h.accounts.granted_not_mem, ?_⟩
      exact h.accounts.same rfl rfl (Nat.le_succ _)
    | taken r halive hheld =>
      simp only [StagingSession.acquire, Staged.acquire?_of_held hheld hdue]
      exact h

theorem edit (h : s.Guarded) (number : Nat) (change : Bytes → Bytes) :
    (s.edit number change).Guarded := by
  cases h.access with
  | free halive hheld =>
    rw [StagingSession.edit, guard?_of_free halive]
    exact h
  | taken r halive hheld hbytes hnumber hunsent =>
    by_cases hfound : r.number = number
    · subst hfound
      by_cases huse : r.use = .handed
      · simpa [StagingSession.edit, guard?_of_taken halive, huse] using h
      · rw [edit_of_taken halive huse]
        refine ⟨.taken _ rfl hheld ?_ hnumber hunsent, h.accounts.same rfl rfl (Nat.le_refl _)⟩
        rw [GuardRecord.staged_edit, ← hbytes]
        rfl
    · rw [StagingSession.edit, guard?_of_taken halive, if_neg hfound]
      exact h

theorem hand (h : s.Guarded) (number : Nat) : (s.hand behavior number).Guarded := by
  cases h.access with
  | free halive hheld =>
    rw [StagingSession.hand, guard?_of_free halive]
    exact h
  | taken r halive hheld hbytes hnumber hunsent =>
    by_cases hfound : r.number = number
    · subst hfound
      by_cases huse : r.use = .filling
      · have hevents : (s.staged.transmit behavior.recorded r.guard).2.link.events =
            s.staged.link.events ++
              [.transmitted r.staged (behavior.transmit r.guard.bytes s.staged.link.link).1] := by
          rw [← hbytes]
          rfl
        have hnew : r.number ∉ s.handed.map GuardRecord.number := hunsent (by simp [huse])
        rw [hand_of_taken halive huse]
        refine ⟨.taken _ rfl hheld hbytes hnumber fun hunhanded => (hunhanded rfl).elim, ?_⟩
        exact h.accounts.more hevents rfl (Nat.le_refl _) hnumber hnew
      · simpa [StagingSession.hand, guard?_of_taken halive, huse] using h
    · rw [StagingSession.hand, guard?_of_taken halive, if_neg hfound]
      exact h

theorem drop (h : s.Guarded) (number : Nat) : (s.drop number).Guarded := by
  cases h.access with
  | free halive hheld =>
    rw [StagingSession.drop, guard?_of_free halive]
    exact h
  | taken r halive hheld hbytes hnumber hunsent =>
    by_cases hfound : r.number = number
    · subst hfound
      rw [drop_of_taken halive]
      exact ⟨.free rfl rfl, h.accounts.same rfl rfl (Nat.le_refl _)⟩
    · rw [StagingSession.drop, guard?_of_taken halive, if_neg hfound]
      exact h

/-- A send acquires a guard, stages its bytes, hands the guard over and drops it. -/
theorem sendWith_eq (h : s.Guarded) (now timeout : Duration) (change : Bytes → Bytes) :
    s.sendWith behavior now timeout change =
      ((((s.acquire now timeout .filling).edit s.granted change).hand behavior s.granted).drop
        s.granted) := by
  have habsent := h.access.guard?_granted
  cases hdue : now.deadline? timeout with
  | none =>
    rw [sendWith_of_endless hdue, acquire_of_endless hdue]
    simp [StagingSession.edit, StagingSession.hand, StagingSession.drop, habsent]
  | some due =>
    cases h.access with
    | free halive hheld =>
      let r : GuardRecord := { number := s.granted, guard := ⟨[]⟩, use := .filling }
      let held : Staged (Recorded τ) := { s.staged with isHeld := true, buffer := [] }
      have hacquire : s.acquire now timeout .filling =
          { s with staged := held, alive := [r], granted := s.granted + 1 } := by
        simp [StagingSession.acquire, Staged.acquire?_of_free hheld hdue, halive, r, held]
      have hedit : (s.acquire now timeout .filling).edit s.granted change =
          { s with staged := held, alive := [r.edit change], granted := s.granted + 1 } := by
        rw [hacquire]
        exact edit_of_taken (r := r) rfl (by simp [r]) change
      have hhand :
          ((s.acquire now timeout .filling).edit s.granted change).hand behavior s.granted =
            { s with
              staged := (held.transmit behavior.recorded (r.edit change).guard).2
              alive := [{ r.edit change with use := .handed }]
              granted := s.granted + 1
              handed := s.handed ++ [r.edit change] } := by
        rw [hedit]
        exact hand_of_taken (r := r.edit change) rfl rfl
      rw [hhand]
      refine Eq.trans ?_ (drop_of_taken (r := { r.edit change with use := .handed }) rfl).symm
      simp only [StagingSession.sendWith, Staged.sendWith?_of_free _ hheld hdue, hheld, halive]
      rfl
    | taken r halive hheld hbytes hnumber =>
      simp [StagingSession.sendWith, Staged.sendWith?_of_held _ hheld hdue, hheld,
        StagingSession.acquire, Staged.acquire?_of_held hheld hdue, StagingSession.edit,
        StagingSession.hand, StagingSession.drop, habsent]

theorem sendWith (h : s.Guarded) (now timeout : Duration) (change : Bytes → Bytes) :
    (s.sendWith behavior now timeout change).Guarded := by
  rw [h.sendWith_eq]
  exact (((h.acquire now timeout .filling).edit _ change).hand _).drop _

theorem step (h : s.Guarded) (action : StagingAction) : (s.step behavior action).Guarded := by
  cases action with
  | acquire now timeout => exact h.acquire now timeout .own
  | write number bytes => exact h.edit number _
  | edit number change => exact h.edit number change
  | drop number => exact h.drop number
  | send now timeout bytes => exact h.sendWith now timeout _
  | sendWith now timeout change => exact h.sendWith now timeout change
  | beginSend now timeout => exact h.acquire now timeout .filling
  | hand number => exact h.hand number

theorem run (h : s.Guarded) (actions : List StagingAction) : (s.run behavior actions).Guarded := by
  induction actions generalizing s with
  | nil => exact h
  | cons action actions ih => exact ih (h.step action)

end Guarded

/-! ## What the users can rely on -/

/-- Staged transmission is exclusive and complete. -/
structure Exclusive (behavior : Link τ) (s : StagingSession τ) : Prop where
  single : s.alive.length ≤ 1
  held : s.staged.isHeld = true ↔ s.alive ≠ []
  /-- A guard has the bytes that were staged under it. -/
  bytes : ∀ r ∈ s.alive, r.guard.bytes = r.staged
  /-- What the link was given is what had been staged under one guard after the other. -/
  sent : LinkEvent.sent s.staged.link.events = s.handed.map GuardRecord.staged
  once : (s.handed.map GuardRecord.number).Nodup
  /-- Access is granted when no guard is alive, and the buffer is empty then. -/
  acquire {now timeout due : Duration} (hdue : now.deadline? timeout = some due) :
    ∃ staged, s.staged.acquire? now timeout =
      some (if s.alive = [] then .ok ⟨[]⟩ else .error (.writeDenied timeout), staged)
  /-- While a guard is alive, to acquire another one or to send is denied and changes nothing. -/
  denied (halive : s.alive ≠ []) {now timeout due : Duration}
    (hdue : now.deadline? timeout = some due) (use : GuardUse)
    (fill : StagingGuard → StagingGuard) : s.acquire now timeout use = s ∧
      s.staged.sendWith? behavior.recorded now timeout fill =
        some (.error (.writeDenied timeout), s.staged)
  /-- Otherwise a send gives the link what it stages. Access can be acquired after it, whether the
  link took the bytes or not. -/
  sends (halive : s.alive = []) {now timeout due : Duration}
    (hdue : now.deadline? timeout = some due) (fill : StagingGuard → StagingGuard) :
    ∃ result staged,
      s.staged.sendWith? behavior.recorded now timeout fill = some (result, staged) ∧
      result = (behavior.transmit (fill ⟨[]⟩).bytes s.staged.link.link).1 ∧
      staged.link.events = s.staged.link.events ++ [.transmitted (fill ⟨[]⟩).bytes result] ∧
      staged.Free
  /-- Access can also be acquired after the guard that is alive is dropped, whatever it was for and
  however far it had come. -/
  dropped : ∀ r ∈ s.alive, (s.drop r.number).alive = [] ∧ (s.drop r.number).staged.Free
  /-- Whoever wants to wait past the end of the clock changes nothing. -/
  endless {now timeout : Duration} (hdue : now.deadline? timeout = none) (use : GuardUse)
    (fill : StagingGuard → StagingGuard) : s.acquire now timeout use = s ∧
      s.staged.sendWith? behavior.recorded now timeout fill = none

theorem Guarded.exclusive (h : s.Guarded) : s.Exclusive behavior := by
  have hendless : ∀ {now timeout : Duration}, now.deadline? timeout = none →
      ∀ (use : GuardUse) (fill : StagingGuard → StagingGuard), s.acquire now timeout use = s ∧
        s.staged.sendWith? behavior.recorded now timeout fill = none :=
    fun hdue use fill =>
      ⟨acquire_of_endless hdue use, Staged.sendWith?_of_endless _ hdue fill s.staged⟩
  cases h.access with
  | free halive hheld =>
    refine ⟨?_, ?_, ?_, h.accounts.sent, h.accounts.once, ?_, ?_, ?_, ?_, hendless⟩
    · simp [halive]
    · simp [halive, hheld]
    · simp [halive]
    · intro now timeout due hdue
      rw [Staged.acquire?_of_free hheld hdue, if_pos halive]
      exact ⟨_, rfl⟩
    · exact fun hnonempty => (hnonempty halive).elim
    · intro _ now timeout due hdue fill
      exact ⟨_, _, Staged.sendWith?_of_free _ hheld hdue fill, rfl, rfl, Staged.free_of_not_held rfl⟩
    · simp [halive]
  | taken r halive hheld hbytes hnumber hunsent =>
    have hnonempty : s.alive ≠ [] := by simp [halive]
    refine ⟨?_, ?_, ?_, h.accounts.sent, h.accounts.once, ?_, ?_, ?_, ?_, hendless⟩
    · simp [halive]
    · simp [halive, hheld]
    · simpa [halive] using hbytes
    · intro now timeout due hdue
      rw [Staged.acquire?_of_held hheld hdue, if_neg hnonempty]
      exact ⟨_, rfl⟩
    · intro _ now timeout due hdue use fill
      refine ⟨?_, Staged.sendWith?_of_held _ hheld hdue fill⟩
      rw [StagingSession.acquire, Staged.acquire?_of_held hheld hdue]
    · exact fun hempty => (hnonempty hempty).elim
    · intro r' hr'
      obtain rfl : r' = r := by simpa [halive] using hr'
      rw [drop_of_taken halive]
      exact ⟨rfl, Staged.free_of_not_held rfl⟩

/-- Users of one staged link never get in each other's way. In every state that they can bring
about, whatever the link does with the bytes it is given, at most one guard is alive, and access is
held just while one is. A guard is granted with an empty buffer. Every piece that the link was given
is what had been staged under one guard, and no guard was handed over twice. A send that is denied
access gives nothing to the link and leaves the guard that is alive as it is. A send that is granted
access has given it back when it ends, also if the link fails, and so has a guard that is dropped;
whoever acquires access next is granted it. A wait that the clock cannot tell the end of changes
nothing. -/
theorem run_exclusive (behavior : Link τ) (link : τ) (actions : List StagingAction) :
    ((start link).run behavior actions).Exclusive behavior :=
  ((Guarded.start link).run actions).exclusive

end StagingSession

end HarnessLink
