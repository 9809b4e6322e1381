import HarnessLink.Master.Service
import HarnessLink.Proofs.Master.Invariant

/-!
# Outcomes under tickets

A service serves one command after the other, and what it puts under a ticket is the outcome
of the command that was queued with it, on a master that was reached by the calls before.
Nobody else writes under the ticket, because every queued command has one of its own.
-/
namespace HarnessLink

/-! ## The queue -/

namespace ForwardQueue

/-- The tickets of the commands that wait were handed out. -/
def Issued (q : ForwardQueue) : Prop := ∀ item ∈ q.items, item.ticket < q.slots.length

theorem issued_create (capacity : Nat) : (create capacity).Issued := by
  intro item hitem
  cases hitem

/-- In `q'` nothing is new: no other commands wait than in `q`, and there is no outcome that was
not there. -/
structure Drains (q q' : ForwardQueue) : Prop where
  items : q'.items ⊆ q.items
  length : q'.slots.length = q.slots.length
  ready : ∀ ticket outcome, q'.slot ticket = .ready outcome → q.slot ticket = .ready outcome

theorem Drains.refl (q : ForwardQueue) : q.Drains q :=
  ⟨List.Subset.refl _, rfl, fun _ _ h => h⟩

theorem Drains.trans {q q' q'' : ForwardQueue} (h : q.Drains q') (h' : q'.Drains q'') :
    q.Drains q'' :=
  ⟨List.Subset.trans h'.items h.items, h'.length.trans h.length,
    fun ticket outcome hready => h.ready ticket outcome (h'.ready ticket outcome hready)⟩

theorem slot_setSlot (q : ForwardQueue) (ticket k : Nat) (s : ReplySlot) :
    (q.setSlot ticket s).slot k = if ticket = k ∧ k < q.slots.length then s else q.slot k := by
  simp only [slot, setSlot, List.getD_eq_getElem?_getD, List.getElem?_set]
  by_cases h : ticket = k
  · subst h
    by_cases hlt : ticket < q.slots.length <;> simp [hlt]
  · simp [h]

/-- Writing anything but an outcome. -/
theorem drains_setSlot (q : ForwardQueue) (ticket : Nat) {s : ReplySlot}
    (hs : ∀ outcome, s ≠ .ready outcome) : q.Drains (q.setSlot ticket s) := by
  refine ⟨List.Subset.refl _, List.length_set, ?_⟩
  intro k outcome hready
  rw [slot_setSlot] at hready
  split at hready
  · exact absurd hready (hs outcome)
  · exact hready

theorem drains_discard (q : ForwardQueue) (ticket : Nat) : q.Drains (q.discard ticket) := by
  rw [discard]
  split
  · exact q.drains_setSlot ticket fun _ => by simp
  · exact .refl q

theorem drains_dropConsumer (q : ForwardQueue) : q.Drains q.dropConsumer := by
  have hfold : ∀ (items : List Forwarded) (q : ForwardQueue),
      q.Drains (items.foldl (fun q item => q.discard item.ticket) q) := by
    intro items
    induction items with
    | nil => exact Drains.refl
    | cons item rest ih => exact fun q => (q.drains_discard item.ticket).trans (ih _)
  have h := hfold q.items q
  exact ⟨List.nil_subset _, h.length, h.ready⟩

theorem drains_pop (now timeout : Duration) (q : ForwardQueue) :
    q.Drains (q.pop now timeout).2 := by
  rw [pop]
  split
  · exact .refl q
  · split
    · next item rest hitems =>
      exact ⟨hitems ▸ List.subset_cons_self item rest, rfl, fun _ _ h => h⟩
    · exact .refl q

theorem mem_of_pop {now timeout : Duration} {q q' : ForwardQueue} {item : Forwarded}
    (h : q.pop now timeout = (.ok (some item), q')) : item ∈ q.items := by
  rw [pop] at h
  split at h
  · cases h
  · split at h
    · next hitems =>
      cases h
      exact hitems ▸ List.mem_cons_self
    · split at h <;> cases h

theorem drains_claim (q : ForwardQueue) (ticket : Nat) : q.Drains (q.claim ticket).2 := by
  rw [claim]
  split
  · exact q.drains_setSlot ticket fun _ => by simp
  · exact .refl q

theorem drains_settle (q : ForwardQueue) (command : DeviceCommand) (ticket : Nat)
    (timeout : Duration) : q.Drains (q.settle command ticket timeout).2 := by
  have hclaim := q.drains_claim ticket
  rw [settle]
  split
  all_goals
    next heq =>
      rw [heq] at hclaim
      first
        | exact hclaim
        | exact hclaim.trans (drains_setSlot _ ticket fun _ => by simp)

/-- What a producer gets was there. -/
theorem slot_of_settle {q : ForwardQueue} {command : DeviceCommand} {ticket : Nat}
    {timeout : Duration} {outcome : CommandOutcome}
    (h : (q.settle command ticket timeout).1 = .ok outcome) : q.slot ticket = .ready outcome := by
  cases hslot : q.slot ticket <;> simp [settle, claim, hslot] at h
  rw [h]

/-- Looking under a ticket is not broken off. -/
theorem settle_returns (q : ForwardQueue) (command : DeviceCommand) (ticket : Nat)
    (timeout : Duration) : NodeError.breaksOff (q.settle command ticket timeout).1 = false := by
  rw [settle]
  split <;> rfl

/-- Only the outcome that is put under a ticket is new. -/
theorem slot_complete {q : ForwardQueue} {k ticket : Nat} {outcome found : CommandOutcome}
    (h : (q.complete k outcome).slot ticket = .ready found) :
    q.slot ticket = .ready found ∨ k = ticket ∧ found = outcome := by
  rw [complete] at h
  split at h
  · rw [slot_setSlot] at h
    split at h
    · next hsame => exact Or.inr ⟨hsame.1, (ReplySlot.ready.inj h).symm⟩
    · exact Or.inl h
  · exact Or.inl h

theorem complete_same (q : ForwardQueue) (ticket : Nat) (outcome : CommandOutcome) :
    (q.complete ticket outcome).items = q.items ∧
      (q.complete ticket outcome).slots.length = q.slots.length := by
  rw [complete]
  split
  · exact ⟨rfl, List.length_set⟩
  · exact ⟨rfl, rfl⟩

theorem Issued.drains {q q' : ForwardQueue} (h : q.Issued) (hdrains : q.Drains q') :
    q'.Issued := by
  intro item hitem
  rw [hdrains.length]
  exact h item (hdrains.items hitem)

/-- The command is the only one that waits under the ticket, and an outcome that is there
has `p`. -/
structure Promises (q : ForwardQueue) (ticket : Nat) (command : DeviceCommand)
    (p : CommandOutcome → Prop) : Prop where
  issued : q.Issued
  waiting : ∀ item ∈ q.items, item.ticket = ticket → item.command = command
  ready : ∀ outcome, q.slot ticket = .ready outcome → p outcome

section Promises

variable {q q' : ForwardQueue} {ticket : Nat} {command : DeviceCommand}
variable {p : CommandOutcome → Prop}

theorem Promises.drains (h : q.Promises ticket command p) (hdrains : q.Drains q') :
    q'.Promises ticket command p :=
  ⟨h.issued.drains hdrains, fun item hitem => h.waiting item (hdrains.items hitem),
    fun outcome hslot => h.ready outcome (hdrains.ready ticket outcome hslot)⟩

/-- The outcome under another ticket does not matter. -/
theorem Promises.complete (h : q.Promises ticket command p) {k : Nat} {outcome : CommandOutcome}
    (hp : k = ticket → p outcome) : (q.complete k outcome).Promises ticket command p := by
  obtain ⟨hitems, hlength⟩ := q.complete_same k outcome
  refine ⟨?_, ?_, ?_⟩
  · rw [Issued, hitems, hlength]
    exact h.issued
  · rw [hitems]
    exact h.waiting
  · intro found hslot
    obtain hold | ⟨hsame, rfl⟩ := slot_complete hslot
    · exact h.ready found hold
    · exact hp hsame

/-- Every command gets a ticket of its own, unless the queue refuses it. -/
theorem push_cases (hq : q.Issued) (now : Duration) (command : DeviceCommand) (timeout : Duration)
    (p : CommandOutcome → Prop) :
    (∃ e, q.push now command timeout = (.error e, q)) ∨
      ∃ ticket q', q.push now command timeout = (.ok ticket, q') ∧
        q'.Promises ticket command p := by
  rw [push]
  split
  · exact Or.inl ⟨_, rfl⟩
  split
  · exact Or.inl ⟨_, rfl⟩
  split
  · refine Or.inr ⟨_, _, rfl, ?_, ?_, ?_⟩
    · intro item hitem
      rw [List.length_append, List.length_singleton]
      obtain hold | hnew := List.mem_append.mp hitem
      · exact Nat.lt_succ_of_lt (hq item hold)
      · rw [List.mem_singleton.mp hnew]
        exact Nat.lt_succ_self _
    · intro item hitem hticket
      obtain hold | hnew := List.mem_append.mp hitem
      · exact absurd hticket (Nat.ne_of_lt (hq item hold))
      · rw [List.mem_singleton.mp hnew]
    · intro outcome hslot
      simp [slot] at hslot
  · exact Or.inl ⟨_, rfl⟩

end Promises

end ForwardQueue

/-! ## The service -/

namespace Service

variable {σ τ : Type} {w : Wiring σ τ}

/-- An outcome of the command on a master that is reached from `m`. -/
def OutcomeOf (w : Wiring σ τ) (command : DeviceCommand) (m : Master σ τ)
    (outcome : CommandOutcome) : Prop :=
  ∃ calls, ((m.calls w calls).handle w command).1 = some outcome

/-- The service has the master that is reached from `m` by calls, and keeps a promise. -/
structure Attends (w : Wiring σ τ) (m : Master σ τ) (ticket : Nat) (command : DeviceCommand)
    (p : CommandOutcome → Prop) (s : Service σ τ) : Prop where
  reached : ∃ calls, s.master = m.calls w calls
  promised : s.queue.Promises ticket command p

section Attends

variable {m : Master σ τ} {ticket : Nat} {command : DeviceCommand}
variable {p : CommandOutcome → Prop} {s : Service σ τ}

/-- Nothing new in the queue. -/
theorem Attends.drains (h : Attends w m ticket command p s) {queue : ForwardQueue}
    (hqueue : s.queue.Drains queue) : Attends w m ticket command p { s with queue } :=
  ⟨h.reached, h.promised.drains hqueue⟩

theorem Attends.stop (h : Attends w m ticket command p s) (result : Except NodeError Unit) :
    Attends w m ticket command p (s.stop result) :=
  ⟨h.reached, h.promised.drains s.queue.drains_dropConsumer⟩

/-- One call more on the master. -/
theorem Attends.call (h : Attends w m ticket command p s) (call : MasterCall) :
    Attends w m ticket command p { s with master := s.master.call w call } := by
  obtain ⟨calls, hcalls⟩ := h.reached
  refine ⟨⟨calls ++ [call], ?_⟩, h.promised⟩
  rw [Master.calls_snoc, ← hcalls]

theorem Attends.cycle (h : Attends w m ticket command p s) (now : Duration) :
    Attends w m ticket command p (s.cycle w now) := by
  have hcall := h.call (.poll now)
  rw [Master.call] at hcall
  rcases hpoll : s.master.pollCycle w now with ⟨e | count, master⟩
  all_goals
    rw [hpoll] at hcall
    simp only [Service.cycle, hpoll]
  · split
    · exact hcall.stop _
    · exact hcall
  · exact hcall

/-- Serving a command puts its outcome under its ticket, if it has one. -/
theorem Attends.serve (h : Attends w m ticket command (OutcomeOf w command m) s)
    {item : Forwarded} (hitem : item.ticket = ticket → item.command = command) :
    Attends w m ticket command (OutcomeOf w command m) (s.serve w item) := by
  have hcall := h.call (.handle item.command)
  rw [Master.call] at hcall
  obtain ⟨calls, hcalls⟩ := h.reached
  rcases hhandle : s.master.handle w item.command with ⟨_ | outcome, master⟩
  all_goals
    rw [hhandle] at hcall
    simp only [Service.serve, hhandle]
  · exact (hcall.drains (s.queue.drains_discard item.ticket)).stop _
  · refine ⟨hcall.reached, hcall.promised.complete fun hticket => ⟨calls, ?_⟩⟩
    rw [← hcalls, ← hitem hticket, hhandle]

theorem Attends.turn (h : Attends w m ticket command (OutcomeOf w command m) s) :
    Attends w m ticket command (OutcomeOf w command m) (s.turn w) := by
  have hpopped := h.drains (s.queue.drains_pop (s.clock w) (s.nextWait w))
  rw [Service.turn]
  split
  · next heq =>
    rw [heq] at hpopped
    exact hpopped.stop _
  · next heq =>
    rw [heq] at hpopped
    exact hpopped.stop _
  · next heq =>
    rw [heq] at hpopped
    exact hpopped.cycle _
  · next item queue heq =>
    rw [heq] at hpopped
    have hserved := hpopped.serve (h.promised.waiting item (ForwardQueue.mem_of_pop heq))
    dsimp only at hserved ⊢
    split
    · exact hserved
    · exact hserved.cycle _

theorem Attends.turns (h : Attends w m ticket command (OutcomeOf w command m) s)
    (rounds : Nat) :
    Attends w m ticket command (OutcomeOf w command m) (s.turns w rounds) := by
  induction rounds generalizing s with
  | zero => exact h
  | succ rounds ih =>
    rw [Service.turns]
    split
    · exact h
    · exact ih h.turn

end Attends

/-- What a producer gets is the outcome of its command, on a master that was reached from the
one before, whatever else waits in the queue. -/
theorem submit_outcome {s : Service σ τ} (hs : s.queue.Issued) {command : DeviceCommand}
    {outcome : CommandOutcome} (h : (s.submit w command).1 = .ok outcome) :
    ∃ calls, ((s.master.calls w calls).handle w command).1 = some outcome := by
  obtain ⟨e, hpush⟩ | ⟨ticket, queue, hpush, hpromised⟩ := ForwardQueue.push_cases hs (s.clock w)
    command w.config.queueTimeout (OutcomeOf w command s.master)
  · simp only [submit, hpush] at h
    cases h
  · have hattends : Attends w s.master ticket command (OutcomeOf w command s.master)
        ({ s with queue } : Service σ τ) := ⟨⟨[], rfl⟩, hpromised⟩
    simp only [submit, hpush] at h
    exact (hattends.turns queue.items.length).promised.ready outcome
      (ForwardQueue.slot_of_settle h)

/-- A service hands out no ticket that does not exist and gets its master from `m` by calls. -/
structure ReachedFrom (w : Wiring σ τ) (m : Master σ τ) (s : Service σ τ) : Prop where
  issued : s.queue.Issued
  master : ∃ calls, s.master = m.calls w calls

/-- Submitting a command, whatever becomes of it. -/
theorem ReachedFrom.submit {m : Master σ τ} {s : Service σ τ} (h : s.ReachedFrom w m)
    (command : DeviceCommand) : (s.submit w command).2.ReachedFrom w m := by
  obtain ⟨hissued, before, hbefore⟩ := h
  obtain ⟨e, hpush⟩ | ⟨ticket, queue, hpush, hpromised⟩ := ForwardQueue.push_cases hissued
    (s.clock w) command w.config.queueTimeout (OutcomeOf w command s.master)
  · simp only [Service.submit, hpush]
    exact ⟨hissued, before, hbefore⟩
  · have hattends : Attends w s.master ticket command (OutcomeOf w command s.master)
        ({ s with queue } : Service σ τ) := ⟨⟨[], rfl⟩, hpromised⟩
    have hserved := hattends.turns queue.items.length
    obtain ⟨calls, hcalls⟩ := hserved.reached
    simp only [Service.submit, hpush]
    refine ⟨hserved.promised.issued.drains (ForwardQueue.drains_settle _ _ _ _),
      before ++ calls, ?_⟩
    rw [Master.calls_append, ← hbefore]
    exact hcalls

/-- Nothing is done for a while. -/
def rested (w : Wiring σ τ) (span : Duration) (s : Service σ τ) : Service σ τ :=
  { s with master := s.master.rested w span }

theorem ReachedFrom.rested {m : Master σ τ} {s : Service σ τ} (h : s.ReachedFrom w m)
    (span : Duration) : (s.rested w span).ReachedFrom w m := by
  obtain ⟨hissued, calls, hcalls⟩ := h
  refine ⟨hissued, calls ++ [.rest span], ?_⟩
  rw [Master.calls_snoc, ← hcalls]
  rfl

/-- Submitting any number of commands, with any spans of time before them. -/
theorem ReachedFrom.submits {m : Master σ τ} {s : Service σ τ} (h : s.ReachedFrom w m)
    (commands : List (Duration × DeviceCommand)) :
    (commands.foldl (fun s c => ((s.rested w c.1).submit w c.2).2) s).ReachedFrom w m := by
  induction commands generalizing s with
  | nil => exact h
  | cons c rest ih => exact ih ((h.rested c.1).submit c.2)

/-- A step of a cycle drops no outcome when nothing waits. -/
theorem slots_cycle (w : Wiring σ τ) (now : Duration) {s : Service σ τ}
    (h : s.queue.items = []) : (s.cycle w now).queue.slots = s.queue.slots := by
  rw [cycle]
  split
  · split
    · show s.queue.dropConsumer.slots = _
      rw [ForwardQueue.dropConsumer, h]
      rfl
    · rfl
  · rfl

/-- A service with nothing else to do gives the outcome of a command that is carried out to its
end, if the clock tells how long to wait for room and for the command. -/
theorem submit_idle {s : Service σ τ} (hidle : s.queue.items = [])
    (halive : s.queue.consumerAlive = true) (hended : s.ended? = none) {command : DeviceCommand}
    {outcome : CommandOutcome} (houtcome : (s.master.handle w command).1 = some outcome)
    (hroom : ((s.clock w).deadline? w.config.queueTimeout).isSome = true)
    (hwait : ((s.clock w).deadline? (s.nextWait w)).isSome = true) :
    (s.submit w command).1 = .ok outcome := by
  obtain ⟨queue, master, ended?⟩ := s
  obtain ⟨capacity, hcapacity, items, producers, consumerAlive, slots⟩ := queue
  dsimp only at hidle halive hended houtcome
  subst hidle halive hended
  let queue : ForwardQueue := ⟨capacity, hcapacity, [], producers, true, slots ++ [.waiting]⟩
  let waiting : Service σ τ :=
    { queue := { queue with items := [⟨slots.length, command⟩] }, master }
  let served : Service σ τ :=
    { queue := { queue with slots := slots ++ [.ready outcome] },
      master := (master.handle w command).2 }
  have hpush : ForwardQueue.push (clock w ⟨⟨capacity, hcapacity, [], producers, true, slots⟩,
      master, none⟩) command w.config.queueTimeout
      ⟨capacity, hcapacity, [], producers, true, slots⟩ = (.ok slots.length, waiting.queue) := by
    obtain ⟨due, hdue⟩ := Option.isSome_iff_exists.mp hroom
    simp [ForwardQueue.push, hdue, hcapacity, queue, waiting]
  have hpop : waiting.queue.pop (waiting.clock w) (waiting.nextWait w) =
      (.ok (some ⟨slots.length, command⟩), queue) := by
    obtain ⟨due, hdue⟩ := Option.isSome_iff_exists.mp hwait
    have hsame : (waiting.clock w).deadline? (waiting.nextWait w) = some due := hdue
    rw [ForwardQueue.pop, hsame]
    rfl
  have hserve : serve w ⟨slots.length, command⟩ { queue, master } = served := by
    have hset : (slots ++ [ReplySlot.waiting]).set slots.length (.ready outcome) =
        slots ++ [.ready outcome] := by simp
    have hslot : queue.slot slots.length = .waiting := by simp [queue, ForwardQueue.slot]
    rcases hhandle : master.handle w command with ⟨result, master'⟩
    rw [hhandle] at houtcome
    obtain rfl : result = some outcome := houtcome
    simp only [serve, hhandle, ForwardQueue.complete, hslot, if_true, ForwardQueue.setSlot, queue,
      hset, served]
  have hturn : waiting.turn w = served.cycle w (served.clock w) := by
    rw [turn, hpop]
    simp only [waiting, hserve]
    rfl
  have hready : (served.cycle w (served.clock w)).queue.slot slots.length = .ready outcome := by
    rw [ForwardQueue.slot, slots_cycle w _ rfl]
    simp [served]
  have hcatchUp : waiting.catchUp w = served.cycle w (served.clock w) := hturn
  simp only [submit, hpush]
  rw [show ({ queue := waiting.queue, master } : Service σ τ) = waiting from rfl, hcatchUp]
  simp [ForwardQueue.settle, ForwardQueue.claim, hready]

end Service

end HarnessLink
