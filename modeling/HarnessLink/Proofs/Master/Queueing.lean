import Mathlib.Data.List.Nodup
import HarnessLink.Proofs.Master.Serving

/-!
# The queue loses nothing

Producers and the consumer act on a queue in any order, each action under the queue's lock. The
session of a queue keeps beside it what has happened: which commands were accepted, taken,
completed and thrown away, and which outcome was got under which ticket. No action reads these
records. An action of a party that is not there does nothing, and neither does a look of a
producer that waits for room or of a consumer that waits for a command, so only the look that
decides counts.
-/
namespace HarnessLink

/-! ## Slots, one at a time -/

namespace ForwardQueue

/-- A command is accepted by a consumer that is there, when there is room. -/
theorem push_ok {now : Duration} {command : DeviceCommand} {timeout : Duration} {ticket : Nat}
    {q q' : ForwardQueue} (h : q.push now command timeout = (.ok ticket, q')) :
    q.consumerAlive = true ∧ q.items.length < q.capacity ∧ ticket = q.slots.length ∧
      q' = { q with items := q.items ++ [⟨q.slots.length, command⟩],
                    slots := q.slots ++ [.waiting] } := by
  rw [push] at h
  split at h
  · cases h
  split at h
  · cases h
  · next halive =>
    split at h
    · next hroom =>
      cases h
      exact ⟨by simpa using halive, hroom, rfl, rfl⟩
    · cases h

/-- Why a command is refused: the consumer is gone, there is no room for it, or the clock cannot
tell how long to wait for room. -/
inductive Refuses (q : ForwardQueue) (now timeout : Duration) : NodeError → Prop
  | gone (hgone : q.consumerAlive = false) :
      Refuses q now timeout (.disconnected "orchestrator stopped")
  | full (halive : q.consumerAlive = true) (hfull : q.capacity ≤ q.items.length) :
      Refuses q now timeout (.queueFull q.capacity timeout)
  | endless (hend : now.deadline? timeout = none) : Refuses q now timeout .unmeasurable

/-- Why no command can be taken: no producer is left and nothing waits, or the clock cannot tell
how long to wait for one. -/
inductive Denies (q : ForwardQueue) (now timeout : Duration) : NodeError → Prop
  | alone (hproducers : q.producers = 0) (hitems : q.items = []) :
      Denies q now timeout (.disconnected "no producers left")
  | endless (hend : now.deadline? timeout = none) : Denies q now timeout .unmeasurable

theorem push_error {now : Duration} {command : DeviceCommand} {timeout : Duration} {e : NodeError}
    {q q' : ForwardQueue} (h : q.push now command timeout = (.error e, q')) :
    q' = q ∧ q.Refuses now timeout e := by
  rw [push] at h
  split at h
  · next hend =>
    cases h
    exact ⟨rfl, .endless (Option.isNone_iff_eq_none.mp hend)⟩
  split at h
  · next hgone =>
    cases h
    exact ⟨rfl, .gone (by simpa using hgone)⟩
  · next halive =>
    split at h
    · cases h
    · next hfull =>
      cases h
      exact ⟨rfl, .full (by simpa using halive) (Nat.le_of_not_lt hfull)⟩

theorem pop_error {now timeout : Duration} {e : NodeError} {q q' : ForwardQueue}
    (h : q.pop now timeout = (.error e, q')) : q' = q ∧ q.Denies now timeout e := by
  rw [pop] at h
  split at h
  · next hend =>
    cases h
    exact ⟨rfl, .endless (Option.isNone_iff_eq_none.mp hend)⟩
  split at h
  · cases h
  · next hitems =>
    split at h
    · next hproducers =>
      cases h
      exact ⟨rfl, .alone hproducers hitems⟩
    · cases h

theorem pop_none {now timeout : Duration} {q q' : ForwardQueue}
    (h : q.pop now timeout = (.ok none, q')) : q' = q ∧ q.producers ≠ 0 ∧ q.items = [] := by
  rw [pop] at h
  split at h
  · cases h
  split at h
  · cases h
  · next hitems =>
    split at h
    · cases h
    · next hproducers =>
      cases h
      exact ⟨rfl, hproducers, hitems⟩

theorem pop_some {now timeout : Duration} {item : Forwarded} {q q' : ForwardQueue}
    (h : q.pop now timeout = (.ok (some item), q')) :
    ∃ rest, q.items = item :: rest ∧ q' = { q with items := rest } := by
  rw [pop] at h
  split at h
  · cases h
  split at h
  · next rest hitems =>
    cases h
    exact ⟨rest, hitems, rfl⟩
  · split at h <;> cases h

theorem slot_push {now : Duration} {command : DeviceCommand} {timeout : Duration} {ticket : Nat}
    {q q' : ForwardQueue} (h : q.push now command timeout = (.ok ticket, q')) (k : Nat) :
    q'.slot k = if k = ticket then .waiting else q.slot k := by
  obtain ⟨-, -, rfl, rfl⟩ := push_ok h
  simp only [slot, List.getD_eq_getElem?_getD, List.getElem?_append]
  by_cases hk : k < q.slots.length
  · rw [if_pos hk, if_neg (Nat.ne_of_lt hk)]
  · by_cases hnew : k = q.slots.length
    · simp [hnew]
    · have hnone : q.slots[k]? = none := List.getElem?_eq_none (Nat.le_of_not_lt hk)
      have hpast : [ReplySlot.waiting][k - q.slots.length]? = none :=
        List.getElem?_eq_none (by simp only [List.length_singleton]; omega)
      rw [if_neg hk, if_neg hnew, hnone, hpast]

/-- A slot without a ticket is closed. -/
theorem issued_of_slot {q : ForwardQueue} {k : Nat} (h : q.slot k ≠ .closed) :
    k < q.slots.length := by
  by_cases hk : k < q.slots.length
  · exact hk
  · refine absurd ?_ h
    rw [slot, List.getD_eq_getElem?_getD, List.getElem?_eq_none (Nat.le_of_not_lt hk)]
    rfl

/-- What is put under a ticket that waits, and nowhere else. -/
theorem slot_fill (q : ForwardQueue) (ticket k : Nat) (s : ReplySlot) :
    (if q.slot ticket = .waiting then q.setSlot ticket s else q).slot k =
      if ticket = k ∧ q.slot k = .waiting then s else q.slot k := by
  by_cases hsame : ticket = k
  · subst hsame
    by_cases hwaiting : q.slot ticket = .waiting
    · have hissued := issued_of_slot (q := q) (k := ticket) (by simp [hwaiting])
      simp [hwaiting, slot_setSlot, hissued]
    · simp [hwaiting]
  · split <;> simp [slot_setSlot, hsame]

theorem slot_complete_eq (q : ForwardQueue) (ticket k : Nat) (outcome : CommandOutcome) :
    (q.complete ticket outcome).slot k =
      if ticket = k ∧ q.slot k = .waiting then .ready outcome else q.slot k :=
  q.slot_fill ticket k _

theorem consumerAlive_complete (q : ForwardQueue) (ticket : Nat) (outcome : CommandOutcome) :
    (q.complete ticket outcome).consumerAlive = q.consumerAlive := by
  rw [complete]
  split <;> rfl

theorem consumerAlive_discard (q : ForwardQueue) (ticket : Nat) :
    (q.discard ticket).consumerAlive = q.consumerAlive := by
  rw [discard]
  split <;> rfl

theorem slot_discard (q : ForwardQueue) (ticket k : Nat) :
    (q.discard ticket).slot k =
      if ticket = k ∧ q.slot k = .waiting then .closed else q.slot k :=
  q.slot_fill ticket k _

theorem discard_same (q : ForwardQueue) (ticket : Nat) : (q.discard ticket).items = q.items := by
  rw [discard]
  split <;> rfl

theorem slot_dropConsumer (q : ForwardQueue) (k : Nat) :
    q.dropConsumer.slot k =
      if (∃ item ∈ q.items, item.ticket = k) ∧ q.slot k = .waiting then .closed
      else q.slot k := by
  have hfold : ∀ (items : List Forwarded) (q : ForwardQueue),
      (items.foldl (fun q item => q.discard item.ticket) q).slot k =
        if (∃ item ∈ items, item.ticket = k) ∧ q.slot k = .waiting then .closed
        else q.slot k := by
    intro items
    induction items with
    | nil => simp
    | cons item rest ih =>
      intro q
      simp only [List.foldl_cons, ih, slot_discard, List.mem_cons, exists_eq_or_imp]
      by_cases hwaiting : q.slot k = .waiting
      · by_cases hsame : item.ticket = k <;> simp [hwaiting, hsame]
      · simp [hwaiting]
  exact hfold q.items q

/-- Nothing but slots is touched by the consumer's leaving, apart from what waits. -/
theorem dropConsumer_eq (q : ForwardQueue) : ∃ slots, slots.length = q.slots.length ∧
    q.dropConsumer = { q with items := [], consumerAlive := false, slots } := by
  have hfold : ∀ (items : List Forwarded) (q : ForwardQueue),
      ∃ slots, slots.length = q.slots.length ∧
        items.foldl (fun q item => q.discard item.ticket) q = { q with slots } := by
    intro items
    induction items with
    | nil => exact fun q => ⟨q.slots, rfl, rfl⟩
    | cons item rest ih =>
      intro q
      obtain ⟨slots, hlength, hfold⟩ := ih (q.discard item.ticket)
      rw [List.foldl_cons, hfold]
      rw [discard] at hlength ⊢
      split at hlength <;> rename_i hwaiting
      · rw [if_pos hwaiting]
        exact ⟨slots, hlength.trans List.length_set, rfl⟩
      · rw [if_neg hwaiting]
        exact ⟨slots, hlength, rfl⟩
  obtain ⟨slots, hlength, hfold⟩ := hfold q.items q
  exact ⟨slots, hlength, by rw [dropConsumer, hfold]⟩

theorem claim_fst (q : ForwardQueue) (ticket : Nat) : (q.claim ticket).1 = q.slot ticket := by
  cases hslot : q.slot ticket <;> simp [claim, hslot]

theorem settle_of_closed {q : ForwardQueue} {ticket : Nat} (h : q.slot ticket = .closed)
    (command : DeviceCommand) (timeout : Duration) :
    (q.settle command ticket timeout).1 =
      .error (.disconnected s!"orchestrator dropped {command.name} without an outcome") := by
  simp [settle, claim, h]

/-- An outcome that is there is got once, and otherwise nothing changes. -/
theorem claim_cases (q : ForwardQueue) (ticket : Nat) :
    (∃ outcome, q.slot ticket = .ready outcome ∧
      q.claim ticket = (.ready outcome, q.setSlot ticket .closed)) ∨
    (∀ outcome, q.slot ticket ≠ .ready outcome) ∧ q.claim ticket = (q.slot ticket, q) := by
  cases hslot : q.slot ticket with
  | ready outcome => exact Or.inl ⟨outcome, rfl, by simp [claim, hslot]⟩
  | _ => exact Or.inr ⟨by simp, by simp [claim, hslot]⟩

end ForwardQueue

/-! ## Sessions -/

/-- A queue at work, and what has happened at it. -/
structure Session where
  queue : ForwardQueue
  /-- Handles that producers hold. -/
  handles : Nat := 1
  accepted : List Forwarded := []
  popped : List Forwarded := []
  /-- Taken, and neither completed nor given up so far. -/
  held : List Forwarded := []
  completed : List (Forwarded × CommandOutcome) := []
  /-- Taken, and dropped without an outcome. -/
  givenUp : List Forwarded := []
  /-- Thrown away with the consumer. -/
  lost : List Forwarded := []
  /-- What producers got, and under which ticket. -/
  received : List (Nat × CommandOutcome) := []
  /-- Tickets under which nobody looks any more. -/
  abandoned : List Nat := []

/-- What producers do. One that forwards a command and waits for its outcome pushes and, when
its wait is over, settles. -/
inductive ClientAction where
  | push (now : Duration) (command : DeviceCommand) (timeout : Duration)
  | addProducer
  | dropProducer
  | claim (ticket : Nat)
  | settle (command : DeviceCommand) (ticket : Nat) (timeout : Duration)
  | abandon (ticket : Nat)

inductive QueueAction where
  | client (action : ClientAction)
  | pop (now timeout : Duration)
  | complete (item : Forwarded) (outcome : CommandOutcome)
  | giveUp (item : Forwarded)
  | dropConsumer

namespace Session

def start (capacity : Nat) : Session := { queue := .create capacity }

def push (now : Duration) (command : DeviceCommand) (timeout : Duration) (s : Session) : Session :=
  match s.queue.push now command timeout with
  | (.ok ticket, queue) => { s with queue, accepted := s.accepted ++ [⟨ticket, command⟩] }
  | (.error _, queue) => { s with queue }

def claim (ticket : Nat) (s : Session) : Session :=
  match s.queue.claim ticket with
  | (.ready outcome, queue) => { s with queue, received := s.received ++ [(ticket, outcome)] }
  | (_, queue) => { s with queue }

/-- A producer knows the tickets that it was given. -/
def abandon (ticket : Nat) (s : Session) : Session :=
  if ticket < s.queue.slots.length then
    { s with queue := s.queue.abandon ticket, abandoned := s.abandoned ++ [ticket] }
  else s

def settle (command : DeviceCommand) (ticket : Nat) (timeout : Duration) (s : Session) :
    Session :=
  match s.queue.settle command ticket timeout with
  | (.ok outcome, queue) => { s with queue, received := s.received ++ [(ticket, outcome)] }
  | (.error (.timeout _), queue) => { s with queue, abandoned := s.abandoned ++ [ticket] }
  | (.error _, queue) => { s with queue }

/-- Only a producer pushes, and only from a handle is another one made. -/
def client : ClientAction → Session → Session
  | .push now command timeout, s => if s.handles = 0 then s else s.push now command timeout
  | .addProducer, s =>
    if s.handles = 0 then s
    else { s with queue := s.queue.addProducer, handles := s.handles + 1 }
  | .dropProducer, s =>
    if s.handles = 0 then s
    else { s with queue := s.queue.dropProducer, handles := s.handles - 1 }
  | .claim ticket, s => s.claim ticket
  | .settle command ticket timeout, s => s.settle command ticket timeout
  | .abandon ticket, s => s.abandon ticket

def pop (now timeout : Duration) (s : Session) : Session :=
  match s.queue.pop now timeout with
  | (.ok (some item), queue) =>
    { s with queue, popped := s.popped ++ [item], held := s.held ++ [item] }
  | (_, queue) => { s with queue }

def complete (item : Forwarded) (outcome : CommandOutcome) (s : Session) : Session :=
  { s with
    queue := s.queue.complete item.ticket outcome
    held := s.held.erase item
    completed := s.completed ++ [(item, outcome)] }

def giveUp (item : Forwarded) (s : Session) : Session :=
  { s with
    queue := s.queue.discard item.ticket
    held := s.held.erase item
    givenUp := s.givenUp ++ [item] }

def dropConsumer (s : Session) : Session :=
  { s with queue := s.queue.dropConsumer, lost := s.lost ++ s.queue.items }

/-- Only a consumer that is there takes commands and leaves, and only what was taken is completed
or given up, also when the consumer has left. -/
def step (s : Session) : QueueAction → Session
  | .client action => s.client action
  | .pop now timeout => if s.queue.consumerAlive then s.pop now timeout else s
  | .complete item outcome => if item ∈ s.held then s.complete item outcome else s
  | .giveUp item => if item ∈ s.held then s.giveUp item else s
  | .dropConsumer => if s.queue.consumerAlive then s.dropConsumer else s

def run (actions : List QueueAction) (s : Session) : Session := actions.foldl step s

/-! ## What the records tell -/

/-- Where the accepted commands are. -/
def whereabouts (s : Session) : List Forwarded :=
  s.completed.map Prod.fst ++ s.givenUp ++ s.held ++ s.queue.items ++ s.lost

/-- The records account for every command that was accepted. -/
structure Accounts (capacity : Nat) (s : Session) : Prop where
  capacity : s.queue.capacity = max capacity 1
  bounded : s.queue.items.length ≤ s.queue.capacity
  inOrder : s.accepted = s.popped ++ s.queue.items ++ s.lost
  /-- Nothing is thrown away while the consumer is there, and nothing waits afterwards. -/
  present : s.queue.consumerAlive = true → s.lost = []
  left : s.queue.consumerAlive = false → s.queue.items = []
  producers : s.queue.producers = s.handles
  tickets : s.accepted.map (·.ticket) = List.range s.queue.slots.length
  taken : s.popped.Perm (s.completed.map Prod.fst ++ s.givenUp ++ s.held)

/-- The slots say what the records say. -/
structure SlotsAgree (s : Session) : Prop where
  abandoned : ∀ ticket ∈ s.abandoned, s.queue.slot ticket = .abandoned
  pending : ∀ item ∈ s.held ++ s.queue.items, item.ticket ∉ s.abandoned →
    s.queue.slot item.ticket = .waiting
  ready : ∀ item outcome, (item, outcome) ∈ s.completed → item.ticket ∉ s.abandoned →
    item.ticket ∉ s.received.map Prod.fst → s.queue.slot item.ticket = .ready outcome
  received : ∀ ticket ∈ s.received.map Prod.fst, ticket ∉ s.abandoned →
    s.queue.slot ticket = .closed
  dropped : ∀ item ∈ s.givenUp ++ s.lost, item.ticket ∉ s.abandoned →
    s.queue.slot item.ticket = .closed
  own : ∀ ticket outcome, (ticket, outcome) ∈ s.received →
    ∃ item, (item, outcome) ∈ s.completed ∧ item.ticket = ticket
  once : (s.received.map Prod.fst).Nodup

structure Orderly (capacity : Nat) (s : Session) : Prop where
  accounts : s.Accounts capacity
  slots : s.SlotsAgree

section Orderly

variable {capacity : Nat} {s : Session}

theorem orderly_start (capacity : Nat) : (start capacity).Orderly capacity where
  accounts := by constructor <;> simp [start, ForwardQueue.create]
  slots := by constructor <;> simp [start, ForwardQueue.create]

theorem Accounts.perm (h : s.Accounts capacity) : s.accepted.Perm s.whereabouts := by
  rw [h.inOrder, whereabouts]
  exact (h.taken.append_right _).append_right _

theorem Accounts.mem_iff (h : s.Accounts capacity) {item : Forwarded} :
    item ∈ s.accepted ↔ item ∈ s.whereabouts := h.perm.mem_iff

theorem Accounts.tickets_nodup (h : s.Accounts capacity) :
    (s.whereabouts.map (·.ticket)).Nodup := by
  refine (h.perm.map _).nodup_iff.mp ?_
  rw [h.tickets]
  exact List.nodup_range

theorem Accounts.issued (h : s.Accounts capacity) {item : Forwarded} (hitem : item ∈ s.accepted) :
    item.ticket < s.queue.slots.length := by
  rw [← List.mem_range, ← h.tickets]
  exact List.mem_map_of_mem hitem

theorem mem_of_completed {item : Forwarded} {outcome : CommandOutcome}
    (h : (item, outcome) ∈ s.completed) : item ∈ s.whereabouts := by
  simp only [whereabouts, List.mem_append]
  exact Or.inl (Or.inl (Or.inl (Or.inl (List.mem_map_of_mem h))))

theorem mem_of_dropped {item : Forwarded} (h : item ∈ s.givenUp ++ s.lost) :
    item ∈ s.whereabouts := by
  simp only [whereabouts, List.mem_append] at h ⊢
  exact h.elim (fun hgiven => Or.inl (Or.inl (Or.inl (Or.inr hgiven)))) Or.inr

theorem Accounts.completed_once (h : s.Accounts capacity) {item other : Forwarded}
    {outcome found : CommandOutcome} (hitem : (item, outcome) ∈ s.completed)
    (hother : (other, found) ∈ s.completed) (hsame : item.ticket = other.ticket) :
    outcome = found := by
  have hnodup : (s.completed.map fun c => c.1.ticket).Nodup := by
    have hall := h.tickets_nodup
    simp only [whereabouts, List.map_append, List.append_assoc, List.map_map] at hall
    exact (List.nodup_append.mp hall).1
  exact congrArg Prod.snd (List.inj_on_of_nodup_map hnodup hitem hother hsame)

/-- What was completed was not dropped. -/
theorem Accounts.apart (h : s.Accounts capacity) {item other : Forwarded}
    {outcome : CommandOutcome} (hitem : (item, outcome) ∈ s.completed)
    (hother : other ∈ s.givenUp ++ s.lost) : item.ticket ≠ other.ticket := by
  have hall := h.tickets_nodup
  simp only [whereabouts, List.map_append, List.append_assoc] at hall
  refine (List.nodup_append.mp hall).2.2 _
    (List.mem_map_of_mem (List.mem_map_of_mem hitem)) _ ?_
  simp only [← List.map_append]
  refine List.mem_map_of_mem ?_
  simp only [List.mem_append] at hother ⊢
  exact hother.imp_right fun hlost => Or.inr (Or.inr hlost)

/-- Outcomes are got under tickets that were handed out. -/
theorem SlotsAgree.mem_of_received (h : s.SlotsAgree) {ticket : Nat}
    (hticket : ticket ∈ s.received.map Prod.fst) : ∃ item ∈ s.whereabouts, item.ticket = ticket := by
  obtain ⟨⟨ticket, outcome⟩, hgot, rfl⟩ := List.mem_map.mp hticket
  obtain ⟨item, hcompleted, hsame⟩ := h.own ticket outcome hgot
  exact ⟨item, mem_of_completed hcompleted, hsame⟩

theorem Accounts.taken_cons (h : s.Accounts capacity) {item : Forwarded}
    (hheld : item ∈ s.held) :
    s.popped.Perm (item :: (s.completed.map Prod.fst ++ s.givenUp ++ s.held.erase item)) :=
  (h.taken.trans ((List.perm_cons_erase hheld).append_left _)).trans List.perm_middle

/-- The ticket of a command that is held is nobody else's. -/
theorem Accounts.others (h : s.Accounts capacity) {item : Forwarded} (hheld : item ∈ s.held) :
    ∀ other ∈ s.held.erase item ++ s.queue.items, item.ticket ≠ other.ticket := by
  have hperm := (h.taken_cons hheld).append_right (s.queue.items ++ s.lost)
  rw [← List.append_assoc, ← h.inOrder] at hperm
  have hnodup := (hperm.map (·.ticket)).nodup_iff.mp (by rw [h.tickets]; exact List.nodup_range)
  rw [List.cons_append, List.map_cons, List.nodup_cons] at hnodup
  intro other hother hsame
  refine hnodup.1 (hsame ▸ List.mem_map_of_mem ?_)
  simp only [List.mem_append] at hother ⊢
  exact hother.imp Or.inr Or.inl

/-! ## What each action keeps -/

theorem Orderly.push (h : s.Orderly capacity) (now : Duration) (command : DeviceCommand)
    (timeout : Duration) : (s.push now command timeout).Orderly capacity := by
  obtain ⟨ha, hs⟩ := h
  rcases hpush : s.queue.push now command timeout with ⟨e | ticket, queue⟩
  · obtain ⟨rfl, -⟩ := ForwardQueue.push_error hpush
    simp only [Session.push, hpush]
    exact ⟨ha, hs⟩
  · have hslot := ForwardQueue.slot_push hpush
    obtain ⟨halive, hroom, rfl, rfl⟩ := ForwardQueue.push_ok hpush
    have habandoned : ∀ ticket ∈ s.abandoned, ticket ≠ s.queue.slots.length := by
      intro ticket hticket
      exact Nat.ne_of_lt (ForwardQueue.issued_of_slot (by simp [hs.abandoned ticket hticket]))
    have hold : ∀ item ∈ s.whereabouts, item.ticket ≠ s.queue.slots.length := fun item hitem =>
      Nat.ne_of_lt (ha.issued (ha.mem_iff.mpr hitem))
    simp only [Session.push, hpush]
    refine ⟨⟨ha.capacity, ?_, ?_, ha.present, ?_, ha.producers, ?_, ha.taken⟩,
      ⟨?_, ?_, ?_, ?_, ?_, hs.own, hs.once⟩⟩
    · rw [List.length_append, List.length_singleton]
      exact hroom
    · simp only [ha.inOrder, ha.present halive, List.append_nil, List.append_assoc]
    · intro hgone
      rw [halive] at hgone
      cases hgone
    · rw [List.map_append, ha.tickets, List.length_append, List.length_singleton,
        List.range_succ]
      rfl
    · intro ticket hticket
      rw [hslot, if_neg (habandoned ticket hticket)]
      exact hs.abandoned ticket hticket
    · intro item hitem hlooks
      rw [hslot]
      split
      · rfl
      · next hnew =>
        refine hs.pending item ?_ hlooks
        simp only [List.mem_append, List.mem_singleton] at hitem ⊢
        obtain hheld | hwaiting | rfl := hitem
        · exact Or.inl hheld
        · exact Or.inr hwaiting
        · exact absurd rfl hnew
    · intro item outcome hcompleted hlooks hnot
      rw [hslot, if_neg (hold item (mem_of_completed hcompleted))]
      exact hs.ready item outcome hcompleted hlooks hnot
    · intro ticket hticket hlooks
      obtain ⟨item, hitem, rfl⟩ := hs.mem_of_received hticket
      rw [hslot, if_neg (hold item hitem)]
      exact hs.received _ hticket hlooks
    · intro item hitem hlooks
      rw [hslot, if_neg (hold item (mem_of_dropped hitem))]
      exact hs.dropped item hitem hlooks

/-- An outcome that is there has not been got, and somebody looks for it. -/
theorem SlotsAgree.fresh (h : s.SlotsAgree) {ticket : Nat} {outcome : CommandOutcome}
    (hslot : s.queue.slot ticket = .ready outcome) :
    ticket ∉ s.abandoned ∧ ticket ∉ s.received.map Prod.fst := by
  have hlooks : ticket ∉ s.abandoned := by
    intro hgone
    rw [h.abandoned _ hgone] at hslot
    cases hslot
  refine ⟨hlooks, fun hgot => ?_⟩
  rw [h.received _ hgot hlooks] at hslot
  cases hslot

/-- A slot holds an outcome only if it is the one of the command with this ticket. -/
theorem Orderly.completed_of_slot (h : s.Orderly capacity) {ticket : Nat}
    {outcome : CommandOutcome} (hslot : s.queue.slot ticket = .ready outcome) :
    ∃ item, (item, outcome) ∈ s.completed ∧ item.ticket = ticket := by
  obtain ⟨ha, hs⟩ := h
  have hissued := ForwardQueue.issued_of_slot (q := s.queue) (k := ticket) (by simp [hslot])
  rw [← List.mem_range, ← ha.tickets] at hissued
  obtain ⟨item, hitem, rfl⟩ := List.mem_map.mp hissued
  obtain ⟨hlooks, hnot⟩ := hs.fresh hslot
  rw [ha.mem_iff] at hitem
  simp only [whereabouts, List.mem_append] at hitem
  obtain (((hcompleted | hgiven) | hheld) | hwaiting) | hlost := hitem
  · obtain ⟨⟨item, found⟩, hmem, rfl⟩ := List.mem_map.mp hcompleted
    rw [hs.ready item found hmem hlooks hnot] at hslot
    cases hslot
    exact ⟨item, hmem, rfl⟩
  · rw [hs.dropped item (List.mem_append_left _ hgiven) hlooks] at hslot
    cases hslot
  · rw [hs.pending item (List.mem_append_left _ hheld) hlooks] at hslot
    cases hslot
  · rw [hs.pending item (List.mem_append_right _ hwaiting) hlooks] at hslot
    cases hslot
  · rw [hs.dropped item (List.mem_append_right _ hlost) hlooks] at hslot
    cases hslot

/-- The records do not depend on what is in a slot. -/
theorem Accounts.setSlot (h : s.Accounts capacity) (ticket : Nat) (found : ReplySlot) :
    ({ s with queue := s.queue.setSlot ticket found } : Session).Accounts capacity :=
  { h with tickets := by rw [h.tickets]; exact congrArg List.range List.length_set.symm }

theorem Accounts.fill (h : s.Accounts capacity) (ticket : Nat) (found : ReplySlot) :
    ({ s with queue := if s.queue.slot ticket = .waiting then s.queue.setSlot ticket found
                       else s.queue } : Session).Accounts capacity := by
  split
  · exact h.setSlot ticket found
  · exact h

theorem Orderly.claim (h : s.Orderly capacity) (ticket : Nat) :
    (s.claim ticket).Orderly capacity := by
  obtain ⟨outcome, hready, hclaim⟩ | ⟨hnone, hclaim⟩ := s.queue.claim_cases ticket
  · obtain ⟨item, hcompleted, hitem⟩ := h.completed_of_slot hready
    obtain ⟨ha, hs⟩ := h
    have hissued := ForwardQueue.issued_of_slot (q := s.queue) (k := ticket) (by simp [hready])
    have hslot : ∀ k found, s.queue.slot k = found → found ≠ .ready outcome →
        (s.queue.setSlot ticket .closed).slot k = found := by
      rintro k found rfl hfound
      rw [ForwardQueue.slot_setSlot, if_neg]
      rintro ⟨rfl, -⟩
      exact hfound hready
    simp only [Session.claim, hclaim]
    refine ⟨{ ha.setSlot ticket .closed with }, ⟨?_, ?_, ?_, ?_, ?_, ?_, ?_⟩⟩
    · exact fun k hk => hslot k _ (hs.abandoned k hk) (by simp)
    · exact fun item hitem hlooks => hslot _ _ (hs.pending item hitem hlooks) (by simp)
    · intro item found hcompleted hlooks hnot
      simp only [List.map_append, List.mem_append, not_or, List.map_cons, List.map_nil,
        List.mem_singleton] at hnot
      rw [ForwardQueue.slot_setSlot, if_neg fun hsame => hnot.2 hsame.1.symm]
      exact hs.ready item found hcompleted hlooks hnot.1
    · intro k hk hlooks
      rw [ForwardQueue.slot_setSlot]
      split
      · rfl
      · next hother =>
        simp only [List.map_append, List.mem_append, List.map_cons, List.map_nil,
          List.mem_singleton] at hk
        obtain hold | rfl := hk
        · exact hs.received k hold hlooks
        · exact absurd ⟨rfl, hissued⟩ hother
    · exact fun item hitem hlooks => hslot _ _ (hs.dropped item hitem hlooks) (by simp)
    · intro k found hgot
      obtain hold | hnew := List.mem_append.mp hgot
      · exact hs.own k found hold
      · cases List.mem_singleton.mp hnew
        exact ⟨item, hcompleted, hitem⟩
    · rw [List.map_append, List.nodup_append]
      refine ⟨hs.once, by simp, ?_⟩
      rintro k hk k' hk' rfl
      cases List.mem_singleton.mp hk'
      exact (hs.fresh hready).2 hk
  · rw [Session.claim, hclaim]
    split
    · next hfound => exact absurd (congrArg Prod.fst hfound) (hnone _)
    · next hfound =>
      cases hfound
      exact h

theorem Orderly.abandon (h : s.Orderly capacity) (ticket : Nat) :
    (s.abandon ticket).Orderly capacity := by
  rw [Session.abandon]
  split
  · next hissued =>
    obtain ⟨ha, hs⟩ := h
    have hslot : ∀ k, k ∉ s.abandoned ++ [ticket] →
        (s.queue.abandon ticket).slot k = s.queue.slot k ∧ k ∉ s.abandoned := by
      intro k hk
      rw [List.mem_append, not_or, List.mem_singleton] at hk
      refine ⟨?_, hk.1⟩
      rw [ForwardQueue.abandon, ForwardQueue.slot_setSlot, if_neg fun hsame => hk.2 hsame.1.symm]
    refine ⟨{ ha.setSlot ticket .abandoned with }, ⟨?_, ?_, ?_, ?_, ?_, hs.own, hs.once⟩⟩
    · intro k hk
      rw [ForwardQueue.abandon, ForwardQueue.slot_setSlot]
      split
      · rfl
      · next hother =>
        obtain hold | hnew := List.mem_append.mp hk
        · exact hs.abandoned k hold
        · cases List.mem_singleton.mp hnew
          exact (hother ⟨rfl, hissued⟩).elim
    · intro item hitem hlooks
      rw [(hslot _ hlooks).1]
      exact hs.pending item hitem (hslot _ hlooks).2
    · intro item outcome hcompleted hlooks hnot
      rw [(hslot _ hlooks).1]
      exact hs.ready item outcome hcompleted (hslot _ hlooks).2 hnot
    · intro k hk hlooks
      rw [(hslot _ hlooks).1]
      exact hs.received k hk (hslot _ hlooks).2
    · intro item hitem hlooks
      rw [(hslot _ hlooks).1]
      exact hs.dropped item hitem (hslot _ hlooks).2
  · exact h

/-- Settling is a look, after which nobody looks any more if nothing was there. -/
theorem settle_eq (command : DeviceCommand) (ticket : Nat) (timeout : Duration) :
    s.settle command ticket timeout =
      if s.queue.slot ticket = .waiting then s.abandon ticket else s.claim ticket := by
  cases hslot : s.queue.slot ticket with
  | waiting =>
    have hissued := ForwardQueue.issued_of_slot (q := s.queue) (k := ticket) (by simp [hslot])
    simp [Session.settle, ForwardQueue.settle, ForwardQueue.claim, hslot, Session.abandon, hissued]
  | _ => simp [Session.settle, ForwardQueue.settle, ForwardQueue.claim, hslot, Session.claim]

theorem Orderly.settle (h : s.Orderly capacity) (command : DeviceCommand) (ticket : Nat)
    (timeout : Duration) : (s.settle command ticket timeout).Orderly capacity := by
  rw [settle_eq]
  split
  · exact h.abandon ticket
  · exact h.claim ticket

theorem Orderly.client (h : s.Orderly capacity) (action : ClientAction) :
    (s.client action).Orderly capacity := by
  cases action with
  | push now command timeout =>
    rw [Session.client]
    split
    · exact h
    · exact h.push now command timeout
  | addProducer =>
    rw [Session.client]
    split
    · exact h
    · exact ⟨{ h.accounts with producers := congrArg (· + 1) h.accounts.producers },
        { h.slots with }⟩
  | dropProducer =>
    rw [Session.client]
    split
    · exact h
    · exact ⟨{ h.accounts with producers := congrArg (· - 1) h.accounts.producers },
        { h.slots with }⟩
  | claim ticket => exact h.claim ticket
  | settle command ticket timeout => exact h.settle command ticket timeout
  | abandon ticket => exact h.abandon ticket

theorem queue_pop (now timeout : Duration) (s : Session) :
    (s.pop now timeout).queue = (s.queue.pop now timeout).2 := by
  rw [pop]
  split <;> next heq => rw [heq]

/-- A look of the consumer changes nothing, or takes the oldest command. -/
theorem pop_cases (now timeout : Duration) (s : Session) :
    (∃ e, (s.queue.pop now timeout).1 = .error e ∧ s.pop now timeout = s ∧
      s.queue.Denies now timeout e) ∨
    ((s.queue.pop now timeout).1 = .ok none ∧ s.pop now timeout = s) ∨
    ∃ item rest, (s.queue.pop now timeout).1 = .ok (some item) ∧ s.queue.items = item :: rest ∧
      s.pop now timeout = { s with queue := { s.queue with items := rest },
                                   popped := s.popped ++ [item], held := s.held ++ [item] } := by
  rcases hpop : s.queue.pop now timeout with ⟨e | item?, queue⟩
  · obtain ⟨rfl, hdenied⟩ := ForwardQueue.pop_error hpop
    exact Or.inl ⟨e, rfl, by rw [Session.pop, hpop], hdenied⟩
  cases item? with
  | none =>
    obtain ⟨rfl, -⟩ := ForwardQueue.pop_none hpop
    exact Or.inr (Or.inl ⟨rfl, by rw [Session.pop, hpop]⟩)
  | some item =>
    obtain ⟨rest, hitems, rfl⟩ := ForwardQueue.pop_some hpop
    exact Or.inr (Or.inr ⟨item, rest, rfl, hitems, by rw [Session.pop, hpop]⟩)

theorem Orderly.pop (h : s.Orderly capacity) (now timeout : Duration) :
    (s.pop now timeout).Orderly capacity := by
  obtain ⟨e, -, hsame, -⟩ | ⟨-, hsame⟩ | ⟨item, rest, -, hitems, hpopped⟩ := s.pop_cases now timeout
  · rwa [hsame]
  · rwa [hsame]
  · obtain ⟨ha, hs⟩ := h
    rw [hpopped]
    refine ⟨⟨ha.capacity, ?_, ?_, ha.present, ?_, ha.producers, ha.tickets, ?_⟩,
      { hs with pending := ?_ }⟩
    · refine Nat.le_trans ?_ ha.bounded
      rw [hitems]
      exact Nat.le_succ _
    · simp only [ha.inOrder, hitems, List.append_assoc, List.cons_append, List.nil_append]
    · intro hgone
      have hempty := ha.left hgone
      rw [hitems] at hempty
      cases hempty
    · rw [← List.append_assoc]
      exact ha.taken.append_right [item]
    · intro other hother
      refine hs.pending other ?_
      rw [hitems]
      simpa [or_assoc] using hother

/-- The slots still agree when only slots that wait are filled, and those of commands that wait
or are held are left alone. -/
theorem SlotsAgree.filled (h : s.SlotsAgree) {queue : ForwardQueue} {held : List Forwarded}
    (hkeep : ∀ k, s.queue.slot k ≠ .waiting → queue.slot k = s.queue.slot k)
    (hpending : ∀ item ∈ held ++ queue.items, item.ticket ∉ s.abandoned →
      queue.slot item.ticket = .waiting) :
    ({ s with queue, held } : Session).SlotsAgree := by
  have hsame : ∀ {k v}, s.queue.slot k = v → v ≠ .waiting → queue.slot k = v := by
    rintro k v rfl hv
    exact hkeep k hv
  exact { h with
    abandoned := fun k hk => hsame (h.abandoned k hk) (by simp)
    pending := hpending
    ready := fun item outcome hcompleted hlooks hnot =>
      hsame (h.ready item outcome hcompleted hlooks hnot) (by simp)
    received := fun k hk hlooks => hsame (h.received k hk hlooks) (by simp)
    dropped := fun item hitem hlooks => hsame (h.dropped item hitem hlooks) (by simp) }

/-- What is put under the ticket of a command that is held says nothing about the others. -/
theorem Orderly.letGo (h : s.Orderly capacity) {item : Forwarded} (hheld : item ∈ s.held)
    {queue : ForwardQueue} {found : ReplySlot} (hitems : queue.items = s.queue.items)
    (hslot : ∀ k, queue.slot k =
      if item.ticket = k ∧ s.queue.slot k = .waiting then found else s.queue.slot k) :
    ({ s with queue, held := s.held.erase item } : Session).SlotsAgree := by
  obtain ⟨ha, hs⟩ := h
  refine hs.filled (fun k hk => ?_) fun other hother hlooks => ?_
  · rw [hslot, if_neg fun hsame => hk hsame.2]
  · simp only [hitems, List.mem_append] at hother
    have hnot := ha.others hheld other (List.mem_append.mpr hother)
    rw [hslot, if_neg fun hsame => hnot hsame.1]
    exact hs.pending other
      (List.mem_append.mpr (hother.imp_left List.mem_of_mem_erase)) hlooks

theorem Orderly.complete (h : s.Orderly capacity) {item : Forwarded} (hheld : item ∈ s.held)
    (outcome : CommandOutcome) : (s.complete item outcome).Orderly capacity := by
  have hslot := fun k => s.queue.slot_complete_eq item.ticket k outcome
  have hletGo := h.letGo hheld (s.queue.complete_same item.ticket outcome).1 hslot
  obtain ⟨ha, hs⟩ := h
  refine ⟨{ ha.fill item.ticket (.ready outcome) with taken := ?_ },
    { hletGo with ready := ?_, own := ?_ }⟩
  · have hperm := ha.taken_cons hheld
    rw [List.append_assoc] at hperm
    simpa [Session.complete, List.append_assoc] using hperm.trans List.perm_middle.symm
  · intro other found hcompleted hlooks hnot
    obtain hold | hnew := List.mem_append.mp hcompleted
    · exact hletGo.ready other found hold hlooks hnot
    · cases List.mem_singleton.mp hnew
      have hwaiting := hs.pending item (List.mem_append_left _ hheld) hlooks
      exact (hslot item.ticket).trans (if_pos ⟨rfl, hwaiting⟩)
  · intro ticket found hgot
    obtain ⟨other, hcompleted, hsame⟩ := hs.own ticket found hgot
    exact ⟨other, List.mem_append_left _ hcompleted, hsame⟩

theorem Orderly.giveUp (h : s.Orderly capacity) {item : Forwarded} (hheld : item ∈ s.held) :
    (s.giveUp item).Orderly capacity := by
  have hslot := fun k => s.queue.slot_discard item.ticket k
  have hletGo := h.letGo hheld (s.queue.discard_same item.ticket) hslot
  obtain ⟨ha, hs⟩ := h
  refine ⟨{ ha.fill item.ticket .closed with taken := ?_ }, { hletGo with dropped := ?_ }⟩
  · have hperm := (ha.taken_cons hheld).trans List.perm_middle.symm
    simpa [Session.giveUp, List.append_assoc] using hperm
  · intro other hother hlooks
    simp only [Session.giveUp, List.mem_append, List.mem_singleton] at hother
    obtain (hgiven | rfl) | hlost := hother
    · exact hletGo.dropped other (List.mem_append_left _ hgiven) hlooks
    · have hwaiting := hs.pending other (List.mem_append_left _ hheld) hlooks
      exact (hslot other.ticket).trans (if_pos ⟨rfl, hwaiting⟩)
    · exact hletGo.dropped other (List.mem_append_right _ hlost) hlooks

theorem Orderly.dropConsumer (h : s.Orderly capacity) (hpresent : s.queue.consumerAlive = true) :
    s.dropConsumer.Orderly capacity := by
  have hslot := s.queue.slot_dropConsumer
  obtain ⟨slots, hlength, hqueue⟩ := s.queue.dropConsumer_eq
  obtain ⟨ha, hs⟩ := h
  have hkeep : ∀ k, s.queue.slot k ≠ .waiting → s.queue.dropConsumer.slot k = s.queue.slot k := by
    intro k hk
    rw [hslot, if_neg fun hsame => hk hsame.2]
  have hfilled : ({ s with queue := s.queue.dropConsumer } : Session).SlotsAgree := by
    refine hs.filled hkeep fun item hheld hlooks => ?_
    rw [hqueue, List.append_nil] at hheld
    have hother : ¬∃ waits ∈ s.queue.items, waits.ticket = item.ticket := by
      rintro ⟨waits, hwaits, hsame⟩
      exact ha.others hheld waits (List.mem_append_right _ hwaits) hsame.symm
    rw [hslot, if_neg fun h => hother h.1]
    exact hs.pending item (List.mem_append_left _ hheld) hlooks
  refine ⟨?_, { hfilled with dropped := ?_ }⟩
  · simp only [Session.dropConsumer, hqueue]
    refine ⟨ha.capacity, Nat.zero_le _, ?_, fun h => Bool.noConfusion h, fun _ => rfl,
      ha.producers, ?_, ha.taken⟩
    · simp only [ha.inOrder, ha.present hpresent, List.append_nil, List.nil_append]
    · rw [ha.tickets, hlength]
  · intro item hitem hlooks
    simp only [Session.dropConsumer, ha.present hpresent, List.nil_append, List.mem_append]
      at hitem
    obtain hgiven | hwaits := hitem
    · exact hfilled.dropped item (List.mem_append_left _ hgiven) hlooks
    · have hwaiting := hs.pending item (List.mem_append_right _ hwaits) hlooks
      exact (hslot _).trans (if_pos ⟨⟨item, hwaits, rfl⟩, hwaiting⟩)

theorem Orderly.step (h : s.Orderly capacity) (action : QueueAction) :
    (s.step action).Orderly capacity := by
  cases action with
  | client action => exact h.client action
  | pop now timeout =>
    rw [Session.step]
    split
    · exact h.pop now timeout
    · exact h
  | complete item outcome =>
    rw [Session.step]
    split
    · next hheld => exact h.complete hheld outcome
    · exact h
  | giveUp item =>
    rw [Session.step]
    split
    · next hheld => exact h.giveUp hheld
    · exact h
  | dropConsumer =>
    rw [Session.step]
    split
    · next hpresent => exact h.dropConsumer hpresent
    · exact h

theorem Orderly.run (h : s.Orderly capacity) (actions : List QueueAction) :
    (s.run actions).Orderly capacity := by
  induction actions generalizing s with
  | nil => exact h
  | cons action rest ih => exact ih (h.step action)

end Orderly

/-! ## Nothing is lost -/

/-- What has happened in `s` has happened in `s'`, in the same order. -/
structure Precedes (s s' : Session) : Prop where
  accepted : s.accepted <+: s'.accepted
  popped : s.popped <+: s'.popped
  completed : s.completed <+: s'.completed
  givenUp : s.givenUp <+: s'.givenUp
  lost : s.lost <+: s'.lost
  received : s.received <+: s'.received
  abandoned : s.abandoned <+: s'.abandoned

namespace Precedes

theorem refl (s : Session) : s.Precedes s := by
  constructor <;> exact List.prefix_refl _

theorem trans {s s' s'' : Session} (h : s.Precedes s') (h' : s'.Precedes s'') :
    s.Precedes s'' where
  accepted := h.accepted.trans h'.accepted
  popped := h.popped.trans h'.popped
  completed := h.completed.trans h'.completed
  givenUp := h.givenUp.trans h'.givenUp
  lost := h.lost.trans h'.lost
  received := h.received.trans h'.received
  abandoned := h.abandoned.trans h'.abandoned

theorem client (s : Session) (action : ClientAction) : s.Precedes (s.client action) := by
  cases action <;>
    simp only [Session.client, Session.push, Session.claim, Session.settle, Session.abandon] <;>
    repeat' split
  all_goals constructor <;> simp

theorem step (s : Session) (action : QueueAction) : s.Precedes (s.step action) := by
  cases action with
  | client action => exact client s action
  | _ =>
    simp only [Session.step, Session.pop, Session.complete, Session.giveUp, Session.dropConsumer]
    repeat' split
    all_goals constructor <;> simp

theorem run (s : Session) (actions : List QueueAction) : s.Precedes (s.run actions) := by
  induction actions generalizing s with
  | nil => exact refl s
  | cons action rest ih => exact (step s action).trans (ih _)

end Precedes

/-- A queue of the given capacity, which holds one command at least, loses no command and no
outcome. -/
structure Lossless (capacity : Nat) (s : Session) : Prop where
  bounded : s.queue.items.length ≤ max capacity 1
  /-- Commands are taken in the order in which they were accepted. -/
  inOrder : s.accepted = s.popped ++ s.queue.items ++ s.lost
  present : s.queue.consumerAlive = true → s.lost = []
  left : s.queue.consumerAlive = false → s.queue.items = []
  /-- A push that is refused changes nothing. -/
  refused : ∀ now command timeout e, (s.queue.push now command timeout).1 = .error e →
    s.push now command timeout = s ∧
      (s.queue.consumerAlive = false ∧ e = .disconnected "orchestrator stopped" ∨
        s.queue.items.length = max capacity 1 ∧ e = .queueFull (max capacity 1) timeout ∨
        now.deadline? timeout = none ∧ e = .unmeasurable)
  /-- The consumer is told that it is alone only when no producer is left and nothing waits. -/
  alone : ∀ now timeout e, (s.queue.pop now timeout).1 = .error e →
    s.pop now timeout = s ∧
      (e = .disconnected "no producers left" ∧ s.handles = 0 ∧ s.queue.items = [] ∨
        now.deadline? timeout = none ∧ e = .unmeasurable)
  /-- Every command has a ticket of its own. -/
  tickets : (s.accepted.map (·.ticket)).Nodup
  /-- Every command that was taken is completed once, given up once, or held. -/
  taken : s.popped.Perm (s.completed.map Prod.fst ++ s.givenUp ++ s.held)
  /-- Nobody gets two outcomes. -/
  once : (s.received.map Prod.fst).Nodup
  /-- Who gets an outcome gets that of the own command. -/
  own : ∀ ticket outcome, (ticket, outcome) ∈ s.received →
    ∃ command, (⟨ticket, command⟩, outcome) ∈ s.completed
  /-- The producer of a completed command has its outcome, or gets it by looking. -/
  delivered : ∀ item outcome, (item, outcome) ∈ s.completed → item.ticket ∉ s.abandoned →
    (item.ticket, outcome) ∈ s.received ∨ (s.queue.claim item.ticket).1 = .ready outcome
  pending : ∀ item ∈ s.held ++ s.queue.items, item.ticket ∉ s.abandoned →
    (s.queue.claim item.ticket).1 = .waiting
  /-- The producer of a command that was given up or thrown away never gets an outcome, and
  finds itself disconnected. -/
  disconnected : ∀ item ∈ s.givenUp ++ s.lost, item.ticket ∉ s.received.map Prod.fst ∧
    (item.ticket ∉ s.abandoned → (s.queue.claim item.ticket).1 = .closed ∧
      ∀ timeout, (s.queue.settle item.command item.ticket timeout).1 = .error (.disconnected
        s!"orchestrator dropped {item.command.name} without an outcome"))

theorem Orderly.lossless {capacity : Nat} {s : Session} (h : s.Orderly capacity) :
    s.Lossless capacity := by
  obtain ⟨ha, hs⟩ := h
  refine ⟨?_, ha.inOrder, ha.present, ha.left, ?_, ?_, ?_, ha.taken, hs.once, ?_, ?_, ?_, ?_⟩
  · exact ha.capacity ▸ ha.bounded
  · intro now command timeout e hrefused
    rcases hpush : s.queue.push now command timeout with ⟨result, queue⟩
    rw [hpush] at hrefused
    cases hrefused
    obtain ⟨rfl, hwhy⟩ := ForwardQueue.push_error hpush
    refine ⟨by rw [Session.push, hpush], ?_⟩
    rw [← ha.capacity]
    cases hwhy with
    | gone hgone => exact Or.inl ⟨hgone, rfl⟩
    | full _ hfull => exact Or.inr (Or.inl ⟨Nat.le_antisymm ha.bounded hfull, rfl⟩)
    | endless hend => exact Or.inr (Or.inr ⟨hend, rfl⟩)
  · intro now timeout e hdenied
    obtain ⟨e', he', hsame, hwhy⟩ | ⟨hnone, -⟩ | ⟨item, rest, hsome, -⟩ := s.pop_cases now timeout
    · cases he'.symm.trans hdenied
      refine ⟨hsame, ?_⟩
      cases hwhy with
      | alone hproducers hitems => exact Or.inl ⟨rfl, ha.producers ▸ hproducers, hitems⟩
      | endless hend => exact Or.inr ⟨hend, rfl⟩
    · cases hnone.symm.trans hdenied
    · cases hsome.symm.trans hdenied
  · rw [ha.tickets]
    exact List.nodup_range
  · intro ticket outcome hgot
    obtain ⟨item, hcompleted, rfl⟩ := hs.own ticket outcome hgot
    exact ⟨item.command, hcompleted⟩
  · intro item outcome hcompleted hlooks
    rw [ForwardQueue.claim_fst]
    by_cases hgot : item.ticket ∈ s.received.map Prod.fst
    · obtain ⟨⟨ticket, found⟩, hfound, hticket⟩ := List.mem_map.mp hgot
      obtain ⟨other, hother, hsame⟩ := hs.own ticket found hfound
      rw [ha.completed_once hcompleted hother (hticket.symm.trans hsame.symm)]
      exact Or.inl (hticket ▸ hfound)
    · exact Or.inr (hs.ready item outcome hcompleted hlooks hgot)
  · intro item hitem hlooks
    rw [ForwardQueue.claim_fst]
    exact hs.pending item hitem hlooks
  · intro item hitem
    refine ⟨?_, fun hlooks => ?_⟩
    · intro hgot
      obtain ⟨⟨ticket, outcome⟩, hfound, hticket⟩ := List.mem_map.mp hgot
      obtain ⟨other, hother, hsame⟩ := hs.own ticket outcome hfound
      exact ha.apart hother hitem (hsame.trans hticket)
    · have hclosed := hs.dropped item hitem hlooks
      rw [ForwardQueue.claim_fst]
      exact ⟨hclosed, ForwardQueue.settle_of_closed hclosed item.command⟩

/-- Whatever producers and the consumer do, in any order, the queue loses nothing, and what has
happened is not undone. -/
theorem queue_loses_nothing (capacity : Nat) (actions : List QueueAction) :
    ((start capacity).run actions).Lossless capacity ∧
      ∀ more, ((start capacity).run actions).Precedes ((start capacity).run (actions ++ more)) := by
  refine ⟨((orderly_start capacity).run actions).lossless, fun more => ?_⟩
  rw [show (start capacity).run (actions ++ more) = ((start capacity).run actions).run more from
    List.foldl_append]
  exact Precedes.run _ more

end Session

end HarnessLink
